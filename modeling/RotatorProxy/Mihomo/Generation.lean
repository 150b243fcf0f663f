import RotatorProxy.Library.Outcome
import RotatorProxy.Mihomo.Yaml
import RotatorProxy.Text.Split

/-! The configuration file of a generation: a local listener for each proxy, and for each listener the node that connects
to it. -/
namespace RotatorProxy.Mihomo
open Text Proxy Library

/-- `LOCAL_LISTEN_HOST` -/
def localListenHost : Str := "127.0.0.1".toList

structure GeneratedMihomoConfig where
  config : YamlValue
  nodes : List ProxyNode

def internalName (generationId index : ℕ) : Str := "rp-".toList++decimal generationId++ '-'::decimal index

/-- `entry(..).or_insert_with(..)` -/
def Mapping.orInsert (key : Str) (value : YamlValue) (mapping : Mapping) : Mapping :=
  if (mapping.get key).isSome then mapping else mapping++[(.string key,value)]

def portNumber (port : UInt16) : YamlValue := .number (.posInt port.toNat)

/-- A proxy under the name that its listener knows it by -/
def renamedProxy (generationId index : ℕ) (kind : Str) (mapping : Mapping) : Mapping :=
  (mapping.insert "name".toList (.string (internalName generationId index))).orInsert "type".toList (.string kind)

def listenerMapping (generationId index : ℕ) (port : UInt16) : Mapping :=
  ((((Mapping.insert "name".toList
    (.string ("rp-listener-".toList++decimal generationId++ '-'::decimal index)) []).insert
    "type".toList (.string "mixed".toList)).insert
    "listen".toList (.string localListenHost)).insert
    "port".toList (portNumber port)).insert
    "proxy".toList (.string (internalName generationId index))

/-- What one round of the loop adds to the three lists. -/
structure GeneratedEntry where
  proxy : Mapping
  listener : Mapping
  node : ProxyNode

def nodeLabel (proxy : MihomoProxyConfig) : Str := "mihomo:".toList++proxy.kind++ ':'::proxy.name

def generateEntry (generationId index : ℕ) (proxy : MihomoProxyConfig) (port : UInt16) : Except Str GeneratedEntry :=
  match proxy.value with
  | .mapping mapping =>
    (HostPort.new localListenHost port).map fun addr =>
      ⟨renamedProxy generationId index proxy.kind mapping,listenerMapping generationId index port,
        .localMihomo addr (nodeLabel proxy) generationId⟩
  | _ => .error ("Mihomo 代理 ".toList++proxy.name++" 不是 YAML mapping".toList)

/-- The loop of `build_generation_config` from this index on -/
def generateFrom (generationId : ℕ) : ℕ → List (MihomoProxyConfig × UInt16) → Except Str (List GeneratedEntry)
  | _,[] => .ok []
  | index,(proxy,port)::rest =>
    (generateEntry generationId index proxy port).bind fun entry =>
      (generateFrom generationId (index+1) rest).map fun entries => entry::entries

def generationRoot (logLevel : Str) (entries : List GeneratedEntry) : Mapping :=
  (((((Mapping.insert "allow-lan".toList (.bool false) []).insert
    "mode".toList (.string "rule".toList)).insert
    "log-level".toList (.string logLevel)).insert
    "proxies".toList (.sequence (entries.map fun entry => .mapping entry.proxy))).insert
    "listeners".toList (.sequence (entries.map fun entry => .mapping entry.listener))).insert
    "rules".toList (.sequence [.string "MATCH,DIRECT".toList])

def buildGenerationConfig (generationId : ℕ) (proxies : List MihomoProxyConfig) (ports : List UInt16) (logLevel : Str) :
    Except Str GeneratedMihomoConfig :=
  if proxies.length ≠ ports.length then .error "Mihomo 代理数量和监听端口数量不一致".toList
  else (generateFrom generationId 0 (proxies.zip ports)).map fun entries =>
    ⟨.mapping (generationRoot logLevel entries),entries.map GeneratedEntry.node⟩

/-! What such a file means -/

/-- The mappings in a list of the file -/
def listed (config : YamlValue) (key : Str) : List Mapping :=
  match (asMapping config).bind (fun root => root.get key) with
  | some (.sequence items) => items.filterMap asMapping
  | _ => []

/-- The proxy that a connection to a local address goes through: the listener there names it. -/
def routedProxy (config : YamlValue) (addr : HostPort) : Option Mapping :=
  ((listed config "listeners".toList).find? fun listener =>
    decide (stringField listener ["listen".toList]=some addr.host ∧ u16Field listener ["port".toList]=some addr.port)).bind
    fun listener => (stringField listener ["proxy".toList]).bind
      fun name => (listed config "proxies".toList).find? fun proxy => decide (stringField proxy ["name".toList]=some name)

/-! The parts of the file -/

section
variable {generationId index : ℕ} {port : UInt16} {kind key : Str} {mapping : Mapping}

lemma get_orInsert_ne {key' : Str} (hne : key' ≠ key) (value : YamlValue) :
    (mapping.orInsert key value).get key'=mapping.get key' := by
  unfold Mapping.orInsert
  split_ifs
  · rfl
  · unfold Mapping.get
    rw [List.find?_append]
    cases mapping.find? (fun entry => isKey key' entry.1) with
    | some entry => rfl
    | none => simp [isKey,Ne.symm hne]

lemma get_orInsert_self (value : YamlValue) :
    (mapping.orInsert key value).get key=some ((mapping.get key).getD value) := by
  unfold Mapping.orInsert
  cases hget : mapping.get key with
  | some found => simpa using hget
  | none =>
    rw [Option.isSome_none,if_neg Bool.false_ne_true,Option.getD_none]
    unfold Mapping.get at hget ⊢
    rw [List.find?_append,Option.map_eq_none_iff.mp hget]
    simp [isKey]

/-- A proxy keeps its fields but for the name, and has a type. -/
lemma renamedProxy_get (generationId index : ℕ) (kind : Str) (mapping : Mapping) (key : Str) :
    (renamedProxy generationId index kind mapping).get key=
      if key="name".toList then some (.string (internalName generationId index))
      else if key="type".toList then some ((mapping.get key).getD (.string kind)) else mapping.get key := by
  have hne : "name".toList ≠ "type".toList := by decide
  unfold renamedProxy
  split_ifs with hname htype
  · rw [hname,get_orInsert_ne hne,Mapping.get_insert_self]
  · rw [htype,get_orInsert_self,Mapping.get_insert_ne hne.symm]
  · rw [get_orInsert_ne htype,Mapping.get_insert_ne hname]

lemma listenerMapping_get (generationId index : ℕ) (port : UInt16) :
    (listenerMapping generationId index port).get "listen".toList=some (.string localListenHost) ∧
    (listenerMapping generationId index port).get "port".toList=some (portNumber port) ∧
    (listenerMapping generationId index port).get "proxy".toList=some (.string (internalName generationId index)) := by
  unfold listenerMapping
  refine ⟨?_,?_,Mapping.get_insert_self _ _ _⟩
  · rw [Mapping.get_insert_ne (by decide),Mapping.get_insert_ne (by decide),Mapping.get_insert_self]
  · rw [Mapping.get_insert_ne (by decide),Mapping.get_insert_self]

lemma decimal_injective : Function.Injective decimal := by
  intro n m h
  have hvalue := congrArg (fun digits => Nat.ofDigitChars 10 digits 0) h
  simpa only [decimal,Nat.ofDigitChars_ten_toDigits] using hvalue

lemma internalName_injective (generationId : ℕ) : Function.Injective (internalName generationId) := by
  intro index index' h
  exact decimal_injective (List.cons_injective (List.append_cancel_left h))

/-! The fields that the file is read by -/

lemma stringField_of_get {mapping : Mapping} {key text : Str} (h : mapping.get key=some (.string text)) :
    stringField mapping [key]=some text := by
  have hread : valueToString (.string text)=some text := rfl
  exact findField_eq h hread []

lemma listener_host (generationId index : ℕ) (port : UInt16) :
    stringField (listenerMapping generationId index port) ["listen".toList]=some localListenHost :=
  stringField_of_get (listenerMapping_get generationId index port).1

lemma listener_port (generationId index : ℕ) (port : UInt16) :
    u16Field (listenerMapping generationId index port) ["port".toList]=some port := by
  have hread : (valueToU64 (portNumber port)).filter (fun n => n < 2^16)=some port.toNat :=
    Option.filter_eq_some_iff.mpr ⟨rfl,decide_eq_true port.toNat_lt⟩
  unfold u16Field boundedField
  rw [findField_eq (listenerMapping_get generationId index port).2.1 hread,Option.map_some,UInt16.ofNat_toNat]

lemma listener_proxy (generationId index : ℕ) (port : UInt16) :
    stringField (listenerMapping generationId index port) ["proxy".toList]=some (internalName generationId index) :=
  stringField_of_get (listenerMapping_get generationId index port).2.2

lemma proxy_name (generationId index : ℕ) (kind : Str) (mapping : Mapping) :
    stringField (renamedProxy generationId index kind mapping) ["name".toList]=some (internalName generationId index) :=
  stringField_of_get (by rw [renamedProxy_get,if_pos rfl])

end

/-! The entries of the file -/

/-- What the loop adds for one proxy. -/
lemma generateEntry_ok {generationId index : ℕ} {proxy : MihomoProxyConfig} {port : UInt16} {entry : GeneratedEntry} :
    generateEntry generationId index proxy port = .ok entry ↔ ∃ mapping, proxy.value = .mapping mapping ∧
      entry=⟨renamedProxy generationId index proxy.kind mapping,listenerMapping generationId index port,
        .localMihomo ⟨localListenHost,port⟩ (nodeLabel proxy) generationId⟩ := by
  have haddr : HostPort.new localListenHost port = .ok ⟨localListenHost,port⟩ := rfl
  unfold generateEntry
  rw [haddr]
  split
  · next mapping hvalue =>
    rw [hvalue]
    constructor
    · intro h
      exact ⟨mapping,rfl,(Except.ok.inj h).symm⟩
    · rintro ⟨_,⟨⟩,rfl⟩
      rfl
  · next hvalue =>
    refine iff_of_false nofun ?_
    rintro ⟨mapping,hmapping,-⟩
    exact hvalue mapping hmapping

lemma generateFrom_ok {generationId index : ℕ} {pairs : List (MihomoProxyConfig × UInt16)} {entries : List GeneratedEntry}
    (h : generateFrom generationId index pairs = .ok entries) :
    entries.length=pairs.length ∧ ∀ (i : ℕ) proxy port, pairs[i]? = some (proxy,port) →
      ∃ entry, entries[i]? = some entry ∧ generateEntry generationId (index+i) proxy port = .ok entry := by
  induction pairs generalizing index entries with
  | nil =>
    cases h
    exact ⟨rfl,fun i proxy port hi => by cases hi⟩
  | cons pair pairs ih =>
    obtain ⟨proxy,port⟩ := pair
    obtain ⟨entry,hentry,h⟩ := bind_eq_ok.mp h
    obtain ⟨rest,hrest,rfl⟩ := map_eq_ok.mp h
    obtain ⟨hlength,hget⟩ := ih hrest
    refine ⟨congrArg Nat.succ hlength,fun i proxy' port' hi => ?_⟩
    cases i with
    | zero =>
      cases hi
      exact ⟨entry,rfl,hentry⟩
    | succ i =>
      obtain ⟨entry',hentry',hok⟩ := hget i proxy' port' hi
      exact ⟨entry',hentry',by rw [← Nat.add_assoc,Nat.add_right_comm] ; exact hok⟩

lemma generateFrom_isOk {generationId index : ℕ} {pairs : List (MihomoProxyConfig × UInt16)}
    (h : ∀ pair ∈ pairs, ∃ mapping, pair.1.value = .mapping mapping) :
    ∃ entries, generateFrom generationId index pairs = .ok entries := by
  induction pairs generalizing index with
  | nil => exact ⟨[],rfl⟩
  | cons pair pairs ih =>
    obtain ⟨mapping,hmapping⟩ := h pair List.mem_cons_self
    obtain ⟨entries,hentries⟩ : ∃ entries, generateFrom generationId (index+1) pairs = .ok entries :=
      ih fun p hp => h p (List.mem_cons_of_mem _ hp)
    exact ⟨_,bind_eq_ok.mpr ⟨_,generateEntry_ok.mpr ⟨mapping,hmapping,rfl⟩,map_eq_ok.mpr ⟨entries,hentries,rfl⟩⟩⟩

section
variable {logLevel : Str} {entries : List GeneratedEntry}

lemma listed_proxies : listed (.mapping (generationRoot logLevel entries)) "proxies".toList=
    entries.map GeneratedEntry.proxy := by
  unfold listed generationRoot
  simp only [asMapping,Option.bind_some]
  rw [Mapping.get_insert_ne (by decide),Mapping.get_insert_ne (by decide),Mapping.get_insert_self]
  simp [List.filterMap_map,asMapping,Function.comp_def]

lemma listed_listeners : listed (.mapping (generationRoot logLevel entries)) "listeners".toList=
    entries.map GeneratedEntry.listener := by
  unfold listed generationRoot
  simp only [asMapping,Option.bind_some]
  rw [Mapping.get_insert_ne (by decide),Mapping.get_insert_self]
  simp [List.filterMap_map,asMapping,Function.comp_def]

end

/-- The only element that is asked for is found. -/
lemma find?_of_only {α : Type} {l : List α} {p : α → Bool} {i : ℕ} {a : α} (hget : l[i]? = some a) (ha : p a = true)
    (honly : ∀ j b, l[j]? = some b → p b = true → j=i) : l.find? p=some a := by
  obtain ⟨hi,rfl⟩ := List.getElem?_eq_some_iff.mp hget
  refine List.find?_eq_some_iff_getElem.mpr ⟨ha,i,hi,rfl,fun j hj => ?_⟩
  rw [Bool.not_eq_true',← Bool.not_eq_true]
  intro hp
  exact hj.ne (honly j _ (List.getElem?_eq_getElem _) hp)

/-! A connection through the file -/

section
variable {generationId : ℕ} {proxies : List MihomoProxyConfig} {ports : List UInt16} {logLevel : Str}
  {generated : GeneratedMihomoConfig} {entries : List GeneratedEntry}

lemma buildGenerationConfig_ok : buildGenerationConfig generationId proxies ports logLevel = .ok generated ↔
    proxies.length=ports.length ∧ ∃ entries, generateFrom generationId 0 (proxies.zip ports) = .ok entries ∧
      generated=⟨.mapping (generationRoot logLevel entries),entries.map GeneratedEntry.node⟩ := by
  unfold buildGenerationConfig
  split_ifs with hlength
  · exact iff_of_false nofun fun h => hlength h.1
  · rw [map_eq_ok,and_iff_right (not_not.mp hlength)]
    exact exists_congr fun entries => and_congr_right fun _ => eq_comm

/-- What the loop has added for the proxy at some place. -/
lemma generateFrom_entry (hentries : generateFrom generationId 0 (proxies.zip ports) = .ok entries) {i : ℕ}
    {proxy : MihomoProxyConfig} {port : UInt16} (hproxy : proxies[i]? = some proxy) (hport : ports[i]? = some port) :
    ∃ mapping, proxy.value = .mapping mapping ∧ entries[i]? =
      some ⟨renamedProxy generationId i proxy.kind mapping,listenerMapping generationId i port,
        .localMihomo ⟨localListenHost,port⟩ (nodeLabel proxy) generationId⟩ := by
  obtain ⟨entry,hentry,hok⟩ := (generateFrom_ok hentries).2 i proxy port (List.getElem?_zip_eq_some.mpr ⟨hproxy,hport⟩)
  rw [Nat.zero_add] at hok
  obtain ⟨mapping,hmapping,rfl⟩ := generateEntry_ok.mp hok
  exact ⟨mapping,hmapping,hentry⟩

/-- An entry is that of the proxy and the port at its place. -/
lemma generateFrom_source (hentries : generateFrom generationId 0 (proxies.zip ports) = .ok entries) {i : ℕ}
    {entry : GeneratedEntry} (hentry : entries[i]? = some entry) : ∃ proxy port mapping, proxies[i]? = some proxy ∧
      ports[i]? = some port ∧ proxy.value = .mapping mapping ∧
      entry=⟨renamedProxy generationId i proxy.kind mapping,listenerMapping generationId i port,
        .localMihomo ⟨localListenHost,port⟩ (nodeLabel proxy) generationId⟩ := by
  obtain ⟨hi,-⟩ := List.getElem?_eq_some_iff.mp hentry
  rw [(generateFrom_ok hentries).1,List.length_zip] at hi
  have hproxy : proxies[i]? = some proxies[i] := List.getElem?_eq_getElem (by omega)
  have hport : ports[i]? = some ports[i] := List.getElem?_eq_getElem (by omega)
  obtain ⟨mapping,hmapping,hfound⟩ := generateFrom_entry hentries hproxy hport
  exact ⟨_,_,mapping,hproxy,hport,hmapping,Option.some.inj (hentry.symm.trans hfound)⟩

/-- The listener at a port leads to the proxy at the same place. -/
lemma routedProxy_entry (hports : ports.Nodup) (hentries : generateFrom generationId 0 (proxies.zip ports) = .ok entries)
    {i : ℕ} {proxy : MihomoProxyConfig} {port : UInt16} (hproxy : proxies[i]? = some proxy) (hport : ports[i]? = some port) :
    ∃ mapping, proxy.value = .mapping mapping ∧
      routedProxy (.mapping (generationRoot logLevel entries)) ⟨localListenHost,port⟩=
        some (renamedProxy generationId i proxy.kind mapping) := by
  obtain ⟨mapping,hmapping,hentry⟩ := generateFrom_entry hentries hproxy hport
  refine ⟨mapping,hmapping,?_⟩
  have hlistener : (entries.map GeneratedEntry.listener).find? (fun listener =>
      decide (stringField listener ["listen".toList]=some localListenHost ∧ u16Field listener ["port".toList]=some port))=
        some (listenerMapping generationId i port) := by
    refine find?_of_only (by rw [List.getElem?_map,hentry]; rfl)
      (decide_eq_true ⟨listener_host generationId i port,listener_port generationId i port⟩) fun j listener hj hlistener => ?_
    rw [List.getElem?_map] at hj
    obtain ⟨entry,hother,rfl⟩ := Option.map_eq_some_iff.mp hj
    obtain ⟨_,other,_,-,hotherPort,-,rfl⟩ := generateFrom_source hentries hother
    have hsame := (of_decide_eq_true hlistener).2
    rw [listener_port] at hsame
    cases hsame
    obtain ⟨hj,-⟩ := List.getElem?_eq_some_iff.mp hotherPort
    exact (List.getElem?_inj hj hports).mp (hotherPort.trans hport.symm)
  have hproxyFound : (entries.map GeneratedEntry.proxy).find? (fun proxy =>
      decide (stringField proxy ["name".toList]=some (internalName generationId i)))=
        some (renamedProxy generationId i proxy.kind mapping) := by
    refine find?_of_only (by rw [List.getElem?_map,hentry]; rfl)
      (decide_eq_true (proxy_name generationId i _ _)) fun j other hj hother => ?_
    rw [List.getElem?_map] at hj
    obtain ⟨entry,hentry',rfl⟩ := Option.map_eq_some_iff.mp hj
    obtain ⟨_,_,_,-,-,-,rfl⟩ := generateFrom_source hentries hentry'
    have hsame := of_decide_eq_true hother
    rw [proxy_name] at hsame
    exact internalName_injective generationId (Option.some.inj hsame)
  unfold routedProxy
  rw [listed_listeners,listed_proxies,hlistener,Option.bind_some,listener_proxy,Option.bind_some,hproxyFound]

/-- A connection to the node goes through this proxy, which has its fields but for the name, and a type. -/
def LeadsTo (generationId : ℕ) (config : YamlValue) (node : ProxyNode) (proxy : MihomoProxyConfig) : Prop :=
  ∃ (addr : HostPort) (mapping routed : Mapping), node = .localMihomo addr (nodeLabel proxy) generationId ∧
    proxy.value = .mapping mapping ∧
    routedProxy config addr=some routed ∧ ∀ key, key ≠ "name".toList → routed.get key=
      if key="type".toList then some ((mapping.get key).getD (.string proxy.kind)) else mapping.get key

lemma renamedProxy_leads {config : YamlValue} {proxy : MihomoProxyConfig} {port : UInt16} {index : ℕ} {mapping : Mapping}
    (hmapping : proxy.value = .mapping mapping)
    (hrouted : routedProxy config ⟨localListenHost,port⟩=some (renamedProxy generationId index proxy.kind mapping)) :
    LeadsTo generationId config (.localMihomo ⟨localListenHost,port⟩ (nodeLabel proxy) generationId) proxy :=
  ⟨_,mapping,_,rfl,hmapping,hrouted,fun key hname => by rw [renamedProxy_get,if_neg hname]⟩

lemma display_of_notMem {addr : HostPort} (h : ':' ∉ addr.host) : addr.display=addr.host++ ':'::decimal addr.port.toNat :=
  if_neg fun hcolon => h hcolon.1

lemma localHost_display (port : UInt16) :
    (HostPort.mk localListenHost port).display=localListenHost++ ':'::decimal port.toNat := by
  have hno : ':' ∉ localListenHost := by decide
  rw [display_of_notMem hno]

lemma localMihomo_key (addr : HostPort) (label : Str) (generationId : ℕ) :
    (ProxyNode.localMihomo addr label generationId).key=
      "mihomo://".toList++(decimal generationId++ '/'::(label++ '@'::addr.display)) := by
  have hassoc : ∀ scheme generation rest : Str, scheme++generation++ '/'::label++ '@'::rest=
      scheme++(generation++ '/'::(label++ '@'::rest)) := by simp
  exact hassoc _ _ _

/-- The generation and the port of a local node can be read off its key. -/
lemma localMihomo_key_inj {generationId generationId' : ℕ} {label label' : Str} {port port' : UInt16}
    (h : (ProxyNode.localMihomo ⟨localListenHost,port⟩ label generationId).key=
      (ProxyNode.localMihomo ⟨localListenHost,port'⟩ label' generationId').key) :
    generationId=generationId' ∧ port=port' := by
  rw [localMihomo_key,localMihomo_key] at h
  obtain ⟨hgeneration,hrest⟩ := append_sep_inj (notMem_decimal (by decide) _) (notMem_decimal (by decide) _)
    (List.append_cancel_left h)
  have hsplit : ∀ (label : Str) (port : UInt16), label++ '@'::(HostPort.mk localListenHost port).display=
      (label++ '@'::localListenHost)++ ':'::decimal port.toNat := by
    intro label port
    rw [localHost_display,List.append_assoc,List.cons_append]
  rw [hsplit,hsplit] at hrest
  obtain ⟨-,hport⟩ := append_lastSep_inj (notMem_decimal (by decide) _) (notMem_decimal (by decide) _) hrest
  exact ⟨decimal_injective hgeneration,decimal_toNat_injective hport⟩

lemma nodes_lead (hports : ports.Nodup)
    (h : buildGenerationConfig generationId proxies ports logLevel = .ok generated) :
    List.Forall₂ (LeadsTo generationId generated.config) generated.nodes proxies := by
  obtain ⟨hlength,entries,hentries,rfl⟩ := buildGenerationConfig_ok.mp h
  have hcount := (generateFrom_ok hentries).1
  rw [List.length_zip,hlength,Nat.min_self] at hcount
  refine List.forall₂_iff_get.mpr ⟨by rw [List.length_map,hcount,hlength],fun i hi hi' => ?_⟩
  have hproxy : proxies[i]? = some proxies[i] := List.getElem?_eq_getElem hi'
  have hport : ports[i]? = some ports[i] := List.getElem?_eq_getElem (by omega)
  obtain ⟨mapping,hmapping,hentry⟩ := generateFrom_entry hentries hproxy hport
  obtain ⟨mapping',hmapping',hrouted⟩ := routedProxy_entry hports hentries hproxy hport
  obtain ⟨hi'',hentry⟩ := List.getElem?_eq_some_iff.mp hentry
  simp only [List.get_eq_getElem,List.getElem_map,hentry]
  exact renamedProxy_leads hmapping' hrouted

/-- A node of a generation, at this port. -/
def IsNodeAt (generationId : ℕ) (port : UInt16) (node : ProxyNode) : Prop :=
  ∃ label, node = .localMihomo ⟨localListenHost,port⟩ label generationId

lemma nodes_at {index : ℕ} {pairs : List (MihomoProxyConfig × UInt16)}
    (h : generateFrom generationId index pairs = .ok entries) :
    List.Forall₂ (IsNodeAt generationId) (pairs.map Prod.snd) (entries.map GeneratedEntry.node) := by
  induction pairs generalizing index entries with
  | nil =>
    cases h
    exact .nil
  | cons pair pairs ih =>
    obtain ⟨entry,hentry,h⟩ := bind_eq_ok.mp h
    obtain ⟨rest,hrest,rfl⟩ := map_eq_ok.mp h
    obtain ⟨mapping,-,rfl⟩ := generateEntry_ok.mp hentry
    exact .cons ⟨_,rfl⟩ (ih hrest)

lemma generated_nodes_at (h : buildGenerationConfig generationId proxies ports logLevel = .ok generated) :
    List.Forall₂ (IsNodeAt generationId) ports generated.nodes := by
  obtain ⟨hlength,entries,hentries,rfl⟩ := buildGenerationConfig_ok.mp h
  have hnodes := nodes_at hentries
  rwa [List.map_snd_zip hlength.ge] at hnodes

/-- Different ports, different keys. -/
lemma keys_nodup {nodes : List ProxyNode} (hports : ports.Nodup) (h : List.Forall₂ (IsNodeAt generationId) ports nodes) :
    (nodes.map ProxyNode.key).Nodup := by
  have hkeys : List.Forall₂ (fun port key => ∃ node, IsNodeAt generationId port node ∧ node.key=key) ports
      (nodes.map ProxyNode.key) := List.forall₂_map_right_iff.mpr (h.imp fun _ node hnode => ⟨node,hnode,rfl⟩)
  refine nodup_of_forall₂ ?_ hkeys hports
  rintro port port' _ ⟨_,⟨label,rfl⟩,hkey⟩ ⟨_,⟨label',rfl⟩,hkey'⟩
  exact (localMihomo_key_inj (hkey.trans hkey'.symm)).2

/-- A file is generated for mappings with a port each, and then every node leads to the proxy at its place, and no two nodes
have the same key. -/
theorem generation_leads (hports : ports.Nodup) :
    ((∃ generated, buildGenerationConfig generationId proxies ports logLevel = .ok generated) ↔
      proxies.length=ports.length ∧ ∀ proxy ∈ proxies, ∃ mapping, proxy.value = .mapping mapping) ∧
    ∀ generated, buildGenerationConfig generationId proxies ports logLevel = .ok generated →
      List.Forall₂ (LeadsTo generationId generated.config) generated.nodes proxies ∧
        (generated.nodes.map ProxyNode.key).Nodup := by
  refine ⟨⟨?_,?_⟩,fun generated h => ⟨nodes_lead hports h,keys_nodup hports (generated_nodes_at h)⟩⟩
  · rintro ⟨generated,h⟩
    refine ⟨(buildGenerationConfig_ok.mp h).1,fun proxy hproxy => ?_⟩
    obtain ⟨_,-,_,mapping,_,-,hmapping,-⟩ := exists_of_forall₂ (nodes_lead hports h) hproxy
    exact ⟨mapping,hmapping⟩
  · rintro ⟨hlength,hmappings⟩
    obtain ⟨entries,hentries⟩ : ∃ entries, generateFrom generationId 0 (proxies.zip ports) = .ok entries :=
      generateFrom_isOk fun pair hpair => hmappings pair.1 (List.of_mem_zip hpair).1
    exact ⟨_,buildGenerationConfig_ok.mpr ⟨hlength,entries,hentries,rfl⟩⟩

end

/-! Two proxies with a file -/

def sampleProxy (name : Str) : MihomoProxyConfig := ⟨name,"vmess".toList,.mapping []⟩

theorem generation_leads_sample : ∃ generated,
    buildGenerationConfig 7 [sampleProxy ['a'],sampleProxy ['b']] [21001,21002] "warning".toList = .ok generated ∧
      List.Forall₂ (LeadsTo 7 generated.config) generated.nodes [sampleProxy ['a'],sampleProxy ['b']] := by
  have hports : ([21001,21002] : List UInt16).Nodup := by decide
  obtain ⟨generated,hgenerated⟩ : ∃ generated,
      buildGenerationConfig 7 [sampleProxy ['a'],sampleProxy ['b']] [21001,21002] "warning".toList = .ok generated :=
    (generation_leads hports).1.mpr ⟨rfl,by simp [sampleProxy]⟩
  exact ⟨generated,hgenerated,((generation_leads hports).2 generated hgenerated).1⟩

end RotatorProxy.Mihomo
