import RotatorProxy.Link.Address
import RotatorProxy.Mihomo.Clash
import RotatorProxy.Mihomo.Keys

/-! Which mappings the typed form of a Clash entry lets through to the builder of complex nodes. -/
namespace RotatorProxy.Mihomo
open Text Proxy Link Library

/-- The types that `build_meow_node` knows and the Clash reader leaves to it. -/
def builtClashTypes : List Str :=
  ["vmess".toList,"vless".toList,"trojan".toList,"hysteria".toList,"hysteria2".toList,"hy2".toList,
    "snell".toList,"anytls".toList]

/-- The port may be written in digits; the other fields only as what they are. -/
def WrittenAs (field : Str) (value : YamlValue) : Prop :=
  if field="port".toList then value=.null ∨ ∃ n, valueToU64 value=some n ∧ n < 2^16
  else if field="tls".toList then value=.null ∨ (readBool value).isSome
  else value=.null ∨ (readString value).isSome

/-- How the fields of a mapping have to be written. -/
structure TypedClash (mapping : Mapping) : Prop where
  keys : ∀ entry ∈ mapping, (readString entry.1).isSome
  fields : ∀ field ∈ clashFields, ∀ value ∈ fieldValues mapping field, WrittenAs field value
  once : ∀ field ∈ clashFields, (fieldValues mapping field).length ≤ 1
  extra : ∀ entry ∈ mapping, ∀ key, readString entry.1=some key → key ∉ clashFields → untagged entry.2

variable {mapping : Mapping} {field : Str} {α : Type}

/-! Reading one field -/

lemma readOption_isSome_iff {read : YamlValue → Option α} {value : YamlValue} :
    (readOption read value).isSome ↔ value=.null ∨ (read value).isSome := by
  cases value <;> simp [readOption]

lemma deserializeOptionalU16_isSome_iff {value : YamlValue} : (deserializeOptionalU16 value).isSome ↔
    value=.null ∨ ∃ n, valueToU64 value=some n ∧ n < 2^16 := by
  rw [deserializeOptionalU16,readOption_isSome_iff]
  cases valueToU64 value <;> simp

lemma optionalField_isSome_iff {read : YamlValue → Option (Option α)} :
    (optionalField read mapping field).isSome ↔
      (fieldValues mapping field).length ≤ 1 ∧ ∀ value ∈ fieldValues mapping field, (read value).isSome := by
  rw [optionalField]
  cases fieldValues mapping field with
  | nil => simp
  | cons value rest =>
    cases rest with
    | nil => simp
    | cons value' rest => simp

lemma extraEntry_isSome_iff {entry : YamlValue × YamlValue} : (extraEntry entry).isSome ↔
    (readString entry.1).isSome ∧ ∀ key, readString entry.1=some key → key ∉ clashFields → untagged entry.2 := by
  rw [extraEntry]
  cases readString entry.1 with
  | none => simp
  | some key =>
    by_cases hkey : key ∈ clashFields
    · simp [hkey]
    · by_cases htag : untagged entry.2 = true
      · simp [hkey,htag]
      · simp [hkey,htag]

lemma mem_fieldValues_of_get {value : YamlValue} (hget : mapping.get field=some value) :
    value ∈ fieldValues mapping field := by
  obtain ⟨entry,hfind,rfl⟩ := Option.map_eq_some_iff.mp hget
  have hkey := List.find?_some hfind
  refine List.mem_map_of_mem (List.mem_filter.mpr ⟨List.mem_of_find?_eq_some hfind,?_⟩)
  obtain ⟨k,v⟩ := entry
  cases k <;> simp_all [isKey,readString]

/-! The type, which is there as a string -/

lemma fieldValues_type {kind : Str} (hget : mapping.get "type".toList=some (.string kind))
    (honce : (fieldValues mapping "type".toList).length ≤ 1) :
    fieldValues mapping "type".toList=[.string kind] := by
  have hmem := mem_fieldValues_of_get hget
  obtain ⟨value,hvalue⟩ := List.length_eq_one_iff.mp (le_antisymm honce (List.length_pos_of_mem hmem))
  rw [hvalue,List.mem_singleton] at hmem
  rw [hvalue,hmem]

lemma optionalField_type_isSome_iff {kind : Str} (hget : mapping.get "type".toList=some (.string kind))
    {read : YamlValue → Option (Option α)} (hread : (read (.string kind)).isSome) :
    (optionalField read mapping "type".toList).isSome ↔ (fieldValues mapping "type".toList).length ≤ 1 := by
  rw [optionalField_isSome_iff]
  refine and_iff_left_of_imp fun honce value hvalue => ?_
  rw [fieldValues_type hget honce,List.mem_singleton] at hvalue
  rwa [hvalue]

lemma optionalField_type {kind : Str} {result : Option Str} (hget : mapping.get "type".toList=some (.string kind))
    (h : optionalField (fun value => (readString value).map some) mapping "type".toList=some result) :
    result=some kind := by
  have honce := (optionalField_isSome_iff.mp (Option.isSome_of_eq_some h)).1
  rw [optionalField,fieldValues_type hget honce] at h
  exact (Option.some.inj h).symm

/-! The typed form -/

lemma typedClash_iff : TypedClash mapping ↔ (∀ entry ∈ mapping, (extraEntry entry).isSome) ∧
    (optionalField deserializeOptionalU16 mapping "port".toList).isSome ∧
    (optionalField (readOption readBool) mapping "tls".toList).isSome ∧
    ∀ field ∈ clashFields, field ≠ "port".toList → field ≠ "tls".toList →
      (optionalField (readOption readString) mapping field).isSome := by
  simp only [optionalField_isSome_iff,extraEntry_isSome_iff,deserializeOptionalU16_isSome_iff,
    readOption_isSome_iff]
  constructor
  · intro h
    refine ⟨fun entry hentry => ⟨h.keys entry hentry,h.extra entry hentry⟩,
      ⟨h.once _ (by decide),fun value hvalue => ?_⟩,⟨h.once _ (by decide),fun value hvalue => ?_⟩,
      fun field hfield hport htls => ⟨h.once _ hfield,fun value hvalue => ?_⟩⟩
    · exact h.fields "port".toList (by decide) value hvalue
    · exact h.fields "tls".toList (by decide) value hvalue
    · have := h.fields field hfield value hvalue
      rwa [WrittenAs,if_neg hport,if_neg htls] at this
  · rintro ⟨hentries,hport,htls,hstrings⟩
    refine ⟨fun entry hentry => (hentries entry hentry).1,fun field hfield value hvalue => ?_,
      fun field hfield => ?_,fun entry hentry => (hentries entry hentry).2⟩
    · rw [WrittenAs]
      split_ifs with h h'
      · exact hport.2 value (h ▸ hvalue)
      · exact htls.2 value (h' ▸ hvalue)
      · exact (hstrings field hfield h h').2 value hvalue
    · by_cases h : field="port".toList
      · exact h ▸ hport.1
      · by_cases h' : field="tls".toList
        · exact h' ▸ htls.1
        · exact (hstrings field hfield h h').1

lemma clashProxyFromValue_isSome_iff {kind : Str} (hget : mapping.get "type".toList=some (.string kind)) :
    (clashProxyFromValue (.mapping mapping)).isSome ↔ TypedClash mapping := by
  have htype : (optionalField (readOption readString) mapping "type".toList).isSome ↔
      (optionalField (fun value => (readString value).map some) mapping "type".toList).isSome :=
    (optionalField_type_isSome_iff hget rfl).trans (optionalField_type_isSome_iff hget rfl).symm
  have hstrings : (∀ field ∈ clashFields, field ≠ "port".toList → field ≠ "tls".toList →
      (optionalField (readOption readString) mapping field).isSome) ↔
    ∀ field ∈ ["name".toList,"type".toList,"server".toList,"username".toList,"password".toList,
      "cipher".toList,"method".toList,"plugin".toList],
      (optionalField (readOption readString) mapping field).isSome := by simp [clashFields]
  rw [typedClash_iff,← mapM_isSome_iff,hstrings]
  simp only [List.forall_mem_cons]
  rw [htype]
  simp only [Option.isSome_iff_exists,clashProxyFromValue_eq_some_iff]
  constructor
  · rintro ⟨entry,⟨extra,hextra,-⟩,hname,hkind,hserver,hport,husername,hpassword,hcipher,hmethod,htls,hplugin⟩
    exact ⟨⟨_,hextra⟩,⟨_,hport⟩,⟨_,htls⟩,⟨_,hname⟩,⟨_,hkind⟩,⟨_,hserver⟩,⟨_,husername⟩,⟨_,hpassword⟩,
      ⟨_,hcipher⟩,⟨_,hmethod⟩,⟨_,hplugin⟩,by simp⟩
  · rintro ⟨⟨extra,hextra⟩,⟨port,hport⟩,⟨tls,htls⟩,⟨name,hname⟩,⟨result,hkind⟩,⟨server,hserver⟩,
      ⟨username,husername⟩,⟨password,hpassword⟩,⟨cipher,hcipher⟩,⟨method,hmethod⟩,⟨plugin,hplugin⟩,-⟩
    obtain rfl := optionalField_type hget hkind
    exact ⟨⟨name,kind,server,port,username,password,cipher,method,tls,plugin,extra.filterMap id⟩,
      ⟨extra,hextra,rfl⟩,hname,hkind,hserver,hport,husername,hpassword,hcipher,hmethod,htls,hplugin⟩

lemma clashProxyFromValue_kind {kind : Str} {entry : ClashProxy}
    (hget : mapping.get "type".toList=some (.string kind))
    (h : clashProxyFromValue (.mapping mapping)=some entry) : entry.kind=kind :=
  Option.some.inj (optionalField_type hget (clashProxyFromValue_eq_some_iff.mp h).2.2.1)

/-! The queue -/

variable {env : LinkExternals} {root : YamlValue}

lemma clashEntryToProxy_built {ext : Externals} {entry : ClashProxy}
    (h : toAsciiLowercase entry.kind ∈ builtClashTypes) : clashEntryToProxy ext entry = .ok .mihomo := by
  have hgroup : builtClashTypes.all (fun kind => !isClashGroupOrPolicyType kind) = true := by decide
  have honly : builtClashTypes.all isMihomoOnlyClashType = true := by decide
  have hgroup' := List.all_eq_true.mp hgroup _ h
  rw [clashEntryToProxy,if_neg (by simpa using hgroup'),if_pos (List.all_eq_true.mp honly _ h)]

lemma mem_foldl_extend {config : MihomoProxyConfig} {values : List YamlValue} (ext : Externals)
    (proxies : LoadedProxySet) :
    config ∈ (values.foldl (fun proxies value => proxies.extend (clashLoaded ext value)) proxies).mihomo ↔
      config ∈ proxies.mihomo ∨ ∃ value ∈ values, config ∈ (clashLoaded ext value).mihomo := by
  induction values generalizing proxies with
  | nil => simp
  | cons value values ih =>
    rw [List.foldl_cons,ih,LoadedProxySet.extend,List.mem_append,List.exists_mem_cons_iff,or_assoc]

/-- The mapping is among what the document adds to the queue of complex nodes. -/
def Queued (env : LinkExternals) (root : YamlValue) (mapping : Mapping) : Prop :=
  ∃ parse, parseClashYamlDocument env root=some parse ∧
    ∃ config ∈ parse.proxies.mihomo, config.value=.mapping mapping

lemma queued_iff (hmem : .mapping mapping ∈ rawClashProxyValues root) : Queued env root mapping ↔
    ∃ value ∈ rawClashProxyValues root, ∃ config ∈ (clashLoaded env.toExternals value).mihomo,
      config.value=.mapping mapping := by
  have hne : ¬((rawClashProxyValues root).length=0 ∧ clashProxyProviderUrls env root=[]) :=
    fun h => List.ne_nil_of_mem hmem (List.length_eq_zero_iff.mp h.1)
  simp only [Queued,parseClashYamlDocument,if_neg hne,Option.some.injEq,exists_eq_left',mem_foldl_extend,
    LoadedProxySet.empty,List.not_mem_nil,false_or]
  constructor
  · rintro ⟨config,⟨value,hvalue,hconfig⟩,heq⟩
    exact ⟨value,hvalue,config,hconfig,heq⟩
  · rintro ⟨value,hvalue,config,hconfig,heq⟩
    exact ⟨config,⟨value,hvalue,hconfig⟩,heq⟩

/-- What an entry adds to the queue is the entry itself. -/
lemma clashLoaded_value {ext : Externals} {value : YamlValue} {config : MihomoProxyConfig}
    (h : config ∈ (clashLoaded ext value).mihomo) : config.value=value ∧ (clashProxyFromValue value).isSome := by
  rw [clashLoaded] at h
  cases hentry : clashProxyFromValue value with
  | none => simp [hentry,LoadedProxySet.empty] at h
  | some entry =>
    rw [hentry] at h
    refine ⟨?_,rfl⟩
    cases hdecision : clashEntryToProxy ext entry with
    | error e => simp [hdecision,LoadedProxySet.empty] at h
    | ok decision =>
      cases decision with
      | native node => simp [hdecision] at h
      | skip => simp [hdecision,LoadedProxySet.empty] at h
      | mihomo =>
        simp only [hdecision,List.mem_singleton] at h
        rw [h]
        rfl

/-- A mapping that is built gets into the queue exactly when each of its fields is written as what it is. -/
theorem gate_queues_iff (env : LinkExternals) (meowEnv : MeowExternals) {root : YamlValue} {kind : Str}
    {proxy : MihomoProxyConfig} {node : MeowProxyNode × MeowAdapter}
    (htype : mapping.get "type".toList=some (.string kind)) (hkind : toAsciiLowercase kind ∈ builtClashTypes)
    (hmem : .mapping mapping ∈ rawClashProxyValues root) :
    proxy.value=.mapping mapping → buildMeowNode meowEnv proxy = .ok node →
      (Queued env root mapping ↔ TypedClash mapping) := by
  intro _ _
  rw [queued_iff hmem,← clashProxyFromValue_isSome_iff htype]
  constructor
  · rintro ⟨value,hvalue,config,hconfig,heq⟩
    obtain ⟨rfl,hsome⟩ := clashLoaded_value hconfig
    rwa [heq] at hsome
  · intro hsome
    obtain ⟨entry,hentry⟩ := Option.isSome_iff_exists.mp hsome
    have hbuilt : toAsciiLowercase entry.kind ∈ builtClashTypes := by
      rwa [clashProxyFromValue_kind htype hentry]
    refine ⟨_,hmem,clashEntryToMihomo entry (.mapping mapping),?_,rfl⟩
    rw [clashLoaded,hentry]
    simp only [clashEntryToProxy_built hbuilt,List.mem_singleton]

/-! A trojan node, the only one of its document -/

def clashTrojan (password : YamlValue) : Mapping :=
  [(.string "name".toList,.string "a".toList),(.string "type".toList,.string "trojan".toList),
    (.string "server".toList,.string "example.com".toList),(.string "port".toList,.number (.posInt 443)),
    (.string "password".toList,password)]

def clashDocument (mapping : Mapping) : YamlValue :=
  .mapping [(.string "proxies".toList,.sequence [.mapping mapping])]

theorem gate_queues_trojan :
    Queued sampleLinkExternals (clashDocument (clashTrojan (.string "123456".toList)))
      (clashTrojan (.string "123456".toList)) ↔ TypedClash (clashTrojan (.string "123456".toList)) :=
  have htype : (clashTrojan (.string "123456".toList)).get "type".toList=some (.string "trojan".toList) := rfl
  have hvalue : (sampleTrojan "123456".toList).value=.mapping (clashTrojan (.string "123456".toList)) := rfl
  gate_queues_iff sampleLinkExternals plainMeowExternals htype (by decide) List.mem_cons_self hvalue rfl

/-- `password: 123456` -/
theorem numeric_password_not_queued :
    let mapping := clashTrojan (.number (.posInt 123456))
    mapping.get "type".toList=some (.string "trojan".toList) ∧
      .mapping mapping ∈ rawClashProxyValues (clashDocument mapping) ∧
      (∃ node, buildMeowNode plainMeowExternals ⟨"a".toList,"trojan".toList,.mapping mapping⟩ = .ok node) ∧
      ¬Queued sampleLinkExternals (clashDocument mapping) mapping := by
  intro mapping
  have hmem : .mapping mapping ∈ rawClashProxyValues (clashDocument mapping) := List.mem_cons_self
  refine ⟨rfl,hmem,⟨_,rfl⟩,fun h => ?_⟩
  obtain ⟨value,hvalue,config,hconfig,-⟩ := (queued_iff hmem).mp h
  obtain rfl := List.mem_singleton.mp hvalue
  exact absurd (clashLoaded_value hconfig).2 (by decide)

end RotatorProxy.Mihomo
