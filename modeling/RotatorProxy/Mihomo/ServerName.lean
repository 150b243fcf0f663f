import RotatorProxy.Mihomo.Clash
import RotatorProxy.Mihomo.Keys

/-! The TLS server name of a node, and what an empty one in its source does to it. -/
namespace RotatorProxy.Mihomo
open Text Proxy Link Library

/-! The name that a node dials with -/

def chainName (chain : TransportChain) : Option Str :=
  chain.findSome? (fun layer =>
    match layer with
    | .tls config => some config.serverName
    | _ => none)

/-- The choice of `connect_hysteria` -/
def HysteriaOptions.serverName (options : HysteriaOptions) : Str :=
  (options.sni.filter (fun value => trim value ≠ [])).getD options.server

/-- The adapters of Hysteria2 and AnyTLS are other crates, which choose for themselves. -/
def MeowAdapter.serverName : MeowAdapter → Option Str
  | vmess _ _ _ _ _ transport => chainName transport
  | vless _ _ _ _ _ transport => chainName transport
  | trojanTransport _ _ _ transport => chainName transport
  | trojan _ _ _ sni _ _ => some sni
  | hysteria options => some options.serverName
  | _ => none

def tlsName (env : MeowExternals) : ProxyNode → Option Str
  | .https addr _ sni _ => some (sni.getD addr.host)
  | .meow node => (adapterOf env node.source).bind MeowAdapter.serverName
  | _ => none

/-- With a name that is not valid no connection is made. -/
def presentedName (env : MeowExternals) (node : ProxyNode) : Option Str :=
  (tlsName env node).filter env.isServerName

def nodeHost (env : MeowExternals) : ProxyNode → Option Str
  | .https addr _ _ _ => some addr.host
  | .meow node => (adapterOf env node.source).map MeowAdapter.server
  | _ => none

/-! A mapping with a name and the same without -/

def nameFields : List Str := ["sni".toList,"servername".toList]

/-- `mapping'` has one entry more than `mapping`: one of the two names, of which `mapping` has none. -/
structure Names (field value : Str) (mapping mapping' : Mapping) : Prop where
  known : field ∈ nameFields
  absent : ∀ entry ∈ mapping, ∀ key ∈ nameFields, readString entry.1 ≠ some key
  entries : ∃ before after, mapping=before++after ∧ mapping'=before++(.string field,.string value)::after

lemma readString_of_isKey {key : Str} {value : YamlValue} (h : isKey key value = true) :
    readString value=some key := by
  cases value <;> simp_all [isKey,readString]

namespace Names
variable {field value key : Str} {mapping mapping' : Mapping} {keys : List Str}

lemma isKey_field (h : key ≠ field) : isKey key (.string field)=false := by
  simp [isKey,Ne.symm h]

lemma get_ne (h : Names field value mapping mapping') (hne : key ≠ field) : mapping'.get key=mapping.get key := by
  obtain ⟨before,after,rfl,rfl⟩ := h.entries
  simp only [Mapping.get,List.find?_append,List.find?_cons,isKey_field hne]

lemma get_none (h : Names field value mapping mapping') (hkey : key ∈ nameFields) : mapping.get key=none := by
  rw [Mapping.get,Option.map_eq_none_iff,List.find?_eq_none]
  exact fun entry hentry hkey' => h.absent entry hentry key hkey (readString_of_isKey hkey')

lemma get_field (h : Names field value mapping mapping') : mapping'.get field=some (.string value) := by
  have hnone := h.get_none h.known
  obtain ⟨before,after,rfl,rfl⟩ := h.entries
  rw [Mapping.get,List.find?_append,Option.map_eq_none_iff,Option.or_eq_none_iff] at hnone
  rw [Mapping.get,List.find?_append,hnone.1,List.find?_cons_of_pos (by simp [isKey])]
  rfl

/-! Reading the name in either order -/

lemma stringField_none (h : Names field value mapping mapping') (hkeys : ∀ key ∈ keys, key ∈ nameFields) :
    stringField mapping keys=none :=
  List.findSome?_eq_none_iff.mpr fun key hkey => by rw [h.get_none (hkeys key hkey),Option.bind_none]

lemma stringField_some (h : Names field value mapping mapping') (hkeys : ∀ key ∈ keys, key ∈ nameFields)
    (hfield : field ∈ keys) : stringField mapping' keys=some value := by
  induction keys with
  | nil => cases hfield
  | cons key keys ih =>
    by_cases hkey : key=field
    · subst hkey
      exact Mihomo.findField_eq h.get_field (show valueToString (.string value)=some value from rfl) keys
    · have hnone : mapping'.get key=none := (h.get_ne hkey).trans (h.get_none (hkeys key List.mem_cons_self))
      rw [stringField,findField_skip hnone]
      exact ih (fun key hkey => hkeys key (List.mem_cons_of_mem _ hkey))
        (List.mem_of_ne_of_mem (Ne.symm hkey) hfield)

/-! All that is read otherwise is the same -/

lemma get_eq (h : Names field value mapping mapping') (hkey : (decide (key ∉ nameFields)) = true) :
    mapping'.get key=mapping.get key :=
  h.get_ne fun heq => of_decide_eq_true hkey (heq ▸ h.known)

lemma findField_eq {α : Type} {read : YamlValue → Option α} (h : Names field value mapping mapping')
    (hkeys : keys.all (fun key => decide (key ∉ nameFields)) = true) :
    findField read mapping' keys=findField read mapping keys :=
  findSome?_congr fun key hkey => by rw [h.get_eq (List.all_eq_true.mp hkeys key hkey)]

section
variable (h : Names field value mapping mapping')
include h

lemma stringField_eq (hkeys : keys.all (fun key => decide (key ∉ nameFields)) = true) :
    stringField mapping' keys=stringField mapping keys := h.findField_eq hkeys

lemma stringListField_eq (hkeys : keys.all (fun key => decide (key ∉ nameFields)) = true) :
    stringListField mapping' keys=stringListField mapping keys := h.findField_eq hkeys

lemma boolField_eq (hkeys : keys.all (fun key => decide (key ∉ nameFields)) = true) :
    boolField mapping' keys=boolField mapping keys := h.findField_eq hkeys

lemma u16Field_eq (hkeys : keys.all (fun key => decide (key ∉ nameFields)) = true) :
    u16Field mapping' keys=u16Field mapping keys := congrArg _ (h.findField_eq hkeys)

lemma mappingField_eq (hkey : decide (key ∉ nameFields) = true) :
    mappingField mapping' key=mappingField mapping key := congrArg (Option.bind · asMapping) (h.get_eq hkey)

lemma hyBandwidthBps_eq (hkeys : keys.all (fun key => decide (key ∉ nameFields)) = true) :
    hyBandwidthBps mapping' keys=hyBandwidthBps mapping keys :=
  findSome?_congr fun key hkey => by rw [h.get_eq (List.all_eq_true.mp hkeys key hkey)]

lemma skipCertVerify_eq : skipCertVerify mapping'=skipCertVerify mapping := by
  rw [skipCertVerify,skipCertVerify,h.boolField_eq rfl]

lemma parseRealityConfig_eq (env : TransportExternals) :
    parseRealityConfig env mapping'=parseRealityConfig env mapping := by
  rw [parseRealityConfig,parseRealityConfig,h.mappingField_eq rfl]

lemma transportNetwork_eq : transportNetwork mapping'=transportNetwork mapping := by
  rw [transportNetwork,transportNetwork,h.stringField_eq rfl]

lemma transportLayer_eq (env : TransportExternals) (server : Str) :
    transportLayer env mapping' server=transportLayer env mapping server := by
  have hws : wsConfig env mapping' server=wsConfig env mapping server := by
    rw [wsConfig,wsConfig,h.mappingField_eq rfl,h.stringField_eq rfl]
  have hgrpc : grpcConfig mapping' server=grpcConfig mapping server := by
    rw [grpcConfig,grpcConfig,h.mappingField_eq rfl]
  have hh2 : h2Config mapping' server=h2Config mapping server := by
    rw [h2Config,h2Config,h.mappingField_eq rfl,h.stringField_eq rfl]
  have hupgrade : httpUpgradeConfig mapping' server=httpUpgradeConfig mapping server := by
    rw [httpUpgradeConfig,httpUpgradeConfig,h.mappingField_eq rfl]
  rw [transportLayer,transportLayer,h.transportNetwork_eq,hws,hgrpc,hh2,hupgrade]

lemma requiredString_eq (name : Str) (hkeys : keys.all (fun key => decide (key ∉ nameFields)) = true) :
    requiredString mapping' keys name=requiredString mapping keys name := by
  rw [requiredString,requiredString,h.stringField_eq hkeys]

lemma requiredPort_eq (name : Str) (hkeys : keys.all (fun key => decide (key ∉ nameFields)) = true) :
    requiredPort mapping' keys name=requiredPort mapping keys name := by
  rw [requiredPort,requiredPort,h.u16Field_eq hkeys]

lemma udpField_eq : udpField mapping'=udpField mapping := by
  rw [udpField,udpField,h.boolField_eq rfl]

lemma pushTransportLayers_eq (env : TransportExternals) (chain : TransportChain) (server : Str) :
    pushTransportLayers env chain mapping' server=pushTransportLayers env chain mapping server := by
  rw [pushTransportLayers,pushTransportLayers,h.transportLayer_eq]

lemma pushTlsLayer_eq (env : TransportExternals) (chain : TransportChain) (serverName : Str)
    (reality : Option RealityConfig) :
    pushTlsLayer env chain mapping' serverName reality=pushTlsLayer env chain mapping serverName reality := by
  simp (disch := decide) only [pushTlsLayer,h.skipCertVerify_eq,h.stringField_eq,h.stringListField_eq]

end

end Names

/-! The name in a chain of layers -/

/-- Whether `build_transport_chain` puts a TLS layer first -/
def layersTls (env : TransportExternals) (mapping : Mapping) : Bool :=
  (boolField mapping ["tls".toList]).getD false ||
    (match parseRealityConfig env mapping with
      | .ok reality => reality.isSome
      | .error _ => false)

section
variable {tenv : TransportExternals} {mapping : Mapping} {server name : Str} {chain chain' : TransportChain}

lemma transportLayer_ne_tls {layer : TransportLayer} {config : TlsConfig}
    (h : transportLayer tenv mapping server = .ok (some layer)) : layer ≠ .tls config := by
  unfold transportLayer at h
  dsimp only at h
  split_ifs at h <;> cases h <;> simp

lemma pushTransportLayers_name (h : pushTransportLayers tenv chain mapping server = .ok chain') :
    chainName chain'=chainName chain := by
  obtain ⟨layer,hlayer,rfl⟩ := pushTransportLayers_ok h
  rw [chainName,chainName,List.findSome?_append]
  cases layer with
  | none => exact Option.or_none
  | some layer =>
    cases layer with
    | tls config => exact absurd rfl (transportLayer_ne_tls hlayer)
    | ws config | grpc config | h2 config | httpUpgrade config => exact Option.or_none

lemma pushTlsLayer_ok {reality : Option RealityConfig} (h : pushTlsLayer tenv [] mapping name reality = .ok chain) :
    chainName chain=some name := by
  unfold pushTlsLayer at h
  dsimp only at h
  split_ifs at h
  cases h
  rfl

lemma buildTransportChain_name (h : buildTransportChain tenv mapping server = .ok chain) :
    if layersTls tenv mapping then ∃ name, optionalTlsServerNameOrFallback tenv
      (stringField mapping ["servername".toList,"sni".toList]) server = .ok name ∧ chainName chain=some name
    else chainName chain=none := by
  obtain ⟨reality,hreality,h⟩ := bind_eq_ok.mp h
  rw [layersTls,hreality]
  dsimp only at h ⊢
  split_ifs at h ⊢
  · obtain ⟨name,hname,h⟩ := bind_eq_ok.mp h
    obtain ⟨first,hfirst,hpush⟩ := bind_eq_ok.mp h
    exact ⟨name,hname,(pushTransportLayers_name hpush).trans (pushTlsLayer_ok hfirst)⟩
  · obtain ⟨first,hfirst,hpush⟩ := bind_eq_ok.mp h
    cases hfirst
    exact pushTransportLayers_name hpush

end

/-! One builder, on both mappings -/

/-- What a name is to do: one that is blank nothing, one that is valid is taken as it is. -/
def NameReaches (env : MeowExternals) (value : Str) (build build' : MeowBuild) : Prop :=
  ∀ node adapter, build = .ok (node,adapter) → adapter.serverName ≠ none →
    (trim value=[] → adapter.serverName=some adapter.server ∧
      ∃ node' adapter', build' = .ok (node',adapter') ∧ adapter'.serverName=some adapter.server) ∧
    (env.isServerName value → trim value=value → value ≠ [] → ∀ node' adapter',
      build' = .ok (node',adapter') → adapter'.serverName=some value)

section
variable {env : MeowExternals} {proxy proxy' : MihomoProxyConfig} {mapping mapping' : Mapping} {field value : Str}

lemma trimmed_some (value : Str) : trimmed (some value)=if trim value=[] then none else some (trim value) := by
  rw [trimmed,Option.map_some,Option.filter_some]
  by_cases h : trim value=[] <;> simp [h]

lemma optionalTls_blank {tenv : TransportExternals} (h : trim value=[]) (server : Str) :
    optionalTlsServerNameOrFallback tenv (some value) server = .ok server := by
  rw [optionalTlsServerNameOrFallback,trimmed_some,if_pos h]

lemma optionalTls_valid {tenv : TransportExternals} (hvalid : tenv.isServerName value) (htrim : trim value=value)
    (hne : value ≠ []) (server : Str) : optionalTlsServerNameOrFallback tenv (some value) server = .ok value := by
  rw [optionalTlsServerNameOrFallback,trimmed_some,htrim,if_neg hne]
  dsimp only
  rw [validateTlsServerName,if_pos hvalid]
  rfl

/-! VMess and VLESS -/

lemma Names.layersTls_eq (h : Names field value mapping mapping') (tenv : TransportExternals) :
    layersTls tenv mapping'=layersTls tenv mapping := by
  rw [layersTls,layersTls,h.boolField_eq rfl,h.parseRealityConfig_eq]

lemma Names.buildTransportChain_blank (h : Names field value mapping mapping') (hblank : trim value=[])
    (tenv : TransportExternals) (server : Str) :
    buildTransportChain tenv mapping' server=buildTransportChain tenv mapping server := by
  have hfield : field ∈ ["servername".toList,"sni".toList] := by simpa [nameFields,or_comm] using h.known
  have hnames : ∀ key ∈ ["servername".toList,"sni".toList], key ∈ nameFields := by simp [nameFields]
  have hnone : optionalTlsServerNameOrFallback tenv none server = .ok server := rfl
  rw [buildTransportChain,buildTransportChain,h.parseRealityConfig_eq,h.boolField_eq rfl,
    h.stringField_some hnames hfield,h.stringField_none hnames,optionalTls_blank hblank,hnone]
  simp only [h.pushTlsLayer_eq,h.pushTransportLayers_eq]

lemma buildVmess_ok {node : MeowProxyNode} {adapter : MeowAdapter}
    (h : buildVmess env proxy mapping = .ok (node,adapter)) :
    ∃ transport, adapter.serverName=chainName transport ∧
      buildTransportChain env.toTransportExternals mapping adapter.server = .ok transport := by
  obtain ⟨_,_,transport,rfl,-,-,htransport⟩ := buildVmess_reads h
  exact ⟨transport,rfl,htransport⟩

lemma buildVless_ok {node : MeowProxyNode} {adapter : MeowAdapter}
    (h : buildVless env proxy mapping = .ok (node,adapter)) :
    ∃ transport, adapter.serverName=chainName transport ∧
      buildTransportChain env.toTransportExternals mapping adapter.server = .ok transport := by
  obtain ⟨_,_,transport,rfl,-,-,htransport⟩ := buildVless_reads h
  exact ⟨transport,rfl,htransport⟩

/-- The node is named after the source that is left. -/
lemma Names.nodeName_eq (h : Names field value mapping mapping') (hproxy : proxy'.name=proxy.name) :
    nodeName proxy' mapping'=nodeName proxy mapping := by
  rw [nodeName,nodeName,h.stringField_eq rfl,hproxy]

lemma buildVmess_blank (h : Names field value mapping mapping') (hproxy : proxy'.name=proxy.name)
    (hblank : trim value=[]) :
    (buildVmess env proxy' mapping').map Prod.snd=(buildVmess env proxy mapping).map Prod.snd := by
  have hsecurity : parseVmessSecurity env mapping'=parseVmessSecurity env mapping := by
    rw [parseVmessSecurity,parseVmessSecurity,h.stringField_eq rfl]
  unfold buildVmess
  dsimp only
  rw [h.nodeName_eq hproxy,h.requiredString_eq _ rfl,h.requiredPort_eq _ rfl,h.requiredString_eq _ rfl,
    h.u16Field_eq rfl,hsecurity,h.udpField_eq]
  refine map_bind_congr fun server => map_bind_congr fun port => map_bind_congr fun id =>
    map_bind_congr fun uuid => ?_
  rw [h.buildTransportChain_blank hblank]
  split_ifs
  · rfl
  · exact map_bind_congr fun security => map_bind_congr fun transport => rfl

lemma buildVless_blank (h : Names field value mapping mapping') (hproxy : proxy'.name=proxy.name)
    (hblank : trim value=[]) :
    (buildVless env proxy' mapping').map Prod.snd=(buildVless env proxy mapping).map Prod.snd := by
  have hflow : parseVlessFlow mapping'=parseVlessFlow mapping := by
    rw [parseVlessFlow,parseVlessFlow,h.stringField_eq rfl]
  unfold buildVless
  dsimp only
  rw [h.nodeName_eq hproxy,h.requiredString_eq _ rfl,h.requiredPort_eq _ rfl,h.requiredString_eq _ rfl,
    h.stringField_eq rfl,hflow,h.udpField_eq]
  refine map_bind_congr fun server => map_bind_congr fun port => map_bind_congr fun id =>
    map_bind_congr fun uuid => ?_
  rw [h.buildTransportChain_blank hblank]
  split_ifs
  · exact map_bind_congr fun flow => map_bind_congr fun transport => rfl
  · rfl

/-- Both builders leave the name to the transport. -/
lemma Names.reaches_of_transport (h : Names field value mapping mapping') {build build' : MeowBuild}
    (hsame : trim value=[] → build'.map Prod.snd=build.map Prod.snd)
    (hbuild : ∀ node adapter, build = .ok (node,adapter) → ∃ transport, adapter.serverName=chainName transport ∧
      buildTransportChain env.toTransportExternals mapping adapter.server = .ok transport)
    (hbuild' : ∀ node adapter, build' = .ok (node,adapter) → ∃ transport,
      adapter.serverName=chainName transport ∧
        buildTransportChain env.toTransportExternals mapping' adapter.server = .ok transport) :
    NameReaches env value build build' := by
  have hfield : field ∈ ["servername".toList,"sni".toList] := by simpa [nameFields,or_comm] using h.known
  have hnames : ∀ key ∈ ["servername".toList,"sni".toList], key ∈ nameFields := by simp [nameFields]
  intro node adapter hok hne
  obtain ⟨transport,hname,htransport⟩ := hbuild node adapter hok
  have hchain := buildTransportChain_name htransport
  have htls : layersTls env.toTransportExternals mapping = true := by
    by_contra hnot
    rw [if_neg hnot] at hchain
    exact hne (hname.trans hchain)
  constructor
  · intro hblank
    have hserver : adapter.serverName=some adapter.server := by
      rw [if_pos htls,h.stringField_none hnames] at hchain
      obtain ⟨name,hdefault,hchain⟩ := hchain
      cases hdefault
      exact hname.trans hchain
    have hmap : build'.map Prod.snd = .ok adapter := by
      rw [hsame hblank,hok]
      rfl
    obtain ⟨⟨node',adapter'⟩,hok',heq⟩ := map_eq_ok.mp hmap
    exact ⟨hserver,node',adapter',hok',(congrArg MeowAdapter.serverName heq).trans hserver⟩
  · intro hvalid htrim hvalue node' adapter' hok'
    obtain ⟨transport',hname',htransport'⟩ := hbuild' node' adapter' hok'
    have hchain' := buildTransportChain_name htransport'
    rw [h.layersTls_eq,if_pos htls,h.stringField_some hnames hfield,optionalTls_valid hvalid htrim hvalue] at hchain'
    obtain ⟨name,hgiven,hchain'⟩ := hchain'
    cases hgiven
    exact hname'.trans hchain'

/-! Trojan -/

lemma buildTrojan_ok {node : MeowProxyNode} {adapter : MeowAdapter}
    (h : buildTrojan env proxy mapping = .ok (node,adapter)) :
    adapter.server=entryServer mapping ∧ adapter.serverName=some (trojanSni mapping) := by
  obtain ⟨_,-,⟨-,rfl⟩ | ⟨-,-,rfl⟩⟩ := buildTrojan_reads h
  · exact ⟨rfl,rfl⟩
  · exact ⟨rfl,rfl⟩

lemma buildTrojan_blank (h : Names field value mapping mapping') (hproxy : proxy'.name=proxy.name)
    (hblank : trim value=[]) :
    (buildTrojan env proxy' mapping').map Prod.snd=(buildTrojan env proxy mapping).map Prod.snd := by
  have hnames : ∀ key ∈ ["sni".toList,"servername".toList], key ∈ nameFields := fun key hkey => hkey
  have hnone : ∀ server, optionalTlsServerNameOrFallback env.toTransportExternals none server = .ok server :=
    fun server => rfl
  unfold buildTrojan
  dsimp only
  rw [h.nodeName_eq hproxy,h.requiredString_eq _ rfl,h.requiredPort_eq _ rfl,h.requiredString_eq _ rfl,
    h.stringField_some hnames h.known,h.stringField_none hnames,h.transportNetwork_eq,h.skipCertVerify_eq,
    h.udpField_eq]
  refine map_bind_congr fun server => map_bind_congr fun port => map_bind_congr fun password => ?_
  rw [optionalTls_blank hblank,hnone]
  refine map_bind_congr fun sni => map_bind_congr fun _ => ?_
  split_ifs
  · rfl
  · have hchain : buildTrojanTransportChain env.toTransportExternals mapping' server sni=
        buildTrojanTransportChain env.toTransportExternals mapping server sni := by
      rw [buildTrojanTransportChain,buildTrojanTransportChain,h.pushTlsLayer_eq]
      simp only [h.pushTransportLayers_eq]
    rw [hchain]
    exact map_bind_congr fun transport => rfl

lemma buildTrojan_reaches (h : Names field value mapping mapping') (hproxy : proxy'.name=proxy.name) :
    NameReaches env value (buildTrojan env proxy mapping) (buildTrojan env proxy' mapping') := by
  have hnames : ∀ key ∈ ["sni".toList,"servername".toList], key ∈ nameFields := fun key hkey => hkey
  intro node adapter hok _
  obtain ⟨hserver,hname⟩ := buildTrojan_ok hok
  have hown : trojanSni mapping=adapter.server := by
    rw [trojanSni,h.stringField_none hnames,hserver]
    rfl
  rw [hown] at hname
  constructor
  · intro hblank
    have hmap : (buildTrojan env proxy' mapping').map Prod.snd = .ok adapter := by
      rw [buildTrojan_blank h hproxy hblank,hok]
      rfl
    obtain ⟨⟨node',adapter'⟩,hok',heq⟩ := map_eq_ok.mp hmap
    exact ⟨hname,node',adapter',hok',(congrArg MeowAdapter.serverName heq).trans hname⟩
  · intro _ htrim hvalue node' adapter' hok'
    rw [(buildTrojan_ok hok').2,trojanSni,h.stringField_some hnames h.known,trimmed_some,htrim,if_neg hvalue]
    rfl

/-! Hysteria, where the name is only looked at when dialling -/

def MeowAdapter.withSni (value : Str) : MeowAdapter → MeowAdapter
  | hysteria options => hysteria {options with sni := some value}
  | adapter => adapter

lemma buildHysteria_sni (h : Names field value mapping mapping') (hproxy : proxy'.name=proxy.name) :
    (buildHysteria env proxy' mapping').map Prod.snd=
      (buildHysteria env proxy mapping).map (fun result => result.2.withSni value) := by
  have hnames : ∀ key ∈ ["sni".toList,"servername".toList], key ∈ nameFields := fun key hkey => hkey
  have hup : upBps mapping'=upBps mapping := by
    rw [upBps,upBps,h.hyBandwidthBps_eq rfl]
  have hdown : downBps mapping'=downBps mapping := by
    rw [downBps,downBps,h.hyBandwidthBps_eq rfl]
  have halpn : hysteriaAlpn mapping'=hysteriaAlpn mapping := by
    rw [hysteriaAlpn,hysteriaAlpn,h.stringField_eq rfl]
  have hprotocol : stringField mapping' ["protocol".toList]=stringField mapping ["protocol".toList] :=
    h.stringField_eq rfl
  have hobfs : stringField mapping' ["obfs".toList,"obfs-password".toList,"obfs_password".toList]=
      stringField mapping ["obfs".toList,"obfs-password".toList,"obfs_password".toList] := h.stringField_eq rfl
  unfold buildHysteria
  dsimp only
  rw [h.nodeName_eq hproxy,h.requiredString_eq _ rfl,h.requiredPort_eq _ rfl,h.requiredString_eq _ rfl,
    h.stringField_some hnames h.known,h.stringField_none hnames,halpn,hup,hdown,hprotocol,hobfs,
    h.skipCertVerify_eq,h.boolField_eq rfl]
  refine map_bind_congr fun server => map_bind_congr fun port => map_bind_congr fun auth => ?_
  unfold hysteriaAdapterNew
  split_ifs <;> rfl

lemma buildHysteria_ok {node : MeowProxyNode} {adapter : MeowAdapter}
    (h : buildHysteria env proxy mapping = .ok (node,adapter)) : ∃ options, adapter = .hysteria options ∧
      options.sni=stringField mapping ["sni".toList,"servername".toList] := by
  obtain ⟨_,-,rfl⟩ := buildHysteria_reads h
  exact ⟨_,rfl,rfl⟩

lemma buildHysteria_reaches (h : Names field value mapping mapping') (hproxy : proxy'.name=proxy.name) :
    NameReaches env value (buildHysteria env proxy mapping) (buildHysteria env proxy' mapping') := by
  have hnames : ∀ key ∈ ["sni".toList,"servername".toList], key ∈ nameFields := fun key hkey => hkey
  intro node adapter hok _
  obtain ⟨options,rfl,hsni⟩ := buildHysteria_ok hok
  rw [h.stringField_none hnames] at hsni
  have hserver : options.serverName=options.server := by
    rw [HysteriaOptions.serverName,hsni]
    rfl
  constructor
  · intro hblank
    have hmap : (buildHysteria env proxy' mapping').map Prod.snd = .ok (.hysteria {options with sni := some value}) := by
      rw [buildHysteria_sni h hproxy,hok]
      rfl
    obtain ⟨⟨node',adapter'⟩,hok',heq⟩ := map_eq_ok.mp hmap
    have hdropped : (some value).filter (fun value => decide (trim value ≠ []))=none := by
      rw [Option.filter_some,if_neg (by simp [hblank])]
    refine ⟨congrArg some hserver,node',adapter',hok',(congrArg MeowAdapter.serverName heq).trans ?_⟩
    rw [MeowAdapter.serverName,HysteriaOptions.serverName,hdropped]
    rfl
  · intro _ htrim hvalue node' adapter' hok'
    obtain ⟨options',rfl,hsni'⟩ := buildHysteria_ok hok'
    rw [h.stringField_some hnames h.known] at hsni'
    have hkept : (some value).filter (fun value => decide (trim value ≠ []))=some value := by
      rw [Option.filter_some,htrim,if_pos (decide_eq_true hvalue)]
    rw [MeowAdapter.serverName,HysteriaOptions.serverName,hsni',hkept]
    rfl

/-! Every builder that uses the name -/

/-- The types whose TLS server name is chosen here -/
def namedTypes : List Str := ["vmess".toList,"vless".toList,"trojan".toList,"hysteria".toList]

def kindOfMapping (proxy : MihomoProxyConfig) (mapping : Mapping) : Str :=
  toAsciiLowercase ((stringField mapping ["type".toList]).getD proxy.kind)

theorem buildMeowNode_reaches (h : Names field value mapping mapping') (hname : proxy'.name=proxy.name)
    (hkind : proxy'.kind=proxy.kind) (hvalue : asMapping proxy.value=some mapping)
    (hvalue' : asMapping proxy'.value=some mapping') (htype : kindOfMapping proxy mapping ∈ namedTypes) :
    NameReaches env value (buildMeowNode env proxy) (buildMeowNode env proxy') := by
  have hsame : kindOfMapping proxy' mapping'=kindOfMapping proxy mapping := by
    rw [kindOfMapping,kindOfMapping,h.stringField_eq rfl,hkind]
  have hbuild : ∀ {proxy mapping}, asMapping proxy.value=some mapping → ∀ {kind}, kindOfMapping proxy mapping=kind →
      kind ∈ namedTypes → buildMeowNode env proxy=
        if kind="vmess".toList then buildVmess env proxy mapping
        else if kind="vless".toList then buildVless env proxy mapping
        else if kind="trojan".toList then buildTrojan env proxy mapping
        else buildHysteria env proxy mapping := by
    intro proxy mapping hvalue kind hkind htype
    simp only [namedTypes,List.mem_cons,List.not_mem_nil,or_false] at htype
    unfold buildMeowNode
    rw [hvalue]
    dsimp only
    rw [← kindOfMapping,hkind]
    obtain rfl | rfl | rfl | rfl := htype <;> rfl
  rw [hbuild hvalue rfl htype,hbuild hvalue' hsame htype]
  split_ifs
  · exact h.reaches_of_transport (buildVmess_blank h hname) (fun _ _ => buildVmess_ok) (fun _ _ => buildVmess_ok)
  · exact h.reaches_of_transport (buildVless_blank h hname) (fun _ _ => buildVless_ok) (fun _ _ => buildVless_ok)
  · exact buildTrojan_reaches h hname
  · exact buildHysteria_reaches h hname

end

end RotatorProxy.Mihomo
