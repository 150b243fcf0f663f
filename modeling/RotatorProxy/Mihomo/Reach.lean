import RotatorProxy.Library.Outcome
import RotatorProxy.Mihomo.Links
import RotatorProxy.Mihomo.Transport

/-! From a link to its transport: the link parser writes a mapping, and `push_transport_layers` reads it
back. What the one writes under a key, and in which shape, the other has to look for. -/
namespace RotatorProxy.Mihomo
open Text Proxy Link ClashProxyDocument Library

/-- A link of a protocol that runs over a transport. -/
inductive TransportLink
  | vless (url : Url)
  | trojan (url : Url)
  | vmess (link : VmessLink)

namespace TransportLink

def parse (env : LinkExternals) : TransportLink → Except Str MihomoProxyConfig
  | vless url => parseVlessUrl env url
  | trojan url => parseTrojanUrl env url
  | vmess link => vmessConfig link

def network : TransportLink → Option Str
  | vless url | trojan url => networkQuery url
  | vmess link => nonEmpty link.net

def host : TransportLink → Option Str
  | vless url | trojan url => queryParam url "host".toList
  | vmess link => link.host

def path : TransportLink → Option Str
  | vless url | trojan url => queryParam url "path".toList
  | vmess link => link.path

def serviceName : TransportLink → Option Str
  | vless url | trojan url => serviceNameQuery url
  | vmess _ => none

/-- The service name, or the path in its place, without leading slashes. -/
def service (link : TransportLink) : Str := trimStartMatches '/' ((link.serviceName.or link.path).getD [])

end TransportLink

/-- The layer has this path, or this service, and this host. -/
def TransportLayer.Carries (host path service : Str) : TransportLayer → Prop
  | .ws config => config.path=path ∧ config.hostHeader=some host
  | .grpc config => config.serviceName=service ∧ config.authority=host
  | .h2 config => config.path=path ∧ config.hosts=[host]
  | .httpUpgrade config => config.path=path ∧ config.hostHeader=some host
  | .tls _ => False

/-- The networks with a layer of their own. -/
def layeredNetworks : List Str :=
  ["ws".toList,"websocket".toList,"grpc".toList,"h2".toList,"http".toList,"httpupgrade".toList,
    "http-upgrade".toList]

/-- When the options of a link come through. Only WebSocket always carries them: of gRPC the host is
left out, of HTTP/2 the path, and of HTTP upgrade, or of a network spelled in capitals, all of them. -/
def Reaches (server network host path service : Str) : Prop :=
  if network ∈ ["ws".toList,"websocket".toList] then True
  else if network="grpc".toList then service ≠ [] ∧ host=server
  else if network ∈ ["h2".toList,"http".toList] then path=['/']
  else if toAsciiLowercase network="grpc".toList then service="GunService".toList ∧ host=server
  else path=['/'] ∧ host=server

/-! The mapping before the network -/

/-- The keys under which a transport is described. -/
def transportKeys : List Str :=
  ["network".toList,"ws-opts".toList,"grpc-opts".toList,"h2-opts".toList,"http-upgrade-opts".toList,
    "host".toList]

/-- A document of this server that does not speak of a transport yet. -/
structure Bare (server : Str) (proxy : ClashProxyDocument) : Prop where
  server : proxy.value.get "server".toList=some (.string server)
  absent : ∀ key ∈ transportKeys, proxy.value.get key=none

variable {env : LinkExternals} {server key : Str} {proxy : ClashProxyDocument}

lemma applyNetworkQuery_some {url : Url} {network : Str} (h : networkQuery url=some network) :
    applyNetworkQuery proxy url = applyTransportOpts (proxy.insertString "network".toList network) network
      (queryParam url "host".toList) (queryParam url "path".toList) (serviceNameQuery url) := by
  rw [applyNetworkQuery,h]

namespace Bare

lemma insertValue (h : Bare server proxy) (hkey : key ∉ "server".toList::transportKeys) (value : YamlValue) :
    Bare server (proxy.insertValue key value) := by
  have hne : ∀ k ∈ "server".toList::transportKeys, k ≠ key := fun k hk heq => hkey (heq ▸ hk)
  refine ⟨?_,fun k hk => ?_⟩
  · exact (Mapping.get_insert_ne (hne _ List.mem_cons_self) value proxy.value).trans h.server
  · exact (Mapping.get_insert_ne (hne k (List.mem_cons_of_mem _ hk)) value proxy.value).trans (h.absent k hk)

lemma insertSome (h : Bare server proxy) (hkey : key ∉ "server".toList::transportKeys) (value : Option Str) :
    Bare server (proxy.insertSome key value) := by
  cases value with
  | none => exact h
  | some value => exact h.insertValue hkey _

lemma insertIf (h : Bare server proxy) (hkey : key ∉ "server".toList::transportKeys) (value : Bool) {p : Prop}
    [Decidable p] : Bare server (if p then proxy.insertBool key value else proxy) := by
  split_ifs
  · exact h.insertValue hkey _
  · exact h

lemma insertAlpn (h : Bare server proxy) (alpn : Option Str) : Bare server (insertAlpn alpn proxy) := by
  unfold Mihomo.insertAlpn
  split
  · exact h.insertValue (by decide) _
  · exact h

lemma new (name kind : Str) (server : Str) (port : UInt16) :
    Bare server (ClashProxyDocument.new name kind server port) := by
  refine ⟨rfl,?_⟩
  have hkeys : ∀ key ∈ transportKeys, ∀ k ∈ ["name".toList,"type".toList,"server".toList,"port".toList],
      key ≠ k := by decide
  intro key hkey
  have hne := hkeys key hkey
  simp only [List.mem_cons,List.not_mem_nil,or_false,forall_eq_or_imp,forall_eq] at hne
  obtain ⟨h1,h2,h3,h4⟩ := hne
  simp only [ClashProxyDocument.new,insertString,insertU16,ClashProxyDocument.insertValue]
  rw [Mapping.get_insert_ne h4,Mapping.get_insert_ne h3,Mapping.get_insert_ne h2,Mapping.get_insert_ne h1]
  rfl

lemma applySecurityQuery (h : Bare server proxy) (url : Url) :
    Bare server (applySecurityQuery proxy url) := by
  have hsecurity : Bare server (applySecurity proxy url) := by
    unfold applySecurity
    split
    · exact h
    · dsimp only
      split_ifs
      · exact (h.insertValue (by decide) _).insertValue (by decide) _
      · exact h.insertValue (by decide) _
      · exact h.insertValue (by decide) _
      · exact h
  exact ((((hsecurity.insertSome (by decide) _).insertAlpn _).insertSome (by decide) _).insertSome
    (by decide) _).insertIf (by decide) true

end Bare

/-- The options of the transport are written into a mapping that does not speak of one yet. -/
theorem TransportLink.parse_ok {link : TransportLink} {config : MihomoProxyConfig} {network : Str}
    (h : link.parse env = .ok config) (hnetwork : link.network=some network) :
    ∃ server proxy, Bare server proxy ∧
      config.value = .mapping (applyTransportOpts (proxy.insertString "network".toList network) network
        link.host link.path link.serviceName).value := by
  cases link with
  | vless url =>
    obtain ⟨server,-,h⟩ := bind_eq_ok.mp h
    obtain ⟨port,-,h⟩ := bind_eq_ok.mp h
    obtain ⟨uuid,-,h⟩ := bind_eq_ok.mp h
    cases h
    have hbare : Bare server (((ClashProxyDocument.new (proxyNameFromUrl env url "vless".toList)
        "vless".toList server port).insertString "uuid".toList uuid).insertString "encryption".toList
        ((queryParam url "encryption".toList).getD "none".toList)) :=
      ((Bare.new _ _ server port).insertValue (by decide) _).insertValue (by decide) _
    refine ⟨server,_,hbare.applySecurityQuery url,?_⟩
    exact congrArg (fun p : ClashProxyDocument => YamlValue.mapping p.value) (applyNetworkQuery_some hnetwork)
  | trojan url =>
    obtain ⟨server,-,h⟩ := bind_eq_ok.mp h
    obtain ⟨port,-,h⟩ := bind_eq_ok.mp h
    obtain ⟨password,-,h⟩ := bind_eq_ok.mp h
    cases h
    have hbare : Bare server ((ClashProxyDocument.new (proxyNameFromUrl env url "trojan".toList)
        "trojan".toList server port).insertString "password".toList password) :=
      (Bare.new _ _ server port).insertValue (by decide) _
    refine ⟨server,_,hbare.applySecurityQuery url,?_⟩
    exact congrArg (fun p : ClashProxyDocument => YamlValue.mapping p.value) (applyNetworkQuery_some hnetwork)
  | vmess link =>
    obtain ⟨server,-,h⟩ := bind_eq_ok.mp h
    obtain ⟨port,-,h⟩ := bind_eq_ok.mp h
    obtain ⟨uuid,-,h⟩ := bind_eq_ok.mp h
    obtain ⟨alterId,-,h⟩ := bind_eq_ok.mp h
    have hnet : nonEmpty link.net=some network := hnetwork
    rw [hnet] at h
    cases h
    refine ⟨server,_,?_,rfl⟩
    refine Bare.insertSome (Bare.insertIf ?_ (by decide) true) (by decide) _
    exact (((Bare.new _ _ server port).insertValue (by decide) _).insertValue (by decide) _).insertValue
      (by decide) _

/-! The mapping read back -/

/-- Which of the layers a network has; the last ones are HTTP upgrade. -/
def networkLayer (tenv : TransportExternals) (network : Str) (mapping : Mapping) (server : Str) :
    TransportLayer :=
  if network ∈ ["ws".toList,"websocket".toList] then .ws (wsConfig tenv mapping server)
  else if network="grpc".toList then .grpc (grpcConfig mapping server)
  else if network ∈ ["h2".toList,"http".toList] then .h2 (h2Config mapping server)
  else .httpUpgrade (httpUpgradeConfig mapping server)

/-- The host is an authority, without white space around it. -/
def ValidHost (tenv : TransportExternals) (host : Str) : Prop :=
  trimmed (some host)=some host ∧ tenv.isAuthority host=true

variable {tenv : TransportExternals} {mapping options : Mapping} {network host path service : Str}

lemma ValidHost.ne_nil (h : ValidHost tenv host) : host ≠ [] := by
  rintro rfl
  cases h.1

lemma transportNetwork_eq (hget : mapping.get "network".toList=some (.string network)) :
    transportNetwork mapping=toAsciiLowercase network := by
  have hread : stringField mapping ["network".toList,"type".toList]=some network :=
    @findField_eq _ valueToString _ _ _ _ hget rfl _
  rw [transportNetwork,hread]
  rfl

lemma transportLayer_eq (hget : mapping.get "network".toList=some (.string network))
    (hnetwork : toAsciiLowercase network ∈ layeredNetworks) :
    transportLayer tenv mapping server =
      .ok (some (networkLayer tenv (toAsciiLowercase network) mapping server)) := by
  have hlayered : ∀ n ∈ layeredNetworks,
      n ∉ [[],"tcp".toList,"vmess".toList,"vless".toList,"trojan".toList] ∧
        (n ∉ ["ws".toList,"websocket".toList] → n ≠ "grpc".toList → n ∉ ["h2".toList,"http".toList] →
          n ∈ ["httpupgrade".toList,"http-upgrade".toList]) := by decide
  obtain ⟨hnot,hupgrade⟩ := hlayered _ hnetwork
  rw [transportLayer,transportNetwork_eq hget,if_neg hnot,networkLayer]
  split_ifs with hws hgrpc hh2 hin
  · rfl
  · rfl
  · rfl
  · rfl
  · exact absurd (hupgrade hws hgrpc hh2) hin

/-- Without options a layer has its defaults. -/
lemma carries_defaults (hhost : mapping.get "host".toList=none) (hws : mapping.get "ws-opts".toList=none)
    (hgrpc : mapping.get "grpc-opts".toList=none) (hh2 : mapping.get "h2-opts".toList=none)
    (hupgrade : mapping.get "http-upgrade-opts".toList=none) :
    (networkLayer tenv network mapping server).Carries host path service ↔
      if network="grpc".toList then service="GunService".toList ∧ host=server
      else path=['/'] ∧ host=server := by
  have hread : stringField mapping ["host".toList]=none :=
    @findField_skip _ valueToString _ _ hhost []
  have hfield : ∀ key, mapping.get key=none → mappingField mapping key=none := by
    intro key hkey
    rw [mappingField,hkey]
    rfl
  have hwsConfig : (wsConfig tenv mapping server).path=['/'] ∧
      (wsConfig tenv mapping server).hostHeader=some server := by
    simp only [wsConfig,hfield _ hws,hread]
    exact ⟨rfl,rfl⟩
  have hgrpcConfig : grpcConfig mapping server=⟨"GunService".toList,server⟩ := by
    simp only [grpcConfig,hfield _ hgrpc]
    rfl
  have hh2Config : h2Config mapping server=⟨['/'],[server]⟩ := by
    simp only [h2Config,hfield _ hh2,hread]
    rfl
  have hupgradeConfig : (httpUpgradeConfig mapping server).path=['/'] ∧
      (httpUpgradeConfig mapping server).hostHeader=some server := by
    simp only [httpUpgradeConfig,hfield _ hupgrade]
    exact ⟨rfl,rfl⟩
  unfold networkLayer
  split_ifs with h1 h2 h2 h3
  · subst h2
    exact absurd h1 (by decide)
  · simp only [TransportLayer.Carries,hwsConfig,Option.some.injEq]
    rw [eq_comm,eq_comm (a := server)]
  · simp only [TransportLayer.Carries,hgrpcConfig]
    rw [eq_comm,eq_comm (a := server)]
  · simp only [TransportLayer.Carries,hh2Config,List.cons.injEq,and_true]
    rw [eq_comm,eq_comm (a := server)]
  · simp only [TransportLayer.Carries,hupgradeConfig,Option.some.injEq]
    rw [eq_comm,eq_comm (a := server)]

lemma wsConfig_carries (hvalid : ValidHost tenv host) (hget : mapping.get "ws-opts".toList=
      some (.mapping [(.string "path".toList,.string path),
        (.string "headers".toList,.mapping [(.string "Host".toList,.string host)])])) :
    (TransportLayer.ws (wsConfig tenv mapping server)).Carries host path service := by
  have hoptions : mappingField mapping "ws-opts".toList=
      some [(.string "path".toList,.string path),
        (.string "headers".toList,.mapping [(.string "Host".toList,.string host)])] := by
    rw [mappingField,hget]
    rfl
  have hhost : validAuthorityOrFallback tenv (some host) server=host := by
    rw [validAuthorityOrFallback,hvalid.1]
    exact if_pos hvalid.2
  simp only [TransportLayer.Carries,wsConfig,hoptions]
  exact ⟨rfl,congrArg some hhost⟩

/-- The service name arrives, but gRPC has the server for its host. -/
lemma grpcConfig_eq (hget : mapping.get "grpc-opts".toList=
      some (.mapping [(.string "grpc-service-name".toList,.string service)])) :
    grpcConfig mapping server=⟨service,server⟩ := by
  have hoptions : mappingField mapping "grpc-opts".toList=
      some [(.string "grpc-service-name".toList,.string service)] := by
    rw [mappingField,hget]
    rfl
  simp only [grpcConfig,hoptions]
  rfl

/-- The path is written as a list, which is not a text. -/
lemma h2Config_eq (hget : mapping.get "h2-opts".toList=
      some (.mapping [(.string "host".toList,stringsValue [host]),
        (.string "path".toList,stringsValue [path])])) :
    h2Config mapping server=⟨['/'],[host]⟩ := by
  have hoptions : mappingField mapping "h2-opts".toList=
      some [(.string "host".toList,stringsValue [host]),(.string "path".toList,stringsValue [path])] := by
    rw [mappingField,hget]
    rfl
  simp only [h2Config,hoptions]
  rfl

/-! The link as a whole -/

lemma Bare.get_network (h : Bare server proxy) :
    let mapping := (proxy.insertString "network".toList network).value
    mapping.get "network".toList=some (.string network) ∧
      ∀ key ∈ transportKeys, key ≠ "network".toList → mapping.get key=none := by
  refine ⟨Mapping.get_insert_self _ _ _,fun key hkey hne => ?_⟩
  exact (Mapping.get_insert_ne hne _ _).trans (h.absent key hkey)

lemma get_options (proxy : ClashProxyDocument) (network : Str) (hne : key ≠ "network".toList)
    (value : YamlValue) :
    let mapping := ((proxy.insertString "network".toList network).insertValue key value).value
    mapping.get "network".toList=some (.string network) ∧ mapping.get key=some value := by
  refine ⟨?_,Mapping.get_insert_self key value _⟩
  exact (Mapping.get_insert_ne (Ne.symm hne) value _).trans (Mapping.get_insert_self _ _ _)

lemma layer_carries_iff (hget : mapping.get "network".toList=some (.string network))
    (hlayered : toAsciiLowercase network ∈ layeredNetworks) :
    (∃ layer, transportLayer tenv mapping server = .ok (some layer) ∧ layer.Carries host path service) ↔
      (networkLayer tenv (toAsciiLowercase network) mapping server).Carries host path service := by
  rw [transportLayer_eq hget hlayered]
  constructor
  · rintro ⟨layer,h,hcarries⟩
    cases h
    exact hcarries
  · intro h
    exact ⟨_,rfl,h⟩

/-- A network that the writer does not know is read without options. -/
lemma Bare.carries_plain (h : Bare server proxy) (hlayered : toAsciiLowercase network ∈ layeredNetworks) :
    (∃ layer, transportLayer tenv (proxy.insertString "network".toList network).value server =
        .ok (some layer) ∧ layer.Carries host path service) ↔
      if toAsciiLowercase network="grpc".toList then service="GunService".toList ∧ host=server
      else path=['/'] ∧ host=server := by
  obtain ⟨hget,habsent⟩ := @Bare.get_network _ _ network h
  rw [layer_carries_iff hget hlayered]
  apply carries_defaults
  · exact habsent _ (by decide) (by decide)
  · exact habsent _ (by decide) (by decide)
  · exact habsent _ (by decide) (by decide)
  · exact habsent _ (by decide) (by decide)
  · exact habsent _ (by decide) (by decide)

section
variable {givenPath serviceName : Option Str}

lemma carries_ws (hws : network ∈ ["ws".toList,"websocket".toList])
    (hlayered : toAsciiLowercase network ∈ layeredNetworks) (hvalid : ValidHost tenv host)
    (hgiven : nonEmpty givenPath=some path) :
    ∃ layer, transportLayer tenv (applyTransportOpts (proxy.insertString "network".toList network) network
      (some host) givenPath serviceName).value server = .ok (some layer) ∧
        layer.Carries host path service := by
  have hin : ∀ n ∈ ["ws".toList,"websocket".toList],
      toAsciiLowercase n ∈ ["ws".toList,"websocket".toList] := by decide
  have hhost : nonEmpty (some host)=some host := by
    simp [nonEmpty,hvalid.ne_nil]
  rw [applyTransportOpts,if_pos hws,hgiven,hhost]
  obtain ⟨hget,hoptions⟩ := get_options proxy network (by decide : "ws-opts".toList ≠ "network".toList)
    (.mapping [(.string "path".toList,.string path),
      (.string "headers".toList,.mapping [(.string "Host".toList,.string host)])])
  refine (@layer_carries_iff server tenv _ network host path service hget hlayered).mpr ?_
  rw [networkLayer,if_pos (hin network hws)]
  exact wsConfig_carries hvalid hoptions

lemma Bare.carries_grpc (h : Bare server proxy)
    (hservice : trimStartMatches '/' ((serviceName.or givenPath).getD [])=service) :
    (∃ layer, transportLayer tenv (applyTransportOpts (proxy.insertString "network".toList "grpc".toList)
      "grpc".toList (some host) givenPath serviceName).value server = .ok (some layer) ∧
        layer.Carries host path service) ↔ service ≠ [] ∧ host=server := by
  have hlayered : toAsciiLowercase "grpc".toList ∈ layeredNetworks := by decide
  rw [applyTransportOpts,if_neg (by decide),if_pos rfl,hservice]
  dsimp only
  by_cases hnil : service=[]
  · rw [if_pos hnil,h.carries_plain hlayered,if_pos (by decide),hnil]
    simp
  · rw [if_neg hnil]
    obtain ⟨hget,hoptions⟩ := get_options proxy "grpc".toList
      (by decide : "grpc-opts".toList ≠ "network".toList)
      (.mapping [(.string "grpc-service-name".toList,.string service)])
    refine (@layer_carries_iff server tenv _ _ host path service hget hlayered).trans ?_
    rw [networkLayer,if_neg (by decide),if_pos (by decide),TransportLayer.Carries,grpcConfig_eq hoptions]
    simp [hnil,eq_comm]

lemma carries_h2 (hh2 : network ∈ ["h2".toList,"http".toList])
    (hlayered : toAsciiLowercase network ∈ layeredNetworks) (hvalid : ValidHost tenv host)
    (hgiven : nonEmpty givenPath=some path) :
    (∃ layer, transportLayer tenv (applyTransportOpts (proxy.insertString "network".toList network) network
      (some host) givenPath serviceName).value server = .ok (some layer) ∧
        layer.Carries host path service) ↔ path=['/'] := by
  have hin : ∀ n ∈ ["h2".toList,"http".toList], n ∉ ["ws".toList,"websocket".toList] ∧
      n ≠ "grpc".toList ∧ toAsciiLowercase n=n := by decide
  obtain ⟨hws,hgrpc,hlower⟩ := hin network hh2
  have hhost : nonEmpty (some host)=some host := by
    simp [nonEmpty,hvalid.ne_nil]
  rw [applyTransportOpts,if_neg hws,if_neg hgrpc,if_pos hh2,hgiven,hhost]
  obtain ⟨hget,hoptions⟩ := get_options proxy network (by decide : "h2-opts".toList ≠ "network".toList)
    (.mapping [(.string "host".toList,stringsValue [host]),(.string "path".toList,stringsValue [path])])
  refine (@layer_carries_iff server tenv _ network host path service hget hlayered).trans ?_
  rw [hlower,networkLayer,if_neg hws,if_neg hgrpc,if_pos hh2,TransportLayer.Carries,h2Config_eq hoptions]
  simp [eq_comm]

/-- What the writer puts under the network, and whether it is what the layer is built from. -/
theorem Bare.carries_iff (h : Bare server proxy) (hlayered : toAsciiLowercase network ∈ layeredNetworks)
    (hvalid : ValidHost tenv host)
    (hpath : toAsciiLowercase network="grpc".toList ∨ nonEmpty givenPath=some path)
    (hservice : trimStartMatches '/' ((serviceName.or givenPath).getD [])=service) :
    (∃ layer, transportLayer tenv (applyTransportOpts (proxy.insertString "network".toList network) network
        (some host) givenPath serviceName).value server = .ok (some layer) ∧
          layer.Carries host path service) ↔ Reaches server network host path service := by
  have hnotGrpc : ∀ n ∈ ["ws".toList,"websocket".toList]++["h2".toList,"http".toList],
      toAsciiLowercase n ≠ "grpc".toList := by decide
  unfold Reaches
  by_cases hws : network ∈ ["ws".toList,"websocket".toList]
  · rw [if_pos hws]
    have hgiven := hpath.resolve_left (hnotGrpc network (List.mem_append_left _ hws))
    exact iff_true_intro (carries_ws hws hlayered hvalid hgiven)
  rw [if_neg hws]
  by_cases hgrpc : network="grpc".toList
  · subst hgrpc
    exact h.carries_grpc hservice
  rw [if_neg hgrpc]
  by_cases hh2 : network ∈ ["h2".toList,"http".toList]
  · rw [if_pos hh2]
    have hgiven := hpath.resolve_left (hnotGrpc network (List.mem_append_right _ hh2))
    exact carries_h2 hh2 hlayered hvalid hgiven
  · rw [if_neg hh2,applyTransportOpts,if_neg hws,if_neg hgrpc,if_neg hh2]
    exact h.carries_plain hlayered

end

/-- The options stand under keys of their own. -/
lemma applyTransportOpts_get (hkey : key ∉ transportKeys) (proxy : ClashProxyDocument) (network : Str)
    (host path serviceName : Option Str) :
    (applyTransportOpts proxy network host path serviceName).value.get key=proxy.value.get key := by
  have hinsert : ∀ k ∈ transportKeys, ∀ opts, (proxy.insertMapping k opts).value.get key=proxy.value.get key :=
    fun k hk opts => Mapping.get_insert_ne (ne_of_mem_of_not_mem hk hkey).symm (.mapping opts) proxy.value
  unfold applyTransportOpts
  dsimp only
  split_ifs
  · rfl
  · exact hinsert _ (by decide) _
  · rfl
  · exact hinsert _ (by decide) _
  · rfl
  · exact hinsert _ (by decide) _
  · rfl

/-- The chain built over what a link leaves ends in a layer with the options of that link, if and only
if `Reaches` has them come through. -/
theorem options_reach_iff {link : TransportLink} {config : MihomoProxyConfig} {chain chain' : TransportChain}
    (hparse : link.parse env = .ok config) (hvalue : config.value = .mapping mapping)
    (hserver : stringField mapping ["server".toList]=some server) (hnetwork : link.network=some network)
    (hlayered : toAsciiLowercase network ∈ layeredNetworks) (hhost : link.host=some host)
    (hvalid : ValidHost tenv host)
    (hpath : toAsciiLowercase network="grpc".toList ∨ nonEmpty link.path=some path)
    (hpush : pushTransportLayers tenv chain mapping server = .ok chain') :
    (∃ layer, chain'=chain++[layer] ∧ layer.Carries host path link.service) ↔
      Reaches server network host path link.service := by
  obtain ⟨server',proxy,hbare,heq⟩ := TransportLink.parse_ok hparse hnetwork
  obtain rfl : mapping = (applyTransportOpts (proxy.insertString "network".toList network) network
      link.host link.path link.serviceName).value := by
    rw [hvalue] at heq
    exact YamlValue.mapping.inj heq
  obtain rfl : server=server' := by
    have hget := (applyTransportOpts_get (by decide) (proxy.insertString "network".toList network) network
      link.host link.path link.serviceName).trans
      ((Mapping.get_insert_ne (by decide : "server".toList ≠ "network".toList) _ _).trans hbare.server)
    have hread := @findField_eq _ valueToString _ _ _ _ hget rfl []
    exact Option.some.inj (hserver.symm.trans hread)
  obtain ⟨pushed,hlayer,rfl⟩ := pushTransportLayers_ok hpush
  have hreaches := hbare.carries_iff hlayered hvalid hpath (rfl : _=link.service)
  rw [hhost] at hlayer
  rw [hlayer] at hreaches
  rw [← hreaches]
  constructor
  · rintro ⟨layer,hchain,hcarries⟩
    refine ⟨layer,?_,hcarries⟩
    have hpushed := List.append_cancel_left hchain
    cases pushed with
    | none => cases hpushed
    | some other =>
      cases hpushed
      rfl
  · rintro ⟨layer,hok,hcarries⟩
    cases hok
    exact ⟨layer,rfl,hcarries⟩

/-! A vless link over each network -/

/-- `vless://…@example.com:443?type=…&host=cdn.example.com&path=/p` -/
def sampleVlessUrl (network : Str) : Url where
  scheme := "vless".toList
  username := "b831381d-6324-4d53-ad4f-8cda48b30811".toList
  password := none
  hostStr := some "example.com".toList
  port := some 443
  portOrKnownDefault := some 443
  path := []
  query := some ("type=".toList++network++"&host=cdn.example.com&path=/p".toList)
  queryPairs := [("type".toList,network),("host".toList,"cdn.example.com".toList),("path".toList,"/p".toList)]
  fragment := none
  asStr := "vless://b831381d-6324-4d53-ad4f-8cda48b30811@example.com:443?type=".toList++network++
    "&host=cdn.example.com&path=/p".toList

/-- Crates for links without percent signs. -/
def plainLinkExternals : LinkExternals where
  toExternals := sampleExternals
  parseUrl _ := none
  percentDecode text := text
  base64Standard _ := none
  base64UrlSafe _ := none
  formParse _ := []
  vmessFromJson _ := none

/-- The fields that the parser writes ahead of the transport of a `sampleVlessUrl`. -/
def sampleVlessFields (network : Str) : Mapping :=
  [(.string "name".toList,.string "vless".toList),(.string "type".toList,.string "vless".toList),
    (.string "server".toList,.string "example.com".toList),(.string "port".toList,.number (.posInt 443)),
    (.string "uuid".toList,.string "b831381d-6324-4d53-ad4f-8cda48b30811".toList),
    (.string "encryption".toList,.string "none".toList),(.string "network".toList,.string network)]

theorem options_reach_ws :
    let link := TransportLink.vless (sampleVlessUrl "ws".toList)
    let mapping := sampleVlessFields "ws".toList++[(.string "ws-opts".toList,
      .mapping [(.string "path".toList,.string "/p".toList),(.string "headers".toList,
        .mapping [(.string "Host".toList,.string "cdn.example.com".toList)])])]
    link.parse plainLinkExternals = .ok ⟨"vless".toList,"vless".toList,.mapping mapping⟩ ∧
      ((∃ layer, [TransportLayer.ws (wsConfig plainTransportExternals mapping "example.com".toList)]=
          []++[layer] ∧ layer.Carries "cdn.example.com".toList "/p".toList link.service) ↔
        Reaches "example.com".toList "ws".toList "cdn.example.com".toList "/p".toList link.service) := by
  refine ⟨rfl,?_⟩
  exact @options_reach_iff plainLinkExternals _ plainTransportExternals _ _ _ _ (.vless (sampleVlessUrl _))
    _ [] _ rfl rfl rfl rfl (by decide) rfl ⟨by decide,rfl⟩ (.inr (by decide)) rfl

/-- Of an HTTP/2 link the path is lost. -/
theorem h2_path_lost :
    let link := TransportLink.vless (sampleVlessUrl "h2".toList)
    let mapping := sampleVlessFields "h2".toList++[(.string "h2-opts".toList,
      .mapping [(.string "host".toList,stringsValue ["cdn.example.com".toList]),
        (.string "path".toList,stringsValue ["/p".toList])])]
    link.parse plainLinkExternals = .ok ⟨"vless".toList,"vless".toList,.mapping mapping⟩ ∧
      link.network=some "h2".toList ∧ link.path=some "/p".toList ∧
      pushTransportLayers plainTransportExternals [] mapping "example.com".toList =
        .ok [.h2 ⟨['/'],["cdn.example.com".toList]⟩] :=
  ⟨rfl,by decide,by decide,rfl⟩

end RotatorProxy.Mihomo
