import RotatorProxy.Library.Outcome
import RotatorProxy.Mihomo.Transport

/-! `build_meow_node`: the adapter of a complex node, and the key that the node gets. An adapter is the
settings it dials with; the name, which only its errors show, is not among them. -/
namespace RotatorProxy.Mihomo
open Text Proxy Library

/-! Adapters -/

inductive VmessSecurity
  | aes128Gcm
  | chaCha20Poly1305
  | none
  deriving DecidableEq

inductive VlessFlow
  | xtlsRprxVision
  deriving DecidableEq

structure HysteriaOptions where
  server : Str
  port : UInt16
  auth : Bytes
  sni : Option Str
  alpn : Str
  skipCertVerify : Bool
  upBps : ℕ
  downBps : ℕ
  obfsPassword : Option Str
  fastOpen : Bool
  deriving DecidableEq

inductive Hy2Obfs
  | salamander
  deriving DecidableEq

structure Hy2HopInterval where
  minSecs : ℕ
  maxSecs : ℕ
  deriving DecidableEq

structure Hy2Options where
  server : Str
  port : UInt16
  password : Str
  sni : Option Str
  skipCertVerify : Bool
  udp : Bool
  upBps : ℕ
  downBps : ℕ
  obfs : Option Hy2Obfs
  obfsPassword : Option Str
  ports : Option Str
  hopInterval : Option Hy2HopInterval
  fingerprint : Option Str
  fastOpen : Bool
  deriving DecidableEq

inductive SnellVersion
  | v3
  | v4
  | v5
  deriving DecidableEq

inductive SnellObfs
  | none
  | http (host : Str)
  | tls (server : Str)
  deriving DecidableEq

inductive MeowAdapter
  | vmess (server : Str) (port : UInt16) (uuid : Bytes) (security : VmessSecurity) (udp : Bool)
    (transport : TransportChain)
  | vless (server : Str) (port : UInt16) (uuid : Bytes) (flow : Option VlessFlow) (udp : Bool)
    (transport : TransportChain)
  | trojan (server : Str) (port : UInt16) (password sni : Str) (skipCertVerify udp : Bool)
  | trojanTransport (server : Str) (port : UInt16) (hexPassword : Str) (transport : TransportChain)
  | hysteria (options : HysteriaOptions)
  | hysteria2 (options : Hy2Options)
  | snell (server : Str) (port : UInt16) (psk : Str) (obfs : SnellObfs) (version : SnellVersion)
    (udp reuse : Bool)
  | anytls (server : Str) (port : UInt16) (password : Str) (sni : Option Str) (skipCertVerify : Bool)
  | shadowsocks (server : Str) (port : UInt16) (password cipher : Str) (udp : Bool)
    (plugin pluginOpts : Option Str)
  deriving DecidableEq

namespace MeowAdapter

def server : MeowAdapter → Str
  | vmess server .. | vless server .. | trojan server .. | trojanTransport server .. | snell server ..
  | anytls server .. | shadowsocks server .. => server
  | hysteria options => options.server
  | hysteria2 options => options.server

def port : MeowAdapter → UInt16
  | vmess _ port .. | vless _ port .. | trojan _ port .. | trojanTransport _ port .. | snell _ port ..
  | anytls _ port .. | shadowsocks _ port .. => port
  | hysteria options => options.port
  | hysteria2 options => options.port

/-- What `dial_tcp` goes by: the switch for UDP, which is never dialled, does not matter to it. -/
def tcp : MeowAdapter → MeowAdapter
  | vmess server port uuid security _ transport => vmess server port uuid security false transport
  | vless server port uuid flow _ transport => vless server port uuid flow false transport
  | trojan server port password sni skipCertVerify _ => trojan server port password sni skipCertVerify false
  | hysteria2 options => hysteria2 {options with udp := false}
  | snell server port psk obfs version _ reuse => snell server port psk obfs version false reuse
  | shadowsocks server port password cipher _ plugin pluginOpts =>
    shadowsocks server port password cipher false plugin pluginOpts
  | adapter => adapter

end MeowAdapter

/-- The crates behind the adapters. -/
structure MeowExternals extends TransportExternals where
  /-- `Uuid::parse_str` -/
  uuidParse : Str → Option Bytes
  autoSecurity : VmessSecurity
  isBuiltinObfsPlugin : Str → Bool
  sha224 : Bytes → Bytes
  /-- `str::parse` into a field of `Hy2HopInterval` -/
  parseSecs : Str → Option ℕ
  /-- `Display` of a `MeowError::Proxy` -/
  proxyErrorText : Str → Str
  /-- whether the constructor takes these settings for a node of this name -/
  adapterNew : Str → MeowAdapter → Bool

variable (env : MeowExternals)

/-! Fields -/

def nodeName (proxy : MihomoProxyConfig) (mapping : Mapping) : Str :=
  (stringField mapping ["name".toList]).getD proxy.name

def missing (name : Str) (keys : List Str) : Str :=
  "代理 ".toList++name++" 缺少 ".toList++['/'].intercalate keys

def requiredString (mapping : Mapping) (keys : List Str) (name : Str) : Except Str Str :=
  match stringField mapping keys with
  | some value => .ok value
  | none => .error (missing name keys)

def requiredPort (mapping : Mapping) (keys : List Str) (name : Str) : Except Str UInt16 :=
  match u16Field mapping keys with
  | some port => .ok port
  | none => .error (missing name keys)

def uuidBytes (value : Str) : Except Str Bytes :=
  match env.uuidParse value with
  | some bytes => .ok bytes
  | none => .error ("uuid 无效：".toList++value)

def udpField (mapping : Mapping) : Bool := (boolField mapping ["udp".toList]).getD false

def parseVmessSecurity (mapping : Mapping) : Except Str VmessSecurity :=
  let security := toAsciiLowercase
    ((stringField mapping ["cipher".toList,"security".toList,"scy".toList]).getD "auto".toList)
  if security="auto".toList then .ok env.autoSecurity
  else if security ∈ ["aes-128-gcm".toList,"aead".toList] then .ok .aes128Gcm
  else if security ∈ ["chacha20-poly1305".toList,"chacha20-ietf-poly1305".toList] then
    .ok .chaCha20Poly1305
  else if security ∈ ["none".toList,"zero".toList] then .ok .none
  else .error ("不支持的 VMess security：".toList++security)

def parseVlessFlow (mapping : Mapping) : Except Str (Option VlessFlow) :=
  match stringField mapping ["flow".toList] with
  | none => .ok none
  | some flow =>
    let flow := toAsciiLowercase flow
    if flow ∈ [[],"none".toList] then .ok none
    else if flow="xtls-rprx-vision".toList ∨ "xtls-rprx-vision-".toList.isPrefixOf flow then
      .ok (some .xtlsRprxVision)
    else .error ("不支持的 VLESS flow：".toList++flow)

/-- `u64::saturating_mul` -/
def saturatingMul (a b : ℕ) : ℕ := min (a*b) (2^64-1)

def parseHyBandwidth (value key : Str) : Option ℕ :=
  let value := trim value
  if value=[] then none
  else
    let digits := value.takeWhile Char.isDigit
    let suffix := toAsciiLowercase (trim (value.drop digits.length))
    (parseU64 digits).bind (fun number =>
      if "mbps".toList <:+: key then some (saturatingMul number 1000000)
      else if suffix ∈ [[],"b".toList,"bps".toList] then some number
      else if suffix ∈ ["k".toList,"kb".toList,"kbps".toList] then some (saturatingMul number 1000)
      else if suffix ∈ ["m".toList,"mb".toList,"mbps".toList] then some (saturatingMul number 1000000)
      else if suffix ∈ ["g".toList,"gb".toList,"gbps".toList] then
        some (saturatingMul number 1000000000)
      else none)

def hyBandwidthBps (mapping : Mapping) (keys : List Str) : Option ℕ :=
  keys.findSome? (fun key =>
    ((mapping.get key).bind valueToString).bind (fun raw => parseHyBandwidth raw key))

def upBps (mapping : Mapping) : ℕ :=
  (hyBandwidthBps mapping ["up".toList,"up-mbps".toList,"upmbps".toList,"up_mbps".toList]).getD 0

def downBps (mapping : Mapping) : ℕ :=
  (hyBandwidthBps mapping ["down".toList,"down-mbps".toList,"downmbps".toList,"down_mbps".toList]).getD 0

def parseHy2HopInterval (mapping : Mapping) : Option Hy2HopInterval := do
  let raw ← stringField mapping ["hop-interval".toList,"hop_interval".toList]
  let (min,max) ← splitOnce '-' raw
  let minSecs ← env.parseSecs min
  let maxSecs ← env.parseSecs max
  return ⟨minSecs,maxSecs⟩

def parseHy2Obfs (mapping : Mapping) : Except Str (Option Hy2Obfs) :=
  let obfs := ((stringField mapping ["obfs".toList]).map (fun value => toAsciiLowercase (trim value))).filter
    (fun value => value ≠ [])
  match obfs with
  | none => .ok none
  | some obfs =>
    if obfs="salamander".toList then .ok (some .salamander)
    else .error ("不支持的 Hysteria2 obfs：".toList++obfs)

def parseSnellVersion (mapping : Mapping) : Except Str SnellVersion :=
  let version := trimStartMatches 'v' ((stringField mapping ["version".toList]).getD "3".toList)
  if version="3".toList then .ok .v3
  else if version="4".toList then .ok .v4
  else if version="5".toList then .ok .v5
  else .error ("不支持的 Snell version：".toList++version)

def parseSnellObfs (mapping : Mapping) (server : Str) : Except Str SnellObfs :=
  match mappingField mapping "obfs-opts".toList with
  | none => .ok .none
  | some options =>
    let mode := toAsciiLowercase ((stringField options ["mode".toList]).getD [])
    if mode=[] then .ok .none
    else if mode="http".toList then .ok (.http ((stringField options ["host".toList]).getD server))
    else if mode="tls".toList then
      .ok (.tls ((stringField options ["host".toList,"server".toList]).getD server))
    else .error ("不支持的 Snell obfs 模式：".toList++mode)

/-! Builders -/

def hexLower (bytes : Bytes) : Str := bytes.flatMap hexByte

/-- The key and the label are made of the kind that the source was listed under. -/
def meowNode (proxy : MihomoProxyConfig) (name server : Str) (port : UInt16) : MeowProxyNode where
  key := "meow://".toList++proxy.kind++ ':'::name++ '@'::server++ ':'::decimal port.toNat
  label := "meow:".toList++proxy.kind++ ':'::name
  source := proxy

abbrev MeowBuild := Except Str (MeowProxyNode × MeowAdapter)

def built (proxy : MihomoProxyConfig) (name : Str) (adapter : MeowAdapter) : MeowProxyNode × MeowAdapter :=
  (meowNode proxy name adapter.server adapter.port,adapter)

/-- An adapter whose constructor may refuse its settings. -/
def tryBuilt (proxy : MihomoProxyConfig) (name : Str) (adapter : MeowAdapter) : MeowBuild :=
  if env.adapterNew name adapter then .ok (built proxy name adapter) else .error []

variable (proxy : MihomoProxyConfig) (mapping : Mapping)

def buildVmess : MeowBuild := do
  let name := nodeName proxy mapping
  let server ← requiredString mapping ["server".toList] name
  let port ← requiredPort mapping ["port".toList] name
  let uuid ← uuidBytes env (← requiredString mapping ["uuid".toList,"id".toList] name)
  let alterId := (u16Field mapping ["alterId".toList,"alter-id".toList,"aid".toList]).getD 0
  if alterId ≠ 0 then
    .error ("旧版 VMess alterId=".toList++decimal alterId.toNat++" 原生暂不支持".toList)
  else
    let security ← parseVmessSecurity env mapping
    let transport ← buildTransportChain env.toTransportExternals mapping server
    return built proxy name (.vmess server port uuid security (udpField mapping) transport)

def buildVless : MeowBuild := do
  let name := nodeName proxy mapping
  let server ← requiredString mapping ["server".toList] name
  let port ← requiredPort mapping ["port".toList] name
  let uuid ← uuidBytes env (← requiredString mapping ["uuid".toList,"id".toList] name)
  let encryption := (stringField mapping ["encryption".toList]).getD []
  if encryption ∉ [[],"none".toList] then
    .error ("不支持的 VLESS encryption：".toList++encryption)
  else
    let flow ← parseVlessFlow mapping
    let transport ← buildTransportChain env.toTransportExternals mapping server
    return built proxy name (.vless server port uuid flow (udpField mapping) transport)

def buildTrojan : MeowBuild := do
  let name := nodeName proxy mapping
  let server ← requiredString mapping ["server".toList] name
  let port ← requiredPort mapping ["port".toList] name
  let network := transportNetwork mapping
  let password ← requiredString mapping ["password".toList] name
  let sni ← optionalTlsServerNameOrFallback env.toTransportExternals
    (stringField mapping ["sni".toList,"servername".toList]) server
  validateTlsServerName env.toTransportExternals sni
  if network ∉ [[],"tcp".toList,"trojan".toList] then
    let transport ← buildTrojanTransportChain env.toTransportExternals mapping server sni
    return built proxy name
      (.trojanTransport server port (hexLower (env.sha224 (utf8 password))) transport)
  else
    return built proxy name
      (.trojan server port password sni (skipCertVerify mapping) (udpField mapping))

/-- `HysteriaAdapter::new` -/
def hysteriaAdapterNew (name : Str) (options : HysteriaOptions) : Except Str MeowAdapter :=
  if options.auth=[] then
    .error (env.proxyErrorText ("hysteria[".toList++name++"]: auth must not be empty".toList))
  else if options.port=0 then
    .error (env.proxyErrorText ("hysteria[".toList++name++"]: port must be non-zero".toList))
  else .ok (.hysteria options)

def hysteriaAlpn : Str :=
  (((stringField mapping ["alpn".toList]).map (firstPiece [','])).filter
    (fun alpn => trim alpn ≠ [])).getD "hysteria".toList

def buildHysteria : MeowBuild := do
  let name := nodeName proxy mapping
  let server ← requiredString mapping ["server".toList] name
  let port ← requiredPort mapping ["port".toList] name
  let auth ← requiredString mapping ["auth".toList,"password".toList] name
  let protocol := toAsciiLowercase ((stringField mapping ["protocol".toList]).getD "udp".toList)
  if protocol ∉ [[],"udp".toList] then
    .error ("Hysteria v1 原生暂不支持 protocol=".toList++protocol)
  else
    let adapter ← hysteriaAdapterNew env name
      { server := server
        port := port
        auth := utf8 auth
        sni := stringField mapping ["sni".toList,"servername".toList]
        alpn := hysteriaAlpn mapping
        skipCertVerify := skipCertVerify mapping
        upBps := upBps mapping
        downBps := downBps mapping
        obfsPassword := (stringField mapping ["obfs".toList,"obfs-password".toList,
          "obfs_password".toList]).filter (fun value => value ≠ [])
        fastOpen := (boolField mapping ["fast-open".toList]).getD false }
    return built proxy name adapter

def buildHysteria2 : MeowBuild := do
  let name := nodeName proxy mapping
  let server ← requiredString mapping ["server".toList] name
  let port ← requiredPort mapping ["port".toList] name
  let password ← requiredString mapping ["password".toList,"auth".toList] name
  let obfs ← parseHy2Obfs mapping
  tryBuilt env proxy name (.hysteria2
    { server := server
      port := port
      password := password
      sni := stringField mapping ["sni".toList,"servername".toList]
      skipCertVerify := skipCertVerify mapping
      udp := udpField mapping
      upBps := upBps mapping
      downBps := downBps mapping
      obfs := obfs
      obfsPassword := stringField mapping ["obfs-password".toList,"obfs_password".toList]
      ports := stringField mapping ["ports".toList,"mport".toList]
      hopInterval := parseHy2HopInterval env mapping
      fingerprint := stringField mapping ["pinSHA256".toList,"fingerprint".toList]
      fastOpen := (boolField mapping ["fast-open".toList]).getD false })

def buildSnell : MeowBuild := do
  let name := nodeName proxy mapping
  let server ← requiredString mapping ["server".toList] name
  let port ← requiredPort mapping ["port".toList] name
  let psk ← requiredString mapping ["psk".toList,"password".toList] name
  let version ← parseSnellVersion mapping
  let obfs ← parseSnellObfs mapping server
  tryBuilt env proxy name (.snell server port psk obfs version (udpField mapping)
    ((boolField mapping ["reuse".toList]).getD false))

def buildAnytls : MeowBuild := do
  let name := nodeName proxy mapping
  let server ← requiredString mapping ["server".toList] name
  let port := (u16Field mapping ["port".toList]).getD 8443
  let password ← requiredString mapping ["password".toList] name
  tryBuilt env proxy name (.anytls server port password
    (stringField mapping ["sni".toList,"servername".toList]) (skipCertVerify mapping))

def buildShadowsocks : MeowBuild := do
  let name := nodeName proxy mapping
  let server ← requiredString mapping ["server".toList] name
  let port ← requiredPort mapping ["port".toList] name
  let cipher ← requiredString mapping ["cipher".toList,"method".toList] name
  let password ← requiredString mapping ["password".toList] name
  let plugin := stringField mapping ["plugin".toList]
  let unknown := plugin.filter
    (fun plugin => !env.isBuiltinObfsPlugin plugin && plugin ≠ "v2ray-plugin".toList)
  match unknown with
  | some plugin => .error ("Shadowsocks plugin ".toList++plugin++" 原生暂不支持".toList)
  | none =>
    tryBuilt env proxy name (.shadowsocks server port password cipher (udpField mapping) plugin
      (stringField mapping ["plugin-opts".toList]))

def buildMeowNode : MeowBuild :=
  match asMapping proxy.value with
  | none => .error ("复杂代理 ".toList++proxy.name++" 不是 YAML mapping".toList)
  | some mapping =>
    let kind := toAsciiLowercase ((stringField mapping ["type".toList]).getD proxy.kind)
    if kind="vmess".toList then buildVmess env proxy mapping
    else if kind="vless".toList then buildVless env proxy mapping
    else if kind="trojan".toList then buildTrojan env proxy mapping
    else if kind="hysteria".toList then buildHysteria env proxy mapping
    else if kind ∈ ["hysteria2".toList,"hy2".toList] then buildHysteria2 env proxy mapping
    else if kind="snell".toList then buildSnell env proxy mapping
    else if kind="anytls".toList then buildAnytls env proxy mapping
    else if kind ∈ ["ss".toList,"shadowsocks".toList] then buildShadowsocks env proxy mapping
    else .error ("原生复杂代理类型暂不支持：".toList++kind)

/-! What a node is built as -/

/-- A builder that only ever returns nodes of this source and this name. -/
def Named (proxy : MihomoProxyConfig) (name : Str) (build : MeowBuild) : Prop :=
  ∀ result, build = .ok result → result=built proxy name result.2

variable {env proxy mapping} {name : Str} {α : Type}

namespace Named

lemma error (e : Str) : Named proxy name (.error e) := by
  intro result h
  cases h

lemma built (adapter : MeowAdapter) : Named proxy name (.ok (Mihomo.built proxy name adapter)) := by
  intro result h
  cases h
  rfl

lemma tryBuilt (adapter : MeowAdapter) : Named proxy name (tryBuilt env proxy name adapter) := by
  unfold Mihomo.tryBuilt
  split_ifs
  · exact built adapter
  · exact error []

lemma bind {x : Except Str α} {build : α → MeowBuild} (h : ∀ a, Named proxy name (build a)) :
    Named proxy name (x >>= build) := by
  intro result hresult
  obtain ⟨a,_,hbuild⟩ := bind_eq_ok.mp hresult
  exact h a result hbuild

lemma ite {p : Prop} [Decidable p] {x y : MeowBuild} (hx : Named proxy name x) (hy : Named proxy name y) :
    Named proxy name (if p then x else y) := by
  split_ifs
  · exact hx
  · exact hy

end Named

lemma buildVmess_named : Named proxy (nodeName proxy mapping) (buildVmess env proxy mapping) := by
  refine .bind fun _ => .bind fun _ => .bind fun _ => .bind fun _ => .ite (.error _) ?_
  exact .bind fun _ => .bind fun _ => .built _

lemma buildVless_named : Named proxy (nodeName proxy mapping) (buildVless env proxy mapping) := by
  refine .bind fun _ => .bind fun _ => .bind fun _ => .bind fun _ => .ite (.error _) ?_
  exact .bind fun _ => .bind fun _ => .built _

lemma buildTrojan_named : Named proxy (nodeName proxy mapping) (buildTrojan env proxy mapping) := by
  refine .bind fun _ => .bind fun _ => .bind fun _ => .bind fun _ => .bind fun _ => ?_
  exact .ite (.bind fun _ => .built _) (.built _)

lemma buildHysteria_named : Named proxy (nodeName proxy mapping) (buildHysteria env proxy mapping) := by
  refine .bind fun _ => .bind fun _ => .bind fun _ => .ite (.error _) ?_
  exact .bind fun _ => .built _

lemma buildHysteria2_named : Named proxy (nodeName proxy mapping) (buildHysteria2 env proxy mapping) :=
  .bind fun _ => .bind fun _ => .bind fun _ => .bind fun _ => .tryBuilt _

lemma buildSnell_named : Named proxy (nodeName proxy mapping) (buildSnell env proxy mapping) :=
  .bind fun _ => .bind fun _ => .bind fun _ => .bind fun _ => .bind fun _ => .tryBuilt _

lemma buildAnytls_named : Named proxy (nodeName proxy mapping) (buildAnytls env proxy mapping) :=
  .bind fun _ => .bind fun _ => .tryBuilt _

lemma buildShadowsocks_named :
    Named proxy (nodeName proxy mapping) (buildShadowsocks env proxy mapping) := by
  refine .bind fun _ => .bind fun _ => .bind fun _ => .bind fun _ => ?_
  dsimp only
  split
  · exact .error _
  · exact .tryBuilt _

/-- The name that goes into the key. -/
def sourceName (proxy : MihomoProxyConfig) : Str := nodeName proxy ((asMapping proxy.value).getD [])

/-- Of the adapter only the server and the port go into the key. -/
theorem buildMeowNode_eq {node : MeowProxyNode} {adapter : MeowAdapter}
    (h : buildMeowNode env proxy = .ok (node,adapter)) :
    node=meowNode proxy (sourceName proxy) adapter.server adapter.port := by
  have hnamed : Named proxy (sourceName proxy) (buildMeowNode env proxy) := by
    unfold buildMeowNode sourceName
    split
    · exact .error _
    · next hvalue =>
      rw [hvalue,Option.getD_some]
      refine .ite buildVmess_named (.ite buildVless_named (.ite buildTrojan_named ?_))
      refine .ite buildHysteria_named (.ite buildHysteria2_named (.ite buildSnell_named ?_))
      exact .ite buildAnytls_named (.ite buildShadowsocks_named (.error _))
  exact congrArg Prod.fst (hnamed _ h)

end RotatorProxy.Mihomo
