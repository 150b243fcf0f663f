import RotatorProxy.Mihomo.Yaml

/-! The transport under a complex node: the layers that its mapping asks for, with their settings. The
layers themselves are other crates; one is refused when its crate refuses the settings. -/
namespace RotatorProxy.Mihomo
open Text Proxy

structure RealityConfig where
  publicKey : Bytes
  shortId : Bytes
  supportX25519Mlkem768 : Bool
  deriving DecidableEq

structure TlsConfig where
  serverName : Str
  skipCertVerify : Bool
  alpn : List Str
  fingerprint : Option Str
  reality : Option RealityConfig
  deriving DecidableEq

structure WsConfig where
  path : Str
  hostHeader : Option Str
  extraHeaders : List (Str × Str)
  maxEarlyData : ℕ
  earlyDataHeaderName : Option Str
  deriving DecidableEq

structure GrpcConfig where
  serviceName : Str
  authority : Str
  deriving DecidableEq

structure H2Config where
  path : Str
  hosts : List Str
  deriving DecidableEq

structure HttpUpgradeConfig where
  path : Str
  hostHeader : Option Str
  extraHeaders : List (Str × Str)
  deriving DecidableEq

inductive TransportLayer
  | tls (config : TlsConfig)
  | ws (config : WsConfig)
  | grpc (config : GrpcConfig)
  | h2 (config : H2Config)
  | httpUpgrade (config : HttpUpgradeConfig)
  deriving DecidableEq

abbrev TransportChain := List TransportLayer

/-- The crates behind the layers. -/
structure TransportExternals where
  /-- `ServerName::try_from` -/
  isServerName : Str → Bool
  /-- `http::uri::Authority::try_from` -/
  isAuthority : Str → Bool
  base64UrlSafeNoPad : Str → Option Bytes
  base64UrlSafePad : Str → Option Bytes
  tlsLayerNew : TlsConfig → Bool
  wsLayerNew : WsConfig → Bool

variable (env : TransportExternals)

/-! Names -/

def validateTlsServerName (value : Str) : Except Str Unit :=
  if env.isServerName value then .ok () else .error ("TLS server name/SNI 无效：".toList++value)

/-- A value without its white space, if anything is left of it. -/
def trimmed (value : Option Str) : Option Str := (value.map trim).filter (fun value => value ≠ [])

def optionalTlsServerNameOrFallback (value : Option Str) (fallback : Str) : Except Str Str :=
  match trimmed value with
  | none => .ok fallback
  | some value => (validateTlsServerName env value).map (fun _ => value)

def validAuthorityOrFallback (value : Option Str) (fallback : Str) : Str :=
  match trimmed value with
  | none => fallback
  | some value => if env.isAuthority value then value else fallback

/-! Reality -/

def hexNibble (byte : UInt8) : Option ℕ :=
  let n := byte.toNat
  if 48 ≤ n ∧ n ≤ 57 then some (n-48)
  else if 97 ≤ n ∧ n ≤ 102 then some (n-87)
  else if 65 ≤ n ∧ n ≤ 70 then some (n-55)
  else none

/-- Pairs of digits; an odd one out is refused. -/
def decodeHex : Bytes → Option Bytes
  | [] => some []
  | [_] => none
  | a::b::rest => do
    let high ← hexNibble a
    let low ← hexNibble b
    let bytes ← decodeHex rest
    return UInt8.ofNat (high*16+low)::bytes

def decodeRealityPublicKey (value : Str) : Except Str Bytes :=
  let value := trim value
  match (env.base64UrlSafeNoPad value).or (env.base64UrlSafePad value) with
  | none => .error "无效的 reality public-key base64".toList
  | some decoded =>
    if decoded.length=32 then .ok decoded
    else .error ("reality public-key 解码后必须是 32 字节，实际为 ".toList++decimal decoded.length)

def decodeRealityShortId (value : Str) : Except Str Bytes :=
  match decodeHex (utf8 (trim value)) with
  | none => .error "无效的 reality short-id hex".toList
  | some bytes =>
    if 8 < bytes.length then .error "reality short-id 最多 8 字节".toList
    else .ok (bytes++List.replicate (8-bytes.length) 0)

def parseRealityConfig (mapping : Mapping) : Except Str (Option RealityConfig) :=
  match mappingField mapping "reality-opts".toList with
  | none => .ok none
  | some options =>
    match stringField options ["public-key".toList,"public_key".toList,"pbk".toList] with
    | none => .error "reality-opts 缺少 public-key".toList
    | some publicKey => do
      let publicKey ← decodeRealityPublicKey env publicKey
      let shortId ← decodeRealityShortId
        ((stringField options ["short-id".toList,"short_id".toList,"sid".toList]).getD [])
      return some ⟨publicKey,shortId,(boolField options ["support-x25519-mlkem768".toList,
        "support_x25519_mlkem768".toList,"x25519-mlkem768".toList]).getD false⟩

/-! Layers -/

def skipCertVerify (mapping : Mapping) : Bool :=
  (boolField mapping ["skip-cert-verify".toList,"allow-insecure".toList]).getD false

def pushTlsLayer (chain : TransportChain) (mapping : Mapping) (serverName : Str)
    (reality : Option RealityConfig) : Except Str TransportChain :=
  let config : TlsConfig :=
    { serverName := serverName
      skipCertVerify := skipCertVerify mapping
      alpn := (stringListField mapping ["alpn".toList]).getD []
      fingerprint := stringField mapping ["client-fingerprint".toList,"fingerprint".toList]
      reality := reality }
  if env.tlsLayerNew config then .ok (chain++[.tls config]) else .error []

def transportNetwork (mapping : Mapping) : Str :=
  toAsciiLowercase ((stringField mapping ["network".toList,"type".toList]).getD [])

def wsConfig (mapping : Mapping) (server : Str) : WsConfig :=
  let options := mappingField mapping "ws-opts".toList
  { path := (stringFieldIn options ["path".toList]).getD ['/']
    hostHeader := some (validAuthorityOrFallback env
      (((stringFieldIn options ["host".toList]).or (headerField options "Host".toList)).or
        (stringField mapping ["host".toList])) server)
    extraHeaders := headersFromMappingWithout options ["host".toList]
    maxEarlyData := (usizeFieldIn options ["max-early-data".toList]).getD 0
    earlyDataHeaderName := stringFieldIn options ["early-data-header-name".toList] }

def grpcConfig (mapping : Mapping) (server : Str) : GrpcConfig :=
  let options := mappingField mapping "grpc-opts".toList
  { serviceName := (stringFieldIn options
      ["grpc-service-name".toList,"serviceName".toList,"service-name".toList]).getD "GunService".toList
    authority := (stringFieldIn options ["authority".toList,"host".toList]).getD server }

def h2Config (mapping : Mapping) (server : Str) : H2Config :=
  let options := mappingField mapping "h2-opts".toList
  { path := (stringFieldIn options ["path".toList]).getD ['/']
    hosts := ((stringListFieldIn options ["host".toList]).or
      ((stringField mapping ["host".toList]).map (fun host => [host]))).getD [server] }

def httpUpgradeConfig (mapping : Mapping) (server : Str) : HttpUpgradeConfig :=
  let options := mappingField mapping "http-upgrade-opts".toList
  { path := (stringFieldIn options ["path".toList]).getD ['/']
    hostHeader := (stringFieldIn options ["host".toList]).or (some server)
    extraHeaders := headersFromMappingWithout options ["host".toList] }

/-- The layer that `push_transport_layers` is to push, if the network needs one. -/
def transportLayer (mapping : Mapping) (server : Str) : Except Str (Option TransportLayer) :=
  let network := transportNetwork mapping
  if network ∈ [[],"tcp".toList,"vmess".toList,"vless".toList,"trojan".toList] then .ok none
  else if network ∈ ["ws".toList,"websocket".toList] then .ok (some (.ws (wsConfig env mapping server)))
  else if network="grpc".toList then .ok (some (.grpc (grpcConfig mapping server)))
  else if network ∈ ["h2".toList,"http".toList] then .ok (some (.h2 (h2Config mapping server)))
  else if network ∈ ["httpupgrade".toList,"http-upgrade".toList] then
    .ok (some (.httpUpgrade (httpUpgradeConfig mapping server)))
  else .error ("不支持的传输网络：".toList++network)

/-- Only the WebSocket layer can be refused. -/
def pushTransportLayers (chain : TransportChain) (mapping : Mapping) (server : Str) :
    Except Str TransportChain := do
  match ← transportLayer env mapping server with
  | none => return chain
  | some (.ws config) => if env.wsLayerNew config then .ok (chain++[.ws config]) else .error []
  | some layer => return chain++[layer]

def buildTransportChain (mapping : Mapping) (server : Str) : Except Str TransportChain := do
  let reality ← parseRealityConfig env mapping
  let chain ←
    if (boolField mapping ["tls".toList]).getD false || reality.isSome then do
      let serverName ← optionalTlsServerNameOrFallback env
        (stringField mapping ["servername".toList,"sni".toList]) server
      pushTlsLayer env [] mapping serverName reality
    else .ok []
  pushTransportLayers env chain mapping server

def buildTrojanTransportChain (mapping : Mapping) (server sni : Str) : Except Str TransportChain := do
  let chain ← pushTlsLayer env [] mapping sni none
  pushTransportLayers env chain mapping server

/-- A chain that is built ends with the layer of its network. -/
theorem pushTransportLayers_ok {env : TransportExternals} {chain chain' : TransportChain} {mapping : Mapping}
    {server : Str} (h : pushTransportLayers env chain mapping server = .ok chain') :
    ∃ layer, transportLayer env mapping server = .ok layer ∧ chain'=chain++layer.toList := by
  unfold pushTransportLayers at h
  cases hlayer : transportLayer env mapping server with
  | error e =>
    rw [hlayer] at h
    cases h
  | ok layer =>
    rw [hlayer] at h
    refine ⟨layer,rfl,?_⟩
    obtain _ | layer := layer
    · cases h
      exact (List.append_nil _).symm
    · cases layer with
      | ws config =>
        have hws : (if env.wsLayerNew config then .ok (chain++[.ws config]) else .error [] :
          Except Str TransportChain) = .ok chain' := h
        split_ifs at hws
        cases hws
        rfl
      | tls config | grpc config | h2 config | httpUpgrade config =>
        cases h
        rfl

/-- Crates that refuse nothing. -/
def plainTransportExternals : TransportExternals where
  isServerName _ := true
  isAuthority _ := true
  base64UrlSafeNoPad _ := none
  base64UrlSafePad _ := none
  tlsLayerNew _ := true
  wsLayerNew _ := true

end RotatorProxy.Mihomo
