import RotatorProxy.Mihomo.Build

/-! What of its entry a complex node dials by: the fields of the mapping that decide about the adapter,
protocol by protocol and layer by layer. -/
namespace RotatorProxy.Mihomo
open Text Proxy Library

/-! The fields of an entry -/

def entryOf (source : MihomoProxyConfig) : Mapping := (asMapping source.value).getD []

inductive Protocol
  | vmess
  | vless
  | trojan
  | hysteria
  | hysteria2
  | snell
  | anytls
  | shadowsocks
  | unknown
  deriving DecidableEq

/-- The `type` of the entry, or else the kind that it was listed under. -/
def protocolOf (source : MihomoProxyConfig) : Protocol :=
  let kind := toAsciiLowercase ((stringField (entryOf source) ["type".toList]).getD source.kind)
  if kind="vmess".toList then .vmess
  else if kind="vless".toList then .vless
  else if kind="trojan".toList then .trojan
  else if kind="hysteria".toList then .hysteria
  else if kind ∈ ["hysteria2".toList,"hy2".toList] then .hysteria2
  else if kind="snell".toList then .snell
  else if kind="anytls".toList then .anytls
  else if kind ∈ ["ss".toList,"shadowsocks".toList] then .shadowsocks
  else .unknown

def entryServer (m : Mapping) : Str := (stringField m ["server".toList]).getD []

/-- Only AnyTLS has a port without one in the entry. -/
def entryPort (protocol : Protocol) (m : Mapping) : UInt16 :=
  (u16Field m ["port".toList]).getD (if protocol = .anytls then 8443 else 0)

inductive Network
  | plain
  | ws
  | grpc
  | h2
  | httpUpgrade
  | unknown
  deriving DecidableEq

def networkOf (m : Mapping) : Network :=
  let network := transportNetwork m
  if network ∈ [[],"tcp".toList,"vmess".toList,"vless".toList,"trojan".toList] then .plain
  else if network ∈ ["ws".toList,"websocket".toList] then .ws
  else if network="grpc".toList then .grpc
  else if network ∈ ["h2".toList,"http".toList] then .h2
  else if network ∈ ["httpupgrade".toList,"http-upgrade".toList] then .httpUpgrade
  else .unknown

def realityOpts (m : Mapping) : Option Mapping := mappingField m "reality-opts".toList

def UsesTls (m : Mapping) : Prop := (boolField m ["tls".toList]).getD false = true ∨ (realityOpts m).isSome = true

instance (m : Mapping) : Decidable (UsesTls m) := inferInstanceAs (Decidable (_ ∨ _))

/-- A Trojan node over TLS alone, with the adapter that does TLS itself. -/
def TrojanDirect (m : Mapping) : Prop := transportNetwork m ∈ [[],"tcp".toList,"trojan".toList]

instance (m : Mapping) : Decidable (TrojanDirect m) := inferInstanceAs (Decidable (_ ∈ _))

/-! Entries that say the same -/

section Same
variable (env : MeowExternals) (m m' : Mapping)

/-- The texts under the first of these keys. -/
def SameText (keys : List Str) : Prop := stringField m keys=stringField m' keys

def SameFlag (keys : List Str) : Prop := (boolField m keys).getD false=(boolField m' keys).getD false

/-- A server name that is not blank, or else the server. -/
def SameServerName (keys : List Str) : Prop :=
  (trimmed (stringField m keys)).getD (entryServer m)=(trimmed (stringField m' keys)).getD (entryServer m')

@[mk_iff] structure SameReality : Prop where
  present : (realityOpts m).isSome=(realityOpts m').isSome
  publicKey : ∀ o ∈ realityOpts m, ∀ o' ∈ realityOpts m',
    ((stringField o ["public-key".toList,"public_key".toList,"pbk".toList]).map
      (decodeRealityPublicKey env.toTransportExternals))=
        (stringField o' ["public-key".toList,"public_key".toList,"pbk".toList]).map
          (decodeRealityPublicKey env.toTransportExternals)
  shortId : ∀ o ∈ realityOpts m, ∀ o' ∈ realityOpts m',
    decodeRealityShortId ((stringField o ["short-id".toList,"short_id".toList,"sid".toList]).getD [])=
      decodeRealityShortId ((stringField o' ["short-id".toList,"short_id".toList,"sid".toList]).getD [])
  supportX25519Mlkem768 : ∀ o ∈ realityOpts m, ∀ o' ∈ realityOpts m', SameFlag o o'
    ["support-x25519-mlkem768".toList,"support_x25519_mlkem768".toList,"x25519-mlkem768".toList]

/-- What a TLS layer goes by besides its server name. -/
@[mk_iff] structure SameTlsOptions : Prop where
  skipCertVerify : SameFlag m m' ["skip-cert-verify".toList,"allow-insecure".toList]
  alpn : (stringListField m ["alpn".toList]).getD []=(stringListField m' ["alpn".toList]).getD []
  fingerprint : SameText m m' ["client-fingerprint".toList,"fingerprint".toList]

@[mk_iff] structure SameTls : Prop where
  serverName : SameServerName m m' ["servername".toList,"sni".toList]
  options : SameTlsOptions m m'
  reality : SameReality env m m'

/-- The host that a WebSocket request names: of the options, of their headers or of the entry. -/
def wsHost (m : Mapping) : Str :=
  let options := mappingField m "ws-opts".toList
  validAuthorityOrFallback env.toTransportExternals
    (((stringFieldIn options ["host".toList]).or (headerField options "Host".toList)).or
      (stringField m ["host".toList])) (entryServer m)

@[mk_iff] structure SameWs : Prop where
  path : (stringFieldIn (mappingField m "ws-opts".toList) ["path".toList]).getD ['/']=
    (stringFieldIn (mappingField m' "ws-opts".toList) ["path".toList]).getD ['/']
  host : wsHost env m=wsHost env m'
  headers : headersFromMappingWithout (mappingField m "ws-opts".toList) ["host".toList]=
    headersFromMappingWithout (mappingField m' "ws-opts".toList) ["host".toList]
  maxEarlyData : (usizeFieldIn (mappingField m "ws-opts".toList) ["max-early-data".toList]).getD 0=
    (usizeFieldIn (mappingField m' "ws-opts".toList) ["max-early-data".toList]).getD 0
  earlyDataHeaderName : stringFieldIn (mappingField m "ws-opts".toList) ["early-data-header-name".toList]=
    stringFieldIn (mappingField m' "ws-opts".toList) ["early-data-header-name".toList]

@[mk_iff] structure SameGrpc : Prop where
  serviceName : (stringFieldIn (mappingField m "grpc-opts".toList)
      ["grpc-service-name".toList,"serviceName".toList,"service-name".toList]).getD "GunService".toList=
    (stringFieldIn (mappingField m' "grpc-opts".toList)
      ["grpc-service-name".toList,"serviceName".toList,"service-name".toList]).getD "GunService".toList
  authority : (stringFieldIn (mappingField m "grpc-opts".toList) ["authority".toList,"host".toList]).getD
      (entryServer m)=
    (stringFieldIn (mappingField m' "grpc-opts".toList) ["authority".toList,"host".toList]).getD (entryServer m')

@[mk_iff] structure SameH2 : Prop where
  path : (stringFieldIn (mappingField m "h2-opts".toList) ["path".toList]).getD ['/']=
    (stringFieldIn (mappingField m' "h2-opts".toList) ["path".toList]).getD ['/']
  hosts : ((stringListFieldIn (mappingField m "h2-opts".toList) ["host".toList]).or
      ((stringField m ["host".toList]).map (fun host => [host]))).getD [entryServer m]=
    ((stringListFieldIn (mappingField m' "h2-opts".toList) ["host".toList]).or
      ((stringField m' ["host".toList]).map (fun host => [host]))).getD [entryServer m']

@[mk_iff] structure SameHttpUpgrade : Prop where
  path : (stringFieldIn (mappingField m "http-upgrade-opts".toList) ["path".toList]).getD ['/']=
    (stringFieldIn (mappingField m' "http-upgrade-opts".toList) ["path".toList]).getD ['/']
  host : (stringFieldIn (mappingField m "http-upgrade-opts".toList) ["host".toList]).getD (entryServer m)=
    (stringFieldIn (mappingField m' "http-upgrade-opts".toList) ["host".toList]).getD (entryServer m')
  headers : headersFromMappingWithout (mappingField m "http-upgrade-opts".toList) ["host".toList]=
    headersFromMappingWithout (mappingField m' "http-upgrade-opts".toList) ["host".toList]

/-- The settings of the layer of a network. -/
def SameLayer : Network → Prop
  | .ws => SameWs env m m'
  | .grpc => SameGrpc m m'
  | .h2 => SameH2 m m'
  | .httpUpgrade => SameHttpUpgrade m m'
  | .plain | .unknown => True

@[mk_iff] structure SameNetwork : Prop where
  network : networkOf m=networkOf m'
  layer : SameLayer env m m' (networkOf m)

@[mk_iff] structure SameTransport : Prop where
  usesTls : UsesTls m ↔ UsesTls m'
  tls : UsesTls m → SameTls env m m'
  network : SameNetwork env m m'

@[mk_iff] structure SameVmess : Prop where
  uuid : (stringField m ["uuid".toList,"id".toList]).bind env.uuidParse=
    (stringField m' ["uuid".toList,"id".toList]).bind env.uuidParse
  security : parseVmessSecurity env m=parseVmessSecurity env m'
  transport : SameTransport env m m'

@[mk_iff] structure SameVless : Prop where
  uuid : (stringField m ["uuid".toList,"id".toList]).bind env.uuidParse=
    (stringField m' ["uuid".toList,"id".toList]).bind env.uuidParse
  flow : parseVlessFlow m=parseVlessFlow m'
  transport : SameTransport env m m'

/-- A Trojan node over another network sends a digest of its password. -/
@[mk_iff] structure SameTrojan : Prop where
  direct : TrojanDirect m ↔ TrojanDirect m'
  serverName : SameServerName m m' ["sni".toList,"servername".toList]
  password : TrojanDirect m → SameText m m' ["password".toList]
  skipCertVerify : TrojanDirect m → SameFlag m m' ["skip-cert-verify".toList,"allow-insecure".toList]
  digest : ¬TrojanDirect m →
    hexLower (env.sha224 (utf8 ((stringField m ["password".toList]).getD [])))=
      hexLower (env.sha224 (utf8 ((stringField m' ["password".toList]).getD [])))
  tls : ¬TrojanDirect m → SameTlsOptions m m'
  network : ¬TrojanDirect m → SameNetwork env m m'

@[mk_iff] structure SameHysteria : Prop where
  auth : SameText m m' ["auth".toList,"password".toList]
  sni : SameText m m' ["sni".toList,"servername".toList]
  alpn : hysteriaAlpn m=hysteriaAlpn m'
  skipCertVerify : SameFlag m m' ["skip-cert-verify".toList,"allow-insecure".toList]
  up : upBps m=upBps m'
  down : downBps m=downBps m'
  obfs : (stringField m ["obfs".toList,"obfs-password".toList,"obfs_password".toList]).filter (fun s => s ≠ [])=
    (stringField m' ["obfs".toList,"obfs-password".toList,"obfs_password".toList]).filter (fun s => s ≠ [])
  fastOpen : SameFlag m m' ["fast-open".toList]

@[mk_iff] structure SameHysteria2 : Prop where
  password : SameText m m' ["password".toList,"auth".toList]
  sni : SameText m m' ["sni".toList,"servername".toList]
  skipCertVerify : SameFlag m m' ["skip-cert-verify".toList,"allow-insecure".toList]
  up : upBps m=upBps m'
  down : downBps m=downBps m'
  obfs : parseHy2Obfs m=parseHy2Obfs m'
  obfsPassword : SameText m m' ["obfs-password".toList,"obfs_password".toList]
  ports : SameText m m' ["ports".toList,"mport".toList]
  hopInterval : parseHy2HopInterval env m=parseHy2HopInterval env m'
  fingerprint : SameText m m' ["pinSHA256".toList,"fingerprint".toList]
  fastOpen : SameFlag m m' ["fast-open".toList]

@[mk_iff] structure SameSnell : Prop where
  psk : SameText m m' ["psk".toList,"password".toList]
  version : parseSnellVersion m=parseSnellVersion m'
  obfs : parseSnellObfs m (entryServer m)=parseSnellObfs m' (entryServer m')
  reuse : SameFlag m m' ["reuse".toList]

@[mk_iff] structure SameAnytls : Prop where
  password : SameText m m' ["password".toList]
  sni : SameText m m' ["sni".toList,"servername".toList]
  skipCertVerify : SameFlag m m' ["skip-cert-verify".toList,"allow-insecure".toList]

@[mk_iff] structure SameShadowsocks : Prop where
  cipher : SameText m m' ["cipher".toList,"method".toList]
  password : SameText m m' ["password".toList]
  plugin : SameText m m' ["plugin".toList]
  pluginOpts : SameText m m' ["plugin-opts".toList]

def SameFields : Protocol → Prop
  | .vmess => SameVmess env m m'
  | .vless => SameVless env m m'
  | .trojan => SameTrojan env m m'
  | .hysteria => SameHysteria m m'
  | .hysteria2 => SameHysteria2 env m m'
  | .snell => SameSnell m m'
  | .anytls => SameAnytls m m'
  | .shadowsocks => SameShadowsocks m m'
  | .unknown => True

end Same

/-- Both entries say the same about everything that a dial goes by. -/
structure SameSettings (env : MeowExternals) (source source' : MihomoProxyConfig) : Prop where
  protocol : protocolOf source=protocolOf source'
  server : entryServer (entryOf source)=entryServer (entryOf source')
  port : entryPort (protocolOf source) (entryOf source)=entryPort (protocolOf source') (entryOf source')
  fields : SameFields env (entryOf source) (entryOf source') (protocolOf source)

end RotatorProxy.Mihomo
