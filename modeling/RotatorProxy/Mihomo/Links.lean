import RotatorProxy.Mihomo.Document
import RotatorProxy.Link.Native

/-! The links of the complex protocols. -/
namespace RotatorProxy.Mihomo
open Text Proxy Link ClashProxyDocument

def hysteria2DefaultPort : UInt16 := 443

variable (env : LinkExternals)

/-! vmess -/

def parseU16String (value : Option Str) (label : Str) : Except Str UInt16 :=
  match value with
  | none => .error (label++" 缺失".toList)
  | some value =>
    match parseU16 value with
    | some n => .ok n
    | none => .error (label++" 无效".toList)

/-- A single control character stands for its code point. -/
def parseVmessAlterId (value : Option Str) : Except Str UInt16 :=
  match nonEmpty value with
  | none => .ok 0
  | some value =>
    match parseU16 value with
    | some n => .ok n
    | none =>
      match value with
      | [c] =>
        if c.toNat < 32 ∨ (127 ≤ c.toNat ∧ c.toNat < 160) then .ok (UInt16.ofNat c.toNat)
        else .error "无效的 vmess alterId".toList
      | _ => .error "无效的 vmess alterId".toList

def required (value : Option Str) (message : String) : Except Str Str :=
  match value with
  | some value => .ok value
  | none => .error message.toList

/-- `parse_vmess_url` on the link inside -/
def vmessConfig (link : VmessLink) : Except Str MihomoProxyConfig := do
  let name := (nonEmpty link.ps).getD ("vmess-".toList++(nonEmpty link.add).getD "node".toList)
  let server ← required (nonEmpty link.add) "vmess 链接缺少 server"
  let port ← parseU16String link.port "vmess port".toList
  let uuid ← required (nonEmpty link.id) "vmess 链接缺少 id"
  let alterId ← parseVmessAlterId link.aid
  let proxy := ((ClashProxyDocument.new name "vmess".toList server port).insertString "uuid".toList
    uuid).insertU16 "alterId".toList alterId
  let proxy := proxy.insertString "cipher".toList ((nonEmpty link.scy).getD "auto".toList)
  let proxy := if link.tls=some "tls".toList then proxy.insertBool "tls".toList true else proxy
  let proxy := proxy.insertSome "servername".toList ((nonEmpty link.sni).or (nonEmpty link.host))
  let proxy := match nonEmpty link.net with
    | none => proxy
    | some network =>
      applyTransportOpts (proxy.insertString "network".toList network) network link.host link.path none
  return proxy.intoMihomo "vmess".toList

def parseVmessUrl (encoded : Str) : Except Str MihomoProxyConfig :=
  match decodeBase64Text env encoded with
  | none => .error "无效的 vmess base64 内容".toList
  | some decoded =>
    match env.vmessFromJson decoded with
    | none => .error "无效的 vmess JSON 内容".toList
    | some link => vmessConfig link

/-! vless and trojan -/

def parseVlessUrl (url : Url) : Except Str MihomoProxyConfig := do
  let name := proxyNameFromUrl env url "vless".toList
  let server ← requiredHost url "vless".toList
  let port ← requiredPort url "vless".toList
  let uuid ← required (nonEmpty (some (decodeUrlComponent env url.username))) "vless 链接缺少 uuid"
  let proxy := ((ClashProxyDocument.new name "vless".toList server port).insertString "uuid".toList
    uuid).insertString "encryption".toList ((queryParam url "encryption".toList).getD "none".toList)
  return (applyNetworkQuery (applySecurityQuery proxy url) url).intoMihomo "vless".toList

def parseTrojanUrl (url : Url) : Except Str MihomoProxyConfig := do
  let name := proxyNameFromUrl env url "trojan".toList
  let server ← requiredHost url "trojan".toList
  let port ← requiredPort url "trojan".toList
  let password ← required (nonEmpty (some (decodeUrlComponent env url.username))) "trojan 链接缺少 password"
  let proxy := (ClashProxyDocument.new name "trojan".toList server port).insertString "password".toList
    password
  return (applyNetworkQuery (applySecurityQuery proxy url) url).intoMihomo "trojan".toList

/-! hysteria -/

/-- Several query keys may write the same field; the last one there wins. -/
def hysteriaQueryKeys : List (String × String) :=
  [("upmbps","up-mbps"),("up_mbps","up-mbps"),("up","up"),("downmbps","down-mbps"),
    ("down_mbps","down-mbps"),("down","down"),("pinSHA256","pinSHA256"),("fingerprint","fingerprint")]

def applyHysteriaCommonQuery (proxy : ClashProxyDocument) (url : Url) : ClashProxyDocument :=
  let proxy := if (queryParam url "insecure".toList).any isOn then
    proxy.insertBool "skip-cert-verify".toList true else proxy
  let proxy := match (queryParam url "sni".toList).or (queryParam url "peer".toList) with
    | some sni => (proxy.insertString "sni".toList sni).insertString "servername".toList sni
    | none => proxy
  let proxy := insertAlpn (nonEmpty (queryParam url "alpn".toList)) proxy
  hysteriaQueryKeys.foldl (fun proxy keys =>
    proxy.insertSome keys.2.toList (nonEmpty (queryParam url keys.1.toList))) proxy

def parseHysteriaUrl (url : Url) : Except Str MihomoProxyConfig := do
  let name := proxyNameFromUrl env url "hysteria".toList
  let server ← requiredHost url "hysteria".toList
  let port ← requiredPort url "hysteria".toList
  let auth ← required (nonEmpty (((queryParam url "auth".toList).or (queryParam url "password".toList)).or
    (nonEmpty (some (decodeUrlComponent env url.username))))) "hysteria 链接缺少 auth/password"
  let proxy := (ClashProxyDocument.new name "hysteria".toList server port).insertString "auth".toList auth
  let proxy := applyHysteriaCommonQuery proxy url
  let proxy := proxy.insertSome "protocol".toList (nonEmpty (queryParam url "protocol".toList))
  return proxy.intoMihomo "hysteria".toList

/-- `split([',', '-'])` and the first part that is a port -/
def firstPortFromRange (value : Str) : Option UInt16 :=
  (splitAny [',','-'] value).findSome? (fun part => parseU16 (trim part))

def portOrFirstMport (url : Url) : Option UInt16 :=
  url.port.or (((queryParam url "mport".toList).or (queryParam url "ports".toList)).bind firstPortFromRange)

def parseHysteria2Url (url : Url) : Except Str MihomoProxyConfig := do
  let name := proxyNameFromUrl env url "hysteria2".toList
  let server ← requiredHost url "hysteria2".toList
  let port := (portOrFirstMport url).getD hysteria2DefaultPort
  let password := (((queryParam url "password".toList).or (queryParam url "auth".toList)).or
    (nonEmpty (some (decodeUrlComponent env url.username)))).getD []
  let proxy := (ClashProxyDocument.new name "hysteria2".toList server port).insertString "password".toList
    password
  let proxy := applyHysteriaCommonQuery proxy url
  let proxy := proxy.insertSome "ports".toList
    ((queryParam url "mport".toList).or (queryParam url "ports".toList))
  let proxy := proxy.insertSome "hop-interval".toList
    ((queryParam url "hop-interval".toList).or (queryParam url "hop_interval".toList))
  let proxy := proxy.insertSome "obfs".toList (nonEmpty (queryParam url "obfs".toList))
  let proxy := proxy.insertSome "obfs-password".toList
    (nonEmpty ((queryParam url "obfs-password".toList).or (queryParam url "obfs_password".toList)))
  return proxy.intoMihomo "hysteria2".toList

/-! tuic, anytls and ssr -/

def parseTuicUrl (url : Url) : Except Str MihomoProxyConfig := do
  let name := proxyNameFromUrl env url "tuic".toList
  let server ← requiredHost url "tuic".toList
  let port ← requiredPort url "tuic".toList
  let password ← required url.password "tuic 链接用户名必须是 uuid:password"
  let proxy := ((ClashProxyDocument.new name "tuic".toList server port).insertString "uuid".toList
    (decodeUrlComponent env url.username)).insertString "password".toList (decodeUrlComponent env password)
  let proxy := proxy.insertSome "token".toList (queryParam url "token".toList)
  return (applySecurityQuery proxy url).intoMihomo "tuic".toList

def parseAnytlsUrl (url : Url) : Except Str MihomoProxyConfig := do
  let name := proxyNameFromUrl env url "anytls".toList
  let server ← requiredHost url "anytls".toList
  let port := url.port.getD 8443
  let password ← required (nonEmpty (((queryParam url "password".toList).or
    (url.password.map (decodeUrlComponent env))).or
    (nonEmpty (some (decodeUrlComponent env url.username))))) "anytls 链接缺少 password"
  let proxy := (ClashProxyDocument.new name "anytls".toList server port).insertString "password".toList
    password
  let proxy := match (queryParam url "sni".toList).or (queryParam url "servername".toList) with
    | some sni => (proxy.insertString "sni".toList sni).insertString "servername".toList sni
    | none => proxy
  let proxy := if (queryParam url "insecure".toList).any isOn then
    proxy.insertBool "skip-cert-verify".toList true else proxy
  return proxy.intoMihomo "anytls".toList

def formParam (params : List (Str × Str)) (key : Str) : Option Str :=
  (params.find? (fun pair => pair.1=key)).map Prod.snd

/-- A part of an ssr link that must not be empty. -/
def ssrPart (parts : List Str) (index : ℕ) (message : String) : Except Str Str :=
  required (nonEmpty parts[index]?) message

def parseSsrUrl (encoded : Str) : Except Str MihomoProxyConfig := do
  let decoded ← required (decodeBase64Text env encoded) "无效的 ssr base64 内容"
  let (main,query) := (splitOnceStr "/?".toList decoded).getD (decoded,[])
  let parts := splitN ':' 6 main
  let server ← ssrPart parts 0 "ssr 链接缺少 server"
  let portText ← required parts[1]? "ssr 链接缺少 port"
  let port ← match parseU16 portText with
    | some port => .ok port
    | none => .error "无效的 ssr port".toList
  let protocol ← ssrPart parts 2 "ssr 链接缺少 protocol"
  let cipher ← ssrPart parts 3 "ssr 链接缺少 cipher"
  let obfs ← ssrPart parts 4 "ssr 链接缺少 obfs"
  let password ← required (parts[5]?.bind (decodeBase64Text env)) "ssr 链接缺少 password"
  let params := env.formParse query
  let remarks := (formParam params "remarks".toList).map
    (fun value => (decodeBase64Text env value).getD value)
  let name := (nonEmpty remarks).getD ("ssr-".toList++server)
  let proxy := (ClashProxyDocument.new name "ssr".toList server port).insertString "cipher".toList cipher
  let proxy := ((proxy.insertString "password".toList password).insertString "protocol".toList
    protocol).insertString "obfs".toList obfs
  let proxy := proxy.insertSome "protocol-param".toList
    (nonEmpty ((formParam params "protoparam".toList).bind (decodeBase64Text env)))
  let proxy := proxy.insertSome "obfs-param".toList
    (nonEmpty ((formParam params "obfsparam".toList).bind (decodeBase64Text env)))
  return proxy.intoMihomo "ssr".toList

/-! All of them -/

def parseMihomoProxyUrl (line : Str) : Except Str (Option MihomoProxyConfig) :=
  let line := trim line
  if line=[] then .ok none
  else match stripPrefixStr "vmess://".toList line,stripPrefixStr "ssr://".toList line with
    | some rest,_ => (parseVmessUrl env rest).map some
    | none,some rest => (parseSsrUrl env rest).map some
    | none,none =>
      match env.parseUrl line with
      | none => .ok none
      | some url =>
        let scheme := toAsciiLowercase url.scheme
        if scheme="vless".toList then (parseVlessUrl env url).map some
        else if scheme="trojan".toList then (parseTrojanUrl env url).map some
        else if scheme="hysteria".toList then (parseHysteriaUrl env url).map some
        else if scheme ∈ ["hysteria2".toList,"hy2".toList] then (parseHysteria2Url env url).map some
        else if scheme="tuic".toList then (parseTuicUrl env url).map some
        else if scheme="anytls".toList then (parseAnytlsUrl env url).map some
        else .ok none

end RotatorProxy.Mihomo
