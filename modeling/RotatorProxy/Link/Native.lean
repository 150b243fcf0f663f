import RotatorProxy.Link.Url

/-! `parse_proxy_url`: links of the protocols that need no builder. -/
namespace RotatorProxy.Link
open Text Proxy

variable (env : LinkExternals)

/-! Shadowsocks -/

def normalizeSsCipher (method : Str) : Str :=
  let lower := toAsciiLowercase method
  if lower="chacha20-poly1305".toList then "chacha20-ietf-poly1305".toList else lower

def shadowsocksServer (host : Str) (port : UInt16) (method password : Str) : Except Str ServerConfig :=
  let method := normalizeSsCipher method
  match env.cipherKindFromStr method with
  | none => .error ("无效的 Shadowsocks cipher ".toList++method++['：'])
  | some kind =>
    match env.serverConfigNew host port password kind with
    | some server => .ok server
    | none => .error foreignError

def ssCredentialsFromUrl (url : Url) : Except Str (Str × Str) :=
  let username := decodeUrlComponent env url.username
  match url.password with
  | some password => .ok (username,decodeUrlComponent env password)
  | none =>
    let credentials := ((decodeBase64Text env url.username).or (decodeBase64Text env username)).getD username
    match splitCredentials env credentials with
    | some pair => .ok pair
    | none => .error "ss URL 缺少 method/password".toList

def splitHostPort (value : Str) : Except Str (Str × UInt16) :=
  match stripPrefix '[' value with
  | some rest =>
    match splitOnce ']' rest with
    | none => .error ("IPv6 地址格式无效：".toList++value)
    | some (host,after) =>
      match stripPrefix ':' after with
      | none => .error ("地址缺少 port：".toList++value)
      | some port => (parsePort port).map (fun port => (host,port))
  | none =>
    match (rsplitOnce ':' value).filter (fun p => decide (':' ∉ p.1) || (parseIpAddr p.1).isSome) with
    | none => .error ("地址缺少 port：".toList++value)
    | some (host,port) => (parsePort port).map (fun port => (host,port))

def parseSsLegacyAuthority (value : Str) : Except Str (Str × Str × Str × UInt16) :=
  match rsplitOnce '@' value with
  | none => .error "ss URL 缺少 server".toList
  | some (userinfo,server) =>
    match splitCredentials env userinfo with
    | none => .error "ss URL 缺少 method/password".toList
    | some (method,password) => (splitHostPort server).map (fun p => (method,password,p.1,p.2))

/-- `trim_start_matches` of a text -/
def trimStartMatchesStr (pre : Str) : ℕ → Str → Str
  | 0,s => s
  | fuel+1,s =>
    match stripPrefixStr pre s with
    | some rest => trimStartMatchesStr pre fuel rest
    | none => s

/-- The server and the label. -/
def parseShadowsocksUrl (line : Str) : Except Str (ServerConfig × Str) :=
  let url := env.parseUrl line
  let label := (nonEmpty (url.bind (fun url => url.fragment.map (decodeUrlComponent env)))).getD "ss".toList
  match url.filter (fun url => url.hostStr.isSome && url.port.isSome) with
  | some url => do
    let host ← requiredHost url "ss".toList
    let port ← requiredPort url "ss".toList
    let (method,password) ← ssCredentialsFromUrl env url
    let server ← shadowsocksServer env host port method password
    return (server,label)
  | none =>
    let encoded := firstPiece ['?'] (firstPiece ['#'] (trimStartMatchesStr "ss://".toList line.length line))
    match decodeBase64Text env encoded with
    | none => .error "无效的 ss URL".toList
    | some decoded => do
      let (method,password,host,port) ← parseSsLegacyAuthority env decoded
      let server ← shadowsocksServer env host port method password
      return (server,label)

/-! All of them -/

/-- A query value that switches a check off. -/
def isOn (value : Str) : Bool := decide (value="1".toList ∨ value="true".toList)

def parseHttpUrl (url : Url) : Except Str (Option ProxyNode) :=
  if !looksLikeHttpProxyUrl url then .ok none
  else (hostPortFromUrl url (some 80)).map (fun addr => some (.http addr (credentialsFromUrl env url)))

def parseHttpsUrl (url : Url) : Except Str (Option ProxyNode) :=
  if !looksLikeHttpsProxyUrl url then .ok none
  else (hostPortFromUrl url (some 443)).map (fun addr =>
    some (.https addr (credentialsFromUrl env url)
      ((queryParam url "sni".toList).or (queryParam url "servername".toList))
      ((((queryParam url "allowInsecure".toList).or (queryParam url "skip-cert-verify".toList)).or
        (queryParam url "insecure".toList)).any isOn)))

def parseProxyUrl (line : Str) : Except Str (Option ProxyNode) :=
  let line := trim line
  if line=[] then .ok none
  else if "ss://".toList.isPrefixOf line then
    (parseShadowsocksUrl env line).map (fun p => some (.shadowsocks p.1 p.2))
  else match env.parseUrl line with
    | none => .ok none
    | some url =>
      let scheme := toAsciiLowercase url.scheme
      if scheme="http".toList then parseHttpUrl env url
      else if scheme="https".toList then parseHttpsUrl env url
      else if scheme ∈ ["socks".toList,"socks5".toList,"socks5h".toList] then
        (hostPortFromUrl url none).map (fun addr =>
          some (.socks5 addr (socksCredentialsFromUrl env url) (decide (scheme ≠ "socks5".toList))))
      else if scheme ∈ ["socks4".toList,"socks4a".toList] then
        (hostPortFromUrl url none).map (fun addr =>
          some (.socks4 addr (credentialsFromUrl env url) (decide (scheme="socks4a".toList))))
      else .ok none

end RotatorProxy.Link
