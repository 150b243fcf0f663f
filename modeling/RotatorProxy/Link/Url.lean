import RotatorProxy.Proxy.TargetAddr
import RotatorProxy.Text.Pieces

/-! What the link parsers read off a URL. The URL crate is outside this model: a `Url` is what its
accessors give, and `LinkExternals.parseUrl` makes one of a text. -/
namespace RotatorProxy.Link
open Text Proxy

/-- `url::Url`. The user name and the password are percent-encoded, the query pairs are not. -/
structure Url where
  scheme : Str
  username : Str
  password : Option Str
  hostStr : Option Str
  port : Option UInt16
  portOrKnownDefault : Option UInt16
  path : Str
  query : Option Str
  queryPairs : List (Str × Str)
  fragment : Option Str
  asStr : Str
  deriving DecidableEq

/-- The JSON inside a vmess link; numbers are read as their text. -/
structure VmessLink where
  ps : Option Str
  add : Option Str
  port : Option Str
  id : Option Str
  aid : Option Str
  net : Option Str
  host : Option Str
  path : Option Str
  tls : Option Str
  sni : Option Str
  scy : Option Str

/-- The crates behind the link parsers. -/
structure LinkExternals extends Externals where
  parseUrl : Str → Option Url
  /-- `percent_decode_str` and `decode_utf8_lossy` -/
  percentDecode : Str → Str
  base64Standard : Str → Option Bytes
  base64UrlSafe : Str → Option Bytes
  /-- `form_urlencoded::parse` -/
  formParse : Str → List (Str × Str)
  /-- `serde_json::from_str` -/
  vmessFromJson : Str → Option VmessLink

/-- The text of an error that another crate words. -/
def foreignError : Str := []

variable (env : LinkExternals)

def decodeUrlComponent (value : Str) : Str := env.percentDecode value

/-- The first of the two alphabets in which the text decodes to UTF-8. -/
def decodeBase64Text (value : Str) : Option Str :=
  let normalized := value.filter (fun c => !isWhitespace c)
  ((env.base64Standard normalized).bind fromUtf8).or ((env.base64UrlSafe normalized).bind fromUtf8)

def queryParam (url : Url) (key : Str) : Option Str :=
  (url.queryPairs.find? (fun pair => pair.1=key)).map Prod.snd

def requiredHost (url : Url) (scheme : Str) : Except Str Str :=
  match url.hostStr with
  | some host => .ok host
  | none => .error (scheme++" 链接缺少 host".toList)

def requiredPort (url : Url) (scheme : Str) : Except Str UInt16 :=
  match url.port with
  | some port => .ok port
  | none => .error (scheme++" 链接缺少 port".toList)

def nonEmpty (value : Option Str) : Option Str := value.filter (fun value => value ≠ [])

def proxyNameFromUrl (url : Url) (fallback : Str) : Str :=
  (nonEmpty (url.fragment.map (decodeUrlComponent env))).getD fallback

/-! Ports -/

def authorityWithoutUserinfo (rest : Str) : Str := firstPiece ['/','?','#'] rest

def authorityOf (rest : Str) : Str :=
  match rsplitOnce '@' (firstPiece ['/','?','#'] rest) with
  | some (_,value) => value
  | none => authorityWithoutUserinfo rest

/-- An IPv6 address stands in brackets; no other host has a colon. -/
def authorityHasPort (authority : Str) : Bool :=
  match stripPrefix '[' authority with
  | some rest =>
    match (splitOnce ']' rest).bind (fun p => stripPrefix ':' p.2) with
    | some port => decide (port ≠ []) && port.all Char.isDigit
    | none => false
  | none =>
    match (rsplitOnce ':' authority).filter (fun p => decide (':' ∉ p.1)) with
    | some (_,port) => decide (port ≠ []) && port.all Char.isDigit
    | none => false

/-- The serialized URL no longer has the port when it is the default of its scheme. -/
def urlHasExplicitPort (url : Url) : Bool :=
  match splitOnceStr "://".toList url.asStr with
  | none => false
  | some (_,rest) => authorityHasPort (authorityOf rest)

def portOrKnownDefault (url : Url) (defaultPort : Option UInt16) : Option UInt16 :=
  url.port.or (defaultPort.bind (fun port =>
    if urlHasExplicitPort url || decide (url.portOrKnownDefault=some port) then some port else none))

def hostPortFromUrl (url : Url) (defaultPort : Option UInt16) : Except Str HostPort :=
  match url.hostStr with
  | none => .error "代理 URL 缺少 host".toList
  | some host =>
    match portOrKnownDefault url defaultPort with
    | none => .error ("代理 URL 缺少 port：".toList++url.asStr)
    | some port => HostPort.new host port

/-! Which URLs are proxies -/

def looksLikeHttpProxyUrl (url : Url) : Bool :=
  urlHasExplicitPort url && decide (url.path=[] ∨ url.path=['/']) && url.query.isNone &&
    url.fragment.isNone

def looksLikeHttpsProxyUrl (url : Url) : Bool :=
  (portOrKnownDefault url (some 443)).isSome && decide (url.path=[] ∨ url.path=['/']) &&
    (decide (url.username ≠ []) || url.fragment.isSome || (queryParam url "sni".toList).isSome ||
      (queryParam url "servername".toList).isSome || (queryParam url "allowInsecure".toList).isSome ||
      (queryParam url "skip-cert-verify".toList).isSome || (queryParam url "insecure".toList).isSome)

def isSubscriptionUrl (line : Str) : Bool :=
  match env.parseUrl line with
  | none => false
  | some url =>
    decide (url.scheme="http".toList ∨ url.scheme="https".toList) && url.hostStr.isSome &&
      decide (url.username=[]) && url.password.isNone && url.fragment.isNone

/-! Credentials -/

def splitCredentials (value : Str) : Option (Str × Str) :=
  (splitOnce ':' value).map (fun p => (decodeUrlComponent env p.1,decodeUrlComponent env p.2))

def credentialsFromUrl (url : Url) : Option Credentials :=
  if url.username=[] then none
  else some ⟨decodeUrlComponent env url.username,url.password.map (decodeUrlComponent env)⟩

/-- A SOCKS user name without a password is the base64 form of both. -/
def socksCredentialsFromUrl (url : Url) : Option Credentials :=
  if url.username=[] then none
  else if url.password.isSome then credentialsFromUrl env url
  else
    match ((decodeBase64Text env url.username).or
        (decodeBase64Text env (decodeUrlComponent env url.username))).bind (splitCredentials env) with
    | none => none
    | some (username,password) =>
      if username=[] ∧ password=[] then none
      else some ⟨username,if password=[] then none else some password⟩

end RotatorProxy.Link
