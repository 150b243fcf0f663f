import RotatorProxy.Library.Delimited
import RotatorProxy.Outbound.Resource
import RotatorProxy.Proxy.TargetAddr

/-! The HTTP side of the inbound server: a request head read in chunks, its request line and headers,
and what is relayed to the target. A client is the list of chunks that its reads give; after the last
one it has closed its side. -/
namespace RotatorProxy.Server
open Text Proxy Library Outbound

/-- `HTTP_REQUEST_HEADER_LIMIT` -/
def httpRequestHeaderLimit : ℕ := 64*1024

/-- The end of an HTTP head. -/
def headerEnd : Bytes := [13,10,13,10]

/-- What the program asks of a parsed URL. -/
structure Url where
  hostStr : Option Str
  portOrKnownDefault : Option UInt16
  path : Str
  query : Option Str
  deriving DecidableEq

/-- `Url::parse` of the url crate. -/
abbrev UrlParse := Str → Except Str Url

structure ParsedHttpRequest where
  target : TargetAddr
  isConnect : Bool
  forwardBytes : Bytes
  deriving DecidableEq

def invalidData (message : Str) : IoError := .new .invalidData message

def findHeaderEnd (buffer : Bytes) : Option ℕ := (windowPosition headerEnd buffer).map (·+headerEnd.length)

/-- The loop of `read_http_request`: the buffer, and the chunks that are left. -/
def readHttpRequestFrom : Bytes → List Bytes → Except IoError (Bytes × List Bytes)
  | _,[] => .error (.new .unexpectedEof "连接在 HTTP 请求头读取完成前关闭".toList)
  | buffer,chunk::chunks =>
    if chunk.length=0 then .error (.new .unexpectedEof "连接在 HTTP 请求头读取完成前关闭".toList)
    else if (findHeaderEnd (buffer++chunk)).isSome then .ok (buffer++chunk,chunks)
    else if httpRequestHeaderLimit < (buffer++chunk).length then
      .error (invalidData "HTTP 请求头超过大小限制".toList)
    else readHttpRequestFrom (buffer++chunk) chunks

def readHttpRequest (client : List Bytes) : Except IoError (Bytes × List Bytes) :=
  readHttpRequestFrom [] client

/-- The value of the first header with this name. -/
def findHeader (headers : List Str) (name : Str) : Option Str :=
  headers.findSome? fun line =>
    (splitOnce ':' line).bind fun header =>
      if eqIgnoreAsciiCase (trim header.1) name then some (trim header.2) else none

def targetAddr (parsed : Except Str TargetAddr) : Except IoError TargetAddr := parsed.mapError invalidData

def orInvalid {α : Type} (message : String) : Option α → Except IoError α
  | some a => .ok a
  | none => .error (invalidData message.toList)

theorem orInvalid_eq_ok {α : Type} {message : String} {o : Option α} {a : α} :
    orInvalid message o = .ok a ↔ o=some a := by
  cases o with
  | none => simp [orInvalid]
  | some b => simp [orInvalid]

/-- The path and query of a URL, as an origin server wants them. -/
def originOf (url : Url) : Str :=
  (if url.path=[] then ['/'] else url.path)++(url.query.map (fun query => '?'::query)).getD []

section
variable (urlParse : UrlParse)

def targetFromHttpRequestTarget (requestTarget : Str) (headers : List Str) :
    Except IoError (TargetAddr × Str) :=
  if "http://".toList <+: requestTarget ∨ "https://".toList <+: requestTarget then
    ((urlParse requestTarget).mapError invalidData).bind fun url =>
      (orInvalid "absolute URI 缺少 host" url.hostStr).bind fun host =>
        (orInvalid "absolute URI 协议没有已知默认端口" url.portOrKnownDefault).bind fun port =>
          (targetAddr (TargetAddr.new host port)).map fun target => (target,originOf url)
  else
    (orInvalid "origin-form 请求缺少 Host 头" (findHeader headers "host".toList)).bind fun host =>
      (targetAddr (TargetAddr.parse host (some 80))).map fun target => (target,requestTarget)

def isProxyHeader (header : Str) : Bool :=
  let lower := toAsciiLowercase header
  decide ("proxy-connection:".toList <+: lower ∨ "proxy-authorization:".toList <+: lower)

/-- The head that the target is sent. -/
def forwardHead (method origin version : Str) (headers : List Str) : Bytes :=
  utf8 (method++ ' '::origin++ ' '::version++"\r\n".toList)++
    (headers.filter (fun header => !isProxyHeader header)).flatMap
      (fun header => utf8 header++utf8 "\r\n".toList)++utf8 "\r\n".toList

/-- The request line and the lines behind it. -/
def parseRequestLines (requestLine : Str) (lines : List Str) (extra : Bytes) :
    Except IoError ParsedHttpRequest :=
  let parts := splitWhitespace requestLine
  (orInvalid "缺少 HTTP method" parts[0]?).bind fun method =>
    (orInvalid "缺少 HTTP request target" parts[1]?).bind fun requestTarget =>
      (orInvalid "缺少 HTTP version" parts[2]?).bind fun version =>
        if eqIgnoreAsciiCase method "CONNECT".toList then
          (targetAddr (TargetAddr.parse requestTarget none)).map fun target => ⟨target,true,[]⟩
        else
          let headers := lines.filter (fun line => decide (line ≠ []))
          (targetFromHttpRequestTarget urlParse requestTarget headers).map fun found =>
            ⟨found.1,false,forwardHead method found.2 version headers++extra⟩

def parseHttpRequest (buffer : Bytes) : Except IoError ParsedHttpRequest :=
  (orInvalid "缺少 HTTP 头结束标记" (findHeaderEnd buffer)).bind fun headerEnd =>
    (orInvalid "HTTP 头不是 UTF-8" (fromUtf8 (buffer.take headerEnd))).bind fun headerText =>
      (orInvalid "缺少 HTTP 请求行" (splitCrlf headerText)[0]?).bind fun requestLine =>
        parseRequestLines urlParse requestLine ((splitCrlf headerText).drop 1) (buffer.drop headerEnd)

inductive HttpOutcome
  /-- The head was not read. -/
  | closed (err : IoError)
  | badRequest (err : IoError)
  | badGateway (err : IoError)
  /-- What the client is told, and all that is sent to the target. -/
  | relayed (target : TargetAddr) (toClient toRemote : Bytes)
  deriving DecidableEq

/-- `handle_http` with a client that has sent all its chunks; `connect` is the connector's answer. -/
def handleHttp (connect : TargetAddr → Except IoError Unit) (client : List Bytes) : HttpOutcome :=
  match readHttpRequest client with
  | .error err => .closed err
  | .ok (request,rest) =>
    match parseHttpRequest urlParse request with
    | .error err => .badRequest err
    | .ok parsed =>
      match connect parsed.target with
      | .error err => .badGateway err
      | .ok () =>
        if parsed.isConnect then
          .relayed parsed.target (utf8 "HTTP/1.1 200 Connection Established\r\n\r\n".toList) rest.flatten
        else .relayed parsed.target [] (parsed.forwardBytes++rest.flatten)

end
end RotatorProxy.Server
