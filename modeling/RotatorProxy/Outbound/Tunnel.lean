import RotatorProxy.Library.Delimited
import RotatorProxy.Outbound.Resource
import RotatorProxy.Proxy.TargetAddr
import RotatorProxy.Text.Base64
import RotatorProxy.Text.Lossy

/-! The HTTP CONNECT handshake with an upstream proxy: the request, and the answer read byte by byte
up to the end of its head. -/
namespace RotatorProxy.Outbound
open Text Proxy Library

/-- `HTTP_CONNECT_RESPONSE_LIMIT` -/
def httpConnectResponseLimit : ℕ := 16*1024

/-- The end of an HTTP head. -/
def headEnd : Bytes := [13,10,13,10]

/-- What an upstream sends, and how reading ends after it. -/
inductive Ending
  | closed
  | failed (code : ℕ)
  deriving DecidableEq

structure Incoming where
  bytes : Bytes
  ending : Ending
  deriving DecidableEq

def proxyAuthorization : Option Credentials → Str
  | some auth =>
    "Proxy-Authorization: Basic ".toList++
      base64Encode (utf8 (auth.username++ ':'::auth.password.getD []))++"\r\n".toList
  | none => []

/-- The request of `connect_http_tunnel`. -/
def connectRequest (auth : Option Credentials) (target : TargetAddr) : Str :=
  "CONNECT ".toList++target.display++" HTTP/1.1\r\nHost: ".toList++target.display++
    "\r\nProxy-Connection: Keep-Alive\r\n".toList++proxyAuthorization auth++"\r\n".toList

variable (libc : Libc)

/-- The error of reading a head past the last byte. -/
def Ending.error : Ending → IoError
  | .closed => .new .unexpectedEof "连接在 HTTP 头读取完成前关闭".toList
  | .failed code => .fromRawOsError libc code

/-- `read_exact` into a buffer of `n` bytes. -/
def readExact (n : ℕ) (incoming : Incoming) : Except IoError (Bytes × Incoming) :=
  if n ≤ incoming.bytes.length then .ok (incoming.bytes.take n,⟨incoming.bytes.drop n,incoming.ending⟩)
  else match incoming.ending with
    | .closed => .error (.new .unexpectedEof "early eof".toList)
    | .failed code => .error (.fromRawOsError libc code)

def headTooLong : IoError := .new .invalidData "HTTP 头超过大小限制".toList

/-- The loop of `read_http_header`: the head, and the bytes behind it. -/
def readHttpHeaderFrom (limit : ℕ) (ending : Ending) : Bytes → Bytes → Except IoError (Bytes × Bytes)
  | header,[] => .error (if header.length < limit then ending.error libc else headTooLong)
  | header,b::bytes =>
    if header.length < limit then
      if headEnd <:+ header++[b] then .ok (header++[b],bytes)
      else readHttpHeaderFrom limit ending (header++[b]) bytes
    else .error headTooLong

def readHttpHeader (limit : ℕ) (incoming : Incoming) : Except IoError (Bytes × Bytes) :=
  readHttpHeaderFrom libc limit incoming.ending [] incoming.bytes

/-- `version` is the first word of the line. -/
def validateStatus (statusLine version : Str) (status : UInt16) : Except IoError Unit :=
  if ¬"HTTP/".toList <+: version ∨ ¬(200 ≤ status ∧ status < 300) then
    .error (.otherError ("HTTP 代理 CONNECT 失败：".toList++statusLine))
  else .ok ()

def validateHttpConnectResponse (response : Bytes) : Except IoError Unit :=
  match firstLine (fromUtf8Lossy response) with
  | none => .error (.new .invalidData "HTTP 响应为空".toList)
  | some statusLine =>
    let parts := splitWhitespace statusLine
    match parts[1]? with
    | none => .error (.new .invalidData "HTTP 响应缺少状态码".toList)
    | some status =>
      match parseU16 status with
      | none => .error (.new .invalidData "HTTP 状态码无效".toList)
      | some status => validateStatus statusLine (parts.head?.getD []) status

/-- `connect_http_tunnel` after its request is written: the bytes left for the stream. -/
def connectHttpTunnel (incoming : Incoming) : Except IoError Bytes :=
  (readHttpHeader libc httpConnectResponseLimit incoming).bind fun read =>
    (validateHttpConnectResponse read.1).map fun _ => read.2

variable {libc} in
theorem readExact_append {n : ℕ} {a : Bytes} (h : a.length=n) (b : Bytes) (ending : Ending) :
    readExact libc n ⟨a++b,ending⟩ = .ok (a,⟨b,ending⟩) := by
  subst h
  rw [readExact,if_pos (by simp)]
  simp

/-! The head of an answer -/

variable {libc}

theorem readHttpHeaderFrom_ok {limit : ℕ} {ending : Ending} (header bytes : Bytes) {head rest : Bytes}
    (hno : ∀ p, p <+: header → ¬headEnd <:+ p) :
    readHttpHeaderFrom libc limit ending header bytes = .ok (head,rest) ↔
      header++bytes=head++rest ∧ FirstEnd headEnd head ∧ head.length ≤ limit := by
  induction bytes generalizing header with
  | nil =>
    simp only [readHttpHeaderFrom,List.append_nil,reduceCtorEq,false_iff]
    rintro ⟨rfl,hfirst,_⟩
    exact hno head (List.prefix_append head rest) hfirst.ends
  | cons b bytes ih =>
    have hassoc : header++b::bytes=(header++[b])++bytes := by simp
    rw [readHttpHeaderFrom]
    by_cases hlen : header.length < limit
    · rw [if_pos hlen]
      by_cases hends : headEnd <:+ header++[b]
      · have hfirst := FirstEnd.concat hno hends
        rw [if_pos hends]
        constructor
        · intro h
          cases h
          refine ⟨hassoc,hfirst,?_⟩
          rw [List.length_append,List.length_singleton]
          omega
        · rintro ⟨heq,hhead,_⟩
          obtain ⟨rfl,rfl⟩ := hfirst.append_inj hhead (hassoc.symm.trans heq)
          rfl
      · rw [if_neg hends,hassoc]
        apply ih
        intro p hp
        apply (List.prefix_concat_iff.mp hp).elim
        · rintro rfl
          exact hends
        · exact hno p
    · rw [if_neg hlen]
      simp only [reduceCtorEq,false_iff]
      rintro ⟨heq,hfirst,hle⟩
      have hread : head <+: header++b::bytes := by
        rw [heq]
        exact List.prefix_append head rest
      apply hno head (List.prefix_of_prefix_length_le hread (List.prefix_append header _) ?_) hfirst.ends
      omega

/-- The head is the shortest part of the answer that ends in an empty line, within the limit. -/
theorem readHttpHeader_ok {limit : ℕ} {incoming : Incoming} {head rest : Bytes} :
    readHttpHeader libc limit incoming = .ok (head,rest) ↔
      incoming.bytes=head++rest ∧ FirstEnd headEnd head ∧ head.length ≤ limit := by
  apply readHttpHeaderFrom_ok []
  intro p hp
  rw [List.prefix_nil.mp hp]
  decide

/-- A head that is not read is an early end, a failed read or too long a head. -/
theorem readHttpHeaderFrom_error {limit : ℕ} {ending : Ending} (header bytes : Bytes) {err : IoError}
    (h : readHttpHeaderFrom libc limit ending header bytes = .error err) :
    err=ending.error libc ∨ err=headTooLong := by
  induction bytes generalizing header with
  | nil =>
    rw [readHttpHeaderFrom] at h
    split_ifs at h
    · cases h
      exact .inl rfl
    · cases h
      exact .inr rfl
  | cons b bytes ih =>
    rw [readHttpHeaderFrom] at h
    split_ifs at h
    · exact ih _ h
    · cases h
      exact .inr rfl

/-- The status line has a number as its second word and does not report success. -/
def Rejects (line : Str) : Prop :=
  ∃ word status, (splitWhitespace line)[1]? = some word ∧ parseU16 word = some status ∧
    (¬"HTTP/".toList <+: (splitWhitespace line).head?.getD [] ∨ ¬(200 ≤ status ∧ status < 300))

/-- The error that quotes the status line. -/
def connectRejected (line : Str) : IoError := .otherError ("HTTP 代理 CONNECT 失败：".toList++line)

variable (libc) in
/-- A response is refused with its status line, or it is accepted or refused with a fixed text. -/
theorem validateHttpConnectResponse_cases (response : Bytes) :
    (∃ line, firstLine (fromUtf8Lossy response) = some line ∧ Rejects line ∧
      validateHttpConnectResponse response = .error (connectRejected line)) ∨
    ((∀ line, firstLine (fromUtf8Lossy response) = some line → ¬Rejects line) ∧
      ∀ err, validateHttpConnectResponse response = .error err →
        isFileDescriptorExhaustion libc err = false) := by
  have hplain : ∀ (kind : ErrorKind) (text : Str), ¬ReadsExhausted text →
      isFileDescriptorExhaustion libc (.new kind text) = false := by
    intro kind text htext
    rw [Bool.eq_false_iff]
    exact fun h => htext ((isFileDescriptorExhaustion_new libc kind text).mp h)
  unfold validateHttpConnectResponse
  cases hline : firstLine (fromUtf8Lossy response) with
  | none =>
    refine .inr ⟨(fun line h => by cases h),fun err h => ?_⟩
    cases h
    exact hplain _ _ (by decide)
  | some line =>
    dsimp only
    cases hword : (splitWhitespace line)[1]? with
    | none =>
      refine .inr ⟨?_,fun err h => ?_⟩
      · rintro _ ⟨⟩ ⟨word,status,hw,_⟩
        rw [hword] at hw
        cases hw
      · cases h
        exact hplain _ _ (by decide)
    | some word =>
      dsimp only
      cases hstatus : parseU16 word with
      | none =>
        refine .inr ⟨?_,fun err h => ?_⟩
        · rintro _ ⟨⟩ ⟨word',status,hw,hs,_⟩
          rw [hword] at hw
          cases hw
          rw [hstatus] at hs
          cases hs
        · cases h
          exact hplain _ _ (by decide)
      | some status =>
        dsimp only [validateStatus]
        split_ifs with hbad
        · exact .inl ⟨line,rfl,⟨word,status,hword,hstatus,hbad⟩,rfl⟩
        · refine .inr ⟨?_,fun err h => by cases h⟩
          rintro _ ⟨⟩ ⟨word',status',hw,hs,hbad'⟩
          rw [hword] at hw
          cases hw
          rw [hstatus] at hs
          cases hs
          exact hbad hbad'

end RotatorProxy.Outbound
