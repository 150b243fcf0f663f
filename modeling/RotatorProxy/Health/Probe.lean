import RotatorProxy.Config.StatusRanges
import RotatorProxy.Health.Check
import RotatorProxy.Health.Target
import RotatorProxy.Outbound.Handshakes

/-! One probe of a node: a connection through it to the target, a request, and the status of the answer. What the network
does meanwhile is given; the answer is read byte by byte up to the end of its head. -/
namespace RotatorProxy.Health
open Text Config Library Outbound

/-- `HEALTH_RESPONSE_HEADER_LIMIT` -/
def healthResponseHeaderLimit : ℕ := 16*1024

/-- The first two words of a status line -/
def statusOfWords (version status : Str) : Except IoError UInt16 :=
  if "HTTP/".toList <+: version then
    match parseU16 status with
    | none => .error (.new .invalidData "测活响应状态码无效".toList)
    | some status => .ok status
  else .error (.new .invalidData "测活响应 HTTP 版本无效".toList)

def parseHttpStatus (header : Bytes) : Except IoError UInt16 :=
  match firstLine (fromUtf8Lossy header) with
  | none => .error (.new .invalidData "测活响应为空".toList)
  | some statusLine =>
    let parts := splitWhitespace statusLine
    match parts[1]? with
    | none => .error (.new .invalidData "测活响应缺少状态码".toList)
    | some status => statusOfWords (parts.head?.getD []) status

/-- `Debug` of a duration of so many milliseconds -/
def durationDebug (ms : ℕ) : Str :=
  if ms=0 then "0ns".toList
  else if ms < 1000 then decimal ms++"ms".toList
  else
    let fraction := (['0','0','0']++decimal (ms%1000)).drop (decimal (ms%1000)).length
    decimal (ms/1000)++(if ms%1000=0 then [] else '.'::fraction.rdropWhile (fun c => c = '0'))++['s']

example : durationDebug 10050="10.05s".toList := by decide

/-- What the network does during a probe -/
structure Exchange where
  connect : Except IoError Unit
  handshake : HealthCheckTls → Except IoError Unit
  write : Except IoError Unit
  response : Incoming
  /-- in milliseconds; none when the timeout comes first -/
  elapsed : Option ℕ

section
variable (libc : Libc)

/-- The error of reading an answer past its last byte. -/
def answerError : Ending → IoError
  | .closed => .new .unexpectedEof "连接在测活响应头读取完成前关闭".toList
  | .failed code => .fromRawOsError libc code

/-- The loop of `read_health_status`: the header so far, and the bytes that are left. -/
def readHealthStatusFrom (ending : Ending) : Bytes → Bytes → Except IoError UInt16
  | header,[] =>
    .error (if header.length < healthResponseHeaderLimit then answerError libc ending
      else .new .invalidData "测活响应头超过大小限制".toList)
  | header,byte::bytes =>
    if header.length < healthResponseHeaderLimit then
      if headEnd <:+ header++[byte] then parseHttpStatus (header++[byte])
      else readHealthStatusFrom ending (header++[byte]) bytes
    else .error (.new .invalidData "测活响应头超过大小限制".toList)

def readHealthStatus (response : Incoming) : Except IoError UInt16 :=
  readHealthStatusFrom libc response.ending [] response.bytes

/-- The status of the answer, over the stream that the scheme asks for -/
def exchangeStatus (target : HealthCheckTarget) (x : Exchange) : Except IoError UInt16 :=
  match target.scheme with
  | .http => x.write.bind fun _ => readHealthStatus libc x.response
  | .https =>
    match target.tls with
    | none => .error (.otherError "HTTPS 测活 TLS 状态缺失".toList)
    | some tls => (x.handshake tls).bind fun _ => x.write.bind fun _ => readHealthStatus libc x.response

def runHealthCheckInner (target : HealthCheckTarget) (x : Exchange) : Except IoError Unit :=
  x.connect.bind fun _ => (exchangeStatus libc target x).bind fun status =>
    if target.expectedStatus.any (fun range => range.contains status) then .ok ()
    else .error (.otherError
      ("测活端点返回 HTTP ".toList++decimal status.toNat++"，期望 ".toList++target.expectedDisplay))

def runHealthCheck (attemptTimeout : ℕ) (target : HealthCheckTarget) (x : Exchange) : Except IoError ℕ :=
  match x.elapsed with
  | some delay => (runHealthCheckInner libc target x).map fun _ => delay
  | none => .error (.new .timedOut ("测活超时，耗时 ".toList++durationDebug attemptTimeout))

end

/-! What is read of an answer -/

/-- The first words of the head of an answer are a version of HTTP and this code. -/
def HasStatus (head : Bytes) (status : UInt16) : Prop :=
  ∃ line version code words, firstLine (fromUtf8Lossy head)=some line ∧ splitWhitespace line = version::code::words ∧
    "HTTP/".toList <+: version ∧ parseU16 code=some status

lemma statusOfWords_ok {version code : Str} {status : UInt16} :
    statusOfWords version code = .ok status ↔ "HTTP/".toList <+: version ∧ parseU16 code=some status := by
  unfold statusOfWords
  split_ifs with hversion
  · rw [and_iff_right hversion]
    cases parseU16 code with
    | none => exact iff_of_false nofun nofun
    | some found => rw [Except.ok.injEq,Option.some.injEq]
  · exact iff_of_false nofun fun h => hversion h.1

lemma parseHttpStatus_ok {head : Bytes} {status : UInt16} : parseHttpStatus head = .ok status ↔ HasStatus head status := by
  unfold parseHttpStatus HasStatus
  cases firstLine (fromUtf8Lossy head) with
  | none =>
    refine iff_of_false nofun ?_
    rintro ⟨_,_,_,_,hline,-⟩
    cases hline
  | some line =>
    dsimp only
    constructor
    · intro h
      cases hwords : splitWhitespace line with
      | nil =>
        rw [hwords] at h
        cases h
      | cons version words =>
        cases words with
        | nil =>
          rw [hwords] at h
          cases h
        | cons code words =>
          rw [hwords] at h
          exact ⟨line,version,code,words,rfl,hwords,statusOfWords_ok.mp h⟩
    · rintro ⟨_,version,code,words,⟨⟩,hwords,h⟩
      rw [hwords]
      exact statusOfWords_ok.mpr h

/-- A head that says a code of its own, with a space or the end of the line behind it. -/
structure SaysStatus (head : Bytes) (status : UInt16) : Prop where
  first : FirstEnd headEnd head
  length_le : head.length ≤ healthResponseHeaderLimit
  status : ∃ (version : Str) (sep : UInt8) (tail : Bytes),
    head=utf8 ("HTTP/".toList++version++ ' '::decimal status.toNat)++sep::tail ∧
    (∀ c ∈ version, isWhitespace c=false) ∧ (sep=32 ∨ sep=13)

lemma SaysStatus.hasStatus {head : Bytes} {status : UInt16} (h : SaysStatus head status) : HasStatus head status := by
  obtain ⟨version,sep,tail,rfl,hversion,hsep⟩ := h.status
  have hcode : IsWord (decimal status.toNat) := ⟨decimal_ne_nil _,decimal_noSpace _⟩
  obtain ⟨line,words,hline,hwords⟩ := statusLine_words tail hversion hcode hsep
  exact ⟨line,_,_,words,hline,hwords,List.prefix_append _ version,parseU16_decimal status⟩

lemma HasStatus.unique {head : Bytes} {status other : UInt16} (h : HasStatus head status) (h' : HasStatus head other) :
    status=other := by
  have hok := (parseHttpStatus_ok.mpr h).symm.trans (parseHttpStatus_ok.mpr h')
  exact Except.ok.inj hok

/-- The status is that of the first head, if it is not too long; what comes behind it does not matter. -/
def Answers (response : Incoming) (status : UInt16) : Prop :=
  ∃ head rest, response.bytes=head++rest ∧ FirstEnd headEnd head ∧ head.length ≤ healthResponseHeaderLimit ∧
    HasStatus head status

section
variable {libc : Libc}

lemma readHealthStatusFrom_ok {ending : Ending} (header bytes : Bytes) {status : UInt16} :
    readHealthStatusFrom libc ending header bytes = .ok status ↔
      ∃ head rest, readHttpHeaderFrom libc healthResponseHeaderLimit ending header bytes = .ok (head,rest) ∧
        parseHttpStatus head = .ok status := by
  induction bytes generalizing header with
  | nil => exact iff_of_false (fun h => by cases h) (by rintro ⟨_,_,h,-⟩; cases h)
  | cons byte bytes ih =>
    rw [readHealthStatusFrom,readHttpHeaderFrom]
    split_ifs
    · constructor
      · exact fun h => ⟨_,_,rfl,h⟩
      · rintro ⟨_,_,⟨⟩,h⟩
        exact h
    · exact ih (header++[byte])
    · exact iff_of_false (fun h => by cases h) (by rintro ⟨_,_,h,-⟩; cases h)

lemma readHealthStatus_ok {response : Incoming} {status : UInt16} :
    readHealthStatus libc response = .ok status ↔ Answers response status := by
  have hread : ∀ head rest, readHttpHeaderFrom libc healthResponseHeaderLimit response.ending [] response.bytes =
      .ok (head,rest) ↔ response.bytes=head++rest ∧ FirstEnd headEnd head ∧ head.length ≤ healthResponseHeaderLimit :=
    fun _ _ => readHttpHeader_ok
  unfold readHealthStatus Answers
  rw [readHealthStatusFrom_ok]
  simp only [hread,parseHttpStatus_ok,and_assoc]

end

/-! A probe that passes -/

/-- The node connects, over TLS the server is accepted, the request is written, and the answer has an expected status. -/
structure Passes (target : HealthCheckTarget) (x : Exchange) : Prop where
  connected : x.connect = .ok ()
  secured : target.scheme = .https → ∃ tls, target.tls=some tls ∧ x.handshake tls = .ok ()
  written : x.write = .ok ()
  answered : ∃ status, Answers x.response status ∧ ∃ range ∈ target.expectedStatus, range.contains status = true

section
variable {libc : Libc} {target : HealthCheckTarget} {x : Exchange}

lemma exchangeStatus_ok {status : UInt16} : exchangeStatus libc target x = .ok status ↔
    (target.scheme = .https → ∃ tls, target.tls=some tls ∧ x.handshake tls = .ok ()) ∧ x.write = .ok () ∧
      Answers x.response status := by
  have hwrite : (x.write.bind fun _ => readHealthStatus libc x.response) = .ok status ↔
      x.write = .ok () ∧ Answers x.response status := by
    rw [bind_eq_ok,← readHealthStatus_ok ]
    exact ⟨fun ⟨_,hwrite,hread⟩ => ⟨hwrite,hread⟩,fun ⟨hwrite,hread⟩ => ⟨_,hwrite,hread⟩⟩
  unfold exchangeStatus
  cases target.scheme with
  | http =>
    dsimp only
    rw [hwrite,iff_comm]
    exact and_iff_right (fun h => by cases h)
  | https =>
    cases target.tls with
    | none =>
      refine iff_of_false nofun ?_
      rintro ⟨hsecured,-⟩
      obtain ⟨_,htls,-⟩ := hsecured rfl
      cases htls
    | some tls =>
      dsimp only
      rw [bind_eq_ok]
      constructor
      · rintro ⟨_,htls,hrest⟩
        exact ⟨fun _ => ⟨tls,rfl,htls⟩,hwrite.mp hrest⟩
      · rintro ⟨hsecured,hrest⟩
        obtain ⟨_,⟨⟩,htls⟩ := hsecured rfl
        exact ⟨_,htls,hwrite.mpr hrest⟩

theorem runHealthCheckInner_ok : runHealthCheckInner libc target x = .ok () ↔ Passes target x := by
  unfold runHealthCheckInner
  constructor
  · intro h
    obtain ⟨_,hconnect,h⟩ := bind_eq_ok.mp h
    obtain ⟨status,hstatus,h⟩ := bind_eq_ok.mp h
    obtain ⟨hsecured,hwritten,hanswers⟩ := exchangeStatus_ok.mp hstatus
    split_ifs at h with hexpected
    exact ⟨hconnect,hsecured,hwritten,status,hanswers,List.any_eq_true.mp hexpected⟩
  · rintro ⟨hconnect,hsecured,hwritten,status,hanswers,hexpected⟩
    refine bind_eq_ok.mpr ⟨(),hconnect,bind_eq_ok.mpr ⟨status,exchangeStatus_ok.mpr ⟨hsecured,hwritten,hanswers⟩,?_⟩⟩
    exact if_pos (List.any_eq_true.mpr hexpected)

lemma runHealthCheck_ok {attemptTimeout delay : ℕ} : runHealthCheck libc attemptTimeout target x = .ok delay ↔
    x.elapsed=some delay ∧ Passes target x := by
  unfold runHealthCheck
  cases x.elapsed with
  | none => exact iff_of_false nofun (by rintro ⟨⟨⟩,-⟩)
  | some elapsed =>
    dsimp only
    rw [map_eq_ok,← runHealthCheckInner_ok ,Option.some.injEq]
    exact ⟨fun ⟨_,h,heq⟩ => ⟨heq,h⟩,fun ⟨heq,h⟩ => ⟨_,h,heq⟩⟩

end

/-! What stops the checks of a round -/

/-- The stream fails before a whole head is there. -/
structure Unread (response : Incoming) (code : ℕ) : Prop where
  failed : response.ending = .failed code
  short : response.bytes.length < healthResponseHeaderLimit
  headless : ∀ read, read <+: response.bytes → ¬headEnd <:+ read

/-- How a probe fails before it has an answer. The error of the connection is what the node made of it, and can hold its
words. -/
inductive Unanswered (libc : Libc) (target : HealthCheckTarget) (x : Exchange) (err : IoError) : Prop
  | connecting (failed : x.connect = .error err)
  | securing {tls : HealthCheckTls} (connected : x.connect = .ok ()) (https : target.scheme = .https)
      (state : target.tls=some tls) (failed : x.handshake tls = .error err)
  | writing (connected : x.connect = .ok ())
      (secured : target.scheme = .https → ∃ tls, target.tls=some tls ∧ x.handshake tls = .ok ())
      (failed : x.write = .error err)
  | reading {code : ℕ} (connected : x.connect = .ok ())
      (secured : target.scheme = .https → ∃ tls, target.tls=some tls ∧ x.handshake tls = .ok ())
      (written : x.write = .ok ()) (unread : Unread x.response code) (same : err = .fromRawOsError libc code)

section
variable {libc : Libc} {ext : TargetExternals} {config : HealthConfig} {target : HealthCheckTarget} {x : Exchange}
  {err : IoError}

/-- The list that a target was made with is one that is accepted. -/
lemma fromConfig_expected (h : HealthCheckTarget.fromConfig ext config = .ok target) :
    target.expectedDisplay=config.healthCheckExpectedStatus ∧
      parseHealthCheckExpectedStatus config.healthCheckExpectedStatus = .ok target.expectedStatus := by
  unfold HealthCheckTarget.fromConfig at h
  split at h
  · cases h
  · unfold HealthCheckTarget.fromUrl at h
    simp only [bind_eq_ok,map_eq_ok] at h
    obtain ⟨_,-,_,-,_,-,_,-,_,-,ranges,hranges,rfl⟩ := h
    exact ⟨rfl,hranges⟩

/-- Both messages of exhaustion speak of "many". -/
lemma not_exhausted_new {kind : ErrorKind} {message : Str} (h : 'y' ∉ message) :
    isFileDescriptorExhaustion libc (.new kind message) = false := by
  rw [← Bool.not_eq_true,isFileDescriptorExhaustion_new]
  rintro (hread | hread)
  · exact h (hread.subset (by decide))
  · exact h (hread.subset (by decide))

lemma parseHttpStatus_error {head : Bytes} (h : parseHttpStatus head = .error err) :
    isFileDescriptorExhaustion libc err = false := by
  unfold parseHttpStatus at h
  split at h
  · cases h
    exact not_exhausted_new (by decide)
  · dsimp only at h
    split at h
    · cases h
      exact not_exhausted_new (by decide)
    · unfold statusOfWords at h
      split_ifs at h
      · split at h
        · cases h
          exact not_exhausted_new (by decide)
        · cases h
      · cases h
        exact not_exhausted_new (by decide)

/-- Whatever the bytes of an answer are, only a read that the stream fails can count as exhaustion. -/
lemma readHealthStatusFrom_exhausted {ending : Ending} (header bytes : Bytes) (hno : ¬headEnd <:+ header)
    (herr : isFileDescriptorExhaustion libc err = true) : readHealthStatusFrom libc ending header bytes = .error err ↔
      (header++bytes).length < healthResponseHeaderLimit ∧ (∀ read, read <+: bytes → ¬headEnd <:+ header++read) ∧
        ∃ code, ending = .failed code ∧ err = .fromRawOsError libc code := by
  have hplain : ∀ {message : Str}, 'y' ∉ message → err ≠ .new .invalidData message := by
    rintro message hmessage rfl
    rw [not_exhausted_new hmessage] at herr
    cases herr
  induction bytes generalizing header with
  | nil =>
    rw [readHealthStatusFrom,List.append_nil,Except.error.injEq]
    have hend : ∀ read, read <+: [] → ¬headEnd <:+ header++read := by
      intro read hread
      rw [List.prefix_nil.mp hread,List.append_nil]
      exact hno
    split_ifs with hlen
    · rw [and_iff_right hlen,and_iff_right hend]
      cases ending with
      | closed =>
        refine iff_of_false ?_ (by rintro ⟨_,⟨⟩,-⟩)
        rintro rfl
        have hnot : isFileDescriptorExhaustion libc (answerError libc .closed) = false := not_exhausted_new (by decide)
        rw [hnot] at herr
        cases herr
      | failed code => exact ⟨fun h => ⟨code,rfl,h.symm⟩,by rintro ⟨_,⟨⟩,rfl⟩; rfl⟩
    · exact iff_of_false (fun h => hplain (by decide) h.symm) fun h => hlen h.1
  | cons byte bytes ih =>
    have hassoc : (header++byte::bytes).length=((header++[byte])++bytes).length := by
      rw [List.append_assoc,List.singleton_append]
    rw [readHealthStatusFrom]
    split_ifs with hlen hends
    · refine iff_of_false (fun h => ?_) fun h => h.2.1 [byte] (List.prefix_append [byte] bytes) hends
      rw [parseHttpStatus_error h] at herr
      cases herr
    · refine (ih (header++[byte]) hends).trans ?_
      rw [hassoc]
      refine and_congr_right fun _ => and_congr_left' ⟨fun h read hread => ?_,fun h read hread => ?_⟩
      · cases read with
        | nil => exact (List.append_nil header).symm ▸ hno
        | cons b read =>
          obtain ⟨rfl,hrest⟩ := List.cons_prefix_cons.mp hread
          have := h read hrest
          rwa [List.append_assoc] at this
      · rw [List.append_assoc]
        exact h (byte::read) (List.cons_prefix_cons.mpr ⟨rfl,hread⟩)
    · refine iff_of_false (fun h => hplain (by decide) (Except.error.inj h).symm) fun h => hlen ?_
      rw [List.length_append] at h
      omega

lemma readHealthStatus_exhausted (herr : isFileDescriptorExhaustion libc err = true) :
    readHealthStatus libc x.response = .error err ↔ ∃ code, Unread x.response code ∧ err = .fromRawOsError libc code := by
  rw [readHealthStatus,readHealthStatusFrom_exhausted [] _ (by decide) herr]
  constructor
  · rintro ⟨hshort,hheadless,code,hfailed,rfl⟩
    exact ⟨code,⟨hfailed,hshort,hheadless⟩,rfl⟩
  · rintro ⟨code,⟨hfailed,hshort,hheadless⟩,rfl⟩
    exact ⟨hshort,hheadless,code,hfailed,rfl⟩

lemma unexpected_not_exhausted (htarget : HealthCheckTarget.fromConfig ext config = .ok target) (status : UInt16) :
    isFileDescriptorExhaustion libc (.otherError
      ("测活端点返回 HTTP ".toList++decimal status.toNat++"，期望 ".toList++target.expectedDisplay)) = false := by
  obtain ⟨hdisplay,hranges⟩ := fromConfig_expected htarget
  refine not_exhausted_new fun hmem => ?_
  rw [hdisplay] at hmem
  rcases List.mem_append.mp hmem with hmem | hmem
  · rcases List.mem_append.mp hmem with hmem | hmem
    · rcases List.mem_append.mp hmem with hmem | hmem
      · exact absurd hmem (by decide)
      · exact absurd (decimal_isDigit hmem) (by decide)
    · exact absurd hmem (by decide)
  · have hchar := parseHealthCheckExpectedStatus_chars hranges _ hmem
    exact absurd hchar (by decide)

lemma durationDebug_chars (ms : ℕ) : 'y' ∉ durationDebug ms := by
  have hdecimal : ∀ n, 'y' ∉ decimal n := notMem_decimal (by decide)
  have hfraction : ∀ n, 'y' ∉ ((['0','0','0']++decimal n).drop (decimal n).length).rdropWhile (fun c => c = '0') := by
    intro n hmem
    have hdrop := List.mem_of_mem_drop ((List.rdropWhile_prefix _ _).subset hmem)
    exact (List.mem_append.mp hdrop).elim (by decide) (hdecimal n)
  unfold durationDebug
  split_ifs
  · decide
  · simp [hdecimal]
  · simp [hdecimal]
  · simpa [hdecimal] using hfraction (ms%1000)

/-- A probe counts as exhaustion just when it fails so before it has an answer. -/
lemma runHealthCheckInner_exhausted (htarget : HealthCheckTarget.fromConfig ext config = .ok target)
    (herr : isFileDescriptorExhaustion libc err = true) :
    runHealthCheckInner libc target x = .error err ↔ Unanswered libc target x err := by
  have hrequest : (x.write.bind fun _ => readHealthStatus libc x.response) = .error err ↔
      x.write = .error err ∨ x.write = .ok () ∧ ∃ code, Unread x.response code ∧ err = .fromRawOsError libc code := by
    rw [bind_eq_error,← readHealthStatus_exhausted herr]
    exact or_congr_right ⟨fun ⟨_,hwrite,hread⟩ => ⟨hwrite,hread⟩,fun ⟨hwrite,hread⟩ => ⟨_,hwrite,hread⟩⟩
  have hstatus : exchangeStatus libc target x = .error err ↔
      (∃ tls, target.scheme = .https ∧ target.tls=some tls ∧ x.handshake tls = .error err) ∨
      (target.scheme = .https → ∃ tls, target.tls=some tls ∧ x.handshake tls = .ok ()) ∧
        (x.write = .error err ∨ x.write = .ok () ∧ ∃ code, Unread x.response code ∧ err = .fromRawOsError libc code) := by
    unfold exchangeStatus
    cases target.scheme with
    | http =>
      dsimp only
      rw [hrequest]
      simp
    | https =>
      cases target.tls with
      | none =>
        refine iff_of_false ?_ (by simp)
        rintro ⟨⟩
        rw [IoError.otherError,not_exhausted_new (by decide)] at herr
        cases herr
      | some tls =>
        dsimp only
        rw [bind_eq_error,hrequest]
        simp [Unique.exists_iff]
  unfold runHealthCheckInner
  rw [bind_eq_error]
  constructor
  · rintro (hconnect | ⟨_,hconnect,hrest⟩)
    · exact .connecting hconnect
    obtain hrest | ⟨status,-,hunexpected⟩ := bind_eq_error.mp hrest
    · obtain ⟨tls,hhttps,hstate,hfailed⟩ | ⟨hsecured,hwrite | ⟨hwrite,code,hunread,rfl⟩⟩ := hstatus.mp hrest
      · exact .securing hconnect hhttps hstate hfailed
      · exact .writing hconnect hsecured hwrite
      · exact .reading hconnect hsecured hwrite hunread rfl
    · split_ifs at hunexpected
      cases hunexpected
      rw [unexpected_not_exhausted htarget] at herr
      cases herr
  · rintro (hconnect | ⟨hconnect,hhttps,hstate,hfailed⟩ | ⟨hconnect,hsecured,hwrite⟩ |
      ⟨hconnect,hsecured,hwrite,hunread,rfl⟩)
    · exact .inl hconnect
    · exact .inr ⟨(),hconnect,bind_eq_error.mpr (.inl (hstatus.mpr (.inl ⟨_,hhttps,hstate,hfailed⟩)))⟩
    · exact .inr ⟨(),hconnect,bind_eq_error.mpr (.inl (hstatus.mpr (.inr ⟨hsecured,.inl hwrite⟩)))⟩
    · exact .inr ⟨(),hconnect,bind_eq_error.mpr (.inl (hstatus.mpr (.inr ⟨hsecured,.inr ⟨hwrite,_,hunread,rfl⟩⟩)))⟩

lemma runHealthCheck_exhausted (htarget : HealthCheckTarget.fromConfig ext config = .ok target) {attemptTimeout : ℕ}
    (herr : isFileDescriptorExhaustion libc err = true) : runHealthCheck libc attemptTimeout target x = .error err ↔
      x.elapsed.isSome = true ∧ Unanswered libc target x err := by
  unfold runHealthCheck
  cases x.elapsed with
  | none =>
    refine iff_of_false ?_ (by rintro ⟨⟨⟩,-⟩)
    rintro ⟨⟩
    have hmem : 'y' ∉ "测活超时，耗时 ".toList++durationDebug attemptTimeout := by
      rw [List.mem_append,not_or]
      exact ⟨by decide,durationDebug_chars attemptTimeout⟩
    rw [not_exhausted_new hmem] at herr
    cases herr
  | some delay =>
    dsimp only
    rw [map_eq_error,runHealthCheckInner_exhausted htarget herr]
    exact (and_iff_right rfl).symm

end

/-! A node for the default target -/

def webTarget : HealthCheckTarget where
  scheme := .http
  target := ⟨"cp.cloudflare.com".toList,80,by decide⟩
  request := healthRequest "/generate_204".toList defaultHealth.subscriptionUserAgent ⟨"cp.cloudflare.com".toList,80,by decide⟩
  display := defaultHealth.healthCheckUrl
  expectedStatus := [⟨200,399⟩]
  expectedDisplay := defaultHealth.healthCheckExpectedStatus
  tls := none

lemma webTarget_ranges : parseHealthCheckExpectedStatus defaultHealth.healthCheckExpectedStatus = .ok [⟨200,399⟩] := by decide

lemma webTarget_eq : HealthCheckTarget.fromConfig sampleTargetExternals defaultHealth = .ok webTarget := by
  have hurl : sampleTargetExternals.parseUrl defaultHealth.healthCheckUrl=
      some (webUrl "http".toList "cp.cloudflare.com".toList 80 "/generate_204".toList) := by decide
  unfold HealthCheckTarget.fromConfig
  rw [hurl]
  unfold HealthCheckTarget.fromUrl
  rw [webTarget_ranges]
  rfl

def noContent : Bytes := utf8 "HTTP/1.1 204 No Content\r\n\r\n".toList

lemma noContent_line : SaysStatus noContent 204 where
  first := .of_windowPosition (n := 23) (by decide +kernel) (by decide +kernel)
  length_le := by decide +kernel
  status := ⟨"1.1".toList,32,utf8 "No Content\r\n\r\n".toList,by decide +kernel,
    noSpace_of_all (by decide),.inl rfl⟩

def sampleExchange (elapsed : Option ℕ) : Exchange where
  connect := .ok ()
  handshake _ := .error (.otherError [])
  write := .ok ()
  response := ⟨noContent,.closed⟩
  elapsed := elapsed

/-! The verdict on a node -/

/-- A node is healthy after so long just when it is the first of its probes that passes in time, those before it failed, and
none of them for want of descriptors. It stops a round of checks just when, after such failures, a probe ends in time with an
error that counts as exhaustion and comes before the answer: what the target answers has no part in it. -/
theorem node_healthy_iff {libc : Libc} {ext : TargetExternals} {config : HealthConfig} {target : HealthCheckTarget}
    (htarget : HealthCheckTarget.fromConfig ext config = .ok target) (attemptTimeout : ℕ) (exchanges : List Exchange) :
    (∀ delay, checkProxyNode libc (some (exchanges.map (runHealthCheck libc attemptTimeout target)))=.healthy delay ↔
      ∃ before x after, exchanges=before++x::after ∧ x.elapsed=some delay ∧ Passes target x ∧
        ∀ y ∈ before, IsFailure libc (runHealthCheck libc attemptTimeout target y)) ∧
    ∀ err, checkProxyNode libc (some (exchanges.map (runHealthCheck libc attemptTimeout target)))=.resourceExhausted err ↔
      isFileDescriptorExhaustion libc err = true ∧ ∃ before x after, exchanges=before++x::after ∧ x.elapsed.isSome = true ∧
        Unanswered libc target x err ∧ ∀ y ∈ before, IsFailure libc (runHealthCheck libc attemptTimeout target y) := by
  have hsplit : ∀ {result : Except IoError ℕ} {p : Exchange → Prop},
      (∀ x, runHealthCheck libc attemptTimeout target x=result ↔ p x) →
      ((∃ before after, exchanges.map (runHealthCheck libc attemptTimeout target)=before++result::after ∧
        ∀ attempt ∈ before, IsFailure libc attempt) ↔ ∃ before x after, exchanges=before++x::after ∧ p x ∧
          ∀ y ∈ before, IsFailure libc (runHealthCheck libc attemptTimeout target y)) := by
    intro result p hp
    constructor
    · rintro ⟨before,after,hattempts,hbefore⟩
      obtain ⟨first,rest,rfl,rfl,hrest⟩ := List.map_eq_append_iff.mp hattempts
      obtain ⟨x,after,rfl,hx,rfl⟩ := List.map_eq_cons_iff.mp hrest
      exact ⟨first,x,after,rfl,(hp x).mp hx,List.forall_mem_map.mp hbefore⟩
    · rintro ⟨before,x,after,rfl,hx,hbefore⟩
      refine ⟨before.map (runHealthCheck libc attemptTimeout target),
        after.map (runHealthCheck libc attemptTimeout target),?_,List.forall_mem_map.mpr hbefore⟩
      rw [List.map_append,List.map_cons,(hp x).mpr hx]
  refine ⟨fun delay => ?_,fun err => ?_⟩
  · rw [checkProxyNode,checkAttempts_healthy_iff,hsplit fun x => runHealthCheck_ok]
    simp only [and_assoc]
  · rw [checkProxyNode,checkAttempts_exhausted_iff]
    refine and_congr_right fun herr => ?_
    rw [hsplit fun x => runHealthCheck_exhausted htarget herr]
    simp only [and_assoc]

/-- The first probe takes too long, and the second one passes. -/
theorem node_healthy_second : checkProxyNode .sample
    (some ([sampleExchange none,sampleExchange (some 12)].map (runHealthCheck .sample 10000 webTarget)))=.healthy 12 := by
  refine ((node_healthy_iff webTarget_eq 10000 _).1 12).mpr ⟨[sampleExchange none],sampleExchange (some 12),[],rfl,rfl,?_,?_⟩
  · exact ⟨rfl,fun h => (by cases h),rfl,204,⟨noContent,[],(List.append_nil _).symm,noContent_line.first,
      noContent_line.length_le,noContent_line.hasStatus⟩,⟨200,399⟩,List.mem_singleton_self _,by decide⟩
  · refine List.forall_mem_singleton.mpr ⟨_,rfl,not_exhausted_new ?_⟩
    decide

/-- An answer that says its code passes just when the code is in a range of the configured list, whatever stands behind the
code and behind the head. -/
theorem said_status_passes_iff {libc : Libc} {ext : TargetExternals} {config : HealthConfig} {target : HealthCheckTarget}
    {ranges : List StatusRange} (htarget : HealthCheckTarget.fromConfig ext config = .ok target)
    (hranges : parseHealthCheckExpectedStatus config.healthCheckExpectedStatus = .ok ranges) {x : Exchange}
    (hconnect : x.connect = .ok ()) (hsecured : target.scheme = .https → ∃ tls, target.tls=some tls ∧ x.handshake tls = .ok ())
    (hwritten : x.write = .ok ()) {head rest : Bytes} {status : UInt16} (hresponse : x.response.bytes=head++rest)
    (hline : SaysStatus head status) :
    runHealthCheckInner libc target x = .ok () ↔ ∃ range ∈ ranges, range.start ≤ status ∧ status ≤ range.stop := by
  have hexpected : target.expectedStatus=ranges := Except.ok.inj ((fromConfig_expected htarget).2.symm.trans hranges)
  have hanswers : ∀ other, Answers x.response other ↔ other=status := by
    intro other
    constructor
    · rintro ⟨head',rest',heq,hfirst,-,hstatus⟩
      obtain ⟨rfl,-⟩ := hfirst.append_inj hline.first (heq.symm.trans hresponse)
      exact hstatus.unique hline.hasStatus
    · rintro rfl
      exact ⟨head,rest,hresponse,hline.first,hline.length_le,hline.hasStatus⟩
  rw [runHealthCheckInner_ok,← hexpected]
  constructor
  · rintro ⟨-,-,-,other,hother,range,hrange,hcontains⟩
    obtain rfl := (hanswers other).mp hother
    exact ⟨range,hrange,of_decide_eq_true hcontains⟩
  · rintro ⟨range,hrange,hcontains⟩
    exact ⟨hconnect,hsecured,hwritten,status,(hanswers status).mpr rfl,range,hrange,decide_eq_true hcontains⟩

theorem said_status_passes_sample : runHealthCheckInner .sample webTarget (sampleExchange (some 12)) = .ok () := by
  refine (said_status_passes_iff webTarget_eq webTarget_ranges rfl (fun h => ?_) rfl (List.append_nil _).symm
    noContent_line).mpr ⟨_,List.mem_singleton_self _,by decide,by decide⟩
  cases h

end RotatorProxy.Health
