import RotatorProxy.Health.Check
import RotatorProxy.Hysteria.Session
import RotatorProxy.Outbound.Connector
import RotatorProxy.Outbound.Tunnel

/-! Whether text that an upstream sends can pass for file descriptor exhaustion on this machine:
what a failed handshake does to the connector and to a health check. -/
namespace RotatorProxy.Outbound
open Text Proxy Library Hysteria Health

/-- What one attempt meets: the answer of an upstream to CONNECT, or a dial through a hysteria server. -/
inductive Answer
  | httpConnect (incoming : Incoming)
  | hysteria (dial : Dial)

variable (libc : Libc) (meow : MeowDisplay)

/-- `connect_once` for the given answer. -/
def connectOnce : Answer → Except IoError Unit
  | .httpConnect incoming => (connectHttpTunnel libc incoming).map fun _ => ()
  | .hysteria dial => (dialTcp dial).mapError (meowErrorToIo libc meow)

/-- A complete head within the limit refuses the request with its status line. -/
structure HeadRefuses (incoming : Incoming) (line : Str) : Prop where
  complete : ∃ head rest, incoming.bytes=head++rest ∧ FirstEnd headEnd head ∧
    head.length ≤ httpConnectResponseLimit ∧ firstLine (fromUtf8Lossy head) = some line
  rejects : Rejects line

/-- The text from outside that a failed attempt carries: the status line of a refusing head, or what the
failing step of a dial reports. -/
def Reports : Answer → Str → Prop
  | .httpConnect incoming,line => HeadRefuses incoming line
  | .hysteria dial,text => ∃ target, targetFromMetadata dial.metadata = .ok target ∧ DialReports dial target text

/-- No system call on the way failed for want of file descriptors. -/
def LocalCallsOk : Answer → Prop
  | .httpConnect incoming => ∀ code, incoming.ending=.failed code → code ∉ fileDescriptorExhaustionCodes
  | .hysteria dial => dial.LocalOk

variable {libc}

theorem Ending.error_plain {ending : Ending}
    (h : ∀ code, ending=.failed code → code ∉ fileDescriptorExhaustionCodes) :
    isFileDescriptorExhaustion libc (ending.error libc) = false := by
  rw [Bool.eq_false_iff]
  intro hexhausted
  cases ending with
  | closed =>
    have hreads := (isFileDescriptorExhaustion_new libc _ _).mp hexhausted
    exact absurd hreads (by decide)
  | failed code => exact h code rfl ((isFileDescriptorExhaustion_fromRawOsError libc code).mp hexhausted)

lemma headTooLong_plain : isFileDescriptorExhaustion libc headTooLong = false := by
  rw [Bool.eq_false_iff]
  intro hexhausted
  have hreads := (isFileDescriptorExhaustion_new libc _ _).mp hexhausted
  exact absurd hreads (by decide)

theorem connectRejected_exhausted (line : Str) :
    isFileDescriptorExhaustion libc (connectRejected line) = true ↔ ReadsExhausted line := by
  have hlead : LeadIn "HTTP 代理 CONNECT 失败：".toList := ⟨by decide,by decide⟩
  rw [connectRejected,IoError.otherError,isFileDescriptorExhaustion_new,hlead.readsExhausted]

/-- Only the status line of a refusal can make the error count as exhaustion. -/
theorem connectHttpTunnel_error {incoming : Incoming} {err : IoError}
    (hlocal : ∀ code, incoming.ending=.failed code → code ∉ fileDescriptorExhaustionCodes)
    (h : connectHttpTunnel libc incoming = .error err) :
    isFileDescriptorExhaustion libc err = true ↔ ∃ line, HeadRefuses incoming line ∧ ReadsExhausted line := by
  obtain hread | ⟨⟨head,rest⟩,hread,hvalidate⟩ := bind_eq_error.mp h
  · have hplain : isFileDescriptorExhaustion libc err = false := by
      obtain rfl | rfl := readHttpHeaderFrom_error [] incoming.bytes hread
      · exact Ending.error_plain hlocal
      · exact headTooLong_plain
    rw [hplain]
    refine ⟨fun h => absurd h Bool.false_ne_true,?_⟩
    rintro ⟨line,⟨⟨head,rest,hbytes,hfirst,hlen,_⟩,_⟩,_⟩
    rw [readHttpHeader_ok.mpr ⟨hbytes,hfirst,hlen⟩] at hread
    cases hread
  · obtain ⟨hbytes,hfirst,hlen⟩ := readHttpHeader_ok.mp hread
    have hrefuses : ∀ line, HeadRefuses incoming line ↔
        firstLine (fromUtf8Lossy head) = some line ∧ Rejects line := by
      intro line
      constructor
      · rintro ⟨⟨head',rest',hbytes',hfirst',_,hline⟩,hrejects⟩
        obtain ⟨rfl,_⟩ := hfirst.append_inj hfirst' (hbytes.symm.trans hbytes')
        exact ⟨hline,hrejects⟩
      · exact fun ⟨hline,hrejects⟩ => ⟨⟨head,rest,hbytes,hfirst,hlen,hline⟩,hrejects⟩
    simp only [hrefuses]
    have hinvalid := map_eq_error.mp hvalidate
    obtain ⟨line,hline,hrejects,heq⟩ | ⟨hno,hplain⟩ := validateHttpConnectResponse_cases libc head
    · rw [heq] at hinvalid
      cases hinvalid
      rw [connectRejected_exhausted]
      constructor
      · exact fun hr => ⟨line,⟨hline,hrejects⟩,hr⟩
      · rintro ⟨line',⟨hline',_⟩,hr⟩
        rw [hline] at hline'
        cases hline'
        exact hr
    · rw [hplain err hinvalid]
      refine ⟨fun h => absurd h Bool.false_ne_true,?_⟩
      rintro ⟨line,⟨hline,hrejects⟩,_⟩
      exact absurd hrejects (hno line hline)

/-- A refused request ends in an error. -/
theorem HeadRefuses.not_ok {incoming : Incoming} {line : Str} (h : HeadRefuses incoming line) (rest : Bytes) :
    connectHttpTunnel libc incoming ≠ .ok rest := by
  obtain ⟨⟨head,_,hbytes,hfirst,hlen,hline⟩,hrejects⟩ := h
  intro hok
  obtain ⟨read,hread,hvalidate⟩ := bind_eq_ok.mp hok
  rw [readHttpHeader_ok.mpr ⟨hbytes,hfirst,hlen⟩] at hread
  cases hread
  obtain ⟨_,hvalid,_⟩ := map_eq_ok.mp hvalidate
  obtain ⟨_,_,_,heq⟩ | ⟨hno,_⟩ := validateHttpConnectResponse_cases libc head
  · rw [heq] at hvalid
    cases hvalid
  · exact hno line hline hrejects

theorem counts_connectHttpTunnel {incoming : Incoming}
    (hlocal : ∀ code, incoming.ending=.failed code → code ∉ fileDescriptorExhaustionCodes) :
    (∃ err, connectHttpTunnel libc incoming = .error err ∧ isFileDescriptorExhaustion libc err = true) ↔
      ∃ line, HeadRefuses incoming line ∧ ReadsExhausted line := by
  constructor
  · rintro ⟨err,herr,hexhausted⟩
    exact (connectHttpTunnel_error hlocal herr).mp hexhausted
  · rintro ⟨line,hrefuses,hreads⟩
    cases htunnel : connectHttpTunnel libc incoming with
    | ok rest => exact absurd htunnel (hrefuses.not_ok rest)
    | error err => exact ⟨err,rfl,(connectHttpTunnel_error hlocal htunnel).mpr ⟨line,hrefuses,hreads⟩⟩

/-- A failed attempt counts as exhaustion by the text from outside that it carries. -/
theorem counts_connectOnce (libc : Libc) (meow : MeowDisplay) {answer : Answer} (hlocal : LocalCallsOk answer) :
    (∃ err, connectOnce libc meow answer = .error err ∧ isFileDescriptorExhaustion libc err = true) ↔
      ∃ text, Reports answer text ∧ ReadsExhausted text := by
  cases answer with
  | httpConnect incoming =>
    simp only [connectOnce,map_eq_error]
    exact counts_connectHttpTunnel hlocal
  | hysteria dial =>
    have hdial : (∃ err, connectOnce libc meow (.hysteria dial) = .error err ∧
        isFileDescriptorExhaustion libc err = true) ↔ CountsExhausted libc meow (dialTcp dial) := by
      rw [connectOnce,CountsExhausted]
      cases dialTcp dial with
      | error err => simp [Except.mapError]
      | ok u => simp [Except.mapError]
    rw [hdial,counts_dialTcp hlocal]
    constructor
    · rintro ⟨target,htarget,text,hreports,hreads⟩
      exact ⟨text,⟨target,htarget,hreports⟩,hreads⟩
    · rintro ⟨text,⟨target,htarget,hreports⟩,hreads⟩
      exact ⟨target,htarget,text,hreports,hreads⟩

/-- The error is held against the node: it does not count as exhaustion, `connect` records a failure
and goes on to the next candidate, and a health check of failing attempts ends as unhealthy. -/
structure HeldAgainstNode (c : Connector) (err : IoError) : Prop where
  plain : isFileDescriptorExhaustion c.libc err = false
  recorded : ∀ (turn : Attempt) (tape : List Attempt) (attempts : ProxyAttempts)
    (lastError : Option IoError) (p : Pool) (choice : ProxyChoice)
    (rest : ProxyAttempts × Pool × List BagEvent),
    attempts.next turn.asked turn.shuffles p=(some choice,rest) → turn.outcome=.failed err →
      c.connectLoop (turn::tape) attempts lastError p=
        c.connectLoop tape rest.1 (some err) (rest.2.1.reportFailure c.env c.cfg turn.ended choice)
  unhealthy : ∀ before after : List (Except IoError ℕ),
    (∀ attempt ∈ before++after,
      ∃ e, attempt = .error e ∧ isFileDescriptorExhaustion c.libc e = false) →
      checkProxyNode c.libc (some (before++.error err::after))=.unhealthy

theorem heldAgainstNode_iff {c : Connector} {err : IoError} :
    HeldAgainstNode c err ↔ isFileDescriptorExhaustion c.libc err = false := by
  refine ⟨HeldAgainstNode.plain,fun hplain => ⟨hplain,?_,?_⟩⟩
  · intro turn tape attempts lastError p choice rest hnext hout
    exact Connector.connectLoop_failed hnext hout hplain
  · intro before after hothers
    apply checkAttempts_unhealthy
    intro attempt hattempt
    obtain hmem | hmem := List.mem_append.mp hattempt
    · exact hothers attempt (List.mem_append_left after hmem)
    · obtain rfl | hmem := List.mem_cons.mp hmem
      · exact ⟨err,rfl,hplain⟩
      · exact hothers attempt (List.mem_append_right before hmem)

/-- A failed attempt is held against the node exactly when no text that it carries from outside holds
the message of an exhaustion error. -/
theorem refusal_held_against_node {c : Connector} (meow : MeowDisplay) {answer : Answer}
    (hlocal : LocalCallsOk answer) :
    (∀ err, connectOnce c.libc meow answer = .error err → HeldAgainstNode c err) ↔
      ∀ text, Reports answer text → ¬ReadsExhausted text := by
  have hcounts := counts_connectOnce c.libc meow hlocal
  simp only [heldAgainstNode_iff]
  constructor
  · intro hheld text hreports hreads
    obtain ⟨err,herr,hexhausted⟩ := hcounts.mpr ⟨text,hreports,hreads⟩
    rw [hheld err herr] at hexhausted
    cases hexhausted
  · intro htexts err herr
    rw [Bool.eq_false_iff]
    intro hexhausted
    obtain ⟨text,hreports,hreads⟩ := hcounts.mp ⟨err,herr,hexhausted⟩
    exact htexts text hreports hreads

def MeowDisplay.sample : MeowDisplay := ⟨"proxy error: ".toList,leadIn_of_notMem (by decide)⟩

/-- A hysteria server that closes the connection with a reason of its own. -/
def closingServer (reason : Str) : Dial where
  options := ⟨"example.com".toList,443,[1],none,"hysteria".toList,false,100,100,none,false⟩
  metadata := ⟨"example.org".toList,none,80⟩
  cached := false
  resolved := .ok [⟨.ok (),.ok (),.ok (),some (.error ("closed by peer: ".toList++reason)),none,.ok (),
    fun _ => .ok (),[],⟨.other,[],[]⟩⟩]
  openStream := .ok ()
  write _ := .ok ()
  response := []
  fault := ⟨.other,[],[]⟩

-- the reason is turned into the error of a system call that never failed
example : connectOnce Libc.sample .sample (.hysteria (closingServer emfileText)) =
    .error (.fromRawOsError Libc.sample emfile) := by decide +kernel

/-! Two refusals of an HTTP proxy -/

def authRequired : Str := "HTTP/1.1 407 Proxy Authentication Required".toList

theorem auth_required_held :
    HeldAgainstNode (Connector.sampleConnector 1) (connectRejected authRequired) := by
  have hattempt : connectOnce Libc.sample .sample
      (.httpConnect ⟨utf8 (authRequired++"\r\n\r\n".toList),.closed⟩) =
        .error (connectRejected authRequired) := by decide +kernel
  have hlocal : LocalCallsOk (.httpConnect ⟨utf8 (authRequired++"\r\n\r\n".toList),.closed⟩) := by
    intro code h
    cases h
  refine (refusal_held_against_node (c := Connector.sampleConnector 1) .sample hlocal).mpr ?_ _ hattempt
  intro text hreports hreads
  obtain ⟨err,herr,hexhausted⟩ :=
    (counts_connectOnce Libc.sample .sample hlocal).mpr ⟨text,hreports,hreads⟩
  rw [hattempt] at herr
  cases herr
  rw [connectRejected_exhausted] at hexhausted
  exact absurd hexhausted (by decide +kernel)

def falseAlarm : Str := "HTTP/1.1 403 Too many open files (os error 24)".toList

/-- A status line that an upstream is free to choose ends `connect` without a failure of its node,
and ends a health check as if this machine were exhausted. -/
theorem false_alarm_believed :
    connectOnce Libc.sample .sample (.httpConnect ⟨utf8 (falseAlarm++"\r\n\r\n".toList),.closed⟩) =
        .error (connectRejected falseAlarm) ∧
      isFileDescriptorExhaustion Libc.sample (connectRejected falseAlarm) = true ∧
      (∃ p, (Connector.sampleConnector 1).connect
          [⟨0,fun _ => .identity,.failed (connectRejected falseAlarm),0⟩] (Connector.samplePool 1) =
            some (.error (connectRejected falseAlarm),p) ∧ p.failures sampleNode.key=none) ∧
      checkProxyNode Libc.sample (some [.error (connectRejected falseAlarm),.ok 5])=
        .resourceExhausted (connectRejected falseAlarm) :=
  ⟨by decide +kernel,by decide +kernel,⟨_,rfl,rfl⟩,by decide +kernel⟩

end RotatorProxy.Outbound
