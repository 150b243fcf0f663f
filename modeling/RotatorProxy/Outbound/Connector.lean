import RotatorProxy.Outbound.Resource
import RotatorProxy.Proxy.Attempts

/-! The outbound connector: candidates of the pool are tried one after another until one is
established, and the stream of a proxy is watched until its first response. The tape of attempts
says how the outside behaves in each turn. -/
namespace RotatorProxy.Outbound
open Text Proxy

inductive AttemptOutcome
  | connected
  | failed (err : IoError)
  | timedOut

/-- One turn of the loop in `connect`: when a candidate is asked for, in which random orders, how
`connect_once` ends, and when its end is reported. -/
structure Attempt where
  asked : ℕ
  shuffles : ℕ → Shuffle
  outcome : AttemptOutcome
  ended : ℕ

structure RuntimeObservedStream where
  choice : ProxyChoice
  responseSeen : Bool
  failureReported : Bool
  postResponseErrorLogged : Bool

def RuntimeObservedStream.new (choice : ProxyChoice) : RuntimeObservedStream :=
  ⟨choice,false,false,false⟩

inductive BoxedStream
  | plain
  | observed (stream : RuntimeObservedStream)

def observeRuntimeStream : ProxyChoice → BoxedStream
  | .direct => .plain
  | .proxy entry => .observed (.new (.proxy entry))

structure Connector where
  env : Externals
  libc : Libc
  cfg : PoolConfig
  /-- `connect_timeout` as `{:?}` writes it -/
  connectTimeout : Str

namespace Connector
variable (c : Connector)

def timeoutError : IoError := .new .timedOut ("连接超时，耗时 ".toList++c.connectTimeout)

def noRouteError : IoError := .otherError "没有可用出站路由".toList

/-- The loop of `connect`; a tape that is too short leaves it unfinished. -/
def connectLoop : List Attempt → ProxyAttempts → Option IoError → Pool →
    Option (Except IoError BoxedStream × Pool)
  | [],_,_,_ => none
  | turn::tape,attempts,lastError,p =>
    match attempts.next turn.asked turn.shuffles p with
    | (none,_,p,_) => some (.error (lastError.getD noRouteError),p)
    | (some choice,attempts,p,_) =>
      match turn.outcome with
      | .connected => some (.ok (observeRuntimeStream choice),p.reportSuccess c.env c.cfg choice)
      | .failed err =>
        if isFileDescriptorExhaustion c.libc err then some (.error err,p)
        else connectLoop tape attempts (some err) (p.reportFailure c.env c.cfg turn.ended choice)
      | .timedOut =>
        connectLoop tape attempts (some c.timeoutError) (p.reportFailure c.env c.cfg turn.ended choice)

def connect (tape : List Attempt) (p : Pool) : Option (Except IoError BoxedStream × Pool) :=
  c.connectLoop tape (p.attempts c.cfg) none p

/-! The stream of a connected proxy -/

inductive Operation
  | read
  | write
  | flush
  | shutdown
  deriving DecidableEq, Repr

/-- What a poll of the inner stream gives. -/
inductive InnerPoll
  /-- A read is ready: it had room for `remaining` bytes and filled in `filled`. -/
  | readReady (remaining filled : ℕ)
  | failed (operation : Operation) (err : IoError)
  /-- pending, or another operation that succeeds -/
  | quiet

def InnerPoll.isResponse : InnerPoll → Bool
  | .readReady _ filled => decide (0 < filled)
  | _ => false

/-- An error, or the end of the stream. -/
def InnerPoll.isFailure : InnerPoll → Bool
  | .readReady remaining filled => decide (filled=0 ∧ 0 < remaining)
  | .failed _ _ => true
  | .quiet => false

def logPostResponseError (s : RuntimeObservedStream) : RuntimeObservedStream :=
  if s.postResponseErrorLogged then s else {s with postResponseErrorLogged := true}

def reportPreResponseFailure (now : ℕ) (s : RuntimeObservedStream) (p : Pool) :
    RuntimeObservedStream × Pool :=
  if s.failureReported then (s,p)
  else ({s with failureReported := true},p.reportFailure c.env c.cfg now s.choice)

def reportPreResponseEof (now : ℕ) (s : RuntimeObservedStream) (p : Pool) :
    RuntimeObservedStream × Pool :=
  if s.responseSeen then (s,p) else c.reportPreResponseFailure now s p

def reportRuntimeError (now : ℕ) (s : RuntimeObservedStream) (p : Pool) :
    RuntimeObservedStream × Pool :=
  if s.responseSeen then (logPostResponseError s,p) else c.reportPreResponseFailure now s p

def observe (now : ℕ) (s : RuntimeObservedStream) (p : Pool) : InnerPoll → RuntimeObservedStream × Pool
  | .readReady remaining filled =>
    if 0 < filled then ({s with responseSeen := true},p)
    else if 0 < remaining then c.reportPreResponseEof now s p
    else (s,p)
  | .failed _ _ => c.reportRuntimeError now s p
  | .quiet => (s,p)

/-- A stream over its life: every poll with the time at which it happens. -/
def observeAll : List (ℕ × InnerPoll) → RuntimeObservedStream → Pool → RuntimeObservedStream × Pool
  | [],s,p => (s,p)
  | poll::polls,s,p =>
    let next := c.observe poll.1 s p poll.2
    observeAll polls next.1 next.2

/-- Some poll fails, and none before it brought a response. -/
def FailsBeforeResponse (polls : List (ℕ × InnerPoll)) : Prop :=
  ∃ before failing after, polls=before++failing::after ∧ failing.2.isFailure = true ∧
    ∀ poll ∈ before, poll.2.isResponse = false

/-! One turn of the loop -/

variable {c}

/-- A rejected candidate is reported, and the loop goes on with the rest of the tape. -/
theorem connectLoop_failed {turn : Attempt} {tape : List Attempt} {attempts : ProxyAttempts}
    {lastError : Option IoError} {p : Pool} {choice : ProxyChoice} {rest : ProxyAttempts × Pool × List BagEvent}
    {err : IoError} (hnext : attempts.next turn.asked turn.shuffles p=(some choice,rest))
    (hout : turn.outcome=.failed err) (herr : isFileDescriptorExhaustion c.libc err = false) :
    c.connectLoop (turn::tape) attempts lastError p=
      c.connectLoop tape rest.1 (some err) (rest.2.1.reportFailure c.env c.cfg turn.ended choice) := by
  simp [connectLoop,hnext,hout,herr]

/-! `connect` returns -/

/-- The direct route is the only candidate of its iterator. -/
def DirectAlone (attempts : ProxyAttempts) : Prop :=
  attempts.directPending = true → attempts.remaining=1

lemma attempts_directAlone (cfg : PoolConfig) (p : Pool) : DirectAlone (p.attempts cfg) := by
  unfold Pool.attempts
  dsimp only
  split
  · exact fun _ => rfl
  · intro h
    cases h

/-- Every candidate uses up one of the attempts. -/
lemma next_remaining {attempts : ProxyAttempts} (h : DirectAlone attempts) {now : ℕ}
    {shuffles : ℕ → Shuffle} {p : Pool} {choice : ProxyChoice}
    {rest : ProxyAttempts × Pool × List BagEvent}
    (hnext : attempts.next now shuffles p=(some choice,rest)) :
    DirectAlone rest.1 ∧ rest.1.remaining+1=attempts.remaining := by
  unfold ProxyAttempts.next at hnext
  split_ifs at hnext with hdirect hzero
  · cases hnext
    exact ⟨fun _ => by simp_all [DirectAlone],(h hdirect).symm⟩
  · cases hnext
  · generalize p.nextRandomAvailable now attempts.tried shuffles=scan at hnext
    obtain ⟨outcome,bag,failures,events⟩ := scan
    cases outcome with
    | found entry =>
      cases hnext
      refine ⟨(fun hd => by cases hd),?_⟩
      change attempts.remaining-1+1=attempts.remaining
      omega
    | exhausted => cases hnext
    | outOfBounds index => cases hnext
    | outOfFuel => cases hnext

theorem connectLoop_returns (tape : List Attempt) {attempts : ProxyAttempts} (h : DirectAlone attempts)
    (lastError : Option IoError) (p : Pool) (hlen : attempts.remaining < tape.length) :
    (c.connectLoop tape attempts lastError p).isSome = true := by
  induction tape generalizing attempts lastError p with
  | nil => simp at hlen
  | cons turn tape ih =>
    rw [connectLoop]
    split
    · rfl
    · next choice rest q events hnext =>
      obtain ⟨hrest,hremaining⟩ := next_remaining h hnext
      rw [List.length_cons] at hlen
      split
      · rfl
      · split_ifs
        · rfl
        · apply ih hrest
          omega
      · apply ih hrest
        omega

/-- Given one turn more than there are candidates, `connect` comes to an end. -/
theorem connect_returns (tape : List Attempt) (p : Pool)
    (hlen : (p.attempts c.cfg).remaining < tape.length) : (c.connect tape p).isSome = true :=
  connectLoop_returns tape (attempts_directAlone c.cfg p) none p hlen

/-! What a connected proxy leaves behind -/

lemma reportSuccess_forgets (env : Externals) (cfg : PoolConfig) (p : Pool) (entry : ProxyEntry) :
    (p.reportSuccess env cfg (.proxy entry)).failures entry.key=none := by
  unfold Pool.reportSuccess
  dsimp only
  obtain ⟨hnone,he⟩ | ⟨record,_,he⟩ := p.reportSuccessLocked_cases entry.key
  · simpa [he] using hnone
  · rw [he]
    dsimp only
    split_ifs
    · simp [Pool.removePersistedDisabledInner]
    · simp

/-- Whatever the record of a node was, a stream through it starts with none. -/
theorem connectLoop_observed {tape : List Attempt} {attempts : ProxyAttempts} {lastError : Option IoError}
    {p q : Pool} {s : RuntimeObservedStream}
    (h : c.connectLoop tape attempts lastError p = some (.ok (.observed s),q)) :
    ∃ entry, s=.new (.proxy entry) ∧ q.failures entry.key=none := by
  induction tape generalizing attempts lastError p with
  | nil => cases h
  | cons turn tape ih =>
    rw [connectLoop] at h
    split at h
    · cases h
    · next choice rest r events hnext =>
      split at h
      · cases choice with
        | direct => cases h
        | proxy entry =>
          cases h
          exact ⟨entry,rfl,reportSuccess_forgets c.env c.cfg r entry⟩
      · split_ifs at h
        · cases h
        · exact ih h
      · exact ih h

/-! What the stream reports -/

/-- Once a failure is reported the stream leaves the pool alone. -/
lemma observeAll_reported (polls : List (ℕ × InnerPoll)) {s : RuntimeObservedStream} (p : Pool)
    (hs : s.failureReported = true) : (c.observeAll polls s p).2=p := by
  induction polls generalizing s with
  | nil => rfl
  | cons head polls ih =>
    have hstep : (c.observe head.1 s p head.2).2=p ∧
        (c.observe head.1 s p head.2).1.failureReported = true := by
      cases head.2 with
      | readReady remaining filled =>
        simp only [observe,reportPreResponseEof,reportPreResponseFailure]
        split_ifs <;> simp_all
      | failed operation err =>
        simp only [observe,reportRuntimeError,reportPreResponseFailure,logPostResponseError]
        split_ifs <;> simp_all
      | quiet => exact ⟨rfl,hs⟩
    rw [observeAll,hstep.1]
    exact ih hstep.2

lemma observe_failing (now : ℕ) (choice : ProxyChoice) (p : Pool) {poll : InnerPoll}
    (h : poll.isFailure = true) :
    (c.observe now (.new choice) p poll).2=p.reportFailure c.env c.cfg now choice ∧
      (c.observe now (.new choice) p poll).1.failureReported = true := by
  cases poll with
  | readReady remaining filled =>
    simp only [InnerPoll.isFailure,decide_eq_true_eq] at h
    simp [observe,h.1,h.2,reportPreResponseEof,reportPreResponseFailure,RuntimeObservedStream.new]
  | failed operation err =>
    exact ⟨rfl,rfl⟩
  | quiet => cases h

lemma observe_idle (now : ℕ) (s : RuntimeObservedStream) (p : Pool) {poll : InnerPoll}
    (hfail : poll.isFailure = false) (hresp : poll.isResponse = false) : c.observe now s p poll=(s,p) := by
  cases poll with
  | readReady remaining filled =>
    simp only [InnerPoll.isFailure,InnerPoll.isResponse,decide_eq_false_iff_not] at hfail hresp
    rw [observe,if_neg hresp,if_neg (by omega)]
  | failed operation err => cases hfail
  | quiet => rfl

/-- A stream that fails before its first response reports exactly one failure of its node. -/
theorem observeAll_fails {polls : List (ℕ × InnerPoll)} (h : FailsBeforeResponse polls)
    (choice : ProxyChoice) (p : Pool) :
    ∃ poll ∈ polls, poll.2.isFailure = true ∧
      (c.observeAll polls (.new choice) p).2=p.reportFailure c.env c.cfg poll.1 choice := by
  obtain ⟨before,failing,after,rfl,hfail,hbefore⟩ := h
  induction before with
  | nil =>
    obtain ⟨hpool,hreported⟩ := observe_failing (c := c) failing.1 choice p hfail
    refine ⟨failing,List.mem_cons_self,hfail,?_⟩
    rw [List.nil_append,observeAll,observeAll_reported after _ hreported,hpool]
  | cons head before ih =>
    rw [List.cons_append,observeAll]
    by_cases hhead : head.2.isFailure = true
    · obtain ⟨hpool,hreported⟩ := observe_failing (c := c) head.1 choice p hhead
      exact ⟨head,List.mem_cons_self,hhead,by rw [observeAll_reported _ _ hreported,hpool]⟩
    · rw [observe_idle head.1 _ p (by simpa using hhead) (hbefore head List.mem_cons_self)]
      obtain ⟨poll,hmem,hrest⟩ := ih (fun poll hp => hbefore poll (List.mem_cons_of_mem _ hp))
      exact ⟨poll,List.mem_cons_of_mem _ hmem,hrest⟩

/-- After a response nothing is reported any more. -/
lemma observeAll_seen (polls : List (ℕ × InnerPoll)) {s : RuntimeObservedStream} (p : Pool)
    (hs : s.responseSeen = true) : (c.observeAll polls s p).2=p := by
  induction polls generalizing s with
  | nil => rfl
  | cons head polls ih =>
    have hstep : (c.observe head.1 s p head.2).2=p ∧ (c.observe head.1 s p head.2).1.responseSeen = true := by
      cases head.2 with
      | readReady remaining filled =>
        simp only [observe,reportPreResponseEof,hs,if_true]
        split_ifs <;> exact ⟨rfl,by simp [hs]⟩
      | failed operation err =>
        unfold observe reportRuntimeError logPostResponseError
        rw [if_pos hs]
        split_ifs <;> exact ⟨rfl,hs⟩
      | quiet => exact ⟨rfl,hs⟩
    rw [observeAll,hstep.1]
    exact ih hstep.2

/-- A stream that does not fail before its first response reports nothing. -/
theorem observeAll_quiet {polls : List (ℕ × InnerPoll)} (h : ¬FailsBeforeResponse polls)
    (s : RuntimeObservedStream) (p : Pool) : (c.observeAll polls s p).2=p := by
  induction polls with
  | nil => rfl
  | cons head polls ih =>
    have hhead : head.2.isFailure = false := by
      by_contra hf
      exact h ⟨[],head,polls,rfl,by simpa using hf,fun _ hp => by cases hp⟩
    cases hresp : head.2.isResponse with
    | false =>
      rw [observeAll,observe_idle head.1 s p hhead hresp]
      apply ih
      rintro ⟨before,failing,after,rfl,hfail,hbefore⟩
      refine h ⟨head::before,failing,after,rfl,hfail,?_⟩
      intro poll hp
      obtain rfl | hp := List.mem_cons.mp hp
      · exact hresp
      · exact hbefore poll hp
    | true =>
      cases hp : head.2 with
      | readReady remaining filled =>
        have hfilled : 0 < filled := by simpa [hp,InnerPoll.isResponse] using hresp
        simp only [observeAll,hp,observe,if_pos hfilled]
        exact observeAll_seen polls p rfl
      | failed operation err => simp [hp,InnerPoll.isResponse] at hresp
      | quiet => simp [hp,InnerPoll.isResponse] at hresp

/-! A connector for concrete runs -/

/-- A connector whose pool holds one node, which is to be disabled after `threshold` failures. -/
def sampleConnector (threshold : ℕ) : Connector where
  env := sampleExternals
  libc := .sample
  cfg := .new 0 threshold 300 1 true
  connectTimeout := "10s".toList

def samplePool (threshold : ℕ) : Pool :=
  .withRuntimeFailurePolicyAndState sampleExternals (sampleConnector threshold).cfg [sampleNode] .absent

end Connector
end RotatorProxy.Outbound
