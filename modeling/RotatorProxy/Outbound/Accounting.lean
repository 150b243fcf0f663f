import RotatorProxy.Outbound.Connector
import RotatorProxy.Proxy.Looking

/-! What one request does to the records: which choices `connect` tries, what it reports of each of
them, and what the stream reports after it. -/
namespace RotatorProxy.Outbound.Connector
open Text Proxy Library

variable {c : Connector} {turn : Attempt} {attempts rest : ProxyAttempts} {p q : Pool} {choice : ProxyChoice}
  {tape : List Attempt} {lastError : Option IoError}

/-- A choice that was tried, and the turn in which it was. -/
abbrev Try := ProxyChoice × Attempt

/-- The key of a proxy; the direct route has none. -/
def choiceKey : ProxyChoice → Option Str
  | .direct => none
  | .proxy entry => some entry.key

variable (c) in
/-- The loop stops at a connection and at an exhaustion. -/
def isFinal (turn : Attempt) : Bool :=
  match turn.outcome with
  | .connected => true
  | .failed err => isFileDescriptorExhaustion c.libc err
  | .timedOut => false

variable (c) in
/-- What a request comes to when `tried` is its last attempt. -/
def outcomeOf (tried : Try) : Except IoError BoxedStream :=
  match tried.2.outcome with
  | .connected => .ok (observeRuntimeStream tried.1)
  | .failed err => .error err
  | .timedOut => .error c.timeoutError

variable (c) in
/-- The one report that an attempt is to have: none for an exhausted one or for the direct route. -/
def dueReport (tried : Try) : Option (Str × NodeReport) :=
  (choiceKey tried.1).bind (fun key =>
    match tried.2.outcome with
    | .connected => some (key,.success)
    | .failed err => if isFileDescriptorExhaustion c.libc err then none else some (key,.failure)
    | .timedOut => some (key,.failure))

/-- The account of the loop: the attempts `tries`, and the calls on the pool that come of them. -/
structure Accounted (c : Connector) (attempts : ProxyAttempts) (lastError : Option IoError)
    (tape : List Attempt) (p : Pool) (tries : List Try) (calls : List (ℕ × PoolCall))
    (result : Except IoError BoxedStream) (q : Pool) : Prop where
  /-- the turns are taken in their order, and none is left out -/
  turns : tries.map Prod.snd <+: tape
  distinct : (tries.map (fun tried => choiceKey tried.1)).Nodup
  untried : ∀ tried ∈ tries, ∀ key, choiceKey tried.1=some key → key ∉ attempts.tried
  within : tries.length ≤ attempts.remaining
  going_on : ∀ tried ∈ tries.dropLast, c.isFinal tried.2 = false
  result : result=(tries.getLast?.map c.outcomeOf).getD (.error (lastError.getD noRouteError))
  pool : q=p.calls c.env c.cfg calls
  reports : calls.filterMap (fun call => call.2.report)=tries.filterMap c.dueReport
  /-- the last attempt is final, or the iterator was asked once more and had nothing to give -/
  finished : (∃ tried, tries.getLast? = some tried ∧ c.isFinal tried.2 = true) ∨
    ∃ before now shuffles asked, calls=before++[(now,.next shuffles asked)] ∧
      asked.remaining+tries.length=attempts.remaining ∧
      (asked.next now shuffles (p.calls c.env c.cfg before)).1=none

namespace Accounted

/-- Nothing is left to try. -/
lemma none_left {r : Pool} {events : List BagEvent}
    (hnext : attempts.next turn.asked turn.shuffles p=(none,rest,r,events)) :
    Accounted c attempts lastError (turn::tape) p [] [(turn.asked,.next turn.shuffles attempts)]
      (.error (lastError.getD noRouteError)) r where
  turns := List.nil_prefix
  distinct := List.nodup_nil
  untried := fun _ h => by cases h
  within := Nat.zero_le _
  going_on := fun _ h => by cases h
  result := rfl
  pool := by simp [Pool.calls,PoolCall.exec,hnext]
  reports := rfl
  finished := .inr ⟨[],turn.asked,turn.shuffles,attempts,rfl,rfl,congrArg Prod.fst hnext⟩

end Accounted

/-- What `next` does to its iterator. -/
lemma next_iterator {events : List BagEvent} (hnext : attempts.next turn.asked turn.shuffles p=
    (some choice,rest,q,events)) :
    (∀ key, choiceKey choice=some key → key ∉ attempts.tried ∧ key ∈ rest.tried) ∧
      (∀ key ∈ attempts.tried, key ∈ rest.tried) ∧ (choiceKey choice=none → rest.remaining=0) := by
  cases choice with
  | direct =>
    refine ⟨fun _ h => (by cases h),?_,?_⟩
    all_goals
      unfold ProxyAttempts.next at hnext
      split_ifs at hnext
      · cases hnext
        first | exact fun _ h => h | exact fun _ => rfl
      · cases hnext
      · dsimp only at hnext
        split at hnext <;> cases hnext
  | proxy entry =>
    obtain ⟨_,havail,rfl⟩ := ProxyAttempts.next_found hnext
    refine ⟨?_,fun key hk => List.mem_insert_of_mem hk,fun h => by cases h⟩
    intro key hk
    cases hk
    exact ⟨havail.1,List.mem_insert_self⟩

/-- An attempt that the loop goes on after is to be reported as a failure. -/
lemma dueReport_going (choice : ProxyChoice) (h : c.isFinal turn = false) :
    c.dueReport (choice,turn)=(PoolCall.reportFailure choice).report := by
  unfold dueReport
  unfold isFinal at h
  cases choice with
  | direct => rfl
  | proxy entry =>
    dsimp only [choiceKey,Option.bind_some]
    split at h
    · cases h
    · next e _ => simp [h,PoolCall.report]
    · simp [PoolCall.report]

namespace Accounted
variable {events : List BagEvent} {tries : List Try} {calls : List (ℕ × PoolCall)}
  {result : Except IoError BoxedStream} {r : Pool} {err : IoError}

/-- The first attempt ends the request. -/
lemma final (hnext : attempts.next turn.asked turn.shuffles p=(some choice,rest,r,events))
    (hremaining : rest.remaining+1=attempts.remaining) (hfinal : c.isFinal turn = true)
    (hpool : q=r.calls c.env c.cfg calls)
    (hreports : calls.filterMap (fun call => call.2.report)=[(choice,turn)].filterMap c.dueReport) :
    Accounted c attempts lastError (turn::tape) p [(choice,turn)]
      ((turn.asked,.next turn.shuffles attempts)::calls) (c.outcomeOf (choice,turn)) q where
  turns := List.prefix_append [turn] tape
  distinct := List.nodup_singleton _
  untried := by
    intro tried ht key hk
    rw [List.mem_singleton.mp ht] at hk
    exact ((next_iterator hnext).1 key hk).1
  within := by
    rw [List.length_singleton]
    omega
  going_on := fun _ h => by cases h
  result := rfl
  pool := by
    rw [hpool]
    simp [Pool.calls,PoolCall.exec,hnext]
  reports := hreports
  finished := .inl ⟨_,rfl,hfinal⟩

/-- The first attempt fails and is reported, and the rest follows. -/
lemma cons (h : Accounted c rest (some err) tape (r.reportFailure c.env c.cfg turn.ended choice) tries calls
      result q) (hnext : attempts.next turn.asked turn.shuffles p=(some choice,rest,r,events))
    (hremaining : rest.remaining+1=attempts.remaining) (hgoing : c.isFinal turn = false)
    (herr : c.outcomeOf (choice,turn) = .error err) :
    Accounted c attempts lastError (turn::tape) p ((choice,turn)::tries)
      ((turn.asked,.next turn.shuffles attempts)::(turn.ended,.reportFailure choice)::calls) result q := by
  obtain ⟨hfirst,hkept,hdirect⟩ := next_iterator hnext
  have hlast : ((choice,turn)::tries).getLast? = some (tries.getLast?.getD (choice,turn)) := List.getLast?_cons
  have hpools : ∀ later, p.calls c.env c.cfg ((turn.asked,.next turn.shuffles attempts)::
      (turn.ended,.reportFailure choice)::later)=
        (r.reportFailure c.env c.cfg turn.ended choice).calls c.env c.cfg later := by
    intro later
    simp [Pool.calls,PoolCall.exec,hnext]
  have hwithin := h.within
  refine ⟨List.cons_prefix_cons.mpr ⟨rfl,h.turns⟩,?_,?_,?_,?_,?_,?_,?_,?_⟩
  · rw [List.map_cons,List.nodup_cons]
    refine ⟨?_,h.distinct⟩
    intro hmem
    obtain ⟨tried,ht,heq⟩ := List.mem_map.mp hmem
    cases hk : choiceKey choice with
    | none =>
      -- after the direct route there is no further attempt
      rw [hdirect hk] at hwithin
      rw [List.length_eq_zero_iff.mp (Nat.le_zero.mp hwithin)] at ht
      cases ht
    | some key => exact h.untried tried ht key (heq.trans hk) (hfirst key hk).2
  · intro tried ht key hk
    obtain rfl | ht := List.mem_cons.mp ht
    · exact (hfirst key hk).1
    · exact fun hmem => h.untried tried ht key hk (hkept key hmem)
  · rw [List.length_cons]
    omega
  · intro tried ht
    cases hn : tries with
    | nil =>
      rw [hn] at ht
      cases ht
    | cons next later =>
      rw [hn,List.dropLast_cons_cons] at ht
      obtain rfl | ht := List.mem_cons.mp ht
      · exact hgoing
      · exact h.going_on tried (hn ▸ ht)
  · rw [h.result,hlast]
    cases tries.getLast? with
    | none => exact herr.symm
    | some tried => rfl
  · rw [hpools]
    exact h.pool
  · rw [List.filterMap_cons_none rfl]
    simp only [List.filterMap_cons,dueReport_going choice hgoing,h.reports]
  · obtain ⟨tried,ht,hfinal⟩ | ⟨before,now,shuffles,asked,hcalls,hasked,hnone⟩ := h.finished
    · exact .inl ⟨tried,by rw [hlast,ht]; rfl,hfinal⟩
    · refine .inr ⟨_::_::before,now,shuffles,asked,by rw [hcalls]; rfl,?_,?_⟩
      · rw [List.length_cons]
        omega
      · rw [hpools]
        exact hnone

end Accounted

theorem connectLoop_accounted (tape : List Attempt) {attempts : ProxyAttempts} (h : DirectAlone attempts)
    (lastError : Option IoError) (p : Pool) (hlen : attempts.remaining < tape.length) :
    ∃ tries calls result q, c.connectLoop tape attempts lastError p=some (result,q) ∧
      Accounted c attempts lastError tape p tries calls result q := by
  induction tape generalizing attempts lastError p with
  | nil => cases hlen
  | cons turn tape ih =>
    rw [connectLoop]
    generalize hnext : attempts.next turn.asked turn.shuffles p=next
    obtain ⟨_ | choice,rest,r,events⟩ := next
    · exact ⟨[],_,_,r,rfl,.none_left hnext⟩
    · obtain ⟨hrest,hremaining⟩ := next_remaining h hnext
      dsimp only at hrest hremaining
      have hmore : rest.remaining < tape.length := by
        rw [List.length_cons] at hlen
        omega
      dsimp only
      cases hout : turn.outcome with
      | connected =>
        have hfinal : c.isFinal turn = true := by simp [isFinal,hout]
        have hreports : [(turn.ended,PoolCall.reportSuccess choice)].filterMap (fun call => call.2.report)=
            [(choice,turn)].filterMap c.dueReport := by
          cases choice <;> simp [dueReport,choiceKey,hout,PoolCall.report]
        refine ⟨_,_,_,_,?_,.final hnext hremaining hfinal rfl hreports⟩
        simp [outcomeOf,hout,Pool.calls,PoolCall.exec]
      | failed err =>
        cases hexhausted : isFileDescriptorExhaustion c.libc err with
        | true =>
          have hfinal : c.isFinal turn = true := by simp [isFinal,hout,hexhausted]
          have hreports : ([] : List (ℕ × PoolCall)).filterMap (fun call => call.2.report)=
              [(choice,turn)].filterMap c.dueReport := by
            cases choice <;> simp [dueReport,choiceKey,hout,hexhausted]
          refine ⟨_,_,_,r,?_,.final hnext hremaining hfinal rfl hreports⟩
          simp [outcomeOf,hout,hexhausted]
        | false =>
          obtain ⟨tries,calls,result,q,he,hacc⟩ := ih hrest (some err)
            (r.reportFailure c.env c.cfg turn.ended choice) hmore
          exact ⟨_,_,result,q,by simpa [hexhausted] using he,hacc.cons hnext hremaining (by simp [isFinal,hout,hexhausted])
            (by simp [outcomeOf,hout])⟩
      | timedOut =>
        obtain ⟨tries,calls,result,q,he,hacc⟩ := ih hrest (some c.timeoutError)
          (r.reportFailure c.env c.cfg turn.ended choice) hmore
        exact ⟨_,_,result,q,he,hacc.cons hnext hremaining (by simp [isFinal,hout]) (by simp [outcomeOf,hout])⟩

/-! One request -/

/-- Choices with different keys: what is reported of one of them is what is due to it. -/
lemma filter_dueReport {tries : List Try} (hdistinct : (tries.map (fun tried => choiceKey tried.1)).Nodup)
    {tried : Try} (hmem : tried ∈ tries) {key : Str} (hkey : choiceKey tried.1=some key) :
    (tries.filterMap c.dueReport).filter (fun report => report.1=key)=(c.dueReport tried).toList := by
  have hdue : ∀ (other : Try) report, c.dueReport other=some report → choiceKey other.1=some report.1 := by
    intro other report h
    obtain ⟨k,hk,hr⟩ := Option.bind_eq_some_iff.mp h
    rw [hk]
    split at hr
    · cases hr
      rfl
    · split_ifs at hr
      cases hr
      rfl
    · cases hr
      rfl
  have hother : ∀ (others : List Try), some key ∉ others.map (fun tried => choiceKey tried.1) →
      (others.filterMap c.dueReport).filter (fun report => report.1=key)=[] := by
    intro others hnot
    apply List.filter_eq_nil_iff.mpr
    intro report hr hk
    obtain ⟨other,ho,hd⟩ := List.mem_filterMap.mp hr
    refine hnot (List.mem_map.mpr ⟨other,ho,?_⟩)
    rw [hdue other report hd,of_decide_eq_true hk]
  obtain ⟨before,after,rfl⟩ := List.append_of_mem hmem
  rw [List.map_append,List.map_cons,hkey] at hdistinct
  obtain ⟨_,hafter,hbefore⟩ := List.nodup_append.mp hdistinct
  rw [List.filterMap_append,List.filter_append,hother before (fun h => hbefore _ h _ List.mem_cons_self rfl),
    List.nil_append,List.filterMap_cons]
  cases hd : c.dueReport tried with
  | none => exact hother after (List.nodup_cons.mp hafter).1
  | some report =>
    have hk : report.1=key := Option.some.inj ((hdue tried report hd).symm.trans hkey)
    dsimp only
    rw [List.filter_cons_of_pos (by simpa using hk),hother after (List.nodup_cons.mp hafter).1]
    rfl

/-- A request tries distinct choices until one is connected, one is exhausted or none is left. Every
proxy that is tried has the report due to it and no other, and the pool is what these calls make of it.
A stream is that of the last choice; it reports one failure if it fails before its first response, and
nothing otherwise. -/
theorem request_accounted (c : Connector) (tape : List Attempt) (p : Pool)
    (hlen : (p.attempts c.cfg).remaining < tape.length) :
    ∃ tries calls result q, c.connect tape p=some (result,q) ∧
      Accounted c (p.attempts c.cfg) none tape p tries calls result q ∧
      (∀ tried ∈ tries, ∀ key, choiceKey tried.1=some key →
        (calls.filterMap (fun call => call.2.report)).filter (fun report => report.1=key)=
          (c.dueReport tried).toList) ∧
      ∀ s, result=.ok (.observed s) → ∃ entry turn, tries.getLast? = some (.proxy entry,turn) ∧
        s=.new (.proxy entry) ∧ ∀ polls later,
          (FailsBeforeResponse polls → ∃ poll ∈ polls, poll.2.isFailure = true ∧
            (c.observeAll polls s later).2=later.reportFailure c.env c.cfg poll.1 (.proxy entry)) ∧
          (¬FailsBeforeResponse polls → (c.observeAll polls s later).2=later) := by
  obtain ⟨tries,calls,result,q,he,hacc⟩ :=
    connectLoop_accounted tape (attempts_directAlone c.cfg p) none p hlen
  refine ⟨tries,calls,result,q,he,hacc,?_,?_⟩
  · intro tried ht key hk
    rw [hacc.reports]
    exact filter_dueReport hacc.distinct ht hk
  · intro s hs
    have hresult := hacc.result
    rw [hs] at hresult
    cases hlast : tries.getLast? with
    | none => simp [hlast] at hresult
    | some tried =>
      obtain ⟨choice,turn⟩ := tried
      rw [hlast] at hresult
      simp only [Option.map_some,Option.getD_some,outcomeOf] at hresult
      split at hresult
      · cases choice with
        | direct => cases hresult
        | proxy entry =>
          cases hresult
          exact ⟨entry,turn,rfl,rfl,fun polls later =>
            ⟨fun h => observeAll_fails h _ later,fun h => observeAll_quiet h _ later⟩⟩
      · cases hresult
      · cases hresult

/-- The only node times out, and there is no other. -/
theorem request_accounted_sample : ∃ (tries : List Try) (calls : List (ℕ × PoolCall)) (result : _) (q : Pool),
    (sampleConnector 3).connect (List.replicate 2 ⟨0,fun _ => .identity,.timedOut,10⟩) (samplePool 3)=
        some (result,q) ∧
      tries.length ≤ 1 ∧ calls.filterMap (fun call => call.2.report)=
        tries.filterMap (sampleConnector 3).dueReport ∧ (q.record sampleNode.key).failures=1 := by
  obtain ⟨tries,calls,result,q,he,hacc,_⟩ := request_accounted (sampleConnector 3)
    (List.replicate 2 ⟨0,fun _ => .identity,.timedOut,10⟩) (samplePool 3) (by decide)
  have hq : (((sampleConnector 3).connect (List.replicate 2 ⟨0,fun _ => .identity,.timedOut,10⟩)
      (samplePool 3)).map (fun r => (r.2.record sampleNode.key).failures))=some 1 := by decide
  rw [he] at hq
  exact ⟨tries,calls,result,q,he,hacc.within,hacc.reports,Option.some.inj hq⟩

end RotatorProxy.Outbound.Connector
