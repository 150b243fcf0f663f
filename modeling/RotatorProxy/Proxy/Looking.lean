import RotatorProxy.Library.Expiry
import RotatorProxy.Proxy.Scan

/-! Looking at a node does not change what becomes of it. An expired cooldown is written down by the
next scan that comes by or by the next failure, whichever is first, and both write the same. -/
namespace RotatorProxy.Proxy
open Text Library

variable {env : Externals} {cfg : PoolConfig} {key : Str} {now : ℕ}

/-! One record -/

/-- What may be reported about a node. -/
inductive NodeReport
  | success
  | failure
  | recheckSuccess
  | recheckFailure
  deriving DecidableEq

/-- What a report makes of the record of its node. -/
def NodeReport.apply (cfg : PoolConfig) (now : ℕ) (record : Option FailureRecord) :
    NodeReport → Option FailureRecord
  | .success => none
  | .failure => some (recordFailure cfg now record).1
  | .recheckSuccess => if (disabledCount record).isSome then none else record
  | .recheckFailure =>
    match disabledCount record with
    | none => record
    | some n =>
      if disabledRecheckDeleteAfterFailures ≤ n+1 then none
      else record.map (fun r => {r with disabledRecheckFailures := n+1})

lemma isUnavailable_settles (now : ℕ) (record : Option FailureRecord) :
    (isUnavailable now record).2=record ∨
      ∃ r until_, record=some r ∧ r.disabled = false ∧ r.cooldownUntil=some until_ ∧ until_ ≤ now ∧
        (isUnavailable now record).2=some {r with failures := 0,cooldownUntil := none} := by
  cases record with
  | none => exact .inl rfl
  | some r =>
    unfold isUnavailable
    cases hd : r.disabled with
    | true => exact .inl (by simp [hd])
    | false =>
      cases hu : r.cooldownUntil with
      | none => exact .inl (by simp [hd,hu])
      | some until_ =>
        by_cases hlt : now < until_
        · exact .inl (by simp [hd,hu,hlt])
        · exact .inr ⟨r,until_,rfl,hd,hu,by omega,by simp [hd,hu,hlt]⟩

lemma isUnavailable_later {now now' : ℕ} (record : Option FailureRecord) (hle : now ≤ now') :
    (isUnavailable now' (isUnavailable now record).2).2=(isUnavailable now' record).2 := by
  obtain he | ⟨r,until_,rfl,hd,hu,hexp,he⟩ := isUnavailable_settles now record
  · rw [he]
  · rw [he]
    have hnot : ¬now' < until_ := by omega
    simp [isUnavailable,hd,hu,hnot]

/-- A failure clears what has expired, as a look does. -/
lemma recordFailure_settled (cfg : PoolConfig) (now : ℕ) (record : Option FailureRecord) :
    recordFailure cfg now (isUnavailable now record).2=recordFailure cfg now record := by
  obtain he | ⟨r,until_,rfl,hd,hu,hexp,he⟩ := isUnavailable_settles now record
  · rw [he]
  · rw [he]
    simp [recordFailure,hd,hu,hexp]

/-- A record that is marked disabled is left as it is by a look; one that is not stays so. -/
lemma isUnavailable_of_disabled {record : Option FailureRecord} {n : ℕ} (h : disabledCount record=some n) :
    (isUnavailable now record).2=record := by
  obtain he | ⟨r,until_,rfl,hd,_⟩ := isUnavailable_settles now record
  · exact he
  · simp [hd] at h

/-- The record of a node under looks and reports. -/
def recordExpiry (cfg : PoolConfig) : LazyExpiry (Option FailureRecord) NodeReport where
  settle now record := (isUnavailable now record).2
  act now report record := report.apply cfg now record
  settle_later := isUnavailable_later
  act_settled := by
    intro now report record
    cases report with
    | success => rfl
    | failure => rw [NodeReport.apply,recordFailure_settled,NodeReport.apply]
    | recheckSuccess | recheckFailure =>
      cases hn : disabledCount record with
      | some n => rw [isUnavailable_of_disabled hn]
      | none =>
        simp only [NodeReport.apply,isUnavailable_disabledCount,hn,Option.isSome_none,Bool.false_eq_true,
          if_false]
        exact isUnavailable_later record le_rfl

/-- What a look does not change can be read off a record at any time. -/
lemma settled_same {r s : Option FailureRecord} {t : ℕ} (h : (recordExpiry cfg).Alike t r s) :
    (r.getD .fresh).disabled=(s.getD .fresh).disabled ∧
      (r.getD .fresh).cooldowns=(s.getD .fresh).cooldowns ∧
      ∀ now, t ≤ now → (isUnavailable now r).1=(isUnavailable now s).1 := by
  have hkeeps : ∀ record : Option FailureRecord,
      ((isUnavailable t record).2.getD .fresh).disabled=(record.getD .fresh).disabled ∧
        ((isUnavailable t record).2.getD .fresh).cooldowns=(record.getD .fresh).cooldowns := by
    intro record
    obtain he | ⟨r,until_,rfl,hd,_,_,he⟩ := isUnavailable_settles t record <;>
    · rw [he]
      exact ⟨rfl,rfl⟩
  have hsame : (isUnavailable t r).2=(isUnavailable t s).2 := h
  refine ⟨?_,?_,?_⟩
  · rw [← (hkeeps r).1,hsame,(hkeeps s).1]
  · rw [← (hkeeps r).2,hsame,(hkeeps s).2]
  · intro now hle
    have hagain : (isUnavailable now r).2=(isUnavailable now s).2 := h.later hle
    rw [← isUnavailable_again now r,hagain,isUnavailable_again now s]

/-! The pool -/

/-- A scan looks at the record of a key or leaves it alone. -/
lemma scanLoop_looks (now : ℕ) (tried : List Str) (generation : ℕ) (proxies : List ProxyEntry)
    (shuffles : ℕ → Shuffle) (fuel scanned : ℕ) (bag : SelectionBag) (failures : FailureMap) (key : Str)
    {scan : Scan} (hscan : scanLoop now tried generation proxies shuffles fuel scanned bag failures=scan) :
    scan.failures key=failures key ∨ scan.failures key=(isUnavailable now (failures key)).2 := by
  obtain ⟨hsame,_⟩ | ⟨entry,_,_,_,hpassed⟩ :=
    scanLoop_changes now tried generation proxies shuffles fuel scanned bag failures hscan
  · exact .inl (congrFun hsame key)
  · -- only the entry that is found may have been changed
    rw [hpassed]
    unfold passOver
    split_ifs
    · exact .inl rfl
    · by_cases hk : key=entry.key
      · subst hk
        exact .inr (Function.update_self _ _ _)
      · exact .inl (Function.update_of_ne hk _ _)

lemma ProxyAttempts.next_looks (attempts : ProxyAttempts) (now : ℕ) (shuffles : ℕ → Shuffle) (p : Pool)
    (key : Str) : (attempts.next now shuffles p).2.2.1.failures key=p.failures key ∨
      (attempts.next now shuffles p).2.2.1.failures key=(isUnavailable now (p.failures key)).2 := by
  unfold next
  split_ifs
  · exact .inl rfl
  · exact .inl rfl
  · have hscan : ∀ scan, p.nextRandomAvailable now attempts.tried shuffles=scan →
        scan.failures key=p.failures key ∨ scan.failures key=(isUnavailable now (p.failures key)).2 := by
      unfold Pool.nextRandomAvailable
      intro scan hscan
      split_ifs at hscan
      · subst hscan
        exact .inl rfl
      · exact scanLoop_looks _ _ _ _ _ _ _ _ _ _ hscan
    have h := hscan _ rfl
    dsimp only
    generalize p.nextRandomAvailable now attempts.tried shuffles=scan at *
    obtain ⟨outcome,bag,failures,events⟩ := scan
    cases outcome <;> exact h

/-- A call on a pool: a scan for one candidate, or a report. `candidates` is a series of scans. -/
inductive PoolCall
  | next (shuffles : ℕ → Shuffle) (attempts : ProxyAttempts)
  | reportSuccess (choice : ProxyChoice)
  | reportFailure (choice : ProxyChoice)
  | recheckSuccess (key : Str) (persist : Bool)
  | recheckFailure (key : Str) (persist : Bool)

variable (env cfg) in
def PoolCall.exec (now : ℕ) (p : Pool) : PoolCall → Pool
  | .next shuffles attempts => (attempts.next now shuffles p).2.2.1
  | .reportSuccess choice => p.reportSuccess env cfg choice
  | .reportFailure choice => p.reportFailure env cfg now choice
  | .recheckSuccess key persist => (p.reportDisabledRecheckSuccessInner env cfg key persist).1
  | .recheckFailure key persist => (p.reportDisabledRecheckFailureInner env cfg key persist).1

/-- What is reported, and of which key. -/
def PoolCall.report : PoolCall → Option (Str × NodeReport)
  | .reportSuccess (.proxy entry) => some (entry.key,.success)
  | .reportFailure (.proxy entry) => some (entry.key,.failure)
  | .recheckSuccess key _ => some (key,.recheckSuccess)
  | .recheckFailure key _ => some (key,.recheckFailure)
  | _ => none

variable (env cfg) in
/-- A report changes the record of its key, and no other. -/
theorem PoolCall.exec_failures (now : ℕ) (p : Pool) {call : PoolCall} {key : Str} {report : NodeReport}
    (h : call.report=some (key,report)) :
    (call.exec env cfg now p).failures=
      Function.update p.failures key (report.apply cfg now (p.failures key)) := by
  cases call with
  | next shuffles attempts => cases h
  | reportSuccess choice =>
    cases choice with
    | direct => cases h
    | proxy entry =>
      cases h
      obtain ⟨hn,he⟩ | ⟨record,_,he⟩ := p.reportSuccessLocked_cases entry.key
      · simp [exec,Pool.reportSuccess,he,NodeReport.apply,← hn]
      · simp only [exec,Pool.reportSuccess,he,NodeReport.apply]
        split_ifs <;> simp [Pool.removePersistedDisabledInner]
  | reportFailure choice =>
    cases choice with
    | direct => cases h
    | proxy entry =>
      cases h
      obtain ⟨_,he⟩ | ⟨_,he⟩ := p.reportFailure_cases env cfg now entry <;>
      · simp [exec,he,NodeReport.apply,Pool.persistDisabledEntryInner]
  | recheckSuccess key persist =>
    cases h
    obtain ⟨hn,he⟩ | ⟨⟨n,hn⟩,he⟩ := p.recheckSuccessLocked_cases key
    · simp [exec,Pool.reportDisabledRecheckSuccessInner,he,NodeReport.apply,hn]
    · cases persist <;>
      · simp [exec,Pool.reportDisabledRecheckSuccessInner,he,NodeReport.apply,hn,
          Pool.removePersistedDisabledInner]
  | recheckFailure key persist =>
    cases h
    obtain ⟨hn,he⟩ | ⟨record,n,hr,hn,_,he⟩ := p.recheckFailureLocked_cases key
    · simp [exec,Pool.reportDisabledRecheckFailureInner,he,NodeReport.apply,hn]
    · rw [← hr] at hn
      simp only [exec,Pool.reportDisabledRecheckFailureInner,he,NodeReport.apply,hn]
      split_ifs
      · rw [(Pool.removeAndRetire_state env cfg key _ persist).2]
        simp
      · cases persist <;> simp [Pool.persistDisabledEntryInner,hr]

/-! Runs -/

variable (env cfg) in
/-- One call after the other, each at its time. -/
def Pool.calls (p : Pool) (calls : List (ℕ × PoolCall)) : Pool :=
  calls.foldl (fun p call => call.2.exec env cfg call.1 p) p

/-- What a call reports of one key. -/
def PoolCall.reportOn (key : Str) (call : PoolCall) : Option NodeReport :=
  match call.report with
  | some (k,report) => if k=key then some report else none
  | none => none

/-- The reports of one key with their times. -/
def reportsOn (key : Str) (calls : List (ℕ × PoolCall)) : List (ℕ × NodeReport) :=
  calls.filterMap (fun call => (call.2.reportOn key).map (fun report => (call.1,report)))

variable (env cfg) in
/-- To the record of a key a call is a report, a look or nothing. -/
theorem PoolCall.exec_record (now : ℕ) (p : Pool) (call : PoolCall) (key : Str) :
    ∃ steps, (call.exec env cfg now p).failures key=(recordExpiry cfg).run (p.failures key) steps ∧
      LazyExpiry.events steps=((call.reportOn key).map (fun report => (now,report))).toList ∧
      (steps=[] ∨ ∃ e, steps=[(now,e)]) := by
  unfold reportOn
  cases hr : call.report with
  | none =>
    cases call with
    | next shuffles attempts =>
      obtain he | he := attempts.next_looks now shuffles p key
      · exact ⟨[],he,rfl,.inl rfl⟩
      · exact ⟨[(now,none)],he,rfl,.inr ⟨none,rfl⟩⟩
    | reportSuccess choice | reportFailure choice =>
      cases choice with
      | direct => exact ⟨[],rfl,rfl,.inl rfl⟩
      | proxy entry => cases hr
    | recheckSuccess key persist | recheckFailure key persist => cases hr
  | some about =>
    obtain ⟨k,report⟩ := about
    have he := congrFun (call.exec_failures env cfg now p hr) key
    by_cases hk : k=key
    · subst hk
      rw [Function.update_self] at he
      exact ⟨[(now,some report)],he,by simp [LazyExpiry.events],.inr ⟨some report,rfl⟩⟩
    · rw [Function.update_of_ne (Ne.symm hk)] at he
      exact ⟨[],he,by simp [hk,LazyExpiry.events],.inl rfl⟩

variable (env cfg) in
/-- The calls of a run are looks at the record and reports of it, in the order of their times. -/
theorem Pool.calls_record (p : Pool) {calls : List (ℕ × PoolCall)}
    (hsorted : calls.Pairwise (fun a b => a.1 ≤ b.1)) (key : Str) :
    ∃ steps, (p.calls env cfg calls).failures key=(recordExpiry cfg).run (p.failures key) steps ∧
      LazyExpiry.events steps=reportsOn key calls ∧ steps.Pairwise (fun a b => a.1 ≤ b.1) ∧
      ∀ step ∈ steps, ∃ call ∈ calls, call.1=step.1 := by
  induction calls generalizing p with
  | nil => exact ⟨[],rfl,rfl,.nil,fun _ h => by cases h⟩
  | cons call calls ih =>
    obtain ⟨hfirst,hrest⟩ := List.pairwise_cons.mp hsorted
    obtain ⟨one,hone,hevent,htime⟩ := call.2.exec_record env cfg call.1 p key
    obtain ⟨steps,hsteps,hevents,hordered,hof⟩ := ih (call.2.exec env cfg call.1 p) hrest
    have htimes : ∀ step ∈ one, step.1=call.1 := by
      intro step hs
      obtain rfl | ⟨e,rfl⟩ := htime
      · cases hs
      · rw [List.mem_singleton.mp hs]
    refine ⟨one++steps,?_,?_,List.pairwise_append.mpr ⟨?_,hordered,?_⟩,?_⟩
    · rw [LazyExpiry.run_append,← hone]
      exact hsteps
    · rw [LazyExpiry.events_append,hevent,hevents]
      simp only [reportsOn,List.filterMap_cons]
      cases call.2.reportOn key <;> rfl
    · obtain rfl | ⟨e,rfl⟩ := htime
      · exact .nil
      · exact List.pairwise_singleton _ _
    · intro a ha b hb
      obtain ⟨later,hl,he⟩ := hof b hb
      rw [htimes a ha,← he]
      exact hfirst later hl
    · intro step hs
      obtain hs | hs := List.mem_append.mp hs
      · exact ⟨call,List.mem_cons_self,(htimes step hs).symm⟩
      · obtain ⟨later,hl,he⟩ := hof step hs
        exact ⟨later,List.mem_cons_of_mem _ hl,he⟩

/-- Two runs from one pool in which the same is reported of a node leave it equally disabled, with as
many cooldowns and available at the same times, whatever scans there were and whatever was reported of
other nodes. -/
theorem looking_changes_nothing (p : Pool) {calls calls' : List (ℕ × PoolCall)}
    (hsorted : calls.Pairwise (fun a b => a.1 ≤ b.1)) (hsorted' : calls'.Pairwise (fun a b => a.1 ≤ b.1))
    (hsame : reportsOn key calls=reportsOn key calls') :
    ((p.calls env cfg calls).record key).disabled=((p.calls env cfg calls').record key).disabled ∧
      ((p.calls env cfg calls).record key).cooldowns=((p.calls env cfg calls').record key).cooldowns ∧
      ∀ t, (∀ call ∈ calls++calls', call.1 ≤ t) →
        (isUnavailable t ((p.calls env cfg calls).failures key)).1=
          (isUnavailable t ((p.calls env cfg calls').failures key)).1 := by
  obtain ⟨steps,hsteps,hevents,hordered,hof⟩ := p.calls_record env cfg hsorted key
  obtain ⟨steps',hsteps',hevents',hordered',hof'⟩ := p.calls_record env cfg hsorted' key
  rw [← hevents,← hevents'] at hsame
  have halike : ∀ t, (∀ call ∈ calls++calls', call.1 ≤ t) →
      (recordExpiry cfg).Alike t ((p.calls env cfg calls).failures key)
        ((p.calls env cfg calls').failures key) := by
    intro t ht
    rw [hsteps,hsteps']
    apply LazyExpiry.alike_of_events hordered hordered' _ _ hsame
    · intro step hs
      obtain ⟨call,hc,he⟩ := hof step hs
      exact he ▸ ht call (List.mem_append_left _ hc)
    · intro step hs
      obtain ⟨call,hc,he⟩ := hof' step hs
      exact he ▸ ht call (List.mem_append_right _ hc)
  obtain ⟨last,hlast⟩ : ∃ last, ∀ call ∈ calls++calls', call.1 ≤ last := by
    refine ⟨((calls++calls').map Prod.fst).sum,fun call hc => ?_⟩
    exact List.single_le_sum (fun _ _ => Nat.zero_le _) _ (List.mem_map_of_mem hc)
  obtain ⟨hdisabled,hcooldowns,_⟩ := settled_same (halike last hlast)
  exact ⟨hdisabled,hcooldowns,fun t ht => (settled_same (halike t ht)).2.2 t le_rfl⟩

/-! Two failures are a cooldown of ten ticks, and a third comes before it is over. -/

def lookConfig : PoolConfig := .new 0 2 10 3 true

def lookPool : Pool := Pool.withRuntimeFailurePolicyAndState sampleExternals lookConfig [sampleNode] .absent

def lookFailure : PoolCall := .reportFailure (.proxy (.fromNode sampleNode))

def lookScan : PoolCall := .next (fun _ => .identity) (lookPool.attempts lookConfig)

/-- The scan at 11 writes down the end of the cooldown; without it the failure at 12 does. -/
theorem looking_changes_nothing_sample :
    (∃ p q, Pool.calls sampleExternals lookConfig lookPool [(0,lookFailure),(1,lookFailure),
        (5,lookFailure),(11,lookScan),(12,lookFailure)]=p ∧
      Pool.calls sampleExternals lookConfig lookPool [(0,lookFailure),(1,lookFailure),(3,lookScan),
        (5,lookFailure),(12,lookFailure)]=q ∧
      (p.record sampleNode.key).cooldowns=1 ∧ (q.record sampleNode.key).cooldowns=1 ∧
      (p.record sampleNode.key).disabled=(q.record sampleNode.key).disabled) := by
  refine ⟨_,_,rfl,rfl,by decide,by decide,?_⟩
  exact (looking_changes_nothing lookPool (by decide) (by decide) (by decide)).1

end RotatorProxy.Proxy
