import RotatorProxy.Proxy.Agreement

/-! What a report does to a pool: every one of them sets the record of its key and brings the
disabled map in line, or does nothing. -/
namespace RotatorProxy.Proxy
open Text

variable {env : Externals} {cfg : PoolConfig} {p : Pool} {key : Str}

/-- All that a report about `key` can do; the last four save the state if `persist` says so. -/
inductive ReportEffect (env : Externals) (cfg : PoolConfig) (persist : Bool) (key : Str) (p : Pool) :
    Pool → Prop
  | nothing : ReportEffect env cfg persist key p p
  | recorded (record : Option FailureRecord) (count : disabledCount record=disabledCount (p.failures key)) :
    ReportEffect env cfg persist key p (p.setRecord key record)
  | disabled (record : Option FailureRecord) (n : ℕ) (count : disabledCount record=some n)
    (few : n < disabledRecheckDeleteAfterFailures) : ReportEffect env cfg persist key p
      ((p.setRecord key record).persistDisabledEntryInner env cfg key n persist)
  | enabled : ReportEffect env cfg persist key p
      ((p.setRecord key none).removePersistedDisabledInner env cfg key persist)
  | enabledReset (generation : ℕ) : ReportEffect env cfg persist key p
      (((p.setRecord key none).removePersistedDisabledInner env cfg key persist).resetSelection generation)
  | retired : ReportEffect env cfg persist key p ((p.setRecord key none).removeAndRetire env cfg key persist)

namespace Pool

variable (env cfg p) in
/-- A success, like a recheck, is ignored unless there is a record. -/
theorem reportSuccess_does (entry : ProxyEntry) :
    ReportEffect env cfg true entry.key p (p.reportSuccess env cfg (.proxy entry)) ∧
      (p.failures entry.key=none → p.reportSuccess env cfg (.proxy entry)=p) := by
  obtain ⟨_,he⟩ | ⟨record,hr,he⟩ := reportSuccessLocked_cases entry.key p
  · simp only [Pool.reportSuccess,he]
    exact ⟨.nothing,fun _ => rfl⟩
  · simp only [Pool.reportSuccess,he]
    refine ⟨?_,fun hn => by rw [hn] at hr; cases hr⟩
    cases hw : record.disabled || decide (0 < record.disabledRecheckFailures) with
    | true => exact .enabled
    | false =>
      have hd : record.disabled = false := (Bool.or_eq_false_iff.mp hw).1
      exact .recorded none (by simp [hr,hd])

variable (env cfg p) in
theorem reportFailure_does (now : ℕ) (entry : ProxyEntry) :
    ReportEffect env cfg true entry.key p (p.reportFailure env cfg now (.proxy entry)) := by
  obtain ⟨hcount,_⟩ := recordFailure_disabledCount cfg now (p.failures entry.key)
  obtain ⟨hb,he⟩ | ⟨hb,he⟩ := reportFailure_cases env cfg p now entry
  · rw [hb,if_pos rfl] at hcount
    rw [he]
    exact .disabled _ 0 hcount (by decide)
  · rw [hb,if_neg Bool.false_ne_true] at hcount
    rw [he]
    exact .recorded _ hcount

variable (env cfg key p) in
theorem recheckSuccess_does (persist : Bool) :
    ReportEffect env cfg persist key p (p.reportDisabledRecheckSuccessInner env cfg key persist).1 ∧
      (p.failures key=none → (p.reportDisabledRecheckSuccessInner env cfg key persist).1=p) := by
  unfold reportDisabledRecheckSuccessInner
  obtain ⟨_,he⟩ | ⟨⟨count,hcount⟩,he⟩ := recheckSuccessLocked_cases key p
  · rw [he]
    exact ⟨.nothing,fun _ => rfl⟩
  · rw [he]
    exact ⟨.enabledReset _,fun hn => by simp [hn] at hcount⟩

variable (env cfg key p) in
theorem recheckFailure_does (persist : Bool) :
    ReportEffect env cfg persist key p (p.reportDisabledRecheckFailureInner env cfg key persist).1 ∧
      (p.failures key=none → (p.reportDisabledRecheckFailureInner env cfg key persist).1=p) := by
  unfold reportDisabledRecheckFailureInner
  obtain ⟨_,he⟩ | ⟨record,count,hr,_,hnew,he⟩ := recheckFailureLocked_cases key p
  · rw [he]
    exact ⟨.nothing,fun _ => rfl⟩
  · rw [he]
    dsimp only
    refine ⟨?_,fun hn => by rw [hn] at hr; cases hr⟩
    split_ifs with hmany
    · rw [setRecord_setRecord]
      exact .retired
    · exact .disabled _ _ hnew (by omega)

end Pool
end RotatorProxy.Proxy
