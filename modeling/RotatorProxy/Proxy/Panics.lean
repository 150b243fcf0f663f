import RotatorProxy.Proxy.Candidates
import RotatorProxy.Proxy.Merging

/-! Panics, and the locks that they poison. A tick is a nanosecond here, an `Instant` has signed 64-bit
seconds, and arithmetic that overflows panics. -/
namespace RotatorProxy.Proxy
open Text Library

/-- The first tick that no `Instant` can hold. -/
def instantLimit : ℕ := 2^63*10^9

/-- The first number that no `usize` can hold. -/
def wordLimit : ℕ := 2^64

inductive Panic
  | shardPoisoned
  | selectionPoisoned
  | countOverflow
  | instantOverflow
  | outOfBounds
  deriving DecidableEq, Repr

/-- A pool together with the locks that were held when a thread panicked. -/
structure SharedPool where
  pool : Pool
  poisonedShards : List ℕ
  selectionPoisoned : Bool

def SharedPool.fresh (pool : Pool) : SharedPool := ⟨pool,[],false⟩

/-- Where `report_failure` panics on the record of its key, and what it has written by then. -/
def failurePanic (cfg : PoolConfig) (now : ℕ) (record : Option FailureRecord) :
    Option (Panic × FailureRecord) :=
  let record := record.getD .fresh
  if record.disabled then none
  else
    let expired := record.cooldownUntil.any (fun until_ => decide (until_ ≤ now))
    let record := if expired then {record with failures := 0,cooldownUntil := none} else record
    if wordLimit ≤ record.failures+1 then some (.countOverflow,record)
    else if cfg.runtimeFailureThreshold ≤ record.failures+1 then
      let record := {record with failures := 0}
      if wordLimit ≤ record.cooldowns+1 then some (.countOverflow,record)
      else
        let record := {record with cooldowns := record.cooldowns+1}
        if cfg.runtimeDisableAfterCooldowns ≤ record.cooldowns then none
        else if instantLimit ≤ now+cfg.cooldown then some (.instantOverflow,record)
        else none
    else none

/-- The keys whose records a scan looks at. -/
def lookedKeys (tried : List Str) (proxies : List ProxyEntry) (events : List BagEvent) : List Str :=
  events.filterMap (fun event => match event with
    | .popped index _ => (proxies[index]?.filter (fun entry => decide (entry.key ∉ tried))).map ProxyEntry.key
    | _ => none)

namespace SharedPool
variable (env : Externals) (cfg : PoolConfig) (s : SharedPool)

def shardPoisoned (key : Str) : Bool := s.poisonedShards.contains (failureShardIndex env key)

/-- The operation has returned. -/
def returned (pool : Pool) : SharedPool × Option Panic := ({s with pool := pool},none)

/-- A panic while the shard of the key is locked. -/
def poisonShard (key : Str) (pool : Pool) (panic : Panic) : SharedPool × Option Panic :=
  ({s with pool := pool,poisonedShards := failureShardIndex env key::s.poisonedShards},some panic)

/-- `failure_shard` -/
def lockShard (key : Str) (body : SharedPool × Option Panic) : SharedPool × Option Panic :=
  if s.shardPoisoned env key then (s,some .shardPoisoned) else body

def reportSuccess (choice : ProxyChoice) : SharedPool × Option Panic :=
  match choice with
  | .direct => s.returned s.pool
  | .proxy entry => s.lockShard env entry.key (s.returned (s.pool.reportSuccess env cfg choice))

def reportFailure (now : ℕ) (choice : ProxyChoice) : SharedPool × Option Panic :=
  match choice with
  | .direct => s.returned s.pool
  | .proxy entry => s.lockShard env entry.key (
    match failurePanic cfg now (s.pool.failures entry.key) with
    | some (panic,record) => s.poisonShard env entry.key (s.pool.setRecord entry.key (some record)) panic
    | none => s.returned (s.pool.reportFailure env cfg now choice))

/-- The selection is reset after everything else. -/
def recheckSuccess (key : Str) (persist : Bool) : SharedPool × Option Panic :=
  s.lockShard env key (
    let pool := (s.pool.reportDisabledRecheckSuccessInner env cfg key persist).1
    if s.selectionPoisoned && (disabledCount (s.pool.failures key)).isSome then
      ({s with pool := {pool with selection := s.pool.selection}},some .selectionPoisoned)
    else s.returned pool)

/-- The selection is reset when an entry is removed, and before the state is saved. -/
def recheckFailure (key : Str) (persist : Bool) : SharedPool × Option Panic :=
  s.lockShard env key (
    match disabledCount (s.pool.failures key) with
    | none => s.returned s.pool
    | some n =>
      if wordLimit ≤ n+1 then s.poisonShard env key s.pool .countOverflow
      else if s.selectionPoisoned && decide (disabledRecheckDeleteAfterFailures ≤ n+1 ∧ key ∈ s.pool.activeKeys)
      then
        let pool := ((s.pool.setRecord key none).removeAndRetireLocked env key).1
        ({s with pool := pool},some .selectionPoisoned)
      else s.returned (s.pool.reportDisabledRecheckFailureInner env cfg key persist).1)

/-- The selection is locked before the records are looked at, so it is poisoned along with them. What a
poisoned bag holds is never read again. -/
def next (now : ℕ) (shuffles : ℕ → Shuffle) (attempts : ProxyAttempts) : SharedPool × Option Panic :=
  if attempts.directPending || decide (attempts.remaining=0 ∨ s.pool.state.proxies.length=0) then
    s.returned (attempts.next now shuffles s.pool).2.2.1
  else if s.selectionPoisoned then (s,some .selectionPoisoned)
  else
    let scan := s.pool.nextRandomAvailable now attempts.tried shuffles
    if (lookedKeys attempts.tried s.pool.state.proxies scan.events).any (s.shardPoisoned env) then
      ({s with selectionPoisoned := true},some .shardPoisoned)
    else match scan.outcome with
      | .outOfBounds _ => ({s with selectionPoisoned := true},some .outOfBounds)
      | _ => s.returned (attempts.next now shuffles s.pool).2.2.1

def exec (now : ℕ) : PoolCall → SharedPool × Option Panic
  | .next shuffles attempts => s.next env now shuffles attempts
  | .reportSuccess choice => s.reportSuccess env cfg choice
  | .reportFailure choice => s.reportFailure env cfg now choice
  | .recheckSuccess key persist => s.recheckSuccess env cfg key persist
  | .recheckFailure key persist => s.recheckFailure env cfg key persist

/-- One call after the other; the threads that panic are gone, the others go on. -/
def runCalls : SharedPool → List (ℕ × PoolCall) → SharedPool × List (Option Panic)
  | s,[] => (s,[])
  | s,call::calls =>
    let result := s.exec env cfg call.1 call.2
    let rest := runCalls result.1 calls
    (rest.1,result.2::rest.2)

end SharedPool

variable {env : Externals} {cfg : PoolConfig} {p q : Pool} {now : ℕ}

/-- The end of a cooldown that a failure starts can be held by an `Instant`. A recheck does not count
past what a `usize` holds. -/
def CallFits (cfg : PoolConfig) (now : ℕ) (p : Pool) (call : PoolCall) : Prop :=
  (∀ entry, call = .reportFailure (.proxy entry) → (p.record entry.key).disabled = false →
    cfg.runtimeFailureThreshold ≤ (p.record entry.key).pending now+1 →
    (p.record entry.key).cooldowns+1 < cfg.runtimeDisableAfterCooldowns → now+cfg.cooldown < instantLimit) ∧
  ∀ key persist, call = .recheckFailure key persist → ∀ n, disabledCount (p.failures key)=some n →
    n+1 < wordLimit

/-! What keeps the counts small and the bag in bounds -/

/-- The counts of a record stay below the settings that bound them. -/
def FailureRecord.Bounded (cfg : PoolConfig) (r : FailureRecord) : Prop :=
  r.failures < cfg.runtimeFailureThreshold ∧ (r.disabled = false → r.cooldowns < cfg.runtimeDisableAfterCooldowns)

/-- Bounded records, and a bag that fits. -/
structure Pool.Sane (cfg : PoolConfig) (p : Pool) : Prop where
  records : ∀ key r, p.failures key=some r → r.Bounded cfg
  bag : p.BagFits

lemma Pool.Sane.record (h : p.Sane cfg) (key : Str) : (p.record key).Bounded cfg := by
  unfold Pool.record
  cases hr : p.failures key with
  | none => exact ⟨cfg.threshold_pos,fun _ => cfg.disable_pos⟩
  | some r => exact h.records key r hr

lemma FailureRecord.Bounded.pending {r : FailureRecord} (h : r.Bounded cfg) (now : ℕ) :
    r.pending now < cfg.runtimeFailureThreshold := by
  unfold FailureRecord.pending
  split_ifs
  · exact cfg.threshold_pos
  · exact h.1

lemma recordFailure_bounded {record : Option FailureRecord} (h : (record.getD .fresh).Bounded cfg) (now : ℕ) :
    (recordFailure cfg now record).1.Bounded cfg := by
  unfold recordFailure
  generalize record.getD .fresh=r at *
  cases hd : r.disabled with
  | true => simpa [hd] using h
  | false =>
    obtain ⟨s,hs,hfailures,hcooldowns,hdisabled,_⟩ := cleared_spec now r hd
    have hfew := h.2 hd
    dsimp only
    rw [if_neg (by simp [hd]),hs,hfailures,hcooldowns]
    split_ifs with hmany hlast
    · exact ⟨cfg.threshold_pos,fun hf => by cases hf⟩
    · exact ⟨cfg.threshold_pos,fun _ => by dsimp only; omega⟩
    · exact ⟨by dsimp only; omega,fun _ => by dsimp only; omega⟩

/-- What looks and reports make of a bounded record is bounded. -/
lemma bounded_run {record : Option FailureRecord} (h : ∀ r, record=some r → r.Bounded cfg)
    (steps : List (ℕ × Option NodeReport)) :
    ∀ r, (recordExpiry cfg).run record steps=some r → r.Bounded cfg := by
  induction steps generalizing record with
  | nil => exact h
  | cons step steps ih =>
    apply ih
    obtain ⟨now,_ | report⟩ := step
    · intro r hr
      have hr : (isUnavailable now record).2=some r := hr
      obtain he | ⟨s,until_,rfl,hd,_,_,he⟩ := isUnavailable_settles now record
      · exact h r (he ▸ hr)
      · rw [he] at hr
        cases hr
        exact ⟨cfg.threshold_pos,(h s rfl).2⟩
    · intro r hr
      have hr : report.apply cfg now record=some r := hr
      cases report with
      | success => cases hr
      | failure =>
        cases hr
        apply recordFailure_bounded
        cases record with
        | none => exact ⟨cfg.threshold_pos,fun _ => cfg.disable_pos⟩
        | some s => exact h s rfl
      | recheckSuccess =>
        rw [NodeReport.apply] at hr
        split_ifs at hr
        exact h r hr
      | recheckFailure =>
        rw [NodeReport.apply] at hr
        split at hr
        · exact h r hr
        · split_ifs at hr
          obtain ⟨s,rfl,rfl⟩ := Option.map_eq_some_iff.mp hr
          exact h s rfl

/-! One call -/

/-- The branch that a failure takes, with the record that it leaves and the panic on the way. The end of a cooldown is
computed in the last one only, where it goes into the record; when it cannot be held all else has been written. -/
inductive FailureBranch (cfg : PoolConfig) (now : ℕ) (r : FailureRecord) :
    FailureRecord × Bool → Option (Panic × FailureRecord) → Prop
  | ignored (disabled : r.disabled = true) : FailureBranch cfg now r (r,false) none
  | counted {s} (enabled : r.disabled = false) (few : r.pending now+1 < cfg.runtimeFailureThreshold) :
    FailureBranch cfg now r (s,false) none
  | disabled {s} (enabled : r.disabled = false) (many : cfg.runtimeFailureThreshold ≤ r.pending now+1)
    (last : cfg.runtimeDisableAfterCooldowns ≤ r.cooldowns+1) : FailureBranch cfg now r (s,true) none
  | cooled {s until_} (enabled : r.disabled = false) (many : cfg.runtimeFailureThreshold ≤ r.pending now+1)
    (few : r.cooldowns+1 < cfg.runtimeDisableAfterCooldowns) (ends : s.cooldownUntil=some (now+cfg.cooldown)) :
    FailureBranch cfg now r (s,false)
      (if instantLimit ≤ now+cfg.cooldown then some (.instantOverflow,{s with cooldownUntil := until_}) else none)

/-- The two readings of `report_failure` take the same branch. -/
theorem failure_same_branch {record : Option FailureRecord} {r : FailureRecord} (hr : record.getD .fresh=r)
    (h : r.Bounded cfg) (hthreshold : cfg.runtimeFailureThreshold < wordLimit)
    (hdisable : cfg.runtimeDisableAfterCooldowns < wordLimit) (now : ℕ) :
    FailureBranch cfg now r (recordFailure cfg now record) (failurePanic cfg now record) := by
  unfold recordFailure failurePanic
  rw [hr]
  cases hd : r.disabled with
  | true =>
    simp only [hd,if_true]
    exact .ignored hd
  | false =>
    obtain ⟨s,hs,hfailures,hcooldowns,hdisabled,_⟩ := cleared_spec now r hd
    have hpending := h.pending now
    have hfew := h.2 hd
    dsimp only
    have henabled : ¬r.disabled = true := by simp [hd]
    rw [if_neg henabled,if_neg henabled,hs,hfailures,hcooldowns,
      if_neg (show ¬wordLimit ≤ r.pending now+1 by omega)]
    by_cases hmany : cfg.runtimeFailureThreshold ≤ r.pending now+1
    · rw [if_pos hmany,if_pos hmany,if_neg (show ¬wordLimit ≤ r.cooldowns+1 by omega)]
      by_cases hlast : cfg.runtimeDisableAfterCooldowns ≤ r.cooldowns+1
      · rw [if_pos hlast,if_pos hlast]
        exact .disabled hd hmany hlast
      · rw [if_neg hlast,if_neg hlast]
        exact .cooled hd hmany (by omega) rfl
    · rw [if_neg hmany,if_neg hmany]
      exact .counted hd (by omega)

/-- A failure panics exactly when it starts a cooldown that ends too late. -/
lemma FailureBranch.panics_iff {r : FailureRecord} {written : FailureRecord × Bool} {panic : Option (Panic × FailureRecord)}
    (h : FailureBranch cfg now r written panic) : panic=none ↔ (r.disabled = false →
      cfg.runtimeFailureThreshold ≤ r.pending now+1 → r.cooldowns+1 < cfg.runtimeDisableAfterCooldowns →
      now+cfg.cooldown < instantLimit) := by
  cases h with
  | ignored disabled => simp [disabled]
  | counted enabled few => exact iff_of_true rfl fun _ hmany => by omega
  | disabled enabled many last => exact iff_of_true rfl fun _ _ hfew => by omega
  | cooled enabled many few ends =>
    split_ifs with hlate
    · refine iff_of_false nofun fun hall => ?_
      have := hall enabled many few
      omega
    · exact iff_of_true rfl fun _ _ _ => by omega

lemma SharedPool.lockShard_fresh (env : Externals) (p : Pool) (key : Str) (body : SharedPool × Option Panic) :
    (fresh p).lockShard env key body=body := rfl

/-- A reported failure panics where the record cannot be written. -/
lemma SharedPool.exec_fresh_failure (h : p.Sane cfg) (hthreshold : cfg.runtimeFailureThreshold < wordLimit)
    (hdisable : cfg.runtimeDisableAfterCooldowns < wordLimit) (env : Externals) (now : ℕ)
    {entry : ProxyEntry} {call : PoolCall} (hcall : call=.reportFailure (.proxy entry)) :
    (CallFits cfg now p call ∧ (fresh p).exec env cfg now call=(fresh (call.exec env cfg now p),none)) ∨
      (¬CallFits cfg now p call ∧ ((fresh p).exec env cfg now call).2 ≠ none) := by
  subst hcall
  have hiff := (failure_same_branch rfl (h.record entry.key) hthreshold hdisable now).panics_iff
  have hfits : CallFits cfg now p (.reportFailure (.proxy entry)) ↔
      failurePanic cfg now (p.failures entry.key)=none := by
    rw [hiff]
    refine ⟨fun hc => hc.1 entry rfl,fun hn => ⟨?_,fun _ _ he => by cases he⟩⟩
    rintro e ⟨⟩
    exact hn
  rw [hfits]
  unfold exec reportFailure
  dsimp only
  rw [lockShard_fresh]
  simp only [fresh]
  cases failurePanic cfg now (p.failures entry.key) with
  | none => exact .inl ⟨rfl,rfl⟩
  | some written => exact .inr ⟨fun hn => (by cases hn),fun hn => by cases hn⟩

/-- A failed recheck panics where its count is at the limit of a word. -/
lemma SharedPool.exec_fresh_recheck (env : Externals) (now : ℕ) {key : Str} {persist : Bool}
    {call : PoolCall} (hcall : call=.recheckFailure key persist) :
    (CallFits cfg now p call ∧ (fresh p).exec env cfg now call=(fresh (call.exec env cfg now p),none)) ∨
      (¬CallFits cfg now p call ∧ ((fresh p).exec env cfg now call).2 ≠ none) := by
  subst hcall
  have hfits : CallFits cfg now p (.recheckFailure key persist) ↔
      ∀ n, disabledCount (p.failures key)=some n → n+1 < wordLimit := by
    refine ⟨fun hc => hc.2 key persist rfl,fun hn => ⟨fun _ he => (by cases he),?_⟩⟩
    rintro k b ⟨⟩
    exact hn
  rw [hfits]
  unfold exec recheckFailure
  dsimp only
  rw [lockShard_fresh]
  obtain ⟨hn,he⟩ | ⟨record,n,hr,hn,_,he⟩ := p.recheckFailureLocked_cases key
  · refine .inl ⟨fun n hsome => by simp [hn] at hsome,?_⟩
    simp only [fresh,hn]
    simp [returned,PoolCall.exec,Pool.reportDisabledRecheckFailureInner,he]
  · rw [← hr] at hn
    simp only [fresh,hn,Option.some.injEq,forall_eq']
    by_cases hover : wordLimit ≤ n+1
    · rw [if_pos hover]
      exact .inr ⟨by omega,fun hnone => by cases hnone⟩
    · rw [if_neg hover]
      exact .inl ⟨by omega,rfl⟩

/-- With no lock poisoned, a call on a sane pool returns exactly when it fits. -/
theorem SharedPool.exec_fresh (h : p.Sane cfg) (hthreshold : cfg.runtimeFailureThreshold < wordLimit)
    (hdisable : cfg.runtimeDisableAfterCooldowns < wordLimit) (env : Externals) (now : ℕ) (call : PoolCall) :
    (CallFits cfg now p call ∧ (fresh p).exec env cfg now call=(fresh (call.exec env cfg now p),none)) ∨
      (¬CallFits cfg now p call ∧ ((fresh p).exec env cfg now call).2 ≠ none) := by
  cases call with
  | next shuffles attempts =>
    refine .inl ⟨⟨fun _ he => (by cases he),fun _ _ he => by cases he⟩,?_⟩
    unfold exec next
    dsimp only
    split_ifs with hnone hselection hshard
    · rfl
    · cases hselection
    · simp [shardPoisoned,fresh] at hshard
    · obtain ⟨hcomplete,_⟩ := h.bag.nextRandomAvailable now attempts.tried shuffles
      obtain ⟨entry,_,hout,_⟩ | ⟨hout,_⟩ := hcomplete <;>
      · simp only [fresh,hout]
        rfl
  | reportSuccess choice =>
    refine .inl ⟨⟨fun _ he => (by cases he),fun _ _ he => by cases he⟩,?_⟩
    cases choice <;> rfl
  | reportFailure choice =>
    cases choice with
    | direct => exact .inl ⟨⟨fun _ he => (by cases he),fun _ _ he => by cases he⟩,rfl⟩
    | proxy entry => exact exec_fresh_failure h hthreshold hdisable env now rfl
  | recheckSuccess key persist =>
    exact .inl ⟨⟨fun _ he => (by cases he),fun _ _ he => by cases he⟩,rfl⟩
  | recheckFailure key persist => exact exec_fresh_recheck env now rfl

/-! A run -/

lemma persistState_fits (h : p.BagFits) : (p.persistState cfg).BagFits := by
  unfold Pool.persistState
  split
  · exact h
  · exact h

lemma ReportEffect.fits {persist : Bool} {key : Str} (hq : ReportEffect env cfg persist key p q) (h : p.BagFits) :
    q.BagFits := by
  cases hq with
  | nothing => exact h
  | recorded record count => exact h
  | disabled record n count few =>
    cases persist with
    | false => exact h
    | true => exact persistState_fits (p := (p.setRecord key record).insertDisabledLocked env key n) h
  | enabled =>
    cases persist with
    | false => exact h
    | true => exact persistState_fits (p := (p.setRecord key none).removeDisabledLocked env key) h
  | enabledReset generation => exact Pool.resetSelection_fits _ _
  | retired =>
    unfold Pool.removeAndRetire Pool.removeAndRetireLocked
    dsimp only
    split_ifs
    · exact h
    · exact h
    · exact persistState_fits (Pool.resetSelection_fits _ _)
    · exact Pool.resetSelection_fits _ _

theorem Pool.Sane.exec (h : p.Sane cfg) (env : Externals) (now : ℕ) (call : PoolCall) :
    (call.exec env cfg now p).Sane cfg := by
  refine ⟨?_,?_⟩
  · intro key r hr
    obtain ⟨steps,hsteps,_⟩ := call.exec_record env cfg now p key
    rw [hsteps] at hr
    exact bounded_run (h.records key) steps r hr
  · cases call with
    | next shuffles attempts => exact attempts.next_fits h.bag now shuffles
    | reportSuccess choice =>
      cases choice with
      | direct => exact h.bag
      | proxy entry => exact (p.reportSuccess_does env cfg entry).1.fits h.bag
    | reportFailure choice =>
      cases choice with
      | direct => exact h.bag
      | proxy entry => exact (p.reportFailure_does env cfg now entry).fits h.bag
    | recheckSuccess key persist => exact (p.recheckSuccess_does env cfg key persist).1.fits h.bag
    | recheckFailure key persist => exact (p.recheckFailure_does env cfg key persist).1.fits h.bag

/-- A restored record is disabled, with no failure. -/
lemma restoreRecords_bounded (disabled : DisabledMap) (entries : List ProxyEntry) {failures : FailureMap}
    (h : ∀ key r, failures key=some r → r.Bounded cfg) (key : Str) (r : FailureRecord)
    (hr : restoreRecords env cfg disabled entries failures key=some r) : r.Bounded cfg := by
  rw [restoreRecords_apply] at hr
  split_ifs at hr
  · unfold listedRecord at hr
    cases hd : disabled.lookup (proxyKeyHash env key) with
    | none =>
      rw [hd] at hr
      exact h key r hr
    | some d =>
      rw [hd] at hr
      cases hr
      exact ⟨cfg.threshold_pos,fun hf => by cases hf⟩
  · exact h key r hr

theorem Pool.built_sane (env : Externals) (cfg : PoolConfig) (proxies : List ProxyNode) (file : StateFile) :
    (Pool.withRuntimeFailurePolicyAndState env cfg proxies file).Sane cfg := by
  refine ⟨?_,?_⟩
  · obtain ⟨q,_,_,_,hq,_,_,hfailures,_⟩ := built_spec env cfg file proxies
    rw [hq,persistState_failures,hfailures]
    exact restoreRecords_bounded _ _ (fun _ _ hr => by cases hr)
  · unfold BagFits
    rw [(fresh_bag env cfg proxies file).1]
    exact (Pool.resetSelection_fits _ 0)

theorem Pool.Sane.merge (h : p.Sane cfg) (env : Externals) (proxies : List ProxyNode) :
    (p.merge env cfg proxies).1.Sane cfg := by
  refine ⟨?_,?_⟩
  · rw [(p.merge_pool env cfg proxies rfl).2.2.1]
    exact restoreRecords_bounded _ _ h.records
  · have hpool := mergeLocked_pool env cfg proxies p
    have hreset := mergeLocked_reset env cfg proxies p
    unfold Pool.merge
    generalize p.mergeLocked env cfg proxies=locked at *
    obtain ⟨q,summary,reset⟩ := locked
    dsimp only at hpool hreset ⊢
    cases reset with
    | some generation => exact persistState_fits (Pool.resetSelection_fits _ _)
    | none =>
      have hnone : p.mergeAdded env proxies=[] := by
        by_contra hsome
        rw [if_neg hsome] at hreset
        cases hreset
      rw [hnone] at hpool
      subst hpool
      apply persistState_fits
      simpa [BagFits] using h.bag

/-- From a sane pool with no lock poisoned, no call of a run panics exactly when each of them fits the pool
that it finds. Then no lock is poisoned, and the pool is what the calls make of it. -/
theorem SharedPool.runCalls_iff (h : p.Sane cfg) (hthreshold : cfg.runtimeFailureThreshold < wordLimit)
    (hdisable : cfg.runtimeDisableAfterCooldowns < wordLimit) (env : Externals) (calls : List (ℕ × PoolCall)) :
    ((∀ outcome ∈ ((fresh p).runCalls env cfg calls).2, outcome=none) ↔
      ∀ before call after, calls=before++call::after → CallFits cfg call.1 (p.calls env cfg before) call.2) ∧
    ((∀ outcome ∈ ((fresh p).runCalls env cfg calls).2, outcome=none) →
      ((fresh p).runCalls env cfg calls).1=fresh (p.calls env cfg calls)) := by
  induction calls generalizing p with
  | nil =>
    refine ⟨iff_of_true (fun _ ho => (by cases ho)) ?_,fun _ => rfl⟩
    intro before call after heq
    simp at heq
  | cons call calls ih =>
    rw [runCalls]
    obtain ⟨hfits,he⟩ | ⟨hnot,he⟩ := exec_fresh h hthreshold hdisable env call.1 call.2
    · rw [he]
      obtain ⟨hiff,hpool⟩ := ih (h.exec env call.1 call.2)
      simp only [List.forall_mem_cons,true_and]
      refine ⟨hiff.trans ⟨?_,?_⟩,hpool⟩
      · intro hall before other after heq
        obtain _ | ⟨first,before⟩ := before
        · cases heq
          exact hfits
        · cases heq
          exact hall before other after rfl
      · intro hall before other after heq
        exact hall (call::before) other after (by rw [heq,List.cons_append])
    · refine ⟨iff_of_false (fun hall => ?_) (fun hall => hnot (hall [] call calls rfl)),fun hall => ?_⟩ <;>
      · exact absurd (hall _ List.mem_cons_self) he

end RotatorProxy.Proxy
