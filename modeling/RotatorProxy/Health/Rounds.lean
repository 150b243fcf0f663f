import RotatorProxy.Health.Check
import RotatorProxy.Health.Target
import RotatorProxy.Library.Workers
import RotatorProxy.Proxy.Looking

/-! The two rounds of health checks, of the candidates that were loaded and of the nodes that are disabled. Both give
their nodes to workers that run side by side. -/
namespace RotatorProxy.Health
open Text Proxy Outbound Library

/-! The workers -/

def ProxyHealthCheckResult.isExhausted : ProxyHealthCheckResult → Bool
  | resourceExhausted _ => true
  | _ => false

/-- What `check_proxy_node` can come to within so many attempts. -/
def CanAnswer (libc : Libc) (attempts : ℕ) (result : ProxyHealthCheckResult) : Prop :=
  ∃ probe, (∀ results, probe=some results → results.length=attempts) ∧ checkProxyNode libc probe=result

/-- The checks that have ended, in order, with their results. -/
abbrev Checks (α : Type) := List (α × ProxyHealthCheckResult)

def crewChecks {α : Type} {n : ℕ} (c : Crew α ProxyHealthCheckResult n) : Checks α :=
  c.log.map (fun entry => (entry.item,entry.result))

def Checks.exhausted {α : Type} (checks : Checks α) : Prop := ∃ check ∈ checks, check.2.isExhausted = true

/-- The nodes whose check has come to a verdict -/
def Checks.completed {α : Type} (checks : Checks α) : List α :=
  (checks.filter (fun check => !check.2.isExhausted)).map Prod.fst

/-! `health_check_proxies` -/

structure HealthyProxy where
  proxy : ProxyNode
  delay : ℕ

/-- What a worker of the round makes of one check. -/
def healthyProxy : ProxyNode × ProxyHealthCheckResult → Option HealthyProxy
  | (proxy,.healthy delay) => some ⟨proxy,delay⟩
  | _ => none

/-- The `active` list of one worker -/
def workerActive {n : ℕ} (c : Crew ProxyNode ProxyHealthCheckResult n) (i : Fin n) : List HealthyProxy :=
  (c.resultsOf i).filterMap (fun entry => healthyProxy (entry.item,entry.result))

/-- What is returned when the workers are joined in this order. -/
def selected {n : ℕ} (c : Crew ProxyNode ProxyHealthCheckResult n) (order : List (Fin n)) : List ProxyNode :=
  ((order.flatMap (workerActive c)).mergeSort (fun a b => decide (a.delay ≤ b.delay))).map HealthyProxy.proxy

def healthWorkers (config : HealthConfig) (total : ℕ) : ℕ := max (min config.healthCheckConcurrency.toNat total) 1

variable (ext : TargetExternals) (libc : Libc)

/-- Each step of the round is taken by one of its workers. They hold the lock of the queue only to take an item, so that
it is never poisoned. -/
def HealthRun (attempts : ℕ) {n : ℕ} :
    Crew ProxyNode ProxyHealthCheckResult n → List (Fin n × ProxyHealthCheckResult) →
      Crew ProxyNode ProxyHealthCheckResult n → Prop :=
  Run (Crew.step ProxyHealthCheckResult.isExhausted) (fun _ e => CanAnswer libc attempts e.2)

/-- What the round can return, and the checks that it makes for that. -/
inductive HealthCheckProxies (config : HealthConfig) (proxies : List ProxyNode) :
    Checks ProxyNode → Except Str (List ProxyNode) → Prop
  | nothing (empty : proxies=[]) : HealthCheckProxies config proxies [] (.ok [])
  | invalid {err : Str} (nonempty : proxies ≠ []) (refused : HealthCheckTarget.fromConfig ext config = .error err) :
    HealthCheckProxies config proxies [] (.error err)
  | round {target : HealthCheckTarget} {events : List (Fin (healthWorkers config proxies.length) × _)}
      {crew : Crew ProxyNode ProxyHealthCheckResult (healthWorkers config proxies.length)}
      {order : List (Fin (healthWorkers config proxies.length))} (nonempty : proxies ≠ [])
      (valid : HealthCheckTarget.fromConfig ext config = .ok target)
      (run : HealthRun libc config.healthCheckAttempts.toNat (.start proxies _) events crew) (ended : crew.Ended)
      (joined : order.Perm (List.finRange _)) :
    HealthCheckProxies config proxies (crewChecks crew) (.ok (selected crew order))

/-! `recheck_disabled_proxies` -/

structure DisabledProxy where
  key : Str
  label : Str
  node : ProxyNode

def disabledProxies (pool : Pool) : List DisabledProxy :=
  pool.state.proxies.filterMap (fun entry => (pool.failures entry.key).bind (fun record =>
    if record.disabled then some ⟨entry.key,entry.label,entry.node⟩ else none))

/-- What the round asks of the pool. -/
inductive RoundCall
  | report (call : PoolCall)
  | persistState

/-- What a worker of the round makes of one check. -/
def recheckReport : DisabledProxy × ProxyHealthCheckResult → Option PoolCall
  | (disabled,.healthy _) => some (.recheckSuccess disabled.key false)
  | (disabled,.unhealthy) => some (.recheckFailure disabled.key false)
  | (_,.resourceExhausted _) => none

/-- The task that waits for the workers has saved the state or not. -/
structure RecheckRound (n : ℕ) where
  crew : Crew DisabledProxy ProxyHealthCheckResult n
  calls : List RoundCall
  saved : Bool

inductive RecheckEvent (n : ℕ)
  | worker (i : Fin n) (result : ProxyHealthCheckResult)
  | flush

namespace RecheckRound
variable {n : ℕ}

def start (disabled : List DisabledProxy) (n : ℕ) : RecheckRound n := ⟨.start disabled n,[],false⟩

/-- The call of the worker that finishes a check. -/
def issued (s : RecheckRound n) (i : Fin n) : List RoundCall :=
  match s.crew.phase i with
  | .finishing disabled result => ((recheckReport (disabled,result)).map RoundCall.report).toList
  | _ => []

/-- `flush_pool_state` comes after the last `join_next`. -/
def step (s : RecheckRound n) : RecheckEvent n → Option (RecheckRound n)
  | .worker i result => (s.crew.step ProxyHealthCheckResult.isExhausted (i,result)).map
      (fun crew => {s with crew := crew,calls := s.calls++s.issued i})
  | .flush => if s.crew.Ended ∧ s.saved = false then some {s with calls := s.calls++[.persistState],saved := true} else none

def guard (attempts : ℕ) (_ : RecheckRound n) : RecheckEvent n → Prop
  | .worker _ result => CanAnswer libc attempts result
  | .flush => True

end RecheckRound

def recheckAttempts (config : HealthConfig) : ℕ := max config.healthCheckAttempts.toNat 1

def recheckWorkers (config : HealthConfig) (total : ℕ) : ℕ := min (max config.disabledRecheckConcurrency.toNat 1) total

/-- The checks that the round can make, and what it asks of the pool. -/
inductive RecheckDisabledProxies (config : HealthConfig) (pool : Pool) : Checks DisabledProxy → List RoundCall → Prop
  | nothing (empty : disabledProxies pool=[]) : RecheckDisabledProxies config pool [] []
  | invalid {err : Str} (nonempty : disabledProxies pool ≠ [])
      (refused : HealthCheckTarget.fromConfig ext config = .error err) : RecheckDisabledProxies config pool [] []
  | round {target : HealthCheckTarget} {events : List (RecheckEvent (recheckWorkers config (disabledProxies pool).length))}
      {s : RecheckRound (recheckWorkers config (disabledProxies pool).length)} (nonempty : disabledProxies pool ≠ [])
      (valid : HealthCheckTarget.fromConfig ext config = .ok target)
      (run : Run RecheckRound.step (RecheckRound.guard libc (recheckAttempts config))
        (.start (disabledProxies pool) _) events s) (saved : s.saved = true) :
    RecheckDisabledProxies config pool (crewChecks s.crew) s.calls

/-! What a round comes to -/

section
variable {ext : TargetExternals} {libc : Libc} {config : HealthConfig} {attempts n : ℕ}

/-- A node without a probe is unhealthy after any number of attempts. -/
lemma canAnswer_unhealthy : CanAnswer libc attempts .unhealthy := ⟨none,by simp,rfl⟩

lemma crewChecks_completed {α : Type} (c : Crew α ProxyHealthCheckResult n) :
    (crewChecks c).completed=(c.completed ProxyHealthCheckResult.isExhausted).map Entry.item := by
  unfold Checks.completed crewChecks Crew.completed
  rw [List.filter_map,List.map_map]
  rfl

/-- Every node of the round is checked to completion once, or is left; without exhaustion none is. -/
lemma round_left {α : Type} {items : List α} {c : Crew α ProxyHealthCheckResult n}
    (hsound : c.Sound ProxyHealthCheckResult.isExhausted items) (hended : c.Ended) (hn : 0 < n) :
    ∃ left, ((crewChecks c).completed++left).Perm items ∧ (¬(crewChecks c).exhausted → left=[]) := by
  refine ⟨c.unfinished ProxyHealthCheckResult.isExhausted,?_,fun hnone => ?_⟩
  · rw [crewChecks_completed]
    exact hsound.perm hended
  · refine hsound.unfinished_eq_nil hended hn fun entry hmem => ?_
    rw [← Bool.not_eq_true]
    exact fun hquits => hnone ⟨_,List.mem_map_of_mem hmem,hquits⟩

lemma active_perm (c : Crew ProxyNode ProxyHealthCheckResult n) {order : List (Fin n)}
    (h : order.Perm (List.finRange n)) :
    (order.flatMap (workerActive c)).Perm ((crewChecks c).filterMap healthyProxy) := by
  have hall := (c.resultsOf_perm h).filterMap (fun entry => healthyProxy (entry.item,entry.result))
  rw [List.filterMap_flatMap] at hall
  rw [crewChecks,List.filterMap_map]
  exact hall

/-- The crew of a recheck is sound, and what was asked of the pool are its reports and, after them, the save. -/
structure RecheckRound.Sound (disabled : List DisabledProxy) (s : RecheckRound n) : Prop where
  crew : s.crew.Sound ProxyHealthCheckResult.isExhausted disabled
  calls : s.calls=((crewChecks s.crew).filterMap recheckReport).map RoundCall.report++
    if s.saved then [.persistState] else []
  saved : s.saved = true → s.crew.Ended

lemma RecheckRound.start_sound (disabled : List DisabledProxy) : (RecheckRound.start disabled n).Sound disabled where
  crew := Crew.start_sound _ _
  calls := rfl
  saved h := by cases h

lemma RecheckRound.Sound.step {disabled : List DisabledProxy} {s t : RecheckRound n} {e : RecheckEvent n}
    (hs : s.Sound disabled) (h : RecheckRound.step s e=some t) : t.Sound disabled := by
  cases e with
  | worker i result =>
    obtain ⟨crew,hcrew,rfl⟩ := Option.map_eq_some_iff.mp h
    have hrunning : s.saved = false := by
      rw [← Bool.not_eq_true]
      intro hsaved
      rw [Crew.step_ended (hs.saved hsaved)] at hcrew
      cases hcrew
    refine ⟨hs.crew.step hcrew,?_,fun hsaved => absurd (hrunning.symm.trans hsaved) Bool.false_ne_true⟩
    have hlog := Crew.step_log hcrew
    have hcalls := hs.calls
    dsimp only
    rw [hrunning,if_neg Bool.false_ne_true,List.append_nil] at hcalls ⊢
    unfold crewChecks at hcalls ⊢
    rw [hlog,hcalls,issued,List.map_append,List.filterMap_append,List.map_append]
    dsimp only
    cases hphase : s.crew.phase i with
    | finishing item answer =>
      dsimp only
      cases hreport : recheckReport (item,answer) <;> simp [hreport]
    | looping | popping | working | stopped => rfl
  | flush =>
    unfold RecheckRound.step at h
    dsimp only at h
    split_ifs at h with hflush
    cases h
    have hcalls := hs.calls
    rw [hflush.2,if_neg Bool.false_ne_true,List.append_nil] at hcalls
    refine ⟨hs.crew,?_,fun _ => hflush.1⟩
    dsimp only
    rw [hcalls]
    rfl

/-! It comes to an end -/

lemma health_ends (items : List ProxyNode) : EndsWithin (Crew.step ProxyHealthCheckResult.isExhausted)
    (fun _ e => CanAnswer libc attempts e.2) Crew.Ended (.start items n) (4*items.length+2*n) := by
  intro events crew hrun
  constructor
  · have hlen := hrun.length_le Crew.left fun _ _ _ => Crew.step_left
    rw [Crew.left_start] at hlen
    omega
  · refine (crew.ended_or_step ProxyHealthCheckResult.isExhausted).imp_right ?_
    rintro ⟨i,hi⟩
    exact ⟨(i,.unhealthy),canAnswer_unhealthy,hi _⟩

def RecheckRound.left (s : RecheckRound n) : ℕ := s.crew.left+if s.saved then 0 else 1

lemma RecheckRound.step_left {s t : RecheckRound n} {e : RecheckEvent n} (h : step s e=some t) : t.left < s.left := by
  cases e with
  | worker i result =>
    obtain ⟨crew,hcrew,rfl⟩ := Option.map_eq_some_iff.mp h
    exact Nat.add_lt_add_right (Crew.step_left hcrew) _
  | flush =>
    unfold RecheckRound.step at h
    dsimp only at h
    split_ifs at h with hflush
    cases h
    simp [left,hflush.2]

lemma recheck_ends (disabled : List DisabledProxy) : EndsWithin RecheckRound.step (RecheckRound.guard libc attempts)
    (fun s : RecheckRound n => s.saved = true ∧ s.crew.Ended) (.start disabled n) (4*disabled.length+2*n+1) := by
  intro events s hrun
  have hsound : s.Sound disabled :=
    hrun.invariant _ (fun _ _ _ hs _ => hs.step) (RecheckRound.start_sound disabled)
  constructor
  · have hlen := hrun.length_le RecheckRound.left fun _ _ _ => RecheckRound.step_left
    have hstart : (RecheckRound.start disabled n).left=4*disabled.length+2*n+1 :=
      congrArg (·+1) (Crew.left_start disabled)
    omega
  · cases hsaved : s.saved with
    | true => exact .inl ⟨hsaved,hsound.saved hsaved⟩
    | false =>
      refine .inr ?_
      obtain hended | ⟨i,hi⟩ := s.crew.ended_or_step ProxyHealthCheckResult.isExhausted
      · refine ⟨.flush,trivial,?_⟩
        unfold RecheckRound.step
        dsimp only
        rw [if_pos ⟨hended,hsaved⟩]
        rfl
      · refine ⟨.worker i .unhealthy,canAnswer_unhealthy,?_⟩
        unfold RecheckRound.step
        rw [Option.isSome_map]
        exact hi _

/-! The reports -/

def reportedKey (call : PoolCall) : Option Str := call.report.map Prod.fst

lemma recheckReport_none {check : DisabledProxy × ProxyHealthCheckResult} (h : check.2.isExhausted = true) :
    recheckReport check=none := by
  obtain ⟨disabled,result⟩ := check
  cases result with
  | healthy | unhealthy => cases h
  | resourceExhausted err => rfl

lemma recheckReport_some {check : DisabledProxy × ProxyHealthCheckResult} (h : check.2.isExhausted = false) :
    ∃ call, recheckReport check=some call ∧ reportedKey call=some check.1.key := by
  obtain ⟨disabled,result⟩ := check
  cases result with
  | healthy | unhealthy => exact ⟨_,rfl,rfl⟩
  | resourceExhausted err => cases h

/-- A check that has come to a verdict is reported once, under the key of its node. -/
lemma reports_keys (checks : Checks DisabledProxy) :
    (checks.filterMap recheckReport).map reportedKey=checks.completed.map (fun disabled => some disabled.key) := by
  induction checks with
  | nil => rfl
  | cons check checks ih =>
    unfold Checks.completed at ih ⊢
    cases hexhausted : check.2.isExhausted with
    | true =>
      rw [List.filterMap_cons_none (recheckReport_none hexhausted),ih,List.filter_cons_of_neg]
      rw [hexhausted]
      exact Bool.false_ne_true
    | false =>
      obtain ⟨call,hcall,hkey⟩ := recheckReport_some hexhausted
      rw [List.filterMap_cons_some hcall,List.map_cons,ih,hkey,List.filter_cons_of_pos (by rw [hexhausted]; rfl)]
      rfl

lemma disabledProxies_keys (pool : Pool) : ((disabledProxies pool).map DisabledProxy.key).Sublist pool.activeKeys := by
  unfold disabledProxies Pool.activeKeys
  induction pool.state.proxies with
  | nil => exact .slnil
  | cons entry entries ih =>
    rw [List.filterMap_cons]
    split
    · exact ih.cons _
    · next disabled hdisabled =>
      obtain ⟨record,-,hsome⟩ := Option.bind_eq_some_iff.mp hdisabled
      split_ifs at hsome
      cases hsome
      exact ih.cons_cons _

end

section
variable {ext : TargetExternals} {libc : Libc} {config : HealthConfig} {target : HealthCheckTarget}

/-- A round of candidates returns the healthy ones, the fastest first. -/
lemma health_checked_once (htarget : HealthCheckTarget.fromConfig ext config = .ok target) {proxies : List ProxyNode}
    {checks : Checks ProxyNode} {outcome : Except Str (List ProxyNode)}
    (h : HealthCheckProxies ext libc config proxies checks outcome) :
    ∃ (left : List ProxyNode) (healthy : List HealthyProxy), (checks.completed++left).Perm proxies ∧
      (¬checks.exhausted → left=[]) ∧ healthy.Perm (checks.filterMap healthyProxy) ∧
      healthy.Pairwise (fun a b => a.delay ≤ b.delay) ∧ outcome = .ok (healthy.map HealthyProxy.proxy) := by
  cases h with
  | nothing hempty => exact ⟨[],[],by simp [Checks.completed,hempty],fun _ => rfl,.refl _,.nil,rfl⟩
  | invalid _ hrefused =>
    rw [htarget] at hrefused
    cases hrefused
  | @round _ events crew order _ _ hrun hended hjoined =>
    have hsound : crew.Sound ProxyHealthCheckResult.isExhausted proxies :=
      hrun.invariant _ (fun _ _ _ hs _ => hs.step) (Crew.start_sound _ proxies)
    obtain ⟨left,hperm,hleft⟩ := round_left hsound hended (Nat.lt_of_lt_of_le Nat.one_pos (Nat.le_max_right _ _))
    refine ⟨left,_,hperm,hleft,(List.mergeSort_perm _ _).trans (active_perm crew hjoined),?_,rfl⟩
    refine (List.pairwise_mergeSort ?_ ?_ _).imp of_decide_eq_true
    · intro a b c hab hbc
      exact decide_eq_true ((of_decide_eq_true hab).trans (of_decide_eq_true hbc))
    · intro a b
      rw [Bool.or_eq_true,decide_eq_true_eq,decide_eq_true_eq]
      exact Nat.le_total _ _

/-- Nothing is reported of the nodes that are left. -/
lemma left_unreported {checks : Checks DisabledProxy} {left disabled : List DisabledProxy}
    (hperm : (checks.completed++left).Perm disabled) (hkeys : (disabled.map DisabledProxy.key).Nodup)
    {node : DisabledProxy} (hnode : node ∈ left) {call : PoolCall} (hcall : call ∈ checks.filterMap recheckReport) :
    reportedKey call ≠ some node.key := by
  intro hkey
  have hnodup : (checks.completed.map DisabledProxy.key++left.map DisabledProxy.key).Nodup := by
    rw [← List.map_append]
    exact (hperm.map _).nodup_iff.mpr hkeys
  have hreported := List.mem_map_of_mem (f := reportedKey) hcall
  rw [reports_keys,hkey] at hreported
  obtain ⟨other,hother,hsame⟩ := List.mem_map.mp hreported
  have hleft : other.key ∈ left.map DisabledProxy.key := Option.some.inj hsame ▸ List.mem_map_of_mem hnode
  exact List.disjoint_of_nodup_append hnodup (List.mem_map_of_mem hother) hleft

/-- A round of disabled nodes reports those that were checked to completion, and then saves the state. -/
lemma recheck_reported_once (htarget : HealthCheckTarget.fromConfig ext config = .ok target) {pool : Pool}
    {checks : Checks DisabledProxy} {calls : List RoundCall}
    (h : RecheckDisabledProxies ext libc config pool checks calls) :
    calls=(checks.filterMap recheckReport).map .report++
        (if disabledProxies pool=[] then [] else [.persistState]) ∧
      ∃ left, (checks.completed++left).Perm (disabledProxies pool) ∧ (¬checks.exhausted → left=[]) := by
  cases h with
  | nothing hempty => exact ⟨by simp [hempty],[],by simp [Checks.completed,hempty],fun _ => rfl⟩
  | invalid _ hrefused =>
    rw [htarget] at hrefused
    cases hrefused
  | @round _ events s hnonempty _ hrun hsaved =>
    have hsound : s.Sound (disabledProxies pool) :=
      hrun.invariant _ (fun _ _ _ hs _ => hs.step) (RecheckRound.start_sound _)
    have hworkers : 0 < recheckWorkers config (disabledProxies pool).length :=
      lt_min (Nat.lt_of_lt_of_le Nat.one_pos (Nat.le_max_right _ _)) (List.length_pos_iff.mpr hnonempty)
    refine ⟨?_,round_left hsound.crew (hsound.saved hsaved) hworkers⟩
    rw [hsound.calls,hsaved,if_neg hnonempty]
    rfl

end

end RotatorProxy.Health
