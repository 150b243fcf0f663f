import RotatorProxy.Health.Effect

/-! The program at work. One refresh after the other merges its nodes and rechecks those that are disabled; meanwhile the
connections take nodes from the pool and report on them. Every operation of the pool is one step. -/
namespace RotatorProxy.Health
open Text Proxy Outbound Config Library

/-- Where the task that refreshes the pool is. -/
inductive RefreshPhase
  | idle
  | merged
  | rechecking (disabled : List DisabledProxy) (n : ℕ) (round : RecheckRound n)

structure Program where
  pool : Pool
  phase : RefreshPhase
  /-- what the rounds that are over have asked of the pool -/
  rounds : List (List RoundCall)

inductive ProgramEvent
  | traffic (op : PoolOp)
  | merge (active : List ProxyNode)
  | recheck
  | worker (i : ℕ) (result : ProxyHealthCheckResult)
  | flush

/-- What a connection does with the pool -/
def isTraffic : PoolOp → Bool
  | .next _ _ _ | .reportSuccess _ | .reportFailure _ _ => true
  | _ => false

namespace Program
variable (ext : TargetExternals) (libc : Libc) (env : Externals) (cfg : PoolConfig) (config : HealthConfig)

/-- `main`: the pool of the state file, to which the first refresh adds nodes. -/
def start (file : StateFile) : Program := ⟨Pool.withRuntimeFailurePolicyAndState env cfg [] file,.idle,[]⟩

/-- A recheck does not read the clock. -/
def step (s : Program) : ProgramEvent → Option Program
  | .traffic op => (PoolOp.step env (cfg,s.pool) op).map (fun after => {s with pool := after.2})
  | .merge active =>
    match s.phase with
    | .idle => some {s with pool := (s.pool.merge env cfg active).1,phase := .merged}
    | _ => none
  | .recheck =>
    match s.phase with
    | .merged =>
      match disabledProxies s.pool,HealthCheckTarget.fromConfig ext config with
      | [],_ => some {s with phase := .idle}
      | _,.error _ => some {s with phase := .idle}
      | disabled,.ok _ => some {s with
          phase := .rechecking disabled (recheckWorkers config disabled.length) (.start disabled _)}
    | _ => none
  | .worker i result =>
    match s.phase with
    | .rechecking disabled n round =>
      if h : i < n then (round.step (.worker ⟨i,h⟩ result)).map (fun next => {s with
        pool := (round.issued ⟨i,h⟩).foldl (RoundCall.exec env cfg 0) s.pool
        phase := .rechecking disabled n next})
      else none
    | _ => none
  | .flush =>
    match s.phase with
    | .rechecking _ _ round =>
      (round.step .flush).map (fun next => ⟨s.pool.persistState cfg,.idle,s.rounds++[next.calls]⟩)
    | _ => none

def Allowed (_ : Program) : ProgramEvent → Prop
  | .traffic op => isTraffic op = true
  | .worker _ result => CanAnswer libc (recheckAttempts config) result
  | _ => True

/-- What the round that is running has asked of the pool so far. -/
def current (s : Program) : List RoundCall :=
  match s.phase with
  | .rechecking _ _ round => round.calls
  | _ => []

/-- All that a step can do. -/
inductive Does (s : Program) : ProgramEvent → Program → Prop
  | traffic {op : PoolOp} {after : PoolConfig × Pool} (taken : PoolOp.step env (cfg,s.pool) op=some after) :
    Does s (.traffic op) {s with pool := after.2}
  | merge {active : List ProxyNode} (idle : s.phase = .idle) :
    Does s (.merge active) {s with pool := (s.pool.merge env cfg active).1,phase := .merged}
  | skip (merged : s.phase = .merged) : Does s .recheck {s with phase := .idle}
  | begin (n : ℕ) (merged : s.phase = .merged) : Does s .recheck {s with
      phase := .rechecking (disabledProxies s.pool) n (.start (disabledProxies s.pool) n)}
  | worker {disabled : List DisabledProxy} {n : ℕ} {round next : RecheckRound n} {i : Fin n}
      {result : ProxyHealthCheckResult} (running : s.phase = .rechecking disabled n round)
      (taken : round.step (.worker i result)=some next) :
    Does s (.worker i result) {s with
      pool := (round.issued i).foldl (RoundCall.exec env cfg 0) s.pool
      phase := .rechecking disabled n next}
  | flush {disabled : List DisabledProxy} {n : ℕ} {round next : RecheckRound n}
      (running : s.phase = .rechecking disabled n round) (taken : round.step .flush=some next) :
    Does s .flush ⟨s.pool.persistState cfg,.idle,s.rounds++[next.calls]⟩

variable {ext env cfg config} in
theorem step_does {s t : Program} {e : ProgramEvent} (h : s.step ext env cfg config e=some t) :
    s.Does env cfg e t := by
  cases e with
  | traffic op =>
    obtain ⟨after,htaken,rfl⟩ := Option.map_eq_some_iff.mp h
    exact .traffic htaken
  | merge active =>
    cases hphase : s.phase with
    | idle =>
      simp only [step,hphase,Option.some.injEq] at h
      exact h ▸ .merge hphase
    | merged | rechecking => simp [step,hphase] at h
  | recheck =>
    cases hphase : s.phase with
    | merged =>
      simp only [step,hphase] at h
      split at h
      · exact (Option.some.inj h) ▸ .skip hphase
      · exact (Option.some.inj h) ▸ .skip hphase
      · exact (Option.some.inj h) ▸ .begin _ hphase
    | idle | rechecking => simp [step,hphase] at h
  | worker i result =>
    cases hphase : s.phase with
    | rechecking disabled n round =>
      simp only [step,hphase] at h
      split_ifs at h with hi
      obtain ⟨next,htaken,rfl⟩ := Option.map_eq_some_iff.mp h
      exact .worker hphase htaken
    | idle | merged => simp [step,hphase] at h
  | flush =>
    cases hphase : s.phase with
    | rechecking disabled n round =>
      simp only [step,hphase] at h
      obtain ⟨next,htaken,rfl⟩ := Option.map_eq_some_iff.mp h
      exact .flush hphase htaken
    | idle | merged => simp [step,hphase] at h

end Program

/-! One round -/

/-- The keys that a round has reported -/
def reportedKeys (calls : List RoundCall) : List Str :=
  calls.filterMap fun
    | .report call => reportedKey call
    | .persistState => none

lemma reportedKeys_append (calls calls' : List RoundCall) :
    reportedKeys (calls++calls')=reportedKeys calls++reportedKeys calls' := List.filterMap_append

lemma reportedKeys_reports (calls : List PoolCall) :
    reportedKeys (calls.map .report)=(calls.map reportedKey).filterMap id := by
  unfold reportedKeys
  rw [List.filterMap_map,List.filterMap_map]
  rfl

namespace RecheckRound
variable {n : ℕ} {s t : RecheckRound n} {disabled : List DisabledProxy}

/-- A round reports a node once at most, and only its own nodes. -/
lemma Sound.reported (h : s.Sound disabled) (hkeys : (disabled.map DisabledProxy.key).Nodup) :
    (reportedKeys s.calls).Nodup ∧ ∀ key ∈ reportedKeys s.calls, key ∈ disabled.map DisabledProxy.key := by
  have hreported : reportedKeys s.calls=(crewChecks s.crew).completed.map DisabledProxy.key := by
    rw [h.calls,reportedKeys_append,reportedKeys_reports,reports_keys]
    have hsaved : reportedKeys (if s.saved then [.persistState] else [])=[] := by
      split_ifs <;> rfl
    rw [hsaved,List.append_nil,List.filterMap_map]
    exact congrFun List.filterMap_eq_map _
  have hsub : (reportedKeys s.calls).Sublist ((s.crew.log.map Entry.item).map DisabledProxy.key) := by
    rw [hreported,crewChecks_completed]
    exact (List.filter_sublist.map _).map _
  obtain ⟨kept,hperm,hkept⟩ := h.crew.log_subperm
  have hkept := hkept.map DisabledProxy.key
  have hperm := hperm.map DisabledProxy.key
  exact ⟨(hperm.nodup_iff.mp (hkeys.sublist hkept)).sublist hsub,
    fun key hmem => hkept.subset (hperm.mem_iff.mpr (hsub.subset hmem))⟩

lemma worker_calls {i : Fin n} {result : ProxyHealthCheckResult} (h : s.step (.worker i result)=some t) :
    t.calls=s.calls++s.issued i ∧ t.saved=s.saved := by
  obtain ⟨crew,_,rfl⟩ := Option.map_eq_some_iff.mp h
  exact ⟨rfl,rfl⟩

lemma flush_calls (h : s.step .flush=some t) : t.calls=s.calls++[.persistState] := by
  unfold step at h
  dsimp only at h
  split_ifs at h
  cases h
  rfl

/-- A worker asks nothing of the pool, or has the verdict on one node. -/
lemma issued_cases (s : RecheckRound n) (i : Fin n) :
    s.issued i=[] ∨ ∃ call key report, s.issued i=[.report call] ∧ call.report=some (key,report) ∧
      (call = .recheckSuccess key false ∨ call = .recheckFailure key false) := by
  unfold issued
  cases s.crew.phase i with
  | finishing disabled result =>
    dsimp only
    cases hreport : recheckReport (disabled,result) with
    | none => exact .inl rfl
    | some call =>
      obtain ⟨key,report,hcall,hdeferred⟩ := DeferredRecheck.report ⟨_,recheckReport_deferred hreport⟩
      exact .inr ⟨call,key,report,rfl,hcall,hdeferred⟩
  | looping | popping | working | stopped => exact .inl rfl

end RecheckRound

/-! What an operation leaves of one node -/

section
variable {env : Externals} {cfg : PoolConfig} {p q : Pool} {key : Str}

/-- The node stays in the pool or out of it, and disabled with its count. -/
structure Keeps (env : Externals) (key : Str) (p q : Pool) : Prop where
  active : key ∈ q.activeKeys ↔ key ∈ p.activeKeys
  retired : proxyKeyHash env key ∈ p.state.retiredHashes → proxyKeyHash env key ∈ q.state.retiredHashes
  count : ∀ n, disabledCount (p.failures key)=some n → disabledCount (q.failures key)=some n

lemma Keeps.of_sameNodes (h : Pool.SameNodes p q)
    (hcount : ∀ n, disabledCount (p.failures key)=some n → disabledCount (q.failures key)=some n) : Keeps env key p q :=
  ⟨by rw [h.activeKeys],fun hretired => h.2 ▸ hretired,hcount⟩

lemma Keeps.refl : Keeps env key p p := ⟨.rfl,id,fun _ => id⟩

lemma traffic_sameNodes {op : PoolOp} (htraffic : isTraffic op = true) {after : PoolConfig × Pool}
    (h : PoolOp.step env (cfg,p) op=some after) : Pool.SameNodes p after.2 := by
  cases op with
  | next now shuffles attempts =>
    cases h
    obtain ⟨hstate,_⟩ := attempts.next_pool now shuffles p
    exact ⟨congrArg PoolState.proxies hstate,congrArg PoolState.retiredHashes hstate⟩
  | reportSuccess choice =>
    cases h
    cases choice with
    | direct => exact ⟨rfl,rfl⟩
    | proxy entry => exact (Pool.reportSuccess_effect env cfg p entry).1
  | reportFailure now choice =>
    cases h
    cases choice with
    | direct => exact ⟨rfl,rfl⟩
    | proxy entry => exact (Pool.reportFailure_effect env cfg p now entry).1
  | merge | replace | recheckSuccess | recheckFailure | persistState | rebuild => cases htraffic

lemma traffic_keeps {op : PoolOp} (htraffic : isTraffic op = true) (hsuccess : op.isSuccess key = false)
    {after : PoolConfig × Pool} (h : PoolOp.step env (cfg,p) op=some after) : Keeps env key p after.2 := by
  refine .of_sameNodes (traffic_sameNodes htraffic h) fun n hn => ?_
  cases op with
  | next now shuffles attempts =>
    cases h
    obtain ⟨_,_,hcount,_⟩ := attempts.next_pool now shuffles p
    rw [hcount,hn]
  | reportSuccess choice =>
    cases h
    cases choice with
    | direct => exact hn
    | proxy entry =>
      have hne : entry.key ≠ key := of_decide_eq_false hsuccess
      have hupdate := (Pool.reportSuccess_effect env cfg p entry).2
      change disabledCount ((p.reportSuccess env cfg (.proxy entry)).failures key)=some n
      rw [hupdate,Function.update_of_ne hne.symm]
      exact hn
  | reportFailure now choice =>
    cases h
    cases choice with
    | direct => exact hn
    | proxy entry =>
      have hupdate := (Pool.reportFailure_effect env cfg p now entry).2
      change disabledCount ((p.reportFailure env cfg now (.proxy entry)).failures key)=some n
      rw [hupdate]
      by_cases hk : key=entry.key
      · -- a failure of a disabled node leaves it as it is
        subst hk
        obtain ⟨hcount,hbecame⟩ := recordFailure_disabledCount cfg now (p.failures entry.key)
        rw [Function.update_self,hcount,hn]
        split_ifs with hdisabled
        · rw [hbecame hdisabled] at hn
          cases hn
        · rfl
      · rw [Function.update_of_ne hk]
        exact hn
  | merge | replace | recheckSuccess | recheckFailure | persistState | rebuild => cases htraffic

/-- A merge does not touch a node that is in the pool or retired. -/
lemma merge_keeps (hknown : key ∈ p.activeKeys ∨ proxyKeyHash env key ∈ p.state.retiredHashes)
    (proxies : List ProxyNode) : Keeps env key p (p.merge env cfg proxies).1 := by
  obtain ⟨hproxies,hretired,hfailures,_⟩ := p.merge_pool env cfg proxies rfl
  have hadded : key ∉ (p.mergeAdded env proxies).map ProxyEntry.key := by
    intro hk
    obtain ⟨entry,hentry,rfl⟩ := List.mem_map.mp hk
    obtain ⟨_,hnew,hfresh⟩ := Pool.mergeAdded_mem hentry
    exact hknown.elim hnew hfresh
  refine ⟨?_,fun h => hretired ▸ h,fun n hn => ?_⟩
  · unfold Pool.activeKeys
    rw [hproxies,List.map_append,List.mem_append]
    exact or_iff_left hadded
  · rw [hfailures,restoreRecords_apply,if_neg hadded]
    exact hn

lemma recheck_keeps {call : PoolCall} {other : Str} {report : NodeReport} (hreport : call.report=some (other,report))
    (hdeferred : call = .recheckSuccess other false ∨ call = .recheckFailure other false) (hne : other ≠ key) :
    Keeps env key p (call.exec env cfg 0 p) := by
  obtain ⟨hproxies,hretired⟩ := deferred_exec env cfg 0 p hreport hdeferred
  refine ⟨?_,fun h => (hretired _).mpr (.inl h),fun n hn => ?_⟩
  · unfold Pool.activeKeys
    rw [hproxies]
    simp only [List.mem_map,List.mem_filter]
    constructor
    · rintro ⟨entry,⟨hentry,_⟩,hkey⟩
      exact ⟨entry,hentry,hkey⟩
    · rintro ⟨entry,hentry,hkey⟩
      refine ⟨entry,⟨hentry,?_⟩,hkey⟩
      rw [hkey,decide_eq_false hne.symm]
      rfl
  · rw [call.exec_failures env cfg 0 p hreport,Function.update_of_ne hne.symm]
    exact hn

end

/-! Runs -/

namespace Program

/-- No key is in the pool twice, and the workers of a round go through its nodes. -/
structure Ok (s : Program) : Prop where
  nodup : s.pool.activeKeys.Nodup
  round : ∀ disabled n (round : RecheckRound n), s.phase = .rechecking disabled n round →
    (disabled.map DisabledProxy.key).Nodup ∧ round.Sound disabled ∧ round.saved = false

section
variable {ext : TargetExternals} {libc : Libc} {env : Externals} {cfg : PoolConfig} {config : HealthConfig}
  {s t : Program} {e : ProgramEvent}

lemma start_ok (file : StateFile) : (start env cfg file).Ok where
  nodup := by
    obtain ⟨q,_,_,_,hbuilt,_,hproxies,_⟩ := Pool.built_spec env cfg file []
    unfold start Pool.activeKeys
    rw [hbuilt,Pool.persistState_state,hproxies]
    exact retainNew_keys_nodup _ _ _
  round _ _ _ h := by cases h

theorem Ok.step (h : s.Ok) (hallowed : s.Allowed libc config e) (ht : s.Does env cfg e t) : t.Ok := by
  cases ht with
  | traffic htaken =>
    refine ⟨?_,h.round⟩
    rw [(traffic_sameNodes hallowed htaken).activeKeys]
    exact h.nodup
  | merge hidle => exact ⟨merge_nodup h.nodup _,fun _ _ _ hphase => by cases hphase⟩
  | skip => exact ⟨h.nodup,fun _ _ _ hphase => by cases hphase⟩
  | begin n =>
    refine ⟨h.nodup,fun disabled n round hphase => ?_⟩
    cases hphase
    exact ⟨h.nodup.sublist (disabledProxies_keys s.pool),RecheckRound.start_sound _,rfl⟩
  | @worker disabled n round next i result hrunning htaken =>
    obtain ⟨hkeys,hsound,hsaved⟩ := h.round _ _ _ hrunning
    refine ⟨?_,fun disabled n round hphase => ?_⟩
    · obtain hnone | ⟨call,key,report,hissued,hreport,hdeferred⟩ := round.issued_cases i
      · rw [hnone]
        exact h.nodup
      · obtain ⟨hproxies,_⟩ := deferred_exec env cfg 0 s.pool hreport hdeferred
        rw [hissued]
        change ((call.exec env cfg 0 s.pool).state.proxies.map ProxyEntry.key).Nodup
        rw [hproxies]
        exact h.nodup.sublist (List.filter_sublist.map _)
    · cases hphase
      exact ⟨hkeys,hsound.step htaken,(RecheckRound.worker_calls htaken).2.trans hsaved⟩
  | flush =>
    refine ⟨?_,fun _ _ _ hphase => by cases hphase⟩
    unfold Pool.activeKeys
    rw [Pool.persistState_state]
    exact h.nodup

end

/-! Failed rechecks of one node -/

def condemns (key : Str) : RoundCall → Bool
  | .report (.recheckFailure key' _) => decide (key'=key)
  | _ => false

/-- The rounds that have found the node unhealthy, with the one that is running. -/
def condemned (key : Str) (s : Program) : ℕ := (s.rounds++[s.current]).countP (fun calls => calls.any (condemns key))

lemma condemned_eq (key : Str) (s : Program) : s.condemned key=
    s.rounds.countP (fun calls => calls.any (condemns key))+if s.current.any (condemns key) then 1 else 0 := by
  unfold condemned
  rw [List.countP_append,List.countP_singleton]

def recovers (key : Str) : RoundCall → Bool
  | .report (.recheckSuccess key' _) => decide (key'=key)
  | _ => false

/-- A step by which the node comes back: a connection has used it, or a recheck has found it healthy. -/
def succeeds (key : Str) (s : Program) : ProgramEvent → Bool
  | .traffic op => op.isSuccess key
  | .worker i _ =>
    match s.phase with
    | .rechecking _ n round => if h : i < n then (round.issued ⟨i,h⟩).any (recovers key) else false
    | _ => false
  | _ => false

/-- A disabled node with the count `c` that `k` rounds have found unhealthy since. -/
structure Condemned (env : Externals) (key : Str) (c k : ℕ) (s : Program) : Prop where
  active : key ∈ s.pool.activeKeys → disabledCount (s.pool.failures key)=some (c+k) ∧ (k=0 ∨ c+k < 3)
  gone : key ∉ s.pool.activeKeys → proxyKeyHash env key ∈ s.pool.state.retiredHashes ∧ 1 ≤ k ∧ 3 ≤ c+k ∧
    k ≤ max 1 (3-c)
  reported : key ∉ s.pool.activeKeys → ∀ disabled n (round : RecheckRound n), s.phase = .rechecking disabled n round →
    key ∈ disabled.map DisabledProxy.key → key ∈ reportedKeys round.calls

section
variable {ext : TargetExternals} {libc : Libc} {env : Externals} {cfg : PoolConfig} {config : HealthConfig}
  {s t : Program} {e : ProgramEvent} {key : Str} {c k : ℕ}

lemma current_rechecking {disabled : List DisabledProxy} {n : ℕ} {round : RecheckRound n}
    (h : s.phase = .rechecking disabled n round) : s.current=round.calls := by
  rw [current,h]

lemma condemns_reported {calls : List RoundCall} (h : calls.any (condemns key) = true) : key ∈ reportedKeys calls := by
  obtain ⟨call,hmem,hcondemns⟩ := List.any_eq_true.mp h
  refine List.mem_filterMap.mpr ⟨call,hmem,?_⟩
  cases call with
  | persistState => cases hcondemns
  | report call =>
    cases call with
    | recheckFailure key' persist => exact congrArg some (of_decide_eq_true hcondemns)
    | next | reportSuccess | reportFailure | recheckSuccess => cases hcondemns

/-- A step that does not judge the node -/
lemma Condemned.keeps (h : s.Condemned env key c k) (hkeeps : Keeps env key s.pool t.pool)
    (hreported : key ∉ s.pool.activeKeys → ∀ disabled n (round : RecheckRound n),
      t.phase = .rechecking disabled n round → key ∈ disabled.map DisabledProxy.key → key ∈ reportedKeys round.calls) :
    t.Condemned env key c k := by
  refine ⟨fun hactive => ?_,fun hgone => ?_,fun hgone => hreported (fun hactive => hgone (hkeeps.active.mpr hactive))⟩
  · obtain ⟨hcount,hfew⟩ := h.active (hkeeps.active.mp hactive)
    exact ⟨hkeeps.count _ hcount,hfew⟩
  · obtain ⟨hretired,hk⟩ := h.gone (fun hactive => hgone (hkeeps.active.mpr hactive))
    exact ⟨hkeeps.retired hretired,hk⟩

/-- The round that finds the node unhealthy counts it once more, or takes it out. -/
lemma Condemned.judge {disabled : List DisabledProxy} {n : ℕ} {next : RecheckRound n}
    (h : s.Condemned env key c k) (hactive : key ∈ s.pool.activeKeys)
    (hpool : t.pool=(PoolCall.recheckFailure key false).exec env cfg 0 s.pool)
    (hphase : t.phase = .rechecking disabled n next) (hreported : key ∈ reportedKeys next.calls) :
    t.Condemned env key c (k+1) := by
  obtain ⟨hcount,hfew⟩ := h.active hactive
  have hreport : (PoolCall.recheckFailure key false).report=some (key,.recheckFailure) := rfl
  obtain ⟨hproxies,hretired⟩ := deferred_exec env cfg 0 s.pool hreport (.inr rfl)
  have hfailures := PoolCall.exec_failures env cfg 0 s.pool hreport
  rw [← hpool] at hproxies hretired hfailures
  have hdrops : drops (s.pool.failures key) .recheckFailure=decide (3 ≤ c+k+1) := by
    rw [drops,hcount]
    rfl
  rw [hdrops] at hproxies hretired
  have hmem : key ∈ t.pool.activeKeys ↔ ¬3 ≤ c+k+1 := by
    unfold Pool.activeKeys
    rw [hproxies,List.mem_map]
    constructor
    · rintro ⟨entry,hentry,rfl⟩
      simpa using (List.mem_filter.mp hentry).2
    · intro hless
      obtain ⟨entry,hentry,hkey⟩ := List.mem_map.mp hactive
      exact ⟨entry,List.mem_filter.mpr ⟨hentry,by simp [hless]⟩,hkey⟩
  refine ⟨fun hstays => ?_,fun hgone => ?_,fun _ disabled' n' round' hphase' _ => ?_⟩
  · have hless := hmem.mp hstays
    obtain ⟨record,hrecord,hif⟩ := Option.bind_eq_some_iff.mp hcount
    split_ifs at hif with hdisabled
    refine ⟨?_,.inr (by omega)⟩
    rw [hfailures,Function.update_self,NodeReport.apply,hcount]
    dsimp only
    rw [if_neg (show ¬disabledRecheckDeleteAfterFailures ≤ c+k+1 from hless),hrecord]
    simp [hdisabled,add_assoc]
  · have hmany := not_not.mp (fun hless => hgone (hmem.mpr hless))
    exact ⟨(hretired _).mpr (.inr ⟨decide_eq_true hmany,rfl⟩),by omega,by omega,by omega⟩
  · rw [hphase] at hphase'
    cases hphase'
    exact hreported

theorem Condemned.step (hok : s.Ok) (h : s.Condemned env key c k) (hallowed : s.Allowed libc config e)
    (hsuccess : s.succeeds key e = false) (ht : s.Does env cfg e t) :
    ∃ k', t.condemned key+k=s.condemned key+k' ∧ t.Condemned env key c k' := by
  cases ht with
  | traffic htaken =>
    exact ⟨k,rfl,h.keeps (traffic_keeps hallowed hsuccess htaken) h.reported⟩
  | merge hidle =>
    refine ⟨k,?_,h.keeps (merge_keeps ?_ _) fun _ _ _ _ hphase => by cases hphase⟩
    · simp [condemned,current,hidle]
    · exact or_iff_not_imp_left.mpr fun hgone => (h.gone hgone).1
  | skip hmerged =>
    refine ⟨k,?_,h.keeps .refl fun _ _ _ _ hphase => by cases hphase⟩
    simp [condemned,current,hmerged]
  | begin n hmerged =>
    refine ⟨k,?_,h.keeps .refl fun hgone _ _ _ hphase hkey => ?_⟩
    · simp [condemned,current,hmerged,RecheckRound.start]
    · cases hphase
      exact absurd ((disabledProxies_keys s.pool).subset hkey) hgone
  | @worker disabled n round next i result hrunning htaken =>
    obtain ⟨hkeys,hsound,hsaved⟩ := hok.round _ _ _ hrunning
    obtain ⟨hcalls,_⟩ := RecheckRound.worker_calls htaken
    obtain ⟨hnodup,hsubset⟩ := (hsound.step htaken).reported hkeys
    rw [hcalls,reportedKeys_append] at hnodup hsubset
    have hbefore := current_rechecking hrunning
    rw [condemned_eq,condemned_eq,hbefore]
    change ∃ k', s.rounds.countP _+(if next.calls.any (condemns key) = true then 1 else 0)+k=_ ∧ _
    rw [hcalls,List.any_append]
    have hgrows : key ∉ s.pool.activeKeys → ∀ disabled' n' (round' : RecheckRound n'),
        RefreshPhase.rechecking disabled n next = .rechecking disabled' n' round' →
          key ∈ disabled'.map DisabledProxy.key → key ∈ reportedKeys round'.calls := by
      intro hgone _ _ _ hphase hkey
      cases hphase
      rw [hcalls,reportedKeys_append]
      exact List.mem_append_left _ (h.reported hgone _ _ _ hrunning hkey)
    obtain hnone | ⟨call,other,report,hissued,hreport,hdeferred⟩ := round.issued_cases i
    · refine ⟨k,by simp [hnone],h.keeps ?_ hgrows⟩
      rw [hnone]
      exact .refl
    · rw [hissued] at hnodup hsubset ⊢
      by_cases hother : other=key
      · -- the node itself is judged, for the first time in this round
        subst hother
        obtain rfl | rfl := hdeferred
        · simp [succeeds,hrunning,hissued,recovers] at hsuccess
        · have hfirst : other ∉ reportedKeys round.calls :=
            fun hmem => List.disjoint_of_nodup_append hnodup hmem (List.mem_singleton_self _)
          have hnot : round.calls.any (condemns other) = false :=
            Bool.eq_false_iff.mpr fun hany => hfirst (condemns_reported hany)
          have hmem : other ∈ disabled.map DisabledProxy.key :=
            hsubset other (List.mem_append_right _ (List.mem_singleton_self _))
          have hactive : other ∈ s.pool.activeKeys := by
            by_contra hgone
            exact hfirst (h.reported hgone _ _ _ hrunning hmem)
          refine ⟨k+1,?_,h.judge hactive rfl rfl ?_⟩
          · simp [hnot,condemns]
            omega
          · rw [hcalls,hissued,reportedKeys_append]
            exact List.mem_append_right _ (List.mem_singleton_self _)
      · have hnot : condemns key (.report call) = false := by
          obtain rfl | rfl := hdeferred
          · rfl
          · exact decide_eq_false hother
        exact ⟨k,by simp [hnot],h.keeps (recheck_keeps hreport hdeferred hother) hgrows⟩
  | @flush disabled n round next hrunning htaken =>
    have hcalls := RecheckRound.flush_calls htaken
    refine ⟨k,?_,h.keeps ?_ fun _ _ _ _ hphase => by cases hphase⟩
    · rw [condemned_eq,condemned_eq,current_rechecking hrunning]
      simp [current,hcalls,condemns]
    · refine .of_sameNodes ⟨?_,?_⟩ fun n hn => ?_
      · rw [Pool.persistState_state]
      · rw [Pool.persistState_state]
      · rw [Pool.persistState_failures]
        exact hn

lemma reached_ok {file : StateFile} {es : List ProgramEvent}
    (h : Run (step ext env cfg config) (Allowed libc config) (start env cfg file) es s) : s.Ok :=
  h.invariant Ok (fun _ _ _ hok hallowed ht => hok.step hallowed (step_does ht)) (start_ok file)

end
end Program

/-- Take a disabled node at any moment and let the program go on in any way, but without a success of the node. Its count
is what it was and one for each round that has found it unhealthy since, whatever the connections do meanwhile. It is in
the pool as long as the count is below three, and the round that makes it three takes it out and retires its hash. -/
theorem node_outlives_rounds (ext : TargetExternals) (libc : Libc) (env : Externals) (cfg : PoolConfig)
    (config : HealthConfig) {file : StateFile} {before es : List ProgramEvent} {s t : Program} {key : Str} {c : ℕ}
    (hreached : Run (Program.step ext env cfg config) (Program.Allowed libc config) (.start env cfg file) before s)
    (hactive : key ∈ s.pool.activeKeys) (hcount : disabledCount (s.pool.failures key)=some c)
    (hrun : Run (Program.step ext env cfg config) (fun s e => s.Allowed libc config e ∧ s.succeeds key e = false) s es t) :
    ∃ k, t.condemned key=s.condemned key+k ∧ k ≤ max 1 (3-c) ∧
      (key ∈ t.pool.activeKeys ↔ k=0 ∨ c+k < 3) ∧
      (key ∈ t.pool.activeKeys → disabledCount (t.pool.failures key)=some (c+k)) ∧
      (key ∉ t.pool.activeKeys → proxyKeyHash env key ∈ t.pool.state.retiredHashes) := by
  have hstart : s.Condemned env key c 0 :=
    ⟨fun _ => ⟨hcount,.inl rfl⟩,fun hgone => absurd hactive hgone,fun hgone => absurd hactive hgone⟩
  obtain ⟨_,k,hk,hcondemned⟩ := hrun.invariant
    (fun u => u.Ok ∧ ∃ k, u.condemned key=s.condemned key+k ∧ u.Condemned env key c k)
    (fun u e v hu hguard hv => by
      obtain ⟨hok,k,hk,hcondemned⟩ := hu
      obtain ⟨k',hk',hnext⟩ := hcondemned.step hok hguard.1 hguard.2 (Program.step_does hv)
      exact ⟨hok.step hguard.1 (Program.step_does hv),k',by omega,hnext⟩)
    ⟨Program.reached_ok hreached,0,rfl,hstart⟩
  refine ⟨k,hk,?_,⟨fun hin => (hcondemned.active hin).2,fun hfew => ?_⟩,fun hin => (hcondemned.active hin).1,
    fun hgone => (hcondemned.gone hgone).1⟩
  · by_cases hin : key ∈ t.pool.activeKeys
    · have hfew := (hcondemned.active hin).2
      omega
    · exact (hcondemned.gone hin).2.2.2
  · by_contra hgone
    obtain ⟨_,hone,hthree,_⟩ := hcondemned.gone hgone
    omega

/-! The sample node fails once and is disabled; the next round finds it unhealthy. -/

/-- One worker checks one node. -/
def unhealthyRound : List ProgramEvent := [.merge [],.recheck]++List.replicate 6 (.worker 0 .unhealthy)++[.flush]

def sampleFails : List ProgramEvent :=
  [.merge [sampleNode],.recheck,.traffic (.reportFailure 0 (.proxy (.fromNode sampleNode)))]

def sampleAllowed : ProgramEvent → Bool
  | .traffic op => isTraffic op
  | .worker _ result => decide (result = .unhealthy)
  | _ => true

lemma sampleAllowed_allowed (s : Program) (e : ProgramEvent) (h : sampleAllowed e = true) :
    s.Allowed Libc.sample defaultHealth e := by
  cases e with
  | traffic op => exact h
  | worker i result =>
    cases of_decide_eq_true h
    exact canAnswer_unhealthy
  | merge | recheck | flush => trivial

def sampleStep : Program → ProgramEvent → Option Program :=
  Program.step sampleTargetExternals sampleExternals sampleConfig defaultHealth

def sampleDisabled : Option Program :=
  sampleFails.foldlM (fun s e => if sampleAllowed e then sampleStep s e else none)
    (.start sampleExternals sampleConfig .absent)

theorem node_outlives_rounds_sample : ∃ (s t : Program) (k : ℕ),
    Run sampleStep (Program.Allowed Libc.sample defaultHealth) (.start sampleExternals sampleConfig .absent)
      sampleFails s ∧
    Run sampleStep (fun s e => s.Allowed Libc.sample defaultHealth e ∧ s.succeeds sampleNode.key e = false) s
      unhealthyRound t ∧
    t.condemned sampleNode.key=s.condemned sampleNode.key+k ∧ k ≤ 3 ∧
    (sampleNode.key ∈ t.pool.activeKeys ↔ k=0 ∨ 0+k < 3) := by
  have hfound : sampleDisabled.any (fun s => decide (sampleNode.key ∈ s.pool.activeKeys ∧
      disabledCount (s.pool.failures sampleNode.key)=some 0 ∧
      (unhealthyRound.foldlM (fun s e =>
        if sampleAllowed e && !s.succeeds sampleNode.key e then sampleStep s e else none) s).isSome = true)) = true := by
    decide
  obtain ⟨s,hs,hfacts⟩ := (Option.any_eq_true _ _).mp hfound
  obtain ⟨hactive,hcount,hround⟩ := of_decide_eq_true hfacts
  obtain ⟨t,ht⟩ := Option.isSome_iff_exists.mp hround
  have hreached := Run.of_checked (fun _ => sampleAllowed) sampleAllowed_allowed hs
  have hrun : Run sampleStep (fun s e => s.Allowed Libc.sample defaultHealth e ∧ s.succeeds sampleNode.key e = false) s
      unhealthyRound t := by
    refine Run.of_checked (fun s e => sampleAllowed e && !s.succeeds sampleNode.key e) (fun s e h => ?_) ht
    obtain ⟨hallowed,hnot⟩ := Bool.and_eq_true_iff.mp h
    exact ⟨sampleAllowed_allowed _ _ hallowed,by simpa using hnot⟩
  obtain ⟨k,hk,hle,hmem,_⟩ := node_outlives_rounds sampleTargetExternals Libc.sample sampleExternals sampleConfig
    defaultHealth hreached hactive hcount hrun
  exact ⟨s,t,k,hreached,hrun,hk,hle,hmem⟩

end RotatorProxy.Health
