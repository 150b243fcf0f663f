import RotatorProxy.Library.Run
import RotatorProxy.Proxy.Admission

/-! The life of a pool over runs of its operations and of restarts from its state file: which nodes
leave it, and when. -/
namespace RotatorProxy.Proxy
open Text Library

/-- A pool with its settings, and every entry that has been in it so far. An iterator may have
handed out any of these entries. -/
structure Lifecycle where
  cfg : PoolConfig
  pool : Pool
  seen : List ProxyEntry

inductive LifecycleOp
  | merge (proxies : List ProxyNode)
  | reportSuccess (choice : ProxyChoice)
  | reportFailure (now : ℕ) (choice : ProxyChoice)
  | recheckSuccess (key : Str)
  | recheckFailure (key : Str)
  | restart (cfg : PoolConfig) (proxies : List ProxyNode)

namespace LifecycleOp

def isSuccess (key : Str) : LifecycleOp → Bool
  | .reportSuccess (.proxy entry) => decide (entry.key=key)
  | .recheckSuccess key' => decide (key'=key)
  | _ => false

def isRecheckFailure (key : Str) : LifecycleOp → Bool
  | .recheckFailure key' => decide (key'=key)
  | _ => false

end LifecycleOp

namespace Lifecycle
variable (env : Externals) (U : Set Str)

/-- The state after an operation has left `pool` behind. -/
def became (cfg : PoolConfig) (pool : Pool) (s : Lifecycle) : Lifecycle :=
  ⟨cfg,pool,s.seen++pool.state.proxies⟩

def start (cfg : PoolConfig) (proxies : List ProxyNode) : Lifecycle :=
  let pool := Pool.withRuntimeFailurePolicyAndState env cfg proxies .absent
  ⟨cfg,pool,pool.state.proxies⟩

def step (s : Lifecycle) : LifecycleOp → Option Lifecycle
  | .merge proxies => some (s.became s.cfg (s.pool.merge env s.cfg proxies).1)
  | .reportSuccess choice => some (s.became s.cfg (s.pool.reportSuccess env s.cfg choice))
  | .reportFailure now choice => some (s.became s.cfg (s.pool.reportFailure env s.cfg now choice))
  | .recheckSuccess key => some (s.became s.cfg (s.pool.reportDisabledRecheckSuccess env s.cfg key).1)
  | .recheckFailure key => some (s.became s.cfg (s.pool.reportDisabledRecheckFailure env s.cfg key).1)
  | .restart cfg proxies =>
    some (s.became cfg (Pool.withRuntimeFailurePolicyAndState env cfg proxies s.pool.file))

/-- The nodes offered to the pool can be rebuilt, a choice holds an entry that was in the pool
before, and a restart reads the state file again. -/
def Allowed (s : Lifecycle) : LifecycleOp → Prop
  | .merge proxies => Offered env U proxies
  | .reportSuccess choice | .reportFailure _ choice => ∀ entry, choice = .proxy entry → entry ∈ s.seen
  | .recheckSuccess _ | .recheckFailure _ => True
  | .restart cfg proxies => cfg.persistent = true ∧ Offered env U proxies

def activeKeys (s : Lifecycle) : List Str := s.pool.activeKeys
def retiredHashes (s : Lifecycle) : List Str := s.pool.state.retiredHashes

/-- The count of recheck failures of a key whose record is marked disabled. -/
def count (s : Lifecycle) (key : Str) : Option ℕ := disabledCount (s.pool.failures key)

def Disabled (s : Lifecycle) (key : Str) : Prop := (s.count key).isSome = true

/-- The run so far has made `key` disabled; since then it has stayed so, without a success, through
`n` recheck failures. -/
inductive DisabledSince (s₀ : Lifecycle) (key : Str) : List LifecycleOp → Lifecycle → ℕ → Prop
  | became {past a op b} (run : Run (step env) (Allowed env U) s₀ past a) (taken : step env a op = some b)
      (before : ¬a.Disabled key) (now : b.Disabled key) : DisabledSince s₀ key (past++[op]) b 0
  | other {past a op b n} (since : DisabledSince s₀ key past a n) (taken : step env a op = some b)
      (success : op.isSuccess key = false) (recheck : op.isRecheckFailure key = false)
      (still : b.Disabled key) : DisabledSince s₀ key (past++[op]) b n
  | recheck {past a b n} (since : DisabledSince s₀ key past a n)
      (taken : step env a (.recheckFailure key) = some b) (still : b.Disabled key) :
      DisabledSince s₀ key (past++[.recheckFailure key]) b (n+1)

/-- What every reachable state satisfies. -/
def Ok (s : Lifecycle) : Prop :=
  s.cfg.persistent = true ∧ s.pool.Kept env U (s.seen.map ProxyEntry.key)

end Lifecycle

/-! What the reports do to the nodes and to the records -/

namespace Pool
variable (env : Externals) (cfg : PoolConfig) (p : Pool)

/-- Same nodes and same retired hashes. -/
def SameNodes (p q : Pool) : Prop :=
  q.state.proxies=p.state.proxies ∧ q.state.retiredHashes=p.state.retiredHashes

variable {p} in
lemma SameNodes.activeKeys {q : Pool} (h : SameNodes p q) : q.activeKeys=p.activeKeys :=
  activeKeys_congr h.1

theorem reportSuccess_effect (entry : ProxyEntry) :
    SameNodes p (p.reportSuccess env cfg (.proxy entry)) ∧
      (p.reportSuccess env cfg (.proxy entry)).failures=Function.update p.failures entry.key none := by
  rcases reportSuccessLocked_cases entry.key p with ⟨hn,he⟩ | ⟨record,_,he⟩
  · simp only [reportSuccess,he]
    exact ⟨⟨rfl,rfl⟩,(Function.update_eq_self_iff.mpr hn.symm).symm⟩
  · simp only [reportSuccess,he]
    cases record.disabled || decide (0 < record.disabledRecheckFailures) with
    | true => simp [SameNodes,removePersistedDisabledInner,removeDisabledLocked]
    | false => exact ⟨⟨rfl,rfl⟩,rfl⟩

theorem reportFailure_effect (now : ℕ) (entry : ProxyEntry) :
    SameNodes p (p.reportFailure env cfg now (.proxy entry)) ∧
      (p.reportFailure env cfg now (.proxy entry)).failures=
        Function.update p.failures entry.key (some (recordFailure cfg now (p.failures entry.key)).1) := by
  rcases reportFailure_cases env cfg p now entry with ⟨_,he⟩ | ⟨_,he⟩
  · rw [he]
    simp [SameNodes,persistDisabledEntryInner,insertDisabledLocked]
  · rw [he]
    exact ⟨⟨rfl,rfl⟩,rfl⟩

theorem recheckSuccess_effect (key : Str) :
    SameNodes p (p.reportDisabledRecheckSuccess env cfg key).1 ∧
      (∀ k ≠ key, (p.reportDisabledRecheckSuccess env cfg key).1.failures k=p.failures k) ∧
      disabledCount ((p.reportDisabledRecheckSuccess env cfg key).1.failures key)=none := by
  rcases recheckSuccessLocked_cases key p with ⟨hn,he⟩ | ⟨_,he⟩
  · have hq : p.reportDisabledRecheckSuccess env cfg key=(p,false) := by
      simp [reportDisabledRecheckSuccess,reportDisabledRecheckSuccessInner,he]
    rw [hq]
    exact ⟨⟨rfl,rfl⟩,fun _ _ => rfl,hn⟩
  · simp only [reportDisabledRecheckSuccess,reportDisabledRecheckSuccessInner,he]
    refine ⟨?_,?_,?_⟩
    · simp [SameNodes,removePersistedDisabledInner,removeDisabledLocked]
    · intro k hk
      simp [removePersistedDisabledInner,Function.update_of_ne hk]
    · simp [removePersistedDisabledInner]

/-- A failed recheck raises the count of a disabled node, and retires the node at the third. -/
theorem recheckFailure_effect (key : Str) :
    (∀ k ≠ key, (p.reportDisabledRecheckFailure env cfg key).1.failures k=p.failures k) ∧
      ((SameNodes p (p.reportDisabledRecheckFailure env cfg key).1 ∧
        disabledCount ((p.reportDisabledRecheckFailure env cfg key).1.failures key)=
          (disabledCount (p.failures key)).map (fun n => n+1)) ∨
      (∃ n, disabledCount (p.failures key)=some n ∧ disabledRecheckDeleteAfterFailures ≤ n+1 ∧
        (p.reportDisabledRecheckFailure env cfg key).1.state.proxies=
          p.state.proxies.filter (fun e => e.key ≠ key) ∧
        (p.reportDisabledRecheckFailure env cfg key).1.state.retiredHashes=
          p.state.retiredHashes.insert (proxyKeyHash env key))) := by
  rcases recheckFailure_cases env cfg key p with
    ⟨hn,he⟩ | ⟨record,n,hr,hcount,⟨hlt,he,hnew⟩ | ⟨hge,he⟩⟩
  · rw [he,hn]
    exact ⟨fun _ _ => rfl,.inl ⟨⟨rfl,rfl⟩,rfl⟩⟩
  · rw [he,hcount]
    refine ⟨?_,.inl ⟨?_,?_⟩⟩
    · intro k hk
      simp [persistDisabledEntryInner,Function.update_of_ne hk]
    · simp [SameNodes,persistDisabledEntryInner,insertDisabledLocked]
    · simpa [persistDisabledEntryInner] using hnew
  · rw [he]
    obtain ⟨hp,hret,_⟩ := removeAndRetireLocked_state env key (p.setRecord key none)
    obtain ⟨hstate,hsame⟩ := removeAndRetire_state env cfg key (p.setRecord key none) true
    rw [hstate,hsame,hp,hret]
    refine ⟨?_,.inr ⟨n,hcount,hge,rfl,rfl⟩⟩
    intro k hk
    exact setRecord_ne none hk

end Pool
/-! One step -/

namespace Lifecycle
variable {env : Externals} {U : Set Str} {s t : Lifecycle} {op : LifecycleOp} {key : Str}

/-- Nodes that were seen before are not seen anew. -/
lemma seen_same {cfg : PoolConfig} {q : Pool} (h : ∀ k ∈ q.activeKeys, k ∈ s.seen.map ProxyEntry.key)
    (k : Str) : k ∈ (s.became cfg q).seen.map ProxyEntry.key ↔ k ∈ s.seen.map ProxyEntry.key := by
  rw [became,List.map_append,List.mem_append]
  exact or_iff_left_of_imp (h k)

lemma seen_added {cfg : PoolConfig} {q : Pool} {added : List ProxyEntry}
    (hkeys : q.activeKeys=s.activeKeys++added.map ProxyEntry.key)
    (h : ∀ k ∈ s.activeKeys, k ∈ s.seen.map ProxyEntry.key) (k : Str) :
    k ∈ (s.became cfg q).seen.map ProxyEntry.key ↔
      k ∈ s.seen.map ProxyEntry.key++added.map ProxyEntry.key := by
  rw [became,List.map_append]
  change k ∈ s.seen.map ProxyEntry.key++q.activeKeys ↔ _
  rw [hkeys]
  simp only [List.mem_append]
  have := h k
  tauto

/-- All that a step can do to the pool. -/
inductive StepDoes (env : Externals) (U : Set Str) (s : Lifecycle) : Lifecycle → Prop
  | report (key : Str) (q : Pool) (seen : key ∈ s.seen.map ProxyEntry.key)
    (effect : ReportEffect env s.cfg true key s.pool q) : StepDoes env U s (s.became s.cfg q)
  | nothing : StepDoes env U s (s.became s.cfg s.pool)
  | merge (proxies : List ProxyNode) (offered : Offered env U proxies) :
    StepDoes env U s (s.became s.cfg (s.pool.merge env s.cfg proxies).1)
  | restart (cfg : PoolConfig) (proxies : List ProxyNode) (persistent : cfg.persistent = true)
    (offered : Offered env U proxies) :
    StepDoes env U s (s.became cfg (Pool.withRuntimeFailurePolicyAndState env cfg proxies s.pool.file))

/-- A recheck finds a record only of a key that has been in the pool. -/
theorem step_does (hrecords : ∀ k, s.pool.failures k ≠ none → k ∈ s.seen.map ProxyEntry.key)
    (hg : s.Allowed env U op) (ht : s.step env op = some t) : StepDoes env U s t := by
  cases op with
  | merge proxies =>
    cases ht
    exact .merge proxies hg
  | reportSuccess choice =>
    cases ht
    cases choice with
    | direct => exact .nothing
    | proxy entry =>
      exact .report entry.key _ (List.mem_map_of_mem (hg entry rfl)) (s.pool.reportSuccess_does env s.cfg entry).1
  | reportFailure now choice =>
    cases ht
    cases choice with
    | direct => exact .nothing
    | proxy entry =>
      exact .report entry.key _ (List.mem_map_of_mem (hg entry rfl))
        (s.pool.reportFailure_does env s.cfg now entry)
  | recheckSuccess key =>
    cases ht
    obtain ⟨hdoes,hnone⟩ := Pool.recheckSuccess_does env s.cfg s.pool key true
    by_cases hr : s.pool.failures key=none
    · rw [Pool.reportDisabledRecheckSuccess,hnone hr]
      exact .nothing
    · exact .report key _ (hrecords key hr) hdoes
  | recheckFailure key =>
    cases ht
    obtain ⟨hdoes,hnone⟩ := Pool.recheckFailure_does env s.cfg s.pool key true
    by_cases hr : s.pool.failures key=none
    · rw [Pool.reportDisabledRecheckFailure,hnone hr]
      exact .nothing
    · exact .report key _ (hrecords key hr) hdoes
  | restart cfg proxies =>
    cases ht
    exact .restart cfg proxies hg.1 hg.2

theorem Ok.step (hU : Set.InjOn (proxyKeyHash env) U) (h : s.Ok env U) (hg : s.Allowed env U op)
    (ht : s.step env op = some t) : t.Ok env U := by
  obtain ⟨hc,hk⟩ := h
  have hactive := hk.1.active_ever
  cases step_does hk.1.records hg ht with
  | report key q seen effect =>
    have hq := hk.report hU hc seen effect
    exact ⟨hc,hq.congr_ever (seen_same hq.1.active_ever)⟩
  | nothing => exact ⟨hc,hk.congr_ever (seen_same hactive)⟩
  | merge proxies offered =>
    refine ⟨hc,(hk.merge hU hc offered).congr_ever (seen_added ?_ hactive)⟩
    rw [Pool.activeKeys,(Pool.merge_state env s.cfg s.pool proxies).1,Pool.mergeLocked_pool]
    exact List.map_append
  | restart cfg proxies persistent offered =>
    obtain ⟨q,added,hq,hkeys,hkept,_⟩ := hk.rebuild cfg hU persistent offered
    rw [hq]
    exact ⟨persistent,hkept.congr_ever (seen_added hkeys hactive)⟩

theorem start_ok (hU : Set.InjOn (proxyKeyHash env) U) {cfg : PoolConfig} (hc : cfg.persistent = true)
    {proxies : List ProxyNode} (hoffered : Offered env U proxies) : (start env cfg proxies).Ok env U := by
  obtain ⟨q,added,hq,hkeys,hkept,_⟩ := Pool.empty_kept.rebuild cfg hU hc hoffered
  refine ⟨hc,?_⟩
  rw [start,Pool.start_absent hc,hq]
  change q.Kept env U q.activeKeys
  rw [hkeys]
  exact hkept

/-- What a step can do to an active key. -/
inductive KeyStep (op : LifecycleOp) (key : Str) (s t : Lifecycle) : Prop
  | same (kept : key ∈ t.activeKeys) (success : op.isSuccess key = false)
      (recheck : op.isRecheckFailure key = false) (count : t.count key=s.count key)
  | enabled (kept : key ∈ t.activeKeys) (count : t.count key=none)
  | disabled (kept : key ∈ t.activeKeys) (before : s.count key=none) (count : t.count key=some 0)
  | counted (op_eq : op = .recheckFailure key) (kept : key ∈ t.activeKeys) (n : ℕ)
      (before : s.count key=some n) (count : t.count key=some (n+1))
  | removed (op_eq : op = .recheckFailure key) (gone : key ∉ t.activeKeys) (before : s.count key=some 2)

@[simp] lemma became_activeKeys (cfg : PoolConfig) (q : Pool) :
    (s.became cfg q).activeKeys = q.activeKeys := rfl
@[simp] lemma became_retiredHashes (cfg : PoolConfig) (q : Pool) :
    (s.became cfg q).retiredHashes = q.state.retiredHashes := rfl
@[simp] lemma became_count (cfg : PoolConfig) (q : Pool) :
    (s.became cfg q).count key = disabledCount (q.failures key) := rfl

/-- What a step does to the nodes: none leaves but by `KeyStep.removed`, none enters disabled, and
no hash is taken off the retired ones. -/
structure StepEffect (op : LifecycleOp) (s t : Lifecycle) : Prop where
  key : ∀ key ∈ s.activeKeys, KeyStep op key s t
  new : ∀ key ∈ t.activeKeys, key ∉ s.activeKeys → t.count key=none
  retired : s.retiredHashes ⊆ t.retiredHashes

/-- A report that touches the record of one key and leaves the nodes alone. -/
lemma StepEffect.of_sameNodes (key' : Str) {q : Pool} (hq : Pool.SameNodes s.pool q)
    (hrec : ∀ k ≠ key', q.failures k=s.pool.failures k)
    (hother : ∀ k ≠ key', op.isSuccess k = false ∧ op.isRecheckFailure k = false)
    (hkey : key' ∈ s.activeKeys → key' ∈ q.activeKeys → KeyStep op key' s (s.became s.cfg q)) :
    StepEffect op s (s.became s.cfg q) := by
  have hactive := hq.activeKeys
  refine ⟨?_,?_,?_⟩
  · intro k hk
    by_cases hne : k=key'
    · subst hne
      exact hkey hk (hactive ▸ hk)
    · exact .same (by rw [became_activeKeys,hactive]; exact hk) (hother k hne).1 (hother k hne).2
        (congrArg disabledCount (hrec k hne))
  · intro k hk hnew
    rw [became_activeKeys,hactive] at hk
    exact absurd hk hnew
  · rw [became_retiredHashes,hq.2]
    exact List.Subset.refl _

lemma StepEffect.refl (h : ∀ k, op.isSuccess k = false ∧ op.isRecheckFailure k = false) :
    StepEffect op s (s.became s.cfg s.pool) :=
  ⟨fun k hk => .same hk (h k).1 (h k).2 rfl,fun _ hk hnew => absurd hk hnew,List.Subset.refl _⟩

theorem merge_effect (hU : Set.InjOn (proxyKeyHash env) U) (h : s.Ok env U) {proxies : List ProxyNode}
    (hoffered : Offered env U proxies) :
    StepEffect (.merge proxies) s (s.became s.cfg (s.pool.merge env s.cfg proxies).1) := by
  obtain ⟨hstate,hfailures⟩ := Pool.merge_state env s.cfg s.pool proxies
  rw [h.2.1.merge_failures s.cfg hU hoffered] at hfailures
  rw [Pool.mergeLocked_pool] at hstate
  have hactive : (s.pool.merge env s.cfg proxies).1.activeKeys=
      s.activeKeys++(s.pool.mergeAdded env proxies).map ProxyEntry.key := by
    rw [Pool.activeKeys,hstate]
    exact List.map_append
  refine ⟨?_,?_,?_⟩
  · intro k hk
    refine .same ?_ rfl rfl (by rw [became_count,hfailures]; rfl)
    rw [became_activeKeys,hactive]
    exact List.mem_append_left _ hk
  · intro k hk hnew
    rw [became_activeKeys,hactive] at hk
    obtain ⟨e,he,rfl⟩ := List.mem_map.mp ((List.mem_append.mp hk).resolve_left hnew)
    obtain ⟨_,hne,hnr⟩ := Pool.mergeAdded_mem he
    rw [became_count,hfailures,not_not.mp (fun hr => h.2.1.linked.fresh hne hnr (h.2.1.records _ hr))]
    rfl
  · rw [became_retiredHashes,hstate]
    exact List.Subset.refl _

theorem reportSuccess_effect (entry : ProxyEntry) :
    StepEffect (.reportSuccess (.proxy entry)) s
      (s.became s.cfg (s.pool.reportSuccess env s.cfg (.proxy entry))) := by
  obtain ⟨hq,hf⟩ := Pool.reportSuccess_effect env s.cfg s.pool entry
  refine .of_sameNodes entry.key hq (fun k hk => by rw [hf,Function.update_of_ne hk]) ?_ ?_
  · intro k hne
    exact ⟨by simpa [LifecycleOp.isSuccess] using fun h => hne h.symm,rfl⟩
  · intro _ hactive
    exact .enabled hactive (by rw [became_count,hf,Function.update_self]; rfl)

theorem reportFailure_effect (now : ℕ) (entry : ProxyEntry) :
    StepEffect (.reportFailure now (.proxy entry)) s
      (s.became s.cfg (s.pool.reportFailure env s.cfg now (.proxy entry))) := by
  obtain ⟨hq,hf⟩ := Pool.reportFailure_effect env s.cfg s.pool now entry
  refine .of_sameNodes entry.key hq (fun k hk => by rw [hf,Function.update_of_ne hk])
    (fun _ _ => ⟨rfl,rfl⟩) ?_
  intro _ hactive
  obtain ⟨hcount,hbefore⟩ := recordFailure_disabledCount s.cfg now (s.pool.failures entry.key)
  have hafter := congrArg disabledCount (congrFun hf entry.key)
  rw [Function.update_self,hcount] at hafter
  cases hb : (recordFailure s.cfg now (s.pool.failures entry.key)).2 with
  | true =>
    rw [hb,if_pos rfl] at hafter
    exact .disabled hactive (hbefore hb) hafter
  | false =>
    rw [hb,if_neg Bool.false_ne_true] at hafter
    exact .same hactive rfl rfl hafter

theorem recheckSuccess_effect (key' : Str) :
    StepEffect (.recheckSuccess key') s
      (s.became s.cfg (s.pool.reportDisabledRecheckSuccess env s.cfg key').1) := by
  obtain ⟨hq,hf,hcount⟩ := Pool.recheckSuccess_effect env s.cfg s.pool key'
  refine .of_sameNodes key' hq hf ?_ (fun _ hactive => .enabled hactive hcount)
  intro k hne
  exact ⟨by simpa [LifecycleOp.isSuccess] using fun h => hne h.symm,rfl⟩

/-- The third failure of an active key removes it: its count never exceeds two. -/
theorem recheckFailure_effect (h : s.Ok env U) (key' : Str) :
    StepEffect (.recheckFailure key') s
      (s.became s.cfg (s.pool.reportDisabledRecheckFailure env s.cfg key').1) := by
  obtain ⟨hf,hcase⟩ := Pool.recheckFailure_effect env s.cfg s.pool key'
  have hother : ∀ k ≠ key', (LifecycleOp.recheckFailure key').isSuccess k = false ∧
      (LifecycleOp.recheckFailure key').isRecheckFailure k = false := by
    intro k hne
    exact ⟨rfl,by simpa [LifecycleOp.isRecheckFailure] using fun h => hne h.symm⟩
  rcases hcase with ⟨hq,hcount⟩ | ⟨n,hn,hge,hproxies,hret⟩
  · refine .of_sameNodes key' hq hf hother ?_
    intro _ hactive
    cases hn : disabledCount (s.pool.failures key') with
    | none => exact .enabled hactive (by rw [became_count,hcount,hn]; rfl)
    | some n => exact .counted rfl hactive n hn (by rw [became_count,hcount,hn]; rfl)
  · have hactive : ∀ k, k ∈ (s.pool.reportDisabledRecheckFailure env s.cfg key').1.activeKeys ↔
        k ∈ s.activeKeys ∧ k ≠ key' := by
      intro k
      rw [Pool.activeKeys,hproxies]
      exact Pool.mem_keys_filter_ne
    refine ⟨?_,?_,?_⟩
    · intro k hk
      by_cases hne : k=key'
      · subst hne
        have hle := h.2.1.count_le k hk n hn
        unfold disabledRecheckDeleteAfterFailures at hge
        obtain rfl : n=2 := by omega
        exact .removed rfl (fun hin => ((hactive k).mp hin).2 rfl) hn
      · exact .same ((hactive k).mpr ⟨hk,hne⟩) (hother k hne).1 (hother k hne).2
          (congrArg disabledCount (hf k hne))
    · exact fun k hk hnew => absurd ((hactive k).mp hk).1 hnew
    · rw [became_retiredHashes,hret]
      exact fun h hh => List.mem_insert_of_mem hh

theorem restart_effect (hU : Set.InjOn (proxyKeyHash env) U) (h : s.Ok env U) {cfg : PoolConfig}
    (hc : cfg.persistent = true) {proxies : List ProxyNode} (hoffered : Offered env U proxies) :
    StepEffect (.restart cfg proxies) s
      (s.became cfg (Pool.withRuntimeFailurePolicyAndState env cfg proxies s.pool.file)) := by
  obtain ⟨q,added,hq,hkeys,_,hret,hcount,hnone⟩ := h.2.rebuild cfg hU hc hoffered
  rw [hq]
  refine ⟨?_,hnone,fun h hh => (hret h).mpr hh⟩
  intro k hk
  refine .same ?_ rfl rfl (hcount k hk)
  rw [became_activeKeys,hkeys]
  exact List.mem_append_left _ hk

theorem step_effect (hU : Set.InjOn (proxyKeyHash env) U) (h : s.Ok env U) (hg : s.Allowed env U op)
    (ht : s.step env op = some t) : StepEffect op s t := by
  cases op with
  | merge proxies =>
    cases ht
    exact merge_effect hU h hg
  | reportSuccess choice =>
    cases ht
    cases choice with
    | direct => exact .refl (fun _ => ⟨rfl,rfl⟩)
    | proxy entry => exact reportSuccess_effect entry
  | reportFailure now choice =>
    cases ht
    cases choice with
    | direct => exact .refl (fun _ => ⟨rfl,rfl⟩)
    | proxy entry => exact reportFailure_effect now entry
  | recheckSuccess key' =>
    cases ht
    exact recheckSuccess_effect key'
  | recheckFailure key' =>
    cases ht
    exact recheckFailure_effect h key'
  | restart cfg proxies =>
    cases ht
    exact restart_effect hU h hg.1 hg.2

/-! Runs -/

/-- Every disabled active key has become so during the run. -/
theorem disabled_since (hU : Set.InjOn (proxyKeyHash env) U) {s₀ : Lifecycle} (h₀ : s₀.Ok env U)
    (hnone : ∀ k ∈ s₀.activeKeys, s₀.count k=none) {past : List LifecycleOp}
    (hrun : Run (step env) (Allowed env U) s₀ past s) :
    s.Ok env U ∧ Run (step env) (Allowed env U) s₀ past s ∧
      ∀ k ∈ s.activeKeys, ∀ n, s.count k=some n → DisabledSince env U s₀ k past s n := by
  refine hrun.history (fun past s => s.Ok env U ∧ Run (step env) (Allowed env U) s₀ past s ∧
    ∀ k ∈ s.activeKeys, ∀ n, s.count k=some n → DisabledSince env U s₀ k past s n) ?_ []
    ⟨h₀,Run.nil s₀,fun k hk n hn => by rw [hnone k hk] at hn; cases hn⟩
  rintro past a op b ⟨ha,hpast,hsince⟩ hg hb
  refine ⟨ha.step hU hg hb,hpast.snoc hb hg,?_⟩
  intro k hk n hn
  have hdisabled : b.Disabled k := by
    unfold Disabled
    rw [hn]
    rfl
  by_cases hka : k ∈ a.activeKeys
  · cases (step_effect hU ha hg hb).key k hka with
    | same _ success recheck count =>
      exact .other (hsince k hka n (by rw [← count,hn])) hb success recheck hdisabled
    | enabled _ count =>
      rw [hn] at count
      cases count
    | disabled _ before count =>
      rw [hn] at count
      cases count
      refine .became hpast hb ?_ hdisabled
      unfold Disabled
      rw [before]
      exact Bool.false_ne_true
    | counted op_eq _ m before count =>
      rw [hn] at count
      cases count
      subst op_eq
      exact .recheck (hsince k hka m before) hb hdisabled
    | removed _ gone _ => exact absurd hk gone
  · rw [(step_effect hU ha hg hb).new k hk hka] at hn
    cases hn

theorem start_none (hU : Set.InjOn (proxyKeyHash env) U) {cfg : PoolConfig} (hc : cfg.persistent = true)
    {proxies : List ProxyNode} (hoffered : Offered env U proxies) :
    ∀ k ∈ (start env cfg proxies).activeKeys, (start env cfg proxies).count k=none := by
  obtain ⟨q,added,hq,_,_,_,_,hcount⟩ := Pool.empty_kept.rebuild cfg hU hc hoffered
  rw [start,Pool.start_absent hc,hq]
  exact fun k hk => hcount k hk List.not_mem_nil

/-- In a run from a fresh start keys stay distinct and apart from the retired hashes, no hash is
taken off the retired ones, and a node leaves only at the third recheck failure of one disabled
period. -/
theorem node_lifecycle (hU : NoCollision env U) {cfg : PoolConfig} (hc : cfg.persistent = true)
    {proxies : List ProxyNode} (hoffered : Offered env U proxies) {earlier later : List LifecycleOp}
    (hearlier : Run (step env) (Allowed env U) (start env cfg proxies) earlier s)
    (hlater : Run (step env) (Allowed env U) s later t) :
    s.activeKeys.Nodup ∧ (∀ k ∈ s.activeKeys, proxyKeyHash env k ∉ s.retiredHashes) ∧
      s.retiredHashes ⊆ t.retiredHashes ∧
      ∀ k ∈ s.activeKeys, k ∈ t.activeKeys ∨ ∃ before after u,
        later=before++.recheckFailure k::after ∧ Run (step env) (Allowed env U) s before u ∧
          DisabledSince env U (start env cfg proxies) k (earlier++before) u 2 := by
  have hinj := hU.proxyKeyHash
  have h₀ := start_ok hinj hc hoffered
  have hnone := start_none hinj hc hoffered
  obtain ⟨hs,_,_⟩ := disabled_since hinj h₀ hnone hearlier
  refine ⟨hs.2.1.nodup,hs.2.1.not_retired,?_,?_⟩
  · have hgrow := hlater.relates
      (fun s t => s.Ok env U → t.Ok env U ∧ s.retiredHashes ⊆ t.retiredHashes)
      (fun s hs => ⟨hs,List.Subset.refl _⟩)
      (fun a b c hab hbc ha => ⟨(hbc (hab ha).1).1,List.Subset.trans (hab ha).2 (hbc (hab ha).1).2⟩)
      (fun a op b hg hb ha => ⟨ha.step hinj hg hb,(step_effect hinj ha hg hb).retired⟩)
    exact (hgrow hs).2
  · intro k hk
    by_cases hkt : k ∈ t.activeKeys
    · exact .inl hkt
    · obtain ⟨before,op,after,a,b,rfl,hbefore,hb,hg,_,hka,hkb⟩ :=
        hlater.lost_at (fun u => k ∈ u.activeKeys) hk hkt
      obtain ⟨ha,_,hsince⟩ := disabled_since hinj h₀ hnone (hearlier.append hbefore)
      cases (step_effect hinj ha hg hb).key k hka with
      | same kept => exact absurd kept hkb
      | enabled kept => exact absurd kept hkb
      | disabled kept => exact absurd kept hkb
      | counted _ kept => exact absurd kept hkb
      | removed op_eq _ before_eq =>
        exact .inr ⟨before,after,a,by rw [op_eq],hbefore,hsince k hka 2 before_eq⟩

/-! A run with one node -/

def sampleStart : Lifecycle := start sampleExternals sampleConfig [sampleNode]

lemma sample_offered : Offered sampleExternals {sampleNode.key} [sampleNode] := by
  intro node hn
  rw [List.mem_singleton] at hn
  subst hn
  exact ⟨trivial,rfl⟩

/-- The node is disabled by its first failure and goes at its third failed recheck. -/
theorem node_lifecycle_sample :
    ∃ s t, Run (step sampleExternals) (Allowed sampleExternals {sampleNode.key}) sampleStart
        [.reportFailure 0 (.proxy (.fromNode sampleNode))] s ∧
      Run (step sampleExternals) (Allowed sampleExternals {sampleNode.key}) s
        [.recheckFailure sampleNode.key,.restart sampleConfig [],.recheckFailure sampleNode.key,
          .recheckFailure sampleNode.key] t ∧
      s.activeKeys=[sampleNode.key] ∧ t.activeKeys=[] ∧ s.retiredHashes ⊆ t.retiredHashes ∧
      ∃ before after u, [LifecycleOp.recheckFailure sampleNode.key,.restart sampleConfig [],
          .recheckFailure sampleNode.key,.recheckFailure sampleNode.key]=
            before++.recheckFailure sampleNode.key::after ∧
        DisabledSince sampleExternals {sampleNode.key} sampleStart sampleNode.key
          ([.reportFailure 0 (.proxy (.fromNode sampleNode))]++before) u 2 := by
  have hentry : ProxyEntry.fromNode sampleNode ∈ sampleStart.seen := by
    rw [show sampleStart.seen=[ProxyEntry.fromNode sampleNode] from rfl]
    exact List.mem_singleton_self _
  have hearlier := (.cons rfl (by rintro entry ⟨⟩; exact hentry) (.nil _) :
    Run (step sampleExternals) (Allowed sampleExternals {sampleNode.key}) sampleStart
      [.reportFailure 0 (.proxy (.fromNode sampleNode))] _)
  have hlater := fun s => (.cons rfl trivial (.cons rfl ⟨rfl,by intro n hn; cases hn⟩
      (.cons rfl trivial (.cons rfl trivial (.nil _)))) :
    Run (step sampleExternals) (Allowed sampleExternals {sampleNode.key}) s
      [.recheckFailure sampleNode.key,.restart sampleConfig [],.recheckFailure sampleNode.key,
        .recheckFailure sampleNode.key] _)
  obtain ⟨_,_,hret,hkeys⟩ := node_lifecycle (Set.injOn_singleton _ _) rfl sample_offered hearlier (hlater _)
  refine ⟨_,_,hearlier,hlater _,by decide,by decide,hret,?_⟩
  obtain hk | ⟨before,after,u,heq,_,hsince⟩ := hkeys sampleNode.key (by decide)
  · exact absurd hk (by decide)
  · exact ⟨before,after,u,heq,hsince⟩

end Lifecycle
end RotatorProxy.Proxy
