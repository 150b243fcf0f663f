import RotatorProxy.Library.Sections
import RotatorProxy.Proxy.Agreement
import RotatorProxy.Proxy.Attempts

/-! The operations of a pool as concurrent calls, cut at their locks. Every constructor of
`PoolSection` is one stretch of code under a lock; `next` is the one that holds two at once. -/
namespace RotatorProxy.Proxy
open Text Library

/-- `persist` is false in the deferred variants of the rechecks. -/
inductive PoolSection
  | attempts
  | next (caller now : ℕ) (shuffles : ℕ → Shuffle)
  | merge (proxies : List ProxyNode)
  | replace (proxies : List ProxyNode)
  | clearShard (index : ℕ)
  | reportSuccess (entry : ProxyEntry)
  | reportFailure (now : ℕ) (entry : ProxyEntry)
  | recheckSuccess (key : Str) (persist : Bool)
  | recheckFailure (key : Str) (persist : Bool)
  | removeRecord (key : Str)
  | insertDisabled (key : Str) (count : ℕ) (persist : Bool)
  | removeDisabled (key : Str) (persist : Bool)
  | removeAndRetire (key : Str) (persist : Bool)
  | readGeneration
  | resetSelection (generation : ℕ)
  | persistSnapshot
  | persistWrite (state : PersistedPoolState)

/-- A pool, the iterators over it and the entries they have given out. `bagLog` and
`generationChanges` only record what has happened. -/
structure World where
  pool : Pool
  iterators : List ProxyAttempts
  handedOut : List ProxyEntry
  persisting : Bool
  bagLog : List BagEvent
  generationChanges : ℕ

namespace World

/-- A pool that nobody has called yet. -/
def fresh (pool : Pool) : World := ⟨pool,[],[],false,[],0⟩

def setPool (pool : Pool) (w : World) : World := {w with pool := pool}

/-- The state section of an operation, which may have changed the generation. -/
def setPoolGeneration (pool : Pool) (reset : Option ℕ) (w : World) : World :=
  {w with pool := pool,generationChanges := w.generationChanges+(if reset.isSome then 1 else 0)}

def resetSelection (generation : ℕ) (w : World) : World :=
  {w with pool := w.pool.resetSelection generation,bagLog := w.bagLog++[.cleared]}

def next (caller now : ℕ) (shuffles : ℕ → Shuffle) (w : World) : World :=
  match w.iterators[caller]? with
  | none => w
  | some attempts =>
    let (choice,attempts,pool,events) := attempts.next now shuffles w.pool
    let handedOut := match choice with
      | some (.proxy entry) => w.handedOut++[entry]
      | _ => w.handedOut
    ⟨pool,w.iterators.set caller attempts,handedOut,w.persisting,w.bagLog++events,w.generationChanges⟩

end World

variable (env : Externals) (cfg : PoolConfig)

/-- `persist_state` -/
def persistSections : List PoolSection := if cfg.persistent then [.persistSnapshot] else []

def resetSections (reset : Option ℕ) : List PoolSection := (reset.map PoolSection.resetSelection).toList

def execSection : PoolSection → World → World × List PoolSection
  | .attempts,w => ({w with iterators := w.iterators++[w.pool.attempts cfg]},[])
  | .next caller now shuffles,w => (w.next caller now shuffles,[])
  | .merge proxies,w =>
    let (pool,_,reset) := w.pool.mergeLocked env cfg proxies
    (w.setPoolGeneration pool reset,resetSections reset++persistSections cfg)
  | .replace proxies,w =>
    let (pool,generation) := w.pool.replaceLocked proxies
    (w.setPoolGeneration pool (some generation),
      .resetSelection generation::(List.range failureShards).map .clearShard++persistSections cfg)
  | .clearShard index,w =>
    (w.setPool (w.pool.clearShard env index),[])
  | .reportSuccess entry,w =>
    let (pool,wasDisabled) := w.pool.reportSuccessLocked entry.key
    (w.setPool pool,if wasDisabled then [.removeDisabled entry.key true] else [])
  | .reportFailure now entry,w =>
    let (pool,becameDisabled) := w.pool.reportFailureLocked cfg now entry.key
    (w.setPool pool,if becameDisabled then [.insertDisabled entry.key 0 true] else [])
  | .recheckSuccess key persist,w =>
    let (pool,wasDisabled) := w.pool.recheckSuccessLocked key
    (w.setPool pool,if wasDisabled then [.removeDisabled key persist,.readGeneration] else [])
  | .recheckFailure key persist,w =>
    match w.pool.recheckFailureLocked key with
    | (pool,none) => (w.setPool pool,[])
    | (pool,some count) => (w.setPool pool,
        if disabledRecheckDeleteAfterFailures ≤ count then [.removeRecord key,.removeAndRetire key persist]
        else [.insertDisabled key count persist])
  | .removeRecord key,w => (w.setPool (w.pool.setRecord key none),[])
  | .insertDisabled key count persist,w =>
    (w.setPool (w.pool.insertDisabledLocked env key count),if persist then persistSections cfg else [])
  | .removeDisabled key persist,w =>
    (w.setPool (w.pool.removeDisabledLocked env key),if persist then persistSections cfg else [])
  | .removeAndRetire key persist,w =>
    let (pool,reset) := w.pool.removeAndRetireLocked env key
    (w.setPoolGeneration pool reset,
      if reset.isSome then resetSections reset++(if persist then persistSections cfg else []) else [])
  | .readGeneration,w => (w,[.resetSelection w.pool.state.generation])
  | .resetSelection generation,w => (w.resetSelection generation,[])
  | .persistSnapshot,w => ({w with persisting := true},[.persistWrite w.pool.persistedState])
  | .persistWrite state,w =>
    ({w with pool := {w.pool with file := .saved state},persisting := false},[])

/-- A report is about an entry that an iterator has given out. -/
def startableSection : PoolSection → World → Bool
  | .attempts,_ | .merge _,_ | .replace _,_ | .recheckSuccess _ _,_ | .recheckFailure _ _,_ => true
  | .next caller _ _,w => decide (caller < w.iterators.length)
  | .reportSuccess entry,w | .reportFailure _ entry,w => w.handedOut.any (fun e => decide (e.key=entry.key))
  | .persistSnapshot,_ => cfg.persistent
  | _,_ => false

/-- Only `persist_state` waits for a lock that is held between two sections. -/
def enabledSection : PoolSection → World → Bool
  | .persistSnapshot,w => !w.persisting
  | _,_ => true

def poolSections : Sections World PoolSection where
  enabled := enabledSection
  startable := startableSection cfg
  exec := execSection env cfg

abbrev Concurrent := InFlight World PoolSection

/-! A call that runs alone does what the operation of the pool does. -/

variable {env cfg} {w t : World}

lemma alone_tail {a : PoolSection} {rest : List PoolSection}
    (h : (poolSections env cfg).Alone (a::rest) w t) :
    (poolSections env cfg).Alone ((execSection env cfg a w).2++rest) (execSection env cfg a w).1 t :=
  h.tail

lemma alone_persist {rest : List PoolSection}
    (h : (poolSections env cfg).Alone (persistSections cfg++rest) w t) :
    ∃ u, u.pool=w.pool.persistState cfg ∧ (poolSections env cfg).Alone rest u t := by
  unfold persistSections Pool.persistState at *
  cases hc : cfg.persistent with
  | false =>
    rw [hc] at h
    exact ⟨w,rfl,h⟩
  | true =>
    rw [hc] at h
    exact ⟨_,rfl,alone_tail (alone_tail h)⟩

lemma alone_persist_last (h : (poolSections env cfg).Alone (persistSections cfg) w t) :
    t.pool=w.pool.persistState cfg := by
  rw [← List.append_nil (persistSections cfg)] at h
  obtain ⟨u,hu,ht⟩ := alone_persist h
  rw [ht.nil_eq,hu]

theorem alone_reportSuccess {entry : ProxyEntry}
    (h : (poolSections env cfg).Alone [.reportSuccess entry] w t) :
    t.pool=w.pool.reportSuccess env cfg (.proxy entry) := by
  have h := alone_tail h
  simp only [execSection,List.append_nil] at h
  unfold Pool.reportSuccess
  cases hb : (w.pool.reportSuccessLocked entry.key).2 with
  | false =>
    simp only [hb,Bool.false_eq_true,if_false] at h ⊢
    rw [h.nil_eq]
    rfl
  | true =>
    simp only [hb,if_true] at h ⊢
    have h := alone_tail h
    rw [List.append_nil] at h
    exact alone_persist_last h

theorem alone_reportFailure {now : ℕ} {entry : ProxyEntry}
    (h : (poolSections env cfg).Alone [.reportFailure now entry] w t) :
    t.pool=w.pool.reportFailure env cfg now (.proxy entry) := by
  have h := alone_tail h
  simp only [execSection,List.append_nil] at h
  unfold Pool.reportFailure
  cases hb : (w.pool.reportFailureLocked cfg now entry.key).2 with
  | false =>
    simp only [hb,Bool.false_eq_true,if_false] at h ⊢
    rw [h.nil_eq]
    rfl
  | true =>
    simp only [hb,if_true] at h ⊢
    have h := alone_tail h
    rw [List.append_nil] at h
    exact alone_persist_last h

theorem alone_recheckSuccess {key : Str} {persist : Bool}
    (h : (poolSections env cfg).Alone [.recheckSuccess key persist] w t) :
    t.pool=(w.pool.reportDisabledRecheckSuccessInner env cfg key persist).1 := by
  have h := alone_tail h
  simp only [execSection,List.append_nil] at h
  unfold Pool.reportDisabledRecheckSuccessInner
  generalize w.pool.recheckSuccessLocked key=r at *
  obtain ⟨q,_ | _⟩ := r
  · exact congrArg World.pool h.nil_eq
  · have h := alone_tail h
    cases persist with
    | false => exact congrArg World.pool (alone_tail (alone_tail h)).nil_eq
    | true =>
      obtain ⟨u,hu,hrest⟩ := alone_persist h
      have hlast := congrArg World.pool (alone_tail (alone_tail hrest)).nil_eq
      simp only [execSection,World.resetSelection,hu] at hlast
      exact hlast

lemma alone_removeAndRetire {key : Str} {persist : Bool}
    (h : (poolSections env cfg).Alone [.removeAndRetire key persist] w t) :
    t.pool=w.pool.removeAndRetire env cfg key persist := by
  have h := alone_tail h
  simp only [execSection,List.append_nil] at h
  unfold Pool.removeAndRetire
  generalize w.pool.removeAndRetireLocked env key=r at *
  obtain ⟨q,_ | generation⟩ := r
  · exact congrArg World.pool h.nil_eq
  · have h := alone_tail h
    cases persist with
    | false => exact congrArg World.pool h.nil_eq
    | true => exact alone_persist_last h

theorem alone_recheckFailure {key : Str} {persist : Bool}
    (h : (poolSections env cfg).Alone [.recheckFailure key persist] w t) :
    t.pool=(w.pool.reportDisabledRecheckFailureInner env cfg key persist).1 := by
  have h := alone_tail h
  simp only [execSection,List.append_nil] at h
  unfold Pool.reportDisabledRecheckFailureInner
  generalize w.pool.recheckFailureLocked key=r at *
  obtain ⟨q,_ | count⟩ := r
  · exact congrArg World.pool h.nil_eq
  · by_cases hc : disabledRecheckDeleteAfterFailures ≤ count
    · simp only [hc,if_true] at h ⊢
      exact alone_removeAndRetire (alone_tail h)
    · simp only [hc,if_false] at h ⊢
      have h := alone_tail h
      rw [List.append_nil] at h
      cases persist with
      | false => exact congrArg World.pool h.nil_eq
      | true => exact alone_persist_last h

theorem alone_merge {proxies : List ProxyNode}
    (h : (poolSections env cfg).Alone [.merge proxies] w t) :
    t.pool=(w.pool.merge env cfg proxies).1 := by
  have h := alone_tail h
  simp only [execSection,List.append_nil] at h
  unfold Pool.merge
  generalize w.pool.mergeLocked env cfg proxies=r at *
  obtain ⟨q,summary,_ | generation⟩ := r
  · exact alone_persist_last h
  · exact alone_persist_last (alone_tail h)

lemma alone_clearShards {n : ℕ} {rest : List PoolSection}
    (h : (poolSections env cfg).Alone ((List.range n).map .clearShard++rest) w t) :
    ∃ u, u.pool={w.pool with
        failures := fun key => if failureShardIndex env key < n then none else w.pool.failures key} ∧
      (poolSections env cfg).Alone rest u t := by
  induction n generalizing rest with
  | zero => exact ⟨w,by simp,h⟩
  | succ n ih =>
    rw [List.range_succ,List.map_append,List.append_assoc] at h
    obtain ⟨u,hu,hrest⟩ := ih h
    refine ⟨_,?_,alone_tail hrest⟩
    simp only [execSection,World.setPool,Pool.clearShard,hu]
    congr 1
    funext key
    by_cases hlt : failureShardIndex env key < n
    · have hle : failureShardIndex env key < n+1 := by omega
      simp [hlt,hle]
    · by_cases heq : failureShardIndex env key=n
      · simp [heq]
      · have hnle : ¬failureShardIndex env key < n+1 := by omega
        simp [hlt,heq,hnle]

theorem alone_replace {proxies : List ProxyNode}
    (h : (poolSections env cfg).Alone [.replace proxies] w t) :
    t.pool=w.pool.replace cfg proxies := by
  have h := alone_tail h
  rw [execSection,List.append_nil] at h
  obtain ⟨u,hu,hrest⟩ := alone_clearShards (alone_tail h)
  have hall : ∀ key, failureShardIndex env key < failureShards := fun key => Nat.mod_lt _ (by decide)
  simp only [hall,if_true] at hu
  rw [alone_persist_last hrest,hu]
  rfl

end RotatorProxy.Proxy
