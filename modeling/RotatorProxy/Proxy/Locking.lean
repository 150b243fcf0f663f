import RotatorProxy.Library.Locks
import RotatorProxy.Proxy.Saving

/-! The locks that the operations of a pool take. A section may find the pool in any state whatever,
since other calls run between the sections; what it finds decides which shards it locks and which
sections follow. -/
namespace RotatorProxy.Proxy
open Text Library

/-- `state` is the only one with readers. -/
inductive PoolLock
  | persistence
  | state
  | selection
  | shard (index : ℕ)
  deriving DecidableEq

/-- The order in which locks are nested. -/
def PoolLock.rank : PoolLock → ℕ
  | persistence => 0
  | state => 1
  | selection => 2
  | shard _ => 3

abbrev PoolLockStep := LockStep PoolLock

open Thread

variable (env : Externals) (cfg : PoolConfig)

/-- `failure_shard`, let go again. -/
def failureShard (key : Str) : List PoolLockStep := within (.shard (failureShardIndex env key)) .write []

/-- `is_unavailable` is asked only about an entry that has not been tried. -/
def scanLocks (tried : List Str) (proxies : List ProxyEntry) : BagEvent → List PoolLockStep
  | .popped index _ =>
    match proxies[index]? with
    | some entry => if entry.key ∈ tried then [] else failureShard env entry.key
    | none => []
  | _ => []

/-- `ProxyAttempts::next` -/
def ProxyAttempts.nextLocks (now : ℕ) (shuffles : ℕ → Shuffle) (attempts : ProxyAttempts) (p : Pool) :
    List PoolLockStep :=
  if attempts.directPending || decide (attempts.remaining=0) then []
  else within .state .read
    (if p.state.proxies.length=0 then []
    else within .selection .write ((p.nextRandomAvailable now attempts.tried shuffles).events.flatMap
      (scanLocks env attempts.tried p.state.proxies)))

/-- The shard of an entry that the map lists as disabled. -/
def restoreLocks (disabled : DisabledMap) (entry : ProxyEntry) : List PoolLockStep :=
  if (disabled.lookup (proxyKeyHash env entry.key)).isSome then failureShard env entry.key else []

/-- The locks that a section takes and lets go. A save keeps the persistence mutex until it has written. -/
def sectionLocks : PoolSection → World → List PoolLockStep
  | .attempts,_ | .readGeneration,_ => within .state .read []
  | .next caller now shuffles,w =>
    match w.iterators[caller]? with
    | some attempts => attempts.nextLocks env now shuffles w.pool
    | none => []
  | .merge proxies,w => within .state .write
    ((w.pool.mergeAdded env proxies).flatMap (restoreLocks env w.pool.state.disabledByHash))
  | .replace _,_ | .insertDisabled _ _ _,_ | .removeDisabled _ _,_ | .removeAndRetire _ _,_ =>
    within .state .write []
  | .clearShard index,_ => within (.shard index) .write []
  | .reportSuccess entry,_ | .reportFailure _ entry,_ => failureShard env entry.key
  | .recheckSuccess key _,_ | .recheckFailure key _,_ | .removeRecord key,_ => failureShard env key
  | .resetSelection _,_ => within .selection .write []
  | .persistSnapshot,_ => .acquire .persistence .write::within .state .read []
  | .persistWrite _,_ => [.release .persistence]

/-- The steps of the sections one after another, each in whatever state it finds. -/
inductive LockPath : List PoolSection → List PoolLockStep → Prop
  | nil : LockPath [] []
  | cons {a : PoolSection} {rest : List PoolSection} {steps : List PoolLockStep} (w : World)
      (later : LockPath ((execSection env cfg a w).2++rest) steps) :
      LockPath (a::rest) (sectionLocks env a w++steps)

/-- `disabled_proxies` on a snapshot -/
def disabledProxiesLocks (snapshot : List ProxyEntry) : List PoolLockStep :=
  within .state .read []++snapshot.flatMap (fun entry => failureShard env entry.key)

/-- `restore_persisted_failure_records`, and the count of the nodes if it is logged -/
def constructionLocks (p : Pool) (logged : Bool) : List PoolLockStep :=
  within .state .read []++
    ((if p.state.disabledByHash.entries=[] then []
      else within .state .read []++p.state.proxies.flatMap (restoreLocks env p.state.disabledByHash))++
    (if logged then within .state .read [] else []))

/-- The steps of one public operation. -/
inductive OperationPath : List PoolLockStep → Prop
  | call {a : PoolSection} {w : World} {steps : List PoolLockStep}
      (startable : startableSection cfg a w = true) (path : LockPath env cfg [a] steps) : OperationPath steps
  | disabledProxies (snapshot : List ProxyEntry) : OperationPath (disabledProxiesLocks env snapshot)
  | construction (p : Pool) (logged : Bool) {steps : List PoolLockStep}
      (path : LockPath env cfg (persistSections cfg) steps) :
      OperationPath (constructionLocks env p logged++steps)

variable {env cfg} {held : List (PoolLock × LockMode)} {steps : List PoolLockStep}

/-! Each section -/

lemma failureShard_balanced (h : ∀ k ∈ held, k.1.rank < 3) (key : Str) :
    Balanced PoolLock.rank held (failureShard env key) :=
  .within h (.nil _ _)

lemma restoreLocks_balanced (h : ∀ k ∈ held, k.1.rank < 3) (disabled : DisabledMap) (entry : ProxyEntry) :
    Balanced PoolLock.rank held (restoreLocks env disabled entry) := by
  unfold restoreLocks
  split_ifs
  · exact failureShard_balanced h _
  · exact .nil _ _

lemma nextLocks_balanced (attempts : ProxyAttempts) (now : ℕ) (shuffles : ℕ → Shuffle) (p : Pool) :
    Balanced PoolLock.rank [] (attempts.nextLocks env now shuffles p) := by
  unfold ProxyAttempts.nextLocks
  split_ifs
  · exact .nil _ _
  · exact .within (by simp) (.nil _ _)
  · refine .within (by simp) (.within (by simp [PoolLock.rank]) (.flatMap (fun event _ => ?_)))
    unfold scanLocks
    split
    · split
      · split_ifs
        · exact .nil _ _
        · exact failureShard_balanced (by simp [PoolLock.rank]) _
      · exact .nil _ _
    · exact .nil _ _

/-- Every section but those of a save gives back what it takes. -/
theorem sectionLocks_balanced {a : PoolSection} (hread : a ≠ .persistSnapshot) (hwrite : a.unwritten=none)
    (w : World) : Balanced PoolLock.rank [] (sectionLocks env a w) := by
  cases a with
  | next caller now shuffles =>
    simp only [sectionLocks]
    split
    · exact nextLocks_balanced _ now shuffles w.pool
    · exact .nil _ _
  | merge proxies =>
    refine .within (by simp) (.flatMap (fun entry _ => restoreLocks_balanced ?_ _ entry))
    simp [PoolLock.rank]
  | reportSuccess entry | reportFailure now entry => exact failureShard_balanced (by simp) _
  | recheckSuccess key persist | recheckFailure key persist => exact failureShard_balanced (by simp) _
  | removeRecord key => exact failureShard_balanced (by simp) _
  | persistSnapshot => exact absurd rfl hread
  | persistWrite state => cases hwrite
  | attempts | replace _ | clearShard _ | insertDisabled _ _ _ | removeDisabled _ _ | removeAndRetire _ _
  | readGeneration | resetSelection _ => exact .within (by simp) (.nil _ _)

/-- The locks held before the next section of a call. -/
def heldBefore : List PoolSection → List (PoolLock × LockMode)
  | .persistWrite _::_ => [(.persistence,.write)]
  | _ => []

lemma heldBefore_eq_nil {sections : List PoolSection} (h : ∀ b ∈ sections, b.unwritten=none) :
    heldBefore sections=[] := by
  unfold heldBefore
  split
  · cases h _ List.mem_cons_self
  · rfl

/-- A call takes its locks in order, if it has nothing to write but at the head. -/
theorem LockPath.ordered {sections : List PoolSection} (h : LockPath env cfg sections steps)
    (htail : ∀ b ∈ sections.tail, b.unwritten=none) :
    Ordered PoolLock.rank (heldBefore sections) steps := by
  induction h with
  | nil => rfl
  | @cons a rest steps w later ih =>
    by_cases hread : a = .persistSnapshot
    · subst hread
      have hstate : Balanced PoolLock.rank [(.persistence,.write)] (within .state .read []) :=
        .within (by simp [PoolLock.rank]) (.nil _ _)
      exact ⟨fun k hk => (by cases hk),hstate _ (ih htail)⟩
    · have hmore : ∀ b ∈ (execSection env cfg a w).2++rest, b.unwritten=none := by
        intro b hb
        exact (List.mem_append.mp hb).elim (execSection_unwritten hread b) (htail b)
      have hlater := ih (fun b hb => hmore b (List.mem_of_mem_tail hb))
      rw [heldBefore_eq_nil hmore] at hlater
      by_cases hwrite : a.unwritten=none
      · have hheld : heldBefore (a::rest)=[] := by
          refine heldBefore_eq_nil (fun b hb => ?_)
          obtain rfl | hb := List.mem_cons.mp hb
          · exact hwrite
          · exact htail b hb
        rw [hheld]
        exact sectionLocks_balanced hread hwrite w _ hlater
      · cases a <;> first | exact absurd rfl hwrite | skip
        exact ⟨⟨.write,List.mem_cons_self⟩,hlater⟩

/-- An operation leaves no lock taken. -/
theorem OperationPath.balanced (h : OperationPath env cfg steps) : Balanced PoolLock.rank [] steps := by
  have hread : Balanced PoolLock.rank [] (within .state .read []) := .within (by simp) (.nil _ _)
  cases h with
  | @call a w steps startable path =>
    intro todo htodo
    have hheld : heldBefore [a]=[] := by
      refine heldBefore_eq_nil (fun b hb => ?_)
      rw [List.mem_singleton.mp hb]
      cases a <;> first | rfl | cases startable
    exact (hheld ▸ path.ordered (fun b hb => by cases hb)).append htodo
  | disabledProxies snapshot =>
    exact hread.append (.flatMap (fun entry _ => failureShard_balanced (by simp) _))
  | @construction p logged steps path =>
    refine .append (hread.append (.append ?_ ?_)) ?_
    · split_ifs
      · exact .nil _ _
      · exact hread.append (.flatMap (fun entry _ => restoreLocks_balanced (by simp) _ entry))
    · split_ifs
      · exact hread
      · exact .nil _ _
    · intro todo htodo
      have hnone : ∀ b ∈ persistSections cfg, b.unwritten=none := fun b hb => unwritten_persist hb
      have hordered := path.ordered (fun b hb => hnone b (List.mem_of_mem_tail hb))
      rw [heldBefore_eq_nil hnone] at hordered
      exact hordered.append htodo

/-! Any number of threads -/

/-- Threads that run operations of the pool one after another, and have not begun. -/
def Idle (env : Externals) (cfg : PoolConfig) (threads : List (Thread PoolLock)) : Prop :=
  ∀ t ∈ threads, t.held=[] ∧ ∃ operations : List (List PoolLockStep),
    (∀ steps ∈ operations, OperationPath env cfg steps) ∧ t.todo=operations.flatten

/-- Threads that run operations of the pool never come to a deadlock, and each takes a lock only while
all those it holds come before it in the order persistence, state, selection, shard. -/
theorem pool_never_deadlocks {threads reached : List (Thread PoolLock)} {moves : List ℕ}
    (hidle : Idle env cfg threads) (hrun : Run Thread.step (fun _ _ => True) threads moves reached) :
    ¬Deadlocked reached ∧
      ∀ t ∈ reached, ∀ l mode, t.awaits=some (l,mode) → ∀ k ∈ t.held, k.1.rank < l.rank := by
  have hordered : WellOrdered PoolLock.rank threads := by
    intro t ht
    obtain ⟨hheld,operations,hpaths,htodo⟩ := hidle t ht
    have hbalanced : Balanced PoolLock.rank [] (operations.flatMap id) :=
      .flatMap (fun steps hsteps => (hpaths steps hsteps).balanced)
    have hwhole := hbalanced [] rfl
    rw [List.append_nil,List.flatMap_id] at hwhole
    rwa [hheld,htodo]
  have hreached := hordered.run hrun
  exact ⟨hreached.not_deadlocked,fun t ht l mode hawaits k hk => hreached.above ht hawaits hk⟩

/-! A recheck that retires a node, the list of disabled nodes, and a save -/

def retiringLocks : List PoolLockStep :=
  failureShard sampleExternals sampleNode.key++failureShard sampleExternals sampleNode.key++
    within .state .write []++within .selection .write []++
    (.acquire .persistence .write::within .state .read []++[.release .persistence])

def contendingThreads : List (Thread PoolLock) :=
  [⟨[],retiringLocks⟩,⟨[],disabledProxiesLocks sampleExternals [.fromNode sampleNode]⟩,
    ⟨[],.acquire .persistence .write::within .state .read []++[.release .persistence]⟩]

lemma contendingThreads_idle : Idle sampleExternals sampleConfig contendingThreads := by
  have hretire := (.cons doomedWorld (.cons doomedWorld (.cons doomedWorld (.cons doomedWorld
    (.cons doomedWorld (.cons doomedWorld .nil))))) :
    LockPath sampleExternals sampleConfig [.recheckFailure sampleNode.key true] _)
  have hsave := (.cons doomedWorld (.cons doomedWorld .nil) :
    LockPath sampleExternals sampleConfig [.persistSnapshot] _)
  have hone : ∀ steps, OperationPath sampleExternals sampleConfig steps →
      ∃ operations : List (List PoolLockStep),
        (∀ steps ∈ operations, OperationPath sampleExternals sampleConfig steps) ∧ steps=operations.flatten :=
    fun steps h => ⟨[steps],fun l hl => List.mem_singleton.mp hl ▸ h,by simp⟩
  intro t ht
  simp only [contendingThreads,List.mem_cons,List.not_mem_nil,or_false] at ht
  obtain rfl | rfl | rfl := ht
  · exact ⟨rfl,hone _ (@OperationPath.call _ _ _ doomedWorld _ rfl hretire)⟩
  · exact ⟨rfl,hone _ (.disabledProxies _)⟩
  · exact ⟨rfl,hone _ (@OperationPath.call _ _ _ doomedWorld _ rfl hsave)⟩

/-- The recheck waits to write the state while it is read; the save holds the persistence mutex and
waits to read the state. -/
theorem pool_never_deadlocks_contended :
    ∃ reached, Run Thread.step (fun _ _ => True) contendingThreads [2,0,1,0,0,0] reached ∧
      reached.map awaits=[some (.state,.write),none,some (.state,.read)] ∧ ¬Deadlocked reached := by
  have hrun := (.cons rfl trivial (.cons rfl trivial (.cons rfl trivial (.cons rfl trivial
    (.cons rfl trivial (.cons rfl trivial (.nil _)))))) :
    Run Thread.step (fun _ _ => True) contendingThreads [2,0,1,0,0,0] _)
  exact ⟨_,hrun,rfl,(pool_never_deadlocks contendingThreads_idle hrun).1⟩

end RotatorProxy.Proxy
