import RotatorProxy.Library.Run
import Mathlib.Data.Finset.Max

/-! Threads that take locks. A lock is held by one writer or by any number of readers, and a writer
that waits may keep new readers out. Threads that only ever take a lock of a higher rank than those
they hold cannot block one another. -/
namespace RotatorProxy.Library

inductive LockMode
  | read
  | write
  deriving DecidableEq

inductive LockStep (L : Type*)
  | acquire (l : L) (mode : LockMode)
  | release (l : L)

/-- The locks a thread holds, and what it has still to do. -/
structure Thread (L : Type*) where
  held : List (L × LockMode)
  todo : List (LockStep L)

namespace Thread
variable {L ρ : Type*} [DecidableEq L]

def drop (l : L) (held : List (L × LockMode)) : List (L × LockMode) := held.filter (fun h => h.1 ≠ l)

/-- The lock the thread takes next, if that is its next step. -/
def awaits (t : Thread L) : Option (L × LockMode) :=
  match t.todo with
  | .acquire l mode::_ => some (l,mode)
  | _ => none

/-- Whether the threads that hold `l` leave it to one more in this mode. -/
def free (ts : List (Thread L)) (l : L) (mode : LockMode) : Bool :=
  ts.all (fun t => t.held.all (fun h => h.1 ≠ l || (mode = .read && h.2 = .read)))

/-- The thread `i` takes its next step. -/
def step (ts : List (Thread L)) (i : ℕ) : Option (List (Thread L)) :=
  match ts[i]? with
  | some ⟨held,.acquire l mode::todo⟩ =>
    if free ts l mode then some (ts.set i ⟨(l,mode)::held,todo⟩) else none
  | some ⟨held,.release l::todo⟩ => some (ts.set i ⟨drop l held,todo⟩)
  | _ => none

/-- Thread `i` waits for a lock that some thread holds, or to read what another waits to write. -/
def Blocked (ts : List (Thread L)) (i : ℕ) : Prop :=
  ∃ t l mode, ts[i]? = some t ∧ t.awaits=some (l,mode) ∧
    (free ts l mode = false ∨
      mode = .read ∧ ∃ j u, j ≠ i ∧ ts[j]? = some u ∧ u.awaits=some (l,.write))

/-- There is a thread that is not done, and every such thread is blocked. -/
def Deadlocked (ts : List (Thread L)) : Prop :=
  (∃ t ∈ ts, t.todo ≠ []) ∧ ∀ i t, ts[i]? = some t → t.todo ≠ [] → Blocked ts i

/-- Locks are taken in the order of their rank, and none is kept to the end. -/
def Ordered [LT ρ] (rank : L → ρ) : List (L × LockMode) → List (LockStep L) → Prop
  | held,[] => held=[]
  | held,.acquire l mode::todo => (∀ h ∈ held, rank h.1 < rank l) ∧ Ordered rank ((l,mode)::held) todo
  | held,.release l::todo => (∃ mode, (l,mode) ∈ held) ∧ Ordered rank (drop l held) todo

omit [DecidableEq L] in
lemma awaits_eq {t : Thread L} {l : L} {mode : LockMode} (h : t.awaits=some (l,mode)) :
    ∃ todo, t.todo=.acquire l mode::todo := by
  obtain ⟨held,_ | ⟨_ | _,todo⟩⟩ := t
  · cases h
  · cases h
    exact ⟨todo,rfl⟩
  · cases h

/-- Steps that end with the locks held with which they began. -/
def Balanced [LT ρ] (rank : L → ρ) (held : List (L × LockMode)) (steps : List (LockStep L)) : Prop :=
  ∀ todo, Ordered rank held todo → Ordered rank held (steps++todo)

/-- Work that ends with no lock held can be followed by more. -/
lemma Ordered.append [LT ρ] {rank : L → ρ} {held : List (L × LockMode)} {l l' : List (LockStep L)}
    (h : Ordered rank held l) (h' : Ordered rank [] l') : Ordered rank held (l++l') := by
  induction l generalizing held with
  | nil =>
    obtain rfl : held=[] := h
    exact h'
  | cons s l ih =>
    cases s with
    | acquire k mode => exact ⟨h.1,ih h.2⟩
    | release k => exact ⟨h.1,ih h.2⟩

lemma Balanced.nil [LT ρ] (rank : L → ρ) (held : List (L × LockMode)) : Balanced rank held [] :=
  fun _ h => h

lemma Balanced.append [LT ρ] {rank : L → ρ} {held : List (L × LockMode)} {l l' : List (LockStep L)}
    (h : Balanced rank held l) (h' : Balanced rank held l') : Balanced rank held (l++l') := by
  intro todo htodo
  rw [List.append_assoc]
  exact h _ (h' _ htodo)

lemma Balanced.flatMap [LT ρ] {rank : L → ρ} {held : List (L × LockMode)} {α : Type*} {l : List α}
    {f : α → List (LockStep L)} (h : ∀ x ∈ l, Balanced rank held (f x)) :
    Balanced rank held (l.flatMap f) := by
  induction l with
  | nil => exact .nil rank held
  | cons x l ih =>
    rw [List.flatMap_cons]
    exact (h x List.mem_cons_self).append (ih (fun y hy => h y (List.mem_cons_of_mem _ hy)))

/-- Steps taken while one more lock is held. -/
def within (l : L) (mode : LockMode) (inner : List (LockStep L)) : List (LockStep L) :=
  .acquire l mode::inner++[.release l]

lemma Balanced.within [Preorder ρ] {rank : L → ρ} {held : List (L × LockMode)} {l : L} {mode : LockMode}
    {inner : List (LockStep L)} (habove : ∀ h ∈ held, rank h.1 < rank l)
    (hinner : Balanced rank ((l,mode)::held) inner) : Balanced rank held (within l mode inner) := by
  intro todo htodo
  have hdrop : drop l ((l,mode)::held)=held := by
    rw [drop,List.filter_cons_of_neg (by simp),List.filter_eq_self]
    intro h hh
    have hne : h.1 ≠ l := fun heq => lt_irrefl _ (heq ▸ habove h hh)
    simpa using hne
  rw [Thread.within,List.append_assoc]
  refine ⟨habove,?_⟩
  apply hinner
  refine ⟨⟨mode,List.mem_cons_self⟩,?_⟩
  rwa [hdrop]

variable [LinearOrder ρ] {rank : L → ρ} {ts d : List (Thread L)} {i : ℕ}

/-- What a thread still has to do is in order, given what it holds. -/
def WellOrdered (rank : L → ρ) (ts : List (Thread L)) : Prop := ∀ t ∈ ts, Ordered rank t.held t.todo

lemma WellOrdered.step (h : WellOrdered rank ts) (hd : Thread.step ts i = some d) : WellOrdered rank d := by
  unfold Thread.step at hd
  split at hd
  · next held l mode todo hi =>
    have ht : Ordered rank held (.acquire l mode::todo) := h _ (List.mem_of_getElem? hi)
    split at hd
    · cases hd
      intro t hmem
      obtain hmem | rfl := List.mem_or_eq_of_mem_set hmem
      · exact h t hmem
      · exact ht.2
    · cases hd
  · next held l todo hi =>
    have ht : Ordered rank held (.release l::todo) := h _ (List.mem_of_getElem? hi)
    cases hd
    intro t hmem
    obtain hmem | rfl := List.mem_or_eq_of_mem_set hmem
    · exact h t hmem
    · exact ht.2
  · cases hd

/-- A thread waits only for locks above those it holds. -/
lemma WellOrdered.above (h : WellOrdered rank ts) {t : Thread L} (ht : t ∈ ts) {l : L} {mode : LockMode}
    (hawaits : t.awaits=some (l,mode)) {k : L × LockMode} (hk : k ∈ t.held) : rank k.1 < rank l := by
  obtain ⟨todo,htodo⟩ := awaits_eq hawaits
  have hordered := h t ht
  rw [htodo] at hordered
  exact hordered.1 k hk

/-- The one who holds a lock that is waited for waits for a higher one itself. -/
lemma WellOrdered.holder_awaits (h : WellOrdered rank ts)
    (hall : ∀ i t, ts[i]? = some t → t.todo ≠ [] → Blocked ts i) {l : L} {mode : LockMode}
    (hheld : free ts l mode = false) :
    ∃ t ∈ ts, ∃ l' mode', t.awaits=some (l',mode') ∧ rank l < rank l' := by
  obtain ⟨t,ht,k,hk,rfl⟩ : ∃ t ∈ ts, ∃ k ∈ t.held, k.1=l := by
    by_contra! hnone
    have hfree : free ts l mode = true := by
      simp only [free,List.all_eq_true]
      intro t ht k hk
      simp [hnone t ht k hk]
    rw [hfree] at hheld
    cases hheld
  obtain ⟨i,hi⟩ := List.getElem?_of_mem ht
  have hbusy : t.todo ≠ [] := by
    intro hdone
    have hordered := h t ht
    rw [hdone] at hordered
    rw [show t.held=[] from hordered] at hk
    cases hk
  obtain ⟨t',l',mode',ht',hawaits,_⟩ := hall i t hi hbusy
  obtain rfl : t=t' := Option.some.inj (hi.symm.trans ht')
  exact ⟨t,ht,l',mode',hawaits,h.above ht hawaits hk⟩

/-- The lock of highest rank that is waited for can be taken. -/
theorem WellOrdered.not_deadlocked (h : WellOrdered rank ts) : ¬Deadlocked ts := by
  rintro ⟨⟨t,ht,hbusy⟩,hall⟩
  obtain ⟨i,hi⟩ := List.getElem?_of_mem ht
  obtain ⟨t',l,mode,ht',hawaits,_⟩ := hall i t hi hbusy
  have hwaited : ((ts.filterMap awaits).map Prod.fst).toFinset.Nonempty := by
    refine ⟨l,?_⟩
    rw [List.mem_toFinset]
    exact List.mem_map_of_mem (List.mem_filterMap.mpr ⟨t',List.mem_of_getElem? ht',hawaits⟩)
  obtain ⟨top,htop,hmax⟩ := Finset.exists_max_image _ rank hwaited
  have hbelow : ∀ t ∈ ts, ∀ l mode, t.awaits=some (l,mode) → ¬rank top < rank l := by
    intro t ht l mode hawaits
    refine not_lt.mpr (hmax l ?_)
    rw [List.mem_toFinset]
    exact List.mem_map_of_mem (List.mem_filterMap.mpr ⟨t,ht,hawaits⟩)
  rw [List.mem_toFinset] at htop
  obtain ⟨⟨top',mode⟩,hmem,rfl⟩ := List.mem_map.mp htop
  obtain ⟨u,hu,hawaits⟩ := List.mem_filterMap.mp hmem
  have hheld : ∀ mode', free ts top' mode' = false → False := by
    intro mode' hfree
    obtain ⟨v,hv,l',mode'',hl',hlt⟩ := h.holder_awaits hall hfree
    exact hbelow v hv l' mode'' hl' hlt
  have hblocked : ∀ v ∈ ts, ∀ mode', v.awaits=some (top',mode') → ∃ j, ts[j]? = some v ∧ Blocked ts j := by
    intro v hv mode' hv'
    obtain ⟨j,hj⟩ := List.getElem?_of_mem hv
    obtain ⟨todo,htodo⟩ := awaits_eq hv'
    exact ⟨j,hj,hall j v hj (by simp [htodo])⟩
  -- a writer is kept out by a holder only, and a reader by a holder or a writer
  have hwriter : ∀ v ∈ ts, v.awaits ≠ some (top',.write) := by
    intro v hv hv'
    obtain ⟨j,hj,v',l',mode',hv'',hl',hfree | ⟨hread,_⟩⟩ := hblocked v hv _ hv'
    all_goals
      obtain rfl : v=v' := Option.some.inj (hj.symm.trans hv'')
      rw [hv'] at hl'
      cases hl'
    · exact hheld _ hfree
    · cases hread
  obtain ⟨j,hj,u',l',mode',hu',hl',hfree | ⟨_,k,v,_,hv,hwrite⟩⟩ := hblocked u hu mode hawaits
  all_goals
    obtain rfl : u=u' := Option.some.inj (hj.symm.trans hu')
    rw [hawaits] at hl'
    cases hl'
  · exact hheld _ hfree
  · exact hwriter v (List.mem_of_getElem? hv) hwrite

theorem WellOrdered.run (h : WellOrdered rank ts) {moves : List ℕ}
    (hrun : Run Thread.step (fun _ _ => True) ts moves d) : WellOrdered rank d :=
  hrun.invariant (WellOrdered rank) (fun _ _ _ hc _ hd => hc.step hd) h

end Thread
end RotatorProxy.Library
