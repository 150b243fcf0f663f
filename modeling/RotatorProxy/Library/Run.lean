import Mathlib.Data.List.Basic

/-! Finite runs of a partial step function. A guard restricts which events may be taken, so an
invariant of the guarded steps is proved once and then holds at the end of every guarded run. -/
namespace RotatorProxy.Library

variable {σ ε : Type*} {step : σ → ε → Option σ} {guard : σ → ε → Prop}

/-- Every event is accepted by `step`, and the guard holds of the state just before it. -/
inductive Run (step : σ → ε → Option σ) (guard : σ → ε → Prop) : σ → List ε → σ → Prop
  | nil (s : σ) : Run step guard s [] s
  | cons {s t u : σ} {e : ε} {es : List ε} (taken : step s e = some t) (allowed : guard s e)
      (tail : Run step guard t es u) : Run step guard s (e::es) u

/-- The states that the events lead through, the last one left out. -/
def passed (step : σ → ε → Option σ) : σ → List ε → List σ
  | _,[] => []
  | s,e::es => s::match step s e with
    | some t => passed step t es
    | none => []

namespace Run

theorem append {s t u : σ} {es fs : List ε} (h : Run step guard s es t) (h' : Run step guard t fs u) :
    Run step guard s (es++fs) u := by
  induction h with
  | nil s => exact h'
  | cons taken allowed tail ih => exact Run.cons taken allowed (ih h')

theorem snoc {s t u : σ} {es : List ε} {e : ε} (h : Run step guard s es t)
    (taken : step t e = some u) (allowed : guard t e) : Run step guard s (es++[e]) u :=
  h.append (Run.cons taken allowed (Run.nil u))

/-- A run keeps to every guard that its own guard implies. -/
theorem mono {guard' : σ → ε → Prop} (hguard : ∀ s e, guard s e → guard' s e) {s t : σ} {es : List ε}
    (h : Run step guard s es t) : Run step guard' s es t := by
  induction h with
  | nil s => exact Run.nil s
  | cons taken allowed tail ih => exact Run.cons taken (hguard _ _ allowed) ih

theorem invariant (I : σ → Prop) (hstep : ∀ s e t, I s → guard s e → step s e = some t → I t)
    {s t : σ} {es : List ε} (h : Run step guard s es t) (hs : I s) : I t := by
  induction h with
  | nil s => exact hs
  | cons taken allowed tail ih => exact ih (hstep _ _ _ hs allowed taken)

/-- An invariant that may also speak of the events taken so far. -/
theorem history (Q : List ε → σ → Prop)
    (hstep : ∀ es s e t, Q es s → guard s e → step s e = some t → Q (es++[e]) t)
    {s t : σ} {es : List ε} (h : Run step guard s es t) (past : List ε) (hs : Q past s) :
    Q (past++es) t := by
  induction h generalizing past with
  | nil s => simpa using hs
  | @cons s t u e es taken allowed tail ih =>
    have hnext := ih (past++[e]) (hstep past s e t hs allowed taken)
    simpa using hnext

/-- A relation that every step extends and that composes relates the two ends of a run. -/
theorem relates (R : σ → σ → Prop) (hrefl : ∀ s, R s s) (htrans : ∀ s t u, R s t → R t u → R s u)
    (hstep : ∀ s e t, guard s e → step s e = some t → R s t) {s t : σ} {es : List ε}
    (h : Run step guard s es t) : R s t := by
  induction h with
  | nil s => exact hrefl s
  | cons taken allowed tail ih => exact htrans _ _ _ (hstep _ _ _ allowed taken) ih

/-- No run is longer than what its steps use up. -/
theorem length_le (left : σ → ℕ) (hstep : ∀ s e t, step s e = some t → left t < left s) {s t : σ} {es : List ε}
    (h : Run step guard s es t) : es.length+left t ≤ left s := by
  induction h with
  | nil s => simp
  | @cons s t u e es taken allowed tail ih =>
    have hless := hstep s e t taken
    rw [List.length_cons]
    omega

/-- A property that is lost during a run is lost at one of its steps. -/
theorem lost_at (p : σ → Prop) {s u : σ} {es : List ε} (h : Run step guard s es u)
    (hs : p s) (hu : ¬p u) :
    ∃ pre e post a b, es=pre++e::post ∧ Run step guard s pre a ∧ step a e = some b ∧ guard a e ∧
      Run step guard b post u ∧ p a ∧ ¬p b := by
  induction h with
  | nil s => exact absurd hs hu
  | @cons s t u e es taken allowed tail ih =>
    by_cases ht : p t
    · obtain ⟨pre,f,post,a,b,rfl,hpre,hab,hg,hpost,ha,hb⟩ := ih ht hu
      exact ⟨e::pre,f,post,a,b,rfl,Run.cons taken allowed hpre,hab,hg,hpost,ha,hb⟩
    · exact ⟨[],e,es,s,t,rfl,Run.nil s,taken,allowed,tail,hs,ht⟩

/-- An invariant that may also speak of the states gone through before. -/
theorem visits (Q : List σ → σ → Prop)
    (hstep : ∀ past s e t, Q past s → guard s e → step s e = some t → Q (past++[s]) t)
    {s t : σ} {es : List ε} (h : Run step guard s es t) (past : List σ) (hs : Q past s) :
    Q (past++passed step s es) t := by
  induction h generalizing past with
  | nil s => simpa [passed] using hs
  | @cons s t u e es taken allowed tail ih =>
    have hnext := ih (past++[s]) (hstep past s e t hs allowed taken)
    rw [passed,taken]
    simpa using hnext

/-- A run that is computed, with a check of the guard before each step. -/
theorem of_checked (ok : σ → ε → Bool) (hok : ∀ s e, ok s e = true → guard s e) {s t : σ} {es : List ε}
    (h : es.foldlM (fun s e => if ok s e then step s e else none) s=some t) : Run step guard s es t := by
  induction es generalizing s with
  | nil =>
    cases h
    exact Run.nil _
  | cons e es ih =>
    rw [List.foldlM_cons] at h
    obtain ⟨u,hu,hrest⟩ := Option.bind_eq_some_iff.mp h
    split_ifs at hu with hguard
    exact Run.cons hu (hok _ e hguard) (ih hrest)

end Run

/-- However the events come, there are no more than so many, and without another one it is done. -/
def EndsWithin (step : σ → ε → Option σ) (guard : σ → ε → Prop) (done : σ → Prop) (s : σ) (bound : ℕ) : Prop :=
  ∀ es t, Run step guard s es t → es.length ≤ bound ∧ (done t ∨ ∃ e, guard t e ∧ (step t e).isSome = true)

/-- Such a run can be completed. -/
theorem EndsWithin.reaches {done : σ → Prop} {s : σ} {bound : ℕ} (h : EndsWithin step guard done s bound) :
    ∃ es t, Run step guard s es t ∧ done t := by
  suffices hfrom : ∀ left es t, Run step guard s es t → bound-es.length ≤ left →
      ∃ es t, Run step guard s es t ∧ done t from hfrom bound [] s (Run.nil s) (Nat.sub_le _ _)
  intro left
  induction left with
  | zero =>
    intro es t hrun hleft
    obtain ⟨_,hdone | ⟨e,hallowed,htaken⟩⟩ := h es t hrun
    · exact ⟨es,t,hrun,hdone⟩
    · -- there is no room for one more event
      obtain ⟨u,hu⟩ := Option.isSome_iff_exists.mp htaken
      obtain ⟨hlen,_⟩ := h _ u (hrun.snoc hu hallowed)
      rw [List.length_append,List.length_singleton] at hlen
      omega
  | succ left ih =>
    intro es t hrun hleft
    obtain ⟨_,hdone | ⟨e,hallowed,htaken⟩⟩ := h es t hrun
    · exact ⟨es,t,hrun,hdone⟩
    · obtain ⟨u,hu⟩ := Option.isSome_iff_exists.mp htaken
      refine ih _ u (hrun.snoc hu hallowed) ?_
      rw [List.length_append,List.length_singleton]
      omega

end RotatorProxy.Library
