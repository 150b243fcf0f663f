import RotatorProxy.Library.Run
import Mathlib.Algebra.Order.Group.Multiset
import Mathlib.Tactic.Abel

/-! Concurrent calls cut into atomic sections. A section changes the shared state and may say which
sections its call still has to run first; between two sections of one call any other call may run.
The calls in flight are kept in the order in which they last ran a section. -/
namespace RotatorProxy.Library

/-- What one section does. `enabled` is false while the section waits for a lock, and
`startable` says which sections may begin a call. -/
structure Sections (σ α : Type*) where
  enabled : α → σ → Bool
  startable : α → σ → Bool
  exec : α → σ → σ × List α

/-- The shared state and what each call in flight still has to run. -/
structure InFlight (σ α : Type*) where
  shared : σ
  calls : List (List α)

inductive Move (α : Type*)
  | start (a : α)
  | resume (i : ℕ)

namespace Sections
variable {σ α : Type*} (S : Sections σ α)

def step (c : InFlight σ α) : Move α → Option (InFlight σ α)
  | .start a => if S.startable a c.shared then some ⟨c.shared,c.calls++[[a]]⟩ else none
  | .resume i =>
    match c.calls[i]? with
    | some (a::rest) =>
      if S.enabled a c.shared then
        some ⟨(S.exec a c.shared).1,c.calls.eraseIdx i++[(S.exec a c.shared).2++rest]⟩
      else none
    | _ => none

/-- Every call has returned. -/
def Quiescent (c : InFlight σ α) : Prop := ∀ call ∈ c.calls, call=[]

/-- The sections that the calls in flight still have to run. -/
def pending (c : InFlight σ α) : List α := c.calls.flatten

lemma Quiescent.pending {c : InFlight σ α} (h : Quiescent c) : pending c=[] :=
  List.flatten_eq_nil_iff.mpr h

lemma pending_start (s : σ) (calls : List (List α)) (a : α) :
    pending ⟨s,calls++[[a]]⟩=calls.flatten++[a] := by
  simp [Sections.pending]

/-- A section that runs is no longer to be run, but those are that it leaves. -/
lemma pending_resume (s t : σ) (xs ys : List (List α)) (a : α) (more rest : List α) :
    (a::pending ⟨t,xs++ys++[more++rest]⟩).Perm (more++pending ⟨s,xs++(a::rest)::ys⟩) := by
  rw [← Multiset.coe_eq_coe]
  simp only [Sections.pending,List.flatten_append,List.flatten_cons,List.flatten_nil,List.append_nil,
    List.cons_append,← Multiset.coe_add,← Multiset.cons_coe,← Multiset.singleton_add]
  abel

instance (c : InFlight σ α) : Decidable (Quiescent c) :=
  decidable_of_iff (∀ call ∈ c.calls, call.isEmpty = true) (by simp [Quiescent])

/-- After a section each call is one of before, or the one that has run it. -/
lemma call_of_resume {xs ys : List (List α)} {a : α} {more rest call : List α}
    (h : call ∈ xs++ys++[more++rest]) : call ∈ xs++(a::rest)::ys ∨ call=more++rest := by
  simp only [List.mem_append,List.mem_cons,List.not_mem_nil,or_false] at h ⊢
  obtain (hxs | hys) | hmore := h
  · exact .inl (.inl hxs)
  · exact .inl (.inr (.inr hys))
  · exact .inr hmore

lemma start_cases {c d : InFlight σ α} {a : α} (h : S.step c (.start a) = some d) :
    S.startable a c.shared = true ∧ d=⟨c.shared,c.calls++[[a]]⟩ := by
  simp only [step] at h
  split at h
  · next hs => exact ⟨hs,(Option.some.inj h).symm⟩
  · cases h

/-- All a resumed call can do: its next section runs, and the call moves to the end. -/
lemma resume_cases {c d : InFlight σ α} {i : ℕ} (h : S.step c (.resume i) = some d) :
    ∃ xs a rest ys, c.calls=xs++(a::rest)::ys ∧ xs.length=i ∧ S.enabled a c.shared = true ∧
      d=⟨(S.exec a c.shared).1,xs++ys++[(S.exec a c.shared).2++rest]⟩ := by
  simp only [step] at h
  split at h
  · next a rest hi =>
    split at h
    · next he =>
      obtain ⟨hlt,hget⟩ := List.getElem?_eq_some_iff.mp hi
      refine ⟨c.calls.take i,a,rest,c.calls.drop (i+1),?_,?_,he,?_⟩
      · rw [← hget,List.getElem_cons_drop,List.take_append_drop]
      · rw [List.length_take]
        omega
      · rw [← Option.some.inj h,List.eraseIdx_eq_take_drop_succ]
    · cases h
  · cases h

/-- The section that a move runs, with the shared state it finds. -/
def ran (c : InFlight σ α) : Move α → List (α × σ)
  | .start _ => []
  | .resume i => ((c.calls[i]?.bind List.head?).map (fun a => (a,c.shared))).toList

/-- The sections that have run, in their order, each with the shared state it found. -/
def trace : InFlight σ α → List (Move α) → List (α × σ)
  | _,[] => []
  | c,move::moves =>
    match S.step c move with
    | some d => ran c move++trace d moves
    | none => []

lemma ran_resume {c : InFlight σ α} {xs ys : List (List α)} {a : α} {rest : List α}
    (h : c.calls=xs++(a::rest)::ys) : ran c (.resume xs.length)=[(a,c.shared)] := by
  simp [ran,h]

/-- A property of the state and of the sections that have run so far. -/
theorem traced {guard : InFlight σ α → Move α → Prop} (Q : List (α × σ) → InFlight σ α → Prop)
    (hstep : ∀ past c move d, Q past c → guard c move → S.step c move=some d → Q (past++ran c move) d)
    {c d : InFlight σ α} {moves : List (Move α)} (h : Run S.step guard c moves d)
    (past : List (α × σ)) (hc : Q past c) : Q (past++S.trace c moves) d := by
  induction h generalizing past with
  | nil c => simpa [trace] using hc
  | cons taken allowed tail ih =>
    rw [trace,taken]
    dsimp only
    rw [← List.append_assoc]
    exact ih _ (hstep past _ _ _ hc allowed taken)

/-- A call that runs with nothing else in between. -/
inductive Alone : List α → σ → σ → Prop
  | done (s : σ) : Alone [] s s
  | cons {a : α} {rest : List α} {s t : σ} (free : S.enabled a s = true)
      (tail : Alone ((S.exec a s).2++rest) (S.exec a s).1 t) : Alone (a::rest) s t

variable {S}

lemma Alone.nil_eq {s t : σ} (h : S.Alone [] s t) : t=s := by
  cases h
  rfl

lemma Alone.tail {a : α} {rest : List α} {s t : σ} (h : S.Alone (a::rest) s t) :
    S.Alone ((S.exec a s).2++rest) (S.exec a s).1 t := by
  cases h
  assumption

end Sections
end RotatorProxy.Library
