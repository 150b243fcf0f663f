import Mathlib.Data.List.Infix

/-! Where a pattern can occur in a list put together from parts: parts that no occurrence touches can
be left out. -/
namespace RotatorProxy.Library

variable {α : Type*}

/-- No occurrence of `pat` can begin inside `pre`, whatever follows. -/
def Inert (pat pre : List α) : Prop := ∀ u ∈ pre.tails, u ≠ [] → ¬u <+: pat ∧ ¬pat <+: u

instance [DecidableEq α] (pat pre : List α) : Decidable (Inert pat pre) := List.decidableBAll _ _

theorem infix_inert_append {pat pre : List α} (h : Inert pat pre) (s : List α) :
    pat <:+: pre++s ↔ pat <:+: s := by
  induction pre with
  | nil => rfl
  | cons a pre ih =>
    have hhead := h (a::pre) ((List.mem_tails _ _).mpr (List.suffix_refl _)) (List.cons_ne_nil _ _)
    have htail : Inert pat pre := by
      intro u hu
      apply h u
      exact (List.mem_tails _ _).mpr (((List.mem_tails _ _).mp hu).trans (List.suffix_cons a pre))
    rw [List.cons_append,List.infix_cons_iff,ih htail]
    constructor
    · intro hs
      apply hs.resolve_left
      intro hprefix
      exact (List.prefix_or_prefix_of_prefix hprefix (List.prefix_append (a::pre) s)).elim
        hhead.2 hhead.1
    · exact .inr

/-- A part without the pattern's first element. -/
theorem inert_of_notMem {a : α} {pat pre : List α} (h : a ∉ pre) : Inert (a::pat) pre := by
  intro u hu hne
  obtain ⟨b,us,rfl⟩ := List.exists_cons_of_ne_nil hne
  have hb : b ≠ a := by
    rintro rfl
    exact h (((List.mem_tails _ _).mp hu).subset List.mem_cons_self)
  constructor
  · exact fun hp => hb (List.cons_prefix_cons.mp hp).1
  · exact fun hp => hb (List.cons_prefix_cons.mp hp).1.symm

theorem infix_append_of_notMem_left {a : α} {pat pre : List α} (h : a ∉ pre) (s : List α) :
    a::pat <:+: pre++s ↔ a::pat <:+: s :=
  infix_inert_append (inert_of_notMem h) s

/-- A part behind the list, without the pattern's last element. -/
theorem infix_append_of_notMem_right {a : α} {pat post : List α} (h : a ∉ post) (s : List α) :
    pat++[a] <:+: s++post ↔ pat++[a] <:+: s := by
  have hleft : a::pat.reverse <:+: post.reverse++s.reverse ↔ a::pat.reverse <:+: s.reverse :=
    infix_append_of_notMem_left (by rwa [List.mem_reverse]) s.reverse
  rw [← List.reverse_append,← List.reverse_concat',List.reverse_infix,List.reverse_infix] at hleft
  exact hleft

end RotatorProxy.Library
