import Mathlib.Data.List.Infix

/-! The first part of a stream that ends in a delimiter, found by a search for the delimiter or by
reading on until it is there. -/
namespace RotatorProxy.Library

variable {α : Type*} {delim : List α}

/-- `head` ends in the delimiter, and no shorter part of it does. -/
structure FirstEnd (delim head : List α) : Prop where
  ends : delim <:+ head
  first : ∀ p, p <+: head → delim <:+ p → p=head

namespace FirstEnd

/-- A stream has at most one such part. -/
theorem unique {head head' s : List α} (h : FirstEnd delim head) (h' : FirstEnd delim head')
    (hs : head <+: s) (hs' : head' <+: s) : head=head' := by
  apply (List.prefix_or_prefix_of_prefix hs hs').elim
  · exact fun hp => h'.first head hp h.ends
  · exact fun hp => (h.first head' hp h'.ends).symm

theorem append_inj {head head' rest rest' : List α} (h : FirstEnd delim head)
    (h' : FirstEnd delim head') (heq : head++rest=head'++rest') : head=head' ∧ rest=rest' := by
  have hhead : head=head' := by
    apply h.unique h' (List.prefix_append head rest)
    rw [heq]
    exact List.prefix_append head' rest'
  subst hhead
  exact ⟨rfl,List.append_cancel_left heq⟩

/-- One more element that makes the delimiter appear. -/
theorem concat {p : List α} {a : α} (hno : ∀ q, q <+: p → ¬delim <:+ q) (hends : delim <:+ p++[a]) :
    FirstEnd delim (p++[a]) := by
  refine ⟨hends,fun q hq hd => ?_⟩
  apply (List.prefix_concat_iff.mp hq).resolve_right
  exact fun hp => hno q hp hd

end FirstEnd

variable [DecidableEq α]

/-- Where the delimiter first stands in a list, as `windows(n).position(..)` finds it. -/
def windowPosition (delim : List α) : List α → Option ℕ
  | [] => none
  | a::as => if delim <+: a::as then some 0 else (windowPosition delim as).map (·+1)

lemma windowPosition_none {s : List α} (hne : delim ≠ []) (h : windowPosition delim s = none) :
    ¬delim <:+: s := by
  induction s with
  | nil => simpa using hne
  | cons a as ih =>
    rw [windowPosition] at h
    split_ifs at h with hp
    rw [List.infix_cons_iff]
    exact not_or.mpr ⟨hp,ih (Option.map_eq_none_iff.mp h)⟩

/-- The position splits the list behind the first delimiter. -/
theorem windowPosition_some {s : List α} {n : ℕ} (h : windowPosition delim s = some n) :
    ∃ head rest, s=head++rest ∧ head.length=n+delim.length ∧ FirstEnd delim head := by
  induction s generalizing n with
  | nil => cases h
  | cons a as ih =>
    rw [windowPosition] at h
    split_ifs at h with hp
    · cases h
      obtain ⟨rest,hrest⟩ := hp
      refine ⟨delim,rest,hrest.symm,(Nat.zero_add _).symm,List.suffix_refl _,fun p hp hd => ?_⟩
      exact hp.eq_of_length (Nat.le_antisymm hp.length_le hd.length_le)
    · obtain ⟨m,hm,rfl⟩ := Option.map_eq_some_iff.mp h
      obtain ⟨head,rest,rfl,hlen,hfirst⟩ := ih hm
      refine ⟨a::head,rest,rfl,by rw [List.length_cons]; omega,hfirst.ends.trans (List.suffix_cons a head),?_⟩
      intro p hpre hd
      cases p with
      | nil =>
        rw [List.suffix_nil.mp hd] at hp
        exact absurd List.nil_prefix hp
      | cons b q =>
        obtain ⟨rfl,hq⟩ := List.cons_prefix_cons.mp hpre
        apply congrArg (List.cons b)
        apply (List.suffix_cons_iff.mp hd).elim
        · intro heq
          refine absurd ?_ hp
          rw [heq]
          exact hpre.trans (List.prefix_append (b::head) rest)
        · exact hfirst.first q hq

/-- A search in a longer list still stops behind the first delimiter. -/
theorem FirstEnd.windowPosition {head : List α} (hne : delim ≠ []) (h : FirstEnd delim head)
    (rest : List α) : windowPosition delim (head++rest) = some (head.length-delim.length) := by
  cases hw : Library.windowPosition delim (head++rest) with
  | none =>
    refine absurd ?_ (windowPosition_none hne hw)
    exact h.ends.isInfix.trans (List.prefix_append head rest).isInfix
  | some n =>
    obtain ⟨head',rest',heq,hlen,hfirst⟩ := windowPosition_some hw
    obtain ⟨rfl,_⟩ := h.append_inj hfirst heq
    rw [hlen,Nat.add_sub_cancel]

/-- A search that stops at the end of the list says that all of it is needed. -/
theorem FirstEnd.of_windowPosition {s : List α} {n : ℕ} (h : Library.windowPosition delim s = some n)
    (hlen : n+delim.length=s.length) : FirstEnd delim s := by
  obtain ⟨head,rest,rfl,hhead,hfirst⟩ := windowPosition_some h
  rw [List.length_append,hhead] at hlen
  rw [List.length_eq_zero_iff.mp (by omega : rest.length=0),List.append_nil]
  exact hfirst

end RotatorProxy.Library
