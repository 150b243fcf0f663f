import Mathlib.Algebra.Order.Monoid.Canonical.Defs
import Mathlib.Logic.Hydra

/-! A list of work: its first item is taken, and others are put behind it. When they are all smaller than the
one that was taken, the list is empty after finitely many steps, however many they are each time. -/
namespace RotatorProxy.Library

variable {σ α : Type*} {step : σ → σ} {work : σ → List α} {r : α → α → Prop}

/-- Every step on a list that is not empty replaces its first item by smaller ones. -/
def TakesFirst (step : σ → σ) (work : σ → List α) (r : α → α → Prop) : Prop :=
  ∀ s a rest, work s=a::rest → ∃ new, work (step s)=rest++new ∧ ∀ b ∈ new, r b a

theorem cutExpand_of_replaced {a : α} {rest new : List α} (h : ∀ b ∈ new, r b a) :
    Relation.CutExpand r (Multiset.ofList (rest++new)) (Multiset.ofList (a::rest)) := by
  refine ⟨Multiset.ofList new,a,by simpa using h,?_⟩
  rw [← Multiset.coe_add,← Multiset.cons_coe,← Multiset.singleton_add]
  ac_rfl

theorem TakesFirst.ends (h : TakesFirst step work r) (hr : WellFounded r) (s : σ) : ∃ n, work (step^[n] s)=[] := by
  induction hs : Multiset.ofList (work s) using hr.cutExpand.induction generalizing s with
  | _ items ih =>
    subst hs
    cases hwork : work s with
    | nil => exact ⟨0,hwork⟩
    | cons a rest =>
      obtain ⟨new,hnew,hless⟩ := h s a rest hwork
      obtain ⟨n,hn⟩ := ih (Multiset.ofList (work (step s)))
        (by rw [hwork,hnew]; exact cutExpand_of_replaced hless) (step s) rfl
      exact ⟨n+1,hn⟩

/-! What it comes to. The list is worked off breadth first, but the sum is that over the trees with the items as roots. -/

variable {M : Type*} {offers offers' : α → List α → Prop} {yield : α → M} {out : σ → M}

/-- The sum over some trees: each item is a root with one of the families of children that are offered to it. -/
inductive Unfolds [AddCommMonoid M] (offers : α → List α → Prop) (yield : α → M) : List α → M → Prop
  | nil : Unfolds offers yield [] 0
  | cons {a : α} {new rest : List α} {inner outer : M} (offered : offers a new) (below : Unfolds offers yield new inner)
      (behind : Unfolds offers yield rest outer) : Unfolds offers yield (a::rest) (yield a+inner+outer)

/-- A step adds what the first item yields, and puts behind the list what it is offered. -/
structure WorksOff [AddCommMonoid M] (step : σ → σ) (work : σ → List α) (out : σ → M) (offers : α → List α → Prop)
    (yield : α → M) : Prop where
  idle : ∀ s, work s=[] → out (step s)=out s ∧ work (step s)=[]
  takes : ∀ s a rest, work s=a::rest → ∃ new, offers a new ∧ work (step s)=rest++new ∧ out (step s)=out s+yield a

namespace Unfolds
variable [AddCommMonoid M]

lemma append {as bs : List α} {x y : M} (hx : Unfolds offers yield as x) (hy : Unfolds offers yield bs y) :
    Unfolds offers yield (as++bs) (x+y) := by
  induction hx with
  | nil =>
    rw [zero_add]
    exact hy
  | cons offered below _ _ ih =>
    rw [add_assoc]
    exact .cons offered below ih

lemma of_append {as bs : List α} {m : M} (h : Unfolds offers yield (as++bs) m) :
    ∃ x y, Unfolds offers yield as x ∧ Unfolds offers yield bs y ∧ m=x+y := by
  induction as generalizing m with
  | nil => exact ⟨0,m,.nil,h,(zero_add m).symm⟩
  | cons a as ih =>
    cases h with
    | cons offered below behind =>
      obtain ⟨x,y,hx,hy,rfl⟩ := ih behind
      exact ⟨_,y,.cons offered below hx,hy,(add_assoc _ _ _).symm⟩

lemma mono (hoffers : ∀ a new, offers a new → offers' a new) {as : List α} {m : M} (h : Unfolds offers yield as m) :
    Unfolds offers' yield as m := by
  induction h with
  | nil => exact .nil
  | cons offered _ _ below behind => exact .cons (hoffers _ _ offered) below behind

/-- Where less is offered the sum is smaller. -/
theorem le [PartialOrder M] [IsOrderedAddMonoid M] [CanonicallyOrderedAdd M]
    (hless : ∀ a new more, offers' a new → offers a more → new.Sublist more) {as bs : List α} {x y : M}
    (hx : Unfolds offers' yield as x) (hy : Unfolds offers yield bs y) (hsub : as.Sublist bs) : x ≤ y := by
  induction hy generalizing as x with
  | nil =>
    rw [List.eq_nil_of_sublist_nil hsub] at hx
    cases hx
    exact le_rfl
  | @cons a new rest inner outer offered _ _ hbelow hbehind =>
    cases hsub with
    | cons _ hrest => exact (hbehind hx hrest).trans le_add_self
    | cons_cons _ hrest =>
      cases hx with
      | cons offered' below' behind' =>
        exact add_le_add (add_le_add_right (hbelow below' (hless _ _ _ offered' offered)) _) (hbehind behind' hrest)

end Unfolds

theorem WorksOff.unfolds [AddCommMonoid M] (h : WorksOff step work out offers yield) {n : ℕ} {s : σ}
    (hdone : work (step^[n] s)=[]) : ∃ total, Unfolds offers yield (work s) total ∧ out (step^[n] s)=out s+total := by
  induction n generalizing s with
  | zero => exact ⟨0,hdone ▸ .nil,(add_zero _).symm⟩
  | succ n ih =>
    obtain ⟨total,hunfolds,hout⟩ := ih hdone
    rw [Function.iterate_succ_apply,hout]
    cases hwork : work s with
    | nil =>
      obtain ⟨hsame,hempty⟩ := h.idle s hwork
      rw [hempty] at hunfolds
      cases hunfolds
      exact ⟨0,.nil,congrArg (·+0) hsame⟩
    | cons a rest =>
      obtain ⟨new,offered,hnew,hyield⟩ := h.takes s a rest hwork
      rw [hnew] at hunfolds
      obtain ⟨outer,inner,hbehind,hbelow,rfl⟩ := hunfolds.of_append
      refine ⟨_,.cons offered hbelow hbehind,?_⟩
      rw [hyield,add_assoc,add_assoc,add_comm inner]

end RotatorProxy.Library
