import Mathlib.Data.List.Basic
import Mathlib.Logic.Function.Basic

/-! Actions that change one entry of a function each. When no two of them have the same key, every entry has seen its own
action and no other. -/
namespace RotatorProxy.Library

variable {κ ε α : Type*}

/-- One action after the other -/
def actAll [DecidableEq κ] (act : ε → α → α) (f : κ → α) (actions : List (κ × ε)) : κ → α :=
  actions.foldl (fun f action => Function.update f action.1 (act action.2 (f action.1))) f

variable [BEq κ] [LawfulBEq κ]

lemma lookup_cons_ne {k k' : κ} (h : k ≠ k') (e : ε) (actions : List (κ × ε)) :
    ((k',e)::actions).lookup k=actions.lookup k := by
  rw [List.lookup_cons,beq_eq_false_iff_ne.mpr h]

lemma lookup_of_notMem {k : κ} {actions : List (κ × ε)} (h : k ∉ actions.map Prod.fst) : actions.lookup k=none := by
  rw [List.lookup_eq_none_iff]
  intro action hmem
  exact bne_iff_ne.mpr (fun heq => h (List.mem_map.mpr ⟨action,hmem,heq.symm⟩))

lemma mem_of_lookup {k : κ} {e : ε} {actions : List (κ × ε)} (h : actions.lookup k=some e) : (k,e) ∈ actions := by
  obtain ⟨before,after,rfl,-⟩ := List.lookup_eq_some_iff.mp h
  exact List.mem_append_right _ List.mem_cons_self

theorem actAll_apply [DecidableEq κ] (act : ε → α → α) (f : κ → α) {actions : List (κ × ε)}
    (hnodup : (actions.map Prod.fst).Nodup) (k : κ) :
    actAll act f actions k=(actions.lookup k).elim (f k) (fun e => act e (f k)) := by
  induction actions generalizing f with
  | nil => rfl
  | cons action actions ih =>
    obtain ⟨k',e⟩ := action
    obtain ⟨hnot,hrest⟩ := List.nodup_cons.mp hnodup
    change actAll act (Function.update f k' (act e (f k'))) actions k=_
    rw [ih _ hrest]
    by_cases hk : k=k'
    · subst hk
      rw [List.lookup_cons_self,lookup_of_notMem hnot]
      exact Function.update_self _ _ _
    · rw [lookup_cons_ne hk,Function.update_of_ne hk]

end RotatorProxy.Library
