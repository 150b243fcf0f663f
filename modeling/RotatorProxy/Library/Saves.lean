import Mathlib.Data.List.Basic
import Mathlib.Order.Monotone.Basic

/-! A file that is to show some view of a state which goes on changing. A save reads the view at one
moment and writes the file at a later one, so the file may lag behind, but never turns back. -/
namespace RotatorProxy.Library

variable {σ φ : Type*} {view file : σ → φ} {states past : List σ} {s t r : σ} {shown : ℕ → ℕ}
  {held : Option φ}

/-- At every moment the file shows the view of a moment before it, and later on of later moments. -/
structure Shows (view file : σ → φ) (states : List σ) (shown : ℕ → ℕ) : Prop where
  mono : Monotone shown
  le (i : ℕ) : shown i ≤ i
  shows (i : ℕ) (s : σ) : states[i]? = some s → ∃ t, states[shown i]? = some t ∧ file s=view t

def Follows (view file : σ → φ) (states : List σ) : Prop := ∃ shown, Shows view file states shown

/-- The file follows, and would not turn back if it were now written with what is held. -/
def FollowsHolding (view file : σ → φ) (held : Option φ) (past : List σ) (s : σ) : Prop :=
  ∃ shown, Shows view file (past++[s]) shown ∧
    ∀ v, held=some v → ∃ read t, shown past.length ≤ read ∧ (past++[s])[read]? = some t ∧ v=view t

lemma getElem?_snoc_of_some {l : List σ} {i : ℕ} (h : l[i]? = some s) (t : σ) :
    (l++[t])[i]? = some s := by
  rw [List.getElem?_append_left (List.getElem?_eq_some_iff.mp h).1,h]

/-- One more moment, at which the file shows the view of the moment `next`. -/
lemma Shows.extend (h : Shows view file (past++[s]) shown) {next : ℕ} (hle : shown past.length ≤ next)
    (hnext : (past++[s])[next]? = some r) (hfile : file t=view r) :
    Shows view file (past++[s]++[t]) (fun i => if i ≤ past.length then shown i else next) := by
  have hlt : next < past.length+1 := by
    simpa using (List.getElem?_eq_some_iff.mp hnext).1
  refine ⟨?_,?_,?_⟩
  · intro i j hij
    have hmono := h.mono hij
    dsimp only
    split_ifs with hi hj
    · exact hmono
    · exact (h.mono hi).trans hle
    · omega
    · exact le_refl _
  · intro i
    have hi := h.le i
    split_ifs <;> omega
  · intro i u hu
    split_ifs with hi
    · rw [List.getElem?_append_left (by simpa using Nat.lt_succ_of_le hi)] at hu
      obtain ⟨v,hv,heq⟩ := h.shows i u hu
      exact ⟨v,getElem?_snoc_of_some hv t,heq⟩
    · obtain rfl : i=(past++[s]).length := by
        have hlast := (List.getElem?_eq_some_iff.mp hu).1
        simp only [List.length_append,List.length_singleton] at hlast ⊢
        omega
      obtain rfl : t=u := by simpa using hu
      exact ⟨r,getElem?_snoc_of_some hnext t,hfile⟩

namespace FollowsHolding

theorem follows (h : FollowsHolding view file held past s) : Follows view file (past++[s]) := by
  obtain ⟨shown,hshows,_⟩ := h
  exact ⟨shown,hshows⟩

theorem start (h : file s=view s) : FollowsHolding view file none [] s := by
  refine ⟨id,⟨monotone_id,fun i => le_refl i,?_⟩,fun v hv => (by cases hv)⟩
  intro i u hu
  cases i with
  | zero =>
    cases hu
    exact ⟨s,rfl,h⟩
  | succ i => simp at hu

/-- The file is left alone: what is held stays, or the view of the new state is read. -/
theorem step (h : FollowsHolding view file held past s) (hfile : file t=file s) {held' : Option φ}
    (hheld : held'=held ∨ held'=some (view t)) : FollowsHolding view file held' (past++[s]) t := by
  obtain ⟨shown,hshows,hread⟩ := h
  obtain ⟨r,hr,hs⟩ := hshows.shows past.length s (by simp)
  refine ⟨_,hshows.extend (le_refl _) hr (hfile.trans hs),?_⟩
  intro v hv
  have hnot : ¬(past++[s]).length ≤ past.length := by simp
  rw [if_neg hnot]
  obtain rfl | rfl := hheld
  · obtain ⟨read,u,hle,hu,heq⟩ := hread v hv
    exact ⟨read,u,hle,getElem?_snoc_of_some hu t,heq⟩
  · refine ⟨(past++[s]).length,t,?_,by simp,(Option.some.inj hv).symm⟩
    exact (hshows.le _).trans (by simp)

/-- What is held is written. -/
theorem write {v : φ} (h : FollowsHolding view file (some v) past s) (hfile : file t=v) :
    FollowsHolding view file none (past++[s]) t := by
  obtain ⟨shown,hshows,hread⟩ := h
  obtain ⟨read,r,hle,hr,heq⟩ := hread v rfl
  exact ⟨_,hshows.extend hle hr (hfile.trans heq),fun v hv => (by cases hv)⟩

end FollowsHolding
end RotatorProxy.Library
