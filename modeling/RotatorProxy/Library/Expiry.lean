import Mathlib.Data.List.Basic

/-! States in which something expires with time, and in which an expiry is written down only when
somebody looks. The looks of a run can be left out: what is left over for every later look is the
same. -/
namespace RotatorProxy.Library

/-- `settle now` writes down all that has expired at `now`; `act now e` is the event `e` at `now`. -/
structure LazyExpiry (ρ ε : Type*) where
  settle : ℕ → ρ → ρ
  act : ℕ → ε → ρ → ρ
  /-- A later look finds what an earlier one would have found. -/
  settle_later : ∀ {t t' : ℕ} (r : ρ), t ≤ t' → settle t' (settle t r)=settle t' r
  /-- An event does the same to a state that has just been looked at. -/
  act_settled : ∀ (t : ℕ) (e : ε) (r : ρ), settle t (act t e (settle t r))=settle t (act t e r)

namespace LazyExpiry
variable {ρ ε : Type*} (L : LazyExpiry ρ ε) {t t₀ : ℕ} {r s : ρ}

/-- One step at a time: a look, or an event. -/
def perform (r : ρ) : ℕ × Option ε → ρ
  | (now,none) => L.settle now r
  | (now,some e) => L.act now e r

def run (r : ρ) (steps : List (ℕ × Option ε)) : ρ := steps.foldl L.perform r

/-- The events of a run with their times. -/
def events : List (ℕ × Option ε) → List (ℕ × ε)
  | [] => []
  | (_,none)::steps => events steps
  | (now,some e)::steps => (now,e)::events steps

/-- The events alone, one after the other. -/
def apply (r : ρ) (es : List (ℕ × ε)) : ρ := es.foldl (fun r e => L.act e.1 e.2 r) r

@[simp] lemma run_nil (r : ρ) : L.run r []=r := rfl

lemma run_append (r : ρ) (steps steps' : List (ℕ × Option ε)) :
    L.run r (steps++steps')=L.run (L.run r steps) steps' := List.foldl_append

@[simp] lemma events_append (steps steps' : List (ℕ × Option ε)) :
    events (steps++steps')=events steps++events steps' := by
  induction steps with
  | nil => rfl
  | cons step steps ih =>
    obtain ⟨now,_ | e⟩ := step
    · exact ih
    · exact congrArg (fun es => (now,e)::es) ih

/-- Nobody can tell the two states apart from `t` on. -/
def Alike (t : ℕ) (r s : ρ) : Prop := L.settle t r=L.settle t s

variable {L}

lemma Alike.later (h : L.Alike t₀ r s) (hle : t₀ ≤ t) : L.Alike t r s := by
  unfold Alike at *
  rw [← L.settle_later r hle,h,L.settle_later s hle]

/-- A look on one side only. -/
lemma Alike.look (h : L.Alike t r s) : L.Alike t (L.settle t r) s := by
  unfold Alike at *
  rw [L.settle_later r (Nat.le_refl t),h]

/-- The same event on both sides. -/
lemma Alike.act (h : L.Alike t r s) (e : ε) : L.Alike t (L.act t e r) (L.act t e s) := by
  unfold Alike at *
  rw [← L.act_settled t e r,h,L.act_settled t e s]

/-- A run is like its events alone. The induction is on the steps; what is alike at the time of one
step is alike at the time of the next. -/
theorem Alike.run {steps : List (ℕ × Option ε)} (h : L.Alike t₀ r s)
    (hsorted : steps.Pairwise (fun a b => a.1 ≤ b.1)) (hfrom : ∀ step ∈ steps, t₀ ≤ step.1)
    (hto : ∀ step ∈ steps, step.1 ≤ t) (hle : t₀ ≤ t) :
    L.Alike t (L.run r steps) (L.apply s (events steps)) := by
  induction steps generalizing r s t₀ with
  | nil => exact h.later hle
  | cons step steps ih =>
    obtain ⟨hfirst,hrest⟩ := List.pairwise_cons.mp hsorted
    have hnow := h.later (hfrom step List.mem_cons_self)
    have hlast := hto step List.mem_cons_self
    have htail := fun a ha => hto a (List.mem_cons_of_mem step ha)
    obtain ⟨now,_ | e⟩ := step
    · exact ih hnow.look hrest hfirst htail hlast
    · exact ih (hnow.act e) hrest hfirst htail hlast

/-- Two runs with the same events are alike, however often and whenever each of them looks. -/
theorem alike_of_events {steps steps' : List (ℕ × Option ε)}
    (hsorted : steps.Pairwise (fun a b => a.1 ≤ b.1)) (hsorted' : steps'.Pairwise (fun a b => a.1 ≤ b.1))
    (hto : ∀ step ∈ steps, step.1 ≤ t) (hto' : ∀ step ∈ steps', step.1 ≤ t)
    (hsame : events steps=events steps') (r : ρ) : L.Alike t (L.run r steps) (L.run r steps') := by
  have hrefl : L.Alike 0 r r := rfl
  have h := hrefl.run hsorted (fun _ _ => Nat.zero_le _) hto (Nat.zero_le t)
  have h' := hrefl.run hsorted' (fun _ _ => Nat.zero_le _) hto' (Nat.zero_le t)
  rw [← hsame] at h'
  exact h.trans h'.symm

end LazyExpiry
end RotatorProxy.Library
