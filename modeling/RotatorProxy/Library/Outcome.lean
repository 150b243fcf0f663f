import Mathlib.Data.List.Forall2

/-! A chain of steps that may fail, taken apart into its steps. -/
namespace RotatorProxy.Library

variable {ε α β : Type*} {x : Except ε α} {e : ε}

theorem bind_eq_ok {f : α → Except ε β} {b : β} :
    x.bind f = .ok b ↔ ∃ a, x = .ok a ∧ f a = .ok b := by
  cases x with
  | error e' => simp [Except.bind]
  | ok a => simp [Except.bind]

theorem bind_eq_error {f : α → Except ε β} :
    x.bind f = .error e ↔ x = .error e ∨ ∃ a, x = .ok a ∧ f a = .error e := by
  cases x with
  | error e' => simp [Except.bind]
  | ok a => simp [Except.bind]

theorem map_eq_ok {f : α → β} {b : β} : x.map f = .ok b ↔ ∃ a, x = .ok a ∧ f a=b := by
  cases x with
  | error e' => simp [Except.map]
  | ok a => simp [Except.map]

theorem map_eq_error {f : α → β} : x.map f = .error e ↔ x = .error e := by
  cases x with
  | error e' => simp [Except.map]
  | ok a => simp [Except.map]

theorem exists_map_ok {f : α → β} : (∃ b, x.map f = .ok b) ↔ ∃ a, x = .ok a := by
  cases x with
  | error e' => simp [Except.map]
  | ok a => simp [Except.map]

/-- Two chains are compared after their common first step. -/
theorem map_bind_congr {γ δ : Type*} {f : α → Except ε β} {f' : α → Except ε δ} {g : β → γ} {g' : δ → γ}
    (h : ∀ a, (f a).map g=(f' a).map g') : (x.bind f).map g=(x.bind f').map g' := by
  cases x with
  | error e' => rfl
  | ok a => exact h a

/-! Lists that are related place by place -/

section
variable {R : α → β → Prop} {l : List α} {u : List β}

theorem exists_of_forall₂ (h : List.Forall₂ R l u) {b : β} (hb : b ∈ u) : ∃ a ∈ l, R a b := by
  induction h with
  | nil => cases hb
  | @cons a b' l u hab _ ih =>
    rcases List.mem_cons.mp hb with rfl | hb
    · exact ⟨a,List.mem_cons_self,hab⟩
    · obtain ⟨a',ha',hR⟩ := ih hb
      exact ⟨a',List.mem_cons_of_mem _ ha',hR⟩

/-- What different elements are related to is different. -/
theorem nodup_of_forall₂ (hR : ∀ a a' b, R a b → R a' b → a=a') (h : List.Forall₂ R l u) (hl : l.Nodup) : u.Nodup := by
  induction h with
  | nil => exact List.nodup_nil
  | @cons a b l u hab htail ih =>
    obtain ⟨ha,hl⟩ := List.nodup_cons.mp hl
    refine List.nodup_cons.mpr ⟨fun hb => ?_,ih hl⟩
    obtain ⟨a',ha',hab'⟩ := exists_of_forall₂ htail hb
    rw [hR a a' b hab hab'] at ha
    exact ha ha'

end

/-- A list of steps succeeds with what each of its steps gives. -/
theorem mapM_eq_ok {f : α → Except ε β} {l : List α} {bs : List β} :
    l.mapM f = .ok bs ↔ List.Forall₂ (fun a b => f a = .ok b) l bs := by
  induction l generalizing bs with
  | nil =>
    rw [List.forall₂_nil_left_iff]
    exact ⟨fun h => (Except.ok.inj h).symm,fun h => congrArg Except.ok h.symm⟩
  | cons a l ih =>
    rw [List.mapM_cons,List.forall₂_cons_left_iff]
    constructor
    · intro h
      obtain ⟨b,hb,h⟩ := bind_eq_ok.mp h
      obtain ⟨rest,hrest,h⟩ := bind_eq_ok.mp h
      exact ⟨b,rest,hb,ih.mp hrest,(Except.ok.inj h).symm⟩
    · rintro ⟨b,rest,hb,hrest,rfl⟩
      exact bind_eq_ok.mpr ⟨b,hb,bind_eq_ok.mpr ⟨rest,ih.mpr hrest,rfl⟩⟩

/-! The same of optional results -/

theorem any_const {x : Option α} {b : Bool} : x.any (fun _ => b)=(x.isSome && b) := by
  cases x with
  | none => rfl
  | some a => rfl

theorem mapM_isSome_iff {f : α → Option β} {l : List α} : (l.mapM f).isSome ↔ ∀ a ∈ l, (f a).isSome := by
  induction l with
  | nil => simp
  | cons a l ih => simp [List.mapM_cons,Option.isSome_bind,any_const,ih]

theorem mem_of_mapM {f : α → Option β} {l : List α} {bs : List β} (h : l.mapM f=some bs) :
    ∀ b ∈ bs, ∃ a ∈ l, f a=some b := by
  induction l generalizing bs with
  | nil =>
    cases h
    simp
  | cons a l ih =>
    rw [List.mapM_cons] at h
    obtain ⟨first,hfirst,h⟩ := Option.bind_eq_some_iff.mp h
    obtain ⟨rest,hrest,h⟩ := Option.bind_eq_some_iff.mp h
    cases h
    intro b hb
    obtain rfl | hb := List.mem_cons.mp hb
    · exact ⟨a,List.mem_cons_self,hfirst⟩
    · obtain ⟨a',ha',heq⟩ := ih hrest b hb
      exact ⟨a',List.mem_cons_of_mem _ ha',heq⟩

theorem findSome?_congr {f g : α → Option β} {l : List α} (h : ∀ a ∈ l, f a=g a) :
    l.findSome? f=l.findSome? g := by
  induction l with
  | nil => rfl
  | cons a l ih =>
    rw [List.findSome?_cons,List.findSome?_cons,h a List.mem_cons_self,
      ih fun b hb => h b (List.mem_cons_of_mem _ hb)]

end RotatorProxy.Library
