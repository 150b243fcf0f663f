import Mathlib.Data.List.Infix

/-! Lists put together from fields: when two of them are equal although their fields are not. A field then
goes on where the other one stops, over what separates it from the next. -/
namespace RotatorProxy.Library

variable {α : Type*} {a b s t : List α} {sep : α}

/-- The field `b` is longer than `a`, and what it has more is what `s` begins with. -/
def RunsOver (a s b t : List α) : Prop := ∃ y, y ≠ [] ∧ b=a++y ∧ s=y++t

/-- One of the two fields goes on over the beginning of what follows the other. -/
def Shifted (a s b t : List α) : Prop := RunsOver a s b t ∨ RunsOver b t a s

theorem RunsOver.append_eq (h : RunsOver a s b t) : a++s=b++t := by
  obtain ⟨y,_,rfl,rfl⟩ := h
  exact (List.append_assoc a y t).symm

theorem RunsOver.length_lt (h : RunsOver a s b t) : t.length < s.length := by
  obtain ⟨y,hy,rfl,rfl⟩ := h
  rw [List.length_append]
  exact Nat.lt_add_of_pos_left (List.length_pos_iff.mpr hy)

theorem Shifted.append_eq (h : Shifted a s b t) : a++s=b++t :=
  h.elim RunsOver.append_eq (fun h => h.append_eq.symm)

theorem Shifted.rest_ne (h : Shifted a s b t) : s ≠ t := by
  rintro rfl
  exact h.elim (fun h => lt_irrefl _ h.length_lt) (fun h => lt_irrefl _ h.length_lt)

theorem Shifted.field_ne (h : Shifted a s b t) : a ≠ b := by
  rintro rfl
  exact h.rest_ne (List.append_cancel_left h.append_eq)

/-- Equal lists have equal fields, unless one is shifted against the other. -/
theorem append_eq_iff_shifted : a++s=b++t ↔ a=b ∧ s=t ∨ Shifted a s b t := by
  constructor
  · intro h
    obtain ⟨y,hb,hs⟩ | ⟨y,ha,ht⟩ := List.append_eq_append_iff.mp h
    · by_cases hy : y=[]
      · subst hy
        exact .inl ⟨(hb.trans (List.append_nil a)).symm,hs⟩
      · exact .inr (.inl ⟨y,hy,hb,hs⟩)
    · by_cases hy : y=[]
      · subst hy
        exact .inl ⟨ha.trans (List.append_nil b),ht.symm⟩
      · exact .inr (.inr ⟨y,hy,ha,ht⟩)
  · rintro (⟨rfl,rfl⟩ | h)
    · rfl
    · exact h.append_eq

/-- The separator that is run over is inside the field, and it comes again in the rest. -/
theorem RunsOver.sep_mem (h : RunsOver a (sep::s) b (sep::t)) : sep ∈ b ∧ sep ∈ s := by
  obtain ⟨y,hy,rfl,heq⟩ := h
  obtain _ | ⟨c,y⟩ := y
  · exact absurd rfl hy
  obtain ⟨rfl,rfl⟩ := List.cons.inj heq
  exact ⟨List.mem_append_right a List.mem_cons_self,List.mem_append_right y List.mem_cons_self⟩

theorem not_shifted_of_field (ha : sep ∉ a) (hb : sep ∉ b) : ¬Shifted a (sep::s) b (sep::t) :=
  fun h => h.elim (fun h => hb h.sep_mem.1) (fun h => ha h.sep_mem.1)

theorem not_shifted_of_rest (hs : sep ∉ s) (ht : sep ∉ t) : ¬Shifted a (sep::s) b (sep::t) :=
  fun h => h.elim (fun h => hs h.sep_mem.2) (fun h => ht h.sep_mem.2)

theorem append_sep_eq_iff_of_field (ha : sep ∉ a) (hb : sep ∉ b) :
    a++sep::s=b++sep::t ↔ a=b ∧ s=t := by
  rw [append_eq_iff_shifted,or_iff_left (not_shifted_of_field ha hb),List.cons.injEq,eq_self,true_and]

theorem append_sep_eq_iff_of_rest (hs : sep ∉ s) (ht : sep ∉ t) :
    a++sep::s=b++sep::t ↔ a=b ∧ s=t := by
  rw [append_eq_iff_shifted,or_iff_left (not_shifted_of_rest hs ht),List.cons.injEq,eq_self,true_and]

end RotatorProxy.Library
