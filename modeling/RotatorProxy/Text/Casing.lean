import RotatorProxy.Text.Split

/-! Texts up to the case of their ASCII letters. -/
namespace RotatorProxy.Text

def IsAsciiUpper (c : Char) : Prop := 'A'.toNat ≤ c.toNat ∧ c.toNat ≤ 'Z'.toNat

lemma asciiLowercase_upper {c : Char} (h : IsAsciiUpper c) : (asciiLowercase c).toNat=c.toNat+32 := by
  have hvalid : (c.toNat+32).isValidChar := by
    have hle : c.toNat ≤ 90 := h.2
    left
    omega
  have hlow : asciiLowercase c=Char.ofNat (c.toNat+32) := if_pos h
  rw [hlow,Char.ofNat,dif_pos hvalid]
  rfl

lemma asciiLowercase_other {c : Char} (h : ¬IsAsciiUpper c) : asciiLowercase c=c := if_neg h

/-- A character that is no letter comes from itself only. -/
lemma asciiLowercase_eq_iff {c d : Char} (hupper : ¬IsAsciiUpper d)
    (hlower : ¬('a'.toNat ≤ d.toNat ∧ d.toNat ≤ 'z'.toNat)) : asciiLowercase c=d ↔ c=d := by
  by_cases hc : IsAsciiUpper c
  · have hlow := asciiLowercase_upper hc
    constructor
    · rintro rfl
      have hge : 65 ≤ c.toNat := hc.1
      have hle : c.toNat ≤ 90 := hc.2
      refine absurd (And.intro ?_ ?_) hlower
      · change 97 ≤ (asciiLowercase c).toNat
        omega
      · change (asciiLowercase c).toNat ≤ 122
        omega
    · rintro rfl
      exact absurd hc hupper
  · rw [asciiLowercase_other hc]

@[simp] lemma isWhitespace_asciiLowercase (c : Char) : isWhitespace (asciiLowercase c)=isWhitespace c := by
  by_cases hc : IsAsciiUpper c
  · have hlow := asciiLowercase_upper hc
    have hge : 65 ≤ c.toNat := hc.1
    have hle : c.toNat ≤ 90 := hc.2
    have hno : ∀ d : Char, 65 ≤ d.toNat → d.toNat ≤ 122 → isWhitespace d=false := by
      intro d h1 h2
      simp [isWhitespace]
      omega
    rw [hno c hge (by omega),hno (asciiLowercase c) (by omega) (by omega)]
  · rw [asciiLowercase_other hc]

/-- A text that begins with a lower-case name and a colon, in any case, has that name in front of its
first colon. -/
theorem prefix_toAsciiLowercase_iff {name : Str} (hname : ':' ∉ name) (line : Str) :
    name++[':'] <+: toAsciiLowercase line ↔
      ∃ key value, splitOnce ':' line = some (key,value) ∧ toAsciiLowercase key=name := by
  have hcolon : ∀ c, asciiLowercase c= ':' ↔ c= ':' := by
    intro c
    apply asciiLowercase_eq_iff
    · exact fun h => absurd h.1 (by decide)
    · exact fun h => absurd h.1 (by decide)
  constructor
  · rintro ⟨rest,hrest⟩
    rw [toAsciiLowercase,List.append_assoc,List.singleton_append] at hrest
    obtain ⟨key,after,rfl,hkey,hafter⟩ := List.map_eq_append_iff.mp hrest.symm
    obtain ⟨c,value,rfl,hc,_⟩ := List.map_eq_cons_iff.mp hafter
    obtain rfl := (hcolon c).mp hc
    refine ⟨key,value,splitOnce_append (fun hmem => hname ?_) value,hkey⟩
    rw [← hkey]
    exact List.mem_map.mpr ⟨':',hmem,(hcolon ':').mpr rfl⟩
  · rintro ⟨key,value,hsplit,rfl⟩
    obtain ⟨rfl,_⟩ := splitOnce_eq_some.mp hsplit
    refine ⟨toAsciiLowercase value,?_⟩
    simp [toAsciiLowercase,(hcolon ':').mpr rfl]

lemma noSpace_of_toAsciiLowercase {s : Str} (h : ∀ c ∈ toAsciiLowercase s, isWhitespace c=false) :
    ∀ c ∈ s, isWhitespace c=false := by
  intro c hc
  have hlow := h (asciiLowercase c) (List.mem_map.mpr ⟨c,hc,rfl⟩)
  rwa [isWhitespace_asciiLowercase] at hlow

lemma trim_eq_nil {s : Str} : trim s=[] ↔ ∀ c ∈ s, isWhitespace c=true := by
  rw [← List.dropWhile_eq_nil_iff]
  constructor
  · intro h
    by_contra hne
    have hall := List.rdropWhile_eq_nil_iff.mp h
    have hhead := List.head?_dropWhile_not isWhitespace s
    obtain ⟨c,cs,hcs⟩ := List.exists_cons_of_ne_nil hne
    rw [hcs] at hhead hall
    have hc : isWhitespace c=false := by simpa using hhead
    rw [hall c List.mem_cons_self] at hc
    cases hc
  · intro h
    rw [trim,h]
    rfl

lemma trim_toAsciiLowercase {s : Str} (h : trim s ≠ []) : trim (toAsciiLowercase s) ≠ [] := by
  rw [Ne,trim_eq_nil] at h ⊢
  intro hall
  apply h
  intro c hc
  rw [← isWhitespace_asciiLowercase]
  exact hall _ (List.mem_map.mpr ⟨c,hc,rfl⟩)

/-- Lower case takes as many bytes. -/
lemma utf8_toAsciiLowercase_length (s : Str) : (utf8 (toAsciiLowercase s)).length=(utf8 s).length := by
  induction s with
  | nil => rfl
  | cons c s ih =>
    have hc : (String.utf8EncodeChar (asciiLowercase c)).length=(String.utf8EncodeChar c).length := by
      by_cases hupper : IsAsciiUpper c
      · have hlow := asciiLowercase_upper hupper
        have hle : c.toNat ≤ 90 := hupper.2
        rw [utf8EncodeChar_ascii (c := c) (by omega),utf8EncodeChar_ascii (c := asciiLowercase c) (by omega)]
        rfl
      · rw [asciiLowercase_other hupper]
    have hcons : toAsciiLowercase (c::s)=asciiLowercase c::toAsciiLowercase s := rfl
    rw [hcons,utf8_cons,utf8_cons,List.length_append,List.length_append,hc,ih]

lemma notMem_toAsciiLowercase {c : Char} (hc : ∀ d, asciiLowercase d=c ↔ d=c) {s : Str} (h : c ∉ s) :
    c ∉ toAsciiLowercase s := by
  intro hmem
  obtain ⟨d,hd,heq⟩ := List.mem_map.mp hmem
  rw [(hc d).mp heq] at hd
  exact h hd

end RotatorProxy.Text
