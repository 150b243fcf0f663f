import RotatorProxy.Text.Lossy

/-! Percent-encoding, as the crates of the program read it: a `%` without two hexadecimal digits behind it
stands for itself, and what is no UTF-8 becomes replacement characters. -/
namespace RotatorProxy.Text

/-- `char::to_digit(16)` -/
def hexValue (c : Char) : Option ℕ :=
  if c.isDigit then some (c.toNat-48)
  else if 'a' ≤ c ∧ c ≤ 'f' then some (c.toNat-87)
  else if 'A' ≤ c ∧ c ≤ 'F' then some (c.toNat-55)
  else none

/-- The byte that these three characters stand for -/
def escapeByte (c x y : Char) : Option UInt8 :=
  if c = '%' then (hexValue x).bind (fun a => (hexValue y).map (fun b => UInt8.ofNat (16*a+b))) else none

/-- The bytes of `percent_decode_str` -/
def percentBytes : Str → Bytes
  | c::x::y::rest =>
    match escapeByte c x y with
    | some b => b::percentBytes rest
    | none => String.utf8EncodeChar c++percentBytes (x::y::rest)
  | c::rest => String.utf8EncodeChar c++percentBytes rest
  | [] => []

/-- `percent_decode_str` and `decode_utf8_lossy` -/
def percentDecode (s : Str) : Str := fromUtf8Lossy (percentBytes s)

example : percentDecode ['a','%','4','1','%','z']=['a','A','%','z'] := by decide

/-- A `%` with two hexadecimal digits is in the text. -/
def HasEscape (s : Str) : Prop := ∃ before c x y after, s=before++c::x::y::after ∧ (escapeByte c x y).isSome

variable {c x y : Char} {b : UInt8} {s : Str}

lemma percentBytes_escape (h : escapeByte c x y=some b) (rest : Str) :
    percentBytes (c::x::y::rest)=b::percentBytes rest := by
  rw [percentBytes,h]

lemma percentBytes_plain (h : ∀ x y rest, s=x::y::rest → escapeByte c x y=none) :
    percentBytes (c::s)=String.utf8EncodeChar c++percentBytes s := by
  cases s with
  | nil => rfl
  | cons x s =>
    cases s with
    | nil => rfl
    | cons y rest => rw [percentBytes,h x y rest rfl]

lemma percentDecode_plain (h : ∀ x y rest, s=x::y::rest → escapeByte c x y=none) :
    percentDecode (c::s)=c::percentDecode s := by
  rw [percentDecode,percentBytes_plain h,fromUtf8Lossy_char]
  rfl

/-- A text begins with an escape, with another character, or not at all. -/
theorem percent_induction {motive : Str → Prop} (nil : motive [])
    (escape : ∀ c x y rest b, escapeByte c x y=some b → motive rest → motive (c::x::y::rest))
    (plain : ∀ c rest, (∀ x y after, rest=x::y::after → escapeByte c x y=none) → motive rest → motive (c::rest))
    (s : Str) : motive s := by
  induction s using percentBytes.induct with
  | case1 c x y rest b hb ih => exact escape c x y rest b hb ih
  | case2 c x y rest hnone ih =>
    refine plain c _ (fun x' y' after heq => ?_) ih
    cases heq
    exact hnone
  | case3 c rest hne ih => exact plain c rest (fun x y after heq => absurd heq (hne x y after)) ih
  | case4 => exact nil

/-! Decoding takes characters away -/

theorem percentDecode_length_le (s : Str) : (percentDecode s).length ≤ s.length := by
  induction s using percent_induction with
  | nil => rfl
  | escape c x y rest b hb ih =>
    have hcons := fromUtf8Lossy_length_cons_le b (percentBytes rest)
    rw [percentDecode,percentBytes_escape hb]
    rw [percentDecode] at ih
    simp only [List.length_cons]
    omega
  | plain c rest hplain ih =>
    rw [percentDecode_plain hplain]
    simpa using ih

theorem percentDecode_length_lt (h : HasEscape s) : (percentDecode s).length < s.length := by
  induction s using percent_induction with
  | nil =>
    obtain ⟨before,c,x,y,after,heq,-⟩ := h
    simp at heq
  | escape c x y rest b hb ih =>
    have hcons := fromUtf8Lossy_length_cons_le b (percentBytes rest)
    have hrest := percentDecode_length_le rest
    rw [percentDecode,percentBytes_escape hb]
    rw [percentDecode] at hrest
    simp only [List.length_cons]
    omega
  | plain c rest hplain ih =>
    rw [percentDecode_plain hplain]
    obtain ⟨before,d,x,y,after,heq,hsome⟩ := h
    cases before with
    | nil =>
      cases heq
      rw [hplain x y after rfl] at hsome
      cases hsome
    | cons e before =>
      cases heq
      simpa using ih ⟨before,d,x,y,after,rfl,hsome⟩

lemma percentDecode_self (h : ¬HasEscape s) : percentDecode s=s := by
  induction s using percent_induction with
  | nil => rfl
  | escape c x y rest b hb ih => exact absurd ⟨[],c,x,y,rest,rfl,by rw [hb]; rfl⟩ h
  | plain c rest hplain ih =>
    rw [percentDecode_plain hplain,ih]
    rintro ⟨before,d,x,y,after,rfl,hsome⟩
    exact h ⟨c::before,d,x,y,after,rfl,hsome⟩

/-- Only a text with an escape is another one after decoding. -/
theorem percentDecode_eq_self_iff : percentDecode s=s ↔ ¬HasEscape s := by
  refine ⟨fun heq h => ?_,percentDecode_self⟩
  have hlt := percentDecode_length_lt h
  rw [heq] at hlt
  exact lt_irrefl _ hlt

lemma not_hasEscape (h : '%' ∉ s) : ¬HasEscape s := by
  rintro ⟨before,c,x,y,after,rfl,hsome⟩
  have hc : c ≠ '%' := by
    rintro rfl
    simp at h
  rw [escapeByte,if_neg hc] at hsome
  cases hsome

end RotatorProxy.Text
