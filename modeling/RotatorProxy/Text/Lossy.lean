import RotatorProxy.Text.Split

/-! `String::from_utf8_lossy`: every maximal ill-formed piece becomes one replacement character. -/
namespace RotatorProxy.Text

def replacement : Char := '\uFFFD'

def isContinuation (b : UInt8) : Bool := 0x80 ≤ b && b ≤ 0xbf

/-- How many bytes a character with this first byte has. -/
def utf8Width (b : UInt8) : ℕ :=
  if b < 0x80 then 1 else if b < 0xc2 then 0 else if b < 0xe0 then 2 else if b < 0xf0 then 3
  else if b < 0xf5 then 4 else 0

/-- The second bytes that do not make an overlong form, a surrogate or too large a character. -/
def isSecond (b0 b1 : UInt8) : Bool :=
  isContinuation b1 && !(b0==0xe0 && b1 < 0xa0) && !(b0==0xed && 0x9f < b1) &&
    !(b0==0xf0 && b1 < 0x90) && !(b0==0xf4 && 0x8f < b1)

def fromUtf8Lossy : Bytes → Str
  | [] => []
  | b0::rest =>
    if utf8Width b0=1 then Char.ofNat b0.toNat::fromUtf8Lossy rest
    else if utf8Width b0=0 then replacement::fromUtf8Lossy rest
    else match rest with
      | [] => [replacement]
      | b1::rest1 =>
        if !isSecond b0 b1 then replacement::fromUtf8Lossy (b1::rest1)
        else if utf8Width b0=2 then
          Char.ofNat (b0.toNat%32*64+b1.toNat%64)::fromUtf8Lossy rest1
        else match rest1 with
          | [] => [replacement]
          | b2::rest2 =>
            if !isContinuation b2 then replacement::fromUtf8Lossy (b2::rest2)
            else if utf8Width b0=3 then
              Char.ofNat (b0.toNat%16*4096+b1.toNat%64*64+b2.toNat%64)::fromUtf8Lossy rest2
            else match rest2 with
              | [] => [replacement]
              | b3::rest3 =>
                if !isContinuation b3 then replacement::fromUtf8Lossy (b3::rest3)
                else Char.ofNat (b0.toNat%8*262144+b1.toNat%64*4096+b2.toNat%64*64+b3.toNat%64)::
                  fromUtf8Lossy rest3

example : fromUtf8Lossy [0x48,0xe4,0xbb,0xa3,0xff,0xe4,0xbb,0x21] = ['H','代',replacement,replacement,'!'] := by
  decide

lemma fromUtf8Lossy_ascii {b : UInt8} (h : b.toNat < 128) (rest : Bytes) :
    fromUtf8Lossy (b::rest) = Char.ofNat b.toNat::fromUtf8Lossy rest := by
  have hwidth : utf8Width b=1 := if_pos (UInt8.lt_iff_toNat_lt.mpr h)
  rw [fromUtf8Lossy.eq_def]
  exact if_pos hwidth

lemma utf8Width_eq (b : UInt8) : utf8Width b=if b.toNat < 128 then 1 else if b.toNat < 194 then 0
    else if b.toNat < 224 then 2 else if b.toNat < 240 then 3 else if b.toNat < 245 then 4 else 0 := rfl

lemma isContinuation_iff {b : UInt8} : isContinuation b = true ↔ 128 ≤ b.toNat ∧ b.toNat < 192 := by
  simp only [isContinuation,Bool.and_eq_true,decide_eq_true_eq,UInt8.le_iff_toNat_le,Nat.lt_succ_iff,
    UInt8.reduceToNat]

lemma isSecond_iff {a b : UInt8} : isSecond a b = true ↔ (128 ≤ b.toNat ∧ b.toNat < 192) ∧
    ¬(a.toNat=224 ∧ b.toNat < 160) ∧ ¬(a.toNat=237 ∧ 160 ≤ b.toNat) ∧ ¬(a.toNat=240 ∧ b.toNat < 144) ∧
      ¬(a.toNat=244 ∧ 144 ≤ b.toNat) := by
  simp only [isSecond,Bool.and_eq_true,Bool.not_eq_true',Bool.and_eq_false_iff,beq_eq_false_iff_ne,ne_eq,
    decide_eq_false_iff_not,UInt8.lt_iff_toNat_lt,← UInt8.toNat_inj,UInt8.reduceToNat,isContinuation_iff]
  omega

/-- A whole character at the front is read. -/
theorem fromUtf8Lossy_char (c : Char) (rest : Bytes) :
    fromUtf8Lossy (String.utf8EncodeChar c++rest)=c::fromUtf8Lossy rest := by
  have hval : c.val.toNat=c.toNat := rfl
  have hvalid : c.toNat < 0xd800 ∨ 0xdfff < c.toNat ∧ c.toNat < 0x110000 := c.valid
  have hbyte : ∀ n < 256, (UInt8.ofNat n).toNat=n := by
    intro n hn
    rw [UInt8.toNat_ofNat',Nat.mod_eq_of_lt hn]
  unfold String.utf8EncodeChar
  dsimp only
  rw [hval]
  split_ifs with h1 h2 h3
  · rw [List.singleton_append,fromUtf8Lossy_ascii (by rw [hbyte _ (by omega)]; omega),hbyte _ (by omega),Char.ofNat_toNat]
  · have hb0 := hbyte (c.toNat/64%32+192) (by omega)
    have hb1 := hbyte (c.toNat%64+128) (by omega)
    generalize UInt8.ofNat (c.toNat/64%32+192)=b0 at hb0
    generalize UInt8.ofNat (c.toNat%64+128)=b1 at hb1
    have hwidth : utf8Width b0=2 := by
      rw [utf8Width_eq]
      simp (disch := omega) only [if_neg,if_pos]
    have hsecond : isSecond b0 b1 = true := by
      rw [isSecond_iff]
      omega
    have hchar : Char.ofNat (b0.toNat%32*64+b1.toNat%64)=c := by
      rw [show b0.toNat%32*64+b1.toNat%64=c.toNat by omega,Char.ofNat_toNat]
    rw [List.cons_append,List.singleton_append,fromUtf8Lossy.eq_def]
    simp [hwidth,hsecond,hchar]
  · have hb0 := hbyte (c.toNat/4096%16+224) (by omega)
    have hb1 := hbyte (c.toNat/64%64+128) (by omega)
    have hb2 := hbyte (c.toNat%64+128) (by omega)
    generalize UInt8.ofNat (c.toNat/4096%16+224)=b0 at hb0
    generalize UInt8.ofNat (c.toNat/64%64+128)=b1 at hb1
    generalize UInt8.ofNat (c.toNat%64+128)=b2 at hb2
    have hwidth : utf8Width b0=3 := by
      rw [utf8Width_eq]
      simp (disch := omega) only [if_neg,if_pos]
    have hsecond : isSecond b0 b1 = true := by
      rw [isSecond_iff]
      omega
    have hthird : isContinuation b2 = true := isContinuation_iff.mpr (by omega)
    have hchar : Char.ofNat (b0.toNat%16*4096+b1.toNat%64*64+b2.toNat%64)=c := by
      rw [show b0.toNat%16*4096+b1.toNat%64*64+b2.toNat%64=c.toNat by omega,Char.ofNat_toNat]
    rw [List.cons_append,List.cons_append,List.singleton_append,fromUtf8Lossy.eq_def]
    simp [hwidth,hsecond,hthird,hchar]
  · have hb0 := hbyte (c.toNat/262144%8+240) (by omega)
    have hb1 := hbyte (c.toNat/4096%64+128) (by omega)
    have hb2 := hbyte (c.toNat/64%64+128) (by omega)
    have hb3 := hbyte (c.toNat%64+128) (by omega)
    generalize UInt8.ofNat (c.toNat/262144%8+240)=b0 at hb0
    generalize UInt8.ofNat (c.toNat/4096%64+128)=b1 at hb1
    generalize UInt8.ofNat (c.toNat/64%64+128)=b2 at hb2
    generalize UInt8.ofNat (c.toNat%64+128)=b3 at hb3
    have hwidth : utf8Width b0=4 := by
      rw [utf8Width_eq]
      simp (disch := omega) only [if_neg,if_pos]
    have hsecond : isSecond b0 b1 = true := by
      rw [isSecond_iff]
      omega
    have hthird : isContinuation b2 = true := isContinuation_iff.mpr (by omega)
    have hfourth : isContinuation b3 = true := isContinuation_iff.mpr (by omega)
    have hchar : Char.ofNat (b0.toNat%8*262144+b1.toNat%64*4096+b2.toNat%64*64+b3.toNat%64)=c := by
      rw [show b0.toNat%8*262144+b1.toNat%64*4096+b2.toNat%64*64+b3.toNat%64=c.toNat by omega,Char.ofNat_toNat]
    rw [List.cons_append,List.cons_append,List.cons_append,List.singleton_append,fromUtf8Lossy.eq_def]
    simp [hwidth,hsecond,hthird,hfourth,hchar]

/-- A text at the front comes out as it is. -/
theorem fromUtf8Lossy_append (s : Str) (rest : Bytes) : fromUtf8Lossy (utf8 s++rest)=s++fromUtf8Lossy rest := by
  induction s with
  | nil => rfl
  | cons c s ih => rw [utf8_cons,List.append_assoc,fromUtf8Lossy_char,ih,List.cons_append]

lemma fromUtf8Lossy_continuation {b : UInt8} (h : isContinuation b = true) (rest : Bytes) :
    fromUtf8Lossy (b::rest)=replacement::fromUtf8Lossy rest := by
  rw [isContinuation_iff] at h
  have hwidth : utf8Width b=0 := by
    rw [utf8Width_eq]
    simp (disch := omega) only [if_neg,if_pos]
  rw [fromUtf8Lossy.eq_def]
  simp [hwidth]

/-- A byte at the front is at most one character more. -/
theorem fromUtf8Lossy_length_cons_le (b0 : UInt8) (rest : Bytes) :
    (fromUtf8Lossy (b0::rest)).length ≤ (fromUtf8Lossy rest).length+1 := by
  rw [fromUtf8Lossy.eq_def]
  dsimp only
  by_cases h1 : utf8Width b0=1
  · simp [h1]
  by_cases h0 : utf8Width b0=0
  · simp [h0]
  rw [if_neg h1,if_neg h0]
  cases rest with
  | nil => simp
  | cons b1 rest =>
    by_cases hsecond : isSecond b0 b1 = true
    · rw [fromUtf8Lossy_continuation (isContinuation_iff.mpr (isSecond_iff.mp hsecond).1)]
      by_cases h2 : utf8Width b0=2
      · simp [hsecond,h2]
      cases rest with
      | nil => simp [hsecond,h2]
      | cons b2 rest =>
        by_cases hthird : isContinuation b2 = true
        · rw [fromUtf8Lossy_continuation hthird]
          by_cases h3 : utf8Width b0=3
          · simp [hsecond,hthird,h3]
          cases rest with
          | nil => simp [hsecond,hthird,h2,h3]
          | cons b3 rest =>
            by_cases hfourth : isContinuation b3 = true
            · rw [fromUtf8Lossy_continuation hfourth]
              simp [hsecond,hthird,hfourth,h2,h3]
            · simp [hsecond,hthird,hfourth,h2,h3]
        · simp [hsecond,hthird,h2]
    · simp [hsecond]

end RotatorProxy.Text
