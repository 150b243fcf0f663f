import RotatorProxy.Text.Str

/-! Base64: the encoder with the standard alphabet and padding, and the decoders that the links are read with. -/
namespace RotatorProxy.Text

def base64Alphabet : Str :=
  "ABCDEFGHIJKLMNOPQRSTUVWXYZabcdefghijklmnopqrstuvwxyz0123456789+/".toList

def base64Char (n : ℕ) : Char := base64Alphabet[n]?.getD '='

/-- `BASE64_STANDARD.encode` -/
def base64Encode : Bytes → Str
  | [] => []
  | [a] => [base64Char (a.toNat/4),base64Char (a.toNat%4*16), '=', '=']
  | [a,b] =>
    [base64Char (a.toNat/4),base64Char (a.toNat%4*16+b.toNat/16),base64Char (b.toNat%16*4), '=']
  | a::b::c::rest =>
    base64Char (a.toNat/4)::base64Char (a.toNat%4*16+b.toNat/16)::
      base64Char (b.toNat%16*4+c.toNat/64)::base64Char (c.toNat%64)::base64Encode rest

example : base64Encode (utf8 "user:pass!".toList) = "dXNlcjpwYXNzIQ==".toList := by decide

def IsBase64 (c : Char) : Prop := c = '=' ∨ c ∈ base64Alphabet

lemma base64Char_isBase64 (n : ℕ) : IsBase64 (base64Char n) := by
  unfold base64Char
  cases h : base64Alphabet[n]? with
  | none => exact .inl rfl
  | some c => exact .inr (List.mem_of_getElem? h)

/-- A token holds letters of the alphabet and padding only. -/
theorem base64Encode_chars (bytes : Bytes) : ∀ c ∈ base64Encode bytes, IsBase64 c := by
  have hpad : IsBase64 '=' := .inl rfl
  induction bytes using base64Encode.induct with
  | case1 => simp [base64Encode]
  | case2 a => simp [base64Encode,base64Char_isBase64,hpad]
  | case3 a b => simp [base64Encode,base64Char_isBase64,hpad]
  | case4 a b c rest ih => simpa [base64Encode,base64Char_isBase64] using ih

/-! Decoding, with an alphabet and as much of the padding as there is -/

def base64UrlAlphabet : Str :=
  "ABCDEFGHIJKLMNOPQRSTUVWXYZabcdefghijklmnopqrstuvwxyz0123456789-_".toList

/-- Three bytes are four groups of six bits. -/
def sextets : Bytes → List ℕ
  | [] => []
  | [a] => [a.toNat/4,a.toNat%4*16]
  | [a,b] => [a.toNat/4,a.toNat%4*16+b.toNat/16,b.toNat%16*4]
  | a::b::c::rest =>
    a.toNat/4::(a.toNat%4*16+b.toNat/16)::(b.toNat%16*4+c.toNat/64)::c.toNat%64::sextets rest

/-- The bits that are left over have to be zero. -/
def fromSextets : List ℕ → Option Bytes
  | [] => some []
  | [_] => none
  | [a,b] => if b%16=0 then some [UInt8.ofNat (a*4+b/16)] else none
  | [a,b,c] =>
    if c%4=0 then some [UInt8.ofNat (a*4+b/16),UInt8.ofNat (b%16*16+c/4)] else none
  | a::b::c::d::rest => (fromSextets rest).map (fun bytes =>
    UInt8.ofNat (a*4+b/16)::UInt8.ofNat (b%16*16+c/4)::UInt8.ofNat (c%4*64+d)::bytes)

def base64Padding (bytes : Bytes) : ℕ := (3-bytes.length%3)%3

/-- `decode` of an engine with the mode `DecodePaddingMode::Indifferent` -/
def base64Decode (alphabet s : Str) : Option Bytes :=
  let digits := s.takeWhile (fun c => c ≠ '=')
  let padding := s.dropWhile (fun c => c ≠ '=')
  if digits.all (fun c => decide (c ∈ alphabet)) then
    (fromSextets (digits.map alphabet.idxOf)).filter (fun bytes =>
      padding.all (fun c => c = '=') && padding.length ≤ base64Padding bytes)
  else none

/-- The text is the bytes in this alphabet, with some of the padding, all of it or none. -/
def IsBase64Of (alphabet s : Str) (bytes : Bytes) : Prop :=
  ∃ padding ≤ base64Padding bytes, s=(sextets bytes).map (alphabet.getD · '=')++List.replicate padding '='

lemma sextets_lt (bytes : Bytes) : ∀ n ∈ sextets bytes, n < 64 := by
  have hbyte : ∀ b : UInt8, b.toNat < 256 := fun b => b.toNat_lt
  induction bytes using sextets.induct with
  | case1 => simp [sextets]
  | case2 a =>
    have ha := hbyte a
    simp [sextets]
    omega
  | case3 a b =>
    have ha := hbyte a
    have hb := hbyte b
    simp [sextets]
    omega
  | case4 a b c rest ih =>
    have ha := hbyte a
    have hb := hbyte b
    have hc := hbyte c
    simp only [sextets,List.forall_mem_cons]
    exact ⟨by omega,by omega,by omega,by omega,ih⟩

lemma fromSextets_sextets (bytes : Bytes) : fromSextets (sextets bytes)=some bytes := by
  have hbyte : ∀ b : UInt8, b.toNat < 256 := fun b => b.toNat_lt
  have hofNat : ∀ (b : UInt8) n, n=b.toNat → UInt8.ofNat n=b := by
    rintro b _ rfl
    exact UInt8.ofNat_toNat
  induction bytes using sextets.induct with
  | case1 => rfl
  | case2 a =>
    rw [sextets,fromSextets,if_pos (by omega),hofNat a _ (by omega)]
  | case3 a b =>
    have hb := hbyte b
    rw [sextets,fromSextets,if_pos (by omega),hofNat a _ (by omega),hofNat b _ (by omega)]
  | case4 a b c rest ih =>
    have hb := hbyte b
    have hc := hbyte c
    rw [sextets,fromSextets,ih,Option.map_some,hofNat a _ (by omega),hofNat b _ (by omega),hofNat c _ (by omega)]

lemma sextets_fromSextets {digits : List ℕ} {bytes : Bytes} (hlt : ∀ n ∈ digits, n < 64)
    (h : fromSextets digits=some bytes) : sextets bytes=digits := by
  have hbyte : ∀ n < 256, (UInt8.ofNat n).toNat=n := by
    intro n hn
    rw [UInt8.toNat_ofNat',Nat.mod_eq_of_lt hn]
  induction digits using fromSextets.induct generalizing bytes with
  | case1 =>
    cases h
    rfl
  | case2 a => cases h
  | case3 a b hb =>
    simp only [List.forall_mem_cons] at hlt
    rw [fromSextets,if_pos hb] at h
    cases h
    simp only [sextets,hbyte (a*4+b/16) (by omega),List.cons.injEq,and_true]
    omega
  | case4 a b hb =>
    rw [fromSextets,if_neg hb] at h
    cases h
  | case5 a b c hc =>
    simp only [List.forall_mem_cons] at hlt
    rw [fromSextets,if_pos hc] at h
    cases h
    simp only [sextets,hbyte (a*4+b/16) (by omega),hbyte (b%16*16+c/4) (by omega),List.cons.injEq,and_true]
    omega
  | case6 a b c hc =>
    rw [fromSextets,if_neg hc] at h
    cases h
  | case7 a b c d rest ih =>
    simp only [List.forall_mem_cons] at hlt
    rw [fromSextets] at h
    obtain ⟨bytes,hrest,rfl⟩ := Option.map_eq_some_iff.mp h
    rw [sextets,hbyte (a*4+b/16) (by omega),hbyte (b%16*16+c/4) (by omega),hbyte (c%4*64+d) (by omega),
      ih hlt.2.2.2.2 hrest]
    simp only [List.cons.injEq,and_true]
    omega

/-- Sixty-four different letters, and the sign of the padding is none of them. -/
structure IsBase64Alphabet (alphabet : Str) : Prop where
  length : alphabet.length=64
  nodup : alphabet.Nodup
  padding : '=' ∉ alphabet

/-- What the two alphabets have in common -/
def base64Letters : Str := "ABCDEFGHIJKLMNOPQRSTUVWXYZabcdefghijklmnopqrstuvwxyz0123456789".toList

lemma base64Alphabet_eq : base64Alphabet=base64Letters++['+','/'] := by decide

lemma base64UrlAlphabet_eq : base64UrlAlphabet=base64Letters++['-','_'] := by decide

lemma base64Letters_mem : '=' ∉ base64Letters ∧ '+' ∉ base64Letters ∧ '/' ∉ base64Letters ∧ '-' ∉ base64Letters ∧
    '_' ∉ base64Letters := by decide

/-- Two more letters make an alphabet of them. -/
lemma letters_isAlphabet {a b : Char} (ha : a ∉ base64Letters) (hb : b ∉ base64Letters) (hab : a ≠ b) (hpada : '=' ≠ a)
    (hpadb : '=' ≠ b) : IsBase64Alphabet (base64Letters++[a,b]) where
  length := rfl
  nodup := by
    have hletters : base64Letters.Nodup := by decide
    refine hletters.append (by simpa using hab) ?_
    simpa using ⟨ha,hb⟩
  padding := by simpa using ⟨base64Letters_mem.1,hpada,hpadb⟩

lemma base64Alphabet_isAlphabet : IsBase64Alphabet base64Alphabet := by
  obtain ⟨-,hplus,hslash,-,-⟩ := base64Letters_mem
  rw [base64Alphabet_eq]
  exact letters_isAlphabet hplus hslash (by decide) (by decide) (by decide)

lemma base64UrlAlphabet_isAlphabet : IsBase64Alphabet base64UrlAlphabet := by
  obtain ⟨-,-,-,hminus,hunderscore⟩ := base64Letters_mem
  rw [base64UrlAlphabet_eq]
  exact letters_isAlphabet hminus hunderscore (by decide) (by decide) (by decide)

namespace IsBase64Alphabet
variable {alphabet s : Str} {bytes : Bytes}

lemma getD_mem (h : IsBase64Alphabet alphabet) {n : ℕ} (hn : n < 64) : alphabet.getD n '=' ∈ alphabet := by
  have hlt : n < alphabet.length := h.length ▸ hn
  rw [List.getD_eq_getElem?_getD,List.getElem?_eq_getElem hlt,Option.getD_some]
  exact List.getElem_mem hlt

lemma idxOf_getD (h : IsBase64Alphabet alphabet) {n : ℕ} (hn : n < 64) : alphabet.idxOf (alphabet.getD n '=')=n := by
  have hlt : n < alphabet.length := h.length ▸ hn
  rw [List.getD_eq_getElem?_getD,List.getElem?_eq_getElem hlt,Option.getD_some]
  exact h.nodup.idxOf_getElem n hlt

lemma letters (h : IsBase64Alphabet alphabet) : ∀ c ∈ (sextets bytes).map (alphabet.getD · '='), c ∈ alphabet := by
  intro c hc
  obtain ⟨n,hn,rfl⟩ := List.mem_map.mp hc
  exact h.getD_mem (sextets_lt bytes n hn)

lemma map_getD (h : IsBase64Alphabet alphabet) {digits : List ℕ} (hlt : ∀ n ∈ digits, n < 64) :
    (digits.map (alphabet.getD · '=')).map alphabet.idxOf=digits := by
  rw [List.map_map]
  exact (List.map_congr_left fun n hn => h.idxOf_getD (hlt n hn)).trans (List.map_id digits)

lemma map_idxOf (hmem : ∀ c ∈ s, c ∈ alphabet) : (s.map alphabet.idxOf).map (alphabet.getD · '=')=s := by
  have hletter : ∀ c ∈ s, alphabet.getD (alphabet.idxOf c) '='=c := by
    intro c hc
    have hlt := List.idxOf_lt_length_of_mem (hmem c hc)
    rw [List.getD_eq_getElem?_getD,List.getElem?_eq_getElem hlt,Option.getD_some,List.getElem_idxOf]
  rw [List.map_map]
  exact (List.map_congr_left hletter).trans (List.map_id s)

lemma mem_of_all {digits alphabet : Str} (h : digits.all (fun c => decide (c ∈ alphabet)) = true) :
    ∀ c ∈ digits, c ∈ alphabet := fun c hc => of_decide_eq_true (List.all_eq_true.mp h c hc)

/-- The decoder takes exactly what is the encoding of some bytes. -/
theorem decode_eq_some_iff (h : IsBase64Alphabet alphabet) :
    base64Decode alphabet s=some bytes ↔ IsBase64Of alphabet s bytes := by
  unfold base64Decode
  dsimp only
  constructor
  · intro hdecode
    split_ifs at hdecode with hmem
    have hmem := mem_of_all hmem
    obtain ⟨hsome,hpadding⟩ := Option.filter_eq_some_iff.mp hdecode
    rw [Bool.and_eq_true,List.all_eq_true,decide_eq_true_eq] at hpadding
    obtain ⟨hall,hlength⟩ := hpadding
    have hsextets : sextets bytes=(s.takeWhile (fun c => c ≠ '=')).map alphabet.idxOf := by
      refine sextets_fromSextets (fun n hn => ?_) hsome
      obtain ⟨c,hc,rfl⟩ := List.mem_map.mp hn
      exact h.length ▸ List.idxOf_lt_length_of_mem (hmem c hc)
    have hrest : s.dropWhile (fun c => c ≠ '=')=List.replicate (s.dropWhile (fun c => c ≠ '=')).length '=' :=
      List.eq_replicate_of_mem fun c hc => of_decide_eq_true (hall c hc)
    refine ⟨_,hlength,?_⟩
    rw [hsextets,map_idxOf hmem,← hrest,List.takeWhile_append_dropWhile]
  · rintro ⟨k,hk,rfl⟩
    have hletter : ∀ c ∈ (sextets bytes).map (alphabet.getD · '='), decide (c ≠ '=') = true := by
      intro c hc
      rw [decide_eq_true_eq]
      rintro rfl
      exact h.padding (h.letters _ hc)
    have hpadding : (List.replicate k '=').takeWhile (fun c => decide (c ≠ '='))=[] ∧
        (List.replicate k '=').dropWhile (fun c => decide (c ≠ '='))=List.replicate k '=' := by
      cases k <;> simp [List.replicate_succ]
    rw [List.takeWhile_append_of_pos hletter,List.dropWhile_append_of_pos hletter,hpadding.1,hpadding.2,
      List.append_nil,if_pos (List.all_eq_true.mpr fun c hc => decide_eq_true (h.letters c hc)),
      h.map_getD (sextets_lt bytes),fromSextets_sextets,Option.filter_some,if_pos]
    simpa using hk

end IsBase64Alphabet

/-- A letter of both alphabets stands at the same place in them. -/
lemma idxOf_agree {c : Char} (h : c ∈ base64Alphabet) (h' : c ∈ base64UrlAlphabet) :
    base64Alphabet.idxOf c=base64UrlAlphabet.idxOf c := by
  rw [base64Alphabet_eq] at h ⊢
  rw [base64UrlAlphabet_eq] at h' ⊢
  have hletter : c ∈ base64Letters := by
    refine (List.mem_append.mp h).resolve_right fun htwo => ?_
    refine (List.mem_append.mp h').elim (fun hc => ?_) fun htwo' => ?_
    · obtain ⟨-,hplus,hslash,-,-⟩ := base64Letters_mem
      obtain rfl | rfl : c = '+' ∨ c = '/' := by simpa using htwo
      · exact hplus hc
      · exact hslash hc
    · obtain rfl | rfl : c = '+' ∨ c = '/' := by simpa using htwo
      · simp at htwo'
      · simp at htwo'
  rw [List.idxOf_append_of_mem hletter,List.idxOf_append_of_mem hletter]

/-- The alphabets differ in two letters only, so that no text has two meanings. -/
theorem base64Decode_agree {s : Str} {a b : Bytes} (ha : base64Decode base64Alphabet s=some a)
    (hb : base64Decode base64UrlAlphabet s=some b) : a=b := by
  unfold base64Decode at ha hb
  dsimp only at ha hb
  split_ifs at ha hb with hmem hmem'
  have hmem := IsBase64Alphabet.mem_of_all hmem
  have hmem' := IsBase64Alphabet.mem_of_all hmem'
  have hdigits : (s.takeWhile (fun c => c ≠ '=')).map base64Alphabet.idxOf=
      (s.takeWhile (fun c => c ≠ '=')).map base64UrlAlphabet.idxOf :=
    List.map_congr_left fun c hc => idxOf_agree (hmem c hc) (hmem' c hc)
  rw [hdigits] at ha
  have hsome := (Option.filter_eq_some_iff.mp ha).1
  rw [(Option.filter_eq_some_iff.mp hb).1] at hsome
  exact (Option.some.inj hsome).symm

lemma length_lt_sextets {bytes : Bytes} (h : bytes ≠ []) : bytes.length < (sextets bytes).length := by
  induction bytes using sextets.induct with
  | case1 => exact absurd rfl h
  | case2 a => simp [sextets]
  | case3 a b => simp [sextets]
  | case4 a b c rest ih =>
    simp only [sextets,List.length_cons]
    by_cases hrest : rest=[]
    · simp [hrest]
    · have hlt := ih hrest
      omega

lemma sextets_length_ne (bytes : Bytes) : (sextets bytes).length%4 ≠ 1 := by
  induction bytes using sextets.induct with
  | case1 => simp [sextets]
  | case2 a => simp [sextets]
  | case3 a b => simp [sextets]
  | case4 a b c rest ih =>
    simp only [sextets,List.length_cons]
    omega

/-- One character more than whole groups is no base64. -/
lemma IsBase64Of.length_ne {alphabet s : Str} {bytes : Bytes} (h : IsBase64Of alphabet s bytes) (hpadding : '=' ∉ s) :
    s.length%4 ≠ 1 := by
  obtain ⟨padding,-,rfl⟩ := h
  cases padding with
  | zero => simpa using sextets_length_ne bytes
  | succ padding => exact absurd (List.mem_append_right _ List.mem_cons_self) hpadding

/-- A text stands for fewer bytes than it has characters. -/
theorem IsBase64Of.length_lt {alphabet s : Str} {bytes : Bytes} (h : IsBase64Of alphabet s bytes) (hne : bytes ≠ []) :
    bytes.length < s.length := by
  obtain ⟨padding,-,rfl⟩ := h
  have hlt := length_lt_sextets hne
  simp only [List.length_append,List.length_map]
  omega

end RotatorProxy.Text
