import Mathlib.Data.List.DropRight
import Mathlib.Data.List.Infix
import Mathlib.Tactic

/-! The string operations of the standard library that the program uses, on the list of
characters of a `str`. Bytes are the UTF-8 encoding of that list. -/
namespace RotatorProxy.Text

/-- The characters of a Rust `str`. -/
abbrev Str := List Char

instance : LawfulBEq Str := inferInstance

abbrev Bytes := List UInt8

/-- `char::is_whitespace`: the Unicode property White_Space. -/
def isWhitespace (c : Char) : Bool :=
  let n := c.toNat
  (9 ≤ n && n ≤ 13) || n==0x20 || n==0x85 || n==0xa0 || n==0x1680 || (0x2000 ≤ n && n ≤ 0x200a) ||
    n==0x2028 || n==0x2029 || n==0x202f || n==0x205f || n==0x3000

/-- `str::trim` -/
def trim (s : Str) : Str := (s.dropWhile isWhitespace).rdropWhile isWhitespace

/-- `str::split_whitespace`: the maximal blocks of other characters. -/
def splitWhitespaceFrom : Str → Str → List Str
  | word,[] => if word=[] then [] else [word.reverse]
  | word,c::cs =>
    if isWhitespace c then
      if word=[] then splitWhitespaceFrom [] cs else word.reverse::splitWhitespaceFrom [] cs
    else splitWhitespaceFrom (c::word) cs

def splitWhitespace (s : Str) : List Str := splitWhitespaceFrom [] s

/-- `str::split("\r\n")` -/
def splitCrlf : Str → List Str
  | '\r':: '\n'::cs => []::splitCrlf cs
  | c::cs =>
    match splitCrlf cs with
    | [] => [[c]]
    | line::lines => (c::line)::lines
  | [] => [[]]

/-- `str::split_once` at a character; a decoder uses it on bytes. -/
def splitOnce {α : Type} [DecidableEq α] (sep : α) : List α → Option (List α × List α)
  | [] => none
  | c::cs => if c=sep then some ([],cs) else (splitOnce sep cs).map (fun p => (c::p.1,p.2))

/-- `str::rsplit_once` at a character -/
def rsplitOnce (sep : Char) (s : Str) : Option (Str × Str) :=
  (splitOnce sep s.reverse).map (fun p => (p.2.reverse,p.1.reverse))

/-- `str::strip_prefix` of a character -/
def stripPrefix (c : Char) : Str → Option Str
  | d::cs => if d=c then some cs else none
  | [] => none

/-- The first item of `str::lines`. -/
def firstLine (s : Str) : Option Str :=
  if s=[] then none
  else if '\n' ∈ s then
    let line := s.takeWhile (fun c => c ≠ '\n')
    some (if line.getLast? = some '\r' then line.dropLast else line)
  else some s

def asciiLowercase (c : Char) : Char :=
  if 'A'.toNat ≤ c.toNat ∧ c.toNat ≤ 'Z'.toNat then Char.ofNat (c.toNat+32) else c

/-- `str::to_ascii_lowercase` -/
def toAsciiLowercase (s : Str) : Str := s.map asciiLowercase

/-- `str::eq_ignore_ascii_case` -/
def eqIgnoreAsciiCase (s t : Str) : Bool := toAsciiLowercase s == toAsciiLowercase t

/-- `str::parse::<u16>`: an optional plus sign, at least one digit, and no overflow. -/
def parseU16 (s : Str) : Option UInt16 :=
  let digits := (stripPrefix '+' s).getD s
  if digits ≠ [] ∧ digits.all Char.isDigit ∧ Nat.ofDigitChars 10 digits 0 < 65536 then
    some (UInt16.ofNat (Nat.ofDigitChars 10 digits 0))
  else none

/-- `Display` of an unsigned number -/
def decimal (n : ℕ) : Str := Nat.toDigits 10 n

/-- `str::as_bytes` -/
def utf8 (s : Str) : Bytes := s.flatMap String.utf8EncodeChar

/-- `str::from_utf8` -/
def fromUtf8 (b : Bytes) : Option Str := b.toByteArray.utf8Decode?.map Array.toList

@[simp] theorem fromUtf8_utf8 (s : Str) : fromUtf8 (utf8 s) = some s := by
  have h : (utf8 s).toByteArray = s.utf8Encode := rfl
  simp [fromUtf8,h]

theorem utf8_injective : Function.Injective utf8 := by
  intro s t h
  have hs := fromUtf8_utf8 s
  rw [h,fromUtf8_utf8] at hs
  exact (Option.some.inj hs).symm

@[simp] theorem utf8_append (s t : Str) : utf8 (s++t) = utf8 s++utf8 t := by
  simp [utf8]

@[simp] theorem utf8_nil : utf8 [] = [] := rfl

lemma utf8_cons (c : Char) (s : Str) : utf8 (c::s) = String.utf8EncodeChar c++utf8 s := by
  simp [utf8]

/-! Decimal numbers -/

theorem parseU16_decimal (n : UInt16) : parseU16 (decimal n.toNat) = some n := by
  have hplus : stripPrefix '+' (decimal n.toNat) = none := by
    cases hd : decimal n.toNat with
    | nil => rfl
    | cons c cs =>
      have hc : c.isDigit := Nat.isDigit_of_mem_toDigits (b := 10) (by omega) (by omega)
        (by rw [← decimal.eq_1,hd]; exact List.mem_cons_self)
      simp only [stripPrefix]
      split
      · next he => subst he; simp at hc
      · rfl
  have hlt := n.toNat_lt
  have hall : (decimal n.toNat).all Char.isDigit := by
    rw [List.all_eq_true]
    intro c hc
    exact Nat.isDigit_of_mem_toDigits (by omega) (by omega) hc
  simp only [parseU16,hplus,Option.getD_none]
  simp only [decimal,Nat.ofDigitChars_ten_toDigits]
  rw [if_pos ⟨Nat.toDigits_ne_nil,hall,by omega⟩]
  simp

lemma decimal_isDigit {n : ℕ} {c : Char} (h : c ∈ decimal n) : c.isDigit :=
  Nat.isDigit_of_mem_toDigits (by omega) (by omega) h

lemma notMem_decimal {c : Char} (hc : ¬c.isDigit) (n : ℕ) : c ∉ decimal n := fun h => hc (decimal_isDigit h)

theorem decimal_toNat_injective : Function.Injective (fun n : UInt16 => decimal n.toNat) := by
  intro n m h
  have hn := parseU16_decimal n
  rw [show decimal n.toNat=decimal m.toNat from h,parseU16_decimal] at hn
  exact (Option.some.inj hn).symm

end RotatorProxy.Text
