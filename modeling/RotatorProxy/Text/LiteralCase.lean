import RotatorProxy.Text.Casing
import RotatorProxy.Text.IpAddr

/-! A text is read as an IP address whatever the case of its hexadecimal digits. -/
namespace RotatorProxy.Text

lemma char_le_iff {a b : Char} : a ≤ b ↔ a.toNat ≤ b.toNat := Iff.rfl

lemma toDigit_asciiLowercase (radix : ℕ) (c : Char) : toDigit radix (asciiLowercase c)=toDigit radix c := by
  by_cases hc : IsAsciiUpper c
  · have hlow := asciiLowercase_upper hc
    have hge : 65 ≤ c.toNat := hc.1
    have hle : c.toNat ≤ 90 := hc.2
    obtain ⟨h0,h9,ha,hz,hA,hZ⟩ : '0'.toNat=48 ∧ '9'.toNat=57 ∧ 'a'.toNat=97 ∧ 'z'.toNat=122 ∧
        'A'.toNat=65 ∧ 'Z'.toNat=90 := by decide
    unfold toDigit
    simp only [char_le_iff,hlow]
    rw [if_neg (by omega),if_pos (by omega),if_neg (by omega),if_neg (by omega),if_pos (by omega)]
    have hsame : c.toNat+32- 'a'.toNat+10=c.toNat- 'A'.toNat+10 := by omega
    rw [hsame]
  · rw [asciiLowercase_other hc]

/-- A reader that does not see the case of what it reads, and leaves the rest as it is. -/
def IgnoresCase {α : Type} (read : Str → Option (α × Str)) : Prop :=
  ∀ s, read (toAsciiLowercase s) = (read s).map fun p => (p.1,toAsciiLowercase p.2)

namespace IgnoresCase
variable {α β : Type} {read : Str → Option (α × Str)}

lemma bind (h : IgnoresCase read) {next : α → Str → Option (β × Str)} (hnext : ∀ a, IgnoresCase (next a)) :
    IgnoresCase fun s => (read s).bind fun p => next p.1 p.2 := by
  intro s
  dsimp only
  rw [h s]
  cases read s with
  | none => rfl
  | some p => exact hnext p.1 p.2

lemma pure (a : α) : IgnoresCase fun s => some (a,s) := fun _ => rfl

end IgnoresCase

lemma stripPrefix_toAsciiLowercase {sep : Char} (hsep : ∀ c, asciiLowercase c=sep ↔ c=sep) (s : Str) :
    stripPrefix sep (toAsciiLowercase s) = (stripPrefix sep s).map toAsciiLowercase := by
  cases s with
  | nil => rfl
  | cons c s =>
    change (if asciiLowercase c=sep then some (toAsciiLowercase s) else none)=
      (if c=sep then some s else none).map toAsciiLowercase
    simp only [hsep c]
    split_ifs <;> rfl

lemma colon_case (c : Char) : asciiLowercase c= ':' ↔ c= ':' :=
  asciiLowercase_eq_iff (fun h => absurd h.1 (by decide)) (fun h => absurd h.1 (by decide))

lemma dot_case (c : Char) : asciiLowercase c= '.' ↔ c= '.' :=
  asciiLowercase_eq_iff (fun h => absurd h.1 (by decide)) (fun h => absurd h.1 (by decide))

lemma zero_case (c : Char) : asciiLowercase c= '0' ↔ c= '0' :=
  asciiLowercase_eq_iff (fun h => absurd h.1 (by decide)) (fun h => absurd h.1 (by decide))

theorem readNumber_ignoresCase (radix maxDigits : ℕ) (allow : Bool) (bound : ℕ) :
    IgnoresCase (readNumber radix maxDigits allow bound) := by
  intro s
  have hdigits : (toAsciiLowercase s).takeWhile (fun c => (toDigit radix c).isSome) =
      toAsciiLowercase (s.takeWhile (fun c => (toDigit radix c).isSome)) := by
    rw [toAsciiLowercase,List.takeWhile_map,toAsciiLowercase]
    congr 2
    funext c
    exact congrArg Option.isSome (toDigit_asciiLowercase radix c)
  have hvalue : ∀ (digits : Str) (n : ℕ),
      (toAsciiLowercase digits).foldl (fun acc c => acc*radix+(toDigit radix c).getD 0) n =
        digits.foldl (fun acc c => acc*radix+(toDigit radix c).getD 0) n := by
    intro digits n
    rw [toAsciiLowercase,List.foldl_map]
    simp only [toDigit_asciiLowercase]
  have hzero : ∀ digits : Str, (toAsciiLowercase digits).head?=some '0' ↔ digits.head?=some '0' := by
    intro digits
    rw [toAsciiLowercase,List.head?_map]
    cases digits.head? with
    | none => simp
    | some c => simp [zero_case]
  have hlength : ∀ digits : Str, (toAsciiLowercase digits).length=digits.length :=
    fun digits => List.length_map ..
  have hnil : ∀ digits : Str, toAsciiLowercase digits=[] ↔ digits=[] := fun digits => List.map_eq_nil_iff
  unfold readNumber
  dsimp only
  simp only [hdigits,hvalue,hzero,hlength,hnil]
  split_ifs
  · rfl
  · rw [toAsciiLowercase,← List.map_drop]
    rfl

lemma readSeparator_ignoresCase {α : Type} {sep : Char} (hsep : ∀ c, asciiLowercase c=sep ↔ c=sep)
    (index : ℕ) {inner : Str → Option (α × Str)} (hinner : IgnoresCase inner) :
    IgnoresCase (readSeparator sep index inner) := by
  intro s
  unfold readSeparator
  split_ifs
  · exact hinner s
  · rw [stripPrefix_toAsciiLowercase hsep]
    cases stripPrefix sep s with
    | none => rfl
    | some rest => exact hinner rest

theorem readIpv4Addr_ignoresCase : IgnoresCase readIpv4Addr := by
  have hnumber := readNumber_ignoresCase 10 3 false 256
  have hpart : ∀ index, IgnoresCase (readSeparator '.' index (readNumber 10 3 false 256)) :=
    fun index => readSeparator_ignoresCase dot_case index hnumber
  exact hnumber.bind fun a => (hpart 1).bind fun b => (hpart 2).bind fun c => (hpart 3).bind fun d =>
    IgnoresCase.pure (Ipv4Addr.mk (UInt8.ofNat a) (UInt8.ofNat b) (UInt8.ofNat c) (UInt8.ofNat d))

/-- The groups, with the rest in lower case. -/
def Groups.lower (g : Groups) : Groups := { g with rest := toAsciiLowercase g.rest }

theorem readGroupsFrom_toAsciiLowercase (limit n i : ℕ) (s : Str) :
    readGroupsFrom limit n i (toAsciiLowercase s) = (readGroupsFrom limit n i s).lower := by
  induction n generalizing i s with
  | zero => rfl
  | succ n ih =>
    have hip : (if i+1 < limit then readSeparator ':' i readIpv4Addr (toAsciiLowercase s) else none) =
        (if i+1 < limit then readSeparator ':' i readIpv4Addr s else none).map
          fun p => (p.1,toAsciiLowercase p.2) := by
      split_ifs
      · exact readSeparator_ignoresCase colon_case i readIpv4Addr_ignoresCase s
      · rfl
    rw [readGroupsFrom,readGroupsFrom,hip,
      readSeparator_ignoresCase colon_case i (readNumber_ignoresCase 16 4 true 65536) s]
    cases (if i+1 < limit then readSeparator ':' i readIpv4Addr s else none) with
    | some found => rfl
    | none =>
      cases readSeparator ':' i (readNumber 16 4 true 65536) s with
      | none => rfl
      | some found =>
        dsimp only [Option.map_some,Option.map_none]
        rw [ih (i+1) found.2]
        rfl

theorem readIpv6Addr_ignoresCase : IgnoresCase readIpv6Addr := by
  intro s
  have hgroups : ∀ limit s, readGroups limit (toAsciiLowercase s) = (readGroups limit s).lower :=
    fun limit => readGroupsFrom_toAsciiLowercase limit limit 0
  unfold readIpv6Addr
  rw [hgroups]
  dsimp only [Groups.lower]
  split_ifs
  · cases ipv6OfParts (readGroups 8 s).groups [] <;> rfl
  · rfl
  · rw [stripPrefix_toAsciiLowercase colon_case]
    cases stripPrefix ':' (readGroups 8 s).rest with
    | none => rfl
    | some s1 =>
      have hsecond := stripPrefix_toAsciiLowercase colon_case s1
      dsimp only [Option.map_some,Option.bind_eq_bind,Option.bind_some]
      rw [hsecond]
      cases stripPrefix ':' s1 with
      | none => rfl
      | some s2 =>
        dsimp only [Option.map_some,Option.bind_some]
        rw [hgroups]
        dsimp only [Groups.lower]
        cases ipv6OfParts (readGroups 8 s).groups _ <;> rfl

theorem parseIpAddr_toAsciiLowercase (s : Str) : parseIpAddr (toAsciiLowercase s)=parseIpAddr s := by
  unfold parseIpAddr
  rw [readIpv4Addr_ignoresCase s,readIpv6Addr_ignoresCase s]
  have hnil : ∀ rest : Str, toAsciiLowercase rest=[] ↔ rest=[] := fun rest => List.map_eq_nil_iff
  cases readIpv4Addr s with
  | some read =>
    dsimp only [Option.map_some,Option.some_or,Option.bind_some]
    simp only [hnil]
  | none =>
    cases readIpv6Addr s with
    | some read =>
      dsimp only [Option.map_none,Option.map_some,Option.none_or,Option.bind_some]
      simp only [hnil]
    | none => rfl

end RotatorProxy.Text
