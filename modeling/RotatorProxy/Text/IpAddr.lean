import RotatorProxy.Text.Str

/-! The standard library's IP addresses: the parser behind `parse::<IpAddr>` and the two `Display`
implementations. -/
namespace RotatorProxy.Text

structure Ipv4Addr where
  a : UInt8
  b : UInt8
  c : UInt8
  d : UInt8
  deriving DecidableEq, Repr

/-- Eight groups of sixteen bits. -/
structure Ipv6Addr where
  segments : List UInt16
  length_eq : segments.length=8
  deriving DecidableEq

inductive IpAddr
  | v4 (ip : Ipv4Addr)
  | v6 (ip : Ipv6Addr)
  deriving DecidableEq

def Ipv4Addr.octets (ip : Ipv4Addr) : Bytes := [ip.a,ip.b,ip.c,ip.d]

def Ipv6Addr.octets (ip : Ipv6Addr) : Bytes :=
  ip.segments.flatMap (fun s => [UInt8.ofNat (s.toNat/256),UInt8.ofNat (s.toNat%256)])

/-! Display -/

def hexadecimal (n : ℕ) : Str := Nat.toDigits 16 n

def Ipv4Addr.display (ip : Ipv4Addr) : Str :=
  decimal ip.a.toNat++ '.'::decimal ip.b.toNat++ '.'::decimal ip.c.toNat++ '.'::decimal ip.d.toNat

def fmtSubslice : List UInt16 → Str
  | [] => []
  | first::tail => hexadecimal first.toNat++tail.flatMap (fun s => ':'::hexadecimal s.toNat)

/-- Start and length of a run of zero groups. -/
structure Span where
  start : ℕ
  len : ℕ

/-- The scan for the longest inner run of zeroes: the first one wins a tie. -/
def longestZeroes : List UInt16 → ℕ → Span → Span → Span
  | [],_,_,longest => longest
  | s::tail,i,current,longest =>
    if s=0 then
      let current : Span := ⟨if current.len=0 then i else current.start,current.len+1⟩
      longestZeroes tail (i+1) current (if longest.len < current.len then current else longest)
    else longestZeroes tail (i+1) ⟨0,0⟩ longest

/-- `to_ipv4_mapped` -/
def Ipv6Addr.toIpv4Mapped (ip : Ipv6Addr) : Option Ipv4Addr :=
  match ip.segments with
  | [0,0,0,0,0,0xffff,ab,cd] =>
    some ⟨UInt8.ofNat (ab.toNat/256),UInt8.ofNat (ab.toNat%256),
      UInt8.ofNat (cd.toNat/256),UInt8.ofNat (cd.toNat%256)⟩
  | _ => none

def Ipv6Addr.display (ip : Ipv6Addr) : Str :=
  match ip.toIpv4Mapped with
  | some ipv4 => "::ffff:".toList++ipv4.display
  | none =>
    let zeroes := longestZeroes ip.segments 0 ⟨0,0⟩ ⟨0,0⟩
    if 1 < zeroes.len then
      fmtSubslice (ip.segments.take zeroes.start)++ ':':: ':'::
        fmtSubslice (ip.segments.drop (zeroes.start+zeroes.len))
    else fmtSubslice ip.segments

def IpAddr.display : IpAddr → Str
  | .v4 ip => ip.display
  | .v6 ip => ip.display

/-! Parsing -/

/-- `char::to_digit` -/
def toDigit (radix : ℕ) (c : Char) : Option ℕ :=
  let value :=
    if '0' ≤ c ∧ c ≤ '9' then some (c.toNat- '0'.toNat)
    else if 'a' ≤ c ∧ c ≤ 'z' then some (c.toNat- 'a'.toNat+10)
    else if 'A' ≤ c ∧ c ≤ 'Z' then some (c.toNat- 'A'.toNat+10)
    else none
  value.filter (fun n => decide (n < radix))

def readNumber (radix maxDigits : ℕ) (allowZeroPrefix : Bool) (bound : ℕ) (s : Str) :
    Option (ℕ × Str) :=
  let digits := s.takeWhile (fun c => (toDigit radix c).isSome)
  let value := digits.foldl (fun acc c => acc*radix+(toDigit radix c).getD 0) 0
  if digits=[] ∨ maxDigits < digits.length ∨ bound ≤ value ∨
      (allowZeroPrefix=false ∧ digits.head? = some '0' ∧ 1 < digits.length) then none
  else some (value,s.drop digits.length)

/-- The separator stands before every item but the first. -/
def readSeparator {α : Type} (sep : Char) (index : ℕ) (inner : Str → Option (α × Str)) (s : Str) :
    Option (α × Str) :=
  if index=0 then inner s else (stripPrefix sep s).bind inner

def readIpv4Addr (s : Str) : Option (Ipv4Addr × Str) := do
  let (a,s) ← readNumber 10 3 false 256 s
  let (b,s) ← readSeparator '.' 1 (readNumber 10 3 false 256) s
  let (c,s) ← readSeparator '.' 2 (readNumber 10 3 false 256) s
  let (d,s) ← readSeparator '.' 3 (readNumber 10 3 false 256) s
  return (⟨UInt8.ofNat a,UInt8.ofNat b,UInt8.ofNat c,UInt8.ofNat d⟩,s)

/-- What `read_groups` found: the groups, whether an embedded IPv4 address ended them, the rest. -/
structure Groups where
  groups : List UInt16
  ipv4 : Bool
  rest : Str

/-- The slots `i` to `limit` still to be filled; `n` counts them. -/
def readGroupsFrom (limit : ℕ) : (n i : ℕ) → Str → Groups
  | 0,_,s => ⟨[],false,s⟩
  | n+1,i,s =>
    match (if i+1 < limit then readSeparator ':' i readIpv4Addr s else none) with
    | some (ip,rest) =>
      ⟨[UInt16.ofNat (ip.a.toNat*256+ip.b.toNat),UInt16.ofNat (ip.c.toNat*256+ip.d.toNat)],true,rest⟩
    | none =>
      match readSeparator ':' i (readNumber 16 4 true 65536) s with
      | some (group,rest) =>
        let found := readGroupsFrom limit n (i+1) rest
        ⟨UInt16.ofNat group::found.groups,found.ipv4,found.rest⟩
      | none => ⟨[],false,s⟩

def readGroups (limit : ℕ) (s : Str) : Groups := readGroupsFrom limit limit 0 s

/-- Eight groups out of a head and a tail, with zeroes in between. -/
def ipv6OfParts (head tail : List UInt16) : Option Ipv6Addr :=
  let segments := head++List.replicate (8-head.length-tail.length) 0++tail
  if h : segments.length=8 then some ⟨segments,h⟩ else none

def readIpv6Addr (s : Str) : Option (Ipv6Addr × Str) :=
  let head := readGroups 8 s
  if head.groups.length=8 then (ipv6OfParts head.groups []).map (fun ip => (ip,head.rest))
  else if head.ipv4 then none
  else do
    let s ← stripPrefix ':' head.rest
    let s ← stripPrefix ':' s
    let tail := readGroups (8-(head.groups.length+1)) s
    let ip ← ipv6OfParts head.groups tail.groups
    return (ip,tail.rest)

/-- `parse::<IpAddr>`: the whole text must be used up. -/
def parseIpAddr (s : Str) : Option IpAddr :=
  let read := ((readIpv4Addr s).map (fun p => (IpAddr.v4 p.1,p.2))).or
    ((readIpv6Addr s).map (fun p => (IpAddr.v6 p.1,p.2)))
  read.bind (fun p => if p.2=[] then some p.1 else none)

example : parseIpAddr "127.0.0.1".toList = some (.v4 ⟨127,0,0,1⟩) := by decide

example : (parseIpAddr "2001:db8::ff:1.2.3.4".toList).isSome = true ∧
    parseIpAddr "1.2.3.04".toList = none ∧ parseIpAddr "::1::".toList = none ∧
    parseIpAddr "example.com".toList = none := by decide

example : (⟨[0x2001,0xdb8,0,0,1,0,0,1],rfl⟩ : Ipv6Addr).display = "2001:db8::1:0:0:1".toList := by decide

/-! The characters that an address is written with. -/

def IsAddrChar (c : Char) : Prop := c.isDigit ∨ ('a' ≤ c ∧ c ≤ 'f') ∨ c = ':' ∨ c = '.'

lemma hexadecimal_chars (n : ℕ) : ∀ c ∈ hexadecimal n, IsAddrChar c := by
  induction n using Nat.strong_induction_on with
  | _ n ih =>
    intro c hc
    simp only [hexadecimal] at hc
    rw [Nat.toDigits_eq_if (by omega)] at hc
    have hdigit : ∀ d < 16, IsAddrChar d.digitChar := by
      unfold IsAddrChar
      decide
    split at hc
    · next hlt => rw [List.mem_singleton.mp hc]; exact hdigit n hlt
    · next hge =>
      rcases List.mem_append.mp hc with hc | hc
      · exact ih (n/16) (by omega) c hc
      · rw [List.mem_singleton.mp hc]
        exact hdigit _ (Nat.mod_lt _ (by omega))

lemma decimal_chars (n : ℕ) : ∀ c ∈ decimal n, IsAddrChar c :=
  fun _ hc => Or.inl (decimal_isDigit hc)

lemma Ipv4Addr.display_chars (ip : Ipv4Addr) : ∀ c ∈ ip.display, IsAddrChar c := by
  have hdot : IsAddrChar '.' := by simp [IsAddrChar]
  intro c hc
  simp only [Ipv4Addr.display,List.mem_append,List.mem_cons] at hc
  rcases hc with ((hc | rfl | hc) | rfl | hc) | rfl | hc
  all_goals first | exact hdot | exact decimal_chars _ c hc

lemma Ipv4Addr.colon_notMem (ip : Ipv4Addr) : ':' ∉ ip.display := by
  intro h
  have hno : ∀ n, ':' ∉ decimal n := fun n h => absurd (decimal_isDigit h) (by decide)
  simp [Ipv4Addr.display,hno] at h

lemma fmtSubslice_chars (l : List UInt16) : ∀ c ∈ fmtSubslice l, IsAddrChar c := by
  have hcolon : IsAddrChar ':' := by simp [IsAddrChar]
  intro c hc
  cases l with
  | nil => cases hc
  | cons first tail =>
    simp only [fmtSubslice,List.mem_append,List.mem_flatMap,List.mem_cons] at hc
    rcases hc with hc | ⟨s,_,rfl | hc⟩
    · exact hexadecimal_chars _ c hc
    · exact hcolon
    · exact hexadecimal_chars _ c hc

theorem Ipv6Addr.display_chars (ip : Ipv6Addr) : ∀ c ∈ ip.display, IsAddrChar c := by
  have hcolon : IsAddrChar ':' := by simp [IsAddrChar]
  have hmapped : ∀ c ∈ "::ffff:".toList, IsAddrChar c := by
    have hchars : "::ffff:".toList.all (fun c => decide (c = ':' ∨ c = 'f')) = true := by decide
    intro c hc
    rcases of_decide_eq_true (List.all_eq_true.mp hchars c hc) with rfl | rfl
    · exact hcolon
    · simp [IsAddrChar]
  intro c hc
  unfold Ipv6Addr.display at hc
  split at hc
  · next ipv4 _ =>
    rcases List.mem_append.mp hc with hc | hc
    · exact hmapped c hc
    · exact ipv4.display_chars c hc
  · dsimp only at hc
    split at hc
    · simp only [List.mem_append,List.mem_cons] at hc
      rcases hc with hc | rfl | rfl | hc
      · exact fmtSubslice_chars _ c hc
      · exact hcolon
      · exact hcolon
      · exact fmtSubslice_chars _ c hc
    · exact fmtSubslice_chars _ c hc

lemma fmtSubslice_ne_nil {l : List UInt16} (h : l ≠ []) : fmtSubslice l ≠ [] := by
  cases l with
  | nil => exact absurd rfl h
  | cons first tail =>
    rw [fmtSubslice]
    exact List.append_ne_nil_of_left_ne_nil Nat.toDigits_ne_nil _

theorem Ipv6Addr.display_ne_nil (ip : Ipv6Addr) : ip.display ≠ [] := by
  have hne : ip.segments ≠ [] := by
    intro h
    have hlen := ip.length_eq
    rw [h] at hlen
    cases hlen
  unfold Ipv6Addr.display
  split
  · simp
  · dsimp only
    split
    · simp
    · exact fmtSubslice_ne_nil hne

end RotatorProxy.Text
