import RotatorProxy.Text.IpAddr
import RotatorProxy.Text.Split

/-! The characters of a text that is read as an IP address, and how long a printed address is. -/
namespace RotatorProxy.Text

/-- What a reader has used up of a text is made of such characters. -/
def Uses (P : Char → Prop) (s rest : Str) : Prop := ∃ used, s=used++rest ∧ ∀ c ∈ used, P c

namespace Uses
variable {P Q : Char → Prop} {s r rest : Str}

lemma refl (s : Str) : Uses P s s := ⟨[],rfl,fun _ hc => absurd hc List.not_mem_nil⟩

lemma trans (h : Uses P s r) (h' : Uses P r rest) : Uses P s rest := by
  obtain ⟨used,rfl,hused⟩ := h
  obtain ⟨used',rfl,hused'⟩ := h'
  refine ⟨used++used',(List.append_assoc used used' rest).symm,fun c hc => ?_⟩
  exact (List.mem_append.mp hc).elim (hused c) (hused' c)

lemma mono (hPQ : ∀ c, P c → Q c) (h : Uses P s rest) : Uses Q s rest := by
  obtain ⟨used,rfl,hused⟩ := h
  exact ⟨used,rfl,fun c hc => hPQ c (hused c hc)⟩

lemma stripPrefix {sep : Char} (hsep : P sep) (h : stripPrefix sep s = some rest) : Uses P s rest := by
  obtain rfl := stripPrefix_eq_some.mp h
  refine ⟨[sep],rfl,fun d hd => ?_⟩
  rwa [List.mem_singleton.mp hd]

/-- All of a text that is used up. -/
lemma all (h : Uses P s []) : ∀ c ∈ s, P c := by
  obtain ⟨used,rfl,hused⟩ := h
  rwa [List.append_nil]

end Uses

/-- Hexadecimal digits in either case, colons and dots. -/
def IsLiteralChar (c : Char) : Prop := (toDigit 16 c).isSome ∨ c= ':' ∨ c= '.'

instance : DecidablePred IsLiteralChar := fun _ => inferInstanceAs (Decidable (_ ∨ _))

lemma toDigit_mono {radix radix' : ℕ} (hle : radix ≤ radix') {c : Char} (h : (toDigit radix c).isSome) :
    (toDigit radix' c).isSome := by
  obtain ⟨n,hn⟩ := Option.isSome_iff_exists.mp h
  obtain ⟨hvalue,hlt⟩ := Option.filter_eq_some_iff.mp hn
  rw [Option.isSome_iff_exists]
  refine ⟨n,Option.filter_eq_some_iff.mpr ⟨hvalue,decide_eq_true ?_⟩⟩
  have hlt := of_decide_eq_true hlt
  omega

section
variable {s rest : Str}

lemma readNumber_uses {radix maxDigits : ℕ} {allow : Bool} {bound n : ℕ}
    (h : readNumber radix maxDigits allow bound s = some (n,rest)) :
    Uses (fun c => (toDigit radix c).isSome) s rest := by
  unfold readNumber at h
  dsimp only at h
  split_ifs at h with hbad
  cases h
  refine ⟨s.takeWhile (fun c => (toDigit radix c).isSome),?_,fun c hc => ?_⟩
  · exact (List.prefix_iff_eq_append.mp (List.takeWhile_prefix _)).symm
  · exact List.mem_takeWhile_imp (p := fun c => (toDigit radix c).isSome) hc

lemma readNumber_literal {radix maxDigits : ℕ} (hradix : radix ≤ 16) {allow : Bool} {bound n : ℕ}
    (h : readNumber radix maxDigits allow bound s = some (n,rest)) : Uses IsLiteralChar s rest :=
  (readNumber_uses h).mono fun _ hc => .inl (toDigit_mono hradix hc)

lemma readSeparator_uses {α : Type} {P : Char → Prop} {sep : Char} (hsep : P sep) {index : ℕ}
    {inner : Str → Option (α × Str)} {a : α} (hinner : ∀ {s rest}, inner s = some (a,rest) → Uses P s rest)
    (h : readSeparator sep index inner s = some (a,rest)) : Uses P s rest := by
  unfold readSeparator at h
  split_ifs at h
  · exact hinner h
  · obtain ⟨r,hr,h⟩ := Option.bind_eq_some_iff.mp h
    exact (Uses.stripPrefix hsep hr).trans (hinner h)

/-- Decimal digits and dots. -/
def IsIpv4Char (c : Char) : Prop := (toDigit 10 c).isSome ∨ c= '.'

instance : DecidablePred IsIpv4Char := fun _ => inferInstanceAs (Decidable (_ ∨ _))

lemma readIpv4Addr_uses {ip : Ipv4Addr} (h : readIpv4Addr s = some (ip,rest)) : Uses IsIpv4Char s rest := by
  have hdot : IsIpv4Char '.' := .inr rfl
  obtain ⟨⟨a,s1⟩,ha,h⟩ := Option.bind_eq_some_iff.mp h
  obtain ⟨⟨b,s2⟩,hb,h⟩ := Option.bind_eq_some_iff.mp h
  obtain ⟨⟨c,s3⟩,hc,h⟩ := Option.bind_eq_some_iff.mp h
  obtain ⟨⟨d,s4⟩,hd,h⟩ := Option.bind_eq_some_iff.mp h
  cases h
  have hnumber : ∀ {n : ℕ} {s rest : Str}, readNumber 10 3 false 256 s = some (n,rest) →
      Uses IsIpv4Char s rest := fun h => (readNumber_uses h).mono fun _ => .inl
  exact (((hnumber ha).trans (readSeparator_uses hdot hnumber hb)).trans
    (readSeparator_uses hdot hnumber hc)).trans (readSeparator_uses hdot hnumber hd)

lemma readIpv4Addr_literal {ip : Ipv4Addr} (h : readIpv4Addr s = some (ip,rest)) : Uses IsLiteralChar s rest :=
  (readIpv4Addr_uses h).mono fun _ hc => hc.imp (toDigit_mono (by omega)) .inr

lemma readGroupsFrom_literal (limit n i : ℕ) (s : Str) :
    Uses IsLiteralChar s (readGroupsFrom limit n i s).rest := by
  have hcolon : IsLiteralChar ':' := .inr (.inl rfl)
  induction n generalizing i s with
  | zero => exact .refl s
  | succ n ih =>
    rw [readGroupsFrom]
    cases hip : (if i+1 < limit then readSeparator ':' i readIpv4Addr s else none) with
    | some found =>
      obtain ⟨ip,rest⟩ := found
      split_ifs at hip
      exact readSeparator_uses hcolon readIpv4Addr_literal hip
    | none =>
      dsimp only
      cases hgroup : readSeparator ':' i (readNumber 16 4 true 65536) s with
      | some found =>
        obtain ⟨group,rest⟩ := found
        exact (readSeparator_uses hcolon (readNumber_literal (Nat.le_refl 16)) hgroup).trans
          (ih (i+1) rest)
      | none => exact .refl s

lemma readIpv6Addr_literal {ip : Ipv6Addr} (h : readIpv6Addr s = some (ip,rest)) :
    Uses IsLiteralChar s rest := by
  have hcolon : IsLiteralChar ':' := .inr (.inl rfl)
  have hhead : Uses IsLiteralChar s (readGroups 8 s).rest := readGroupsFrom_literal 8 8 0 s
  unfold readIpv6Addr at h
  dsimp only at h
  split_ifs at h
  · obtain ⟨_,_,heq⟩ := Option.map_eq_some_iff.mp h
    rw [← (Prod.mk.inj heq).2]
    exact hhead
  · obtain ⟨s1,h1,h⟩ := Option.bind_eq_some_iff.mp h
    obtain ⟨s2,h2,h⟩ := Option.bind_eq_some_iff.mp h
    obtain ⟨_,_,h⟩ := Option.bind_eq_some_iff.mp h
    cases h
    exact ((hhead.trans (.stripPrefix hcolon h1)).trans (.stripPrefix hcolon h2)).trans
      (readGroupsFrom_literal _ _ 0 s2)

end

/-- An address is read to the end of the text, by the reader of its version. -/
lemma parseIpAddr_read {s : Str} {ip : IpAddr} (h : parseIpAddr s = some ip) :
    (∃ v4, readIpv4Addr s = some (v4,[]) ∧ ip = .v4 v4) ∨ ∃ v6, readIpv6Addr s = some (v6,[]) ∧ ip = .v6 v6 := by
  unfold parseIpAddr at h
  dsimp only at h
  obtain ⟨⟨_,rest⟩,hread,h⟩ := Option.bind_eq_some_iff.mp h
  split_ifs at h with hrest
  dsimp only at hrest
  subst hrest
  cases h
  obtain hread | ⟨_,hread⟩ := Option.or_eq_some_iff.mp hread
  · obtain ⟨⟨v4,_⟩,hv4,heq⟩ := Option.map_eq_some_iff.mp hread
    obtain ⟨rfl,rfl⟩ := Prod.mk.inj heq
    exact .inl ⟨v4,hv4,rfl⟩
  · obtain ⟨⟨v6,_⟩,hv6,heq⟩ := Option.map_eq_some_iff.mp hread
    obtain ⟨rfl,rfl⟩ := Prod.mk.inj heq
    exact .inr ⟨v6,hv6,rfl⟩

/-- A text that is read as an address has no other characters. -/
theorem parseIpAddr_chars {s : Str} {ip : IpAddr} (h : parseIpAddr s = some ip) :
    ∀ c ∈ s, IsLiteralChar c := by
  apply Uses.all
  obtain ⟨_,hv4,_⟩ | ⟨_,hv6,_⟩ := parseIpAddr_read h
  · exact readIpv4Addr_literal hv4
  · exact readIpv6Addr_literal hv6

lemma parseIpAddr_v4_chars {s : Str} {ip : Ipv4Addr} (h : parseIpAddr s = some (.v4 ip)) : ∀ c ∈ s, IsIpv4Char c := by
  obtain ⟨_,hv4,_⟩ | ⟨_,_,heq⟩ := parseIpAddr_read h
  · exact (readIpv4Addr_uses hv4).all
  · cases heq

lemma parseIpAddr_ne_nil {s : Str} {ip : IpAddr} (h : parseIpAddr s = some ip) : s ≠ [] := by
  rintro rfl
  cases h

/-! Printed addresses -/

lemma decimal_length {n k : ℕ} (hk : 0 < k) (h : n < 10^k) : (decimal n).length ≤ k :=
  (Nat.length_toDigits_le_iff (by omega) hk).mpr h

lemma hexadecimal_length (n : UInt16) : (hexadecimal n.toNat).length ≤ 4 :=
  (Nat.length_toDigits_le_iff (by omega) (by omega)).mpr n.toNat_lt

lemma Ipv4Addr.display_length (ip : Ipv4Addr) : ip.display.length ≤ 15 := by
  have hpart : ∀ b : UInt8, (decimal b.toNat).length ≤ 3 := by
    intro b
    have hlt := b.toNat_lt
    exact decimal_length (by omega) (by omega)
  have ha := hpart ip.a
  have hb := hpart ip.b
  have hc := hpart ip.c
  have hd := hpart ip.d
  simp only [Ipv4Addr.display,List.length_append,List.length_cons]
  omega

lemma fmtSubslice_length (l : List UInt16) : (fmtSubslice l).length ≤ 5*l.length := by
  have htail : ∀ tail : List UInt16,
      (tail.flatMap (fun s => ':'::hexadecimal s.toNat)).length ≤ 5*tail.length := by
    intro tail
    induction tail with
    | nil => exact Nat.le_refl _
    | cons s tail ih =>
      have hs := hexadecimal_length s
      simp only [List.flatMap_cons,List.length_append,List.length_cons]
      omega
  cases l with
  | nil => exact Nat.le_refl _
  | cons first tail =>
    have hfirst := hexadecimal_length first
    have hrest := htail tail
    simp only [fmtSubslice,List.length_append,List.length_cons]
    omega

lemma Ipv6Addr.display_length (ip : Ipv6Addr) : ip.display.length ≤ 82 := by
  have hlen := ip.length_eq
  unfold Ipv6Addr.display
  split
  · next ipv4 _ =>
    have hv4 := ipv4.display_length
    simp only [List.length_append,String.length_toList]
    have hpre : "::ffff:".length=7 := rfl
    omega
  · dsimp only
    split
    · have htake := fmtSubslice_length (ip.segments.take (longestZeroes ip.segments 0 ⟨0,0⟩ ⟨0,0⟩).start)
      have hdrop := fmtSubslice_length (ip.segments.drop
        ((longestZeroes ip.segments 0 ⟨0,0⟩ ⟨0,0⟩).start+(longestZeroes ip.segments 0 ⟨0,0⟩ ⟨0,0⟩).len))
      simp only [List.length_append,List.length_cons,List.length_take,List.length_drop] at htake hdrop ⊢
      omega
    · have hall := fmtSubslice_length ip.segments
      omega

lemma IsAddrChar.ascii {c : Char} (h : IsAddrChar c) : c.toNat < 128 := by
  obtain h | ⟨_,hhi⟩ | rfl | rfl := h
  · have hdigit := (Char.isDigit_iff_toNat.mp h).2
    have hnine : '9'.toNat=57 := rfl
    omega
  · have hle : c.toNat ≤ 'f'.toNat := hhi
    have hf : 'f'.toNat=102 := rfl
    omega
  · decide
  · decide

/-- A printed address is short. -/
theorem IpAddr.display_length (ip : IpAddr) : (utf8 ip.display).length ≤ 82 := by
  have hbytes : ∀ s : Str, (∀ c ∈ s, IsAddrChar c) → (utf8 s).length=s.length := by
    intro s hs
    induction s with
    | nil => rfl
    | cons c s ih =>
      rw [utf8_cons,utf8EncodeChar_ascii (hs c List.mem_cons_self).ascii,List.singleton_append,
        List.length_cons,List.length_cons,ih (fun d hd => hs d (List.mem_cons_of_mem c hd))]
  cases ip with
  | v4 ip =>
    have hlen := ip.display_length
    rw [IpAddr.display,hbytes _ ip.display_chars]
    omega
  | v6 ip =>
    rw [IpAddr.display,hbytes _ ip.display_chars]
    exact ip.display_length

end RotatorProxy.Text
