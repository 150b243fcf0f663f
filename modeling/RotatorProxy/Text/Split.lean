import RotatorProxy.Text.Str

/-! What the splitting operations find in a text that was put together from its parts. -/
namespace RotatorProxy.Text

/-! At a separator -/

section
variable {α : Type} [DecidableEq α] {sep : α}

/-- The split is at the first separator. -/
theorem splitOnce_eq_some {s a b : List α} :
    splitOnce sep s = some (a,b) ↔ s=a++sep::b ∧ sep ∉ a := by
  induction s generalizing a with
  | nil => simp [splitOnce]
  | cons c cs ih =>
    rw [splitOnce]
    split_ifs with hc
    · subst hc
      constructor
      · rintro ⟨⟩
        exact ⟨rfl,List.not_mem_nil⟩
      · rintro ⟨heq,hno⟩
        cases a with
        | nil =>
          cases heq
          rfl
        | cons d a =>
          obtain ⟨rfl,_⟩ := List.cons.inj heq
          exact absurd List.mem_cons_self hno
    · rw [Option.map_eq_some_iff]
      constructor
      · rintro ⟨⟨a',b'⟩,hsplit,heq⟩
        cases heq
        obtain ⟨rfl,hno⟩ := ih.mp hsplit
        exact ⟨rfl,List.not_mem_cons_of_ne_of_not_mem (Ne.symm hc) hno⟩
      · rintro ⟨heq,hno⟩
        cases a with
        | nil =>
          obtain ⟨rfl,_⟩ := List.cons.inj heq
          exact absurd rfl hc
        | cons d a =>
          obtain ⟨rfl,rfl⟩ := List.cons.inj heq
          exact ⟨(a,b),ih.mpr ⟨rfl,List.not_mem_of_not_mem_cons hno⟩,rfl⟩

theorem splitOnce_append {a : List α} (h : sep ∉ a) (b : List α) :
    splitOnce sep (a++sep::b) = some (a,b) :=
  splitOnce_eq_some.mpr ⟨rfl,h⟩

theorem splitOnce_eq_none {s : List α} (h : sep ∉ s) : splitOnce sep s = none := by
  rw [Option.eq_none_iff_forall_not_mem]
  rintro ⟨a,b⟩ hsplit
  obtain ⟨rfl,_⟩ := splitOnce_eq_some.mp hsplit
  exact h (List.mem_append_right a List.mem_cons_self)

end

theorem rsplitOnce_append {sep : Char} {b : Str} (h : sep ∉ b) (a : Str) :
    rsplitOnce sep (a++sep::b) = some (a,b) := by
  have hrev : (a++sep::b).reverse=b.reverse++sep::a.reverse := by simp
  rw [rsplitOnce,hrev,splitOnce_append (by rwa [List.mem_reverse]),Option.map_some,List.reverse_reverse,
    List.reverse_reverse]

lemma stripPrefix_eq_some {c : Char} {s rest : Str} : stripPrefix c s = some rest ↔ s=c::rest := by
  cases s with
  | nil => simp [stripPrefix]
  | cons d s =>
    rw [stripPrefix]
    split_ifs with hd
    · simp [hd]
    · simp [hd]

lemma stripPrefix_eq_none {c : Char} {s : Str} : stripPrefix c s = none ↔ s.head? ≠ some c := by
  cases s with
  | nil => simp [stripPrefix]
  | cons d s =>
    rw [stripPrefix]
    split_ifs with hd
    · simp [hd]
    · simp [hd]

lemma append_sep_inj {sep : Char} {a b a' b' : Str} (ha : sep ∉ a) (ha' : sep ∉ a')
    (heq : a++sep::b=a'++sep::b') : a=a' ∧ b=b' := by
  have hsplit := splitOnce_append ha b
  rw [heq,splitOnce_append ha'] at hsplit
  obtain ⟨rfl,rfl⟩ := Prod.mk.inj (Option.some.inj hsplit)
  exact ⟨rfl,rfl⟩

lemma append_lastSep_inj {sep : Char} {a b a' b' : Str} (hb : sep ∉ b) (hb' : sep ∉ b')
    (heq : a++sep::b=a'++sep::b') : a=a' ∧ b=b' := by
  have hsplit := rsplitOnce_append hb a
  rw [heq,rsplitOnce_append hb'] at hsplit
  obtain ⟨rfl,rfl⟩ := Prod.mk.inj (Option.some.inj hsplit)
  exact ⟨rfl,rfl⟩

/-! Numbers -/

/-- Digits, with or without a plus sign in front. -/
lemma parseU16_eq_some {s : Str} {n : UInt16} (h : parseU16 s = some n) :
    ∃ digits, (s=digits ∨ s= '+'::digits) ∧ (s.head? ≠ some '+' → s=digits) ∧ digits ≠ [] ∧
      (∀ c ∈ digits, c.isDigit) ∧ Nat.ofDigitChars 10 digits 0=n.toNat := by
  unfold parseU16 at h
  dsimp only at h
  split_ifs at h with hok
  obtain ⟨hne,hall,hlt⟩ := hok
  have hn := congrArg UInt16.toNat (Option.some.inj h)
  rw [UInt16.toNat_ofNat',Nat.mod_eq_of_lt hlt] at hn
  refine ⟨_,?_,?_,hne,List.all_eq_true.mp hall,hn⟩
  · cases hplus : stripPrefix '+' s with
    | none => exact .inl rfl
    | some digits => exact .inr (stripPrefix_eq_some.mp hplus)
  · intro hhead
    rw [stripPrefix_eq_none.mpr hhead]
    rfl

lemma colon_notMem_of_parseU16 {s : Str} {n : UInt16} (h : parseU16 s = some n) : ':' ∉ s := by
  obtain ⟨digits,hs,_,_,hdigits,_⟩ := parseU16_eq_some h
  have hno : ':' ∉ digits := fun hmem => absurd (hdigits _ hmem) (by decide)
  obtain rfl | rfl := hs
  · exact hno
  · exact List.not_mem_cons_of_ne_of_not_mem (by decide) hno

/-! Lines -/

lemma splitCrlf_crlf (s : Str) : splitCrlf ('\r':: '\n'::s) = []::splitCrlf s := by
  rw [splitCrlf]

lemma splitCrlf_cons {c : Char} {s line : Str} {lines : List Str} (h : ¬['\r','\n'] <+: c::s)
    (hs : splitCrlf s = line::lines) : splitCrlf (c::s) = (c::line)::lines := by
  rw [splitCrlf,hs]
  rintro cs rfl rfl
  exact h (List.prefix_append ['\r','\n'] cs)

/-- The first line is where the text begins. -/
lemma splitCrlf_head (s : Str) : ∃ line lines, splitCrlf s = line::lines ∧ line <+: s := by
  induction s with
  | nil => exact ⟨[],[],rfl,List.prefix_refl _⟩
  | cons c s ih =>
    by_cases h : ['\r','\n'] <+: c::s
    · obtain ⟨rest,hrest⟩ := h
      rw [← hrest]
      exact ⟨[],splitCrlf rest,splitCrlf_crlf rest,List.nil_prefix⟩
    · obtain ⟨line,lines,hs,hpre⟩ := ih
      exact ⟨c::line,lines,splitCrlf_cons h hs,List.cons_prefix_cons.mpr ⟨rfl,hpre⟩⟩

lemma splitCrlf_self {line : Str} (h : ¬['\r','\n'] <:+: line) : splitCrlf line = [line] := by
  induction line with
  | nil => rfl
  | cons c line ih =>
    rw [List.infix_cons_iff,not_or] at h
    exact splitCrlf_cons h.1 (ih h.2)

/-- The lines around a break are those in front of it and those behind it: breaks never overlap. -/
theorem splitCrlf_append (s t : Str) : splitCrlf (s++ '\r':: '\n'::t) = splitCrlf s++splitCrlf t := by
  induction hn : s.length using Nat.strong_induction_on generalizing s with
  | _ n ih =>
    cases s with
    | nil => exact splitCrlf_crlf t
    | cons c s =>
      rw [List.length_cons] at hn
      by_cases h : ['\r','\n'] <+: c::s
      · obtain ⟨rest,hrest⟩ := h
        have hlen := congrArg List.length hrest
        rw [List.length_append] at hlen
        simp only [List.length_cons,List.length_nil] at hlen
        have heq : ['\r','\n']++rest= '\r':: '\n'::rest := rfl
        rw [← hrest,heq,List.cons_append,List.cons_append,splitCrlf_crlf,splitCrlf_crlf,
          ih rest.length (by omega) rest rfl,List.cons_append]
      · obtain ⟨line,lines,hs,_⟩ := splitCrlf_head s
        have hrest := ih s.length (by omega) s rfl
        rw [hs,List.cons_append] at hrest
        rw [splitCrlf_cons h hs,List.cons_append,splitCrlf_cons _ hrest,List.cons_append]
        intro hpre
        cases s with
        | nil => cases (List.cons_prefix_cons.mp (List.cons_prefix_cons.mp hpre).2).1
        | cons d s =>
          obtain ⟨hc,hpre⟩ := List.cons_prefix_cons.mp hpre
          obtain ⟨hd,_⟩ := List.cons_prefix_cons.mp hpre
          rw [← hc,← hd] at h
          exact h (List.prefix_append ['\r','\n'] s)

/-- A text is one line, or two texts with a break between them. -/
@[elab_as_elim]
theorem lines_induction {motive : Str → Prop} (line : ∀ s, ¬['\r','\n'] <:+: s → motive s)
    (append : ∀ s t, motive s → motive t → motive (s++ '\r':: '\n'::t)) (s : Str) : motive s := by
  induction hn : s.length using Nat.strong_induction_on generalizing s with
  | _ n ih =>
    by_cases h : ['\r','\n'] <:+: s
    · obtain ⟨a,b,rfl⟩ := h
      simp only [List.length_append,List.length_cons] at hn
      have heq : a++['\r','\n']++b=a++ '\r':: '\n'::b := by simp
      rw [heq]
      exact append a b (ih a.length (by omega) a rfl) (ih b.length (by omega) b rfl)
    · exact line s h

/-- No line has a break inside. -/
theorem splitCrlf_noBreak (s : Str) : ∀ line ∈ splitCrlf s, ¬['\r','\n'] <:+: line := by
  induction s using lines_induction with
  | line s h =>
    intro line hline
    rw [splitCrlf_self h,List.mem_singleton] at hline
    rwa [hline]
  | append s t ihs iht =>
    intro line hline
    rw [splitCrlf_append] at hline
    obtain hline | hline := List.mem_append.mp hline
    · exact ihs line hline
    · exact iht line hline

/-- The lines put together again are the text and one more break. -/
lemma splitCrlf_join (s : Str) : (splitCrlf s).flatMap (·++['\r','\n']) = s++['\r','\n'] := by
  induction s using lines_induction with
  | line s h => rw [splitCrlf_self h,List.flatMap_singleton]
  | append s t ihs iht =>
    rw [splitCrlf_append,List.flatMap_append,ihs,iht]
    simp

/-- A text of one line is that line. -/
lemma eq_of_splitCrlf {s line : Str} (h : splitCrlf s = [line]) : s=line := by
  induction s using lines_induction with
  | line s hbreak =>
    rw [splitCrlf_self hbreak] at h
    exact (List.cons.inj h).1
  | append s t =>
    obtain ⟨first,lines,hs,_⟩ := splitCrlf_head s
    obtain ⟨first',lines',ht,_⟩ := splitCrlf_head t
    rw [splitCrlf_append,hs,ht] at h
    have hlen := congrArg List.length h
    simp only [List.length_append,List.length_cons,List.length_nil] at hlen
    omega

/-- Lines put together come apart again just when none has a break inside. -/
theorem splitCrlf_flatMap_iff (lines : List Str) :
    splitCrlf (lines.flatMap (·++['\r','\n'])) = lines++[[]] ↔ ∀ line ∈ lines, ¬['\r','\n'] <:+: line := by
  constructor
  · intro h line hline
    apply splitCrlf_noBreak (lines.flatMap (·++['\r','\n']))
    rw [h]
    exact List.mem_append_left _ hline
  · intro h
    induction lines with
    | nil => rfl
    | cons line lines ih =>
      have heq : (line::lines).flatMap (·++['\r','\n']) =
          line++ '\r':: '\n'::lines.flatMap (·++['\r','\n']) := by simp
      rw [heq,splitCrlf_append,splitCrlf_self (h line List.mem_cons_self),
        ih (fun l hl => h l (List.mem_cons_of_mem line hl)),List.singleton_append,List.cons_append]

/-- An empty line behind lines that are not empty can only be the last break but one. -/
lemma eq_nil_of_splitCrlf {s t : Str} {lines : List Str} (hlines : ∀ line ∈ lines, line ≠ [])
    (h : splitCrlf s++[]::splitCrlf t=lines++[[],[]]) : t=[] := by
  obtain ⟨first,rest,ht,_⟩ := splitCrlf_head t
  have hlen := congrArg List.length h
  rw [ht] at hlen
  simp only [List.length_append,List.length_cons,List.length_nil] at hlen
  have hge : lines.length ≤ (splitCrlf s).length := by
    by_contra hlt
    have hmem : [] ∈ lines := by
      have hget := congrArg (fun l => l[(splitCrlf s).length]?) h
      rw [List.getElem?_append_right (Nat.le_refl _),Nat.sub_self,List.getElem?_cons_zero,
        List.getElem?_append_left (by omega)] at hget
      exact List.mem_of_getElem? hget.symm
    exact hlines [] hmem rfl
  have hnil : rest=[] := List.length_eq_zero_iff.mp (by omega)
  subst hnil
  have hlast := congrArg List.getLast? h
  rw [ht] at hlast
  simp at hlast
  rw [hlast] at ht
  exact eq_of_splitCrlf ht

/-! Words -/

/-- A word: not empty, and without white space. -/
structure IsWord (w : Str) : Prop where
  ne_nil : w ≠ []
  noSpace : ∀ c ∈ w, isWhitespace c=false

lemma noSpace_of_all {w : Str} (h : w.all (fun c => !isWhitespace c)=true) : ∀ c ∈ w, isWhitespace c=false := by
  intro c hc
  rw [← Bool.not_eq_true']
  exact List.all_eq_true.mp h c hc

lemma splitWhitespaceFrom_append {w : Str} (h : ∀ c ∈ w, isWhitespace c=false) (word rest : Str) :
    splitWhitespaceFrom word (w++rest) = splitWhitespaceFrom (w.reverse++word) rest := by
  induction w generalizing word with
  | nil => rfl
  | cons c w ih =>
    rw [List.cons_append,splitWhitespaceFrom,h c List.mem_cons_self,if_neg Bool.false_ne_true,
      ih (fun d hd => h d (List.mem_cons_of_mem c hd)),List.reverse_cons,List.append_assoc,
      List.singleton_append]

theorem splitWhitespace_sep {w : Str} (h : IsWord w) {sep : Char} (hsep : isWhitespace sep=true) (rest : Str) :
    splitWhitespace (w++sep::rest) = w::splitWhitespace rest := by
  have hne : w.reverse ≠ [] := List.reverse_eq_nil_iff.not.mpr h.ne_nil
  rw [splitWhitespace,splitWhitespaceFrom_append h.noSpace,List.append_nil,splitWhitespaceFrom,
    if_pos hsep,if_neg hne,List.reverse_reverse,splitWhitespace]

theorem splitWhitespace_cons {w : Str} (h : IsWord w) (rest : Str) :
    splitWhitespace (w++ ' '::rest) = w::splitWhitespace rest :=
  splitWhitespace_sep h (by decide) rest

theorem splitWhitespace_word {w : Str} (h : IsWord w) : splitWhitespace w = [w] := by
  have hne : w.reverse ≠ [] := List.reverse_eq_nil_iff.not.mpr h.ne_nil
  have happend := splitWhitespaceFrom_append h.noSpace [] []
  rw [List.append_nil,List.append_nil] at happend
  rw [splitWhitespace,happend,splitWhitespaceFrom,if_neg hne,List.reverse_reverse]

lemma isWord_of_mem_splitWhitespaceFrom {s word w : Str} (hword : ∀ c ∈ word, isWhitespace c=false)
    (h : w ∈ splitWhitespaceFrom word s) : IsWord w := by
  induction s generalizing word with
  | nil =>
    rw [splitWhitespaceFrom] at h
    split_ifs at h with hne
    · cases h
    · rw [List.mem_singleton.mp h]
      exact ⟨List.reverse_eq_nil_iff.not.mpr hne,fun c hc => hword c (List.mem_reverse.mp hc)⟩
  | cons c s ih =>
    have hnil : ∀ d ∈ ([] : Str), isWhitespace d=false := fun d hd => absurd hd List.not_mem_nil
    rw [splitWhitespaceFrom] at h
    split_ifs at h with hc hne
    · exact ih hnil h
    · obtain rfl | h := List.mem_cons.mp h
      · exact ⟨List.reverse_eq_nil_iff.not.mpr hne,fun d hd => hword d (List.mem_reverse.mp hd)⟩
      · exact ih hnil h
    · apply ih _ h
      intro d hd
      obtain rfl | hd := List.mem_cons.mp hd
      · exact Bool.eq_false_iff.mpr hc
      · exact hword d hd

theorem isWord_of_mem_splitWhitespace {s w : Str} (h : w ∈ splitWhitespace s) : IsWord w :=
  isWord_of_mem_splitWhitespaceFrom (fun _ hc => absurd hc List.not_mem_nil) h

lemma IsWord.newline_notMem {w : Str} (h : IsWord w) : '\n' ∉ w := by
  intro hmem
  have hspace := h.noSpace '\n' hmem
  revert hspace
  decide

theorem trim_eq_self {s : Str} (h : ∀ c ∈ s, isWhitespace c=false) : trim s=s := by
  have hdrop : s.dropWhile isWhitespace=s := by
    cases s with
    | nil => rfl
    | cons c s => exact List.dropWhile_cons_of_neg (Bool.eq_false_iff.mp (h c List.mem_cons_self))
  rw [trim,hdrop]
  apply List.rdropWhile_eq_self_iff.mpr
  intro hne hlast
  rw [h _ (List.getLast_mem hne)] at hlast
  cases hlast

lemma trim_head {s : Str} {c : Char} (h : (trim s).head?=some c) : isWhitespace c=false := by
  have hpre : trim s <+: s.dropWhile isWhitespace := List.rdropWhile_prefix _ _
  have hhead : (s.dropWhile isWhitespace).head?=some c := by
    obtain ⟨rest,hrest⟩ := hpre
    rw [← hrest,List.head?_append,h]
    rfl
  have hnot := List.head?_dropWhile_not isWhitespace s
  rw [hhead] at hnot
  simpa using hnot

lemma decimal_ne_nil (n : ℕ) : decimal n ≠ [] := Nat.toDigits_ne_nil

lemma decimal_noSpace (n : ℕ) : ∀ c ∈ decimal n, isWhitespace c=false := by
  intro c hc
  have hdigit := Char.isDigit_iff_toNat.mp (decimal_isDigit hc)
  have hlo : 48 ≤ c.toNat := hdigit.1
  have hhi : c.toNat ≤ 57 := hdigit.2
  simp [isWhitespace]
  omega

/-- In front of a number only the beginning of a text is trimmed. -/
lemma trim_number (s : Str) (n : ℕ) (hs : s.dropWhile isWhitespace ≠ []) :
    trim (s++ ':'::decimal n)=s.dropWhile isWhitespace++ ':'::decimal n := by
  have hdrop : (s++ ':'::decimal n).dropWhile isWhitespace=s.dropWhile isWhitespace++ ':'::decimal n := by
    rw [List.dropWhile_append,if_neg (by simpa using hs)]
  rw [trim,hdrop]
  apply List.rdropWhile_eq_self_iff.mpr
  intro hne hlast
  have hmem : (s.dropWhile isWhitespace++ ':'::decimal n).getLast hne ∈ decimal n := by
    rw [List.getLast_append_of_ne_nil _ (List.cons_ne_nil _ _),List.getLast_cons (decimal_ne_nil n)]
    exact List.getLast_mem _
  rw [decimal_noSpace n _ hmem] at hlast
  cases hlast

/-- Only white space is trimmed. -/
lemma mem_trim {s : Str} {c : Char} (h : c ∈ s) (hc : isWhitespace c=false) : c ∈ trim s := by
  have hdrop : ∀ t : Str, c ∈ t → c ∈ t.dropWhile isWhitespace := by
    intro t ht
    rw [← List.takeWhile_append_dropWhile (p := isWhitespace) (l := t),List.mem_append] at ht
    refine ht.resolve_left fun htake => ?_
    rw [List.mem_takeWhile_imp htake] at hc
    cases hc
  exact List.mem_reverse.mpr (hdrop _ (List.mem_reverse.mpr (hdrop s h)))

/-- A character of a joined text is the separator or in one of the parts. -/
lemma of_mem_intercalate {sep c : Char} {parts : List Str} (h : c ∈ [sep].intercalate parts) :
    c=sep ∨ ∃ part ∈ parts, c ∈ part := by
  induction parts with
  | nil => exact absurd h List.not_mem_nil
  | cons part parts ih =>
    by_cases hne : parts=[]
    · rw [hne,List.intercalate_singleton] at h
      exact .inr ⟨part,List.mem_cons_self,h⟩
    rw [List.intercalate_cons_of_ne_nil hne,List.append_assoc] at h
    rcases List.mem_append.mp h with hpart | h
    · exact .inr ⟨part,List.mem_cons_self,hpart⟩
    rcases List.mem_cons.mp h with hsep | hrest
    · exact .inl hsep
    · exact (ih hrest).imp_right fun ⟨other,hother,hc⟩ => ⟨other,List.mem_cons_of_mem _ hother,hc⟩

/-! Bytes -/

/-- Only its own bytes are read as a text. -/
theorem utf8_of_fromUtf8 {b : Bytes} {s : Str} (h : fromUtf8 b = some s) : utf8 s=b := by
  obtain ⟨chars,hchars,rfl⟩ := Option.map_eq_some_iff.mp h
  have hsome : b.toByteArray.utf8Decode?.isSome := by rw [hchars,Option.isSome_some]
  have hget : chars=b.toByteArray.utf8Decode?.get hsome := by simp [hchars]
  have hbytes : (utf8 chars.toList).toByteArray=b.toByteArray := by
    have hencode := ByteArray.utf8Encode_get_utf8Decode? (h := hsome)
    rw [← hget] at hencode
    exact hencode
  have hdata := congrArg (fun a => a.data.toList) hbytes
  simpa using hdata

/-- A character has one byte at least. -/
theorem length_le_utf8 (s : Str) : s.length ≤ (utf8 s).length := by
  induction s with
  | nil => exact Nat.zero_le _
  | cons c s ih =>
    have hc : 0 < (String.utf8EncodeChar c).length := by
      rw [String.length_utf8EncodeChar]
      exact c.utf8Size_pos
    rw [utf8_cons,List.length_cons,List.length_append]
    omega

lemma mem_utf8EncodeChar {b : UInt8} (hb : b.toNat < 128) (c : Char) :
    b ∈ String.utf8EncodeChar c ↔ c.toNat=b.toNat := by
  have hc : c.val.toNat=c.toNat := rfl
  have hmod : ∀ n < 256, b=UInt8.ofNat n ↔ b.toNat=n := by
    intro n hn
    rw [← UInt8.toNat_inj,UInt8.toNat_ofNat',Nat.mod_eq_of_lt hn]
  unfold String.utf8EncodeChar
  dsimp only
  rw [hc]
  split_ifs with h1 h2 h3
  · rw [List.mem_singleton,hmod _ (by omega)]
    exact eq_comm
  all_goals
    simp only [List.mem_cons,List.not_mem_nil,or_false]
    repeat rw [hmod _ (by omega)]
    omega

/-- An ASCII byte stands only for its character. -/
theorem mem_utf8 {d : Char} (hd : d.toNat < 128) (s : Str) : UInt8.ofNat d.toNat ∈ utf8 s ↔ d ∈ s := by
  have hbyte : (UInt8.ofNat d.toNat).toNat=d.toNat := by
    rw [UInt8.toNat_ofNat',Nat.mod_eq_of_lt (by omega)]
  rw [utf8,List.mem_flatMap]
  constructor
  · rintro ⟨c,hc,hmem⟩
    rw [mem_utf8EncodeChar (by omega),hbyte] at hmem
    rwa [← Char.toNat_inj.mp hmem]
  · intro h
    exact ⟨d,h,(mem_utf8EncodeChar (by omega) d).mpr hbyte.symm⟩

lemma utf8EncodeChar_ascii {c : Char} (hc : c.toNat < 128) :
    String.utf8EncodeChar c=[UInt8.ofNat c.toNat] := by
  have hval : c.val.toNat=c.toNat := rfl
  unfold String.utf8EncodeChar
  exact if_pos (by omega)

/-- An ASCII byte splits a text at its character. -/
theorem utf8_split {d : Char} (hd : d.toNat < 128) {s : Str} {p r : Bytes}
    (h : utf8 s=p++UInt8.ofNat d.toNat::r) : ∃ a b, s=a++d::b ∧ utf8 a=p ∧ utf8 b=r := by
  have hbyte : (UInt8.ofNat d.toNat).toNat=d.toNat := by
    rw [UInt8.toNat_ofNat',Nat.mod_eq_of_lt (by omega)]
  induction s generalizing p with
  | nil => exact absurd (congrArg List.length h) (by simp)
  | cons c s ih =>
    rw [utf8_cons] at h
    obtain ⟨left,hp,hs⟩ | ⟨left,hc,hs⟩ := List.append_eq_append_iff.mp h
    · obtain ⟨a,b,rfl,rfl,rfl⟩ := ih hs
      exact ⟨c::a,b,rfl,by rw [utf8_cons,hp],rfl⟩
    · cases left with
      | nil =>
        obtain ⟨a,b,rfl,ha,rfl⟩ := ih (p := []) hs.symm
        rw [List.append_nil] at hc
        exact ⟨c::a,b,rfl,by rw [utf8_cons,ha,hc,List.append_nil],rfl⟩
      | cons b left =>
        -- the byte is the whole of this character
        rw [List.cons_append] at hs
        obtain ⟨rfl,rfl⟩ := List.cons.inj hs
        have hmem : UInt8.ofNat d.toNat ∈ String.utf8EncodeChar c := by
          rw [hc]
          exact List.mem_append_right p List.mem_cons_self
        rw [mem_utf8EncodeChar (by omega),hbyte] at hmem
        obtain rfl := Char.toNat_inj.mp hmem
        rw [utf8EncodeChar_ascii hd] at hc
        have hlen := congrArg List.length hc
        simp only [List.length_append,List.length_cons,List.length_nil] at hlen
        have hp : p=[] := List.length_eq_zero_iff.mp (by omega)
        have hleft : left=[] := List.length_eq_zero_iff.mp (by omega)
        subst hp hleft
        exact ⟨[],s,rfl,rfl,rfl⟩

end RotatorProxy.Text
