import RotatorProxy.Proxy.TargetAddr
import RotatorProxy.Text.Literals
import RotatorProxy.Text.Split

/-! Which authorities are accepted, what is made of them, and when a target that was read from one is
printed so that it is read again. -/
namespace RotatorProxy.Proxy
open Text

/-- The split at the last colon counts when it is the only one. -/
lemma onlyColon_eq_some {authority host port : Str} :
    (rsplitOnce ':' authority).filter (fun p => decide (':' ∉ p.1)) = some (host,port) ↔
      authority=host++ ':'::port ∧ ':' ∉ host ∧ ':' ∉ port := by
  rw [Option.filter_eq_some_iff,rsplitOnce,Option.map_eq_some_iff]
  constructor
  · rintro ⟨⟨⟨back,front⟩,hsplit,heq⟩,hno⟩
    obtain ⟨rfl,rfl⟩ := Prod.mk.inj heq
    obtain ⟨hrev,hback⟩ := splitOnce_eq_some.mp hsplit
    refine ⟨?_,of_decide_eq_true hno,fun h => hback (List.mem_reverse.mp h)⟩
    rw [← List.reverse_reverse authority,hrev]
    simp
  · rintro ⟨rfl,hhost,hport⟩
    refine ⟨⟨(port.reverse,host.reverse),?_,by simp⟩,decide_eq_true hhost⟩
    apply splitOnce_eq_some.mpr
    exact ⟨by simp,fun h => hport (List.mem_reverse.mp h)⟩

lemma onlyColon_eq_none {authority : Str} :
    (rsplitOnce ':' authority).filter (fun p => decide (':' ∉ p.1)) = none ↔ authority.count ':' ≠ 1 := by
  constructor
  · intro hnone hcount
    have hmem : ':' ∈ authority := List.count_pos_iff.mp (by omega)
    obtain ⟨host,port,rfl⟩ := List.append_of_mem hmem
    rw [List.count_append,List.count_cons_self] at hcount
    have hhost : ':' ∉ host := List.count_eq_zero.mp (by omega)
    have hport : ':' ∉ port := List.count_eq_zero.mp (by omega)
    rw [onlyColon_eq_some.mpr ⟨rfl,hhost,hport⟩] at hnone
    cases hnone
  · intro hcount
    rw [Option.eq_none_iff_forall_not_mem]
    rintro ⟨host,port⟩ hsome
    obtain ⟨rfl,hhost,hport⟩ := onlyColon_eq_some.mp hsome
    apply hcount
    rw [List.count_append,List.count_cons_self,List.count_eq_zero.mpr hhost,List.count_eq_zero.mpr hport]

namespace TargetAddr
variable {target : TargetAddr} {authority : Str} {defaultPort : Option UInt16}

lemma bind_new_eq_ok {port : Except Str UInt16} {host : Str} :
    port.bind (new host) = .ok target ↔ port = .ok target.port ∧ host=target.host := by
  cases port with
  | error err => simp [Except.bind]
  | ok port =>
    constructor
    · intro h
      obtain ⟨hhost,hport⟩ := new_eq_ok h
      rw [hhost,hport]
      exact ⟨rfl,rfl⟩
    · rintro ⟨hport,rfl⟩
      cases hport
      exact new_ok target.port target.not_blank

lemma portOr_eq_ok {port : UInt16} : portOr authority defaultPort = .ok port ↔ defaultPort=some port := by
  cases defaultPort with
  | none => simp [portOr]
  | some p => simp [portOr]

lemma parsePort_eq_ok {s : Str} {port : UInt16} : parsePort s = .ok port ↔ parseU16 s = some port := by
  rw [parsePort]
  cases parseU16 s with
  | none => simp
  | some p => simp

/-! One equation for each form of an authority -/

section
variable {host number behind : Str}

lemma parse_bracketedPort (h : trim authority= '['::(host++ ']':: ':'::number)) (hfirst : ']' ∉ host) :
    parse authority defaultPort = (parsePort number).bind (new host) := by
  unfold parse
  dsimp only
  rw [h,if_neg (List.cons_ne_nil _ _),stripPrefix_eq_some.mpr rfl]
  dsimp only
  rw [splitOnce_append hfirst]
  dsimp only
  rw [stripPrefix_eq_some.mpr rfl]

lemma parse_bracketed (h : trim authority= '['::(host++ ']'::behind)) (hfirst : ']' ∉ host)
    (hbehind : behind.head? ≠ some ':') :
    parse authority defaultPort = (portOr (trim authority) defaultPort).bind (new host) := by
  unfold parse
  dsimp only
  rw [h,if_neg (List.cons_ne_nil _ _),stripPrefix_eq_some.mpr rfl]
  dsimp only
  rw [splitOnce_append hfirst]
  dsimp only
  rw [stripPrefix_eq_none.mpr hbehind]

lemma parse_unclosed {rest : Str} (h : trim authority= '['::rest) (hno : ']' ∉ rest) :
    parse authority defaultPort = .error ("IPv6 authority 无效：".toList++trim authority) := by
  unfold parse
  dsimp only
  rw [h,if_neg (List.cons_ne_nil _ _),stripPrefix_eq_some.mpr rfl]
  dsimp only
  rw [splitOnce_eq_none hno]

lemma parse_hostPort (h : trim authority=host++ ':'::number) (hplain : (trim authority).head? ≠ some '[')
    (hhost : ':' ∉ host) (hnumber : ':' ∉ number) :
    parse authority defaultPort = (parsePort number).bind (new host) := by
  have hne : trim authority ≠ [] := by
    rw [h]
    exact List.append_ne_nil_of_right_ne_nil _ (List.cons_ne_nil _ _)
  unfold parse
  dsimp only
  rw [if_neg hne,stripPrefix_eq_none.mpr hplain]
  dsimp only
  rw [onlyColon_eq_some.mpr ⟨h,hhost,hnumber⟩]

lemma parse_whole (hne : trim authority ≠ []) (hplain : (trim authority).head? ≠ some '[')
    (hcolons : (trim authority).count ':' ≠ 1) :
    parse authority defaultPort = (portOr (trim authority) defaultPort).bind (new (trim authority)) := by
  unfold parse
  dsimp only
  rw [if_neg hne,stripPrefix_eq_none.mpr hplain]
  dsimp only
  rw [onlyColon_eq_none.mpr hcolons]

end

/-- How an authority without white space around it is read as a host and a port. -/
inductive Reads (authority : Str) (defaultPort : Option UInt16) (host : Str) (port : UInt16) : Prop
  | bracketedPort {number : Str} (text : authority= '['::(host++ ']':: ':'::number)) (first : ']' ∉ host)
      (value : parseU16 number = some port)
  /-- What stands behind the bracket is not looked at. -/
  | bracketed {behind : Str} (text : authority= '['::(host++ ']'::behind)) (first : ']' ∉ host)
      (noPort : behind.head? ≠ some ':') (default : defaultPort=some port)
  | hostPort {number : Str} (text : authority=host++ ':'::number) (plain : authority.head? ≠ some '[')
      (only : ':' ∉ host) (value : parseU16 number = some port)
  | whole (text : authority=host) (plain : authority.head? ≠ some '[') (colons : authority.count ':' ≠ 1)
      (default : defaultPort=some port)

/-- An authority that is accepted was read in one of the four ways. -/
theorem reads_of_parse (h : parse authority defaultPort = .ok target) :
    Reads (trim authority) defaultPort target.host target.port := by
  by_cases hnil : trim authority=[]
  · rw [parse,if_pos hnil] at h
    cases h
  by_cases hplain : (trim authority).head?=some '['
  · obtain ⟨rest,hrest⟩ := List.head?_eq_some_iff.mp hplain
    by_cases hclosed : ']' ∈ rest
    · obtain ⟨host,behind,rfl,hfirst⟩ := List.eq_append_cons_of_mem hclosed
      by_cases hport : behind.head?=some ':'
      · obtain ⟨number,rfl⟩ := List.head?_eq_some_iff.mp hport
        rw [parse_bracketedPort hrest hfirst,bind_new_eq_ok,parsePort_eq_ok] at h
        obtain ⟨hvalue,rfl⟩ := h
        exact .bracketedPort hrest hfirst hvalue
      · rw [parse_bracketed hrest hfirst hport,bind_new_eq_ok,portOr_eq_ok] at h
        obtain ⟨hdefault,rfl⟩ := h
        exact .bracketed hrest hfirst hport hdefault
    · rw [parse_unclosed hrest hclosed] at h
      cases h
  · cases honly : (rsplitOnce ':' (trim authority)).filter (fun p => decide (':' ∉ p.1)) with
    | none =>
      have hcolons := onlyColon_eq_none.mp honly
      rw [parse_whole hnil hplain hcolons,bind_new_eq_ok,portOr_eq_ok] at h
      exact .whole h.2 hplain hcolons h.1
    | some found =>
      obtain ⟨htext,hhost,hnumber⟩ := onlyColon_eq_some.mp honly
      rw [parse_hostPort htext hplain hhost hnumber,bind_new_eq_ok,parsePort_eq_ok] at h
      rw [h.2] at htext hhost
      exact .hostPort htext hplain hhost h.1

theorem parse_of_reads (h : Reads (trim authority) defaultPort target.host target.port) :
    parse authority defaultPort = .ok target := by
  cases h with
  | bracketedPort text first value =>
    rw [parse_bracketedPort text first,bind_new_eq_ok,parsePort_eq_ok]
    exact ⟨value,rfl⟩
  | bracketed text first noPort default =>
    rw [parse_bracketed text first noPort,bind_new_eq_ok,portOr_eq_ok]
    exact ⟨default,rfl⟩
  | hostPort text plain only value =>
    rw [parse_hostPort text plain only (colon_notMem_of_parseU16 value),bind_new_eq_ok,parsePort_eq_ok]
    exact ⟨value,rfl⟩
  | whole text plain colons default =>
    have hne : trim authority ≠ [] := by
      intro hnil
      rw [hnil] at text
      apply target.not_blank
      rw [← text]
      rfl
    rw [parse_whole hne plain colons,bind_new_eq_ok,portOr_eq_ok]
    exact ⟨default,text⟩

/-! What is understood of an authority -/

/-- The authority is the host, with or without brackets, and the port in decimal digits or the default
one; nothing else stands in it. -/
def Understood (authority : Str) (defaultPort : Option UInt16) (target : TargetAddr) : Prop :=
  (∃ digits, digits ≠ [] ∧ (∀ c ∈ digits, c.isDigit) ∧ Nat.ofDigitChars 10 digits 0=target.port.toNat ∧
    (trim authority=target.host++ ':'::digits ∨
      trim authority= '['::(target.host++ ']':: ':'::digits))) ∨
  ((trim authority=target.host ∨ trim authority= '['::(target.host++[']'])) ∧ defaultPort=some target.port)

/-- Behind the bracket stands nothing or a port, and no port has a plus sign. -/
structure Clean (authority : Str) : Prop where
  bracketed : ∀ host behind, authority= '['::(host++ ']'::behind) → ']' ∉ host →
    behind=[] ∨ ∃ number, behind= ':'::number ∧ number.head? ≠ some '+'
  plain : ∀ host number, authority.head? ≠ some '[' → authority=host++ ':'::number →
    ':' ∉ host → ':' ∉ number → number.head? ≠ some '+'

lemma plus_notDigit {digits : Str} (h : ∀ c ∈ digits, c.isDigit) : digits.head? ≠ some '+' := by
  intro hplus
  obtain ⟨rest,rfl⟩ := List.head?_eq_some_iff.mp hplus
  exact absurd (h '+' List.mem_cons_self) (by decide)

lemma notMem_digits {c : Char} (hc : c.isDigit=false) {digits : Str} (h : ∀ d ∈ digits, d.isDigit) :
    c ∉ digits := by
  intro hmem
  rw [h c hmem] at hc
  cases hc

namespace Reads
variable {s host behind number : Str} {port : UInt16}

/-- The host of a bracketed authority is the text in its brackets. -/
lemma host_of_bracket (h : Reads ('['::(host++ ']'::behind)) defaultPort target.host port)
    (hfirst : ']' ∉ host) : target.host=host := by
  cases h with
  | bracketedPort text first => exact (append_sep_inj hfirst first (List.cons.inj text).2).1.symm
  | bracketed text first => exact (append_sep_inj hfirst first (List.cons.inj text).2).1.symm
  | hostPort _ plain => exact absurd rfl plain
  | whole _ plain => exact absurd rfl plain

/-- The host of an authority with one colon is the text in front of it. -/
lemma host_of_colon (h : Reads (host++ ':'::number) defaultPort target.host port)
    (hplain : (host++ ':'::number).head? ≠ some '[') (hhost : ':' ∉ host) (hnumber : ':' ∉ number) :
    target.host=host := by
  cases h with
  | bracketedPort text =>
    rw [text] at hplain
    exact absurd rfl hplain
  | bracketed text =>
    rw [text] at hplain
    exact absurd rfl hplain
  | hostPort text _ only => exact (append_sep_inj hhost only text).1.symm
  | whole _ _ colons =>
    refine absurd ?_ colons
    rw [List.count_append,List.count_cons_self,List.count_eq_zero.mpr hhost,
      List.count_eq_zero.mpr hnumber]

end Reads

lemma clean_of_understood (hreads : Reads (trim authority) defaultPort target.host target.port)
    (h : Understood authority defaultPort target) : Clean (trim authority) := by
  unfold Understood at h
  generalize trim authority=s at hreads h
  constructor
  · rintro host behind rfl hfirst
    rw [hreads.host_of_bracket hfirst] at h
    obtain ⟨digits,_,hdigits,_,htext | htext⟩ | ⟨htext | htext,_⟩ := h
    · -- the bracket would stand in the host or among the digits
      have hmem : ']' ∈ host++ ':'::digits := by
        rw [← htext]
        simp
      obtain hmem | hmem := List.mem_append.mp hmem
      · exact absurd hmem hfirst
      · obtain hmem | hmem := List.mem_cons.mp hmem
        · cases hmem
        · exact absurd hmem (notMem_digits rfl hdigits)
    · obtain ⟨_,rfl⟩ := append_sep_inj hfirst hfirst (List.cons.inj htext).2
      exact .inr ⟨digits,rfl,plus_notDigit hdigits⟩
    · have hlen := congrArg List.length htext
      simp only [List.length_cons,List.length_append] at hlen
      omega
    · exact .inl (append_sep_inj hfirst hfirst (List.cons.inj htext).2).2
  · rintro host number hplain rfl hhost hnumber
    rw [hreads.host_of_colon hplain hhost hnumber] at h
    obtain ⟨digits,_,hdigits,_,htext | htext⟩ | ⟨htext | htext,_⟩ := h
    · obtain ⟨_,rfl⟩ := append_sep_inj hhost hhost htext
      exact plus_notDigit hdigits
    · rw [htext] at hplain
      exact absurd rfl hplain
    · have hlen := congrArg List.length htext
      simp at hlen
    · rw [htext] at hplain
      exact absurd rfl hplain

lemma understood_of_clean (hreads : Reads (trim authority) defaultPort target.host target.port)
    (h : Clean (trim authority)) : Understood authority defaultPort target := by
  unfold Understood
  generalize trim authority=s at hreads h
  obtain ⟨hbracketed,hplain⟩ := h
  cases hreads with
  | @bracketedPort number text first value =>
    obtain ⟨digits,_,heq,hne,hdigits,hvalue⟩ := parseU16_eq_some value
    obtain hnil | ⟨number',hnumber,hplus⟩ := hbracketed _ _ text first
    · cases hnil
    · cases hnumber
      rw [heq hplus] at text
      exact .inl ⟨digits,hne,hdigits,hvalue,.inr text⟩
  | @bracketed behind text first noPort default =>
    obtain rfl | ⟨number,rfl,_⟩ := hbracketed _ _ text first
    · exact .inr ⟨.inr text,default⟩
    · exact absurd rfl noPort
  | @hostPort number text plain only value =>
    obtain ⟨digits,_,heq,hne,hdigits,hvalue⟩ := parseU16_eq_some value
    rw [heq (hplain _ _ plain text only (colon_notMem_of_parseU16 value))] at text
    exact .inl ⟨digits,hne,hdigits,hvalue,.inl text⟩
  | whole text _ _ default => exact .inr ⟨.inl text,default⟩

/-- An accepted authority is understood in full just when it is clean. -/
theorem understood_iff (h : parse authority defaultPort = .ok target) :
    Understood authority defaultPort target ↔ Clean (trim authority) :=
  ⟨clean_of_understood (reads_of_parse h),understood_of_clean (reads_of_parse h)⟩

theorem understood_iff_loopback :
    ∃ target, parse "[::1]:0443".toList none = .ok target ∧
      (Understood "[::1]:0443".toList none target ↔ Clean (trim "[::1]:0443".toList)) := by
  have hparse : parse "[::1]:0443".toList none = .ok ⟨"::1".toList,443,by decide⟩ := by decide
  exact ⟨_,hparse,understood_iff hparse⟩

/-- Junk behind the bracket is dropped, and with it the port that it may hold. -/
theorem junk_accepted :
    ∃ target, parse "[::1]x:8443".toList (some 80) = .ok target ∧ target.host="::1".toList ∧
      target.port=80 ∧ ¬Understood "[::1]x:8443".toList (some 80) target := by
  have hparse : parse "[::1]x:8443".toList (some 80) = .ok ⟨"::1".toList,80,by decide⟩ := by decide
  refine ⟨_,hparse,rfl,rfl,fun hunderstood => ?_⟩
  have hclean := clean_of_understood (reads_of_parse hparse) hunderstood
  obtain hnil | ⟨number,hnumber,_⟩ := hclean.bracketed "::1".toList "x:8443".toList (by decide) (by decide)
  · cases hnil
  · cases hnumber

/-! What is printed of a target -/

/-- A host with a colon is an IP literal; any other begins as no other form does. -/
def HostPrintable (host : Str) : Prop :=
  if ':' ∈ host then (parseIpAddr host).isSome=true
  else ∀ d, host.head?=some d → d ≠ '[' ∧ isWhitespace d=false

/-- The text in brackets is such a host, and an authority with several colons is an IP literal. -/
structure Printable (authority : Str) : Prop where
  bracketed : ∀ host behind, authority= '['::(host++ ']'::behind) → ']' ∉ host → HostPrintable host
  plain : authority.head? ≠ some '[' → 2 ≤ authority.count ':' → (parseIpAddr authority).isSome

lemma dropWhile_ne_nil (target : TargetAddr) : target.host.dropWhile isWhitespace ≠ [] := by
  intro hnil
  apply target.not_blank
  rw [trim,hnil]
  rfl

lemma bracket_notMem_literal {host : Str} (h : (parseIpAddr host).isSome) : ']' ∉ host := by
  obtain ⟨ip,hip⟩ := Option.isSome_iff_exists.mp h
  exact fun hmem => absurd (parseIpAddr_chars hip _ hmem) (by decide)

/-- A literal with colons is printed in brackets, which come off again. -/
lemma parse_display_literal (hcolon : ':' ∈ target.host) (hip : (parseIpAddr target.host).isSome=true) :
    parse target.display none = .ok target := by
  have hdisplay : target.display= '['::target.host++"]:".toList++decimal target.port.toNat :=
    if_pos ⟨hcolon,hip⟩
  have htrim : trim ('['::target.host++"]:".toList++decimal target.port.toNat) =
      '['::(target.host++ ']':: ':'::decimal target.port.toNat) := by
    have h := trim_number ('['::(target.host++[']'])) target.port.toNat (by simp [isWhitespace])
    simpa [isWhitespace] using h
  apply parse_of_reads
  rw [hdisplay,htrim]
  exact .bracketedPort rfl (bracket_notMem_literal hip) (parseU16_decimal target.port)

/-- Of a text that is printed as `host:port` only the form with one colon gives the host back. -/
lemma host_of_reads_display
    (h : Reads (target.host.dropWhile isWhitespace++ ':'::decimal target.port.toNat) none target.host
      target.port) :
    target.host.dropWhile isWhitespace=target.host ∧ ':' ∉ target.host ∧
      (target.host++ ':'::decimal target.port.toNat).head? ≠ some '[' := by
  have hnumber : ':' ∉ decimal target.port.toNat := notMem_decimal (by decide) _
  cases h with
  | @bracketedPort number text _ value =>
    -- the brackets would have to stand in the host
    have htext : target.host.dropWhile isWhitespace++ ':'::decimal target.port.toNat=
        ('['::(target.host++[']']))++ ':'::number := by
      rw [text]
      simp
    obtain ⟨hhost,_⟩ := append_lastSep_inj hnumber (colon_notMem_of_parseU16 value) htext
    have hlen : (target.host.dropWhile isWhitespace).length ≤ target.host.length :=
      (List.dropWhile_suffix _).length_le
    rw [hhost] at hlen
    simp at hlen
  | bracketed _ _ _ default => cases default
  | hostPort text plain only value =>
    obtain ⟨hhost,_⟩ := append_lastSep_inj hnumber (colon_notMem_of_parseU16 value) text
    rw [hhost] at plain
    exact ⟨hhost,only,plain⟩
  | whole _ _ _ default => cases default

/-- What is printed is read again just when the host is printable. -/
theorem parse_display_host_iff :
    parse target.display none = .ok target ↔ HostPrintable target.host := by
  unfold HostPrintable
  by_cases hliteral : ':' ∈ target.host ∧ (parseIpAddr target.host).isSome
  · rw [if_pos hliteral.1]
    exact iff_of_true (parse_display_literal hliteral.1 hliteral.2) hliteral.2
  · have hdisplay : target.display=target.host++ ':'::decimal target.port.toNat := if_neg hliteral
    have htrim := trim_number target.host target.port.toNat (dropWhile_ne_nil target)
    rw [hdisplay]
    constructor
    · intro h
      have hreads := reads_of_parse h
      rw [htrim] at hreads
      obtain ⟨hhost,hcolon,hhead⟩ := host_of_reads_display hreads
      rw [if_neg hcolon]
      intro d hd
      rw [List.head?_append,hd] at hhead
      refine ⟨fun hbracket => hhead (congrArg some hbracket),?_⟩
      have hnot := List.head?_dropWhile_not isWhitespace target.host
      rw [hhost,hd] at hnot
      simpa using hnot
    · intro h
      have hcolon : ':' ∉ target.host := by
        intro hmem
        rw [if_pos hmem] at h
        exact hliteral ⟨hmem,h⟩
      rw [if_neg hcolon] at h
      apply parse_of_reads
      rw [htrim]
      cases hhost : target.host with
      | nil =>
        refine absurd ?_ target.not_blank
        rw [hhost]
        rfl
      | cons d host =>
        rw [hhost] at h hcolon
        obtain ⟨hbracket,hspace⟩ := h d rfl
        have hdrop : (d::host).dropWhile isWhitespace=d::host :=
          List.dropWhile_cons_of_neg (Bool.eq_false_iff.mp hspace)
        rw [hdrop]
        exact .hostPort rfl (fun hhead => hbracket (Option.some.inj hhead)) hcolon
          (parseU16_decimal target.port)

/-- A target that was read is read again from what is printed of it just when its authority is
printable. -/
theorem parse_display_iff (h : parse authority defaultPort = .ok target) :
    parse target.display none = .ok target ↔ Printable (trim authority) := by
  rw [parse_display_host_iff]
  have hreads := reads_of_parse h
  have hhead : ∀ d, (trim authority).head?=some d → isWhitespace d=false := fun d => trim_head
  generalize trim authority=s at hreads hhead
  have hfirst : ∀ {host behind : Str}, s= '['::(host++ ']'::behind) → ']' ∉ host →
      (HostPrintable target.host ↔ Printable s) := by
    rintro host behind rfl hno
    rw [hreads.host_of_bracket hno]
    constructor
    · intro hprintable
      refine ⟨fun host' behind' htext hno' => ?_,fun hplain => absurd rfl hplain⟩
      rwa [← (append_sep_inj hno hno' (List.cons.inj htext).2).1]
    · exact fun hprintable => hprintable.bracketed host behind rfl hno
  cases hreads with
  | bracketedPort text first => exact hfirst text first
  | bracketed text first => exact hfirst text first
  | @hostPort number text plain only value =>
    have hprintable : HostPrintable target.host := by
      rw [HostPrintable,if_neg only]
      intro d hd
      have hs : s.head?=some d := by rw [text,List.head?_append,hd,Option.some_or]
      exact ⟨fun hbracket => plain (by rw [hs,hbracket]),hhead d hs⟩
    refine iff_of_true hprintable ⟨fun host behind htext _ => ?_,fun _ hcount => ?_⟩
    · rw [htext] at plain
      exact absurd rfl plain
    · rw [text,List.count_append,List.count_cons_self,List.count_eq_zero.mpr only,
        List.count_eq_zero.mpr (colon_notMem_of_parseU16 value)] at hcount
      omega
  | whole text plain colons =>
    subst text
    constructor
    · intro hprintable
      refine ⟨fun host behind htext _ => ?_,fun _ hcount => ?_⟩
      · rw [htext] at plain
        exact absurd rfl plain
      · rwa [HostPrintable,if_pos (List.count_pos_iff.mp (by omega))] at hprintable
    · intro hprintable
      unfold HostPrintable
      split_ifs with hcolon
      · have hpos := List.count_pos_iff.mpr hcolon
        exact hprintable.plain plain (by omega)
      · exact fun d hd => ⟨fun hbracket => plain (by rw [hd,hbracket]),hhead d hd⟩

theorem parse_display_iff_loopback :
    ∃ target, parse "::1".toList (some 80) = .ok target ∧
      (parse target.display none = .ok target ↔ Printable (trim "::1".toList)) := by
  have hparse : parse "::1".toList (some 80) = .ok ⟨"::1".toList,80,by decide⟩ := by decide
  exact ⟨_,hparse,parse_display_iff hparse⟩

/-- Brackets around anything else are taken off and not put back. -/
theorem brackets_lost :
    ∃ target, parse "[a:b]:80".toList none = .ok target ∧ target.display="a:b:80".toList ∧
      parse target.display none = .error "authority 缺少端口：a:b:80".toList := by
  have hparse : parse "[a:b]:80".toList none = .ok ⟨"a:b".toList,80,by decide⟩ := by decide
  exact ⟨_,hparse,by decide,by decide⟩

end TargetAddr
end RotatorProxy.Proxy
