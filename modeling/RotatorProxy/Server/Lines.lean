import RotatorProxy.Server.Relay
import RotatorProxy.Text.Split

/-! A request built from its lines is read as those lines. -/
namespace RotatorProxy.Server
open Text Proxy Library Outbound

/-- A line of a head: not empty, and without a break inside. -/
structure IsLine (line : Str) : Prop where
  ne_nil : line ≠ []
  noBreak : ¬['\r','\n'] <:+: line

def headText (lines : List Str) : Str := (lines++[[]]).flatMap (·++['\r','\n'])

/-- A request with its lines, and the bytes behind its head. -/
def httpRequest (requestLine : Str) (headers : List Str) (body : Bytes) : Bytes :=
  utf8 (headText (requestLine::headers))++body

theorem splitCrlf_headText {lines : List Str} (h : ∀ line ∈ lines, IsLine line) :
    splitCrlf (headText lines) = lines++[[],[]] := by
  have hbreak : ∀ line ∈ lines++[[]], ¬['\r','\n'] <:+: line := by
    intro line hline
    obtain hline | hline := List.mem_append.mp hline
    · exact (h line hline).noBreak
    · rw [List.mem_singleton.mp hline]
      decide
  rw [headText,(splitCrlf_flatMap_iff (lines++[[]])).mpr hbreak,List.append_assoc,List.singleton_append]

lemma utf8_cons_ascii {d : Char} (hd : d.toNat < 128) {s : Str} {r : Bytes}
    (h : utf8 s=UInt8.ofNat d.toNat::r) : ∃ b, s=d::b ∧ utf8 b=r := by
  obtain ⟨a,b,rfl,ha,hb⟩ := utf8_split (p := []) hd h
  rw [← utf8_nil] at ha
  rw [utf8_injective ha]
  exact ⟨b,rfl,hb⟩

/-- An end of a head in the bytes is one in the text. -/
lemma utf8_headerEnd {s : Str} {q r : Bytes} (h : utf8 s=q++headerEnd++r) :
    ∃ a b, s=a++ '\r':: '\n':: '\r':: '\n'::b ∧ utf8 a=q ∧ utf8 b=r := by
  have hcr : utf8 s=q++UInt8.ofNat '\r'.toNat::10::13::10::r := by
    rw [h,headerEnd,List.append_assoc]
    rfl
  obtain ⟨a,b1,rfl,ha,h1⟩ := utf8_split (by decide) hcr
  obtain ⟨b2,rfl,h2⟩ := utf8_cons_ascii (d := '\n') (by decide) h1
  obtain ⟨b3,rfl,h3⟩ := utf8_cons_ascii (d := '\r') (by decide) h2
  obtain ⟨b4,rfl,h4⟩ := utf8_cons_ascii (d := '\n') (by decide) h3
  exact ⟨a,b4,rfl,ha,h4⟩

/-- The end of the head is the first place where the server sees one. -/
theorem headText_firstEnd {lines : List Str} (hne : lines ≠ []) (h : ∀ line ∈ lines, IsLine line) :
    FirstEnd headerEnd (utf8 (headText lines)) := by
  constructor
  · obtain ⟨init,last,rfl⟩ := (List.eq_nil_or_concat lines).resolve_left hne
    refine ⟨utf8 (init.flatMap (·++['\r','\n'])++last),?_⟩
    have htext : headText (init++[last])=init.flatMap (·++['\r','\n'])++last++['\r','\n','\r','\n'] := by
      simp [headText]
    rw [List.concat_eq_append,htext,utf8_append _ ['\r','\n','\r','\n']]
    rfl
  · rintro p hp ⟨q,rfl⟩
    obtain ⟨r,hr⟩ := hp
    obtain ⟨a,b,htext,rfl,rfl⟩ := utf8_headerEnd hr.symm
    have hsplit := splitCrlf_headText h
    rw [htext,splitCrlf_append,splitCrlf_crlf] at hsplit
    have hnil := eq_nil_of_splitCrlf (fun line hline => (h line hline).ne_nil) hsplit
    rw [← hr,hnil,utf8_nil,List.append_nil]

/-- A text that ends in its first empty line is made of its lines, and only the first may be empty. -/
theorem eq_headText {text : Str} (h : FirstEnd headerEnd (utf8 text)) :
    ∃ requestLine headers, text=headText (requestLine::headers) ∧ (¬['\r','\n'] <:+: requestLine) ∧
      ∀ line ∈ headers, IsLine line := by
  obtain ⟨q,hq⟩ := h.ends
  obtain ⟨a,b,rfl,rfl,hb⟩ := utf8_headerEnd (r := []) (by rw [List.append_nil,hq])
  obtain rfl : b=[] := utf8_injective hb
  obtain ⟨requestLine,headers,ha,_⟩ := splitCrlf_head a
  have hjoin : (requestLine::headers).flatMap (·++['\r','\n'])=a++['\r','\n'] := by
    rw [← ha,splitCrlf_join]
  have hbreak : ∀ line ∈ requestLine::headers, ¬['\r','\n'] <:+: line := by
    rw [← ha]
    exact splitCrlf_noBreak a
  refine ⟨requestLine,headers,?_,hbreak requestLine List.mem_cons_self,fun line hline => ?_⟩
  · rw [headText,List.flatMap_append,hjoin]
    simp
  · refine ⟨?_,hbreak line (List.mem_cons_of_mem requestLine hline)⟩
    rintro rfl
    -- the head would end with this line
    obtain ⟨before,behind,rfl⟩ := List.append_of_mem hline
    obtain ⟨p,hp⟩ : ∃ p, (requestLine::before).flatMap (·++['\r','\n'])=p++['\r','\n'] := by
      obtain ⟨init,last,hlast⟩ := (List.eq_nil_or_concat (requestLine::before)).resolve_left (List.cons_ne_nil _ _)
      refine ⟨init.flatMap (·++['\r','\n'])++last,?_⟩
      rw [hlast]
      simp
    have hsplit : a++['\r','\n']=p++['\r','\n','\r','\n']++behind.flatMap (·++['\r','\n']) := by
      rw [← hjoin,← List.cons_append,List.flatMap_append,hp]
      simp
    have hends : headerEnd <:+ utf8 (p++['\r','\n','\r','\n']) := by
      rw [utf8_append]
      exact List.suffix_append (utf8 p) headerEnd
    have hpre : utf8 (p++['\r','\n','\r','\n']) <+: utf8 (a++ '\r':: '\n':: '\r':: '\n'::[]) := by
      refine ⟨utf8 (behind.flatMap (·++['\r','\n'])++['\r','\n']),?_⟩
      rw [← utf8_append,← List.append_assoc,← hsplit]
      simp
    have hlen := congrArg List.length (utf8_injective (h.first _ hpre hends))
    have hlen' := congrArg List.length hsplit
    simp only [List.length_append,List.length_cons,List.length_nil] at hlen hlen'
    omega

variable {urlParse : UrlParse}

theorem parseHttpRequest_httpRequest {requestLine : Str} {headers : List Str}
    (h : ∀ line ∈ requestLine::headers, IsLine line) (body : Bytes) :
    parseHttpRequest urlParse (httpRequest requestLine headers body) =
      parseRequestLines urlParse requestLine (headers++[[],[]]) body := by
  have hfirst := headText_firstEnd (List.cons_ne_nil requestLine headers) h
  rw [httpRequest,parseHttpRequest,findHeaderEnd_append hfirst]
  simp only [orInvalid,Except.bind,List.take_left,List.drop_left,fromUtf8_utf8,splitCrlf_headText h,
    List.cons_append,List.getElem?_cons_zero,List.drop_succ_cons,List.drop_zero]

end RotatorProxy.Server
