import RotatorProxy.Server.Lines
import RotatorProxy.Text.Casing

/-! Which header lines of a request the target gets. The program looks for a header by its trimmed name,
and withholds the headers that are for the proxy alone by the first characters of the line. -/
namespace RotatorProxy.Server
open Text Proxy Library Outbound

/-- The lines of a head behind the first one. -/
def headerLines (buffer : Bytes) : List Str :=
  match findHeaderEnd buffer with
  | none => []
  | some headerEnd =>
    ((fromUtf8 (buffer.take headerEnd)).elim [] fun text => (splitCrlf text).drop 1).filter
      (fun line => decide (line ≠ []))

/-- The bytes behind the head. -/
def behindHead (buffer : Bytes) : Bytes := (findHeaderEnd buffer).elim [] fun headerEnd => buffer.drop headerEnd

/-- A header line of this name, for the search in the headers of a request. -/
def names (name line : Str) : Bool :=
  (splitOnce ':' line).any fun header => eqIgnoreAsciiCase (trim header.1) name

/-- A header that is for the proxy alone. -/
def namesProxyHeader (line : Str) : Bool :=
  names "proxy-connection".toList line || names "proxy-authorization".toList line

/-- What the target is sent of a request: no header that is for the proxy alone, and all the others as
they came, in front of one empty line and the bytes behind the head. -/
structure Withholds (buffer forward : Bytes) : Prop where
  withheld : ∀ line ∈ headerLines forward, namesProxyHeader line=false
  kept : (headerLines forward).filter (fun line => !namesProxyHeader line) =
    (headerLines buffer).filter (fun line => !namesProxyHeader line)
  whole : ∃ requestLine, IsLine requestLine ∧
    forward=httpRequest requestLine (headerLines forward) (behindHead buffer)

/-- The url crate takes line breaks out of a URL. -/
def Unbroken (urlParse : UrlParse) : Prop :=
  ∀ text url, urlParse text = .ok url → '\n' ∉ url.path ∧ ∀ query, url.query=some query → '\n' ∉ query

/-! Requests and their lines -/

section
variable {requestLine : Str} {headers : List Str}

lemma findHeaderEnd_httpRequest (h : ∀ line ∈ requestLine::headers, IsLine line) (body : Bytes) :
    findHeaderEnd (httpRequest requestLine headers body) =
      some (utf8 (headText (requestLine::headers))).length :=
  findHeaderEnd_append (headText_firstEnd (List.cons_ne_nil requestLine headers) h) body

theorem headerLines_httpRequest (h : ∀ line ∈ requestLine::headers, IsLine line) (body : Bytes) :
    headerLines (httpRequest requestLine headers body) = headers := by
  have hfilter : (headers++[[],[]]).filter (fun line => decide (line ≠ []))=headers := by
    rw [List.filter_append,List.filter_eq_self.mpr]
    · simp
    · exact fun line hline => decide_eq_true (h line (List.mem_cons_of_mem requestLine hline)).ne_nil
  rw [headerLines,findHeaderEnd_httpRequest h]
  dsimp only
  rw [httpRequest,List.take_left,fromUtf8_utf8,Option.elim_some,splitCrlf_headText h,List.cons_append,
    List.drop_one,List.tail_cons,hfilter]

theorem behindHead_httpRequest (h : ∀ line ∈ requestLine::headers, IsLine line) (body : Bytes) :
    behindHead (httpRequest requestLine headers body) = body := by
  rw [behindHead,findHeaderEnd_httpRequest h,Option.elim_some,httpRequest,List.drop_left]

end

variable {urlParse : UrlParse}

/-- Every request that is accepted is made of its lines. -/
theorem parseHttpRequest_lines {buffer : Bytes} {parsed : ParsedHttpRequest}
    (h : parseHttpRequest urlParse buffer = .ok parsed) :
    ∃ requestLine headers body, (∀ line ∈ requestLine::headers, IsLine line) ∧
      buffer=httpRequest requestLine headers body ∧
      parseRequestLines urlParse requestLine (headers++[[],[]]) body = .ok parsed := by
  have hparse := h
  unfold parseHttpRequest at h
  obtain ⟨n,hn,h⟩ := bind_eq_ok.mp h
  obtain ⟨text,htext,h⟩ := bind_eq_ok.mp h
  obtain ⟨first,hfirst,h⟩ := bind_eq_ok.mp h
  obtain ⟨m,hm,rfl⟩ := Option.map_eq_some_iff.mp (orInvalid_eq_ok.mp hn)
  obtain ⟨head,body,rfl,hlen,hend⟩ := windowPosition_some hm
  rw [← hlen,List.take_left] at htext
  obtain rfl := utf8_of_fromUtf8 (orInvalid_eq_ok.mp htext)
  obtain ⟨requestLine,headers,rfl,hbreak,hheaders⟩ := eq_headText hend
  have hnil : requestLine ≠ [] := by
    rintro rfl
    have hhead : splitCrlf (headText ([]::headers))=[]::splitCrlf (headText headers) := by
      rw [← splitCrlf_crlf]
      rfl
    obtain rfl : []=first := by
      have hline := orInvalid_eq_ok.mp hfirst
      rw [hhead] at hline
      exact Option.some.inj hline
    cases h
  have hlines : ∀ line ∈ requestLine::headers, IsLine line := by
    intro line hline
    obtain rfl | hline := List.mem_cons.mp hline
    · exact ⟨hnil,hbreak⟩
    · exact hheaders line hline
  exact ⟨requestLine,headers,body,hlines,rfl,by rw [← parseHttpRequest_httpRequest hlines]; exact hparse⟩

/-- What is sent on is a request again. -/
lemma forwardHead_eq (method origin version : Str) (headers : List Str) (extra : Bytes) :
    forwardHead method origin version headers++extra=httpRequest (method++ ' '::origin++ ' '::version)
      (headers.filter (fun header => !isProxyHeader header)) extra := by
  have hlines : ∀ lines : List Str, utf8 (lines.flatMap (·++['\r','\n'])) =
      lines.flatMap (fun header => utf8 header++utf8 "\r\n".toList) := by
    intro lines
    induction lines with
    | nil => rfl
    | cons line lines ih =>
      rw [List.flatMap_cons,List.flatMap_cons,utf8_append,utf8_append,ih]
      rfl
  rw [httpRequest,headText,List.flatMap_append,utf8_append,hlines,List.flatMap_cons,← utf8_append]
  rfl

lemma infix_append_noBreak {s : Str} (h : '\n' ∉ s) : ¬['\r','\n'] <:+: s := by
  intro hbreak
  exact h (hbreak.subset (List.mem_cons_of_mem _ List.mem_cons_self))

lemma originOf_newline (hurl : Unbroken urlParse) {text : Str} {url : Url} (h : urlParse text = .ok url) :
    '\n' ∉ originOf url := by
  obtain ⟨hpath,hquery⟩ := hurl text url h
  rw [originOf,List.mem_append,not_or]
  constructor
  · split_ifs
    · decide
    · exact hpath
  · cases hq : url.query with
    | none => exact List.not_mem_nil
    | some query => exact List.not_mem_cons_of_ne_of_not_mem (by decide) (hquery query hq)

/-- The target of the request line that is sent on has no line break. -/
lemma targetFromHttpRequestTarget_newline (hurl : Unbroken urlParse) {requestTarget : Str}
    (hword : IsWord requestTarget) {headers : List Str} {found : TargetAddr × Str}
    (h : targetFromHttpRequestTarget urlParse requestTarget headers = .ok found) : '\n' ∉ found.2 := by
  unfold targetFromHttpRequestTarget at h
  split_ifs at h
  · obtain ⟨url,hparse,h⟩ := bind_eq_ok.mp h
    obtain ⟨host,_,h⟩ := bind_eq_ok.mp h
    obtain ⟨port,_,h⟩ := bind_eq_ok.mp h
    obtain ⟨target,_,rfl⟩ := map_eq_ok.mp h
    cases hparsed : urlParse requestTarget with
    | error err =>
      rw [hparsed] at hparse
      cases hparse
    | ok parsed =>
      rw [hparsed] at hparse
      obtain rfl : parsed=url := Except.ok.inj hparse
      exact originOf_newline hurl hparsed
  · obtain ⟨host,_,h⟩ := bind_eq_ok.mp h
    obtain ⟨target,_,rfl⟩ := map_eq_ok.mp h
    exact hword.newline_notMem

/-- What is sent on of a request other than CONNECT. -/
theorem parseRequestLines_forward (hurl : Unbroken urlParse) {requestLine : Str} {headers : List Str}
    (hheaders : ∀ line ∈ headers, IsLine line) {body : Bytes} {parsed : ParsedHttpRequest}
    (h : parseRequestLines urlParse requestLine (headers++[[],[]]) body = .ok parsed)
    (hconnect : parsed.isConnect=false) :
    ∃ line, IsLine line ∧ parsed.forwardBytes =
      httpRequest line (headers.filter (fun header => !isProxyHeader header)) body := by
  have hfilter : (headers++[[],[]]).filter (fun line => decide (line ≠ []))=headers := by
    rw [List.filter_append,List.filter_eq_self.mpr (fun line hline => decide_eq_true (hheaders line hline).ne_nil)]
    simp
  unfold parseRequestLines at h
  dsimp only at h
  rw [hfilter] at h
  obtain ⟨method,hmethod,h⟩ := bind_eq_ok.mp h
  obtain ⟨requestTarget,htarget,h⟩ := bind_eq_ok.mp h
  obtain ⟨version,hversion,h⟩ := bind_eq_ok.mp h
  have hword : ∀ {i : ℕ} {message : String} {w : Str},
      orInvalid message (splitWhitespace requestLine)[i]? = .ok w → IsWord w := by
    intro i message w hw
    exact isWord_of_mem_splitWhitespace (List.mem_of_getElem? (orInvalid_eq_ok.mp hw))
  split_ifs at h
  · obtain ⟨target,_,rfl⟩ := map_eq_ok.mp h
    cases hconnect
  · obtain ⟨found,hfound,rfl⟩ := map_eq_ok.mp h
    refine ⟨method++ ' '::found.2++ ' '::version,⟨?_,?_⟩,forwardHead_eq method found.2 version headers body⟩
    · exact List.append_ne_nil_of_left_ne_nil (List.append_ne_nil_of_left_ne_nil (hword hmethod).ne_nil _) _
    · apply infix_append_noBreak
      rw [List.mem_append,List.mem_append,List.mem_cons,List.mem_cons]
      have horigin := targetFromHttpRequestTarget_newline hurl (hword htarget) hfound
      have hm := (hword hmethod).newline_notMem
      have hv := (hword hversion).newline_notMem
      rintro ((h | h | h) | h | h)
      · exact hm h
      · exact absurd h (by decide)
      · exact horigin h
      · exact absurd h (by decide)
      · exact hv h

/-! The two rules for names -/

/-- The name in front of the first colon has no white space around it. -/
def TightName (line : Str) : Prop := ∀ header, splitOnce ':' line=some header → trim header.1=header.1

lemma isPrefix_iff_names {name line : Str} (hcolon : ':' ∉ name) (hspace : ∀ d ∈ name, isWhitespace d=false)
    (hlower : toAsciiLowercase name=name) :
    name++[':'] <+: toAsciiLowercase line ↔ names name line=true ∧ TightName line := by
  rw [prefix_toAsciiLowercase_iff hcolon]
  constructor
  · rintro ⟨key,value,hsplit,hkey⟩
    have htrim : trim key=key := by
      apply trim_eq_self
      apply noSpace_of_toAsciiLowercase
      rwa [hkey]
    constructor
    · rw [names,hsplit,Option.any_some,htrim,eqIgnoreAsciiCase,hkey,hlower,beq_self_eq_true]
    · intro header hheader
      rw [hsplit] at hheader
      cases hheader
      exact htrim
  · rintro ⟨hnames,htight⟩
    rw [names,Option.any_eq_true] at hnames
    obtain ⟨⟨key,value⟩,hsplit,heq⟩ := hnames
    rw [htight (key,value) hsplit,eqIgnoreAsciiCase,hlower] at heq
    exact ⟨key,value,hsplit,eq_of_beq heq⟩

/-- The lines that are withheld are the proxy's own headers without white space around the name. -/
theorem isProxyHeader_iff (line : Str) :
    isProxyHeader line=true ↔ namesProxyHeader line=true ∧ TightName line := by
  have hconnection : "proxy-connection".toList++[':'] <+: toAsciiLowercase line ↔
      names "proxy-connection".toList line=true ∧ TightName line :=
    isPrefix_iff_names (by decide) (noSpace_of_all (by decide)) (by decide)
  have hauthorization : "proxy-authorization".toList++[':'] <+: toAsciiLowercase line ↔
      names "proxy-authorization".toList line=true ∧ TightName line :=
    isPrefix_iff_names (by decide) (noSpace_of_all (by decide)) (by decide)
  rw [isProxyHeader,namesProxyHeader,decide_eq_true_eq,Bool.or_eq_true,or_and_right]
  exact or_congr hconnection hauthorization

/-- The credentials stay with the proxy just when no header that is for the proxy alone has white space
around its name. -/
theorem withholds_iff (hurl : Unbroken urlParse) {buffer : Bytes} {parsed : ParsedHttpRequest}
    (h : parseHttpRequest urlParse buffer = .ok parsed) (hconnect : parsed.isConnect=false) :
    Withholds buffer parsed.forwardBytes ↔
      ∀ line ∈ headerLines buffer, namesProxyHeader line=true → TightName line := by
  obtain ⟨requestLine,headers,body,hlines,rfl,hparse⟩ := parseHttpRequest_lines h
  have hheaders : ∀ line ∈ headers, IsLine line :=
    fun line hline => hlines line (List.mem_cons_of_mem requestLine hline)
  obtain ⟨first,hfirst,hforward⟩ := parseRequestLines_forward hurl hheaders hparse hconnect
  have hsent : ∀ line ∈ first::headers.filter (fun header => !isProxyHeader header), IsLine line := by
    intro line hline
    obtain rfl | hline := List.mem_cons.mp hline
    · exact hfirst
    · exact hheaders line (List.mem_filter.mp hline).1
  rw [hforward,headerLines_httpRequest hlines]
  constructor
  · intro hwith line hline hnames
    by_contra htight
    have hkept : isProxyHeader line=false := by
      rw [Bool.eq_false_iff]
      exact fun hproxy => htight ((isProxyHeader_iff line).mp hproxy).2
    have hno := hwith.withheld line
    rw [headerLines_httpRequest hsent,List.mem_filter] at hno
    have hfalse := hno ⟨hline,by rw [hkept,Bool.not_false]⟩
    rw [hnames] at hfalse
    cases hfalse
  · intro hall
    refine ⟨?_,?_,⟨first,hfirst,?_⟩⟩
    · rw [headerLines_httpRequest hsent]
      intro line hline
      obtain ⟨hline,hproxy⟩ := List.mem_filter.mp hline
      rw [Bool.eq_false_iff]
      intro hnames
      rw [(isProxyHeader_iff line).mpr ⟨hnames,hall line hline hnames⟩] at hproxy
      cases hproxy
    · rw [headerLines_httpRequest hsent,headerLines_httpRequest hlines,List.filter_filter]
      apply List.filter_congr
      intro line _
      cases hproxy : isProxyHeader line with
      | false => simp
      | true => simp [((isProxyHeader_iff line).mp hproxy).1]
    · rw [headerLines_httpRequest hsent,behindHead_httpRequest hlines]

def noUrls : UrlParse := fun _ => .error "relative URL without a base".toList

theorem noUrls_unbroken : Unbroken noUrls := by
  intro text url h
  cases h

def getLine : Str := "GET / HTTP/1.1".toList

def sampleHost : Str := "Host: a".toList

theorem withholds_iff_tight :
    ∃ parsed, parseHttpRequest noUrls
      (httpRequest getLine [sampleHost,"Proxy-Authorization: Basic eA==".toList] [120]) = .ok parsed ∧
    (Withholds (httpRequest getLine [sampleHost,"Proxy-Authorization: Basic eA==".toList] [120])
        parsed.forwardBytes ↔
      ∀ line ∈ headerLines (httpRequest getLine [sampleHost,"Proxy-Authorization: Basic eA==".toList] [120]),
        namesProxyHeader line=true → TightName line) := by
  have hparse : parseHttpRequest noUrls
      (httpRequest getLine [sampleHost,"Proxy-Authorization: Basic eA==".toList] [120]) =
        .ok ⟨⟨['a'],80,by decide⟩,false,httpRequest getLine [sampleHost] [120]⟩ := by
    decide +kernel
  exact ⟨_,hparse,withholds_iff noUrls_unbroken hparse rfl⟩

/-- A space in front of the colon is enough for the password to reach the target. -/
theorem password_forwarded :
    ∃ parsed, parseHttpRequest noUrls
      (httpRequest getLine [sampleHost,"Proxy-Authorization : Basic eA==".toList] []) = .ok parsed ∧
    parsed.isConnect=false ∧
    parsed.forwardBytes=httpRequest getLine [sampleHost,"Proxy-Authorization : Basic eA==".toList] [] ∧
    findHeader (headerLines parsed.forwardBytes) "proxy-authorization".toList=some "Basic eA==".toList ∧
    ¬Withholds (httpRequest getLine [sampleHost,"Proxy-Authorization : Basic eA==".toList] [])
      parsed.forwardBytes := by
  have hparse : parseHttpRequest noUrls
      (httpRequest getLine [sampleHost,"Proxy-Authorization : Basic eA==".toList] []) =
        .ok ⟨⟨['a'],80,by decide⟩,false,
          httpRequest getLine [sampleHost,"Proxy-Authorization : Basic eA==".toList] []⟩ := by
    decide +kernel
  have hlines : headerLines (httpRequest getLine [sampleHost,"Proxy-Authorization : Basic eA==".toList] []) =
      [sampleHost,"Proxy-Authorization : Basic eA==".toList] := by
    decide +kernel
  refine ⟨_,hparse,rfl,rfl,?_,fun hwith => ?_⟩
  · rw [hlines]
    decide +kernel
  · have hno := hwith.withheld "Proxy-Authorization : Basic eA==".toList
    rw [hlines] at hno
    exact absurd (hno (List.mem_cons_of_mem _ List.mem_cons_self)) (by decide +kernel)

end RotatorProxy.Server
