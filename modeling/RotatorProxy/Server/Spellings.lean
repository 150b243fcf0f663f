import RotatorProxy.Server.Lines
import RotatorProxy.Server.Socks5

/-! One endpoint in the four spellings that a client may use: CONNECT, the absolute form, the origin
form with a Host header, and a SOCKS5 request. -/
namespace RotatorProxy.Server
open Text Proxy Library Outbound

/-- What a lower-case domain name may hold: ASCII without what a URL forbids in a domain. -/
def IsDomainChar (c : Char) : Prop :=
  '!'.toNat ≤ c.toNat ∧ c.toNat ≤ '~'.toNat ∧ ¬('A'.toNat ≤ c.toNat ∧ c.toNat ≤ 'Z'.toNat) ∧
    c ∉ "#/:<>?@[\\]^|%".toList

instance : DecidablePred IsDomainChar := fun _ => inferInstanceAs (Decidable (_ ∧ _))

structure IsDomain (name : Str) : Prop where
  ne_nil : name ≠ []
  chars : ∀ c ∈ name, IsDomainChar c
  length_le : (utf8 name).length ≤ 255

inductive Host
  | v4 (ip : Ipv4Addr)
  | v6 (ip : Ipv6Addr)
  | domain (name : Str) (h : IsDomain name)

namespace Host

def text : Host → Str
  | v4 ip => ip.display
  | v6 ip => ip.display
  | domain name _ => name

def isV6 : Host → Bool
  | v6 _ => true
  | _ => false

/-- The host as an authority has it. -/
def bracketed (host : Host) : Str := if host.isV6 then '['::host.text++[']'] else host.text

/-- The host as a SOCKS5 request has it, behind its address type. -/
def socks5Bytes : Host → Bytes
  | v4 ip => 1::ip.octets
  | v6 ip => 4::ip.octets
  | domain name _ => 3::UInt8.ofNat (utf8 name).length::utf8 name

end Host

def authority (host : Host) (port : UInt16) : Str := host.bracketed++ ':'::decimal port.toNat

/-- What stands around the endpoint in the HTTP spellings. -/
structure Around where
  method : Str
  version : Str
  path : Str
  before : List Str
  after : List Str
  method_word : IsWord method
  not_connect : eqIgnoreAsciiCase method "CONNECT".toList=false
  version_word : IsWord version
  path_word : IsWord path
  path_root : path.head?=some '/'
  lines : ∀ line ∈ before++after, IsLine line
  host_first : findHeader before "host".toList=none

namespace Around
variable (a : Around) (host : Host) (port : UInt16) (body : Bytes)

def headers : List Str := a.before++("Host: ".toList++authority host port)::a.after

def connectForm : Bytes :=
  httpRequest ("CONNECT".toList++ ' '::(authority host port++ ' '::a.version)) (a.headers host port) body

/-- The URL of the absolute form. -/
def url : Str := "http://".toList++(authority host port++a.path)

def absoluteForm : Bytes :=
  httpRequest (a.method++ ' '::(a.url host port++ ' '::a.version)) (a.headers host port) body

def originForm : Bytes :=
  httpRequest (a.method++ ' '::(a.path++ ' '::a.version)) (a.headers host port) body

end Around

def socks5Form (host : Host) (port : UInt16) : Bytes := [5,1,0]++host.socks5Bytes++toBeBytes port

/-- What the url crate finds in the absolute form: the host as it is written, and the port also where
it is the default one. -/
def ReadsUrl (urlParse : UrlParse) (url : Str) (host : Host) (port : UInt16) : Prop :=
  ∃ parsed, urlParse url = .ok parsed ∧ parsed.hostStr=some host.bracketed ∧
    parsed.portOrKnownDefault=some port

/-- The four spellings are read as one target. -/
def Agree (libc : Libc) (urlParse : UrlParse) (a : Around) (host : Host) (port : UInt16) (body : Bytes)
    (ending : Ending) : Prop :=
  ∃ target,
    (parseHttpRequest urlParse (a.connectForm host port body)).map (·.target) = .ok target ∧
    (parseHttpRequest urlParse (a.absoluteForm host port body)).map (·.target) = .ok target ∧
    (parseHttpRequest urlParse (a.originForm host port body)).map (·.target) = .ok target ∧
    (readSocks5Request libc ⟨socks5Form host port++body,ending⟩).map (·.1.target) = .ok target

/-! The characters of a host -/

def IsGraphic (c : Char) : Prop := '!'.toNat ≤ c.toNat ∧ c.toNat ≤ '~'.toNat

instance : DecidablePred IsGraphic := fun _ => inferInstanceAs (Decidable (_ ∧ _))

lemma IsGraphic.notSpace {c : Char} (h : IsGraphic c) : isWhitespace c=false := by
  have hlo : 33 ≤ c.toNat := h.1
  have hhi : c.toNat ≤ 126 := h.2
  simp only [isWhitespace,Bool.or_eq_false_iff,Bool.and_eq_false_iff,decide_eq_false_iff_not,
    beq_eq_false_iff_ne]
  omega

lemma isAddrChar_graphic {c : Char} (h : IsAddrChar c) : IsGraphic c := by
  unfold IsGraphic
  obtain h | ⟨hlo,hhi⟩ | rfl | rfl := h
  · obtain ⟨hlo,hhi⟩ : 48 ≤ c.val ∧ c.val ≤ 57 := by simpa [Char.isDigit] using h
    exact ⟨le_trans (by decide) (UInt32.le_iff_toNat_le.mp hlo),
      le_trans (UInt32.le_iff_toNat_le.mp hhi) (by decide)⟩
  · exact ⟨le_trans (by decide) hlo,le_trans hhi (by decide)⟩
  · decide
  · decide

lemma decimal_graphic (n : ℕ) : ∀ c ∈ decimal n, IsGraphic c :=
  fun c hc => isAddrChar_graphic (decimal_chars n c hc)

namespace Host

lemma text_graphic (host : Host) : ∀ c ∈ host.text, IsGraphic c := by
  intro c hc
  cases host with
  | v4 ip => exact isAddrChar_graphic (ip.display_chars c hc)
  | v6 ip => exact isAddrChar_graphic (ip.display_chars c hc)
  | domain name h => exact ⟨(h.chars c hc).1,(h.chars c hc).2.1⟩

lemma text_ne_nil (host : Host) : host.text ≠ [] := by
  cases host with
  | v4 ip => simp [text,Ipv4Addr.display]
  | v6 ip => exact ip.display_ne_nil
  | domain name h => exact h.ne_nil

theorem text_word (host : Host) : IsWord host.text :=
  ⟨host.text_ne_nil,fun c hc => (host.text_graphic c hc).notSpace⟩

lemma text_notBlank (host : Host) : trim host.text ≠ [] := by
  rw [trim_eq_self host.text_word.noSpace]
  exact host.text_ne_nil

/-- Where all spellings should lead. -/
def target (host : Host) (port : UInt16) : TargetAddr := ⟨host.text,port,host.text_notBlank⟩

end Host

/-! Authorities -/

lemma authority_graphic (host : Host) (port : UInt16) : ∀ c ∈ authority host port, IsGraphic c := by
  intro c hc
  obtain hc | hc := List.mem_append.mp hc
  · unfold Host.bracketed at hc
    split at hc
    · simp only [List.mem_cons,List.mem_append,List.not_mem_nil,or_false] at hc
      obtain (rfl | hc) | rfl := hc
      · decide
      · exact host.text_graphic c hc
      · decide
    · exact host.text_graphic c hc
  · obtain rfl | hc := List.mem_cons.mp hc
    · decide
    · exact decimal_graphic _ c hc

theorem authority_word (host : Host) (port : UInt16) : IsWord (authority host port) :=
  ⟨by simp [authority],fun c hc => (authority_graphic host port c hc).notSpace⟩

lemma colon_notMem_decimal (n : ℕ) : ':' ∉ decimal n := notMem_decimal (by decide) n

lemma parsePort_decimal (port : UInt16) : parsePort (decimal port.toNat) = .ok port := by
  rw [parsePort,parseU16_decimal]

/-- An IPv4 address has no colon, and neither has a domain. -/
lemma Host.colon_notMem {host : Host} (h : host.isV6=false) : ':' ∉ host.text := by
  cases host with
  | v4 ip => exact ip.colon_notMem
  | v6 ip => cases h
  | domain name hdomain => exact fun hc => absurd (hdomain.chars _ hc) (by decide)

lemma Host.bracket_notMem (host : Host) {c : Char} (hc : c = '[' ∨ c = ']') : c ∉ host.text := by
  have haddr : ¬IsAddrChar c := by
    obtain rfl | rfl := hc <;> simp [IsAddrChar]
  cases host with
  | v4 ip => exact fun h => haddr (ip.display_chars c h)
  | v6 ip => exact fun h => haddr (ip.display_chars c h)
  | domain name hdomain =>
    intro h
    obtain rfl | rfl := hc
    · exact absurd (hdomain.chars _ h) (by decide)
    · exact absurd (hdomain.chars _ h) (by decide)

/-- An authority is read as its host and port, whatever the default. -/
theorem parse_authority (host : Host) (port : UInt16) (defaultPort : Option UInt16) :
    TargetAddr.parse (authority host port) defaultPort = .ok (host.target port) := by
  have hword := authority_word host port
  have hnew : TargetAddr.new host.text port = .ok (host.target port) :=
    TargetAddr.new_ok port host.text_notBlank
  unfold TargetAddr.parse
  rw [trim_eq_self hword.noSpace]
  dsimp only
  rw [if_neg hword.ne_nil]
  cases hv6 : host.isV6 with
  | true =>
    have hauthority : authority host port= '['::(host.text++ ']':: ':'::decimal port.toNat) := by
      simp [authority,Host.bracketed,hv6]
    rw [hauthority,stripPrefix,if_pos rfl]
    dsimp only
    rw [splitOnce_append (host.bracket_notMem (.inr rfl))]
    dsimp only
    rw [stripPrefix,if_pos rfl]
    dsimp only
    rw [parsePort_decimal]
    exact hnew
  | false =>
    have hauthority : authority host port=host.text++ ':'::decimal port.toNat := by
      simp [authority,Host.bracketed,hv6]
    have hstrip : stripPrefix '[' (authority host port) = none := by
      obtain ⟨c,cs,htext⟩ := List.exists_cons_of_ne_nil host.text_ne_nil
      have hc : c ≠ '[' := by
        rintro rfl
        apply host.bracket_notMem (.inl rfl)
        rw [htext]
        exact List.mem_cons_self
      rw [hauthority,htext,List.cons_append,stripPrefix,if_neg hc]
    rw [hstrip]
    dsimp only
    rw [hauthority,rsplitOnce_append (colon_notMem_decimal _),Option.filter_some,
      if_pos (decide_eq_true (Host.colon_notMem hv6))]
    dsimp only
    rw [parsePort_decimal]
    exact hnew

/-! The three HTTP spellings -/

lemma IsWord.noBreak {w : Str} (h : ∀ c ∈ w, isWhitespace c=false) : '\r' ∉ w :=
  fun hc => absurd (h _ hc) (by decide)

/-- Three words make a line, and are found in it. -/
lemma isLine_words {method target version : Str} (hmethod : IsWord method) (htarget : IsWord target)
    (hversion : IsWord version) : IsLine (method++ ' '::(target++ ' '::version)) := by
  constructor
  · simp
  · intro hbreak
    have hcr := hbreak.subset List.mem_cons_self
    simp only [List.mem_append,List.mem_cons] at hcr
    obtain h | h | h | h | h := hcr
    · exact IsWord.noBreak hmethod.noSpace h
    · cases h
    · exact IsWord.noBreak htarget.noSpace h
    · cases h
    · exact IsWord.noBreak hversion.noSpace h

lemma splitWhitespace_words {method target version : Str} (hmethod : IsWord method)
    (htarget : IsWord target) (hversion : IsWord version) :
    splitWhitespace (method++ ' '::(target++ ' '::version)) = [method,target,version] := by
  rw [splitWhitespace_cons hmethod,splitWhitespace_cons htarget,splitWhitespace_word hversion]

namespace Around
variable (a : Around) (host : Host) (port : UInt16) (body : Bytes) {urlParse : UrlParse}

lemma headers_lines : ∀ line ∈ a.headers host port, IsLine line := by
  intro line hline
  obtain hline | hline := List.mem_append.mp hline
  · exact a.lines line (List.mem_append_left _ hline)
  · obtain rfl | hline := List.mem_cons.mp hline
    · refine ⟨by simp,fun hbreak => ?_⟩
      obtain h | h := List.mem_append.mp (hbreak.subset List.mem_cons_self)
      · revert h
        decide
      · exact IsWord.noBreak (authority_word host port).noSpace h
    · exact a.lines line (List.mem_append_right _ hline)

/-- A request of three words and these headers is read by its words. -/
lemma parse_words {method target : Str} (hmethod : IsWord method) (htarget : IsWord target) :
    parseHttpRequest urlParse
      (httpRequest (method++ ' '::(target++ ' '::a.version)) (a.headers host port) body) =
    if eqIgnoreAsciiCase method "CONNECT".toList then
      (targetAddr (TargetAddr.parse target none)).map fun target => ⟨target,true,[]⟩
    else (targetFromHttpRequestTarget urlParse target (a.headers host port)).map fun found =>
      ⟨found.1,false,forwardHead method found.2 a.version (a.headers host port)++body⟩ := by
  have hlines : ∀ line ∈ (method++ ' '::(target++ ' '::a.version))::a.headers host port, IsLine line := by
    intro line hline
    obtain rfl | hline := List.mem_cons.mp hline
    · exact isLine_words hmethod htarget a.version_word
    · exact a.headers_lines host port line hline
  have hfilter : (a.headers host port++[[],[]]).filter (fun line => decide (line ≠ [])) =
      a.headers host port := by
    rw [List.filter_append,List.filter_eq_self.mpr,List.filter_eq_nil_iff.mpr,List.append_nil]
    · simp
    · intro line hline
      exact decide_eq_true (a.headers_lines host port line hline).ne_nil
  rw [parseHttpRequest_httpRequest hlines,parseRequestLines]
  simp only [splitWhitespace_words hmethod htarget a.version_word,hfilter,List.getElem?_cons_zero,
    List.getElem?_cons_succ,orInvalid,Except.bind]

theorem connectForm_target : (parseHttpRequest urlParse (a.connectForm host port body)).map (·.target) =
    .ok (host.target port) := by
  have hconnect : IsWord "CONNECT".toList := ⟨by decide,noSpace_of_all (by decide)⟩
  rw [connectForm,a.parse_words host port body hconnect (authority_word host port),if_pos (by decide),
    parse_authority]
  rfl

theorem originForm_target : (parseHttpRequest urlParse (a.originForm host port body)).map (·.target) =
    .ok (host.target port) := by
  have horigin : ¬("http://".toList <+: a.path ∨ "https://".toList <+: a.path) := by
    obtain ⟨path,hpath⟩ := List.head?_eq_some_iff.mp a.path_root
    rw [hpath]
    rintro (h | h)
    · cases (List.cons_prefix_cons.mp h).1
    · cases (List.cons_prefix_cons.mp h).1
  have hhost : findHeader (a.headers host port) "host".toList = some (authority host port) := by
    have hname : ':' ∉ "Host".toList := by decide
    have hline : splitOnce ':' ("Host: ".toList++authority host port) =
        some ("Host".toList,' '::authority host port) := splitOnce_append hname (' '::authority host port)
    have htrim : trim (' '::authority host port)=authority host port :=
      trim_eq_self (authority_word host port).noSpace
    have hbefore := a.host_first
    rw [findHeader] at hbefore ⊢
    rw [headers,List.findSome?_append,hbefore,Option.none_or,List.findSome?_cons,hline,Option.bind_some]
    dsimp only
    rw [htrim,if_pos (by decide)]
  rw [originForm,a.parse_words host port body a.method_word a.path_word,a.not_connect,
    if_neg Bool.false_ne_true,targetFromHttpRequestTarget,if_neg horigin,hhost]
  simp only [orInvalid,Except.bind,parse_authority]
  rfl

theorem absoluteForm_target (hurl : ReadsUrl urlParse (a.url host port) host port) :
    (parseHttpRequest urlParse (a.absoluteForm host port body)).map (·.target) =
      (targetAddr (TargetAddr.new host.bracketed port)) := by
  have hword : IsWord (a.url host port) := by
    have hhttp : ∀ c ∈ "http://".toList, isWhitespace c=false := noSpace_of_all (by decide)
    refine ⟨List.append_ne_nil_of_left_ne_nil (by decide) _,fun c hc => ?_⟩
    obtain h | h := List.mem_append.mp hc
    · exact hhttp c h
    · obtain h | h := List.mem_append.mp h
      · exact (authority_word host port).noSpace c h
      · exact a.path_word.noSpace c h
  obtain ⟨parsed,hparse,hhost,hport⟩ := hurl
  rw [absoluteForm,a.parse_words host port body a.method_word hword,a.not_connect,
    if_neg Bool.false_ne_true,targetFromHttpRequestTarget,if_pos (.inl (List.prefix_append _ _)),
    hparse]
  simp only [orInvalid,Except.bind,Except.mapError,hhost,hport]
  cases targetAddr (TargetAddr.new host.bracketed port) <;> rfl

end Around

/-! The SOCKS5 spelling -/

theorem socks5Form_target (libc : Libc) (host : Host) (port : UInt16) (body : Bytes) (ending : Ending) :
    readSocks5Request libc ⟨socks5Form host port++body,ending⟩ = .ok (⟨1,host.target port⟩,⟨body,ending⟩) := by
  have hnew : TargetAddr.new host.text port = .ok (host.target port) :=
    TargetAddr.new_ok port host.text_notBlank
  rw [socks5Form,List.append_assoc [5,1,0]]
  cases host with
  | v4 ip => exact readSocks5Request_v4 body ending hnew
  | v6 ip => exact readSocks5Request_v6 body ending hnew
  | domain name hname => exact readSocks5Request_domain body ending hname.length_le hnew

/-! All four -/

/-- The spellings are read as one target just when the host is not an IPv6 address: there the absolute
form keeps the brackets. -/
theorem spellings_agree_iff (libc : Libc) (urlParse : UrlParse) (a : Around) (host : Host) (port : UInt16)
    (body : Bytes) (ending : Ending) (hurl : ReadsUrl urlParse (a.url host port) host port) :
    Agree libc urlParse a host port body ending ↔ host.isV6=false := by
  have hsocks : (readSocks5Request libc ⟨socks5Form host port++body,ending⟩).map (·.1.target) =
      .ok (host.target port) := by
    rw [socks5Form_target]
    rfl
  unfold Agree
  rw [a.connectForm_target,a.absoluteForm_target host port body hurl,a.originForm_target,hsocks]
  cases hv6 : host.isV6 with
  | true =>
    have hbracketed : host.bracketed= '['::host.text++[']'] := by simp [Host.bracketed,hv6]
    constructor
    · rintro ⟨target,hconnect,habsolute,_⟩
      obtain ⟨parsed,hparsed,herr⟩ : ∃ parsed, TargetAddr.new host.bracketed port = .ok parsed ∧
          parsed=target := by
        cases hnew : TargetAddr.new host.bracketed port with
        | error err =>
          rw [hnew] at habsolute
          cases habsolute
        | ok parsed =>
          rw [hnew] at habsolute
          exact ⟨parsed,rfl,Except.ok.inj habsolute⟩
      have hhost := (TargetAddr.new_eq_ok hparsed).1
      rw [herr,← Except.ok.inj hconnect,hbracketed] at hhost
      have hlen := congrArg List.length (show host.text=_ from hhost)
      simp only [List.length_append,List.length_cons,List.length_nil] at hlen
      omega
    · exact fun h => by cases h
  | false =>
    have hbracketed : host.bracketed=host.text := by simp [Host.bracketed,hv6]
    rw [hbracketed,TargetAddr.new_ok port host.text_notBlank]
    exact ⟨fun _ => rfl,fun _ => ⟨host.target port,rfl,rfl,rfl,rfl⟩⟩

def plainGet : Around where
  method := "GET".toList
  version := "HTTP/1.1".toList
  path := "/".toList
  before := []
  after := []
  method_word := ⟨by decide,noSpace_of_all (by decide)⟩
  not_connect := by decide
  version_word := ⟨by decide,noSpace_of_all (by decide)⟩
  path_word := ⟨by decide,noSpace_of_all (by decide)⟩
  path_root := rfl
  lines := fun _ h => by cases h
  host_first := rfl

def loopback : Host := .v6 ⟨[0,0,0,0,0,0,0,1],rfl⟩

/-- The url crate on the two URLs below. -/
def sampleUrls : UrlParse := fun url =>
  if url="http://[::1]:80/".toList then .ok ⟨some "[::1]".toList,some 80,"/".toList,none⟩
  else if url="http://127.0.0.1:80/".toList then .ok ⟨some "127.0.0.1".toList,some 80,"/".toList,none⟩
  else .error "relative URL without a base".toList

theorem spellings_agree_iff_v4 :
    Agree .sample sampleUrls plainGet (.v4 ⟨127,0,0,1⟩) 80 [] .closed ↔
      (Host.v4 ⟨127,0,0,1⟩).isV6=false :=
  spellings_agree_iff .sample sampleUrls plainGet (.v4 ⟨127,0,0,1⟩) 80 [] .closed
    ⟨⟨some "127.0.0.1".toList,some 80,"/".toList,none⟩,by decide +kernel,by decide +kernel,rfl⟩

/-- For an IPv6 address the absolute form leads to a host in brackets, the other forms do not. -/
theorem brackets_kept :
    ReadsUrl sampleUrls (plainGet.url loopback 80) loopback 80 ∧
    (parseHttpRequest sampleUrls (plainGet.connectForm loopback 80 [])).map (·.target.host) =
      .ok "::1".toList ∧
    (parseHttpRequest sampleUrls (plainGet.absoluteForm loopback 80 [])).map (·.target.host) =
      .ok "[::1]".toList ∧
    ¬Agree .sample sampleUrls plainGet loopback 80 [] .closed := by
  refine ⟨⟨⟨some "[::1]".toList,some 80,"/".toList,none⟩,by decide +kernel,by decide +kernel,rfl⟩,
    by decide +kernel,by decide +kernel,?_⟩
  rintro ⟨target,hconnect,habsolute,_⟩
  have hsame := hconnect.trans habsolute.symm
  revert hsame
  decide +kernel

end RotatorProxy.Server
