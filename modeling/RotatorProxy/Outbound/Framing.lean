import RotatorProxy.Library.Infix
import RotatorProxy.Library.Outcome
import RotatorProxy.Outbound.Socks4
import RotatorProxy.Server.Socks5
import RotatorProxy.Text.Split

/-! What a proxy reads out of the two handshakes that paste the target's host between delimiters. -/
namespace RotatorProxy.Outbound
open Text Proxy Library

/-- A request head as it is read: its request line, and the lines behind it. -/
structure ConnectHead where
  method : Str
  target : Str
  version : Str
  lines : List Str
  deriving DecidableEq

def decodeConnectHead (bytes : Bytes) : Option ConnectHead :=
  (fromUtf8 bytes).bind fun text =>
    (splitOnce ' ' ((splitCrlf text).headD [])).bind fun (method,rest) =>
      (splitOnce ' ' rest).map fun (target,version) => ⟨method,target,version,(splitCrlf text).tail⟩

structure Socks4aRequest where
  port : UInt16
  user : Bytes
  host : Bytes
  deriving DecidableEq

/-- The user id and the host are each read up to the first zero byte, and nothing is left. -/
def decodeSocks4a : Bytes → Option Socks4aRequest
  | 4::1::hi::lo::0::0::0::1::rest =>
    (splitOnce 0 rest).bind fun (user,rest) =>
      (splitOnce 0 rest).bind fun (host,rest) =>
        if rest=[] then some ⟨fromBeBytes hi lo,user,host⟩ else none
  | _ => none

inductive Handshake
  | httpConnect (auth : Option Credentials)
  | socks4a (auth : Option Credentials)

def authorizationLines : Option Credentials → List Str
  | some auth =>
    ["Proxy-Authorization: Basic ".toList++base64Encode (utf8 (auth.username++ ':'::auth.password.getD []))]
  | none => []

/-- The lines behind the request line, up to the end of the head. -/
def headLines (auth : Option Credentials) (target : TargetAddr) : List Str :=
  ["Host: ".toList++target.display,"Proxy-Connection: Keep-Alive".toList]++authorizationLines auth++[[]]

def intendedHead (auth : Option Credentials) (target : TargetAddr) : ConnectHead where
  method := "CONNECT".toList
  target := target.display
  version := "HTTP/1.1".toList
  lines := headLines auth target++[[]]

/-- What is sent is read as what was meant. -/
def ParsesBack : Handshake → TargetAddr → Prop
  | .httpConnect auth,target =>
    decodeConnectHead (utf8 (connectRequest auth target)) = some (intendedHead auth target)
  | .socks4a auth,target =>
    decodeSocks4a (socks4Request auth true ⟨0,0,0,1⟩ target) =
      some ⟨target.port,utf8 (socks4User auth),utf8 target.host⟩

/-- The delimiters of the handshake are not among the characters put between them. -/
def Framed : Handshake → TargetAddr → Prop
  | .httpConnect _,target => ¬['\r','\n'] <:+: target.host ∧ ' ' ∉ target.host
  | .socks4a auth,target => '\x00' ∉ socks4User auth ∧ '\x00' ∉ target.host

/-! HTTP -/

/-- The host stands between other characters. -/
lemma display_parts (target : TargetAddr) : ∃ pre post, target.display=pre++target.host++post ∧
    (∀ c ∈ pre, c = '[') ∧ ∀ c ∈ post, c = ']' ∨ c = ':' ∨ c.isDigit := by
  unfold TargetAddr.display displayHostPort
  split
  · refine ⟨['['],"]:".toList++decimal target.port.toNat,by simp,by simp,fun c hc => ?_⟩
    rw [List.mem_append] at hc
    obtain hc | hc := hc
    · have hmem : c ∈ [']',':'] := hc
      simp only [List.mem_cons,List.not_mem_nil,or_false] at hmem
      exact hmem.imp_right .inl
    · exact .inr (.inr (decimal_isDigit hc))
  · refine ⟨[],':'::decimal target.port.toNat,by simp,by simp,fun c hc => ?_⟩
    obtain rfl | hc := List.mem_cons.mp hc
    · exact .inr (.inl rfl)
    · exact .inr (.inr (decimal_isDigit hc))

def requestLine (target : TargetAddr) : Str :=
  "CONNECT".toList++ ' '::(target.display++ ' '::"HTTP/1.1".toList)

/-- The request taken apart at its line breaks; `auth` is the authorization line with its break. -/
lemma request_breaks (display auth : Str) :
    "CONNECT ".toList++display++" HTTP/1.1\r\nHost: ".toList++display++
      "\r\nProxy-Connection: Keep-Alive\r\n".toList++auth++"\r\n".toList =
    ("CONNECT".toList++ ' '::(display++ ' '::"HTTP/1.1".toList))++['\r','\n']++
      ("Host: ".toList++display++['\r','\n']++
        ("Proxy-Connection: Keep-Alive".toList++['\r','\n']++(auth++['\r','\n']))) := by
  have hconnect : "CONNECT ".toList="CONNECT".toList++[' '] := rfl
  have hhost : " HTTP/1.1\r\nHost: ".toList= ' '::"HTTP/1.1".toList++['\r','\n']++"Host: ".toList := rfl
  have hkeep : "\r\nProxy-Connection: Keep-Alive\r\n".toList=
    ['\r','\n']++"Proxy-Connection: Keep-Alive".toList++['\r','\n'] := rfl
  have hend : "\r\n".toList=['\r','\n'] := rfl
  rw [hhost,hkeep,hconnect,hend]
  -- the literals themselves must not be unfolded
  generalize "CONNECT".toList = connect
  generalize "HTTP/1.1".toList = version
  generalize "Host: ".toList = host
  generalize "Proxy-Connection: Keep-Alive".toList = keep
  simp only [List.append_assoc,List.cons_append,List.nil_append]

lemma connectRequest_lines (auth : Option Credentials) (target : TargetAddr) :
    connectRequest auth target =
      (requestLine target::headLines auth target).flatMap (·++['\r','\n']) := by
  have hline : ∀ line : Str, line++"\r\n".toList++['\r','\n'] = ([line]++[[]]).flatMap (·++['\r','\n']) := by
    intro line
    have hend : "\r\n".toList=['\r','\n'] := rfl
    rw [List.flatMap_append,List.flatMap_singleton,List.flatMap_singleton,List.nil_append,hend]
  have hauth : proxyAuthorization auth++['\r','\n'] =
      (authorizationLines auth++[[]]).flatMap (·++['\r','\n']) := by
    cases auth with
    | none => rfl
    | some auth =>
      unfold proxyAuthorization authorizationLines
      exact hline _
  unfold connectRequest requestLine headLines
  rw [request_breaks,hauth]
  generalize "CONNECT".toList = connect
  generalize "HTTP/1.1".toList = version
  generalize "Host: ".toList = host
  generalize "Proxy-Connection: Keep-Alive".toList = keep
  simp only [List.flatMap_cons,List.flatMap_append,List.flatMap_nil,List.append_assoc,List.append_nil]

/-- A line with the target in it has a break inside just when the host has. -/
lemma break_in_line (target : TargetAddr) (before after : Str) (hbefore : '\r' ∉ before)
    (hafter : '\n' ∉ after) :
    ['\r','\n'] <:+: before++(target.display++after) ↔ ['\r','\n'] <:+: target.host := by
  obtain ⟨pre,post,hdisplay,hpre,hpost⟩ := display_parts target
  have hcr : '\r' ∉ before++pre := by
    rw [List.mem_append]
    rintro (h | h)
    · exact hbefore h
    · exact absurd (hpre _ h) (by decide)
  have hlf : '\n' ∉ post++after := by
    rw [List.mem_append]
    rintro (h | h)
    · exact absurd (hpost _ h) (by decide)
    · exact hafter h
  rw [hdisplay,List.append_assoc,List.append_assoc,← List.append_assoc before,
    infix_append_of_notMem_left hcr]
  have hright : ['\r']++['\n'] <:+: target.host++(post++after) ↔ ['\r']++['\n'] <:+: target.host :=
    infix_append_of_notMem_right hlf target.host
  exact hright

lemma not_break_of_notMem {line : Str} (h : '\r' ∉ line) : ¬['\r','\n'] <:+: line :=
  fun hbreak => h (hbreak.subset List.mem_cons_self)

/-- Base64 has no line breaks of its own. -/
lemma authorizationLines_noCr (auth : Option Credentials) : ∀ line ∈ authorizationLines auth, '\r' ∉ line := by
  intro line hline
  cases auth with
  | none => cases hline
  | some auth =>
    rw [List.mem_singleton.mp hline,List.mem_append]
    rintro (h | h)
    · revert h
      decide
    · obtain h | h := base64Encode_chars _ _ h
      · cases h
      · revert h
        decide

lemma break_in_connect_lines (auth : Option Credentials) (target : TargetAddr) :
    (∀ line ∈ requestLine target::headLines auth target, ¬['\r','\n'] <:+: line) ↔
      ¬['\r','\n'] <:+: target.host := by
  constructor
  · intro h hhost
    apply h (requestLine target) List.mem_cons_self
    have hline := break_in_line target "CONNECT ".toList (' '::"HTTP/1.1".toList)
      (by decide) (by decide)
    exact hline.mpr hhost
  · intro h line hline
    rw [headLines,List.mem_cons,List.mem_append,List.mem_append,List.mem_pair,List.mem_singleton] at hline
    obtain rfl | ((rfl | rfl) | hauth) | rfl := hline
    · have hline := break_in_line target "CONNECT ".toList (' '::"HTTP/1.1".toList)
        (by decide) (by decide)
      exact hline.not.mpr h
    · have hline := break_in_line target "Host: ".toList [] (by decide) (by decide)
      rw [List.append_nil] at hline
      exact hline.not.mpr h
    · decide
    · exact not_break_of_notMem (authorizationLines_noCr auth line hauth)
    · decide

lemma space_in_display (target : TargetAddr) : ' ' ∈ target.display ↔ ' ' ∈ target.host := by
  obtain ⟨pre,post,hdisplay,hpre,hpost⟩ := display_parts target
  rw [hdisplay,List.mem_append,List.mem_append]
  constructor
  · rintro ((h | h) | h)
    · exact absurd (hpre _ h) (by decide)
    · exact h
    · exact absurd (hpost _ h) (by decide)
  · exact fun h => .inl (.inr h)

/-- What a head says that is read out of a text. -/
theorem decodeConnectHead_eq_some {text : Str} {head : ConnectHead} :
    decodeConnectHead (utf8 text) = some head ↔
      splitCrlf text = (head.method++ ' '::(head.target++ ' '::head.version))::head.lines ∧
        ' ' ∉ head.method ∧ ' ' ∉ head.target := by
  obtain ⟨line,lines,hsplit,_⟩ := splitCrlf_head text
  rw [decodeConnectHead,fromUtf8_utf8,Option.bind_some,hsplit,List.headD_cons,List.tail_cons]
  constructor
  · intro h
    obtain ⟨⟨method,rest⟩,hline,h⟩ := Option.bind_eq_some_iff.mp h
    obtain ⟨⟨target,version⟩,hrest,rfl⟩ := Option.map_eq_some_iff.mp h
    obtain ⟨rfl,hmethod⟩ := splitOnce_eq_some.mp hline
    obtain ⟨rfl,htarget⟩ := splitOnce_eq_some.mp hrest
    exact ⟨rfl,hmethod,htarget⟩
  · rintro ⟨heq,hmethod,htarget⟩
    obtain ⟨rfl,rfl⟩ := List.cons.inj heq
    rw [splitOnce_append hmethod,Option.bind_some]
    dsimp only
    rw [splitOnce_append htarget,Option.map_some]

/-- The head is read as it was meant just when the host has neither a line break nor a space. -/
theorem connectRequest_parsesBack (auth : Option Credentials) (target : TargetAddr) :
    decodeConnectHead (utf8 (connectRequest auth target)) = some (intendedHead auth target) ↔
      ¬['\r','\n'] <:+: target.host ∧ ' ' ∉ target.host := by
  have hlines := splitCrlf_flatMap_iff (requestLine target::headLines auth target)
  rw [break_in_connect_lines] at hlines
  rw [decodeConnectHead_eq_some,connectRequest_lines,← hlines,← space_in_display]
  have hmethod : ' ' ∉ "CONNECT".toList := by decide
  exact and_congr_right fun _ => ⟨fun h => h.2,fun h => ⟨hmethod,h⟩⟩

/-! SOCKS4a -/

lemma decodeSocks4a_fields (port : UInt16) (rest : Bytes) :
    decodeSocks4a ([4,1]++toBeBytes port++(⟨0,0,0,1⟩ : Ipv4Addr).octets++rest) =
      (splitOnce 0 rest).bind fun (user,rest) =>
        (splitOnce 0 rest).bind fun (host,rest) =>
          if rest=[] then some ⟨port,user,host⟩ else none := by
  simp only [toBeBytes,Ipv4Addr.octets,List.cons_append,List.nil_append,decodeSocks4a,
    fromBeBytes_toBeBytes]

/-- The request is read as it was meant just when neither the user id nor the host has a NUL. -/
theorem socks4Request_parsesBack (auth : Option Credentials) (target : TargetAddr) :
    decodeSocks4a (socks4Request auth true ⟨0,0,0,1⟩ target) =
      some ⟨target.port,utf8 (socks4User auth),utf8 target.host⟩ ↔
    '\x00' ∉ socks4User auth ∧ '\x00' ∉ target.host := by
  have huser := mem_utf8 (d := '\x00') (by decide) (socks4User auth)
  have hhost := mem_utf8 (d := '\x00') (by decide) target.host
  have hzero : UInt8.ofNat '\x00'.toNat = 0 := rfl
  rw [hzero] at huser hhost
  have hrequest : socks4Request auth true ⟨0,0,0,1⟩ target =
      [4,1]++toBeBytes target.port++(⟨0,0,0,1⟩ : Ipv4Addr).octets++
        (utf8 (socks4User auth)++0::(utf8 target.host++0::[])) := by
    simp [socks4Request]
  rw [hrequest,decodeSocks4a_fields,← huser,← hhost]
  constructor
  · intro h
    obtain ⟨⟨user,rest⟩,hsplit,h⟩ := Option.bind_eq_some_iff.mp h
    obtain ⟨⟨host,left⟩,hsplit',h⟩ := Option.bind_eq_some_iff.mp h
    dsimp only at hsplit' h
    split_ifs at h with hleft
    cases h
    exact ⟨(splitOnce_eq_some.mp hsplit).2,(splitOnce_eq_some.mp hsplit').2⟩
  · rintro ⟨hu,hh⟩
    rw [splitOnce_append hu,Option.bind_some]
    dsimp only
    rw [splitOnce_append hh,Option.bind_some]
    exact if_pos rfl

/-- A handshake is read as it was meant just when its delimiters do not occur between them. -/
theorem parsesBack_iff (handshake : Handshake) (target : TargetAddr) :
    ParsesBack handshake target ↔ Framed handshake target := by
  cases handshake with
  | httpConnect auth => exact connectRequest_parsesBack auth target
  | socks4a auth => exact socks4Request_parsesBack auth target

/-- Two hosts that a client can name in a SOCKS5 request. -/
def brokenHost : TargetAddr := ⟨"a\r\nX: b".toList,80,by decide⟩

def cutHost : TargetAddr := ⟨"a\x00b".toList,80,by decide⟩

/-- A host with a line break adds a header line to each line that names it, and one with a NUL ends
the request in its middle. -/
theorem host_escapes :
    Server.readSocks5Request .sample ⟨[5,1,0,3,7]++utf8 "a\r\nX: b".toList++[0,80],.closed⟩ =
      .ok (⟨1,brokenHost⟩,⟨[],.closed⟩) ∧
    Server.readSocks5Request .sample ⟨[5,1,0,3,3]++utf8 "a\x00b".toList++[0,80],.closed⟩ =
      .ok (⟨1,cutHost⟩,⟨[],.closed⟩) ∧
    splitCrlf (connectRequest none brokenHost) =
      ["CONNECT a".toList,"X: b:80 HTTP/1.1".toList,"Host: a".toList,"X: b:80".toList,
        "Proxy-Connection: Keep-Alive".toList,[],[]] ∧
    ¬ParsesBack (.httpConnect none) brokenHost ∧ ¬ParsesBack (.socks4a none) cutHost := by
  refine ⟨by decide +kernel,by decide +kernel,by decide +kernel,?_,?_⟩
  · exact (connectRequest_parsesBack none brokenHost).not.mpr (by decide)
  · exact (socks4Request_parsesBack none cutHost).not.mpr (by decide)

end RotatorProxy.Outbound
