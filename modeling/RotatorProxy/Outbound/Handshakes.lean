import RotatorProxy.Library.Outcome
import RotatorProxy.Outbound.Socks5

/-! The three handshakes with an upstream proxy, and what of the upstream's bytes each of them reads: the
reply, and nothing behind it. -/
namespace RotatorProxy.Outbound
open Text Proxy Library

/-- The loop of `read_http_header`, with so many bytes left of the limit. -/
def readHttpHeaderIn (next : Bytes → HandshakeDialogue) : ℕ → Bytes → HandshakeDialogue
  | 0,_ => .done (.error headTooLong)
  | n+1,header => .readOne fun byte =>
    match byte with
    | none => .done (.error (.new .unexpectedEof "连接在 HTTP 头读取完成前关闭".toList))
    | some b =>
      if headEnd <:+ header++[b] then next (header++[b]) else readHttpHeaderIn next n (header++[b])

def httpHandshake (auth : Option Credentials) (target : TargetAddr) : HandshakeDialogue :=
  .send (utf8 (connectRequest auth target)) <|
    readHttpHeaderIn (fun response => .done (validateHttpConnectResponse response))
      httpConnectResponseLimit []

def socks4Handshake (lookupHost : LookupHost) (auth : Option Credentials) (remoteDns : Bool)
    (target : TargetAddr) : HandshakeDialogue :=
  match socks4Ip lookupHost remoteDns target with
  | .error err => .done (.error err)
  | .ok ip =>
    .send (socks4Request auth remoteDns ip target) <| .readExact 8 fun response =>
      if response.getD 1 0 ≠ 90 then
        .done (.error (.otherError ("SOCKS4 连接失败，响应码 ".toList++decimal (response.getD 1 0).toNat)))
      else .done (.ok ())

/-- How the stream of an upstream ends for a handshake. -/
def Ending.closing (libc : Libc) (ending : Ending) : Closing IoError where
  short := .new .unexpectedEof "early eof".toList
  broken := match ending with
    | .closed => none
    | .failed code => some (.fromRawOsError libc code)

/-! The handshakes and the readers of whole streams -/

section
variable {libc : Libc} {ending : Ending}

theorem readHttpHeaderIn_run (next : Bytes → HandshakeDialogue) (limit : ℕ) (header bytes : Bytes) :
    ((readHttpHeaderIn next (limit-header.length) header).run (ending.closing libc) bytes).finish =
      (readHttpHeaderFrom libc limit ending header bytes).bind fun read =>
        ((next read.1).run (ending.closing libc) read.2).finish := by
  induction bytes generalizing header with
  | nil =>
    by_cases hlen : header.length < limit
    · obtain ⟨n,hn⟩ : ∃ n, limit-header.length=n+1 := ⟨limit-header.length-1,by omega⟩
      rw [hn,readHttpHeaderIn,readHttpHeaderFrom,if_pos hlen]
      cases ending <;> rfl
    · rw [Nat.sub_eq_zero_of_le (by omega),readHttpHeaderIn,readHttpHeaderFrom,if_neg hlen]
      rfl
  | cons b bytes ih =>
    by_cases hlen : header.length < limit
    · obtain ⟨n,hn⟩ : ∃ n, limit-header.length=n+1 := ⟨limit-header.length-1,by omega⟩
      have hnext : limit-(header++[b]).length=n := by
        rw [List.length_append,List.length_singleton]
        omega
      have hloop := ih (header++[b])
      rw [hnext] at hloop
      rw [hn,readHttpHeaderIn,readHttpHeaderFrom,if_pos hlen,Dialogue.run_readOne_cons]
      dsimp only
      split_ifs
      · rfl
      · exact hloop
    · rw [Nat.sub_eq_zero_of_le (by omega),readHttpHeaderIn,readHttpHeaderFrom,if_neg hlen]
      rfl

/-- The handshake leaves the stream where `connect_http_tunnel` leaves it. -/
theorem httpHandshake_run (auth : Option Credentials) (target : TargetAddr) (bytes : Bytes) :
    ((httpHandshake auth target).run (ending.closing libc) bytes).finish.map Prod.snd =
      connectHttpTunnel libc ⟨bytes,ending⟩ := by
  have hfinish : ((httpHandshake auth target).run (ending.closing libc) bytes).finish =
      (readHttpHeaderFrom libc httpConnectResponseLimit ending [] bytes).bind fun read =>
        ((Dialogue.done (validateHttpConnectResponse read.1)).run (ending.closing libc) read.2).finish :=
    readHttpHeaderIn_run (fun response => .done (validateHttpConnectResponse response))
      httpConnectResponseLimit [] bytes
  rw [hfinish,connectHttpTunnel,readHttpHeader]
  cases readHttpHeaderFrom libc httpConnectResponseLimit ending [] bytes with
  | error err => rfl
  | ok read =>
    dsimp only [Except.bind]
    rw [Dialogue.run_done,Outcome.finish]
    cases validateHttpConnectResponse read.1 <;> rfl

/-- The handshake is `connect_socks4_proxy`. -/
theorem socks4Handshake_run (lookupHost : LookupHost) (auth : Option Credentials) (remoteDns : Bool)
    (target : TargetAddr) (bytes : Bytes) {o : Outcome UInt8 IoError Unit Bytes}
    (ho : o=(socks4Handshake lookupHost auth remoteDns target).run (ending.closing libc) bytes) :
    connectSocks4Proxy libc lookupHost auth remoteDns target ⟨bytes,ending⟩ =
      o.finish.map fun read => (o.sent,⟨read.2,ending⟩) := by
  subst ho
  unfold connectSocks4Proxy socks4Handshake readSocks4Response readExact
  cases socks4Ip lookupHost remoteDns target with
  | error err => rfl
  | ok ip =>
    dsimp only [Except.bind]
    rw [Dialogue.run_send,Dialogue.run]
    by_cases hlen : 8 ≤ bytes.length
    · rw [if_pos hlen,if_pos hlen]
      dsimp only
      split_ifs
      · rfl
      · simp [Outcome.finish,Outcome.prepend,Except.map]
    · rw [if_neg hlen,if_neg hlen]
      cases ending <;> rfl

end

/-! Replies that grant the request -/

/-- A 2xx head within the limit: the status line begins with a version and a code, behind which stands
a space or the end of the line, and the first empty line is its end. -/
structure IsSuccessHead (head : Bytes) : Prop where
  first : FirstEnd headEnd head
  length_le : head.length ≤ httpConnectResponseLimit
  status : ∃ (version : Str) (d e : Char) (sep : UInt8) (tail : Bytes),
    head=utf8 ("HTTP/".toList++version++[' ','2',d,e])++sep::tail ∧
    (∀ c ∈ version, c.toNat < 128 ∧ isWhitespace c=false) ∧ d.isDigit ∧ e.isDigit ∧ (sep=32 ∨ sep=13)

/-- The first line goes on behind a text without a line break. -/
lemma firstLine_append {p : Str} (hne : p ≠ []) (hp : '\n' ∉ p) {sep : Char} (hsep : sep ≠ '\n') (t : Str) :
    ∃ u, firstLine (p++sep::t) = some (p++u) ∧ (u=[] ∨ ∃ v, u=sep::v) := by
  unfold firstLine
  rw [if_neg (List.append_ne_nil_of_left_ne_nil hne _)]
  by_cases hbreak : '\n' ∈ p++sep::t
  · have htake : (p++sep::t).takeWhile (fun c => c ≠ '\n')=p++sep::t.takeWhile (fun c => c ≠ '\n') := by
      rw [List.takeWhile_append_of_pos,List.takeWhile_cons_of_pos (by simpa using hsep)]
      intro c hc
      simpa using ne_of_mem_of_not_mem hc hp
    rw [if_pos hbreak]
    dsimp only
    rw [htake]
    split_ifs
    · refine ⟨(sep::t.takeWhile (fun c => c ≠ '\n')).dropLast,?_,?_⟩
      · rw [List.dropLast_append_of_ne_nil (List.cons_ne_nil _ _)]
      · cases t.takeWhile (fun c => c ≠ '\n') with
        | nil => exact .inl rfl
        | cons c v => exact .inr ⟨(c::v).dropLast,rfl⟩
    · exact ⟨_,rfl,.inr ⟨_,rfl⟩⟩
  · rw [if_neg hbreak]
    exact ⟨_,rfl,.inr ⟨_,rfl⟩⟩

lemma digit_toNat {d : Char} (h : d.isDigit) : 48 ≤ d.toNat ∧ d.toNat ≤ 57 := Char.isDigit_iff_toNat.mp h

/-- Codes from 200 to 299. -/
lemma parseU16_success {d e : Char} (hd : d.isDigit) (he : e.isDigit) :
    ∃ status, parseU16 ['2',d,e] = some status ∧ 200 ≤ status ∧ status < 300 := by
  obtain ⟨hd1,hd2⟩ := digit_toNat hd
  obtain ⟨he1,he2⟩ := digit_toNat he
  have hvalue : Nat.ofDigitChars 10 ['2',d,e] 0=200+10*(d.toNat-48)+(e.toNat-48) := by
    simp [Nat.ofDigitChars_cons]
    omega
  have hstrip : stripPrefix '+' ['2',d,e]=none := rfl
  have hdigits : ['2',d,e].all Char.isDigit := by simp [hd,he]
  refine ⟨UInt16.ofNat (Nat.ofDigitChars 10 ['2',d,e] 0),?_,?_,?_⟩
  · unfold parseU16
    dsimp only
    rw [hstrip,Option.getD_none,if_pos ⟨List.cons_ne_nil _ _,hdigits,by omega⟩]
  · rw [UInt16.le_iff_toNat_le,UInt16.toNat_ofNat',Nat.mod_eq_of_lt (by omega),hvalue]
    change 200 ≤ _
    omega
  · rw [UInt16.lt_iff_toNat_lt,UInt16.toNat_ofNat',Nat.mod_eq_of_lt (by omega),hvalue]
    change _ < 300
    omega

lemma digit_plain {d : Char} (h : d.isDigit) : d.toNat < 128 ∧ isWhitespace d=false := by
  obtain ⟨hlo,hhi⟩ := digit_toNat h
  refine ⟨by omega,?_⟩
  simp [isWhitespace]
  omega

/-- The words of a status line, whatever follows the code behind white space. -/
lemma splitWhitespace_status {version code u : Str} {sep : Char} (hversion : IsWord version)
    (hcode : IsWord code) (hsep : isWhitespace sep=true) (hu : u=[] ∨ ∃ v, u=sep::v) :
    ∃ words, splitWhitespace (version++ ' '::code++u) = version::code::words := by
  rw [List.append_assoc,List.cons_append,splitWhitespace_cons hversion]
  obtain rfl | ⟨v,rfl⟩ := hu
  · rw [List.append_nil,splitWhitespace_word hcode]
    exact ⟨[],rfl⟩
  · rw [splitWhitespace_sep hcode hsep]
    exact ⟨splitWhitespace v,rfl⟩

/-- The first two words of an answer: a version and a code, behind which stands a space or the end of the line. -/
lemma statusLine_words {version code : Str} {sep : UInt8} (tail : Bytes) (hversion : ∀ c ∈ version, isWhitespace c=false)
    (hcode : IsWord code) (hsep : sep=32 ∨ sep=13) :
    ∃ line words, firstLine (fromUtf8Lossy (utf8 ("HTTP/".toList++version++ ' '::code)++sep::tail))=some line ∧
      splitWhitespace line = ("HTTP/".toList++version)::code::words := by
  have hfirst : IsWord ("HTTP/".toList++version) := by
    refine ⟨List.append_ne_nil_of_left_ne_nil (by decide) _,fun c hc => ?_⟩
    obtain hc | hc := List.mem_append.mp hc
    · exact noSpace_of_all (by decide) c hc
    · exact hversion c hc
  have hbreak : '\n' ∉ ("HTTP/".toList++version)++ ' '::code := by
    rw [List.mem_append,List.mem_cons,not_or,not_or]
    exact ⟨fun hmem => absurd (hfirst.noSpace _ hmem) (by decide),by decide,
      fun hmem => absurd (hcode.noSpace _ hmem) (by decide)⟩
  -- the separator is white space, and does not end the line
  obtain ⟨hlt,hspace,hne⟩ : sep.toNat < 128 ∧ isWhitespace (Char.ofNat sep.toNat)=true ∧
      Char.ofNat sep.toNat ≠ '\n' := by
    obtain rfl | rfl := hsep <;> decide
  obtain ⟨u,hline,hu⟩ := firstLine_append
    (List.append_ne_nil_of_right_ne_nil ("HTTP/".toList++version) (List.cons_ne_nil ' ' code)) hbreak hne
    (fromUtf8Lossy tail)
  obtain ⟨words,hwords⟩ := splitWhitespace_status hfirst hcode hspace hu
  refine ⟨_,words,?_,hwords⟩
  rw [fromUtf8Lossy_append,fromUtf8Lossy_ascii hlt,hline]

/-- A status line that is read by its first two words. -/
lemma validateHttpConnectResponse_words {response : Bytes} {line version code : Str} {words : List Str}
    {status : UInt16} (hline : firstLine (fromUtf8Lossy response)=some line)
    (hwords : splitWhitespace line = version::code::words) (hversion : "HTTP/".toList <+: version)
    (hparse : parseU16 code=some status) (hlo : 200 ≤ status) (hhi : status < 300) :
    validateHttpConnectResponse response = .ok () := by
  rw [validateHttpConnectResponse,hline]
  dsimp only
  rw [hwords,List.getElem?_cons_succ,List.getElem?_cons_zero]
  dsimp only
  rw [hparse]
  dsimp only
  rw [validateStatus,if_neg]
  rw [not_or,not_not,not_not,List.head?_cons,Option.getD_some]
  exact ⟨hversion,hlo,hhi⟩

theorem validateHttpConnectResponse_success {head : Bytes} (h : IsSuccessHead head) :
    validateHttpConnectResponse head = .ok () := by
  obtain ⟨version,d,e,sep,tail,rfl,hversion,hd,he,hsep⟩ := h.status
  have hcode : IsWord ['2',d,e] := by
    refine ⟨List.cons_ne_nil _ _,fun c hc => ?_⟩
    simp only [List.mem_cons,List.not_mem_nil,or_false] at hc
    obtain rfl | rfl | rfl := hc
    · decide
    · exact (digit_plain hd).2
    · exact (digit_plain he).2
  obtain ⟨line,words,hline,hwords⟩ := statusLine_words tail (fun c hc => (hversion c hc).2) hcode hsep
  obtain ⟨status,hparse,hlo,hhi⟩ := parseU16_success hd he
  exact validateHttpConnectResponse_words hline hwords (List.prefix_append _ version) hparse hlo hhi

/-- The protocol that an upstream speaks. -/
inductive UpstreamProtocol
  | http (auth : Option Credentials)
  | socks5 (auth : Option Credentials) (remoteDns : Bool)
  | socks4 (auth : Option Credentials) (remoteDns : Bool)

def UpstreamProtocol.handshake (lookupHost : LookupHost) (target : TargetAddr) :
    UpstreamProtocol → HandshakeDialogue
  | http auth => httpHandshake auth target
  | socks5 auth remoteDns => connectSocks5Proxy lookupHost auth remoteDns target
  | socks4 auth remoteDns => socks4Handshake lookupHost auth remoteDns target

/-- All that an upstream says when it grants the request. A reply answers a request: the SOCKS replies
stand beside the requests that were made. -/
inductive Grants (lookupHost : LookupHost) (target : TargetAddr) : UpstreamProtocol → Bytes → Prop
  | http {auth : Option Credentials} {head : Bytes} (success : IsSuccessHead head) :
      Grants lookupHost target (.http auth) head
  | socks5 {auth : Option Credentials} {remoteDns : Bool} {request bound : Bytes} (reserved : UInt8)
      (made : socks5TargetAddr lookupHost remoteDns target = .ok request) (address : Socks5Bound bound) :
      Grants lookupHost target (.socks5 auth remoteDns) ([5,0]++([5,0,reserved]++bound))
  | socks5Password {auth : Credentials} {remoteDns : Bool} {login request bound : Bytes} (reserved : UInt8)
      (login_made : socks5PasswordRequest auth = .ok login)
      (made : socks5TargetAddr lookupHost remoteDns target = .ok request) (address : Socks5Bound bound) :
      Grants lookupHost target (.socks5 (some auth) remoteDns)
        ([5,2]++([1,0]++([5,0,reserved]++bound)))
  | socks4 {auth : Option Credentials} {remoteDns : Bool} {ip : Ipv4Addr} {bound : Bytes} (version : UInt8)
      (made : socks4Ip lookupHost remoteDns target = .ok ip) (len : bound.length=6) :
      Grants lookupHost target (.socks4 auth remoteDns) ([version,90]++bound)

section
variable {libc : Libc} {lookupHost : LookupHost} {target : TargetAddr} {ending : Ending}

lemma httpHandshake_exact {head : Bytes} (h : IsSuccessHead head) (auth : Option Credentials)
    (tunnel : Bytes) :
    ((httpHandshake auth target).run (ending.closing libc) (head++tunnel)).finish = .ok ((),tunnel) := by
  have hread : readHttpHeader libc httpConnectResponseLimit ⟨head++tunnel,ending⟩ = .ok (head,tunnel) :=
    readHttpHeader_ok.mpr ⟨rfl,h.first,h.length_le⟩
  have hrun : ((httpHandshake auth target).run (ending.closing libc) (head++tunnel)).finish.map Prod.snd =
      .ok tunnel := by
    rw [httpHandshake_run,connectHttpTunnel,hread]
    simp only [Except.bind,validateHttpConnectResponse_success h]
    rfl
  obtain ⟨⟨_,rest⟩,hfinish,rfl⟩ := map_eq_ok.mp hrun
  exact hfinish

lemma requestSocks5Target_exact {remoteDns : Bool} {request bound : Bytes} (reserved : UInt8)
    (made : socks5TargetAddr lookupHost remoteDns target = .ok request) (address : Socks5Bound bound)
    (tunnel : Bytes) :
    ((requestSocks5Target lookupHost remoteDns target).run (ending.closing libc)
      ([5,0,reserved]++bound++tunnel)).finish = .ok ((),tunnel) := by
  unfold requestSocks5Target
  rw [made]
  dsimp only
  rw [Dialogue.run_send,readSocks5ConnectResponse_run address]
  rfl

/-- With the whole stream there. -/
theorem Grants.run {protocol : UpstreamProtocol} {reply : Bytes} (h : Grants lookupHost target protocol reply)
    (tunnel : Bytes) :
    ((protocol.handshake lookupHost target).run (ending.closing libc) (reply++tunnel)).finish =
      .ok ((),tunnel) := by
  cases h with
  | http success => exact httpHandshake_exact success _ tunnel
  | @socks5 auth remoteDns request bound reserved made address =>
    rw [List.append_assoc,UpstreamProtocol.handshake,connectSocks5Proxy,socks5Authenticate_free]
    exact requestSocks5Target_exact reserved made address tunnel
  | @socks5Password auth remoteDns login request bound reserved login_made made address =>
    rw [List.append_assoc,List.append_assoc,UpstreamProtocol.handshake,connectSocks5Proxy,
      socks5Authenticate_password login_made]
    exact requestSocks5Target_exact reserved made address tunnel
  | @socks4 auth remoteDns ip bound version made len =>
    have hlen : ([version,90]++bound).length=8 := by
      rw [List.length_append,len]
      rfl
    change ((socks4Handshake lookupHost auth remoteDns target).run _ _).finish=_
    unfold socks4Handshake
    rw [made]
    dsimp only
    rw [Dialogue.run_send,Dialogue.run_readExact_append hlen]
    rfl

/-- A handshake that is granted succeeds, however the stream arrives, and leaves it at the first byte
behind the reply. -/
theorem handshake_exact {protocol : UpstreamProtocol} {reply : Bytes}
    (h : Grants lookupHost target protocol reply) (tunnel : Bytes) {parts : List Bytes}
    (harrives : Dialogue.Arrives parts) (hstream : parts.flatten=reply++tunnel) :
    ∃ rest, ((protocol.handshake lookupHost target).runParts (ending.closing libc) parts).finish =
      .ok ((),rest) ∧ rest.flatten=tunnel := by
  have hrun : ((protocol.handshake lookupHost target).run (ending.closing libc) (reply++tunnel)).finish =
      .ok ((),tunnel) := h.run tunnel
  rw [← hstream,← Dialogue.runParts_flatten _ _ harrives] at hrun
  obtain ⟨hresult,hrest⟩ := Outcome.finish_eq_ok.mp hrun
  exact ⟨_,Outcome.finish_eq_ok.mpr ⟨hresult,rfl⟩,hrest⟩

end

/-- A SOCKS5 proxy that asks for a password and names its bound address; the last part of the stream is
already in the tunnel. -/
theorem handshake_exact_domain :
    ∃ rest, (((UpstreamProtocol.socks5 (some ⟨['u'],none⟩) true).handshake (fun _ _ => .ok [])
        ⟨['a'],1,by decide⟩).runParts (Ending.closed.closing .sample)
        [[5],[2,1,0,5,0],[0,3,2,97],[98,0,80,7],[8]]).finish = .ok ((),rest) ∧ rest.flatten=[7,8] := by
  have hmade : socks5TargetAddr (fun _ _ => .ok []) true ⟨['a'],1,by decide⟩ = .ok [3,1,97,0,1] := by decide
  have haddress : Socks5Bound ([3,UInt8.ofNat 2]++[97,98]++[0,80]) := by
    have hname : ([97,98] : Bytes).length ≤ 255 := by decide
    exact .domain hname rfl
  have hlogin : socks5PasswordRequest ⟨['u'],none⟩ = .ok [1,1,117,0] := by decide
  exact handshake_exact (.socks5Password 0 hlogin hmade haddress) [7,8] (by simp [Dialogue.Arrives])
    (by decide)

end RotatorProxy.Outbound
