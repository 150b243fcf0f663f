import RotatorProxy.Library.Outcome
import RotatorProxy.Server.Http

/-! How the cuts of a client's stream into reads matter: the head may come with bytes behind it, which
one branch passes on and the other drops. -/
namespace RotatorProxy.Server
open Text Proxy Library Outbound

/-- A head that the server reads as one: it ends in the first empty line, within the limit. -/
structure IsHead (head : Bytes) : Prop where
  first : FirstEnd headerEnd head
  length_le : head.length ≤ httpRequestHeaderLimit

/-- The chunks of a client that sends `stream`; every read gives between one byte and 1024. -/
structure Cuts (chunks : List Bytes) (stream : Bytes) : Prop where
  flatten : chunks.flatten=stream
  sizes : ∀ chunk ∈ chunks, 1 ≤ chunk.length ∧ chunk.length ≤ 1024

theorem findHeaderEnd_append {head : Bytes} (h : FirstEnd headerEnd head) (extra : Bytes) :
    findHeaderEnd (head++extra) = some head.length := by
  rw [findHeaderEnd,h.windowPosition (by decide),Option.map_some,
    Nat.sub_add_cancel h.ends.length_le]

/-- There is no end in a part of the head. -/
theorem findHeaderEnd_part {head buffer rest : Bytes} (h : FirstEnd headerEnd head)
    (heq : buffer++rest=head) (hlt : buffer.length < head.length) : findHeaderEnd buffer=none := by
  rw [findHeaderEnd,Option.map_eq_none_iff]
  cases hw : windowPosition headerEnd buffer with
  | none => rfl
  | some n =>
    obtain ⟨head',rest',rfl,_,hfirst⟩ := windowPosition_some hw
    have hsame : head'=head := by
      apply h.first head' _ hfirst.ends
      rw [← heq,List.append_assoc]
      exact List.prefix_append head' _
    rw [hsame,List.length_append] at hlt
    omega

/-- No cut falls on the end of the head before the next chunk is there. -/
lemma cut_cons_iff {head buffer chunk : Bytes} {chunks : List Bytes} (hlt : buffer.length < head.length) :
    (∃ k, buffer++((chunk::chunks).take k).flatten=head) ↔
      ∃ k, (buffer++chunk)++(chunks.take k).flatten=head := by
  have hcut : ∀ k, buffer++((chunk::chunks).take (k+1)).flatten=(buffer++chunk)++(chunks.take k).flatten := by
    intro k
    rw [List.take_succ_cons,List.flatten_cons,List.append_assoc]
  constructor
  · rintro ⟨k,hk⟩
    cases k with
    | zero =>
      rw [List.take_zero,List.flatten_nil,List.append_nil] at hk
      rw [hk] at hlt
      omega
    | succ k => exact ⟨k,by rw [← hcut k]; exact hk⟩
  · rintro ⟨k,hk⟩
    exact ⟨k+1,by rw [hcut k]; exact hk⟩

/-- Reading stops with the chunk that completes the head: the bytes behind the head come out as an
overshoot and as chunks, and there is no overshoot just when a cut falls on the end of the head. -/
theorem readHttpRequestFrom_ok {head body : Bytes} (hhead : IsHead head) (buffer : Bytes)
    (chunks : List Bytes) (hsizes : ∀ chunk ∈ chunks, 1 ≤ chunk.length ∧ chunk.length ≤ 1024)
    (hlt : buffer.length < head.length) (heq : buffer++chunks.flatten=head++body) :
    ∃ extra rest, readHttpRequestFrom buffer chunks = .ok (head++extra,rest) ∧ extra++rest.flatten=body ∧
      (extra=[] ↔ ∃ k, buffer++(chunks.take k).flatten=head) := by
  induction chunks generalizing buffer with
  | nil =>
    have hlen := congrArg List.length heq
    rw [List.length_append,List.length_append,List.flatten_nil,List.length_nil] at hlen
    omega
  | cons chunk chunks ih =>
    have hchunk := (hsizes chunk List.mem_cons_self).1
    have hassoc : (buffer++chunk)++chunks.flatten=head++body := by
      rw [List.append_assoc,← List.flatten_cons,heq]
    rw [readHttpRequestFrom,if_neg (by omega),cut_cons_iff hlt]
    by_cases hdone : head.length ≤ (buffer++chunk).length
    · obtain ⟨extra,hextra⟩ : head <+: buffer++chunk := by
        apply List.prefix_of_prefix_length_le _ (List.prefix_append _ chunks.flatten) hdone
        rw [hassoc]
        exact List.prefix_append head body
      rw [← hextra] at hassoc ⊢
      rw [findHeaderEnd_append hhead.first,Option.isSome_some,if_pos rfl]
      refine ⟨extra,chunks,rfl,?_,?_⟩
      · rw [List.append_assoc] at hassoc
        exact List.append_cancel_left hassoc
      · constructor
        · rintro rfl
          exact ⟨0,by simp⟩
        · rintro ⟨k,hk⟩
          rw [List.append_assoc] at hk
          have hnil := List.append_cancel_left (hk.trans (List.append_nil head).symm)
          exact (List.append_eq_nil_iff.mp hnil).1
    · have hpart : ∃ rest, (buffer++chunk)++rest=head := by
        apply List.prefix_of_prefix_length_le (List.prefix_append _ chunks.flatten) _ (by omega)
        rw [hassoc]
        exact List.prefix_append head body
      obtain ⟨rest,hrest⟩ := hpart
      have hlimit := hhead.length_le
      rw [findHeaderEnd_part hhead.first hrest (by omega),if_neg (by decide),if_neg (by omega)]
      exact ih (buffer++chunk)
        (fun c hc => hsizes c (List.mem_cons_of_mem chunk hc)) (by omega) hassoc

/-- The head of a CONNECT request, by the first word of its first line. -/
def IsConnectHead (head : Bytes) : Prop :=
  ∃ text line method, fromUtf8 head = some text ∧ (splitCrlf text)[0]? = some line ∧
    (splitWhitespace line)[0]? = some method ∧ eqIgnoreAsciiCase method "CONNECT".toList = true

/-- The bytes behind the head that came with it; CONNECT has no place for them. -/
def ParsedHttpRequest.withExtra (parsed : ParsedHttpRequest) (extra : Bytes) : ParsedHttpRequest :=
  if parsed.isConnect then parsed else { parsed with forwardBytes := parsed.forwardBytes++extra }

@[simp] theorem ParsedHttpRequest.withExtra_target (parsed : ParsedHttpRequest) (extra : Bytes) :
    (parsed.withExtra extra).target=parsed.target := by
  unfold withExtra
  split <;> rfl

@[simp] theorem ParsedHttpRequest.withExtra_isConnect (parsed : ParsedHttpRequest) (extra : Bytes) :
    (parsed.withExtra extra).isConnect=parsed.isConnect := by
  unfold withExtra
  split <;> rfl

variable {urlParse : UrlParse}

/-- What the request line says of a request that is accepted. -/
theorem parseRequestLines_ok {requestLine : Str} {lines : List Str} {parsed : ParsedHttpRequest}
    (h : parseRequestLines urlParse requestLine lines [] = .ok parsed) :
    (parsed.isConnect=true → parsed.forwardBytes=[]) ∧
    (∃ method, (splitWhitespace requestLine)[0]? = some method ∧
      eqIgnoreAsciiCase method "CONNECT".toList = parsed.isConnect) ∧
    ∀ extra, parseRequestLines urlParse requestLine lines extra = .ok (parsed.withExtra extra) := by
  unfold parseRequestLines at h ⊢
  dsimp only at h ⊢
  obtain ⟨method,hmethod,h⟩ := bind_eq_ok.mp h
  obtain ⟨requestTarget,htarget,h⟩ := bind_eq_ok.mp h
  obtain ⟨version,hversion,h⟩ := bind_eq_ok.mp h
  have hsome : (splitWhitespace requestLine)[0]? = some method := orInvalid_eq_ok.mp hmethod
  rw [hmethod,htarget,hversion]
  simp only [Except.bind]
  split_ifs at h ⊢ with hconnect
  · obtain ⟨target,hparse,rfl⟩ := map_eq_ok.mp h
    rw [hparse]
    exact ⟨fun _ => rfl,⟨method,hsome,hconnect⟩,fun extra => rfl⟩
  · obtain ⟨found,hfound,rfl⟩ := map_eq_ok.mp h
    rw [hfound]
    refine ⟨(fun h => by cases h),⟨method,hsome,Bool.eq_false_iff.mpr hconnect⟩,fun extra => ?_⟩
    simp [Except.map,ParsedHttpRequest.withExtra]

/-- The head alone decides how a request is parsed. -/
theorem parseHttpRequest_ok {head : Bytes} (hhead : FirstEnd headerEnd head)
    {parsed : ParsedHttpRequest} (h : parseHttpRequest urlParse head = .ok parsed) :
    (parsed.isConnect=true → parsed.forwardBytes=[]) ∧ (parsed.isConnect=true ↔ IsConnectHead head) ∧
    ∀ extra, parseHttpRequest urlParse (head++extra) = .ok (parsed.withExtra extra) := by
  have hend : ∀ extra, parseHttpRequest urlParse (head++extra) =
      (orInvalid "HTTP 头不是 UTF-8" (fromUtf8 head)).bind fun headerText =>
        (orInvalid "缺少 HTTP 请求行" (splitCrlf headerText)[0]?).bind fun requestLine =>
          parseRequestLines urlParse requestLine ((splitCrlf headerText).drop 1) extra := by
    intro extra
    rw [parseHttpRequest,findHeaderEnd_append hhead]
    simp only [orInvalid,Except.bind,List.take_left,List.drop_left]
  have h0 := hend []
  rw [List.append_nil,h] at h0
  obtain ⟨text,htext,h0⟩ := bind_eq_ok.mp h0.symm
  obtain ⟨line,hline,h0⟩ := bind_eq_ok.mp h0
  obtain ⟨hforward,⟨method,hmethod,hconnect⟩,hextra⟩ := parseRequestLines_ok h0
  refine ⟨hforward,⟨?_,?_⟩,fun extra => ?_⟩
  · intro hc
    exact ⟨text,line,method,orInvalid_eq_ok.mp htext,orInvalid_eq_ok.mp hline,hmethod,hconnect.trans hc⟩
  · rintro ⟨text',line',method',htext',hline',hmethod',hconnect'⟩
    obtain rfl : text=text' := Option.some.inj ((orInvalid_eq_ok.mp htext).symm.trans htext')
    obtain rfl : line=line' := Option.some.inj ((orInvalid_eq_ok.mp hline).symm.trans hline')
    obtain rfl : method=method' := Option.some.inj (hmethod.symm.trans hmethod')
    exact hconnect.symm.trans hconnect'
  · rw [hend extra,htext]
    simp only [Except.bind]
    rw [hline]
    exact hextra extra

variable {connect : TargetAddr → Except IoError Unit}

/-- A request that is parsed and connected is relayed, without the overshoot if it is CONNECT. -/
theorem handleHttp_relayed {head body : Bytes} {chunks : List Bytes} {parsed : ParsedHttpRequest}
    (hhead : IsHead head) (hcuts : Cuts chunks (head++body))
    (hparse : parseHttpRequest urlParse head = .ok parsed) (hconnect : connect parsed.target = .ok ()) :
    ∃ extra rest toClient, extra++rest=body ∧ (extra=[] ↔ ∃ k, (chunks.take k).flatten=head) ∧
      handleHttp urlParse connect chunks = .relayed parsed.target toClient
        (parsed.forwardBytes++if parsed.isConnect then rest else body) := by
  have hpos : ([] : Bytes).length < head.length := by
    have hlen := hhead.first.ends.length_le
    rw [headerEnd] at hlen
    simp only [List.length_cons,List.length_nil] at hlen ⊢
    omega
  obtain ⟨extra,rest,hread,hbody,hiff⟩ := readHttpRequestFrom_ok hhead [] chunks hcuts.sizes hpos
    (by rw [List.nil_append,hcuts.flatten])
  obtain ⟨hforward,_,hextra⟩ := parseHttpRequest_ok hhead.first hparse
  have hhandle : handleHttp urlParse connect chunks =
      if parsed.isConnect then .relayed parsed.target
        (utf8 "HTTP/1.1 200 Connection Established\r\n\r\n".toList) rest.flatten
      else .relayed parsed.target [] ((parsed.withExtra extra).forwardBytes++rest.flatten) := by
    rw [handleHttp,readHttpRequest,hread]
    simp only [hextra extra,ParsedHttpRequest.withExtra_target,ParsedHttpRequest.withExtra_isConnect,
      hconnect]
  rw [hhandle]
  cases hc : parsed.isConnect with
  | true =>
    rw [hforward hc]
    exact ⟨extra,rest.flatten,_,hbody,hiff,rfl⟩
  | false =>
    refine ⟨extra,rest.flatten,[],hbody,hiff,?_⟩
    simp [ParsedHttpRequest.withExtra,hc,← hbody]

/-- All bytes behind the head reach the target, for a CONNECT request just when a read ends with the
head. -/
theorem relays_all_iff {head body : Bytes} {chunks : List Bytes} {parsed : ParsedHttpRequest}
    (hhead : IsHead head) (hcuts : Cuts chunks (head++body))
    (hparse : parseHttpRequest urlParse head = .ok parsed) (hconnect : connect parsed.target = .ok ()) :
    (∃ toClient, handleHttp urlParse connect chunks =
      .relayed parsed.target toClient (parsed.forwardBytes++body)) ↔
    ¬IsConnectHead head ∨ ∃ k, (chunks.take k).flatten=head := by
  obtain ⟨extra,rest,toClient,hbody,hiff,hhandle⟩ := handleHttp_relayed hhead hcuts hparse hconnect
  obtain ⟨_,hisConnect,_⟩ := parseHttpRequest_ok hhead.first hparse
  rw [hhandle,← hiff,← hisConnect,← hbody]
  cases parsed.isConnect with
  | false => simp
  | true => simp

def sampleConnect : Bytes := utf8 "CONNECT a:1 HTTP/1.1\r\n\r\n".toList

def sampleTarget : TargetAddr := ⟨['a'],1,by decide⟩

theorem sampleConnect_isHead : IsHead sampleConnect :=
  ⟨.of_windowPosition (n := 20) (by decide +kernel) (by decide +kernel),by decide +kernel⟩

theorem relays_all_iff_overshoot :
    (∃ toClient, handleHttp (fun _ => .error []) (fun _ => .ok ()) [sampleConnect++[22]] =
      .relayed sampleTarget toClient [22]) ↔
    ¬IsConnectHead sampleConnect ∨ ∃ k, ([sampleConnect++[22]].take k).flatten=sampleConnect := by
  have hparse : parseHttpRequest (fun _ => .error []) sampleConnect = .ok ⟨sampleTarget,true,[]⟩ := by
    decide +kernel
  have hconnect : (fun _ => .ok () : TargetAddr → Except IoError Unit) sampleTarget = .ok () := rfl
  exact relays_all_iff sampleConnect_isHead ⟨by simp,by decide +kernel⟩ hparse hconnect

/-- A client that sends its first bytes with the CONNECT head loses them, and keeps them if it sends
them in a segment of their own. -/
theorem overshoot_dropped :
    IsHead sampleConnect ∧ IsConnectHead sampleConnect ∧
    Cuts [sampleConnect++[22]] (sampleConnect++[22]) ∧ Cuts [sampleConnect,[22]] (sampleConnect++[22]) ∧
    handleHttp (fun _ => .error []) (fun _ => .ok ()) [sampleConnect++[22]] =
      .relayed sampleTarget (utf8 "HTTP/1.1 200 Connection Established\r\n\r\n".toList) [] ∧
    handleHttp (fun _ => .error []) (fun _ => .ok ()) [sampleConnect,[22]] =
      .relayed sampleTarget (utf8 "HTTP/1.1 200 Connection Established\r\n\r\n".toList) [22] := by
  refine ⟨sampleConnect_isHead,?_,⟨by simp,by decide +kernel⟩,⟨by simp,by decide +kernel⟩,
    by decide +kernel,by decide +kernel⟩
  exact ⟨_,"CONNECT a:1 HTTP/1.1".toList,"CONNECT".toList,fromUtf8_utf8 _,by decide +kernel,
    by decide +kernel,by decide +kernel⟩

end RotatorProxy.Server
