import RotatorProxy.Server.Relay

/-! Which heads the server reads, over all ways in which a client's stream can be cut into reads. The limit is looked at
after each read, so that a head somewhat longer than it may or may not be read. -/
namespace RotatorProxy.Server
open Text Proxy Library Outbound

def requestTooLong : IoError := invalidData "HTTP 请求头超过大小限制".toList

def requestClosed : IoError := .new .unexpectedEof "连接在 HTTP 请求头读取完成前关闭".toList

/-- A read ends past the limit and before the end of the head. -/
def CutPastLimit (head buffer : Bytes) (chunks : List Bytes) : Prop :=
  ∃ k, httpRequestHeaderLimit < (buffer++(chunks.take k).flatten).length ∧
    (buffer++(chunks.take k).flatten).length < head.length

section
variable {head body buffer chunk : Bytes} {chunks : List Bytes}

lemma cutPastLimit_cons (hle : buffer.length ≤ httpRequestHeaderLimit) :
    CutPastLimit head buffer (chunk::chunks) ↔ CutPastLimit head (buffer++chunk) chunks := by
  constructor
  · rintro ⟨k,hlimit,hlt⟩
    cases k with
    | zero =>
      rw [List.take_zero,List.flatten_nil,List.append_nil] at hlimit
      omega
    | succ k =>
      rw [List.take_succ_cons,List.flatten_cons,← List.append_assoc] at hlimit hlt
      exact ⟨k,hlimit,hlt⟩
  · rintro ⟨k,hlimit,hlt⟩
    refine ⟨k+1,?_⟩
    rw [List.take_succ_cons,List.flatten_cons,← List.append_assoc]
    exact ⟨hlimit,hlt⟩

/-- The head is read with what came behind it in the last read, unless a read ended between the limit and its end. -/
lemma readHttpRequestFrom_head (hfirst : FirstEnd headerEnd head)
    (hsizes : ∀ chunk ∈ chunks, 1 ≤ chunk.length ∧ chunk.length ≤ 1024) (hle : buffer.length ≤ httpRequestHeaderLimit)
    (hlt : buffer.length < head.length) (heq : buffer++chunks.flatten=head++body) :
    (¬CutPastLimit head buffer chunks → ∃ extra rest, readHttpRequestFrom buffer chunks = .ok (head++extra,rest) ∧
      extra++rest.flatten=body ∧ (head++extra).length ≤ httpRequestHeaderLimit+1024) ∧
    (CutPastLimit head buffer chunks → readHttpRequestFrom buffer chunks = .error requestTooLong) := by
  induction chunks generalizing buffer with
  | nil =>
    have hlen := congrArg List.length heq
    rw [List.length_append,List.length_append,List.flatten_nil,List.length_nil] at hlen
    omega
  | cons chunk chunks ih =>
    obtain ⟨hpos,hsize⟩ := hsizes chunk List.mem_cons_self
    have hassoc : (buffer++chunk)++chunks.flatten=head++body := by
      rw [List.append_assoc,← List.flatten_cons,heq]
    have hlength : (buffer++chunk).length=buffer.length+chunk.length := List.length_append
    rw [readHttpRequestFrom,if_neg (by omega),cutPastLimit_cons hle]
    by_cases hdone : head.length ≤ (buffer++chunk).length
    · obtain ⟨extra,hextra⟩ : head <+: buffer++chunk := by
        apply List.prefix_of_prefix_length_le _ (List.prefix_append _ chunks.flatten) hdone
        rw [hassoc]
        exact List.prefix_append head body
      have hnone : ¬CutPastLimit head (buffer++chunk) chunks := by
        rintro ⟨k,-,hlt⟩
        rw [List.length_append] at hlt
        omega
      refine ⟨fun _ => ⟨extra,chunks,?_,?_,?_⟩,fun hcut => absurd hcut hnone⟩
      · rw [← hextra,findHeaderEnd_append hfirst,Option.isSome_some,if_pos rfl]
      · rw [← hextra,List.append_assoc] at hassoc
        exact List.append_cancel_left hassoc
      · rw [hextra]
        omega
    · obtain ⟨rest,hrest⟩ : buffer++chunk <+: head := by
        apply List.prefix_of_prefix_length_le (List.prefix_append _ chunks.flatten) _ (by omega)
        rw [hassoc]
        exact List.prefix_append head body
      rw [findHeaderEnd_part hfirst hrest (by omega),if_neg (by decide)]
      by_cases hlimit : httpRequestHeaderLimit < (buffer++chunk).length
      · rw [if_pos hlimit]
        have hcut : CutPastLimit head (buffer++chunk) chunks := by
          refine ⟨0,?_⟩
          rw [List.take_zero,List.flatten_nil,List.append_nil]
          exact ⟨hlimit,by omega⟩
        exact ⟨fun hnone => absurd hcut hnone,fun _ => rfl⟩
      · rw [if_neg hlimit]
        exact ih (fun c hc => hsizes c (List.mem_cons_of_mem chunk hc)) (by omega) (by omega) hassoc

/-- Without an end of a head the client is refused at the limit, or the connection ends before. -/
lemma readHttpRequestFrom_endless (hsizes : ∀ chunk ∈ chunks, 1 ≤ chunk.length ∧ chunk.length ≤ 1024)
    (hle : buffer.length ≤ httpRequestHeaderLimit) (hnone : ¬headerEnd <:+: buffer++chunks.flatten) :
    readHttpRequestFrom buffer chunks =
      .error (if httpRequestHeaderLimit < (buffer++chunks.flatten).length then requestTooLong else requestClosed) := by
  induction chunks generalizing buffer with
  | nil =>
    rw [List.flatten_nil,List.append_nil,if_neg (by omega)]
    rfl
  | cons chunk chunks ih =>
    have hpos := (hsizes chunk List.mem_cons_self).1
    rw [List.flatten_cons,← List.append_assoc] at hnone ⊢
    have hno : findHeaderEnd (buffer++chunk)=none := by
      rw [findHeaderEnd,Option.map_eq_none_iff]
      cases hw : windowPosition headerEnd (buffer++chunk) with
      | none => rfl
      | some n =>
        obtain ⟨head,rest,heq,-,hfirst⟩ := windowPosition_some hw
        refine absurd (hfirst.ends.isInfix.trans ?_) hnone
        rw [heq,List.append_assoc]
        exact (List.prefix_append head _).isInfix
    rw [readHttpRequestFrom,if_neg (by omega),hno,if_neg (by decide)]
    by_cases hlimit : httpRequestHeaderLimit < (buffer++chunk).length
    · rw [if_pos hlimit,if_pos (by rw [List.length_append]; omega)]
      rfl
    · rw [if_neg hlimit]
      exact ih (fun c hc => hsizes c (List.mem_cons_of_mem chunk hc)) (by omega) hnone

/-- Past the limit by a whole read, the head is always cut. -/
lemma cutPastLimit_of_long (hsizes : ∀ chunk ∈ chunks, 1 ≤ chunk.length ∧ chunk.length ≤ 1024)
    (hle : buffer.length ≤ httpRequestHeaderLimit) (hlong : httpRequestHeaderLimit+1024 < head.length)
    (heq : buffer++chunks.flatten=head++body) : CutPastLimit head buffer chunks := by
  induction chunks generalizing buffer with
  | nil =>
    have hlen := congrArg List.length heq
    rw [List.length_append,List.length_append,List.flatten_nil,List.length_nil] at hlen
    omega
  | cons chunk chunks ih =>
    have hsize := (hsizes chunk List.mem_cons_self).2
    have hlength : (buffer++chunk).length=buffer.length+chunk.length := List.length_append
    rw [cutPastLimit_cons hle]
    by_cases hlimit : httpRequestHeaderLimit < (buffer++chunk).length
    · refine ⟨0,?_⟩
      rw [List.take_zero,List.flatten_nil,List.append_nil]
      exact ⟨hlimit,by omega⟩
    · refine ih (fun c hc => hsizes c (List.mem_cons_of_mem chunk hc)) (by omega) ?_
      rw [List.append_assoc,← List.flatten_cons,heq]

end

/-- What becomes of a client's head is up to the cuts only when it is longer than the limit by less than a read: up to the
limit it is always read, with all the bytes behind it kept, past that it never is, and in between it is read unless a read ends
past the limit and before its end. The buffer never holds more than the limit and one read. -/
theorem head_read_iff {chunks : List Bytes} {stream : Bytes} (hcuts : Cuts chunks stream) :
    (∀ head body, stream=head++body → FirstEnd headerEnd head →
      ((∃ extra rest, readHttpRequest chunks = .ok (head++extra,rest) ∧ extra++rest.flatten=body ∧
        (head++extra).length ≤ httpRequestHeaderLimit+1024) ↔ ¬CutPastLimit head [] chunks) ∧
      (CutPastLimit head [] chunks → readHttpRequest chunks = .error requestTooLong) ∧
      (head.length ≤ httpRequestHeaderLimit → ¬CutPastLimit head [] chunks) ∧
      (httpRequestHeaderLimit+1024 < head.length → CutPastLimit head [] chunks)) ∧
    (¬headerEnd <:+: stream → readHttpRequest chunks =
      .error (if httpRequestHeaderLimit < stream.length then requestTooLong else requestClosed)) := by
  obtain ⟨rfl,hsizes⟩ := hcuts
  refine ⟨fun head body heq hfirst => ?_,fun hnone => readHttpRequestFrom_endless hsizes (Nat.zero_le _) hnone⟩
  have hpos : ([] : Bytes).length < head.length := (by decide : 0 < headerEnd.length).trans_le hfirst.ends.length_le
  obtain ⟨hread,hrefused⟩ := readHttpRequestFrom_head hfirst hsizes (Nat.zero_le _) hpos heq
  refine ⟨⟨?_,hread⟩,hrefused,?_,fun hlong => cutPastLimit_of_long hsizes (Nat.zero_le _) hlong heq⟩
  · rintro ⟨extra,rest,hok,-⟩ hcut
    have herror := (hrefused hcut).symm.trans hok
    cases herror
  · rintro hle ⟨k,hlimit,hlt⟩
    omega

/-- In two reads, the second one with a byte behind the head. -/
theorem head_read_connect : ∃ extra rest,
    readHttpRequest [sampleConnect.take 9,sampleConnect.drop 9++[22]] = .ok (sampleConnect++extra,rest) ∧
      extra++rest.flatten=[22] ∧ (sampleConnect++extra).length ≤ httpRequestHeaderLimit+1024 := by
  have hcuts : Cuts [sampleConnect.take 9,sampleConnect.drop 9++[22]] (sampleConnect++[22]) :=
    ⟨by simp [← List.append_assoc],by decide +kernel⟩
  obtain ⟨hiff,-,hshort,-⟩ := (head_read_iff hcuts).1 sampleConnect [22] rfl sampleConnect_isHead.first
  exact hiff.mpr (hshort sampleConnect_isHead.length_le)

end RotatorProxy.Server
