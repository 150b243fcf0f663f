import RotatorProxy.Hysteria.Packets

/-! For which transmits the send side of the XPlus wrapper puts on the wire what quinn asked for: the
whole contents become one packet, whatever their segment size. -/
namespace RotatorProxy.Hysteria
open Text Outbound Library

variable {sha256 : Bytes → Fin 32 → UInt8} {key : Bytes}

/-- A packet gives its payload back. -/
theorem deobfuscated_obfuscatePayload (salt : Fin 16 → UInt8) {bytes : Bytes} (h : bytes ≠ []) :
    deobfuscated sha256 key (obfuscatePayload sha256 key salt bytes) = some bytes := by
  have hsalt : (List.ofFn salt).length=saltLen := List.length_ofFn
  have hpos := List.length_pos_iff.mpr h
  have hlong : saltLen < (obfuscatePayload sha256 key salt bytes).length := by
    rw [obfuscatePayload,List.length_append,hsalt,xorFrom_length]
    omega
  rw [deobfuscated,if_pos hlong,payload,obfuscatePayload,List.take_left' hsalt,List.drop_left' hsalt,
    xorFrom_xorFrom]

/-- A packet without a payload is no packet to its receiver. -/
theorem deobfuscated_obfuscatePayload_nil (salt : Fin 16 → UInt8) :
    deobfuscated sha256 key (obfuscatePayload sha256 key salt [])=none := by
  rw [deobfuscated,if_neg]
  simp [obfuscatePayload,xorFrom,saltLen]

variable (sha256 key) in
/-- The datagrams that are sent, each on its own, mean what the transmit stands for. -/
def SentAsAsked (salt : Fin 16 → UInt8) (transmit : Transmit) : Prop :=
  (trySend sha256 key salt transmit).datagrams.map (deobfuscated sha256 key)=transmit.datagrams.map some

/-- The datagrams are sent as asked if and only if there is something to send and it is no more than
one segment. -/
theorem sentAsAsked_iff (salt : Fin 16 → UInt8) {transmit : Transmit}
    (hsegment : ∀ size, transmit.segmentSize = some size → 1 ≤ size) :
    SentAsAsked sha256 key salt transmit ↔
      transmit.contents ≠ [] ∧ ∀ size, transmit.segmentSize = some size → transmit.contents.length ≤ size := by
  have hsent : (trySend sha256 key salt transmit).datagrams=
      [obfuscatePayload sha256 key salt transmit.contents] := rfl
  rw [SentAsAsked,hsent,List.map_singleton]
  by_cases hnil : transmit.contents=[]
  · rw [hnil,deobfuscated_obfuscatePayload_nil]
    refine ⟨fun hsame => ?_,fun h => absurd rfl h.1⟩
    have hmem : none ∈ transmit.datagrams.map some := by
      rw [← hsame]
      exact List.mem_singleton_self _
    obtain ⟨_,_,hsome⟩ := List.mem_map.mp hmem
    cases hsome
  · rw [deobfuscated_obfuscatePayload salt hnil]
    cases hsize : transmit.segmentSize with
    | none => simp [Transmit.datagrams,hsize,hnil]
    | some size =>
      have hpos := hsegment size hsize
      have hasked : transmit.datagrams=chunks size transmit.contents := by
        rw [Transmit.datagrams,hsize]
      rw [hasked]
      by_cases hcut : size < transmit.contents.length
      · obtain ⟨fuel,_,hpieces⟩ := chunks_cut hpos hcut
        constructor
        · intro hsame
          rw [hpieces,List.map_cons] at hsame
          have hhead := congrArg List.length (Option.some.inj (List.cons.inj hsame).1)
          rw [List.length_take] at hhead
          omega
        · rintro ⟨_,hall⟩
          have := hall size rfl
          omega
      · rw [chunks_whole hnil (.inr (by omega))]
        refine ⟨fun _ => ⟨hnil,?_⟩,fun _ => rfl⟩
        rintro _ ⟨⟩
        omega

/-- A transmit of no more segments than the socket advertises. -/
def Transmit.Within (transmit : Transmit) (info : SocketInfo) : Prop :=
  ∀ size, transmit.segmentSize = some size → transmit.contents.length ≤ size*info.maxTransmitSegments

/-! Two segments in one transmit -/

def twoSegments : Transmit where
  destination := ⟨.v4 ⟨127,0,0,1⟩,443⟩
  ecn := none
  contents := [1,2,3,4]
  segmentSize := some 2
  srcIp := none

/-- A socket that takes two segments at once. -/
def offloading : SocketInfo := ⟨false,2,1,.ok ⟨.v4 ⟨127,0,0,1⟩,1⟩⟩

/-- The receiver gets one datagram where two were asked for. -/
theorem segments_sent_as_one :
    twoSegments.Within (xplusInfo offloading) ∧ twoSegments.datagrams=[[1,2],[3,4]] ∧
      (trySend (fun _ _ => 0) [] (fun _ => 7) twoSegments).datagrams.map (deobfuscated (fun _ _ => 0) [])=
        [some [1,2,3,4]] ∧
      ¬SentAsAsked (fun _ _ => 0) [] (fun _ => 7) twoSegments := by
  refine ⟨?_,by decide,by decide,by unfold SentAsAsked; decide⟩
  rintro _ ⟨⟩
  decide

theorem one_segment_sent :
    SentAsAsked (fun _ _ => 0) [] (fun _ => 7) {twoSegments with segmentSize := some 4} := by
  refine (sentAsAsked_iff _ ?_).mpr ⟨by decide,?_⟩
  · rintro _ ⟨⟩
    decide
  · rintro _ ⟨⟩
    decide

end RotatorProxy.Hysteria
