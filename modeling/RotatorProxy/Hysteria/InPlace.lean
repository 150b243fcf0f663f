import RotatorProxy.Hysteria.Send

/-! A packet is worked on in the buffer that it was received in, over its own salt. It comes to the bytes that a
second buffer would get, so that a packet of the sender is undone by it. -/
namespace RotatorProxy.Hysteria
open Text Outbound

variable {sha256 : Bytes → Fin 32 → UInt8} {key : Bytes}

/-- Nothing is left of what stood in the buffer behind `done`. -/
theorem deobfuscateInto_eq (digest : Fin 32 → UInt8) (bytes done rest : Bytes)
    (hlen : done.length+saltLen+rest.length=bytes.length) :
    deobfuscateInto digest bytes rest.length (done.length+saltLen) (done++rest)=
      done++xorFrom digest done.length (bytes.drop (done.length+saltLen)) := by
  induction rest generalizing done with
  | nil =>
    rw [List.length_nil,Nat.add_zero] at hlen
    rw [hlen,List.drop_length]
    rfl
  | cons r rest ih =>
    rw [List.length_cons] at hlen
    have hlt : done.length+saltLen < bytes.length := by omega
    have hread : bytes.getD (done.length+saltLen) 0=bytes[done.length+saltLen] := List.getD_eq_getElem _ _ hlt
    have hset : ∀ x : UInt8, (done++r::rest).set done.length x=(done++[x])++rest := by
      intro x
      simp [List.set_append_right]
    have htail := ih (done++[bytes[done.length+saltLen] ^^^ digest (Fin.ofNat 32 done.length)])
      (by rw [List.length_append,List.length_singleton]; omega)
    rw [List.length_append,List.length_singleton,show done.length+1+saltLen=done.length+saltLen+1 by omega] at htail
    rw [List.length_cons,deobfuscateInto,Nat.add_sub_cancel,hread,hset,htail,List.drop_eq_getElem_cons hlt,xorFrom]
    simp

variable (sha256 key) in
/-- The bytes in front are those that another buffer of the right length would get, whatever stood in it; the bytes
behind them are left over from the packet. -/
theorem deobfuscatePacket_into {bytes out : Bytes} (hlong : saltLen < bytes.length)
    (hout : out.length=bytes.length-saltLen) :
    deobfuscatePacket sha256 key bytes=
      some (deobfuscateInto (sha256 (key++bytes.take saltLen)) bytes out.length saltLen out++bytes.drop out.length,
        out.length) := by
  have hinto := deobfuscateInto_eq (sha256 (key++bytes.take saltLen)) bytes [] out
    (by rw [List.length_nil,Nat.zero_add,hout]; omega)
  rw [List.length_nil,Nat.zero_add,List.nil_append,List.nil_append] at hinto
  rw [deobfuscatePacket_eq sha256 key hlong,hinto,hout]
  rfl

/-- A payload comes back in the leading bytes. -/
lemma deobfuscatePacket_obfuscatePayload (salt : Fin 16 → UInt8) {bytes : Bytes} (h : bytes ≠ []) :
    ∃ left, deobfuscatePacket sha256 key (obfuscatePayload sha256 key salt bytes)=
      some (bytes++left,bytes.length) := by
  have hmeant : deobfuscated sha256 key (obfuscatePayload sha256 key salt bytes) = some bytes :=
    deobfuscated_obfuscatePayload salt h
  unfold deobfuscated at hmeant
  split_ifs at hmeant with hlong
  have hpayload := Option.some.inj hmeant
  have hlen : bytes.length=(obfuscatePayload sha256 key salt bytes).length-saltLen := by
    rw [← payload_length,hpayload]
  exact ⟨_,by rw [deobfuscatePacket_eq sha256 key hlong,hpayload,← hlen]⟩

/-- What the sender hides is read back where it was received, an empty payload is refused, and the work in place
gives what a second buffer would. -/
theorem obfuscated_read_in_place (sha256 : Bytes → Fin 32 → UInt8) (key : Bytes) (salt : Fin 16 → UInt8)
    (payload : Bytes) :
    (payload ≠ [] → ∃ left, deobfuscatePacket sha256 key (obfuscatePayload sha256 key salt payload)=
      some (payload++left,payload.length)) ∧
    (payload=[] → deobfuscatePacket sha256 key (obfuscatePayload sha256 key salt payload)=none) ∧
    ∀ bytes out : Bytes, saltLen < bytes.length → out.length=bytes.length-saltLen →
      deobfuscatePacket sha256 key bytes=
        some (deobfuscateInto (sha256 (key++bytes.take saltLen)) bytes out.length saltLen out++bytes.drop out.length,
          out.length) := by
  refine ⟨deobfuscatePacket_obfuscatePayload salt,?_,fun bytes out => deobfuscatePacket_into sha256 key⟩
  rintro rfl
  apply deobfuscatePacket_short
  simp [obfuscatePayload,xorFrom,saltLen]

/-- Two bytes under a digest that repeats the key and the salt, and a packet with two bytes behind its salt. -/
theorem two_bytes_read_in_place :
    (∃ left, deobfuscatePacket (fun bytes i => bytes.getD i 0) [1]
      (obfuscatePayload (fun bytes i => bytes.getD i 0) [1] (fun _ => 9) [2,3]) = some ([2,3]++left,2)) ∧
    deobfuscatePacket (fun bytes i => bytes.getD i 0) [1] (List.replicate 18 5)=
      some ([4,0]++List.replicate 16 5,2) := by
  have h := obfuscated_read_in_place (fun bytes i => bytes.getD i 0) [1] (fun _ => 9) [2,3]
  refine ⟨h.1 (List.cons_ne_nil _ _),?_⟩
  rw [h.2.2 (List.replicate 18 5) [0,0] (by decide) rfl]
  decide

end RotatorProxy.Hysteria
