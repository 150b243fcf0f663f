import RotatorProxy.Hysteria.XPlus

/-! What the loops of the XPlus wrapper compute: the payload of one packet, and the buffers and metas
that a batch ends up with. -/
namespace RotatorProxy.Hysteria
open Text Outbound Library

variable {sha256 : Bytes → Fin 32 → UInt8} {key : Bytes}

@[simp] theorem xorFrom_length (digest : Fin 32 → UInt8) (index : ℕ) (bytes : Bytes) :
    (xorFrom digest index bytes).length=bytes.length := by
  induction bytes generalizing index with
  | nil => rfl
  | cons b bytes ih => simp [xorFrom,ih]

/-- Hiding twice gives the bytes back. -/
theorem xorFrom_xorFrom (digest : Fin 32 → UInt8) (index : ℕ) (bytes : Bytes) :
    xorFrom digest index (xorFrom digest index bytes)=bytes := by
  induction bytes generalizing index with
  | nil => rfl
  | cons b bytes ih =>
    rw [xorFrom,xorFrom,ih,UInt8.xor_assoc,UInt8.xor_self,UInt8.xor_zero]

/-- The loop has finished `done` and goes on with `rest`, whose bytes it reads a salt ahead. -/
theorem deobfuscateLoop_eq (digest : Fin 32 → UInt8) (n : ℕ) (done rest : Bytes)
    (hrest : rest.length=n+saltLen) :
    deobfuscateLoop digest n (done.length+saltLen) (done++rest)=
      done++(xorFrom digest done.length (rest.drop saltLen)++rest.drop n) := by
  induction n generalizing done rest with
  | zero =>
    have hdrop : rest.drop saltLen=[] := List.drop_eq_nil_of_le (by omega)
    rw [hdrop]
    rfl
  | succ n ih =>
    cases rest with
    | nil => simp [saltLen] at hrest
    | cons r rest =>
      rw [List.length_cons] at hrest
      have hlt : saltLen < (r::rest).length := by
        rw [List.length_cons]
        omega
      have hdrop : (r::rest).drop saltLen=(r::rest)[saltLen]::rest.drop saltLen := by
        rw [List.drop_eq_getElem_cons hlt]
        rfl
      have hread : (done++r::rest).getD (done.length+saltLen) 0=(r::rest)[saltLen] := by
        rw [List.getD_eq_getElem?_getD,List.getElem?_append_right (by omega),Nat.add_sub_cancel_left,
          List.getElem?_eq_getElem hlt]
        rfl
      have hset : ∀ x : UInt8, (done++r::rest).set done.length x=(done++[x])++rest := by
        intro x
        simp [List.set_append_right]
      rw [deobfuscateLoop,Nat.add_sub_cancel,hread,hset,show done.length+saltLen+1=(done.length+1)+saltLen by omega]
      have htail := ih (done++[(r::rest)[saltLen] ^^^ digest (Fin.ofNat 32 done.length)]) rest (by omega)
      rw [List.length_append,List.length_singleton] at htail
      rw [htail,hdrop,xorFrom]
      simp

variable (sha256 key) in
/-- A packet that is long enough has its payload moved to the front. -/
theorem deobfuscatePacket_eq {bytes : Bytes} (h : saltLen < bytes.length) :
    deobfuscatePacket sha256 key bytes=
      some (payload sha256 key bytes++bytes.drop (bytes.length-saltLen),bytes.length-saltLen) := by
  unfold deobfuscatePacket
  rw [if_neg (by omega)]
  have hloop := deobfuscateLoop_eq (sha256 (key++bytes.take saltLen)) (bytes.length-saltLen) [] bytes
    (by omega)
  rw [List.length_nil,Nat.zero_add,List.nil_append,List.nil_append] at hloop
  dsimp only
  rw [hloop]
  rfl

theorem deobfuscatePacket_short {bytes : Bytes} (h : bytes.length ≤ saltLen) :
    deobfuscatePacket sha256 key bytes=none := if_pos h

theorem payload_length (bytes : Bytes) : (payload sha256 key bytes).length=bytes.length-saltLen := by
  simp [payload]

/-! One slot -/

/-- A slot whose bytes are more than a salt. -/
def RecvMeta.isLong (m : RecvMeta) : Bool := decide (saltLen < m.len)

/-- The meta of a slot that is accepted. -/
def RecvMeta.shrink (m : RecvMeta) : RecvMeta := {m with len := m.len-saltLen}

@[simp] theorem RecvMeta.shrink_len (m : RecvMeta) : m.shrink.len=m.len-saltLen := rfl

variable (sha256 key) in
/-- The buffer of a slot after it was worked on. -/
def workedOn (buf : Bytes) (m : RecvMeta) : Bytes :=
  if m.isLong then payload sha256 key (buf.take m.len)++buf.drop (m.len-saltLen) else buf

@[simp] theorem workedOn_length {buf : Bytes} {m : RecvMeta} (hfits : m.len ≤ buf.length) :
    (workedOn sha256 key buf m).length=buf.length := by
  unfold workedOn
  split_ifs
  · rw [List.length_append,payload_length,List.length_take_of_le hfits,List.length_drop]
    omega
  · rfl

variable (sha256 key) in
lemma workedOn_eq {buf : Bytes} {m : RecvMeta} (hfits : m.len ≤ buf.length) (hlong : saltLen < m.len) :
    deobfuscatePacket sha256 key (buf.take m.len) = some
        (payload sha256 key (buf.take m.len)++(buf.take m.len).drop (m.len-saltLen),m.len-saltLen) ∧
      payload sha256 key (buf.take m.len)++(buf.take m.len).drop (m.len-saltLen)++buf.drop m.len=
        workedOn sha256 key buf m := by
  have hlen : (buf.take m.len).length=m.len := List.length_take_of_le hfits
  constructor
  · have hpacket : saltLen < (buf.take m.len).length := by
      rw [hlen]
      exact hlong
    rw [deobfuscatePacket_eq sha256 key hpacket,hlen]
  · have hrest : (buf.take m.len).drop (m.len-saltLen)++buf.drop m.len=buf.drop (m.len-saltLen) := by
      rw [List.drop_take,show buf.drop m.len=(buf.drop (m.len-saltLen)).drop (m.len-(m.len-saltLen)) by
        rw [List.drop_drop]; congr 1; omega,List.take_append_drop]
    rw [List.append_assoc,hrest,workedOn,RecvMeta.isLong,decide_eq_true hlong,if_pos rfl]

/-! A whole batch -/

variable (sha256 key) in
/-- The slots in `bufs` and `metas` are worked on; `accepted` metas stand in front, followed by as
many old ones as slots were refused. -/
theorem recvLoop_eq {bufs : List Bytes} {metas : List RecvMeta}
    (hfits : List.Forall₂ (fun buf (m : RecvMeta) => m.len ≤ buf.length) bufs metas) (done laterBufs : List Bytes)
    (accepted old laterMetas : List RecvMeta) (hdone : done.length=accepted.length+old.length) :
    ∃ left, recvLoop sha256 key metas.length done.length accepted.length (done++(bufs++laterBufs))
        (accepted++(old++(metas++laterMetas)))=
      ⟨accepted.length+(metas.filter RecvMeta.isLong).length,
        done++(List.zipWith (workedOn sha256 key) bufs metas++laterBufs),
        accepted++((metas.filter RecvMeta.isLong).map RecvMeta.shrink++left)⟩ := by
  induction hfits generalizing done accepted old with
  | nil => exact ⟨old++laterMetas,rfl⟩
  | @cons buf m bufs metas hfit hfits ih =>
    have hbuf : (done++(buf::bufs++laterBufs))[done.length]? = some buf := by simp
    have hmeta : (accepted++(old++(m::metas++laterMetas)))[done.length]? = some m := by
      rw [hdone,← List.append_assoc,← List.length_append]
      simp
    rw [List.length_cons,recvLoop,hbuf,hmeta]
    dsimp only
    by_cases hlong : saltLen < m.len
    · obtain ⟨hpacket,hwork⟩ := workedOn_eq sha256 key hfit hlong
      rw [hpacket]
      dsimp only
      rw [hwork]
      have hset : (done++(buf::bufs++laterBufs)).set done.length (workedOn sha256 key buf m)=
          (done++[workedOn sha256 key buf m])++(bufs++laterBufs) := by
        simp [List.set_append_right]
      obtain ⟨old',hold',hmetas⟩ : ∃ old', old'.length=old.length ∧
          (accepted++(old++(m::metas++laterMetas))).set accepted.length m.shrink=
            (accepted++[m.shrink])++(old'++(metas++laterMetas)) := by
        cases old with
        | nil => exact ⟨[],rfl,by simp [List.set_append_right]⟩
        | cons o old => exact ⟨old++[m],by simp,by simp [List.set_append_right]⟩
      obtain ⟨left,hleft⟩ := ih (done++[workedOn sha256 key buf m]) (accepted++[m.shrink]) old'
        (by simp [hdone,hold']; omega)
      refine ⟨left,?_⟩
      have hfilter : (m::metas).filter RecvMeta.isLong=m::metas.filter RecvMeta.isLong := by
        simp [RecvMeta.isLong,hlong]
      rw [List.length_append,List.length_append,List.length_singleton,List.length_singleton] at hleft
      change recvLoop sha256 key metas.length (done.length+1) (accepted.length+1) _
        ((accepted++(old++(m::metas++laterMetas))).set accepted.length m.shrink)=_
      rw [hset,hmetas,hleft,hfilter]
      simp
      omega
    · have hshort : (buf.take m.len).length ≤ saltLen := by
        rw [List.length_take]
        omega
      rw [deobfuscatePacket_short hshort]
      dsimp only
      obtain ⟨left,hleft⟩ := ih (done++[buf]) accepted (old++[m]) (by simp [hdone]; omega)
      refine ⟨left,?_⟩
      have hfilter : (m::metas).filter RecvMeta.isLong=metas.filter RecvMeta.isLong := by
        simp [RecvMeta.isLong,hlong]
      have hwork : workedOn sha256 key buf m=buf := by
        simp [workedOn,RecvMeta.isLong,hlong]
      rw [List.length_append,List.length_singleton] at hleft
      rw [hfilter,List.zipWith_cons_cons,hwork]
      simpa using hleft

end RotatorProxy.Hysteria
