import RotatorProxy.Hysteria.Packets

/-! The datagrams that a reader finds in the slots of `poll_recv`, against those that have arrived. -/
namespace RotatorProxy.Hysteria
open Text Outbound Library

variable {sha256 : Bytes → Fin 32 → UInt8} {key : Bytes}

/-- The bytes of each slot fit into its buffer. -/
abbrev Fits : List Bytes → List RecvMeta → Prop := List.Forall₂ fun buf m => m.len ≤ buf.length

/-- A slot that holds at most one datagram. -/
def RecvMeta.Single (m : RecvMeta) : Prop := m.stride=0 ∨ m.len ≤ m.stride

/-- Slots longer than a salt hold one datagram each, and no shorter slot stands before one. -/
structure InOrder (metas : List RecvMeta) : Prop where
  single : ∀ m ∈ metas, saltLen < m.len → m.Single
  long_first : ∃ long short, metas=long++short ∧ (∀ m ∈ long, saltLen < m.len) ∧
    ∀ m ∈ short, m.len ≤ saltLen

/-! Reading several slots -/

theorem readSlots_append {bufs : List Bytes} {metas : List RecvMeta} (hlen : bufs.length=metas.length)
    (bufs' : List Bytes) (metas' : List RecvMeta) :
    readSlots (bufs++bufs') (metas++metas')=
      (readSlots bufs metas).bind (fun out => (readSlots bufs' metas').map (fun rest => out++rest)) := by
  induction metas generalizing bufs with
  | nil =>
    rw [List.length_eq_zero_iff.mp hlen]
    simp [readSlots]
  | cons m metas ih =>
    cases bufs with
    | nil => cases hlen
    | cons buf bufs =>
      simp only [List.cons_append,readSlots]
      split_ifs
      · rw [ih (Nat.succ.inj hlen)]
        cases readSlots bufs metas <;> cases readSlots bufs' metas' <;> simp
      · rfl

theorem arrived_append {bufs : List Bytes} {metas : List RecvMeta} (hlen : bufs.length=metas.length)
    (bufs' : List Bytes) (metas' : List RecvMeta) :
    arrived sha256 key (bufs++bufs') (metas++metas')=
      arrived sha256 key bufs metas++arrived sha256 key bufs' metas' := by
  induction metas generalizing bufs with
  | nil =>
    rw [List.length_eq_zero_iff.mp hlen]
    simp [arrived]
  | cons m metas ih =>
    cases bufs with
    | nil => cases hlen
    | cons buf bufs => simp [arrived,ih (Nat.succ.inj hlen)]

/-- No datagram in a slot of at most a salt has a payload. -/
lemma slotPayloads_short {buf : Bytes} {m : RecvMeta} (h : m.len ≤ saltLen) :
    slotPayloads sha256 key buf m=[] := by
  rw [slotPayloads,List.filterMap_eq_nil_iff]
  intro bytes hbytes
  have hle := chunks_length_le hbytes
  rw [List.length_take] at hle
  rw [deobfuscated,if_neg (by omega)]
  rfl

lemma arrived_short {metas : List RecvMeta} (h : ∀ m ∈ metas, m.len ≤ saltLen) (bufs : List Bytes) :
    arrived sha256 key bufs metas=[] := by
  induction metas generalizing bufs with
  | nil => cases bufs <;> rfl
  | cons m metas ih =>
    cases bufs with
    | nil => rfl
    | cons buf bufs =>
      rw [arrived,slotPayloads_short (h m List.mem_cons_self),
        ih (fun m' hm => h m' (List.mem_cons_of_mem m hm)),List.nil_append]

/-- A long slot with one datagram. -/
lemma slotPayloads_single {buf : Bytes} {m : RecvMeta} (hfits : m.len ≤ buf.length)
    (hlong : saltLen < m.len) (hsingle : m.Single) :
    slotPayloads sha256 key buf m=[⟨m.addr,payload sha256 key (buf.take m.len)⟩] := by
  have hlen : (buf.take m.len).length=m.len := List.length_take_of_le hfits
  have hne : buf.take m.len ≠ [] := by
    intro hnil
    rw [hnil,List.length_nil] at hlen
    omega
  rw [slotPayloads,chunks_whole hne (by rw [hlen]; exact hsingle)]
  simp [deobfuscated,hlen,hlong]

lemma slotDatagrams_shrink {buf : Bytes} {m : RecvMeta} (hfits : m.len-saltLen ≤ buf.length)
    (hlong : saltLen < m.len) (hsingle : m.Single) :
    slotDatagrams buf m.shrink=[⟨m.addr,buf.take (m.len-saltLen)⟩] := by
  have hlen : (buf.take (m.len-saltLen)).length=m.len-saltLen := List.length_take_of_le hfits
  have hne : buf.take (m.len-saltLen) ≠ [] := by
    intro hnil
    rw [hnil,List.length_nil] at hlen
    omega
  have hsize : m.stride=0 ∨ (buf.take (m.len-saltLen)).length ≤ m.stride := by
    rw [hlen]
    exact hsingle.imp_right (fun h => by omega)
  rw [slotDatagrams,RecvMeta.shrink,chunks_whole hne hsize]
  rfl

/-- Long slots that stand in their places are read as what has arrived in them. -/
theorem readSlots_long {bufs : List Bytes} {metas : List RecvMeta} (hfits : Fits bufs metas)
    (hlong : ∀ m ∈ metas, saltLen < m.len) (hsingle : ∀ m ∈ metas, m.Single) :
    readSlots (List.zipWith (workedOn sha256 key) bufs metas) (metas.map RecvMeta.shrink)=
      some (arrived sha256 key bufs metas) := by
  induction hfits with
  | nil => rfl
  | @cons buf m bufs metas hfit hfits ih =>
    have hm := hlong m List.mem_cons_self
    have hs := hsingle m List.mem_cons_self
    have hrest := ih (fun m' h => hlong m' (List.mem_cons_of_mem m h))
      (fun m' h => hsingle m' (List.mem_cons_of_mem m h))
    have hwork : (workedOn sha256 key buf m).take (m.len-saltLen)=payload sha256 key (buf.take m.len) := by
      rw [workedOn,RecvMeta.isLong,decide_eq_true hm,if_pos rfl,List.take_left']
      rw [payload_length,List.length_take_of_le hfit]
    have hfit' : m.shrink.len ≤ (workedOn sha256 key buf m).length := by
      rw [workedOn_length hfit,RecvMeta.shrink_len]
      omega
    rw [List.zipWith_cons_cons,List.map_cons,readSlots,if_pos hfit',hrest,
      slotDatagrams_shrink hfit' hm hs,hwork,arrived,slotPayloads_single hfit hm hs]
    rfl

/-! Counting bytes -/

def totalBytes (datagrams : List Datagram) : ℕ := (datagrams.map (fun d => d.bytes.length)).sum

@[simp] lemma totalBytes_append (ds es : List Datagram) :
    totalBytes (ds++es)=totalBytes ds+totalBytes es := by
  simp [totalBytes]

lemma totalBytes_slotDatagrams {buf : Bytes} {m : RecvMeta} (hfits : m.len ≤ buf.length) :
    totalBytes (slotDatagrams buf m)=m.len := by
  have hsum := congrArg List.length (chunks_flatten m.stride (buf.take m.len))
  rw [List.length_flatten,List.length_take_of_le hfits] at hsum
  rw [← hsum,totalBytes,slotDatagrams,List.map_map]
  rfl

/-- A reader takes out as many bytes as the metas say. -/
lemma totalBytes_readSlots {bufs : List Bytes} {metas : List RecvMeta} {out : List Datagram}
    (h : readSlots bufs metas = some out) : totalBytes out=(metas.map RecvMeta.len).sum := by
  induction metas generalizing bufs out with
  | nil =>
    cases bufs <;>
    · cases h
      rfl
  | cons m metas ih =>
    cases bufs with
    | nil => cases h
    | cons buf bufs =>
      rw [readSlots] at h
      split_ifs at h with hfits
      obtain ⟨rest,hrest,rfl⟩ := Option.map_eq_some_iff.mp h
      rw [totalBytes_append,totalBytes_slotDatagrams hfits,ih hrest,List.map_cons,List.sum_cons]

variable (sha256 key) in
lemma totalBytes_slotPayloads (buf : Bytes) (m : RecvMeta) :
    totalBytes (slotPayloads sha256 key buf m)=payloadTotal saltLen (chunks m.stride (buf.take m.len)) := by
  unfold slotPayloads
  induction chunks m.stride (buf.take m.len) with
  | nil => rfl
  | cons piece pieces ih =>
    rw [payloadTotal] at ih ⊢
    rw [List.map_cons,List.sum_cons,← ih,List.filterMap_cons]
    by_cases hpiece : saltLen < piece.length
    · simp [deobfuscated,hpiece,totalBytes,payload_length]
    · rw [deobfuscated,if_neg hpiece]
      simp
      omega

variable (sha256 key) in
/-- What has arrived is at most the bytes behind one salt for each slot, and less if a long slot
holds several datagrams. -/
lemma totalBytes_arrived {bufs : List Bytes} {metas : List RecvMeta} (hfits : Fits bufs metas) :
    totalBytes (arrived sha256 key bufs metas) ≤ (metas.map (fun m => m.len-saltLen)).sum ∧
      (totalBytes (arrived sha256 key bufs metas)=(metas.map (fun m => m.len-saltLen)).sum →
        ∀ m ∈ metas, saltLen < m.len → m.Single) := by
  induction hfits with
  | nil => exact ⟨Nat.le_refl _,fun _ m h => by cases h⟩
  | @cons buf m bufs metas hfit hfits ih =>
    have hlen : (buf.take m.len).length=m.len := List.length_take_of_le hfit
    have hhead := payloadTotal_chunks saltLen m.stride (buf.take m.len)
    rw [hlen,← totalBytes_slotPayloads sha256 key] at hhead
    obtain ⟨hle,heq⟩ := ih
    rw [arrived,totalBytes_append,List.map_cons,List.sum_cons]
    refine ⟨by omega,fun htotal m' hm' hlong => ?_⟩
    obtain rfl | hm' := List.mem_cons.mp hm'
    · by_contra hsingle
      obtain ⟨hzero,hcut⟩ := not_or.mp hsingle
      have hless : payloadTotal saltLen (chunks m'.stride (buf.take m'.len)) <
          (buf.take m'.len).length-saltLen :=
        payloadTotal_cut (by decide) (by omega) (by omega) (by omega)
      rw [hlen,← totalBytes_slotPayloads sha256 key] at hless
      omega
    · exact heq (by omega) m' hm' hlong

lemma sum_long (metas : List RecvMeta) :
    (((metas.filter RecvMeta.isLong).map RecvMeta.shrink).map RecvMeta.len).sum=
      (metas.map (fun m => m.len-saltLen)).sum := by
  induction metas with
  | nil => rfl
  | cons m metas ih =>
    by_cases hlong : saltLen < m.len
    · simp only [List.filter_cons,RecvMeta.isLong,hlong,decide_true,if_true,List.map_cons,List.sum_cons] at ih ⊢
      rw [ih]
      rfl
    · simp only [List.filter_cons,RecvMeta.isLong,hlong,decide_false,Bool.false_eq_true,if_false,
        List.map_cons,List.sum_cons] at ih ⊢
      omega

/-! A batch and the buffers it comes in -/

/-- No slot of the batch is long enough for a payload, so the inner socket is polled again. -/
structure Batch.Rejected (batch : Batch) : Prop where
  some_slot : batch.count ≠ 0
  short : ∀ m ∈ batch.metas.take batch.count, m.len ≤ saltLen

/-- The same slots with other bytes in the buffers. -/
structure SameShape (b b' : Batch) : Prop where
  count : b'.count=b.count
  metas : b'.metas=b.metas
  capacities : b'.bufs.map List.length=b.bufs.map List.length

variable (sha256 key) in
/-- When `poll_recv` is ready with the last of these batches, a reader finds what has arrived. -/
def Faithful (earlier : List Batch) (b : Batch) : Prop :=
  ∀ received, pollRecv sha256 key (earlier.map .ready++[.ready b]) = some (.ready received) →
    received.datagrams = some ((earlier++[b]).flatMap (Batch.arrived sha256 key))

variable (sha256 key) in
/-- The reader sees the worked-on buffers from the first on, with the metas of the long slots. -/
theorem recvLoop_datagrams (b : Batch) :
    (recvLoop sha256 key b.count 0 0 b.bufs b.metas).count=
        ((b.metas.take b.count).filter RecvMeta.isLong).length ∧
      (recvLoop sha256 key b.count 0 0 b.bufs b.metas).datagrams=
        readSlots (List.zipWith (workedOn sha256 key) (b.bufs.take b.count) (b.metas.take b.count)++
          b.bufs.drop b.count) (((b.metas.take b.count).filter RecvMeta.isLong).map RecvMeta.shrink) := by
  obtain ⟨left,hleft⟩ := recvLoop_eq sha256 key b.fits [] (b.bufs.drop b.count) [] []
    (b.metas.drop b.count) rfl
  simp only [List.nil_append,List.take_append_drop,List.length_nil,Nat.zero_add,
    List.length_take_of_le b.metas_length] at hleft
  rw [hleft]
  refine ⟨rfl,?_⟩
  rw [Received.datagrams]
  dsimp only
  rw [List.take_left']
  rw [List.length_map]

variable (sha256 key) in
lemma pollRecv_rejected {earlier : List Batch} (h : ∀ e ∈ earlier, e.Rejected) (polls : List InnerRecv) :
    pollRecv sha256 key (earlier.map .ready++polls)=pollRecv sha256 key polls := by
  induction earlier with
  | nil => rfl
  | cons e earlier ih =>
    have he := h e List.mem_cons_self
    have hnone : (e.metas.take e.count).filter RecvMeta.isLong=[] := by
      rw [List.filter_eq_nil_iff]
      intro m hm
      have hshort := he.short m hm
      simpa [RecvMeta.isLong] using hshort
    have hcount := (recvLoop_datagrams sha256 key e).1
    rw [hnone,List.length_nil] at hcount
    rw [List.map_cons,List.cons_append,pollRecv,if_neg he.some_slot]
    dsimp only
    rw [if_neg (by omega)]
    exact ih (fun e' he' => h e' (List.mem_cons_of_mem e he'))

lemma flatMap_rejected {earlier : List Batch} (h : ∀ e ∈ earlier, e.Rejected) (b : Batch) :
    (earlier++[b]).flatMap (Batch.arrived sha256 key)=b.arrived sha256 key := by
  have hnone : earlier.flatMap (Batch.arrived sha256 key)=[] := by
    rw [List.flatMap_eq_nil_iff]
    exact fun e he => arrived_short (h e he).short _
  rw [List.flatMap_append,hnone]
  simp

/-- For a batch with a long slot the property is about the loop on that batch alone. -/
theorem faithful_iff {earlier : List Batch} (h : ∀ e ∈ earlier, e.Rejected) {b : Batch}
    (hlong : ∃ m ∈ b.metas.take b.count, saltLen < m.len) :
    Faithful sha256 key earlier b ↔
      readSlots (List.zipWith (workedOn sha256 key) (b.bufs.take b.count) (b.metas.take b.count)++
          b.bufs.drop b.count) (((b.metas.take b.count).filter RecvMeta.isLong).map RecvMeta.shrink)=
        some (b.arrived sha256 key) := by
  obtain ⟨m,hm,hlen⟩ := hlong
  have hpos : 0 < ((b.metas.take b.count).filter RecvMeta.isLong).length := by
    apply List.length_pos_of_mem (a := m)
    exact List.mem_filter.mpr ⟨hm,decide_eq_true hlen⟩
  have hzero : b.count ≠ 0 := by
    intro hzero
    rw [hzero] at hm
    simp at hm
  obtain ⟨hcount,hdatagrams⟩ := recvLoop_datagrams sha256 key b
  have hpoll : pollRecv sha256 key (earlier.map .ready++[.ready b])=
      some (.ready (recvLoop sha256 key b.count 0 0 b.bufs b.metas)) := by
    rw [pollRecv_rejected sha256 key h,pollRecv,if_neg hzero]
    dsimp only
    rw [if_pos (by omega)]
  unfold Faithful
  rw [hpoll,flatMap_rejected h,← hdatagrams]
  constructor
  · exact fun hf => hf _ rfl
  · rintro hf received hr
    cases hr
    exact hf

/-- Without a long slot `poll_recv` is ready only for an empty batch. -/
lemma faithful_short {earlier : List Batch} (h : ∀ e ∈ earlier, e.Rejected) {b : Batch}
    (hshort : ∀ m ∈ b.metas.take b.count, m.len ≤ saltLen) : Faithful sha256 key earlier b := by
  intro received hr
  rw [flatMap_rejected h,Batch.arrived,arrived_short hshort]
  rw [pollRecv_rejected sha256 key h] at hr
  by_cases hzero : b.count=0
  · rw [pollRecv,if_pos hzero] at hr
    cases hr
    simp [Received.datagrams,readSlots]
  · have hb : ∀ e ∈ [b], e.Rejected := by
      intro e he
      rw [List.mem_singleton.mp he]
      exact ⟨hzero,hshort⟩
    have hrejected := pollRecv_rejected sha256 key hb []
    rw [List.map_singleton,List.singleton_append] at hrejected
    rw [hrejected] at hr
    cases hr

end RotatorProxy.Hysteria
