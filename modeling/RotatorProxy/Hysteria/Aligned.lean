import RotatorProxy.Hysteria.Receive

/-! For which batches the receive side of the XPlus wrapper hands over what has arrived: the metas of
accepted slots are moved to the front and the buffers are not, and a buffer is always taken as one
packet. -/
namespace RotatorProxy.Hysteria
open Text Outbound Library

variable {sha256 : Bytes → Fin 32 → UInt8} {key : Bytes}

/-- Either the elements with a property come first, or one stands right behind some without it. -/
lemma first_or_gap {α : Type} (p : α → Prop) [DecidablePred p] (l : List α) :
    (∃ a b, l=a++b ∧ (∀ x ∈ a, p x) ∧ ∀ x ∈ b, ¬p x) ∨
      ∃ a x b y c, l=a++x::(b++y::c) ∧ (∀ z ∈ a, p z) ∧ ¬p x ∧ (∀ z ∈ b, ¬p z) ∧ p y := by
  induction l with
  | nil => exact .inl ⟨[],[],rfl,by simp,by simp⟩
  | cons z l ih =>
    by_cases hz : p z
    · obtain ⟨a,b,rfl,ha,hb⟩ | ⟨a,x,b,y,c,rfl,ha,hx,hb,hy⟩ := ih
      · exact .inl ⟨z::a,b,rfl,by simpa [hz] using ha,hb⟩
      · exact .inr ⟨z::a,x,b,y,c,rfl,by simpa [hz] using ha,hx,hb,hy⟩
    · obtain ⟨a,b,rfl,ha,hb⟩ | ⟨a,x,b,y,c,rfl,ha,hx,hb,hy⟩ := ih
      · cases a with
        | nil => exact .inl ⟨[],z::b,rfl,by simp,by simpa [hz] using hb⟩
        | cons y a => exact .inr ⟨[],z,[],y,a++b,rfl,by simp,hz,by simp,ha y List.mem_cons_self⟩
      · cases a with
        | nil => exact .inr ⟨[],z,x::b,y,c,rfl,by simp,hz,by simpa [hx] using hb,hy⟩
        | cons w a =>
          exact .inr ⟨[],z,[],w,a++x::(b++y::c),rfl,by simp,hz,by simp,ha w List.mem_cons_self⟩

/-- Slots that belong to two runs of metas. -/
lemma Fits.split {bufs : List Bytes} {metas metas' : List RecvMeta} (h : Fits bufs (metas++metas')) :
    ∃ front back, bufs=front++back ∧ Fits front metas ∧ Fits back metas' :=
  ⟨bufs.take metas.length,bufs.drop metas.length,(List.take_append_drop _ _).symm,
    List.forall₂_take_append bufs metas metas' h,List.forall₂_drop_append bufs metas metas' h⟩

lemma filter_long {metas : List RecvMeta} (h : ∀ m ∈ metas, saltLen < m.len) :
    metas.filter RecvMeta.isLong=metas :=
  List.filter_eq_self.mpr (fun m hm => decide_eq_true (h m hm))

lemma filter_short {metas : List RecvMeta} (h : ∀ m ∈ metas, ¬saltLen < m.len) :
    metas.filter RecvMeta.isLong=[] :=
  List.filter_eq_nil_iff.mpr (fun m hm => by simpa [RecvMeta.isLong] using h m hm)

variable (sha256 key) in
/-- Long slots in front are read as what has arrived in them, and the reader goes on behind. -/
theorem readSlots_long_append {bufs : List Bytes} {metas : List RecvMeta} (hfits : Fits bufs metas)
    (hlong : ∀ m ∈ metas, saltLen < m.len) (hsingle : ∀ m ∈ metas, m.Single) (laterBufs : List Bytes)
    (laterMetas : List RecvMeta) :
    readSlots (List.zipWith (workedOn sha256 key) bufs metas++laterBufs)
        (metas.map RecvMeta.shrink++laterMetas)=
      (readSlots laterBufs laterMetas).map (fun rest => arrived sha256 key bufs metas++rest) := by
  rw [readSlots_append (by simp [hfits.length_eq]),readSlots_long hfits hlong hsingle]
  rfl

/-- Slots in order are read as what has arrived. -/
theorem faithful_of_inOrder {earlier : List Batch} (h : ∀ e ∈ earlier, e.Rejected) {b : Batch}
    (horder : InOrder (b.metas.take b.count)) : Faithful sha256 key earlier b := by
  by_cases hlong : ∃ m ∈ b.metas.take b.count, saltLen < m.len
  · rw [faithful_iff h hlong,Batch.arrived]
    obtain ⟨long,short,hmetas,hlongs,hshorts⟩ := horder.long_first
    have hsingle : ∀ m ∈ long, m.Single := by
      intro m hm
      apply horder.single m
      · rw [hmetas]
        exact List.mem_append_left short hm
      · exact hlongs m hm
    have hfits := b.fits
    rw [hmetas] at hfits ⊢
    obtain ⟨bufs,bufs',hbufs,hfits',_⟩ := Fits.split hfits
    rw [hbufs,List.zipWith_append hfits'.length_eq,List.append_assoc,List.filter_append,
      filter_long hlongs,filter_short (fun m hm => Nat.not_lt.mpr (hshorts m hm)),List.append_nil]
    have hread := readSlots_long_append sha256 key hfits' hlongs hsingle
      (List.zipWith (workedOn sha256 key) bufs' short++b.bufs.drop b.count) []
    rw [List.append_nil] at hread
    rw [hread,arrived_append hfits'.length_eq,arrived_short hshorts]
    simp [readSlots]
  · apply faithful_short h
    intro m hm
    by_contra hlen
    exact hlong ⟨m,hm,by omega⟩

/-- The batch with the buffers of its slots replaced by others of the same size. -/
def Batch.refill (b : Batch) (bufs : List Bytes) (hfits : Fits bufs (b.metas.take b.count)) : Batch where
  bufs := bufs++b.bufs.drop b.count
  metas := b.metas
  count := b.count
  metas_length := b.metas_length
  fits := by
    have hlen := hfits.length_eq
    rw [List.length_take_of_le b.metas_length] at hlen
    rw [List.take_left' hlen]
    exact hfits

lemma Batch.refill_sameShape (b : Batch) {bufs : List Bytes} (hfits : Fits bufs (b.metas.take b.count))
    (hlen : bufs.map List.length=(b.bufs.take b.count).map List.length) : SameShape b (b.refill bufs hfits) where
  count := rfl
  metas := rfl
  capacities := by
    rw [refill,List.map_append,hlen,← List.map_append,List.take_append_drop]

/-- Over a gap the reader takes the bytes of a refused slot for a payload. -/
lemma gap_misread {bufs bufs₂ bufs₃ later : List Bytes} {bs bm : Bytes} {long gap rest : List RecvMeta}
    {s m : RecvMeta} (hfits : Fits bufs long) (hfits₂ : Fits bufs₂ gap) (hfit : m.len ≤ bm.length)
    (hlong : ∀ m ∈ long, saltLen < m.len) (hsingle : ∀ m ∈ long, m.Single) (hs : ¬saltLen < s.len)
    (hgap : ∀ m ∈ gap, ¬saltLen < m.len) (hm : saltLen < m.len) (hmsingle : m.Single)
    (hread : readSlots (List.zipWith (workedOn sha256 key) (bufs++bs::(bufs₂++bm::bufs₃))
        (long++s::(gap++m::rest))++later)
        (((long++s::(gap++m::rest)).filter RecvMeta.isLong).map RecvMeta.shrink)=
      some (arrived sha256 key (bufs++bs::(bufs₂++bm::bufs₃)) (long++s::(gap++m::rest)))) :
    bs.take (m.len-saltLen)=payload sha256 key (bm.take m.len) := by
  have hfilter : (long++s::(gap++m::rest)).filter RecvMeta.isLong=long++m::rest.filter RecvMeta.isLong := by
    rw [List.filter_append,filter_long hlong,List.filter_cons_of_neg (by simpa [RecvMeta.isLong] using hs),
      List.filter_append,filter_short hgap,List.nil_append,
      List.filter_cons_of_pos (by simpa [RecvMeta.isLong] using hm)]
  have hwork : workedOn sha256 key bs s=bs := by
    rw [workedOn,RecvMeta.isLong,decide_eq_false hs,if_neg Bool.false_ne_true]
  have harrived : arrived sha256 key (bufs++bs::(bufs₂++bm::bufs₃)) (long++s::(gap++m::rest))=
      arrived sha256 key bufs long++
        (⟨m.addr,payload sha256 key (bm.take m.len)⟩::arrived sha256 key bufs₃ rest) := by
    rw [arrived_append hfits.length_eq,arrived,slotPayloads_short (Nat.not_lt.mp hs),List.nil_append,
      arrived_append hfits₂.length_eq,arrived_short (fun m hm => Nat.not_lt.mp (hgap m hm)),
      List.nil_append,arrived,slotPayloads_single hfit hm hmsingle,List.singleton_append]
  rw [hfilter,harrived,List.zipWith_append hfits.length_eq,List.append_assoc,List.map_append,
    readSlots_long_append sha256 key hfits hlong hsingle,List.zipWith_cons_cons,hwork,List.map_cons,
    List.cons_append,readSlots] at hread
  split_ifs at hread with hfit'
  · rw [slotDatagrams_shrink hfit' hm hmsingle] at hread
    obtain ⟨out,hout,heq⟩ := Option.map_eq_some_iff.mp hread
    obtain ⟨rest',_,rfl⟩ := Option.map_eq_some_iff.mp hout
    have hhead := List.append_cancel_left heq
    rw [List.singleton_append,List.cons.injEq,Datagram.mk.injEq] at hhead
    exact hhead.1.2
  · cases hread

variable (sha256 key) in
theorem gap_unfaithful {earlier : List Batch} (h : ∀ e ∈ earlier, e.Rejected) {b : Batch}
    (hsingle : ∀ m ∈ b.metas.take b.count, saltLen < m.len → m.Single)
    {long gap rest : List RecvMeta} {s m : RecvMeta}
    (hmetas : b.metas.take b.count=long++s::(gap++m::rest)) (hlong : ∀ m ∈ long, saltLen < m.len)
    (hs : ¬saltLen < s.len) (hgap : ∀ m ∈ gap, ¬saltLen < m.len) (hm : saltLen < m.len) :
    ∃ b', SameShape b b' ∧ ¬Faithful sha256 key earlier b' := by
  have hfits := b.fits
  rw [hmetas] at hfits
  obtain ⟨bufs,back,hbufs,hfits₁,hback⟩ := Fits.split hfits
  obtain ⟨bs,back,hfitS,hback',rfl⟩ := List.forall₂_cons_right_iff.mp hback
  obtain ⟨bufs₂,back₂,rfl,hfits₂,hback₂⟩ := Fits.split hback'
  obtain ⟨bm,bufs₃,hfitM,hfits₃,rfl⟩ := List.forall₂_cons_right_iff.mp hback₂
  -- the buffer of the refused slot is to begin with another byte than the payload behind it
  obtain ⟨y,hy⟩ : ∃ y : UInt8, (payload sha256 key (bm.take m.len)).head? ≠ some y := by
    by_cases h0 : (payload sha256 key (bm.take m.len)).head? = some 0
    · exact ⟨1,by rw [h0]; decide⟩
    · exact ⟨0,h0⟩
  have hfits' : Fits (bufs++bs.set 0 y::(bufs₂++bm::bufs₃)) (b.metas.take b.count) := by
    rw [hmetas]
    apply List.rel_append hfits₁
    exact .cons (by simpa using hfitS) (List.rel_append hfits₂ (.cons hfitM hfits₃))
  refine ⟨b.refill _ hfits',b.refill_sameShape hfits' (by rw [hbufs]; simp),fun hfaithful => ?_⟩
  have hmem : m ∈ b.metas.take b.count := by
    rw [hmetas]
    simp
  have hsome : ∃ m' ∈ (b.refill _ hfits').metas.take (b.refill _ hfits').count, saltLen < m'.len :=
    ⟨m,hmem,hm⟩
  have hread := (faithful_iff h hsome).mp hfaithful
  have htake : (b.refill _ hfits').bufs.take b.count=bufs++bs.set 0 y::(bufs₂++bm::bufs₃) := by
    have hlen := hfits'.length_eq
    rw [List.length_take_of_le b.metas_length] at hlen
    exact List.take_left' hlen
  rw [Batch.arrived,show (b.refill _ hfits').count=b.count from rfl,
    show (b.refill _ hfits').metas=b.metas from rfl,htake,hmetas] at hread
  have hlongs : ∀ m' ∈ long, m'.Single := by
    intro m' hm'
    apply hsingle m' _ (hlong m' hm')
    rw [hmetas]
    exact List.mem_append_left _ hm'
  have hmisread := gap_misread hfits₁ hfits₂ hfitM hlong hlongs hs hgap hm (hsingle m hmem hm) hread
  apply hy
  rw [← hmisread]
  cases bs with
  | nil =>
    have hlen := congrArg List.length hmisread
    rw [payload_length,List.length_take_of_le hfitM] at hlen
    simp at hlen
    omega
  | cons b bs =>
    obtain ⟨k,hk⟩ : ∃ k, m.len-saltLen=k+1 := ⟨m.len-saltLen-1,by omega⟩
    rw [hk]
    rfl

/-- Whatever the bytes in the buffers, a reader finds exactly what has arrived if and only if every
slot longer than a salt holds one datagram and none of them stands behind a shorter slot. -/
theorem faithful_iff_inOrder {earlier : List Batch} (h : ∀ e ∈ earlier, e.Rejected) (b : Batch) :
    (∀ b', SameShape b b' → Faithful sha256 key earlier b') ↔ InOrder (b.metas.take b.count) := by
  constructor
  · intro hall
    have hself := hall b ⟨rfl,rfl,rfl⟩
    have hsingle : ∀ m ∈ b.metas.take b.count, saltLen < m.len → m.Single := by
      intro m hm hlen
      have htotal := totalBytes_readSlots ((faithful_iff h ⟨m,hm,hlen⟩).mp hself)
      rw [sum_long] at htotal
      exact (totalBytes_arrived sha256 key b.fits).2 htotal m hm hlen
    refine ⟨hsingle,?_⟩
    obtain ⟨long,short,hmetas,hlong,hshort⟩ | ⟨long,s,gap,m,rest,hmetas,hlong,hs,hgap,hm⟩ :=
      first_or_gap (fun m : RecvMeta => saltLen < m.len) (b.metas.take b.count)
    · exact ⟨long,short,hmetas,hlong,fun m hm => Nat.not_lt.mp (hshort m hm)⟩
    · obtain ⟨b',hshape,hunfaithful⟩ :=
        gap_unfaithful sha256 key h hsingle hmetas hlong hs hgap hm
      exact absurd (hall b' hshape) hunfaithful
  · intro horder b' hshape
    apply faithful_of_inOrder h
    rw [hshape.count,hshape.metas]
    exact horder

/-! Two batches under a digest of zeroes -/

def sampleAddr : SocketAddr := ⟨.v4 ⟨127,0,0,1⟩,443⟩

/-- One slot with a datagram that the digest of zeroes leaves as it is. -/
def sampleBatch : Batch where
  bufs := [List.replicate 16 0++[1,2,3,4]]
  metas := [⟨sampleAddr,20,20,none,none⟩]
  count := 1
  metas_length := by decide
  fits := .cons (by decide) .nil

/-- A slot that is too short for a salt. -/
def shortBatch : Batch where
  bufs := [[9,9,9,9,9,9,9,9]]
  metas := [⟨sampleAddr,3,3,none,none⟩]
  count := 1
  metas_length := by decide
  fits := .cons (by decide) .nil

theorem sampleBatch_faithful : Faithful (fun _ _ => 0) [] [shortBatch] sampleBatch := by
  have hearlier : ∀ e ∈ [shortBatch], e.Rejected := by
    intro e he
    rw [List.mem_singleton.mp he]
    exact ⟨by decide,by decide⟩
  refine (faithful_iff_inOrder hearlier sampleBatch).mpr ⟨?_,[⟨sampleAddr,20,20,none,none⟩],[],rfl,?_,?_⟩
    sampleBatch ⟨rfl,rfl,rfl⟩
  · intro m hm _
    rw [List.mem_singleton.mp hm]
    exact .inr (by decide)
  · intro m hm
    rw [List.mem_singleton.mp hm]
    decide
  · intro m hm
    cases hm

/-- The two slots in one batch, the short one first. -/
def gapBatch : Batch where
  bufs := [[9,9,9,9,9,9,9,9],List.replicate 16 0++[1,2,3,4]]
  metas := [⟨sampleAddr,3,3,none,none⟩,⟨sampleAddr,20,20,none,none⟩]
  count := 2
  metas_length := by decide
  fits := .cons (by decide) (.cons (by decide) .nil)

/-- Two datagrams of eighteen bytes in one buffer. -/
def coalescedBatch : Batch where
  bufs := [List.replicate 16 0++[1,2]++List.replicate 16 0++[3,4]]
  metas := [⟨sampleAddr,36,18,none,none⟩]
  count := 1
  metas_length := by decide
  fits := .cons (by decide) .nil

/-- The reader gets the bytes of the refused packet, and the salt of the second datagram. -/
theorem packets_misread :
    (∃ received, pollRecv (fun _ _ => 0) [] [.ready gapBatch] = some (.ready received) ∧
      received.datagrams = some [⟨sampleAddr,[9,9,9,9]⟩]) ∧
      gapBatch.arrived (fun _ _ => 0) []=[⟨sampleAddr,[1,2,3,4]⟩] ∧
    (∃ received, pollRecv (fun _ _ => 0) [] [.ready coalescedBatch] = some (.ready received) ∧
      received.datagrams = some [⟨sampleAddr,[1,2]++List.replicate 16 0⟩,⟨sampleAddr,[3,4]⟩]) ∧
      coalescedBatch.arrived (fun _ _ => 0) []=[⟨sampleAddr,[1,2]⟩,⟨sampleAddr,[3,4]⟩] :=
  ⟨⟨_,rfl,by decide⟩,by decide,⟨_,rfl,by decide⟩,by decide⟩

end RotatorProxy.Hysteria
