import RotatorProxy.Library.Run
import RotatorProxy.Mihomo.Generation
import RotatorProxy.Outbound.Resource

/-! The batches in which generations are prepared. For each of them local ports are reserved, and when descriptors run out
meanwhile a smaller batch is tried. Preparing ends with an error where there is no step. -/
namespace RotatorProxy.Mihomo
open Text Proxy Library Outbound

structure PreparedGeneration where
  id : ℕ
  config : YamlValue
  nodes : List ProxyNode

/-- The variables of the loop of `prepare_generation`, and the counter that all generations take their numbers from. It is
not bounded here; that of the program starts again after `u64::MAX`. -/
structure Preparing where
  offset : ℕ
  activeBatchSize : ℕ
  generations : List PreparedGeneration
  nextGeneration : ℕ

inductive PreparingEvent
  /-- The ports are reserved, and the generation with this number has started. -/
  | prepared (generationId : ℕ) (ports : List UInt16)
  | refused (err : IoError)

namespace Preparing
variable (libc : Libc) (proxies : List MihomoProxyConfig) (logLevel : Str)

def start (configuredBatchSize nextGeneration : ℕ) : Preparing := ⟨0,max configuredBatchSize 1,[],nextGeneration⟩

def batch (s : Preparing) : List MihomoProxyConfig := (proxies.drop s.offset).take s.activeBatchSize

/-- The configuration of a batch is written before its generation starts. -/
def step (s : Preparing) : PreparingEvent → Option Preparing
  | .prepared generationId ports =>
    if s.offset < proxies.length ∧ ports.length=(s.batch proxies).length then
      match buildGenerationConfig generationId (s.batch proxies) ports logLevel with
      | .error _ => none
      | .ok generated => some {s with
          offset := s.offset+(s.batch proxies).length
          generations := s.generations++[⟨generationId,generated.config,generated.nodes⟩]
          nextGeneration := generationId+1}
    else none
  | .refused err =>
    if s.offset < proxies.length ∧ 1 < (s.batch proxies).length ∧ isFileDescriptorExhaustion libc err then
      some {s with activeBatchSize := max ((s.batch proxies).length/2) 1}
    else none

/-- The ports of a batch are reserved together, and the counter only grows. -/
def Reserves (s : Preparing) : PreparingEvent → Prop
  | .prepared generationId ports => ports.Nodup ∧ s.nextGeneration ≤ generationId
  | .refused _ => True

instance (s : Preparing) : (e : PreparingEvent) → Decidable (s.Reserves e)
  | .prepared generationId ports => inferInstanceAs (Decidable (ports.Nodup ∧ s.nextGeneration ≤ generationId))
  | .refused _ => .isTrue trivial

def nodes (s : Preparing) : List ProxyNode := s.generations.flatMap PreparedGeneration.nodes

/-- A connection to the node goes through this proxy, in one of the generations. -/
def Leads (s : Preparing) (node : ProxyNode) (proxy : MihomoProxyConfig) : Prop :=
  ∃ generation ∈ s.generations, LeadsTo generation.id generation.config node proxy

def refusals (es : List PreparingEvent) : ℕ :=
  es.countP fun e => match e with
    | .refused _ => true
    | .prepared _ _ => false

/-- What the loop has done so far: the first proxies have their nodes. -/
structure Ok (configuredBatchSize : ℕ) (es : List PreparingEvent) (s : Preparing) : Prop where
  offset : s.offset ≤ proxies.length
  leads : List.Forall₂ s.Leads s.nodes (proxies.take s.offset)
  keys : (s.nodes.map ProxyNode.key).Nodup
  numbered : ∀ node ∈ s.nodes, ∃ generationId port, generationId < s.nextGeneration ∧ IsNodeAt generationId port node
  ids : (s.generations.map PreparedGeneration.id).Pairwise (· < ·)
  idBound : ∀ generation ∈ s.generations, generation.id < s.nextGeneration
  sizes : ∀ generation ∈ s.generations, 0 < generation.nodes.length ∧ generation.nodes.length ≤ max configuredBatchSize 1
  size : 0 < s.activeBatchSize
  halved : 2^refusals es*s.activeBatchSize ≤ max configuredBatchSize 1
  steps : es.length=s.generations.length+refusals es

section
variable {libc proxies logLevel} {configuredBatchSize nextGeneration : ℕ} {es : List PreparingEvent} {s t : Preparing}

lemma batch_length (proxies : List MihomoProxyConfig) (s : Preparing) : (s.batch proxies).length=min s.activeBatchSize (proxies.length-s.offset) := by
  rw [batch,List.length_take,List.length_drop]

lemma start_ok : Ok proxies configuredBatchSize [] (start configuredBatchSize nextGeneration) where
  offset := Nat.zero_le _
  leads := .nil
  keys := List.nodup_nil
  numbered := nofun
  ids := .nil
  idBound := nofun
  sizes := nofun
  size := by simp [start]
  halved := by simp [start,refusals]
  steps := rfl

/-- A batch that is prepared -/
lemma step_prepared {generationId : ℕ} {ports : List UInt16}
    (h : s.step libc proxies logLevel (.prepared generationId ports)=some t) : s.offset < proxies.length ∧
      ∃ generated, buildGenerationConfig generationId (s.batch proxies) ports logLevel = .ok generated ∧
        t={s with
          offset := s.offset+(s.batch proxies).length
          generations := s.generations++[⟨generationId,generated.config,generated.nodes⟩]
          nextGeneration := generationId+1} := by
  rw [step] at h
  split_ifs at h with hready
  cases hbuild : buildGenerationConfig generationId (s.batch proxies) ports logLevel with
  | error err =>
    rw [hbuild] at h
    cases h
  | ok generated =>
    rw [hbuild] at h
    exact ⟨hready.1,generated,rfl,(Option.some.inj h).symm⟩

lemma step_refused {err : IoError} (h : s.step libc proxies logLevel (.refused err)=some t) :
    s.offset < proxies.length ∧ 1 < (s.batch proxies).length ∧
      t={s with activeBatchSize := (s.batch proxies).length/2} := by
  rw [step] at h
  split_ifs at h with hready
  obtain ⟨hoffset,hlength,-⟩ := hready
  refine ⟨hoffset,hlength,?_⟩
  rw [← Option.some.inj h,max_eq_left (by omega)]

lemma refusals_snoc (es : List PreparingEvent) (e : PreparingEvent) : refusals (es++[e])=
    match e with
    | .refused _ => refusals es+1
    | .prepared _ _ => refusals es := by
  cases e <;> simp [refusals]

lemma nodes_snoc (generation : PreparedGeneration) (offset next : ℕ) :
    (nodes {s with offset := offset,generations := s.generations++[generation],nextGeneration := next})=
      s.nodes++generation.nodes := by
  simp [nodes]

/-- The nodes of a batch are new to the pool. -/
lemma keys_append {generationId : ℕ} {ports : List UInt16} {new : List ProxyNode} (hkeys : (s.nodes.map ProxyNode.key).Nodup)
    (hnumbered : ∀ node ∈ s.nodes, ∃ generationId port, generationId < s.nextGeneration ∧ IsNodeAt generationId port node)
    (hid : s.nextGeneration ≤ generationId) (hports : ports.Nodup)
    (hnew : List.Forall₂ (IsNodeAt generationId) ports new) : ((s.nodes++new).map ProxyNode.key).Nodup := by
  rw [List.map_append]
  refine List.nodup_append.mpr ⟨hkeys,keys_nodup hports hnew,?_⟩
  rintro _ hold _ hmem rfl
  obtain ⟨node,hnode,hkey⟩ := List.mem_map.mp hold
  obtain ⟨other,hother,hkey'⟩ := List.mem_map.mp hmem
  obtain ⟨oldId,port,hlt,label,rfl⟩ := hnumbered node hnode
  obtain ⟨port',-,label',rfl⟩ := exists_of_forall₂ hnew hother
  have hsame := (localMihomo_key_inj (hkey.trans hkey'.symm)).1
  omega

lemma Ok.prepared {generationId : ℕ} {ports : List UInt16} (h : s.Ok proxies configuredBatchSize es)
    (hports : ports.Nodup) (hid : s.nextGeneration ≤ generationId)
    (ht : s.step libc proxies logLevel (.prepared generationId ports)=some t) :
    t.Ok proxies configuredBatchSize (es++[.prepared generationId ports]) := by
  obtain ⟨hoffset,generated,hbuild,rfl⟩ := step_prepared ht
  have hat := generated_nodes_at hbuild
  have hleads := ((generation_leads hports).2 generated hbuild).1
  have hcount := hleads.length_eq
  have hlength := batch_length proxies s
  have hsize := h.size
  have hhalved := h.halved
  have hsteps := h.steps
  refine ⟨?_,?_,?_,?_,?_,?_,?_,hsize,by rw [refusals_snoc]; exact hhalved,?_⟩
  · dsimp only
    omega
  · have hbatch : (proxies.drop s.offset).take (s.batch proxies).length=s.batch proxies :=
      (List.prefix_iff_eq_take.mp (List.take_prefix _ _)).symm
    rw [nodes_snoc]
    dsimp only
    rw [List.take_add,hbatch]
    refine List.rel_append (h.leads.imp fun node proxy hleads => ?_) (hleads.imp fun node proxy hleads => ?_)
    · obtain ⟨generation,hgeneration,hleads⟩ := hleads
      exact ⟨generation,List.mem_append_left _ hgeneration,hleads⟩
    · exact ⟨_,List.mem_append_right _ (List.mem_singleton_self _),hleads⟩
  · rw [nodes_snoc]
    exact keys_append h.keys h.numbered hid hports hat
  · rw [nodes_snoc]
    intro node hnode
    rcases List.mem_append.mp hnode with hold | hnew
    · obtain ⟨oldId,port,hlt,hat⟩ := h.numbered node hold
      exact ⟨oldId,port,Nat.lt_succ_of_lt (hlt.trans_le hid),hat⟩
    · obtain ⟨port,-,hat⟩ := exists_of_forall₂ hat hnew
      exact ⟨generationId,port,Nat.lt_succ_self _,hat⟩
  · rw [List.map_append]
    refine List.pairwise_append.mpr ⟨h.ids,List.pairwise_singleton _ _,?_⟩
    intro old hold new hnew
    obtain ⟨generation,hgeneration,rfl⟩ := List.mem_map.mp hold
    rw [List.mem_singleton.mp hnew]
    exact (h.idBound generation hgeneration).trans_le hid
  · intro generation hgeneration
    rcases List.mem_append.mp hgeneration with hold | hnew
    · exact Nat.lt_succ_of_lt ((h.idBound generation hold).trans_le hid)
    · rw [List.mem_singleton.mp hnew]
      exact Nat.lt_succ_self _
  · intro generation hgeneration
    rcases List.mem_append.mp hgeneration with hold | hnew
    · exact h.sizes generation hold
    · rw [List.mem_singleton.mp hnew]
      dsimp only
      have hpow := Nat.one_le_two_pow (n := refusals es)
      have hle := Nat.le_mul_of_pos_left s.activeBatchSize hpow
      omega
  · rw [refusals_snoc,List.length_append,List.length_append,List.length_singleton,List.length_singleton]
    dsimp only
    omega

lemma Ok.refused {err : IoError} (h : s.Ok proxies configuredBatchSize es)
    (ht : s.step libc proxies logLevel (.refused err)=some t) :
    t.Ok proxies configuredBatchSize (es++[.refused err]) := by
  obtain ⟨-,hsplit,rfl⟩ := step_refused ht
  have hlength := batch_length proxies s
  have hsteps := h.steps
  refine ⟨h.offset,h.leads,h.keys,h.numbered,h.ids,h.idBound,h.sizes,?_,?_,?_⟩
  · dsimp only
    omega
  · have hhalf : 2*((s.batch proxies).length/2) ≤ s.activeBatchSize := by omega
    rw [refusals_snoc]
    dsimp only
    rw [pow_succ,mul_assoc]
    exact (Nat.mul_le_mul_left _ hhalf).trans h.halved
  · rw [refusals_snoc,List.length_append,List.length_singleton]
    dsimp only
    omega

theorem Ok.step {e : PreparingEvent} (h : s.Ok proxies configuredBatchSize es) (he : s.Reserves e)
    (ht : s.step libc proxies logLevel e=some t) : t.Ok proxies configuredBatchSize (es++[e]) := by
  cases e with
  | prepared generationId ports => exact h.prepared he.1 he.2 ht
  | refused err => exact h.refused ht

/-- There are no more generations than nodes. -/
lemma generations_length_le (h : ∀ generation ∈ s.generations, 0 < generation.nodes.length) :
    s.generations.length ≤ s.nodes.length := by
  unfold nodes
  rw [List.length_flatMap]
  have hsum := List.length_le_sum_of_one_le (s.generations.map fun generation => generation.nodes.length) ?_
  · rwa [List.length_map] at hsum
  · intro n hn
    obtain ⟨generation,hgeneration,rfl⟩ := List.mem_map.mp hn
    exact h generation hgeneration

end

end Preparing

section
variable {libc : Libc} {proxies : List MihomoProxyConfig} {logLevel : Str} {configuredBatchSize nextGeneration : ℕ}
  {es : List PreparingEvent} {s : Preparing}

/-- However often descriptors run out, the batches are no larger than configured and hold the proxies in their order: the nodes
so far lead to the first proxies, one to each, in the file of a generation of their own number, and no two have the same key.
The size is halved no more often than it can be, and there are no more generations than proxies. -/
theorem generations_lead
    (hrun : Run (Preparing.step libc proxies logLevel) Preparing.Reserves
      (.start configuredBatchSize nextGeneration) es s) :
    List.Forall₂ s.Leads s.nodes (proxies.take s.offset) ∧ (s.nodes.map ProxyNode.key).Nodup ∧
      (s.generations.map PreparedGeneration.id).Pairwise (· < ·) ∧
      (∀ generation ∈ s.generations, 0 < generation.nodes.length ∧
        generation.nodes.length ≤ max configuredBatchSize 1) ∧
      2^Preparing.refusals es ≤ max configuredBatchSize 1 ∧ es.length ≤ proxies.length+Preparing.refusals es ∧
      (s.offset=proxies.length → List.Forall₂ s.Leads s.nodes proxies) := by
  have hok := hrun.history (fun es s => s.Ok proxies configuredBatchSize es) (fun _ _ _ _ h he ht => h.step he ht) []
    Preparing.start_ok
  rw [List.nil_append] at hok
  refine ⟨hok.leads,hok.keys,hok.ids,hok.sizes,?_,?_,fun hdone => ?_⟩
  · exact (Nat.le_mul_of_pos_right _ hok.size).trans hok.halved
  · have hgenerations := Preparing.generations_length_le fun generation h => (hok.sizes generation h).1
    have hnodes := hok.leads.length_eq
    have hsteps := hok.steps
    rw [List.length_take] at hnodes
    omega
  · have hleads := hok.leads
    rwa [hdone,List.take_length] at hleads

end

/-! Three proxies, of which the first two are to be in one batch when descriptors run out. -/

def sampleProxies : List MihomoProxyConfig := [sampleProxy ['a'],sampleProxy ['b'],sampleProxy ['c']]

def samplePreparing : List PreparingEvent :=
  [.refused (.fromRawOsError .sample emfile),.prepared 1 [21001],.prepared 2 [21002],.prepared 4 [21003]]

theorem generations_lead_sample : ∃ s, Run (Preparing.step .sample sampleProxies "warning".toList) Preparing.Reserves
    (.start 2 1) samplePreparing s ∧ List.Forall₂ s.Leads s.nodes sampleProxies := by
  have hfound : (samplePreparing.foldlM (fun s e => if decide (s.Reserves e) then
      Preparing.step .sample sampleProxies "warning".toList s e else none) (Preparing.start 2 1)).any
        (fun s => decide (s.offset=3)) = true := by
    decide
  obtain ⟨s,hs,hoffset⟩ := (Option.any_eq_true _ _).mp hfound
  have hrun := Run.of_checked (fun s e => decide (Preparing.Reserves s e)) (fun _ _ => of_decide_eq_true) hs
  exact ⟨s,hrun,(generations_lead hrun).2.2.2.2.2.2 (of_decide_eq_true hoffset)⟩

end RotatorProxy.Mihomo
