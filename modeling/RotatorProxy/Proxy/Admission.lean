import RotatorProxy.Library.Outcome
import RotatorProxy.Proxy.Invariant

/-! Operations that bring nodes into a pool: `merge`, and building a pool again from its file. A key
that enters for the first time has no record and is not listed as disabled. -/
namespace RotatorProxy.Proxy
open Text Library

variable {env : Externals} {cfg : PoolConfig} {U : Set Str} {ever : List Str} {p q : Pool} {key : Str}

/-- The nodes that are offered to a pool can be rebuilt, and their keys lie in `U`. -/
def Offered (env : Externals) (U : Set Str) (proxies : List ProxyNode) : Prop :=
  ∀ node ∈ proxies, node.Rebuilds env ∧ node.key ∈ U

lemma Offered.entries {proxies : List ProxyNode} (h : Offered env U proxies) {e : ProxyEntry}
    (he : e ∈ entriesFromNodes proxies) :
    e=ProxyEntry.fromNode e.node ∧ e.node.Rebuilds env ∧ e.key ∈ U := by
  obtain ⟨node,hn,rfl⟩ := List.mem_map.mp he
  exact ⟨rfl,(h node hn).1,(h node hn).2⟩

lemma listedRecord_eq_none {disabled : DisabledMap}
    (h : disabled.lookup (proxyKeyHash env key) = none) : listedRecord env cfg disabled key = none := by
  rw [listedRecord,h]
  rfl

/-- A restored record counts what the map lists. -/
lemma restoreRecords_disabledCount (disabled : DisabledMap) (entries : List ProxyEntry)
    (hk : key ∈ entries.map ProxyEntry.key) :
    disabledCount (restoreRecords env cfg disabled entries (fun _ => none) key) =
      (disabled.lookup (proxyKeyHash env key)).map PersistedDisabledProxy.disabledRecheckFailures := by
  rw [restoreRecords_apply,if_pos hk,Option.or_none]
  exact disabledCount_listed disabled key

namespace Pool

/-- A key that is neither active nor retired was never active. -/
theorem Linked.fresh (h : p.Linked env U ever) (hactive : key ∉ p.activeKeys)
    (hretired : proxyKeyHash env key ∉ p.state.retiredHashes) : key ∉ ever :=
  fun hk => (h.gone_retired key hk).elim hactive hretired

/-- Entries that have never been in the pool join it. -/
theorem Linked.admit (h : p.Linked env U ever) (added : List ProxyEntry)
    (hactive : q.activeKeys=p.activeKeys++added.map ProxyEntry.key)
    (hretired : ∀ h, h ∈ q.state.retiredHashes ↔ h ∈ p.state.retiredHashes)
    (hfiled : Filed q.state.disabledByHash) (hnodup : (added.map ProxyEntry.key).Nodup)
    (hU : ∀ e ∈ added, e.key ∈ U)
    (hnew : ∀ e ∈ added, e.key ∉ p.activeKeys ∧ proxyKeyHash env e.key ∉ p.state.retiredHashes)
    (hrecords : ∀ k, q.failures k ≠ none → k ∈ ever++added.map ProxyEntry.key)
    (hagrees : ∀ k ∈ q.activeKeys, q.Agrees env k)
    (hentries : ∀ e ∈ q.state.proxies, e=ProxyEntry.fromNode e.node ∧ e.node.Rebuilds env) :
    q.Linked env U (ever++added.map ProxyEntry.key) := by
  refine ⟨?_,?_,?_,?_,?_,hrecords,hagrees,hfiled,hentries⟩
  · intro k hk
    obtain hk | hk := List.mem_append.mp hk
    · exact h.ever_subset k hk
    · obtain ⟨e,he,rfl⟩ := List.mem_map.mp hk
      exact hU e he
  · rw [hactive]
    intro k hk
    obtain hk | hk := List.mem_append.mp hk
    · exact List.mem_append_left _ (h.active_ever k hk)
    · exact List.mem_append_right _ hk
  · rw [hactive,List.nodup_append]
    refine ⟨h.nodup,hnodup,?_⟩
    intro k hk k' hk' heq
    obtain ⟨e,he,rfl⟩ := List.mem_map.mp hk'
    exact (hnew e he).1 (heq ▸ hk)
  · rw [hactive]
    intro k hk
    rw [hretired]
    obtain hk | hk := List.mem_append.mp hk
    · exact h.not_retired k hk
    · obtain ⟨e,he,rfl⟩ := List.mem_map.mp hk
      exact (hnew e he).2
  · rw [hactive]
    intro k hk
    rw [hretired]
    obtain hk | hk := List.mem_append.mp hk
    · exact (h.gone_retired k hk).imp_left (List.mem_append_left _)
    · exact .inl (List.mem_append_right _ hk)

/-! Merging -/

/-- What is known of the entries that `merge` adds. -/
theorem mergeAdded_mem {proxies : List ProxyNode} {e : ProxyEntry} (he : e ∈ p.mergeAdded env proxies) :
    e ∈ entriesFromNodes proxies ∧ e.key ∉ p.activeKeys ∧
      proxyKeyHash env e.key ∉ p.state.retiredHashes := by
  obtain ⟨h1,h2,h3⟩ := retainNew_mem he
  exact ⟨h1,h3,h2⟩

variable (cfg) in
/-- The entries that join have no record yet, so they get the one that the map lists. -/
theorem Linked.mergeLocked (h : p.Linked env U ever) {proxies : List ProxyNode}
    (hoffered : Offered env U proxies) :
    (p.mergeLocked env cfg proxies).1.Linked env U
      (ever++(p.mergeAdded env proxies).map ProxyEntry.key) := by
  have hpool := mergeLocked_pool env cfg proxies p
  generalize (p.mergeLocked env cfg proxies).1=q at *
  have hstate : q.state.proxies=p.state.proxies++p.mergeAdded env proxies := by rw [hpool]
  have hdisabled : q.state.disabledByHash=p.state.disabledByHash := by rw [hpool]
  have hfailures : q.failures=restoreRecords env cfg p.state.disabledByHash (p.mergeAdded env proxies)
      p.failures := by rw [hpool]
  have hactive : q.activeKeys=p.activeKeys++(p.mergeAdded env proxies).map ProxyEntry.key := by
    unfold activeKeys
    rw [hstate,List.map_append]
  have hadded := fun e (he : e ∈ p.mergeAdded env proxies) => hoffered.entries (mergeAdded_mem he).1
  refine h.admit (p.mergeAdded env proxies) hactive (fun _ => by rw [hpool])
    (by rw [hdisabled]; exact h.filed) (retainNew_keys_nodup _ _ _)
    (fun e he => (hadded e he).2.2) (fun e he => (mergeAdded_mem he).2) ?_ ?_ ?_
  · intro k hk
    rw [hfailures,restoreRecords_apply] at hk
    split_ifs at hk with hnew
    · exact List.mem_append_right _ hnew
    · exact List.mem_append_left _ (h.records k hk)
  · intro k hk
    unfold Pool.Agrees listedCount
    rw [hfailures,hdisabled,restoreRecords_apply]
    split_ifs with hnew
    · obtain ⟨e,he,rfl⟩ := List.mem_map.mp hnew
      obtain ⟨_,hne,hnr⟩ := mergeAdded_mem he
      rw [not_not.mp (fun hr => h.fresh hne hnr (h.records _ hr)),Option.or_none]
      exact disabledCount_listed _ _
    · rw [hactive] at hk
      exact h.agrees k ((List.mem_append.mp hk).resolve_right hnew)
  · rw [hstate]
    intro e he
    obtain he | he := List.mem_append.mp he
    · exact h.entries e he
    · exact ⟨(hadded e he).1,(hadded e he).2.1⟩

variable (env cfg p) in
theorem merge_state (proxies : List ProxyNode) :
    (p.merge env cfg proxies).1.state=(p.mergeLocked env cfg proxies).1.state ∧
      (p.merge env cfg proxies).1.failures=(p.mergeLocked env cfg proxies).1.failures := by
  unfold merge
  generalize p.mergeLocked env cfg proxies=r
  obtain ⟨q,summary,reset⟩ := r
  cases reset with
  | none => simp
  | some generation => simp

variable (env p) in
/-- A merge always saves. -/
lemma merge_file (hc : cfg.persistent=true) (proxies : List ProxyNode) :
    (p.merge env cfg proxies).1.file = .saved (p.merge env cfg proxies).1.persistedState := by
  unfold merge
  generalize p.mergeLocked env cfg proxies=r
  obtain ⟨q,summary,reset⟩ := r
  cases reset <;> simp [persistState,hc,persistedState]

theorem Restorable.merge (h : p.Restorable env U ever) (hc : cfg.persistent=true)
    {proxies : List ProxyNode} (hoffered : Offered env U proxies) :
    (p.merge env cfg proxies).1.Restorable env U
      (ever++(p.mergeAdded env proxies).map ProxyEntry.key) := by
  have hlinked := h.1.mergeLocked cfg hoffered
  unfold Pool.merge
  generalize p.mergeLocked env cfg proxies=r at *
  obtain ⟨q,summary,reset⟩ := r
  cases reset with
  | none => exact hlinked.restorable hc
  | some generation => exact Linked.restorable (hlinked.congr rfl rfl) hc

/-- A key that was never active is not listed. -/
theorem Sound.fresh_unlisted (h : p.Sound env U ever) (hU : Set.InjOn (proxyKeyHash env) U)
    (hk : key ∈ U) (hnew : key ∉ ever) :
    p.state.disabledByHash.lookup (proxyKeyHash env key) = none := by
  rw [Option.eq_none_iff_forall_ne_some]
  intro d hd
  obtain ⟨k,hke,heq⟩ := h.listed (proxyKeyHash env key) (by rw [hd]; rfl)
  exact hnew (hU (h.ever_subset k hke) hk heq ▸ hke)

variable (cfg) in
/-- Merging into a sound pool restores no record. -/
theorem Sound.merge_failures (h : p.Sound env U ever) (hU : Set.InjOn (proxyKeyHash env) U)
    {proxies : List ProxyNode} (hoffered : Offered env U proxies) :
    (p.mergeLocked env cfg proxies).1.failures=p.failures := by
  rw [mergeLocked_pool]
  funext k
  change restoreRecords env cfg p.state.disabledByHash (p.mergeAdded env proxies) p.failures k=_
  rw [restoreRecords_apply]
  split_ifs with hk
  · obtain ⟨e,he,rfl⟩ := List.mem_map.mp hk
    obtain ⟨hin,hactive,hretired⟩ := mergeAdded_mem he
    rw [listedRecord_eq_none (h.fresh_unlisted hU (hoffered.entries hin).2.2
      (h.linked.fresh hactive hretired)),Option.none_or]
  · rfl

theorem Kept.merge (h : p.Kept env U ever) (hU : Set.InjOn (proxyKeyHash env) U)
    (hc : cfg.persistent=true) {proxies : List ProxyNode} (hoffered : Offered env U proxies) :
    (p.merge env cfg proxies).1.Kept env U
      (ever++(p.mergeAdded env proxies).map ProxyEntry.key) := by
  obtain ⟨hr,ht⟩ := kept_iff.mp h
  have hnext := hr.merge hc hoffered
  obtain ⟨hstate,hfailures⟩ := merge_state env cfg p proxies
  rw [h.1.merge_failures cfg hU hoffered] at hfailures
  rw [mergeLocked_pool] at hstate
  refine kept_iff.mpr ⟨hnext,Tame.of_file hnext.1.filed ?_ ?_ (.inl (merge_file env p hc proxies))⟩
  · intro h' hsome
    rw [hstate] at hsome
    obtain ⟨k,hk,heq⟩ := ht.listed h' hsome
    exact ⟨k,List.mem_append_left _ hk,heq⟩
  · intro k hk n hn
    rw [hfailures] at hn
    rw [activeKeys,hstate] at hk
    change k ∈ (p.state.proxies++p.mergeAdded env proxies).map ProxyEntry.key at hk
    rw [List.map_append] at hk
    obtain hk | hk := List.mem_append.mp hk
    · exact ht.count_le k hk n hn
    · obtain ⟨e,he,rfl⟩ := List.mem_map.mp hk
      obtain ⟨_,hne,hnr⟩ := mergeAdded_mem he
      rw [not_not.mp (fun hr' => hr.1.fresh hne hnr (hr.1.records _ hr'))] at hn
      cases hn

/-! Building a pool -/

/-- The nodes that a state file brings along. -/
def filedNodes (env : Externals) (file : StateFile) : List ProxyNode :=
  ((loadPersistedPoolState file).map (fun st => restorePersistedProxyNodes env st.available)).getD []

variable (env cfg) in
/-- A pool is built from two lists of hashes, which come from the file if they are not empty. -/
theorem built_spec (file : StateFile) (proxies : List ProxyNode) :
    ∃ (q : Pool) (nodes : List ProxyNode) (disabled : List PersistedDisabledProxy) (retired : List Str),
      withRuntimeFailurePolicyAndState env cfg proxies file=q.persistState cfg ∧ q.file=file ∧
      q.state.proxies=retainNew env q.state.retiredHashes []
        (entriesFromNodes nodes++entriesFromNodes proxies) ∧
      q.failures=restoreRecords env cfg q.state.disabledByHash q.state.proxies (fun _ => none) ∧
      q.state.disabledByHash=loadDisabled disabled ∧ q.state.retiredHashes=retired.dedup ∧
      (cfg.persistent=true → nodes=filedNodes env file) ∧
      ((disabled=[] ∧ retired=[]) ∨
        ∃ st, file = .saved st ∧ disabled=st.disabled ∧ retired=st.retired) := by
  have hload : ∀ st, loadPersistedPoolState file=some st →
      (st.disabled=[] ∧ st.retired=[]) ∨ file = .saved st := by
    intro st hst
    cases file with
    | absent =>
      cases hst
      exact .inl ⟨rfl,rfl⟩
    | unreadable => cases hst
    | saved st' =>
      rw [loadPersistedPoolState] at hst
      split_ifs at hst
      cases hst
      exact .inr rfl
  cases hst : (if cfg.persistent then loadPersistedPoolState file else none) with
  | none =>
    refine ⟨_,[],[],[],rfl,rfl,by simp only [hst]; rfl,rfl,by simp only [hst]; rfl,by simp only [hst]; rfl,
      ?_,.inl ⟨rfl,rfl⟩⟩
    intro hc
    rw [if_pos hc] at hst
    simp [filedNodes,hst]
  | some st =>
    refine ⟨_,restorePersistedProxyNodes env st.available,st.disabled,st.retired,rfl,rfl,
      by simp only [hst]; rfl,rfl,by simp only [hst]; rfl,by simp only [hst]; rfl,?_,?_⟩
    · intro hc
      rw [if_pos hc] at hst
      simp [filedNodes,hst]
    · split_ifs at hst
      exact (hload st hst).imp_right (fun h => ⟨st,h,rfl,rfl⟩)

/-- A pool that has just been built holds what passed its filter, with the listed records. -/
theorem built_restorable (hc : cfg.persistent=true) {file : StateFile} {proxies : List ProxyNode}
    (hfile : Offered env U (filedNodes env file)) (hoffered : Offered env U proxies) :
    (withRuntimeFailurePolicyAndState env cfg proxies file).Restorable env U
      (withRuntimeFailurePolicyAndState env cfg proxies file).activeKeys := by
  obtain ⟨q,nodes,disabled,retired,hq,_,hproxies,hfailures,hdisabled,_,hnodes,_⟩ :=
    built_spec env cfg file proxies
  obtain rfl := hnodes hc
  have hfiled : Filed q.state.disabledByHash := by
    rw [hdisabled]
    exact filed_loadDisabled disabled
  have hkeys : (q.persistState cfg).activeKeys=q.activeKeys := activeKeys_congr (by simp)
  rw [hq,hkeys]
  refine Linked.restorable ?_ hc
  have hmem : ∀ e ∈ q.state.proxies, (e=ProxyEntry.fromNode e.node ∧ e.node.Rebuilds env ∧ e.key ∈ U) ∧
      proxyKeyHash env e.key ∉ q.state.retiredHashes := by
    intro e he
    rw [hproxies] at he
    obtain ⟨h1,h2,_⟩ := retainNew_mem he
    refine ⟨?_,h2⟩
    obtain h1 | h1 := List.mem_append.mp h1
    · exact hfile.entries h1
    · exact hoffered.entries h1
  have hblank : Linked env U [] ⟨⟨[],q.state.retiredHashes,q.state.disabledByHash,0⟩,⟨0,[]⟩,
      fun _ => none,.absent⟩ := by
    refine ⟨?_,?_,List.nodup_nil,?_,?_,?_,?_,hfiled,?_⟩ <;> simp [activeKeys]
  refine hblank.admit q.state.proxies rfl (fun _ => Iff.rfl) hfiled ?_ (fun e he => (hmem e he).1.2.2)
    (fun e he => ⟨by simp [activeKeys],(hmem e he).2⟩) ?_ ?_ (fun e he => ⟨(hmem e he).1.1,(hmem e he).1.2.1⟩)
  · rw [hproxies]
    exact retainNew_keys_nodup _ _ _
  · intro k hk
    rw [hfailures,restoreRecords_apply] at hk
    split_ifs at hk with hin
    · exact hin
    · exact absurd rfl hk
  · intro k hk
    unfold Pool.Agrees
    rw [hfailures,restoreRecords_disabledCount _ _ hk]
    rfl

/-- What comes out of a saved pool: entries of the same keys in their order, which can be saved again. -/
structure Returned (env : Externals) (p : Pool) (restored : List ProxyEntry) : Prop where
  keys : restored.map ProxyEntry.key=p.activeKeys
  entries : ∀ e ∈ restored, e=ProxyEntry.fromNode e.node ∧ e.node.Rebuilds env

theorem Linked.returned (h : p.Linked env U ever) {st : PersistedPoolState} (hst : p.Backed env st) :
    p.Returned env (entriesFromNodes (restorePersistedProxyNodes env st.available)) := by
  have hnodes : entriesFromNodes (p.state.proxies.map ProxyEntry.node)=p.state.proxies := by
    rw [entriesFromNodes,List.map_map]
    conv_rhs => rw [← List.map_id p.state.proxies]
    exact List.map_congr_left (fun e he => (h.entries e he).1.symm)
  have hrestored := restore_persisted env (p.state.proxies.map ProxyEntry.node) (by
    intro node hn
    obtain ⟨e,he,rfl⟩ := List.mem_map.mp hn
    exact (h.entries e he).2)
  rw [hnodes,← hst.available] at hrestored
  generalize restorePersistedProxyNodes env st.available=nodes at *
  constructor
  · have hkeys : nodes.map ProxyNode.key=(p.state.proxies.map ProxyEntry.node).map ProxyNode.key := by
      symm
      exact List.forall₂_eq_eq_eq ▸ List.forall₂_map_left_iff.mpr (List.forall₂_map_right_iff.mpr
        (hrestored.imp fun node node' hn => hn.1.key.symm))
    rw [entriesFromNodes,List.map_map]
    refine Eq.trans hkeys ?_
    conv_rhs => rw [activeKeys,← hnodes,entriesFromNodes,List.map_map]
    rfl
  · intro e he
    obtain ⟨node',hn,rfl⟩ := List.mem_map.mp he
    obtain ⟨node,_,_,hrebuilds⟩ := exists_of_forall₂ hrestored hn
    exact ⟨rfl,hrebuilds⟩

/-- The constructor on the file of a linked pool: the old nodes, then those that are new. -/
theorem Linked.rebuild_state (h : p.Linked env U ever) {st : PersistedPoolState}
    (hst : p.Backed env st) (hc : cfg.persistent=true) (proxies : List ProxyNode) :
    ∃ (q : Pool) (restored added : List ProxyEntry),
      withRuntimeFailurePolicyAndState env cfg proxies p.file=q.persistState cfg ∧
      q.state.proxies=restored++added ∧ p.Returned env restored ∧ (added.map ProxyEntry.key).Nodup ∧
      (∀ e ∈ added, e ∈ entriesFromNodes proxies ∧ e.key ∉ p.activeKeys ∧
        proxyKeyHash env e.key ∉ p.state.retiredHashes) ∧
      q.state.retiredHashes=st.retired.dedup ∧ q.state.disabledByHash=loadDisabled st.disabled ∧
      q.failures=restoreRecords env cfg q.state.disabledByHash q.state.proxies (fun _ => none) := by
  have hload : loadPersistedPoolState p.file=some st := by
    rw [hst.file_eq]
    simp [loadPersistedPoolState,hst.version]
  have hreturned := h.returned hst
  have hretired : ∀ k, proxyKeyHash env k ∈ st.retired.dedup ↔
      proxyKeyHash env k ∈ p.state.retiredHashes := by
    intro k
    rw [List.mem_dedup,hst.retired]
  have hmem : ∀ k, k ∈ (entriesFromNodes (restorePersistedProxyNodes env st.available)).map ProxyEntry.key ↔
      k ∈ p.activeKeys := by
    intro k
    rw [hreturned.keys]
  obtain ⟨known,hknown,happend⟩ := retainNew_append env st.retired.dedup []
    (entriesFromNodes (restorePersistedProxyNodes env st.available)) (entriesFromNodes proxies)
    (hreturned.keys ▸ h.nodup) (fun _ _ => List.not_mem_nil) (by
      intro e he hr
      exact h.not_retired e.key ((hmem e.key).mp (List.mem_map_of_mem he)) ((hretired e.key).mp hr))
  refine ⟨_,_,retainNew env st.retired.dedup known (entriesFromNodes proxies),rfl,?_,hreturned,
    retainNew_keys_nodup _ _ _,?_,?_,?_,rfl⟩
  · simp only [hc,hload,if_true,Option.map_some,Option.getD_some]
    exact happend
  · intro e he
    obtain ⟨h1,h2,h3⟩ := retainNew_mem he
    refine ⟨h1,?_,fun hr => h2 ((hretired e.key).mpr hr)⟩
    exact fun hk => h3 ((hknown e.key).mpr (.inr ((hmem e.key).mpr hk)))
  · simp only [hc,hload,if_true,Option.map_some,Option.getD_some]
  · simp only [hc,hload,if_true,Option.map_some,Option.getD_some]

variable (cfg) in
/-- A restart keeps every active node together with its recheck count, and the retired hashes. -/
theorem Restorable.rebuild (h : p.Restorable env U ever) (hc : cfg.persistent=true)
    {proxies : List ProxyNode} (hoffered : Offered env U proxies) :
    ∃ (q : Pool) (added : List ProxyEntry),
      withRuntimeFailurePolicyAndState env cfg proxies p.file=q ∧
      q.activeKeys=p.activeKeys++added.map ProxyEntry.key ∧ q.Restorable env U (ever++added.map ProxyEntry.key) ∧
      (∀ h, h ∈ q.state.retiredHashes ↔ h ∈ p.state.retiredHashes) ∧
      (∀ k ∈ p.activeKeys, disabledCount (q.failures k)=disabledCount (p.failures k)) ∧
      (∀ e ∈ added, e ∈ entriesFromNodes proxies ∧ e.key ∉ ever) ∧
      (∀ k ∈ q.activeKeys, disabledCount (q.failures k)=q.listedCount env k) ∧
      ∀ st, p.file = .saved st → q.state.disabledByHash=loadDisabled st.disabled := by
  obtain ⟨hs,st,hst⟩ := h
  obtain ⟨q,restored,added,hq,hproxies,hreturned,hnodup,hadded,hretired,hdisabled,hfailures⟩ :=
    hs.rebuild_state hst hc proxies
  have hret : ∀ h, h ∈ q.state.retiredHashes ↔ h ∈ p.state.retiredHashes := by
    intro h'
    rw [hretired,List.mem_dedup,hst.retired]
  have hactive : q.activeKeys=p.activeKeys++added.map ProxyEntry.key := by
    rw [activeKeys,hproxies,List.map_append,hreturned.keys]
  have hrecord : ∀ k ∈ q.activeKeys, disabledCount (q.failures k)=q.listedCount env k := by
    intro k hk
    rw [hfailures]
    exact restoreRecords_disabledCount _ _ hk
  have hold : ∀ k ∈ p.activeKeys, disabledCount (q.failures k)=disabledCount (p.failures k) := by
    intro k hk
    rw [hrecord k (by rw [hactive]; exact List.mem_append_left _ hk),listedCount,hdisabled,hst.disabled k hk]
    exact (hs.agrees k hk).symm
  have hlinked : q.Linked env U (ever++added.map ProxyEntry.key) := by
    have hentries := fun e (he : e ∈ added) => hoffered.entries (hadded e he).1
    refine hs.admit added hactive hret (by rw [hdisabled]; exact filed_loadDisabled _) hnodup
      (fun e he => (hentries e he).2.2) (fun e he => (hadded e he).2) ?_ (fun k hk => hrecord k hk) ?_
    · intro k hk
      rw [hfailures,restoreRecords_apply] at hk
      split_ifs at hk with hin
      · change k ∈ q.activeKeys at hin
        rw [hactive] at hin
        exact (List.mem_append.mp hin).elim (fun hk => List.mem_append_left _ (hs.active_ever k hk))
          (List.mem_append_right _)
      · exact absurd rfl hk
    · rw [hproxies]
      intro e he
      obtain he | he := List.mem_append.mp he
      · exact hreturned.entries e he
      · exact ⟨(hentries e he).1,(hentries e he).2.1⟩
  have hkeys : (q.persistState cfg).activeKeys=q.activeKeys := activeKeys_congr (by simp)
  refine ⟨q.persistState cfg,added,hq,hkeys.trans hactive,hlinked.restorable hc,
    ?_,?_,fun e he => ⟨(hadded e he).1,hs.fresh (hadded e he).2.1 (hadded e he).2.2⟩,?_,?_⟩
  · rw [persistState_state]; exact hret
  · rw [persistState_failures]; exact hold
  · intro k
    unfold listedCount
    rw [persistState_failures,persistState_state,hkeys]
    exact hrecord k
  · intro st' hst'
    rw [hst.file_eq] at hst'
    cases hst'
    rw [persistState_state]
    exact hdisabled

variable (cfg) in
theorem Kept.rebuild (h : p.Kept env U ever) (hU : Set.InjOn (proxyKeyHash env) U)
    (hc : cfg.persistent=true) {proxies : List ProxyNode} (hoffered : Offered env U proxies) :
    ∃ (q : Pool) (added : List ProxyEntry),
      withRuntimeFailurePolicyAndState env cfg proxies p.file=q ∧
      q.activeKeys=p.activeKeys++added.map ProxyEntry.key ∧ q.Kept env U (ever++added.map ProxyEntry.key) ∧
      (∀ h, h ∈ q.state.retiredHashes ↔ h ∈ p.state.retiredHashes) ∧
      (∀ k ∈ p.activeKeys, disabledCount (q.failures k)=disabledCount (p.failures k)) ∧
      (∀ k ∈ q.activeKeys, k ∉ p.activeKeys → disabledCount (q.failures k)=none) := by
  obtain ⟨hr,ht⟩ := kept_iff.mp h
  obtain ⟨q,added,hq,hactive,hnext,hret,hold,hadded,hrecord,hdisabled⟩ := hr.rebuild cfg hc hoffered
  obtain ⟨st,hst⟩ := hr.2
  have hlisted : ∀ h', (q.state.disabledByHash.lookup h').isSome = true →
      ∃ k ∈ ever, proxyKeyHash env k = h' := by
    rw [hdisabled st hst.file_eq]
    exact ht.saved st hst.file_eq
  -- what is listed was active once, so what is new is not listed
  have hnew : ∀ k ∈ q.activeKeys, k ∉ p.activeKeys → disabledCount (q.failures k)=none := by
    intro k hk hnot
    rw [hrecord k hk,listedCount]
    cases hl : q.state.disabledByHash.lookup (proxyKeyHash env k) with
    | none => rfl
    | some d =>
      obtain ⟨k',hk',heq⟩ := hlisted (proxyKeyHash env k) (by rw [hl]; rfl)
      have hsame : k'=k := hU (h.1.ever_subset k' hk')
        (hnext.1.ever_subset k (hnext.1.active_ever k hk)) heq
      rw [hactive] at hk
      obtain ⟨e,he,rfl⟩ := List.mem_map.mp ((List.mem_append.mp hk).resolve_left hnot)
      exact absurd (hsame ▸ hk') (hadded e he).2
  refine ⟨q,added,hq,hactive,kept_iff.mpr ⟨hnext,Tame.of_file hnext.1.filed ?_ ?_ (.inl ?_)⟩,hret,hold,hnew⟩
  · intro h' hsome
    obtain ⟨k,hk,heq⟩ := hlisted h' hsome
    exact ⟨k,List.mem_append_left _ hk,heq⟩
  · intro k hk n hn
    by_cases hk' : k ∈ p.activeKeys
    · exact ht.count_le k hk' n (by rwa [← hold k hk'])
    · rw [hnew k hk hk'] at hn
      cases hn
  · rw [← hq]
    simp [withRuntimeFailurePolicyAndState,persistState,hc,persistedState]

/-! Starting -/

/-- What a pool is before it has seen any node. -/
def empty : Pool := ⟨⟨[],[],∅,0⟩,⟨0,[]⟩,fun _ => none,.saved ⟨2,[],[],[]⟩⟩

theorem empty_kept : empty.Kept env U [] := by
  refine ⟨⟨?_,?_,List.nodup_nil,?_,?_,?_,?_,?_,?_,filed_empty,?_⟩,⟨2,[],[],[]⟩,rfl,rfl,rfl,?_,?_,?_⟩
    <;> simp [empty,activeKeys,loadDisabled]

/-- With no state file a pool starts as from the file of an empty pool. -/
theorem start_absent (hc : cfg.persistent=true) (proxies : List ProxyNode) :
    withRuntimeFailurePolicyAndState env cfg proxies .absent=
      withRuntimeFailurePolicyAndState env cfg proxies empty.file := by
  simp [withRuntimeFailurePolicyAndState,loadPersistedPoolState,empty,persistState,hc,persistedState]

end Pool
end RotatorProxy.Proxy
