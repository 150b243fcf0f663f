import RotatorProxy.Proxy.Pool

/-! How entries come into a pool: the filter shared by the constructor and `merge`, the loop of
`merge` as an append of filtered entries, and the records restored for disabled nodes. -/
namespace RotatorProxy.Proxy
open Text

variable {env : Externals} {cfg : PoolConfig}

theorem retainNew_mem {retired known : List Str} {entries : List ProxyEntry} {entry : ProxyEntry}
    (h : entry ∈ retainNew env retired known entries) :
    entry ∈ entries ∧ proxyKeyHash env entry.key ∉ retired ∧ entry.key ∉ known := by
  induction entries generalizing known with
  | nil => cases h
  | cons e entries ih =>
    simp only [retainNew] at h
    split_ifs at h with hr hk
    · obtain ⟨h1,h2,h3⟩ := ih h
      exact ⟨List.mem_cons_of_mem _ h1,h2,h3⟩
    · obtain ⟨h1,h2,h3⟩ := ih h
      exact ⟨List.mem_cons_of_mem _ h1,h2,h3⟩
    · rcases List.mem_cons.mp h with rfl | h
      · exact ⟨List.mem_cons_self,hr,hk⟩
      · obtain ⟨h1,h2,h3⟩ := ih h
        exact ⟨List.mem_cons_of_mem _ h1,h2,fun hm => h3 (List.mem_cons_of_mem _ hm)⟩

theorem retainNew_keys_nodup (retired known : List Str) (entries : List ProxyEntry) :
    ((retainNew env retired known entries).map ProxyEntry.key).Nodup := by
  induction entries generalizing known with
  | nil => exact List.nodup_nil
  | cons e entries ih =>
    simp only [retainNew]
    split_ifs with hr hk
    · exact ih known
    · exact ih known
    · rw [List.map_cons,List.nodup_cons]
      refine ⟨?_,ih (e.key::known)⟩
      intro hm
      obtain ⟨e',he',hkey⟩ := List.mem_map.mp hm
      exact (retainNew_mem he').2.2 (hkey ▸ List.mem_cons_self)

variable (env) in
/-- Entries that are new and not retired are all kept, in their order. -/
theorem retainNew_append (retired known : List Str) (es fs : List ProxyEntry)
    (hnodup : (es.map ProxyEntry.key).Nodup) (hknown : ∀ e ∈ es, e.key ∉ known)
    (hretired : ∀ e ∈ es, proxyKeyHash env e.key ∉ retired) :
    ∃ known', (∀ k, k ∈ known' ↔ k ∈ known ∨ k ∈ es.map ProxyEntry.key) ∧
      retainNew env retired known (es++fs) = es++retainNew env retired known' fs := by
  induction es generalizing known with
  | nil => exact ⟨known,by simp,rfl⟩
  | cons e es ih =>
    rw [List.map_cons,List.nodup_cons] at hnodup
    have hk := hknown e List.mem_cons_self
    have hr := hretired e List.mem_cons_self
    have htail : ∀ e' ∈ es, e'.key ∉ e.key::known := by
      intro e' he' hm
      rcases List.mem_cons.mp hm with heq | hm
      · exact hnodup.1 (heq ▸ List.mem_map_of_mem he')
      · exact hknown e' (List.mem_cons_of_mem _ he') hm
    obtain ⟨known',hmem,heq⟩ := ih (e.key::known) hnodup.2 htail
      (fun e' he' => hretired e' (List.mem_cons_of_mem _ he'))
    refine ⟨known',?_,?_⟩
    · intro k
      rw [hmem,List.mem_cons,List.map_cons,List.mem_cons]
      tauto
    · rw [List.cons_append,retainNew,if_neg hr,if_neg hk,heq,List.cons_append]

/-- The restored record of a key, if the map lists its hash. -/
def listedRecord (env : Externals) (cfg : PoolConfig) (disabled : DisabledMap) (key : Str) :
    Option FailureRecord :=
  (disabled.lookup (proxyKeyHash env key)).map (restoredRecord cfg)

theorem restoreRecords_apply (disabled : DisabledMap) (entries : List ProxyEntry)
    (failures : FailureMap) (key : Str) :
    restoreRecords env cfg disabled entries failures key =
      if key ∈ entries.map ProxyEntry.key then
        (listedRecord env cfg disabled key).or (failures key)
      else failures key := by
  induction entries generalizing failures with
  | nil => simp [restoreRecords]
  | cons e entries ih =>
    have hstep : restoreRecords env cfg disabled (e::entries) failures =
        restoreRecords env cfg disabled entries (restoreRecord env cfg disabled failures e) := rfl
    rw [hstep,ih,restoreRecord]
    cases hl : disabled.lookup (proxyKeyHash env e.key) with
    | none =>
      by_cases hk : key=e.key
      · subst hk
        simp [listedRecord,hl]
      · simp [hk]
    | some d =>
      by_cases hk : key=e.key
      · subst hk
        simp [listedRecord,hl]
      · simp [hk]

variable (env cfg) in
/-- The loop of `merge` appends the retained entries and restores their records. -/
theorem mergeEntry_foldl (state : PoolState) (entries : List ProxyEntry) (loop : MergeLoop) :
    (entries.foldl (mergeEntry env cfg state) loop).merged =
        loop.merged++retainNew env state.retiredHashes loop.known entries ∧
      (entries.foldl (mergeEntry env cfg state) loop).failures =
        restoreRecords env cfg state.disabledByHash
          (retainNew env state.retiredHashes loop.known entries) loop.failures := by
  induction entries generalizing loop with
  | nil => simp [retainNew,restoreRecords]
  | cons e entries ih =>
    rw [List.foldl_cons]
    obtain ⟨hm,hf⟩ := ih (mergeEntry env cfg state loop e)
    rw [hm,hf]
    simp only [mergeEntry,retainNew]
    split_ifs with hr hk
    · exact ⟨rfl,rfl⟩
    · exact ⟨rfl,rfl⟩
    · refine ⟨by simp,?_⟩
      simp only [restoreRecords,List.foldl_cons]

namespace Pool
variable (env : Externals) (cfg : PoolConfig) (proxies : List ProxyNode) (p : Pool)

/-- The entries that `merge` adds. -/
def mergeAdded : List ProxyEntry :=
  retainNew env p.state.retiredHashes p.activeKeys (entriesFromNodes proxies)

/-- All that the locked section of `merge` does, but for the numbers that it gives back. -/
lemma mergeLocked_eq : ∃ summary, p.mergeLocked env cfg proxies=
    ({p with
        state.proxies := p.state.proxies++p.mergeAdded env proxies
        state.generation :=
          if p.mergeAdded env proxies=[] then p.state.generation else wrappingSucc p.state.generation
        failures := restoreRecords env cfg p.state.disabledByHash (p.mergeAdded env proxies) p.failures},summary,
      if p.mergeAdded env proxies=[] then none else some (wrappingSucc p.state.generation)) := by
  obtain ⟨hm,hf⟩ := mergeEntry_foldl env cfg p.state (entriesFromNodes proxies)
    ⟨p.activeKeys,p.failures,p.state.proxies,0,0⟩
  simp only [mergeLocked,hm,hf,List.length_append,Nat.add_sub_cancel_left]
  cases hadded : p.mergeAdded env proxies with
  | nil =>
    simp only [mergeAdded] at hadded
    simp [hadded]
  | cons e es =>
    simp only [mergeAdded] at hadded
    simp [hadded]

/-- All that the locked section of `merge` does to the pool. -/
theorem mergeLocked_pool :
    (p.mergeLocked env cfg proxies).1 =
      {p with
        state.proxies := p.state.proxies++p.mergeAdded env proxies
        state.generation :=
          if p.mergeAdded env proxies=[] then p.state.generation else wrappingSucc p.state.generation
        failures := restoreRecords env cfg p.state.disabledByHash (p.mergeAdded env proxies) p.failures} := by
  obtain ⟨_,heq⟩ := mergeLocked_eq env cfg proxies p
  exact congrArg Prod.fst heq

theorem mergeLocked_reset :
    (p.mergeLocked env cfg proxies).2.2 =
      if p.mergeAdded env proxies=[] then none else some (wrappingSucc p.state.generation) := by
  obtain ⟨_,heq⟩ := mergeLocked_eq env cfg proxies p
  exact congrArg (fun merged => merged.2.2) heq

end Pool

/-! Reading the disabled list back -/

/-- Every value of the map names the hash it is filed under. -/
def Filed (disabled : DisabledMap) : Prop := ∀ h d, disabled.lookup h = some d → d.keyHash=h

lemma filed_empty : Filed ∅ := by
  intro h d hd
  simp at hd

lemma Filed.insert {disabled : DisabledMap} (hf : Filed disabled) (d : PersistedDisabledProxy) :
    Filed (disabled.insert d.keyHash d) := by
  intro h d' hd
  by_cases heq : h=d.keyHash
  · subst heq
    rw [AList.lookup_insert] at hd
    rw [← Option.some.inj hd]
  · rw [AList.lookup_insert_ne heq] at hd
    exact hf h d' hd

lemma Filed.erase {disabled : DisabledMap} (hf : Filed disabled) (key : Str) :
    Filed (disabled.erase key) := by
  intro h d hd
  by_cases heq : h=key
  · subst heq
    simp at hd
  · rw [AList.lookup_erase_ne heq] at hd
    exact hf h d hd

lemma filed_loadDisabled (ds : List PersistedDisabledProxy) : Filed (loadDisabled ds) := by
  suffices h : ∀ m, Filed m → Filed (ds.foldl (fun m d => m.insert d.keyHash d) m) from h ∅ filed_empty
  induction ds with
  | nil => exact fun m hm => hm
  | cons d ds ih => exact fun m hm => ih _ (hm.insert d)

/-- Only hashes of the list are in the loaded map. -/
lemma mem_of_loadDisabled {ds : List PersistedDisabledProxy} {h : Str}
    (hsome : ((loadDisabled ds).lookup h).isSome = true) : ∃ d ∈ ds, d.keyHash=h := by
  suffices hfold : ∀ m : DisabledMap,
      ((ds.foldl (fun m d => m.insert d.keyHash d) m).lookup h).isSome = true →
      (m.lookup h).isSome = true ∨ ∃ d ∈ ds, d.keyHash=h from
    (hfold ∅ hsome).resolve_left (by simp)
  clear hsome
  induction ds with
  | nil => exact fun m hm => .inl hm
  | cons d ds ih =>
    intro m hm
    obtain hm | ⟨d',hd',heq⟩ := ih _ hm
    · by_cases heq : h=d.keyHash
      · exact .inr ⟨d,List.mem_cons_self,heq.symm⟩
      · exact .inl (by rwa [AList.lookup_insert_ne heq] at hm)
    · exact .inr ⟨d',List.mem_cons_of_mem _ hd',heq⟩

private lemma foldl_insert_lookup (entries : List (Sigma fun _ : Str => PersistedDisabledProxy))
    (m : DisabledMap) (h : Str) (hnodup : entries.NodupKeys) (hfiled : ∀ e ∈ entries, e.2.keyHash=e.1) :
    ((entries.map Sigma.snd).foldl (fun m d => m.insert d.keyHash d) m).lookup h =
      (entries.dlookup h).or (m.lookup h) := by
  induction entries generalizing m with
  | nil => simp
  | cons e entries ih =>
    obtain ⟨key,d⟩ := e
    have hkey : d.keyHash=key := hfiled ⟨key,d⟩ List.mem_cons_self
    subst hkey
    obtain ⟨hnot,hnodup⟩ := List.nodupKeys_cons.mp hnodup
    rw [List.map_cons,List.foldl_cons,ih _ hnodup (fun e he => hfiled e (List.mem_cons_of_mem _ he))]
    by_cases heq : h=d.keyHash
    · subst heq
      rw [List.dlookup_eq_none.mpr hnot]
      simp
    · rw [AList.lookup_insert_ne heq,List.dlookup_cons_ne _ _ heq]

/-- A saved and reloaded map has the entries it had. -/
theorem lookup_loadDisabled {disabled : DisabledMap} (hf : Filed disabled) (h : Str) :
    (loadDisabled (disabled.entries.map Sigma.snd)).lookup h = disabled.lookup h := by
  have hfiled : ∀ e ∈ disabled.entries, e.2.keyHash=e.1 := by
    intro e he
    apply hf
    exact AList.mem_lookup_iff.mpr he
  unfold loadDisabled
  rw [foldl_insert_lookup _ _ _ disabled.nodupKeys hfiled]
  simp [AList.lookup]

end RotatorProxy.Proxy
