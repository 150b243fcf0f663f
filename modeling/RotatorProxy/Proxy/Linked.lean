import RotatorProxy.Proxy.Reports

/-! The link between memory and the state file that every operation keeps, whatever file the pool
was first built from. -/
namespace RotatorProxy.Proxy
open Text

variable {env : Externals} {cfg : PoolConfig} {U : Set Str} {ever : List Str} {p q : Pool} {key : Str}

/-- `ever` lists the keys that have been active so far; all of them lie in `U`. -/
structure Pool.Linked (env : Externals) (U : Set Str) (ever : List Str) (p : Pool) : Prop where
  ever_subset : ∀ k ∈ ever, k ∈ U
  active_ever : ∀ k ∈ p.activeKeys, k ∈ ever
  nodup : p.activeKeys.Nodup
  not_retired : ∀ k ∈ p.activeKeys, proxyKeyHash env k ∉ p.state.retiredHashes
  gone_retired : ∀ k ∈ ever, k ∈ p.activeKeys ∨ proxyKeyHash env k ∈ p.state.retiredHashes
  records : ∀ k, p.failures k ≠ none → k ∈ ever
  agrees : ∀ k ∈ p.activeKeys, p.Agrees env k
  filed : Filed p.state.disabledByHash
  entries : ∀ e ∈ p.state.proxies, e=ProxyEntry.fromNode e.node ∧ e.node.Rebuilds env

/-- The state file holds `st`, which says of the active entries what the memory does. -/
structure Pool.Backed (env : Externals) (p : Pool) (st : PersistedPoolState) : Prop where
  file_eq : p.file = .saved st
  version : st.version=2
  available : st.available=p.state.proxies.filterMap persistedProxyNodeFromEntry
  retired : ∀ h, h ∈ st.retired ↔ h ∈ p.state.retiredHashes
  disabled : ∀ k ∈ p.activeKeys, (loadDisabled st.disabled).lookup (proxyKeyHash env k) =
    p.state.disabledByHash.lookup (proxyKeyHash env k)

namespace Pool

lemma activeKeys_congr (h : q.state.proxies=p.state.proxies) : q.activeKeys=p.activeKeys := by
  unfold activeKeys
  rw [h]

/-- Only the state and the failure records matter. -/
theorem Linked.congr (h : p.Linked env U ever) (hs : q.state=p.state) (hf : q.failures=p.failures) :
    q.Linked env U ever := by
  obtain ⟨ps,psel,pf,pfile⟩ := p
  obtain ⟨qs,qsel,qf,qfile⟩ := q
  subst hs
  subst hf
  exact ⟨h.1,h.2,h.3,h.4,h.5,h.6,h.7,h.8,h.9⟩

/-- Only the state and the file matter. -/
theorem Backed.congr {st : PersistedPoolState} (h : p.Backed env st) (hs : q.state=p.state)
    (hf : q.file=p.file) : q.Backed env st := by
  obtain ⟨ps,psel,pf,pfile⟩ := p
  obtain ⟨qs,qsel,qf,qfile⟩ := q
  subst hs
  subst hf
  exact ⟨h.1,h.2,h.3,h.4,h.5⟩

/-- A save writes what the pool can be rebuilt from. -/
theorem Linked.backed (h : p.Linked env U ever) (hc : cfg.persistent=true) :
    (p.persistState cfg).Backed env p.persistedState := by
  have hstate : (p.persistState cfg).state=p.state := by simp
  refine ⟨by simp [Pool.persistState,hc],rfl,?_,?_,?_⟩
  · rw [hstate]; rfl
  · intro h'
    rw [hstate]; rfl
  · intro k _
    rw [hstate]
    exact lookup_loadDisabled h.filed _

/-- Linked in memory, with a file that is up to date. -/
def Restorable (env : Externals) (U : Set Str) (ever : List Str) (p : Pool) : Prop :=
  p.Linked env U ever ∧ ∃ st, p.Backed env st

theorem Linked.restorable (h : p.Linked env U ever) (hc : cfg.persistent=true) :
    (p.persistState cfg).Restorable env U ever :=
  ⟨h.congr (by simp) (by simp),p.persistedState,h.backed hc⟩

lemma Restorable.congr (h : p.Restorable env U ever) (hs : q.state=p.state) (hf : q.failures=p.failures)
    (hfile : q.file=p.file) : q.Restorable env U ever :=
  ⟨h.1.congr hs hf,h.2.imp (fun _ hst => hst.congr hs hfile)⟩

/-- Only the members of `ever` count. -/
lemma Restorable.congr_ever {ever' : List Str} (h : p.Restorable env U ever)
    (he : ∀ k, k ∈ ever' ↔ k ∈ ever) : p.Restorable env U ever' := by
  obtain ⟨hs,hst⟩ := h
  refine ⟨⟨?_,?_,hs.nodup,hs.not_retired,?_,?_,hs.agrees,hs.filed,hs.entries⟩,hst⟩
  · exact fun k hk => hs.ever_subset k ((he k).mp hk)
  · exact fun k hk => (he k).mpr (hs.active_ever k hk)
  · exact fun k hk => hs.gone_retired k ((he k).mp hk)
  · exact fun k hk => (he k).mpr (hs.records k hk)

/-! Reports -/

lemma setRecord_ne {k : Str} (record : Option FailureRecord) (h : k ≠ key) :
    (p.setRecord key record).failures k = p.failures k := by
  simp [Function.update_of_ne h]

@[simp] lemma setRecord_self (record : Option FailureRecord) :
    (p.setRecord key record).failures key = record := by simp

/-- An operation on one key: everything else keeps its record and its place in the map. -/
theorem Linked.touch (h : p.Linked env U ever) (hU : Set.InjOn (proxyKeyHash env) U) (hkey : key ∈ ever)
    (hproxies : q.state.proxies=p.state.proxies) (hretired : q.state.retiredHashes=p.state.retiredHashes)
    (hfiled : Filed q.state.disabledByHash) (hrec : ∀ k ≠ key, q.failures k=p.failures k)
    (hlist : ∀ h ≠ proxyKeyHash env key, q.state.disabledByHash.lookup h=p.state.disabledByHash.lookup h)
    (hagree : key ∈ p.activeKeys → q.Agrees env key) : q.Linked env U ever := by
  have hactive : q.activeKeys=p.activeKeys := activeKeys_congr hproxies
  refine ⟨h.ever_subset,?_,?_,?_,?_,?_,?_,hfiled,?_⟩
  · rw [hactive]; exact h.active_ever
  · rw [hactive]; exact h.nodup
  · rw [hactive,hretired]; exact h.not_retired
  · rw [hactive,hretired]; exact h.gone_retired
  · intro k hk
    by_cases he : k=key
    · rwa [he]
    · exact h.records k (by rwa [← hrec k he])
  · rw [hactive]
    intro k hk
    by_cases he : k=key
    · subst he
      exact hagree hk
    · have hhash : proxyKeyHash env k ≠ proxyKeyHash env key := fun heq =>
        he (hU (h.ever_subset k (h.active_ever k hk)) (h.ever_subset key hkey) heq)
      unfold Pool.Agrees listedCount
      rw [hrec k he,hlist _ hhash]
      exact h.agrees k hk
  · rw [hproxies]; exact h.entries

/-- A new record with the disabled count of the old one. -/
theorem Linked.setRecord_same (h : p.Linked env U ever) (hU : Set.InjOn (proxyKeyHash env) U)
    (hkey : key ∈ ever) (record : Option FailureRecord)
    (hcount : disabledCount record = disabledCount (p.failures key)) :
    (p.setRecord key record).Linked env U ever := by
  refine h.touch hU hkey rfl rfl h.filed (fun k hk => setRecord_ne _ hk) (fun _ _ => rfl) ?_
  intro hk
  unfold Pool.Agrees
  rw [setRecord_self,hcount]
  exact h.agrees key hk

/-- A new record and the same count in the map. -/
theorem Linked.setRecord_insert (h : p.Linked env U ever) (hU : Set.InjOn (proxyKeyHash env) U)
    (hkey : key ∈ ever) (record : Option FailureRecord) (count : ℕ)
    (hcount : disabledCount record = some count) :
    ((p.setRecord key record).insertDisabledLocked env key count).Linked env U ever := by
  refine h.touch hU hkey rfl rfl (h.filed.insert ⟨proxyKeyHash env key,count⟩)
    (fun k hk => setRecord_ne _ hk) (fun _ hh => AList.lookup_insert_ne hh) ?_
  intro _
  unfold Pool.Agrees
  rw [insertDisabledLocked_listedCount]
  simpa using hcount

/-- No record, and nothing in the map. -/
theorem Linked.setRecord_remove (h : p.Linked env U ever) (hU : Set.InjOn (proxyKeyHash env) U)
    (hkey : key ∈ ever) : ((p.setRecord key none).removeDisabledLocked env key).Linked env U ever := by
  refine h.touch hU hkey rfl rfl (h.filed.erase _) (fun k hk => setRecord_ne _ hk)
    (fun _ hh => AList.lookup_erase_ne hh) ?_
  intro _
  unfold Pool.Agrees
  rw [removeDisabledLocked_listedCount]
  simp

lemma mem_keys_filter_ne {entries : List ProxyEntry} {k : Str} :
    k ∈ (entries.filter (fun e => e.key ≠ key)).map ProxyEntry.key ↔
      k ∈ entries.map ProxyEntry.key ∧ k ≠ key := by
  simp only [List.mem_map,List.mem_filter,decide_eq_true_eq]
  constructor
  · rintro ⟨e,⟨he,hne⟩,rfl⟩
    exact ⟨⟨e,he,rfl⟩,hne⟩
  · rintro ⟨⟨e,he,rfl⟩,hne⟩
    exact ⟨e,⟨he,hne⟩,rfl⟩

/-- Retiring a key that has been active. -/
theorem Linked.retire (h : p.Linked env U ever) (hU : Set.InjOn (proxyKeyHash env) U) (hkey : key ∈ ever) :
    ((p.setRecord key none).removeAndRetireLocked env key).1.Linked env U ever := by
  obtain ⟨hp,hr,hd,hf,_⟩ := removeAndRetireLocked_state env key (p.setRecord key none)
  have hactive : ∀ k, k ∈ ((p.setRecord key none).removeAndRetireLocked env key).1.activeKeys ↔
      k ∈ p.activeKeys ∧ k ≠ key := by
    intro k
    rw [activeKeys,hp]
    exact mem_keys_filter_ne
  have hhash : ∀ k ∈ p.activeKeys, k ≠ key → proxyKeyHash env k ≠ proxyKeyHash env key :=
    fun k hk hne heq => hne (hU (h.ever_subset k (h.active_ever k hk)) (h.ever_subset key hkey) heq)
  refine ⟨h.ever_subset,?_,?_,?_,?_,?_,?_,?_,?_⟩
  · exact fun k hk => h.active_ever k ((hactive k).mp hk).1
  · unfold activeKeys
    rw [hp]
    exact (List.filter_sublist.map _).nodup h.nodup
  · intro k hk
    obtain ⟨hk,hne⟩ := (hactive k).mp hk
    rw [hr]
    simp only [List.mem_insert_iff,not_or]
    exact ⟨hhash k hk hne,h.not_retired k hk⟩
  · intro k hk
    rw [hr]
    by_cases he : k=key
    · subst he
      exact .inr (by simp)
    · obtain hk | hk := h.gone_retired k hk
      · exact .inl ((hactive k).mpr ⟨hk,he⟩)
      · exact .inr (by simp [hk])
  · intro k hk
    rw [hf] at hk
    by_cases he : k=key
    · exact he ▸ hkey
    · rw [setRecord_ne _ he] at hk
      exact h.records k hk
  · intro k hk
    obtain ⟨hk,hne⟩ := (hactive k).mp hk
    unfold Pool.Agrees listedCount
    rw [hf,hd,setRecord_ne _ hne,AList.lookup_erase_ne (hhash k hk hne)]
    exact h.agrees k hk
  · rw [hd]; exact h.filed.erase _
  · intro e he
    rw [hp] at he
    exact h.entries e (List.mem_filter.mp he).1

/-- A key that is not active is retired already, so that retiring it again need not be saved. -/
theorem Restorable.retire (h : p.Restorable env U ever) (hU : Set.InjOn (proxyKeyHash env) U)
    (hc : cfg.persistent=true) (hkey : key ∈ ever) :
    ((p.setRecord key none).removeAndRetire env cfg key true).Restorable env U ever := by
  obtain ⟨hs,st,hst⟩ := h
  have hlinked := hs.retire hU hkey
  obtain ⟨hp,hr,hd,_,hfile⟩ := removeAndRetireLocked_state env key (p.setRecord key none)
  obtain ⟨hgone,hactive⟩ := removeAndRetireLocked_reset env key (p.setRecord key none)
  unfold removeAndRetire
  generalize hq : (p.setRecord key none).removeAndRetireLocked env key = q at *
  obtain ⟨q,reset⟩ := q
  dsimp only at *
  by_cases hk : key ∈ p.activeKeys
  · rw [hactive hk]
    exact Linked.restorable (hlinked.congr rfl rfl) hc
  · rw [hgone hk]
    have hold : proxyKeyHash env key ∈ p.state.retiredHashes := (hs.gone_retired key hkey).resolve_left hk
    have hsame : q.state.proxies=p.state.proxies := by
      refine hp.trans (List.filter_eq_self.mpr ?_)
      intro e he
      have hne : e.key ≠ key := fun heq => hk (heq ▸ List.mem_map_of_mem he)
      simpa using hne
    refine ⟨hlinked,st,?_⟩
    refine ⟨by rw [hfile]; exact hst.file_eq,hst.version,by rw [hsame]; exact hst.available,?_,?_⟩
    · intro h'
      rw [hr,hst.retired]
      simp only [setRecord_state,List.mem_insert_iff]
      constructor
      · exact .inr
      · rintro (rfl | h)
        · exact hold
        · exact h
    · rw [activeKeys_congr hsame,hd]
      intro k hk'
      have hne : k ≠ key := fun heq => hk (heq ▸ hk')
      have hhash : proxyKeyHash env k ≠ proxyKeyHash env key := fun heq =>
        hne (hU (hs.ever_subset k (hs.active_ever k hk')) (hs.ever_subset key hkey) heq)
      rw [AList.lookup_erase_ne hhash]
      exact hst.disabled k hk'

/-- A report about a key that has been active. -/
theorem Restorable.report (h : p.Restorable env U ever) (hU : Set.InjOn (proxyKeyHash env) U)
    (hc : cfg.persistent=true) (hkey : key ∈ ever) (hq : ReportEffect env cfg true key p q) :
    q.Restorable env U ever := by
  cases hq with
  | nothing => exact h
  | recorded record count =>
    exact ⟨h.1.setRecord_same hU hkey record count,h.2.imp (fun _ hst => hst.congr rfl rfl)⟩
  | disabled record n count => exact (h.1.setRecord_insert hU hkey record n count).restorable hc
  | enabled => exact (h.1.setRecord_remove hU hkey).restorable hc
  | enabledReset generation =>
    exact ((h.1.setRecord_remove hU hkey).restorable hc).congr rfl rfl rfl
  | retired => exact h.retire hU hc hkey

end Pool
end RotatorProxy.Proxy
