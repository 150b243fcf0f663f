import RotatorProxy.Proxy.Linked

/-! What more holds of a pool that began without a state file: its disabled map lists only keys that
have been active, and no active key has failed three rechecks. -/
namespace RotatorProxy.Proxy
open Text

variable {env : Externals} {cfg : PoolConfig} {U : Set Str} {ever : List Str} {p q : Pool} {key : Str}

/-- `ever` lists the keys that have been active so far; all of them lie in `U`. -/
structure Pool.Sound (env : Externals) (U : Set Str) (ever : List Str) (p : Pool) : Prop where
  ever_subset : ∀ k ∈ ever, k ∈ U
  active_ever : ∀ k ∈ p.activeKeys, k ∈ ever
  nodup : p.activeKeys.Nodup
  not_retired : ∀ k ∈ p.activeKeys, proxyKeyHash env k ∉ p.state.retiredHashes
  gone_retired : ∀ k ∈ ever, k ∈ p.activeKeys ∨ proxyKeyHash env k ∈ p.state.retiredHashes
  records : ∀ k, p.failures k ≠ none → k ∈ ever
  listed : ∀ h, (p.state.disabledByHash.lookup h).isSome = true → ∃ k ∈ ever, proxyKeyHash env k = h
  agrees : ∀ k ∈ p.activeKeys, p.Agrees env k
  count_le : ∀ k ∈ p.activeKeys, ∀ n, disabledCount (p.failures k) = some n → n ≤ 2
  filed : Filed p.state.disabledByHash
  entries : ∀ e ∈ p.state.proxies, e=ProxyEntry.fromNode e.node ∧ e.node.Rebuilds env

/-- The state file holds `st`, from which the pool could be rebuilt. -/
structure Pool.Saved (env : Externals) (ever : List Str) (p : Pool) (st : PersistedPoolState) : Prop where
  file_eq : p.file = .saved st
  version : st.version=2
  available : st.available=p.state.proxies.filterMap persistedProxyNodeFromEntry
  retired : ∀ h, h ∈ st.retired ↔ h ∈ p.state.retiredHashes
  disabled : ∀ k ∈ p.activeKeys, (loadDisabled st.disabled).lookup (proxyKeyHash env k) =
    p.state.disabledByHash.lookup (proxyKeyHash env k)
  listed : ∀ h, ((loadDisabled st.disabled).lookup h).isSome = true → ∃ k ∈ ever, proxyKeyHash env k = h

namespace Pool

/-- The pool is sound and its file is up to date. -/
def Kept (env : Externals) (U : Set Str) (ever : List Str) (p : Pool) : Prop :=
  p.Sound env U ever ∧ ∃ st, p.Saved env ever st

theorem Sound.linked (h : p.Sound env U ever) : p.Linked env U ever :=
  ⟨h.ever_subset,h.active_ever,h.nodup,h.not_retired,h.gone_retired,h.records,h.agrees,h.filed,h.entries⟩

/-- What a sound pool has that a linked one need not have. -/
structure Tame (env : Externals) (ever : List Str) (p : Pool) : Prop where
  listed : ∀ h, (p.state.disabledByHash.lookup h).isSome = true → ∃ k ∈ ever, proxyKeyHash env k = h
  count_le : ∀ k ∈ p.activeKeys, ∀ n, disabledCount (p.failures k) = some n → n ≤ 2
  saved : ∀ st, p.file = .saved st → ∀ h, ((loadDisabled st.disabled).lookup h).isSome = true →
    ∃ k ∈ ever, proxyKeyHash env k = h

theorem kept_iff : p.Kept env U ever ↔ p.Restorable env U ever ∧ p.Tame env ever := by
  constructor
  · rintro ⟨hs,st,hst⟩
    refine ⟨⟨hs.linked,st,hst.file_eq,hst.version,hst.available,hst.retired,hst.disabled⟩,hs.listed,
      hs.count_le,?_⟩
    intro st' hfile
    rw [hst.file_eq] at hfile
    cases hfile
    exact hst.listed
  · rintro ⟨⟨h,st,hst⟩,ht⟩
    exact ⟨⟨h.ever_subset,h.active_ever,h.nodup,h.not_retired,h.gone_retired,h.records,ht.listed,h.agrees,
      ht.count_le,h.filed,h.entries⟩,st,hst.file_eq,hst.version,hst.available,hst.retired,hst.disabled,
      ht.saved st hst.file_eq⟩

/-- The file is as before or has just been written. -/
lemma Tame.of_file (hfiled : Filed q.state.disabledByHash)
    (hlisted : ∀ h, (q.state.disabledByHash.lookup h).isSome = true → ∃ k ∈ ever, proxyKeyHash env k = h)
    (hcount : ∀ k ∈ q.activeKeys, ∀ n, disabledCount (q.failures k) = some n → n ≤ 2)
    (hfile : q.file = .saved q.persistedState ∨ ∀ st, q.file = .saved st →
      ∀ h, ((loadDisabled st.disabled).lookup h).isSome = true → ∃ k ∈ ever, proxyKeyHash env k = h) :
    q.Tame env ever := by
  refine ⟨hlisted,hcount,?_⟩
  obtain hfile | hfile := hfile
  · intro st hst h hsome
    rw [hfile] at hst
    cases hst
    rw [persistedState,lookup_loadDisabled hfiled] at hsome
    exact hlisted h hsome
  · exact hfile

/-- Only the members of `ever` count. -/
lemma Kept.congr_ever {ever' : List Str} (h : p.Kept env U ever)
    (he : ∀ k, k ∈ ever' ↔ k ∈ ever) : p.Kept env U ever' := by
  obtain ⟨hr,ht⟩ := kept_iff.mp h
  have hmove : ∀ h', (∃ k ∈ ever, proxyKeyHash env k = h') → ∃ k ∈ ever', proxyKeyHash env k = h' :=
    fun h' ⟨k,hk,heq⟩ => ⟨k,(he k).mpr hk,heq⟩
  exact kept_iff.mpr ⟨hr.congr_ever he,fun h' hs => hmove h' (ht.listed h' hs),ht.count_le,
    fun st hst h' hs => hmove h' (ht.saved st hst h' hs)⟩

/-! The reports -/

/-- What a report leaves alone, and what it may bring into the map and into the file. -/
theorem report_frame (hc : cfg.persistent=true) (hq : ReportEffect env cfg true key p q) :
    (∀ k ∈ q.activeKeys, k ∈ p.activeKeys) ∧ (∀ k ≠ key, q.failures k=p.failures k) ∧
      (disabledCount (q.failures key)=disabledCount (p.failures key) ∨
        ∀ n, disabledCount (q.failures key)=some n → n ≤ 2) ∧
      (∀ h ≠ proxyKeyHash env key, q.state.disabledByHash.lookup h=p.state.disabledByHash.lookup h) ∧
      (q.file=p.file ∨ q.file = .saved q.persistedState) := by
  cases hq with
  | nothing => exact ⟨fun _ hk => hk,fun _ _ => rfl,.inl rfl,fun _ _ => rfl,.inl rfl⟩
  | recorded record count =>
    exact ⟨fun _ hk => hk,fun k hk => setRecord_ne _ hk,.inl (by rw [setRecord_self,count]),fun _ _ => rfl,
      .inl rfl⟩
  | disabled record n count few =>
    simp only [persistDisabledEntryInner,if_true,persistState,hc]
    refine ⟨fun _ hk => hk,fun k hk => setRecord_ne _ hk,.inr ?_,fun _ hh => AList.lookup_insert_ne hh,
      .inr rfl⟩
    intro m hm
    simp only [insertDisabledLocked_failures,setRecord_self,count] at hm
    cases hm
    unfold disabledRecheckDeleteAfterFailures at few
    omega
  | enabled =>
    simp only [removePersistedDisabledInner,if_true,persistState,hc]
    exact ⟨fun _ hk => hk,fun k hk => setRecord_ne _ hk,.inr (by simp),fun _ hh => AList.lookup_erase_ne hh,
      .inr rfl⟩
  | enabledReset generation =>
    simp only [removePersistedDisabledInner,if_true,persistState,hc]
    exact ⟨fun _ hk => hk,fun k hk => setRecord_ne _ hk,.inr (by simp),fun _ hh => AList.lookup_erase_ne hh,
      .inr rfl⟩
  | retired =>
    obtain ⟨hp,_,hd,hf,hfile⟩ := removeAndRetireLocked_state env key (p.setRecord key none)
    unfold removeAndRetire
    generalize (p.setRecord key none).removeAndRetireLocked env key=r at *
    obtain ⟨r,reset⟩ := r
    dsimp only at *
    have hactive : ∀ k ∈ r.activeKeys, k ∈ p.activeKeys := by
      intro k hk
      rw [activeKeys,hp] at hk
      exact (mem_keys_filter_ne.mp hk).1
    have hrest : (∀ k ≠ key, r.failures k=p.failures k) ∧ r.failures key=none := by
      rw [hf]
      exact ⟨fun k hk => setRecord_ne _ hk,setRecord_self _⟩
    have hlookup : ∀ h ≠ proxyKeyHash env key,
        r.state.disabledByHash.lookup h=p.state.disabledByHash.lookup h := by
      intro h hh
      rw [hd]
      exact AList.lookup_erase_ne hh
    cases reset with
    | none => exact ⟨hactive,hrest.1,.inr (by simp [hrest.2]),hlookup,.inl hfile⟩
    | some generation =>
      simp only [if_true,persistState,hc]
      exact ⟨hactive,hrest.1,.inr (by simp [hrest.2]),hlookup,.inr rfl⟩

/-- A report about a key that has been active. -/
theorem Kept.report (h : p.Kept env U ever) (hU : Set.InjOn (proxyKeyHash env) U)
    (hc : cfg.persistent=true) (hkey : key ∈ ever) (hq : ReportEffect env cfg true key p q) :
    q.Kept env U ever := by
  obtain ⟨hr,ht⟩ := kept_iff.mp h
  have hnext := hr.report hU hc hkey hq
  obtain ⟨hactive,hne,hself,hlookup,hfile⟩ := report_frame hc hq
  refine kept_iff.mpr ⟨hnext,Tame.of_file hnext.1.filed ?_ ?_ ?_⟩
  · intro h' hsome
    by_cases he : h'=proxyKeyHash env key
    · exact ⟨key,hkey,he.symm⟩
    · exact ht.listed h' (by rwa [← hlookup h' he])
  · intro k hk n hn
    by_cases he : k=key
    · subst he
      obtain hsame | hle := hself
      · exact ht.count_le k (hactive k hk) n (by rwa [← hsame])
      · exact hle n hn
    · exact ht.count_le k (hactive k hk) n (by rwa [← hne k he])
  · obtain hsame | hsaved := hfile
    · exact .inr (fun st hst => ht.saved st (by rwa [← hsame]))
    · exact .inl hsaved

end Pool
end RotatorProxy.Proxy
