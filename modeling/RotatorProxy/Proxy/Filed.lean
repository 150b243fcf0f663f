import RotatorProxy.Proxy.Stale

/-! The state file beside the state in memory. Every operation that changes the nodes, the disabled map
or the retired hashes saves them, but for one: retiring a node that is not in the pool. -/
namespace RotatorProxy.Proxy
open Text Library

variable {env : Externals} {cfg : PoolConfig} {p q : Pool} {key : Str}

/-- The file holds what `persist_state` would write now. -/
def Pool.Projected (p : Pool) : Prop := p.file = .saved p.persistedState

/-- A recheck that fails for the last time, of a node that is not in the pool and whose hash is listed
as disabled or not retired yet. -/
def UnsavedRemoval (env : Externals) (key : Str) (p : Pool) : Prop :=
  (∃ n, disabledCount (p.failures key)=some n ∧ disabledRecheckDeleteAfterFailures ≤ n+1) ∧
    key ∉ p.activeKeys ∧ ((p.state.disabledByHash.lookup (proxyKeyHash env key)).isSome = true ∨
      proxyKeyHash env key ∉ p.state.retiredHashes)

/-- The operations that are open to every caller; the deferred rechecks are not among them. -/
def PoolOp.isPublic : PoolOp → Bool
  | .recheckSuccess _ persist | .recheckFailure _ persist => persist
  | _ => true

/-- The operations that may change what would be saved and do not save it: the deferred rechecks, and a failed recheck
that is an unsaved removal. -/
def Unsaved (env : Externals) (s : PoolConfig × Pool) (op : PoolOp) : Prop :=
  op.isPublic = false ∨ ∃ key, op = .recheckFailure key true ∧ UnsavedRemoval env key s.2

/-- Public operations on a pool with a state file, none of which is an unsaved removal. -/
def NoUnsavedRemoval (env : Externals) (s : PoolConfig × Pool) (op : PoolOp) : Prop :=
  op.isPublic = true ∧ (∀ key persist, op = .recheckFailure key persist → ¬UnsavedRemoval env key s.2) ∧
    ∀ cfg proxies, op = .rebuild cfg proxies → cfg.persistent = true

lemma Pool.persistedState_congr (h : q.state=p.state) : q.persistedState=p.persistedState := by
  unfold persistedState
  rw [h]

namespace Pool.Projected

lemma of_persisted (h : p.Projected) (hkept : q.persistedState=p.persistedState) (hfile : q.file=p.file) :
    q.Projected := by
  unfold Projected at *
  rw [hfile,hkept]
  exact h

lemma of_same (h : p.Projected) (hstate : q.state=p.state) (hfile : q.file=p.file) : q.Projected :=
  h.of_persisted (persistedState_congr hstate) hfile

lemma persistState (hc : cfg.persistent = true) (p : Pool) : (p.persistState cfg).Projected := by
  unfold Projected
  simp [Pool.persistState,hc,persistedState]

lemma built (hc : cfg.persistent = true) (proxies : List ProxyNode) (file : StateFile) :
    (Pool.withRuntimeFailurePolicyAndState env cfg proxies file).Projected :=
  persistState hc _

end Pool.Projected

/-! Retiring -/

/-- Erasing a hash leaves the values as they are only if it is not there. -/
lemma erase_values_iff (disabled : DisabledMap) (h : Str) :
    (disabled.erase h).entries.map Sigma.snd=disabled.entries.map Sigma.snd ↔ disabled.lookup h=none := by
  rw [AList.lookup_eq_none]
  constructor
  · intro hsame hmem
    obtain ⟨d,before,after,_,hentries,herased⟩ := List.exists_of_kerase hmem
    have herased : (disabled.erase h).entries=before++after := herased
    rw [herased,hentries] at hsame
    have hlength := congrArg List.length hsame
    simp only [List.length_map,List.length_append,List.length_cons] at hlength
    omega
  · intro hnot
    have hsame : (disabled.erase h).entries=disabled.entries := List.kerase_of_notMem_keys hnot
    rw [hsame]

namespace Pool

/-- Retiring a node of the pool saves the state. -/
lemma removeAndRetire_active (hc : cfg.persistent = true) (hactive : key ∈ p.activeKeys) :
    (p.removeAndRetire env cfg key true).Projected := by
  obtain ⟨_,hreset⟩ := removeAndRetireLocked_reset env key p
  have hreset := hreset hactive
  unfold removeAndRetire
  generalize p.removeAndRetireLocked env key=r at *
  obtain ⟨q,reset⟩ := r
  dsimp only at hreset
  subst hreset
  exact Projected.persistState hc _

/-- Retiring another node marks its hash and stops there. -/
lemma removeAndRetire_gone (hgone : key ∉ p.activeKeys) :
    p.removeAndRetire env cfg key true={p with
      state.disabledByHash := p.state.disabledByHash.erase (proxyKeyHash env key)
      state.retiredHashes := p.state.retiredHashes.insert (proxyKeyHash env key)} := by
  have hall : p.state.proxies.filter (fun entry => entry.key ≠ key)=p.state.proxies := by
    apply List.filter_eq_self.mpr
    intro e he
    have hne : e.key ≠ key := fun heq => hgone (heq ▸ List.mem_map_of_mem he)
    simpa using hne
  simp only [removeAndRetire,removeAndRetireLocked,hall,if_true]

/-- The marks change the projection unless they were there. -/
lemma removeAndRetire_gone_persisted (hgone : key ∉ p.activeKeys) :
    (p.removeAndRetire env cfg key true).persistedState=p.persistedState ↔
      p.state.disabledByHash.lookup (proxyKeyHash env key)=none ∧
        proxyKeyHash env key ∈ p.state.retiredHashes := by
  rw [removeAndRetire_gone hgone]
  unfold persistedState
  dsimp only
  simp only [PersistedPoolState.mk.injEq,true_and]
  rw [erase_values_iff]
  apply and_congr_right
  intro _
  constructor
  · intro hsame
    rw [← hsame]
    exact List.mem_insert_self
  · exact List.insert_of_mem

/-- They do not reach the file. -/
lemma removeAndRetire_gone_projected (h : p.Projected) (hgone : key ∉ p.activeKeys) :
    (p.removeAndRetire env cfg key true).Projected ↔
      p.state.disabledByHash.lookup (proxyKeyHash env key)=none ∧
        proxyKeyHash env key ∈ p.state.retiredHashes := by
  have hfile : (p.removeAndRetire env cfg key true).file=p.file := by rw [removeAndRetire_gone hgone]
  unfold Projected at *
  rw [hfile,h,StateFile.saved.injEq,eq_comm]
  exact removeAndRetire_gone_persisted hgone

/-- The last failed recheck of such a node is unsaved unless the marks were there. -/
lemma unsavedRemoval_gone {n : ℕ} (hn : disabledCount (p.failures key)=some n)
    (hmany : disabledRecheckDeleteAfterFailures ≤ n+1) (hgone : key ∉ p.activeKeys) :
    ¬UnsavedRemoval env key p ↔ p.state.disabledByHash.lookup (proxyKeyHash env key)=none ∧
      proxyKeyHash env key ∈ p.state.retiredHashes := by
  have hlast : ∃ n, disabledCount (p.failures key)=some n ∧ disabledRecheckDeleteAfterFailures ≤ n+1 :=
    ⟨n,hn,hmany⟩
  unfold UnsavedRemoval
  rw [Option.isSome_iff_ne_none]
  simp only [hlast,hgone,not_false_iff,true_and]
  tauto

/-- What a failed recheck leaves in the file. -/
theorem recheckFailure_projected (hc : cfg.persistent = true) (h : p.Projected) (key : Str) :
    (p.reportDisabledRecheckFailure env cfg key).1.Projected ↔ ¬UnsavedRemoval env key p := by
  obtain ⟨hn,he⟩ | ⟨record,n,_,hn,⟨hfew,he,_⟩ | ⟨hmany,he⟩⟩ := p.recheckFailure_cases env cfg key
  · rw [he]
    refine iff_of_true h ?_
    rintro ⟨⟨m,hm,_⟩,_⟩
    rw [hn] at hm
    cases hm
  · rw [he]
    refine iff_of_true (Projected.persistState hc _) ?_
    rintro ⟨⟨m,hm,hle⟩,_⟩
    rw [hn] at hm
    cases hm
    omega
  · rw [he]
    have hset : (p.setRecord key none).Projected := h
    by_cases hactive : key ∈ p.activeKeys
    · exact iff_of_true (removeAndRetire_active hc hactive) (fun hu => hu.2.1 hactive)
    · exact (removeAndRetire_gone_projected hset hactive).trans (unsavedRemoval_gone hn hmany hactive).symm

end Pool

/-! Operations -/

/-- A report from a connection leaves the state and the file alone or saves the state. -/
lemma reportSuccess_saves {cfg : PoolConfig} (hc : cfg.persistent = true) (p : Pool) (choice : ProxyChoice) :
    (p.reportSuccess env cfg choice).state=p.state ∧ (p.reportSuccess env cfg choice).file=p.file ∨
      (p.reportSuccess env cfg choice).Projected := by
  cases choice with
  | direct => exact .inl ⟨rfl,rfl⟩
  | proxy entry =>
    dsimp only [Pool.reportSuccess]
    obtain ⟨_,he⟩ | ⟨record,_,he⟩ := p.reportSuccessLocked_cases entry.key
    · rw [he]
      exact .inl ⟨rfl,rfl⟩
    · rw [he]
      dsimp only
      split_ifs
      · exact .inr (Pool.Projected.persistState hc _)
      · exact .inl ⟨rfl,rfl⟩

lemma reportFailure_saves {cfg : PoolConfig} (hc : cfg.persistent = true) (p : Pool) (now : ℕ) (choice : ProxyChoice) :
    (p.reportFailure env cfg now choice).state=p.state ∧ (p.reportFailure env cfg now choice).file=p.file ∨
      (p.reportFailure env cfg now choice).Projected := by
  cases choice with
  | direct => exact .inl ⟨rfl,rfl⟩
  | proxy entry =>
    obtain ⟨_,he⟩ | ⟨_,he⟩ := p.reportFailure_cases env cfg now entry
    · rw [he]
      exact .inr (Pool.Projected.persistState hc _)
    · rw [he]
      exact .inl ⟨rfl,rfl⟩

/-- A recheck leaves the file alone or saves the state. One that is not deferred leaves what would be saved as it is unless
it saves it, or is an unsaved removal. -/
lemma recheckSuccess_saves {cfg : PoolConfig} (hc : cfg.persistent = true) (p : Pool) (key : Str) (persist : Bool) :
    (p.reportDisabledRecheckSuccessInner env cfg key persist).1.file=p.file ∧
        (persist = true → (p.reportDisabledRecheckSuccessInner env cfg key persist).1.state=p.state) ∨
      (p.reportDisabledRecheckSuccessInner env cfg key persist).1.Projected := by
  unfold Pool.reportDisabledRecheckSuccessInner
  obtain ⟨_,he⟩ | ⟨_,he⟩ := p.recheckSuccessLocked_cases key
  · rw [he]
    exact .inl ⟨rfl,fun _ => rfl⟩
  · rw [he]
    cases persist with
    | false => exact .inl ⟨rfl,nofun⟩
    | true => exact .inr ((Pool.Projected.persistState hc _).of_same rfl rfl)

/-- A deferred one leaves it alone. -/
lemma recheckSuccess_deferred_file (cfg : PoolConfig) (p : Pool) (key : Str) :
    (p.reportDisabledRecheckSuccessInner env cfg key false).1.file=p.file := by
  unfold Pool.reportDisabledRecheckSuccessInner
  obtain ⟨_,he⟩ | ⟨_,he⟩ := p.recheckSuccessLocked_cases key
  · rw [he]
  · rw [he]
    rfl

lemma recheckFailure_deferred_file (cfg : PoolConfig) (p : Pool) (key : Str) :
    (p.reportDisabledRecheckFailureInner env cfg key false).1.file=p.file := by
  unfold Pool.reportDisabledRecheckFailureInner
  obtain ⟨_,he⟩ | ⟨record,n,_,_,_,he⟩ := p.recheckFailureLocked_cases key
  · rw [he]
  · rw [he]
    dsimp only
    split_ifs
    · rw [Pool.setRecord_setRecord]
      obtain ⟨_,_,_,_,hfile⟩ := Pool.removeAndRetireLocked_state env key (p.setRecord key none)
      unfold Pool.removeAndRetire
      generalize (p.setRecord key none).removeAndRetireLocked env key=retired at *
      obtain ⟨q,_ | generation⟩ := retired <;> exact hfile
    · rfl

lemma recheckFailure_saves {cfg : PoolConfig} (hc : cfg.persistent = true) (p : Pool) (key : Str) :
    (p.reportDisabledRecheckFailure env cfg key).1.file=p.file ∧ (UnsavedRemoval env key p ∨
        (p.reportDisabledRecheckFailure env cfg key).1.persistedState=p.persistedState) ∨
      (p.reportDisabledRecheckFailure env cfg key).1.Projected := by
  obtain ⟨_,he⟩ | ⟨record,n,_,hn,⟨_,he,_⟩ | ⟨hmany,he⟩⟩ := p.recheckFailure_cases env cfg key
  · rw [he]
    exact .inl ⟨rfl,.inr rfl⟩
  · rw [he]
    exact .inr (Pool.Projected.persistState hc _)
  · rw [he]
    dsimp only
    by_cases hactive : key ∈ p.activeKeys
    · exact .inr (Pool.removeAndRetire_active hc hactive)
    · have hgone : key ∉ (p.setRecord key none).activeKeys := hactive
      refine .inl ⟨?_,?_⟩
      · rw [Pool.removeAndRetire_gone hgone]
        rfl
      · by_cases hunsaved : UnsavedRemoval env key p
        · exact .inl hunsaved
        · exact .inr ((Pool.removeAndRetire_gone_persisted hgone).mpr
            ((Pool.unsavedRemoval_gone hn hmany hactive).mp hunsaved))

/-- Every operation saves the state that it leaves or leaves the file alone, so that there are no other steps. It then
changes nothing that would be saved, or is one of those that do not save it. -/
theorem step_saves {s t : PoolConfig × Pool} {op : PoolOp} (hc : t.1.persistent = true)
    (ht : PoolOp.step env s op=some t) :
    t.2.file=s.2.file ∧ (Unsaved env s op ∨ t.2.persistedState=s.2.persistedState) ∨ t.2.Projected := by
  cases op with
  | next now shuffles attempts =>
    cases ht
    exact .inl ⟨attempts.next_file now shuffles s.2,.inr (Pool.persistedState_congr (attempts.next_pool now shuffles s.2).1)⟩
  | merge proxies =>
    cases ht
    exact .inr (Pool.merge_file env s.2 hc proxies)
  | replace proxies | persistState | rebuild cfg proxies =>
    cases ht
    exact .inr (Pool.Projected.persistState hc _)
  | reportSuccess choice =>
    cases ht
    exact (reportSuccess_saves hc s.2 choice).imp_left fun ⟨hstate,hfile⟩ => ⟨hfile,.inr (Pool.persistedState_congr hstate)⟩
  | reportFailure now choice =>
    cases ht
    exact (reportFailure_saves hc s.2 now choice).imp_left fun ⟨hstate,hfile⟩ => ⟨hfile,.inr (Pool.persistedState_congr hstate)⟩
  | recheckSuccess key persist =>
    cases ht
    refine (recheckSuccess_saves hc s.2 key persist).imp_left fun ⟨hfile,hstate⟩ => ⟨hfile,?_⟩
    cases persist with
    | false => exact .inl (.inl rfl)
    | true => exact .inr (Pool.persistedState_congr (hstate rfl))
  | recheckFailure key persist =>
    cases ht
    cases persist with
    | false => exact .inl ⟨recheckFailure_deferred_file s.1 s.2 key,.inl (.inl rfl)⟩
    | true =>
      exact (recheckFailure_saves hc s.2 key).imp_left fun ⟨hfile,hkeeps⟩ =>
        ⟨hfile,hkeeps.imp_left fun hunsaved => .inr ⟨key,rfl,hunsaved⟩⟩

/-- Only a new start chooses whether there is a state file. -/
lemma step_persistent {s t : PoolConfig × Pool} {op : PoolOp} (hc : s.1.persistent = true)
    (hbuild : ∀ cfg proxies, op = .rebuild cfg proxies → cfg.persistent = true) (ht : PoolOp.step env s op=some t) :
    t.1.persistent = true := by
  cases op with
  | rebuild cfg proxies =>
    cases ht
    exact hbuild cfg proxies rfl
  | next | merge | replace | reportSuccess | reportFailure | recheckSuccess | recheckFailure | persistState =>
    cases ht
    exact hc

/-- A step that is no unsaved removal keeps the file up to date. -/
theorem Pool.Projected.step {s t : PoolConfig × Pool} {op : PoolOp} (hc : s.1.persistent = true)
    (h : s.2.Projected) (hg : NoUnsavedRemoval env s op) (ht : PoolOp.step env s op=some t) :
    t.1.persistent = true ∧ t.2.Projected := by
  obtain ⟨hpublic,hsaved,hbuilt⟩ := hg
  have hc := step_persistent hc hbuilt ht
  obtain ⟨hfile,hunsaved | hkept⟩ | hprojected := step_saves hc ht
  · obtain hdeferred | ⟨key,hop,hremoval⟩ := hunsaved
    · rw [hpublic] at hdeferred
      cases hdeferred
    · exact absurd hremoval (hsaved key true hop)
  · exact ⟨hc,h.of_persisted hkept hfile⟩
  · exact ⟨hc,hprojected⟩

/-! Runs -/

/-- In a run of the public operations from a pool with a state file, the file is up to date in every
state as long as no failed recheck is an unsaved removal; and the next failed recheck leaves it up to
date exactly when it is none. -/
theorem recheck_failure_filed_iff (hc : cfg.persistent = true) (proxies : List ProxyNode) (file : StateFile)
    {ops : List PoolOp} {s : PoolConfig × Pool}
    (hrun : Run (PoolOp.step env) (NoUnsavedRemoval env)
      (cfg,Pool.withRuntimeFailurePolicyAndState env cfg proxies file) ops s) :
    s.2.Projected ∧ ∀ key, (s.2.reportDisabledRecheckFailure env s.1 key).1.Projected ↔
      ¬UnsavedRemoval env key s.2 := by
  obtain ⟨hlast,hs⟩ := hrun.invariant (fun s => s.1.persistent = true ∧ s.2.Projected)
    (fun _ _ _ hs hg ht => hs.2.step hs.1 hg ht) ⟨hc,.built hc proxies file⟩
  exact ⟨hs,fun key => Pool.recheckFailure_projected hlast hs key⟩

/-! A node that `replace` has taken out of the pool fails once more through an old choice. -/

def staleOps : List PoolOp :=
  [.replace [],.reportFailure 0 (.proxy (.fromNode sampleNode)),.recheckFailure sampleNode.key true,
    .recheckFailure sampleNode.key true]

lemma noUnsavedRemoval_early {s : PoolConfig × Pool} {n : ℕ} (hn : disabledCount (s.2.failures key)=some n)
    (hfew : n+1 < disabledRecheckDeleteAfterFailures) : NoUnsavedRemoval env s (.recheckFailure key true) := by
  refine ⟨rfl,?_,fun _ _ h => by cases h⟩
  rintro k persist ⟨⟩ ⟨⟨m,hm,hle⟩,_⟩
  rw [hn] at hm
  cases hm
  omega

lemma noUnsavedRemoval_other {s : PoolConfig × Pool} {op : PoolOp} (hpublic : op.isPublic = true)
    (hre : ∀ key persist, op ≠ .recheckFailure key persist) (hbuild : ∀ cfg proxies, op ≠ .rebuild cfg proxies) :
    NoUnsavedRemoval env s op :=
  ⟨hpublic,fun k b h => absurd h (hre k b),fun c l h => absurd h (hbuild c l)⟩

/-- Its third failed recheck retires it in memory; in the file it is still disabled. -/
theorem unsaved_removal_reached :
    ∃ s, Run (PoolOp.step sampleExternals) (NoUnsavedRemoval sampleExternals)
        (sampleConfig,Pool.withRuntimeFailurePolicyAndState sampleExternals sampleConfig [sampleNode] .absent)
        staleOps s ∧
      (s.2.reportDisabledRecheckFailure sampleExternals s.1 sampleNode.key).2=.removed 3 3 ∧
      (s.2.reportDisabledRecheckFailure sampleExternals s.1 sampleNode.key).1.state.retiredHashes=
        [proxyKeyHash sampleExternals sampleNode.key] ∧
      (∃ st, (s.2.reportDisabledRecheckFailure sampleExternals s.1 sampleNode.key).1.file = .saved st ∧
        st.retired=[] ∧ st.disabled=[⟨proxyKeyHash sampleExternals sampleNode.key,2⟩]) ∧
      ¬(s.2.reportDisabledRecheckFailure sampleExternals s.1 sampleNode.key).1.Projected := by
  have hrun := (.cons rfl (noUnsavedRemoval_other rfl nofun nofun) (.cons rfl (noUnsavedRemoval_other rfl nofun nofun)
    (.cons rfl (noUnsavedRemoval_early (n := 0) rfl (by decide))
      (.cons rfl (noUnsavedRemoval_early (n := 1) rfl (by decide)) (.nil _)))) :
    Run (PoolOp.step sampleExternals) (NoUnsavedRemoval sampleExternals)
      (sampleConfig,Pool.withRuntimeFailurePolicyAndState sampleExternals sampleConfig [sampleNode] .absent)
      staleOps _)
  refine ⟨_,hrun,by decide,by decide,⟨_,rfl,by decide,by decide⟩,?_⟩
  intro hprojected
  have hfile := congrArg (fun file => match file with | .saved st => st.retired | _ => []) hprojected
  exact absurd hfile (by decide)

/-- While the node is in the pool its first failed recheck is saved. -/
theorem recheck_failure_filed_sample :
    ∃ s, Run (PoolOp.step sampleExternals) (NoUnsavedRemoval sampleExternals)
        (sampleConfig,Pool.withRuntimeFailurePolicyAndState sampleExternals sampleConfig [sampleNode] .absent)
        [.reportFailure 0 (.proxy (.fromNode sampleNode)),.recheckFailure sampleNode.key true] s ∧
      s.2.Projected ∧ disabledCount (s.2.failures sampleNode.key)=some 1 := by
  have hrun := (.cons rfl (noUnsavedRemoval_other rfl nofun nofun)
    (.cons rfl (noUnsavedRemoval_early (n := 0) rfl (by decide)) (.nil _)) :
    Run (PoolOp.step sampleExternals) (NoUnsavedRemoval sampleExternals)
      (sampleConfig,Pool.withRuntimeFailurePolicyAndState sampleExternals sampleConfig [sampleNode] .absent)
      [.reportFailure 0 (.proxy (.fromNode sampleNode)),.recheckFailure sampleNode.key true] _)
  exact ⟨_,hrun,(recheck_failure_filed_iff rfl [sampleNode] .absent hrun).1,by decide⟩

end RotatorProxy.Proxy
