import RotatorProxy.Library.Run
import RotatorProxy.Proxy.Admission
import RotatorProxy.Proxy.Attempts
import RotatorProxy.Proxy.Cooldown

/-! Reports about nodes that have left the pool. The records, the disabled map and the retired hashes
stay in order as long as no failure of such a node is reported; every such failure is recorded as if
the node were still there. -/
namespace RotatorProxy.Proxy
open Text Library

variable {env : Externals} {cfg : PoolConfig} {U : Set Str} {p q : Pool} {key : Str}

/-- What a failure must leave alone when its node is gone. -/
def Inert (p q : Pool) : Prop :=
  q.failures=p.failures ∧ q.state.disabledByHash=p.state.disabledByHash ∧
    q.state.retiredHashes=p.state.retiredHashes ∧ q.file=p.file

/-- A failure changes every record that is not marked disabled. -/
lemma recordFailure_ne {record : Option FailureRecord} (now : ℕ) (h : disabledCount record=none) :
    some (recordFailure cfg now record).1 ≠ record := by
  cases record with
  | none => exact fun heq => by cases heq
  | some r =>
    have hd : r.disabled = false := by
      rw [disabledCount_some] at h
      split_ifs at h with hd
      simpa using hd
    intro heq
    have hstep : FailureStep cfg now r (recordFailure cfg now (some r)).1 := recordFailure_step rfl hd
    rw [Option.some.inj heq] at hstep
    cases hstep with
    | counted few failures cooldowns disabled cooldownUntil =>
      obtain ⟨_,hnone | hcool⟩ | ⟨hnone,_⟩ := cooldownUntil
      · simp [FailureRecord.pending,hnone] at failures
      · rw [hcool.pending] at failures
        omega
      · simp [FailureRecord.pending,hnone] at failures
    | cooled many few cooldowns | disabled many few cooldowns => omega

/-- The failures of a node leave everything alone, however often reported, exactly when its record is
marked disabled already. -/
theorem reportFailures_inert_iff (p : Pool) (entry : ProxyEntry) :
    (∀ times, Inert p (p.reportFailures env cfg entry times)) ↔
      ∃ n, disabledCount (p.failures entry.key)=some n := by
  constructor
  · intro h
    rw [← Option.isSome_iff_exists,← Option.ne_none_iff_isSome]
    intro hnone
    have hrecord := congrFun (h [0]).1 entry.key
    change (p.reportFailure env cfg 0 (.proxy entry)).failures entry.key=_ at hrecord
    have hne := @recordFailure_ne cfg _ 0 hnone
    obtain ⟨_,he⟩ | ⟨_,he⟩ := p.reportFailure_cases env cfg 0 entry <;>
    · rw [he] at hrecord
      simp only [Pool.persistDisabledEntryInner,Pool.persistState_failures,
        Pool.insertDisabledLocked_failures,if_true,Pool.setRecord_failures,Function.update_self] at hrecord
      exact hne hrecord
  · rintro ⟨n,hn⟩ times
    have hone : ∀ now, p.reportFailure env cfg now (.proxy entry)=p := by
      intro now
      obtain ⟨r,hr,hdis⟩ := Option.bind_eq_some_iff.mp hn
      have hd : r.disabled = true := by
        by_contra hd
        simp [hd] at hdis
      have hsame : recordFailure cfg now (p.failures entry.key)=(r,false) := by
        simp [recordFailure,hr,hd]
      simp only [Pool.reportFailure,Pool.reportFailureLocked,hsame,Bool.false_eq_true,if_false]
      rw [← hr]
      simp [Pool.setRecord]
    induction times with
    | nil => exact ⟨rfl,rfl,rfl,rfl⟩
    | cons now times ih =>
      change Inert p (Pool.reportFailures env cfg entry (p.reportFailure env cfg now (.proxy entry)) times)
      rw [hone]
      exact ih

/-! Runs of all operations -/

/-- A step of a pool's life; `persist` is false in the deferred variants of the rechecks. -/
inductive PoolOp
  | next (now : ℕ) (shuffles : ℕ → Shuffle) (attempts : ProxyAttempts)
  | merge (proxies : List ProxyNode)
  | replace (proxies : List ProxyNode)
  | reportSuccess (choice : ProxyChoice)
  | reportFailure (now : ℕ) (choice : ProxyChoice)
  | recheckSuccess (key : Str) (persist : Bool)
  | recheckFailure (key : Str) (persist : Bool)
  | persistState
  | rebuild (cfg : PoolConfig) (proxies : List ProxyNode)

variable (env) in
def PoolOp.step (s : PoolConfig × Pool) : PoolOp → Option (PoolConfig × Pool)
  | .next now shuffles attempts => some (s.1,(attempts.next now shuffles s.2).2.2.1)
  | .merge proxies => some (s.1,(s.2.merge env s.1 proxies).1)
  | .replace proxies => some (s.1,s.2.replace s.1 proxies)
  | .reportSuccess choice => some (s.1,s.2.reportSuccess env s.1 choice)
  | .reportFailure now choice => some (s.1,s.2.reportFailure env s.1 now choice)
  | .recheckSuccess key persist => some (s.1,(s.2.reportDisabledRecheckSuccessInner env s.1 key persist).1)
  | .recheckFailure key persist => some (s.1,(s.2.reportDisabledRecheckFailureInner env s.1 key persist).1)
  | .persistState => some (s.1,s.2.persistState s.1)
  | .rebuild cfg proxies => some (cfg,Pool.withRuntimeFailurePolicyAndState env cfg proxies s.2.file)

/-- A failure is about an entry of the pool, or about a key that is marked disabled already. The keys
of all nodes that come in lie in `U`. -/
def NoStaleFailure (env : Externals) (U : Set Str) (s : PoolConfig × Pool) : PoolOp → Prop
  | .reportFailure _ (.proxy entry) =>
    entry.key ∈ s.2.activeKeys ∨ ∃ n, disabledCount (s.2.failures entry.key)=some n
  | .merge proxies | .replace proxies => ∀ node ∈ proxies, node.key ∈ U
  | .rebuild cfg proxies =>
    ∀ k ∈ (Pool.withRuntimeFailurePolicyAndState env cfg proxies s.2.file).activeKeys, k ∈ U
  | _ => True

/-- No hash is both disabled and retired, and records are about active keys. -/
structure Pool.Tidy (p : Pool) : Prop where
  apart : ∀ h, (p.state.disabledByHash.lookup h).isSome = true → h ∉ p.state.retiredHashes
  records : ∀ k, p.failures k ≠ none → k ∈ p.activeKeys

/-- A state file that lists no hash as both disabled and retired. -/
def StateFile.Apart (file : StateFile) : Prop :=
  ∀ st, file = .saved st → ∀ d ∈ st.disabled, d.keyHash ∉ st.retired

/-- What keeps a pool tidy. -/
structure Pool.Tended (env : Externals) (U : Set Str) (p : Pool) : Prop where
  tidy : p.Tidy
  known : ∀ k ∈ p.activeKeys, k ∈ U
  not_retired : ∀ k ∈ p.activeKeys, proxyKeyHash env k ∉ p.state.retiredHashes
  filed : Filed p.state.disabledByHash
  file : p.file.Apart

namespace Pool.Tended

lemma congr (h : p.Tended env U) (hs : q.state=p.state) (hf : q.failures=p.failures) (hfile : q.file=p.file) :
    q.Tended env U := by
  obtain ⟨ps,psel,pf,pfile⟩ := p
  obtain ⟨qs,qsel,qf,qfile⟩ := q
  subst hs hf hfile
  exact ⟨⟨h.1.1,h.1.2⟩,h.2,h.3,h.4,h.5⟩

lemma persistState (h : p.Tended env U) : (p.persistState cfg).Tended env U := by
  unfold Pool.persistState
  split
  · refine ⟨⟨h.1.1,h.1.2⟩,h.2,h.3,h.4,?_⟩
    intro st hst d hd
    cases hst
    obtain ⟨e,he,rfl⟩ := List.mem_map.mp hd
    have hlookup : p.state.disabledByHash.lookup e.1=some e.2 := AList.mem_lookup_iff.mpr he
    rw [h.filed e.1 e.2 hlookup]
    exact h.tidy.apart e.1 (by rw [hlookup]; rfl)
  · exact h

/-- Only the record of an active key is set. -/
lemma setRecord (h : p.Tended env U) (record : Option FailureRecord) (hkey : record=none ∨ key ∈ p.activeKeys) :
    (p.setRecord key record).Tended env U := by
  refine ⟨⟨h.1.1,?_⟩,h.2,h.3,h.4,h.5⟩
  intro k hk
  by_cases he : k=key
  · subst he
    rw [setRecord_self] at hk
    exact hkey.resolve_left hk
  · exact h.tidy.records k (by rwa [setRecord_ne _ he] at hk)

lemma insertDisabled (h : p.Tended env U) (hkey : key ∈ p.activeKeys) (n : ℕ) :
    (p.insertDisabledLocked env key n).Tended env U := by
  refine ⟨⟨?_,h.1.2⟩,h.2,h.3,h.filed.insert ⟨proxyKeyHash env key,n⟩,h.5⟩
  intro h' hsome
  by_cases he : h'=proxyKeyHash env key
  · rw [he]
    exact h.not_retired key hkey
  · exact h.tidy.apart h' (by rwa [← AList.lookup_insert_ne he])

lemma removeDisabled (h : p.Tended env U) (key : Str) : (p.removeDisabledLocked env key).Tended env U := by
  refine ⟨⟨?_,h.1.2⟩,h.2,h.3,h.filed.erase _,h.5⟩
  intro h' hsome
  change ((p.state.disabledByHash.erase _).lookup h').isSome = true at hsome
  by_cases he : h'=proxyKeyHash env key
  · rw [he,AList.lookup_erase] at hsome
    cases hsome
  · exact h.tidy.apart h' (by rwa [AList.lookup_erase_ne he] at hsome)

lemma retire (hU : Set.InjOn (proxyKeyHash env) U) (h : p.Tended env U) (hkey : key ∈ U) (persist : Bool) :
    ((p.setRecord key none).removeAndRetire env cfg key persist).Tended env U := by
  have hset : (p.setRecord key none).Tended env U := h.setRecord none (.inl rfl)
  have hlocked : ((p.setRecord key none).removeAndRetireLocked env key).1.Tended env U := by
    obtain ⟨hp,hr,hd,hf,hfile⟩ := removeAndRetireLocked_state env key (p.setRecord key none)
    have hactive : ∀ k, k ∈ ((p.setRecord key none).removeAndRetireLocked env key).1.activeKeys ↔
        k ∈ p.activeKeys ∧ k ≠ key := by
      intro k
      rw [activeKeys,hp]
      exact mem_keys_filter_ne
    refine ⟨⟨?_,?_⟩,fun k hk => h.known k ((hactive k).mp hk).1,?_,by rw [hd]; exact h.filed.erase _,
      by rw [hfile]; exact h.file⟩
    · intro h' hsome
      rw [hd] at hsome
      by_cases he : h'=proxyKeyHash env key
      · rw [he,AList.lookup_erase] at hsome
        cases hsome
      · rw [hr,List.mem_insert_iff,not_or]
        exact ⟨he,h.tidy.apart h' (by rwa [AList.lookup_erase_ne he] at hsome)⟩
    · intro k hk
      rw [hf] at hk
      refine (hactive k).mpr ⟨hset.tidy.records k hk,?_⟩
      rintro rfl
      exact hk (setRecord_self _)
    · intro k hk
      obtain ⟨hk,hne⟩ := (hactive k).mp hk
      rw [hr,List.mem_insert_iff,not_or]
      exact ⟨fun heq => hne (hU (h.known k hk) hkey heq),h.not_retired k hk⟩
  unfold removeAndRetire
  generalize (p.setRecord key none).removeAndRetireLocked env key=r at *
  obtain ⟨r,reset⟩ := r
  cases reset with
  | none => exact hlocked
  | some generation =>
    have hreset : (r.resetSelection generation).Tended env U := hlocked.congr rfl rfl rfl
    cases persist with
    | false => exact hreset
    | true => exact hreset.persistState

/-- A report about an active key. -/
lemma report (hU : Set.InjOn (proxyKeyHash env) U) (h : p.Tended env U) (hkey : key ∈ p.activeKeys)
    {persist : Bool} (hq : ReportEffect env cfg persist key p q) : q.Tended env U := by
  have hpersist : ∀ {r : Pool}, r.Tended env U → (if persist then r.persistState cfg else r).Tended env U := by
    intro r hr
    cases persist with
    | false => exact hr
    | true => exact hr.persistState
  cases hq with
  | nothing => exact h
  | recorded record count => exact h.setRecord record (.inr hkey)
  | disabled record n count => exact hpersist ((h.setRecord record (.inr hkey)).insertDisabled hkey n)
  | enabled => exact hpersist ((h.setRecord none (.inl rfl)).removeDisabled key)
  | enabledReset generation =>
    exact (hpersist ((h.setRecord none (.inl rfl)).removeDisabled key)).congr rfl rfl rfl
  | retired => exact h.retire hU (h.known key hkey) persist

lemma next (h : p.Tended env U) (attempts : ProxyAttempts) (now : ℕ) (shuffles : ℕ → Shuffle) :
    (attempts.next now shuffles p).2.2.1.Tended env U := by
  obtain ⟨hstate,hnone,_⟩ := attempts.next_pool now shuffles p
  have hfile := attempts.next_file now shuffles p
  generalize (attempts.next now shuffles p).2.2.1=q at *
  obtain ⟨⟨hapart,hrecords⟩,hknown,hret,hfiled,hf⟩ := h
  have hactive : q.activeKeys=p.activeKeys := activeKeys_congr (by rw [hstate])
  refine ⟨⟨by rw [hstate]; exact hapart,?_⟩,by rw [hactive]; exact hknown,by rw [hactive,hstate]; exact hret,
    by rw [hstate]; exact hfiled,by rw [hfile]; exact hf⟩
  intro k hk
  rw [hactive]
  exact hrecords k (fun hn => hk (hnone k hn))

lemma merge (h : p.Tended env U) {proxies : List ProxyNode} (hproxies : ∀ node ∈ proxies, node.key ∈ U) :
    (p.merge env cfg proxies).1.Tended env U := by
  have hlocked : (p.mergeLocked env cfg proxies).1.Tended env U := by
    have hpool := mergeLocked_pool env cfg proxies p
    generalize (p.mergeLocked env cfg proxies).1=q at *
    have hstate : q.state.proxies=p.state.proxies++p.mergeAdded env proxies := by rw [hpool]
    have hdisabled : q.state.disabledByHash=p.state.disabledByHash := by rw [hpool]
    have hretired : q.state.retiredHashes=p.state.retiredHashes := by rw [hpool]
    have hactive : ∀ k, k ∈ q.activeKeys ↔
        k ∈ p.activeKeys ∨ k ∈ (p.mergeAdded env proxies).map ProxyEntry.key := by
      intro k
      rw [activeKeys,hstate,List.map_append,List.mem_append]
      rfl
    refine ⟨⟨by rw [hdisabled,hretired]; exact h.tidy.apart,?_⟩,?_,?_,by rw [hdisabled]; exact h.filed,
      by rw [hpool]; exact h.file⟩
    · intro k hk
      have hfailures : q.failures=restoreRecords env cfg p.state.disabledByHash
          (p.mergeAdded env proxies) p.failures := by rw [hpool]
      rw [hfailures,restoreRecords_apply] at hk
      rw [hactive]
      split_ifs at hk with hadded
      · exact .inr hadded
      · exact .inl (h.tidy.records k hk)
    · intro k hk
      obtain hk | hk := (hactive k).mp hk
      · exact h.known k hk
      · obtain ⟨e,he,rfl⟩ := List.mem_map.mp hk
        obtain ⟨node,hn,rfl⟩ := List.mem_map.mp (mergeAdded_mem he).1
        exact hproxies node hn
    · intro k hk
      rw [hretired]
      obtain hk | hk := (hactive k).mp hk
      · exact h.not_retired k hk
      · obtain ⟨e,he,rfl⟩ := List.mem_map.mp hk
        exact (mergeAdded_mem he).2.2
  unfold Pool.merge
  generalize p.mergeLocked env cfg proxies=r at *
  obtain ⟨r,summary,reset⟩ := r
  cases reset with
  | none => exact hlocked.persistState
  | some generation =>
    have hreset : (r.resetSelection generation).Tended env U := hlocked.congr rfl rfl rfl
    exact hreset.persistState

lemma replace (h : p.Tended env U) {proxies : List ProxyNode} (hproxies : ∀ node ∈ proxies, node.key ∈ U) :
    (p.replace cfg proxies).Tended env U := by
  refine persistState ⟨⟨fun h' hsome => ?_,fun k hk => absurd rfl hk⟩,?_,fun _ _ => List.not_mem_nil,
    filed_empty,h.file⟩
  · exact List.not_mem_nil
  · intro k hk
    obtain ⟨e,he,rfl⟩ := List.mem_map.mp hk
    obtain ⟨node,hn,rfl⟩ := List.mem_map.mp he
    exact hproxies node hn

/-- A pool built from a file that keeps its two lists apart. -/
lemma built {file : StateFile} (hfile : file.Apart) {proxies : List ProxyNode}
    (hknown : ∀ k ∈ (withRuntimeFailurePolicyAndState env cfg proxies file).activeKeys, k ∈ U) :
    (withRuntimeFailurePolicyAndState env cfg proxies file).Tended env U := by
  obtain ⟨q,nodes,disabled,retired,hq,hqfile,hproxies,hfailures,hdisabled,hretired,_,hlists⟩ :=
    built_spec env cfg file proxies
  rw [hq] at hknown ⊢
  rw [show (q.persistState cfg).activeKeys=q.activeKeys from activeKeys_congr (by simp)] at hknown
  refine persistState ⟨⟨?_,?_⟩,hknown,?_,by rw [hdisabled]; exact filed_loadDisabled _,
    by rw [hqfile]; exact hfile⟩
  · intro h hsome
    rw [hdisabled] at hsome
    rw [hretired,List.mem_dedup]
    obtain ⟨d,hd,rfl⟩ := mem_of_loadDisabled hsome
    obtain ⟨_,rfl⟩ | ⟨st,hst,rfl,rfl⟩ := hlists
    · exact List.not_mem_nil
    · exact hfile st hst d hd
  · intro k hk
    rw [hfailures,restoreRecords_apply] at hk
    split_ifs at hk with hin
    · exact hin
    · exact absurd rfl hk
  · intro k hk
    obtain ⟨e,he,rfl⟩ := List.mem_map.mp hk
    rw [hproxies] at he
    exact (retainNew_mem he).2.1

theorem step (hU : Set.InjOn (proxyKeyHash env) U) {s t : PoolConfig × Pool} {op : PoolOp}
    (h : s.2.Tended env U) (hg : NoStaleFailure env U s op) (ht : op.step env s=some t) :
    t.2.Tended env U := by
  -- a report finds a record only of an active key
  have hreport : ∀ {key persist q}, ReportEffect env s.1 persist key s.2 q →
      (s.2.failures key=none → q=s.2) → q.Tended env U := by
    intro key persist q hdoes hnone
    by_cases hr : s.2.failures key=none
    · rw [hnone hr]
      exact h
    · exact h.report hU (h.tidy.records key hr) hdoes
  cases op with
  | next now shuffles attempts =>
    cases ht
    exact h.next attempts now shuffles
  | merge proxies =>
    cases ht
    exact h.merge hg
  | replace proxies =>
    cases ht
    exact h.replace hg
  | reportSuccess choice =>
    cases ht
    cases choice with
    | direct => exact h
    | proxy entry =>
      obtain ⟨hdoes,hnone⟩ := s.2.reportSuccess_does env s.1 entry
      exact hreport hdoes hnone
  | reportFailure now choice =>
    cases ht
    cases choice with
    | direct => exact h
    | proxy entry =>
      refine h.report hU ?_ (s.2.reportFailure_does env s.1 now entry)
      obtain hactive | ⟨n,hn⟩ := hg
      · exact hactive
      · exact h.tidy.records entry.key (fun hnone => by rw [hnone] at hn; cases hn)
  | recheckSuccess key persist =>
    cases ht
    obtain ⟨hdoes,hnone⟩ := Pool.recheckSuccess_does env s.1 s.2 key persist
    exact hreport hdoes hnone
  | recheckFailure key persist =>
    cases ht
    obtain ⟨hdoes,hnone⟩ := Pool.recheckFailure_does env s.1 s.2 key persist
    exact hreport hdoes hnone
  | persistState =>
    cases ht
    exact h.persistState
  | rebuild cfg proxies =>
    cases ht
    exact built h.file hg

end Pool.Tended

/-- A failure of a node that has left the pool is ignored exactly when the record of its key is
marked disabled already. In every run in which that is so, no hash is both disabled and retired, and
every record is about an active key. -/
theorem stale_failures_inert_iff (hU : NoCollision env U) {proxies : List ProxyNode} {file : StateFile}
    (hfile : file.Apart)
    (hknown : ∀ k ∈ (Pool.withRuntimeFailurePolicyAndState env cfg proxies file).activeKeys, k ∈ U) :
    (∀ (p : Pool) (entry : ProxyEntry), entry.key ∉ p.activeKeys →
      ((∀ times, Inert p (p.reportFailures env cfg entry times)) ↔
        ∃ n, disabledCount (p.failures entry.key)=some n)) ∧
    ∀ ops s, Run (PoolOp.step env) (NoStaleFailure env U)
        (cfg,Pool.withRuntimeFailurePolicyAndState env cfg proxies file) ops s → s.2.Tidy := by
  refine ⟨fun p entry _ => reportFailures_inert_iff p entry,fun ops s hrun => ?_⟩
  exact (hrun.invariant (fun s : PoolConfig × Pool => s.2.Tended env U)
    (fun s op t hs hg ht => hs.step hU.proxyKeyHash hg ht)
    (Pool.Tended.built hfile hknown)).tidy

/-! The node is disabled by its first failure and retired at the third failed recheck. -/

def sampleFailure : PoolOp := .reportFailure 0 (.proxy (.fromNode sampleNode))

def stalePool : PoolConfig × Pool :=
  (sampleConfig,Pool.withRuntimeFailurePolicyAndState sampleExternals sampleConfig [sampleNode] .absent)

/-- A failure of the node after it has been retired disables it. -/
theorem stale_failure_recorded :
    ∃ s, Run (PoolOp.step sampleExternals) (fun _ _ => True) stalePool
        [sampleFailure,.recheckFailure sampleNode.key true,.recheckFailure sampleNode.key true,
          .recheckFailure sampleNode.key true] s ∧
      sampleNode.key ∉ s.2.activeKeys ∧
      ¬Inert s.2 (s.2.reportFailures sampleExternals sampleConfig (.fromNode sampleNode) [0]) ∧
      ¬(s.2.reportFailures sampleExternals sampleConfig (.fromNode sampleNode) [0]).Tidy := by
  have hrun := (.cons rfl trivial (.cons rfl trivial (.cons rfl trivial (.cons rfl trivial (.nil _)))) :
    Run (PoolOp.step sampleExternals) (fun _ _ => True) stalePool
      [sampleFailure,.recheckFailure sampleNode.key true,.recheckFailure sampleNode.key true,
        .recheckFailure sampleNode.key true] _)
  refine ⟨_,hrun,by decide,fun h => ?_,fun h => ?_⟩
  · exact absurd (congrFun h.1 sampleNode.key) (by decide)
  · exact h.apart (proxyKeyHash sampleExternals sampleNode.key) (by decide) (by decide)

theorem stale_failures_inert_sample :
    ∃ s, Run (PoolOp.step sampleExternals) (NoStaleFailure sampleExternals {sampleNode.key}) stalePool
        [sampleFailure,.recheckFailure sampleNode.key true] s ∧
      s.2.Tidy ∧ disabledCount (s.2.failures sampleNode.key)=some 1 := by
  have hrun := (.cons rfl (.inl (by decide)) (.cons rfl trivial (.nil _)) :
    Run (PoolOp.step sampleExternals) (NoStaleFailure sampleExternals {sampleNode.key}) stalePool
      [sampleFailure,.recheckFailure sampleNode.key true] _)
  exact ⟨_,hrun,(stale_failures_inert_iff (Set.injOn_singleton _ _) (fun st hst => by cases hst)
    (by decide)).2 _ _ hrun,by decide⟩

end RotatorProxy.Proxy
