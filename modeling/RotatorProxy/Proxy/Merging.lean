import RotatorProxy.Proxy.Lifecycle
import RotatorProxy.Proxy.Looking
import RotatorProxy.Proxy.Stale

/-! What `merge` adds: the first of every key that is neither retired nor in the pool. A node that the
state lists as disabled is kept back until a success is reported of it. -/
namespace RotatorProxy.Proxy
open Text Library

variable {env : Externals} {cfg : PoolConfig} {p q : Pool} {key : Str}

/-! The entries -/

def ProxyEntry.sameKey (a b : ProxyEntry) : Bool := decide (a.key=b.key)

variable (env) in
/-- Neither retired nor in the pool. -/
def Pool.admits (p : Pool) (entry : ProxyEntry) : Bool :=
  decide (proxyKeyHash env entry.key ∉ p.state.retiredHashes ∧ entry.key ∉ p.activeKeys)

/-- The filter of `merge` and of the constructor keeps the first entry of every key. -/
theorem retainNew_eq (retired known : List Str) (entries : List ProxyEntry) :
    retainNew env retired known entries=
      (entries.filter (fun e => decide (proxyKeyHash env e.key ∉ retired ∧ e.key ∉ known))).eraseDupsBy
        ProxyEntry.sameKey := by
  induction entries generalizing known with
  | nil => rfl
  | cons e entries ih =>
    rw [retainNew]
    split_ifs with hr hk
    · rw [ih,List.filter_cons_of_neg (by simp [hr])]
    · rw [ih,List.filter_cons_of_neg (by simp [hk])]
    · rw [ih,List.filter_cons_of_pos (by simp [hr,hk]),List.eraseDupsBy_cons,List.filter_filter]
      congr 2
      apply List.filter_congr
      intro a _
      by_cases ha : a.key=e.key <;> simp [ProxyEntry.sameKey,ha]

/-- No key that is neither retired nor known is lost. -/
lemma retainNew_complete {retired known : List Str} {entries : List ProxyEntry} {e : ProxyEntry}
    (he : e ∈ entries) (hretired : proxyKeyHash env e.key ∉ retired) (hknown : e.key ∉ known) :
    e.key ∈ (retainNew env retired known entries).map ProxyEntry.key := by
  induction entries generalizing known with
  | nil => cases he
  | cons first entries ih =>
    rw [retainNew]
    split_ifs with hr hk
    · obtain rfl | he := List.mem_cons.mp he
      · exact absurd hr hretired
      · exact ih he hknown
    · obtain rfl | he := List.mem_cons.mp he
      · exact absurd hk hknown
      · exact ih he hknown
    · rw [List.map_cons,List.mem_cons]
      by_cases heq : e.key=first.key
      · exact .inl heq
      · obtain rfl | he := List.mem_cons.mp he
        · exact absurd rfl heq
        · exact .inr (ih he (fun hm => (List.mem_cons.mp hm).elim heq hknown))

namespace Pool
variable (env) (cfg) (p) (proxies : List ProxyNode)

theorem mergeAdded_eq : p.mergeAdded env proxies=
    ((entriesFromNodes proxies).filter (p.admits env)).eraseDupsBy ProxyEntry.sameKey :=
  retainNew_eq _ _ _

end Pool

variable (env cfg) in
/-- Every entry is either merged or counted as skipped. -/
lemma mergeEntry_counts (state : PoolState) (entries : List ProxyEntry) (loop : MergeLoop) :
    (entries.foldl (mergeEntry env cfg state) loop).merged.length+
        (entries.foldl (mergeEntry env cfg state) loop).skippedExisting+
        (entries.foldl (mergeEntry env cfg state) loop).skippedRetired=
      loop.merged.length+loop.skippedExisting+loop.skippedRetired+entries.length := by
  induction entries generalizing loop with
  | nil => rfl
  | cons e entries ih =>
    rw [List.foldl_cons,ih,List.length_cons]
    unfold mergeEntry
    split_ifs
    · dsimp only
      omega
    · dsimp only
      omega
    · dsimp only
      rw [List.length_append,List.length_singleton]
      omega

namespace Pool
variable (env) (cfg) (p) (proxies : List ProxyNode)

/-- The summary that `merge` gives. -/
theorem merge_summary {summary : PoolMergeSummary} (h : (p.merge env cfg proxies).2=summary) :
    summary.previous=p.state.proxies.length ∧ summary.added=(p.mergeAdded env proxies).length ∧
      summary.active=summary.previous+summary.added ∧
      summary.added+summary.skippedExisting+summary.skippedRetired=proxies.length := by
  have hcounts := mergeEntry_counts env cfg p.state (entriesFromNodes proxies)
    ⟨p.activeKeys,p.failures,p.state.proxies,0,0⟩
  obtain ⟨hm,_⟩ := mergeEntry_foldl env cfg p.state (entriesFromNodes proxies)
    ⟨p.activeKeys,p.failures,p.state.proxies,0,0⟩
  have hlen : (entriesFromNodes proxies).length=proxies.length := List.length_map _
  have hsecond : (p.merge env cfg proxies).2=(p.mergeLocked env cfg proxies).2.1 := rfl
  subst h
  rw [hsecond]
  unfold mergeLocked mergeAdded
  dsimp only at hm hcounts ⊢
  generalize (entriesFromNodes proxies).foldl (mergeEntry env cfg p.state)
    ⟨p.activeKeys,p.failures,p.state.proxies,0,0⟩=loop at *
  rw [hm,List.length_append] at hcounts ⊢
  split_ifs
  · dsimp only
    omega
  · dsimp only
    omega

/-- What `merge` leaves behind, apart from the file. -/
theorem merge_pool {r : Pool} (h : (p.merge env cfg proxies).1=r) :
    r.state.proxies=p.state.proxies++p.mergeAdded env proxies ∧
      r.state.retiredHashes=p.state.retiredHashes ∧
      r.failures=restoreRecords env cfg p.state.disabledByHash (p.mergeAdded env proxies) p.failures ∧
      (p.mergeAdded env proxies=[] → r.state.generation=p.state.generation ∧ r.selection=p.selection) := by
  obtain ⟨hstate,hfailures⟩ := merge_state env cfg p proxies
  have hpool := mergeLocked_pool env cfg proxies p
  have hreset := mergeLocked_reset env cfg proxies p
  rw [h] at hstate hfailures
  rw [hstate,hfailures,hpool]
  refine ⟨rfl,rfl,rfl,fun hnone => ⟨if_pos hnone,?_⟩⟩
  rw [← h]
  unfold merge
  rw [if_pos hnone] at hreset
  generalize p.mergeLocked env cfg proxies=locked at *
  obtain ⟨l,summary,reset⟩ := locked
  dsimp only at hreset
  subst hreset hpool
  unfold persistState
  dsimp only
  split_ifs <;> rfl

/-- Merged once more, the same list adds nothing: its keys are retired or in the pool by now. -/
theorem merge_again {r : Pool} (h : (p.merge env cfg proxies).1=r) : r.mergeAdded env proxies=[] := by
  obtain ⟨hproxies,hretired,_⟩ := p.merge_pool env cfg proxies h
  rw [mergeAdded_eq]
  have hnone : (entriesFromNodes proxies).filter (r.admits env)=[] := by
    apply List.filter_eq_nil_iff.mpr
    intro e he hadmits
    obtain ⟨hnr,hna⟩ := of_decide_eq_true hadmits
    rw [hretired] at hnr
    rw [activeKeys,hproxies,List.map_append,List.mem_append,not_or] at hna
    exact hna.2 (retainNew_complete he hnr hna.1)
  rw [hnone]
  rfl

end Pool

/-! Nodes that are kept back -/

/-- Marked disabled while it is in the pool, retired when it is not. -/
def Pool.Withheld (env : Externals) (key : Str) (p : Pool) : Prop :=
  (key ∈ p.activeKeys → ∃ n, disabledCount (p.failures key)=some n) ∧
    (key ∉ p.activeKeys → proxyKeyHash env key ∈ p.state.retiredHashes)

def PoolOp.isSuccess (key : Str) : PoolOp → Bool
  | .reportSuccess (.proxy entry) => decide (entry.key=key)
  | .recheckSuccess key' _ => decide (key'=key)
  | _ => false

/-- The operations after which the pool holds another list of nodes, all of them fresh. -/
def PoolOp.startsOver : PoolOp → Bool
  | .replace _ | .rebuild _ _ => true
  | _ => false

namespace Pool.Withheld

lemma of_same (h : p.Withheld env key) (hproxies : q.state.proxies=p.state.proxies)
    (hretired : q.state.retiredHashes=p.state.retiredHashes)
    (hcount : ∀ n, disabledCount (p.failures key)=some n → ∃ m, disabledCount (q.failures key)=some m) :
    q.Withheld env key := by
  have hactive : q.activeKeys=p.activeKeys := activeKeys_congr hproxies
  unfold Withheld
  rw [hactive,hretired]
  refine ⟨fun hk => ?_,h.2⟩
  obtain ⟨n,hn⟩ := h.1 hk
  exact hcount n hn

/-- Retiring one node takes no other out of the pool. -/
lemma retire (h : p.Withheld env key) (key' : Str) (persist : Bool) :
    ((p.setRecord key' none).removeAndRetire env cfg key' persist).Withheld env key := by
  obtain ⟨hstate,hfailures⟩ := removeAndRetire_state env cfg key' (p.setRecord key' none) persist
  obtain ⟨hproxies,hretired,_⟩ := removeAndRetireLocked_state env key' (p.setRecord key' none)
  have hactive : key ∈ ((p.setRecord key' none).removeAndRetire env cfg key' persist).activeKeys ↔
      key ∈ p.activeKeys ∧ key ≠ key' := by
    unfold activeKeys
    rw [hstate,hproxies]
    exact mem_keys_filter_ne
  unfold Withheld
  rw [hactive,hstate,hretired,hfailures]
  refine ⟨?_,?_⟩
  · rintro ⟨hk,hne⟩
    rw [setRecord_ne _ hne]
    exact h.1 hk
  · intro hnot
    by_cases heq : key=key'
    · subst heq
      exact List.mem_insert_self
    · exact List.mem_insert_of_mem (h.2 (fun hk => hnot ⟨hk,heq⟩))

/-- A report of another node. -/
lemma other {key' : Str} {persist : Bool} (h : p.Withheld env key) (hne : key ≠ key')
    (hq : ReportEffect env cfg persist key' p q) : q.Withheld env key := by
  cases hq with
  | nothing => exact h
  | retired => exact h.retire key' persist
  | recorded record count => exact h.of_same rfl rfl (fun n hn => ⟨n,by rwa [setRecord_ne _ hne]⟩)
  | disabled record n count few =>
    refine h.of_same ?_ ?_ (fun n hn => ⟨n,?_⟩) <;> cases persist <;>
      simp_all [persistDisabledEntryInner,insertDisabledLocked]
  | enabled =>
    refine h.of_same ?_ ?_ (fun n hn => ⟨n,?_⟩) <;> cases persist <;>
      simp_all [removePersistedDisabledInner,removeDisabledLocked]
  | enabledReset generation =>
    refine h.of_same ?_ ?_ (fun n hn => ⟨n,?_⟩) <;> cases persist <;>
      simp_all [removePersistedDisabledInner,removeDisabledLocked]

/-- A failed recheck of the node itself counts, or retires it. -/
lemma recheckFailure (h : p.Withheld env key) (persist : Bool) :
    (p.reportDisabledRecheckFailureInner env cfg key persist).1.Withheld env key := by
  unfold reportDisabledRecheckFailureInner
  obtain ⟨_,he⟩ | ⟨record,n,_,_,hnew,he⟩ := p.recheckFailureLocked_cases key
  · rw [he]
    exact h
  · rw [he]
    dsimp only
    split_ifs
    · rw [setRecord_setRecord]
      exact h.retire key persist
    · refine h.of_same ?_ ?_ (fun _ _ => ⟨n+1,?_⟩) <;> cases persist <;>
        simp_all [persistDisabledEntryInner,insertDisabledLocked]

lemma merge (h : p.Withheld env key) (proxies : List ProxyNode) :
    (p.merge env cfg proxies).1.Withheld env key := by
  obtain ⟨hproxies,hretired,hfailures,_⟩ := p.merge_pool env cfg proxies rfl
  have hadded : key ∉ (p.mergeAdded env proxies).map ProxyEntry.key := by
    intro hk
    obtain ⟨e,he,rfl⟩ := List.mem_map.mp hk
    obtain ⟨_,hna,hnr⟩ := mergeAdded_mem he
    exact hnr (h.2 hna)
  have hactive : key ∈ (p.merge env cfg proxies).1.activeKeys ↔ key ∈ p.activeKeys := by
    unfold activeKeys
    rw [hproxies,List.map_append,List.mem_append]
    exact or_iff_left hadded
  unfold Withheld
  rw [hactive,hretired,hfailures,restoreRecords_apply,if_neg hadded]
  exact h

theorem step {s t : PoolConfig × Pool} {op : PoolOp} (h : s.2.Withheld env key)
    (hsuccess : op.isSuccess key = false) (hover : op.startsOver = false) (ht : PoolOp.step env s op=some t) :
    t.2.Withheld env key := by
  cases op with
  | next now shuffles attempts =>
    cases ht
    obtain ⟨hstate,_,hcount,_⟩ := attempts.next_pool now shuffles s.2
    exact h.of_same (by rw [hstate]) (by rw [hstate]) (fun n hn => ⟨n,by rwa [hcount]⟩)
  | merge proxies =>
    cases ht
    exact h.merge proxies
  | replace proxies => cases hover
  | reportSuccess choice =>
    cases ht
    cases choice with
    | direct => exact h
    | proxy entry =>
      have hne : entry.key ≠ key := by simpa [PoolOp.isSuccess] using hsuccess
      exact h.other hne.symm (s.2.reportSuccess_does env s.1 entry).1
  | reportFailure now choice =>
    cases ht
    cases choice with
    | direct => exact h
    | proxy entry =>
      by_cases hk : key=entry.key
      · subst hk
        obtain ⟨⟨hproxies,hretired⟩,hfailures⟩ := s.2.reportFailure_effect env s.1 now entry
        refine h.of_same hproxies hretired (fun n hn => ?_)
        rw [hfailures,Function.update_self,(recordFailure_disabledCount s.1 now _).1]
        split_ifs
        · exact ⟨0,rfl⟩
        · exact ⟨n,hn⟩
      · exact h.other hk (s.2.reportFailure_does env s.1 now entry)
  | recheckSuccess key' persist =>
    cases ht
    have hne : key' ≠ key := by simpa [PoolOp.isSuccess] using hsuccess
    exact h.other hne.symm (s.2.recheckSuccess_does env s.1 key' persist).1
  | recheckFailure key' persist =>
    cases ht
    by_cases hk : key=key'
    · subst hk
      exact h.recheckFailure persist
    · exact h.other hk (s.2.recheckFailure_does env s.1 key' persist).1
  | persistState =>
    cases ht
    exact h.of_same (by simp) (by simp) (fun n hn => ⟨n,by simpa using hn⟩)
  | rebuild cfg proxies => cases hover

/-- A node that is kept back is not given out. -/
lemma not_offered (h : p.Withheld env key) {now : ℕ} {shuffles : ℕ → Shuffle} {attempts : ProxyAttempts}
    {entry : ProxyEntry} (hnext : (attempts.next now shuffles p).1=some (.proxy entry)) : entry.key ≠ key := by
  rintro rfl
  generalize hresult : attempts.next now shuffles p=result at hnext
  obtain ⟨choice,rest,r,events⟩ := result
  dsimp only at hnext
  subst hnext
  obtain ⟨hmem,⟨_,husable⟩,_⟩ := ProxyAttempts.next_found hresult
  obtain ⟨n,hn⟩ := h.1 (List.mem_map_of_mem hmem)
  obtain ⟨record,hr,hd⟩ := Option.bind_eq_some_iff.mp hn
  rw [(husable record hr).1] at hd
  cases hd

end Pool.Withheld

/-- In no run of the guarded operations does an iterator give out the key. -/
def Unoffered (env : Externals) (guard : PoolConfig × Pool → PoolOp → Prop) (key : Str)
    (s : PoolConfig × Pool) : Prop :=
  ∀ ops t, Run (PoolOp.step env) guard s ops t → ∀ now shuffles (attempts : ProxyAttempts) entry,
    (attempts.next now shuffles t.2).1=some (.proxy entry) → entry.key ≠ key

theorem Pool.Withheld.unoffered (h : p.Withheld env key) (cfg : PoolConfig) :
    Unoffered env (fun _ op => op.isSuccess key = false ∧ op.startsOver = false) key (cfg,p) := by
  intro ops t hrun now shuffles attempts entry hnext
  have ht := hrun.invariant (fun s => s.2.Withheld env key)
    (fun _ _ _ hs hg hstep => hs.step hg.1 hg.2 hstep) h
  exact ht.not_offered hnext

/-- `merge` appends, in their order, the first node of every key that is neither retired nor in the
pool. It accounts for the whole list. A node that is listed as disabled comes in with its count and is
not offered until a success, unless the pool starts over. When nothing is added the list, the generation
and the bag are as before, and the same list merged again adds nothing. -/
theorem merge_exact (env : Externals) (cfg : PoolConfig) (p : Pool) (proxies : List ProxyNode) :
    ∃ q summary, p.merge env cfg proxies=(q,summary) ∧
      q.state.proxies=p.state.proxies++
        ((entriesFromNodes proxies).filter (p.admits env)).eraseDupsBy ProxyEntry.sameKey ∧
      summary.previous=p.state.proxies.length ∧ summary.active=q.state.proxies.length ∧
      summary.added+summary.skippedExisting+summary.skippedRetired=proxies.length ∧
      summary.active=summary.previous+summary.added ∧
      (∀ entry ∈ q.state.proxies, entry.key ∉ p.activeKeys →
        ∀ d, p.state.disabledByHash.lookup (proxyKeyHash env entry.key)=some d →
          (∃ r, q.failures entry.key=some r ∧ r.disabled = true ∧
            r.disabledRecheckFailures=d.disabledRecheckFailures) ∧
          Unoffered env (fun _ op => op.isSuccess entry.key = false ∧ op.startsOver = false) entry.key (cfg,q)) ∧
      (summary.added=0 → q.state.proxies=p.state.proxies ∧ q.state.generation=p.state.generation ∧
        q.selection=p.selection) ∧
      (q.merge env cfg proxies).2.added=0 := by
  obtain ⟨hproxies,hretired,hfailures,hsame⟩ := p.merge_pool env cfg proxies rfl
  obtain ⟨hprevious,hadded,hactive,hcounts⟩ := p.merge_summary env cfg proxies rfl
  have hagain := p.merge_again env cfg proxies rfl
  generalize hq : (p.merge env cfg proxies).1=q at *
  generalize hsummary : (p.merge env cfg proxies).2=summary at *
  refine ⟨q,summary,by rw [← hq,← hsummary],?_,hprevious,?_,hcounts,hactive,?_,?_,?_⟩
  · rw [hproxies,p.mergeAdded_eq]
  · rw [hactive,hprevious,hadded,hproxies,List.length_append]
  · intro entry he hnew d hd
    have hin : entry.key ∈ (p.mergeAdded env proxies).map ProxyEntry.key := by
      rw [hproxies] at he
      obtain he | he := List.mem_append.mp he
      · exact absurd (List.mem_map_of_mem he) hnew
      · exact List.mem_map_of_mem he
    have hrecord : q.failures entry.key=some (restoredRecord cfg d) := by
      rw [hfailures,restoreRecords_apply,if_pos hin,listedRecord,hd]
      rfl
    refine ⟨⟨_,hrecord,rfl,rfl⟩,Pool.Withheld.unoffered ⟨fun _ => ⟨d.disabledRecheckFailures,?_⟩,?_⟩ cfg⟩
    · rw [hrecord]
      rfl
    · intro hnot
      exact absurd (List.mem_map_of_mem he) hnot
  · intro hnone
    have hnil : p.mergeAdded env proxies=[] := List.length_eq_zero_iff.mp (hadded ▸ hnone)
    rw [hproxies,hnil,List.append_nil]
    exact ⟨rfl,hsame hnil⟩
  · obtain ⟨_,hadded',_⟩ := q.merge_summary env cfg proxies rfl
    rw [hadded',hagain]
    rfl

/-! A state file may list a node as disabled that is not among the nodes it keeps. -/

def listedFile : StateFile := .saved ⟨2,[],[⟨proxyKeyHash sampleExternals sampleNode.key,1⟩],[]⟩

def listedPool : Pool := Pool.withRuntimeFailurePolicyAndState sampleExternals sampleConfig [] listedFile

/-- The node comes in disabled; once `replace` has swapped the list for itself it is offered, without
any success. -/
theorem offered_after_replace :
    ∃ q, (listedPool.merge sampleExternals sampleConfig [sampleNode]).1=q ∧
      q.activeKeys=[sampleNode.key] ∧ disabledCount (q.failures sampleNode.key)=some 1 ∧
      ¬Unoffered sampleExternals (fun _ op => op.isSuccess sampleNode.key = false) sampleNode.key
        (sampleConfig,q) := by
  refine ⟨_,rfl,by decide,by decide,fun h => ?_⟩
  have hrun := (.cons rfl rfl (.nil _) : Run (PoolOp.step sampleExternals)
    (fun _ op => op.isSuccess sampleNode.key = false)
    (sampleConfig,(listedPool.merge sampleExternals sampleConfig [sampleNode]).1) [.replace [sampleNode]] _)
  exact h _ _ hrun 0 (fun _ => .identity) ⟨[],1,false⟩ (.fromNode sampleNode) rfl rfl

end RotatorProxy.Proxy
