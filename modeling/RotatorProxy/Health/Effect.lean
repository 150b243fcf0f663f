import RotatorProxy.Health.Refresh
import RotatorProxy.Library.Keyed
import RotatorProxy.Proxy.Filed
import RotatorProxy.Proxy.Merging

/-! What a refresh leaves behind, node by node. The workers of the recheck may finish in any order; the pool that they
leave depends on their verdicts only. -/
namespace RotatorProxy.Health
open Text Proxy Outbound Config Library

/-! Verdicts -/

/-- The verdicts of a round under the keys of the nodes. -/
def Checks.verdicts (checks : Checks DisabledProxy) : List (Str × NodeReport) :=
  (checks.filterMap recheckReport).filterMap PoolCall.report

def Checks.verdict (checks : Checks DisabledProxy) (key : Str) : Option NodeReport := checks.verdicts.lookup key

/-- The last recheck that may fail: the node is removed. -/
def drops (record : Option FailureRecord) : NodeReport → Bool
  | .recheckFailure => (disabledCount record).any (fun n => decide (disabledRecheckDeleteAfterFailures ≤ n+1))
  | _ => false

/-- A node leaves the pool under these verdicts. -/
def dropped (verdict : Str → Option NodeReport) (p : Pool) (key : Str) : Bool :=
  (verdict key).any (drops (p.failures key))

/-- The pool after every node has met its verdict, and the nodes without one have not changed. -/
structure Judged (env : Externals) (cfg : PoolConfig) (now : ℕ) (verdict : Str → Option NodeReport) (p q : Pool) :
    Prop where
  nodes : q.state.proxies=p.state.proxies.filter (fun entry => !dropped verdict p entry.key)
  records : ∀ key, q.failures key=
    (verdict key).elim (p.failures key) (fun report => report.apply cfg now (p.failures key))
  retired : ∀ hash, hash ∈ q.state.retiredHashes ↔
    hash ∈ p.state.retiredHashes ∨ ∃ key, dropped verdict p key = true ∧ hash=proxyKeyHash env key

section
variable {env : Externals} {cfg : PoolConfig} {now : ℕ} {p q : Pool}

lemma recheckReport_deferred {check : DisabledProxy × ProxyHealthCheckResult} {call : PoolCall}
    (h : recheckReport check=some call) :
    call = .recheckSuccess check.1.key false ∨ call = .recheckFailure check.1.key false := by
  obtain ⟨disabled,result⟩ := check
  cases result with
  | healthy delay =>
    cases h
    exact .inl rfl
  | unhealthy =>
    cases h
    exact .inr rfl
  | resourceExhausted err => cases h

variable (env cfg now p) in
/-- What a deferred recheck does to the nodes and the retired hashes. -/
lemma deferred_exec {call : PoolCall} {key : Str} {report : NodeReport} (hreport : call.report=some (key,report))
    (hdeferred : call = .recheckSuccess key false ∨ call = .recheckFailure key false) :
    (call.exec env cfg now p).state.proxies=
        p.state.proxies.filter (fun entry => !(decide (entry.key=key) && drops (p.failures key) report)) ∧
      ∀ hash, hash ∈ (call.exec env cfg now p).state.retiredHashes ↔
        hash ∈ p.state.retiredHashes ∨ drops (p.failures key) report = true ∧ hash=proxyKeyHash env key := by
  have hsame : ∀ q : Pool, drops (p.failures key) report = false → q.state.proxies=p.state.proxies →
      q.state.retiredHashes=p.state.retiredHashes →
      q.state.proxies=
          p.state.proxies.filter (fun entry => !(decide (entry.key=key) && drops (p.failures key) report)) ∧
        ∀ hash, hash ∈ q.state.retiredHashes ↔
          hash ∈ p.state.retiredHashes ∨ drops (p.failures key) report = true ∧ hash=proxyKeyHash env key := by
    intro q hdrops hproxies hretired
    rw [hdrops,hproxies,hretired]
    simp
  obtain rfl | rfl := hdeferred
  · cases hreport
    obtain ⟨_,he⟩ | ⟨_,he⟩ := p.recheckSuccessLocked_cases key
    · exact hsame _ rfl (by simp [PoolCall.exec,Pool.reportDisabledRecheckSuccessInner,he])
        (by simp [PoolCall.exec,Pool.reportDisabledRecheckSuccessInner,he])
    · exact hsame _ rfl
        (by simp [PoolCall.exec,Pool.reportDisabledRecheckSuccessInner,he,Pool.removePersistedDisabledInner,
          Pool.removeDisabledLocked])
        (by simp [PoolCall.exec,Pool.reportDisabledRecheckSuccessInner,he,Pool.removePersistedDisabledInner,
          Pool.removeDisabledLocked])
  · cases hreport
    obtain ⟨hn,he⟩ | ⟨record,n,hr,hn,_,he⟩ := p.recheckFailureLocked_cases key
    · exact hsame _ (by simp [drops,hn]) (by simp [PoolCall.exec,Pool.reportDisabledRecheckFailureInner,he])
        (by simp [PoolCall.exec,Pool.reportDisabledRecheckFailureInner,he])
    · rw [← hr] at hn
      by_cases hlast : disabledRecheckDeleteAfterFailures ≤ n+1
      · -- the entry goes, and its hash is retired
        have hdrops : drops (p.failures key) .recheckFailure = true := by simp [drops,hn,hlast]
        have hexec : (PoolCall.recheckFailure key false).exec env cfg now p=
            (p.setRecord key none).removeAndRetire env cfg key false := by
          simp [PoolCall.exec,Pool.reportDisabledRecheckFailureInner,he,hlast]
        obtain ⟨hproxies,hretired,_⟩ := Pool.removeAndRetireLocked_state env key (p.setRecord key none)
        rw [hexec,(Pool.removeAndRetire_state env cfg key _ false).1,hproxies,hretired,hdrops]
        refine ⟨by simp,fun hash => ?_⟩
        rw [List.mem_insert_iff,or_comm]
        simp
      · exact hsame _ (by simp [drops,hn,hlast])
          (by simp [PoolCall.exec,Pool.reportDisabledRecheckFailureInner,he,hlast,Pool.persistDisabledEntryInner,
            Pool.insertDisabledLocked])
          (by simp [PoolCall.exec,Pool.reportDisabledRecheckFailureInner,he,hlast,Pool.persistDisabledEntryInner,
            Pool.insertDisabledLocked])

/-! A round of verdicts -/

/-- The key with the first verdict meets it before the others are judged. -/
lemma dropped_cons {key : Str} {report : NodeReport} {verdicts : List (Str × NodeReport)}
    (hnot : key ∉ verdicts.map Prod.fst) {record : Option FailureRecord}
    (hrecords : q.failures=Function.update p.failures key record) (k : Str) :
    dropped (fun k => ((key,report)::verdicts).lookup k) p k=
      (decide (k=key) && drops (p.failures key) report || dropped (fun k => verdicts.lookup k) q k) := by
  unfold dropped
  dsimp only
  by_cases hk : k=key
  · subst hk
    rw [List.lookup_cons_self,lookup_of_notMem hnot]
    simp
  · rw [lookup_cons_ne hk,hrecords,Function.update_of_ne hk,decide_eq_false hk,Bool.false_and,Bool.false_or]

def DeferredRecheck (call : PoolCall) : Prop :=
  ∃ key, call = .recheckSuccess key false ∨ call = .recheckFailure key false

lemma recheckReports_deferred {checks : Checks DisabledProxy} {call : PoolCall}
    (h : call ∈ checks.filterMap recheckReport) : DeferredRecheck call := by
  obtain ⟨check,_,hcall⟩ := List.mem_filterMap.mp h
  exact ⟨check.1.key,recheckReport_deferred hcall⟩

lemma DeferredRecheck.report {call : PoolCall} (h : DeferredRecheck call) :
    ∃ key report, call.report=some (key,report) ∧
      (call = .recheckSuccess key false ∨ call = .recheckFailure key false) := by
  obtain ⟨key,rfl | rfl⟩ := h
  · exact ⟨key,_,rfl,.inl rfl⟩
  · exact ⟨key,_,rfl,.inr rfl⟩

variable (env cfg now) in
lemma calls_failures {calls : List PoolCall} (hdeferred : ∀ call ∈ calls, DeferredRecheck call) (p : Pool) :
    (calls.foldl (PoolCall.exec env cfg now) p).failures=
      actAll (fun report record => report.apply cfg now record) p.failures (calls.filterMap PoolCall.report) := by
  induction calls generalizing p with
  | nil => rfl
  | cons call calls ih =>
    obtain ⟨key,report,hreport,_⟩ := (hdeferred call List.mem_cons_self).report
    rw [List.foldl_cons,ih (fun call hmem => hdeferred call (List.mem_cons_of_mem _ hmem)),
      call.exec_failures env cfg now p hreport,List.filterMap_cons_some hreport]
    rfl

variable (env cfg now) in
/-- Rechecks of different nodes, one after the other -/
theorem judged_calls {calls : List PoolCall} (hdeferred : ∀ call ∈ calls, DeferredRecheck call)
    (hnodup : ((calls.filterMap PoolCall.report).map Prod.fst).Nodup) (p : Pool) :
    Judged env cfg now (fun key => (calls.filterMap PoolCall.report).lookup key) p
      (calls.foldl (PoolCall.exec env cfg now) p) := by
  have hrecords : ∀ key, (calls.foldl (PoolCall.exec env cfg now) p).failures key=
      ((calls.filterMap PoolCall.report).lookup key).elim (p.failures key)
        (fun report => report.apply cfg now (p.failures key)) := by
    intro key
    rw [calls_failures env cfg now hdeferred p]
    exact actAll_apply _ _ hnodup key
  suffices hnodes : (calls.foldl (PoolCall.exec env cfg now) p).state.proxies=p.state.proxies.filter
        (fun entry => !dropped (fun key => (calls.filterMap PoolCall.report).lookup key) p entry.key) ∧
      ∀ hash, hash ∈ (calls.foldl (PoolCall.exec env cfg now) p).state.retiredHashes ↔
        hash ∈ p.state.retiredHashes ∨
          ∃ key, dropped (fun key => (calls.filterMap PoolCall.report).lookup key) p key = true ∧
            hash=proxyKeyHash env key from
    ⟨hnodes.1,hrecords,hnodes.2⟩
  clear hrecords
  induction calls generalizing p with
  | nil => simp [dropped]
  | cons call calls ih =>
    obtain ⟨key,report,hreport,hcall⟩ := (hdeferred call List.mem_cons_self).report
    rw [List.filterMap_cons_some hreport] at hnodup ⊢
    obtain ⟨hnot,hrest⟩ := List.nodup_cons.mp hnodup
    have hfirst := call.exec_failures env cfg now p hreport
    obtain ⟨hproxies,hretired⟩ := deferred_exec env cfg now p hreport hcall
    obtain ⟨hlater,hlaterRetired⟩ :=
      ih (fun call hmem => hdeferred call (List.mem_cons_of_mem _ hmem)) hrest (call.exec env cfg now p)
    rw [List.foldl_cons,hlater,hproxies,List.filter_filter]
    refine ⟨List.filter_congr fun entry _ => ?_,fun hash => ?_⟩
    · rw [dropped_cons hnot hfirst entry.key,Bool.not_or,Bool.and_comm]
    · rw [hlaterRetired,hretired,or_assoc]
      apply or_congr_right
      simp only [dropped_cons hnot hfirst,Bool.or_eq_true,Bool.and_eq_true,decide_eq_true_eq]
      constructor
      · rintro (⟨hdrops,rfl⟩ | ⟨k,hk,rfl⟩)
        · exact ⟨key,.inl ⟨rfl,hdrops⟩,rfl⟩
        · exact ⟨k,.inr hk,rfl⟩
      · rintro ⟨k,⟨rfl,hdrops⟩ | hk,rfl⟩
        · exact .inl ⟨hdrops,rfl⟩
        · exact .inr ⟨k,hk,rfl⟩

end

/-! The nodes of a round -/

lemma mem_disabledProxies {pool : Pool} {disabled : DisabledProxy} (h : disabled ∈ disabledProxies pool) :
    disabled.key ∈ pool.activeKeys ∧ ∃ n, disabledCount (pool.failures disabled.key)=some n := by
  obtain ⟨entry,hentry,hsome⟩ := List.mem_filterMap.mp h
  obtain ⟨record,hrecord,hif⟩ := Option.bind_eq_some_iff.mp hsome
  split_ifs at hif with hd
  cases hif
  exact ⟨List.mem_map_of_mem hentry,record.disabledRecheckFailures,by simp [hrecord,hd]⟩

lemma disabledProxies_complete {pool : Pool} {key : Str} (hactive : key ∈ pool.activeKeys) {n : ℕ}
    (hcount : disabledCount (pool.failures key)=some n) : ∃ disabled ∈ disabledProxies pool, disabled.key=key := by
  obtain ⟨entry,hentry,rfl⟩ := List.mem_map.mp hactive
  obtain ⟨record,hrecord,hif⟩ := Option.bind_eq_some_iff.mp hcount
  split_ifs at hif with hd
  exact ⟨⟨entry.key,entry.label,entry.node⟩,List.mem_filterMap.mpr ⟨entry,hentry,by simp [hrecord,hd]⟩,rfl⟩

lemma verdicts_keys (checks : Checks DisabledProxy) :
    checks.verdicts.map Prod.fst=checks.completed.map DisabledProxy.key := by
  have hkeys : ∀ calls : List PoolCall, (∀ call ∈ calls, DeferredRecheck call) →
      (calls.filterMap PoolCall.report).map (fun verdict => some verdict.1)=calls.map reportedKey := by
    intro calls hdeferred
    induction calls with
    | nil => rfl
    | cons call calls ih =>
      obtain ⟨key,report,hreport,_⟩ := (hdeferred call List.mem_cons_self).report
      rw [List.filterMap_cons_some hreport,List.map_cons,List.map_cons,
        ih (fun call hmem => hdeferred call (List.mem_cons_of_mem _ hmem)),reportedKey,hreport]
      rfl
  have hsame := hkeys (checks.filterMap recheckReport) (fun call hmem => recheckReports_deferred hmem)
  rw [reports_keys] at hsame
  apply List.map_injective_iff.mpr (Option.some_injective Str)
  rw [List.map_map,List.map_map]
  exact hsame

lemma RoundCall.foldl_report (env : Externals) (cfg : PoolConfig) (now : ℕ) (calls : List PoolCall) (p : Pool) :
    (calls.map RoundCall.report).foldl (RoundCall.exec env cfg now) p=calls.foldl (PoolCall.exec env cfg now) p :=
  List.foldl_map

lemma merge_nodup {env : Externals} {cfg : PoolConfig} {p : Pool} (h : p.activeKeys.Nodup) (proxies : List ProxyNode) :
    (p.merge env cfg proxies).1.activeKeys.Nodup := by
  obtain ⟨hproxies,_⟩ := p.merge_pool env cfg proxies rfl
  unfold Pool.activeKeys
  rw [hproxies,List.map_append]
  refine List.Nodup.append h (retainNew_keys_nodup _ _ _) fun key hold hnew => ?_
  obtain ⟨entry,hentry,rfl⟩ := List.mem_map.mp hnew
  exact (Pool.mergeAdded_mem hentry).2.1 hold

section
variable {ext : TargetExternals} {libc : Libc} {env : Externals} {cfg : PoolConfig} {now : ℕ} {config : HealthConfig}
  {p left : Pool} {checks : Checks DisabledProxy} {calls : List RoundCall}

/-- A round asks nothing of the pool, or reports its verdicts and then saves the state. -/
lemma recheck_calls (h : RecheckDisabledProxies ext libc config p checks calls) :
    calls=[] ∧ checks.filterMap recheckReport=[] ∨
      calls=(checks.filterMap recheckReport).map .report++[.persistState] := by
  cases htarget : HealthCheckTarget.fromConfig ext config with
  | ok target =>
    cases h with
    | nothing hempty => exact .inl ⟨rfl,rfl⟩
    | invalid => exact .inl ⟨rfl,rfl⟩
    | round hnonempty hvalid hrun hsaved =>
      obtain ⟨hcalls,_⟩ := recheck_reported_once htarget (.round hnonempty hvalid hrun hsaved)
      rw [if_neg hnonempty] at hcalls
      exact .inr hcalls
  | error err =>
    cases h with
    | nothing | invalid => exact .inl ⟨rfl,rfl⟩
    | round _ hvalid =>
      rw [htarget] at hvalid
      cases hvalid

/-- No node has two verdicts, and only disabled nodes have one. -/
lemma verdicts_of_disabled (hkeys : p.activeKeys.Nodup) (h : RecheckDisabledProxies ext libc config p checks calls) :
    (checks.verdicts.map Prod.fst).Nodup ∧
      ∀ key ∈ checks.verdicts.map Prod.fst, ∃ disabled ∈ disabledProxies p, disabled.key=key := by
  cases htarget : HealthCheckTarget.fromConfig ext config with
  | ok target =>
    obtain ⟨_,rest,hperm,_⟩ := recheck_reported_once htarget h
    rw [verdicts_keys]
    constructor
    · have hall : ((checks.completed++rest).map DisabledProxy.key).Nodup :=
        (hperm.map _).nodup_iff.mpr (hkeys.sublist (disabledProxies_keys p))
      rw [List.map_append] at hall
      exact hall.of_append_left
    · intro key hmem
      obtain ⟨disabled,hdisabled,rfl⟩ := List.mem_map.mp hmem
      exact ⟨disabled,hperm.mem_iff.mp (List.mem_append_left _ hdisabled),rfl⟩
  | error err =>
    cases h with
    | nothing | invalid => exact ⟨.nil,fun _ hmem => by cases hmem⟩
    | round _ hvalid =>
      rw [htarget] at hvalid
      cases hvalid

/-- A round that comes to an end has judged the pool. -/
lemma recheck_judges (env : Externals) (cfg : PoolConfig) (now : ℕ) (hkeys : p.activeKeys.Nodup)
    (h : RecheckDisabledProxies ext libc config p checks calls) :
    Judged env cfg now checks.verdict p (calls.foldl (RoundCall.exec env cfg now) p) := by
  have hjudged := judged_calls env cfg now (fun call hmem => recheckReports_deferred hmem)
    (verdicts_of_disabled hkeys h).1 p
  obtain ⟨rfl,hnone⟩ | rfl := recheck_calls h
  · rw [hnone] at hjudged
    unfold Checks.verdict Checks.verdicts
    rw [hnone]
    exact hjudged
  · rw [List.foldl_append,RoundCall.foldl_report]
    change Judged env cfg now checks.verdict p
      ((checks.filterMap recheckReport).foldl (PoolCall.exec env cfg now) p |>.persistState cfg)
    refine ⟨?_,?_,?_⟩
    · rw [Pool.persistState_state]
      exact hjudged.nodes
    · rw [Pool.persistState_failures]
      exact hjudged.records
    · rw [Pool.persistState_state]
      exact hjudged.retired

end

/-- A refresh merges the nodes that it has selected and then judges the disabled ones. A node keeps its record or has it
from its own verdict, and only a last failed recheck takes it out and retires its hash. Every disabled node has a verdict
where a target can be made and no check reports exhaustion. Another schedule of the workers with the same verdicts leaves
the same nodes, records and retired hashes. The state file is up to date at the end. -/
theorem refresh_judges (ext : TargetExternals) (libc : Libc) (env : Externals) (cfg : PoolConfig) (now : ℕ)
    (config : HealthConfig) {p left : Pool} {prepared : PreparedProxyRefresh} {summary : RefreshSummary}
    (hkeys : p.activeKeys.Nodup)
    (hrefresh : ApplyPreparedProxyRefresh ext libc env cfg now config p prepared (.ok summary) left) :
    ∃ active checks calls merged, SelectActiveProxies ext libc config prepared.candidates (.ok active) ∧
      merged=(p.merge env cfg active).1 ∧ RecheckDisabledProxies ext libc config merged checks calls ∧
      Judged env cfg now checks.verdict merged left ∧
      (∀ key report, checks.verdict key=some report → key ∈ merged.activeKeys ∧
        (∃ n, disabledCount (merged.failures key)=some n) ∧ (report = .recheckSuccess ∨ report = .recheckFailure)) ∧
      ((∃ target, HealthCheckTarget.fromConfig ext config = .ok target) → ¬checks.exhausted →
        ∀ key ∈ merged.activeKeys, ∀ n, disabledCount (merged.failures key)=some n →
          ∃ report, checks.verdict key=some report) ∧
      (∀ checks' calls', RecheckDisabledProxies ext libc config merged checks' calls' →
        checks'.verdict=checks.verdict → ∃ left', left'=calls'.foldl (RoundCall.exec env cfg now) merged ∧
          left'.state.proxies=left.state.proxies ∧ left'.failures=left.failures ∧
          ∀ hash, hash ∈ left'.state.retiredHashes ↔ hash ∈ left.state.retiredHashes) ∧
      summary=⟨prepared.loaded,left.state.proxies.length⟩ ∧ (cfg.persistent = true → left.Projected) := by
  cases hrefresh with
  | @merged active checks calls hselection hrecheck =>
    have hmerged : (p.merge env cfg active).1.activeKeys.Nodup := merge_nodup hkeys active
    have hjudged := recheck_judges env cfg now hmerged hrecheck
    refine ⟨active,checks,calls,_,hselection,rfl,hrecheck,hjudged,?_,?_,?_,rfl,?_⟩
    · intro key report hverdict
      have hmem := mem_of_lookup hverdict
      obtain ⟨disabled,hdisabled,rfl⟩ :=
        (verdicts_of_disabled hmerged hrecheck).2 key (List.mem_map_of_mem hmem)
      obtain ⟨hactive,hcount⟩ := mem_disabledProxies hdisabled
      refine ⟨hactive,hcount,?_⟩
      obtain ⟨call,hcall,hreport⟩ := List.mem_filterMap.mp hmem
      obtain ⟨other,rfl | rfl⟩ := recheckReports_deferred hcall
      · cases hreport
        exact .inl rfl
      · cases hreport
        exact .inr rfl
    · rintro ⟨target,htarget⟩ hexhausted key hactive n hcount
      obtain ⟨disabled,hdisabled,rfl⟩ := disabledProxies_complete hactive hcount
      obtain ⟨_,rest,hperm,hrest⟩ := recheck_reported_once htarget hrecheck
      rw [hrest hexhausted,List.append_nil] at hperm
      have hkey : disabled.key ∈ checks.verdicts.map Prod.fst := by
        rw [verdicts_keys]
        exact List.mem_map_of_mem (hperm.mem_iff.mpr hdisabled)
      cases hverdict : checks.verdict disabled.key with
      | some report => exact ⟨report,rfl⟩
      | none =>
        obtain ⟨verdict,hverdictMem,hsame⟩ := List.mem_map.mp hkey
        have hne := List.lookup_eq_none_iff.mp hverdict verdict hverdictMem
        exact absurd hsame.symm (bne_iff_ne.mp hne)
    · intro checks' calls' hrecheck' hverdict
      have hjudged' := recheck_judges env cfg now hmerged hrecheck'
      rw [hverdict] at hjudged'
      refine ⟨_,rfl,hjudged'.nodes.trans hjudged.nodes.symm,?_,?_⟩
      · funext key
        exact (hjudged'.records key).trans (hjudged.records key).symm
      · exact fun hash => (hjudged'.retired hash).trans (hjudged.retired hash).symm
    · intro hc
      obtain ⟨rfl,_⟩ | rfl := recheck_calls hrecheck
      · exact Pool.merge_file env p hc active
      · rw [List.foldl_append]
        exact Pool.Projected.persistState hc _

/-! A refresh without candidates rechecks the one node that has failed. -/

lemma recheck_exists {ext : TargetExternals} (libc : Libc) {config : HealthConfig} {target : HealthCheckTarget}
    (htarget : HealthCheckTarget.fromConfig ext config = .ok target) (pool : Pool) :
    ∃ checks calls, RecheckDisabledProxies ext libc config pool checks calls := by
  by_cases hempty : disabledProxies pool=[]
  · exact ⟨_,_,.nothing hempty⟩
  · obtain ⟨events,s,hrun,hsaved,_⟩ := EndsWithin.reaches (recheck_ends (disabledProxies pool))
    exact ⟨_,_,.round hempty htarget hrun hsaved⟩

def failedPool : Pool :=
  (Pool.withRuntimeFailurePolicyAndState sampleExternals sampleConfig [sampleNode] .absent).reportFailure sampleExternals
    sampleConfig 0 (.proxy (.fromNode sampleNode))

theorem refresh_judges_sample : ∃ (checks : Checks DisabledProxy) (merged left : Pool), merged=(failedPool.merge sampleExternals sampleConfig []).1 ∧
    Judged sampleExternals sampleConfig 0 checks.verdict merged left ∧ left.Projected ∧
    (disabledProxies merged).length=1 := by
  obtain ⟨target,htarget⟩ := defaultHealth_target
  obtain ⟨checks,calls,hrecheck⟩ :=
    recheck_exists Libc.sample htarget (failedPool.merge sampleExternals sampleConfig []).1
  have hrefresh : ApplyPreparedProxyRefresh sampleTargetExternals Libc.sample sampleExternals sampleConfig 0 defaultHealth
      failedPool ⟨0,[]⟩ (.ok _) _ := .merged (.checked rfl (.nothing rfl)) hrecheck
  obtain ⟨active,checks',_,_,hselection,rfl,_,hjudged,_,_,_,_,hprojected⟩ :=
    refresh_judges sampleTargetExternals Libc.sample sampleExternals sampleConfig 0 defaultHealth (by decide) hrefresh
  have hnone : active=[] := by
    cases hselection with
    | checked _ hround =>
      cases hround with
      | nothing => rfl
      | round hnonempty => exact absurd rfl hnonempty
    | unchecked => rfl
  subst hnone
  exact ⟨checks',_,_,rfl,hjudged,hprojected rfl,by decide⟩

end RotatorProxy.Health
