import RotatorProxy.Health.Program
import RotatorProxy.Proxy.Durability

/-! The state file while the program runs. A recheck does not save what it reports, so that the file may fall behind; it
is never further behind than the reports of the round that is running. -/
namespace RotatorProxy.Health
open Text Proxy Outbound Config Library

section
variable {env : Externals} {cfg : PoolConfig} {p q saved : Pool}

/-- The pool has changed since it was saved, but for these nodes it has not. -/
structure Behind (env : Externals) (keys : List Str) (saved p : Pool) : Prop where
  nodes : ∃ gone : Str → Bool, (∀ key, gone key = true → key ∈ keys) ∧
    p.state.proxies=saved.state.proxies.filter (fun entry => !gone entry.key)
  disabled : ∀ hash, (∀ key ∈ keys, hash ≠ proxyKeyHash env key) →
    p.state.disabledByHash.lookup hash=saved.state.disabledByHash.lookup hash
  retired : ∀ hash, (∀ key ∈ keys, hash ≠ proxyKeyHash env key) →
    (hash ∈ p.state.retiredHashes ↔ hash ∈ saved.state.retiredHashes)

namespace Behind
variable {keys : List Str}

lemma refl (keys : List Str) (p : Pool) : Behind env keys p p :=
  ⟨⟨fun _ => false,nofun,by simp⟩,fun _ _ => rfl,fun _ _ => .rfl⟩

lemma of_same (h : Behind env keys saved p) (hstate : q.state=p.state) : Behind env keys saved q := by
  obtain ⟨hnodes,hdisabled,hretired⟩ := h
  rw [← hstate] at hnodes hdisabled hretired
  exact ⟨hnodes,hdisabled,hretired⟩

end Behind

/-- A report brings the list of disabled nodes in line for its own hash only. -/
lemma reportEffect_lookup {key : Str} {persist : Bool} (h : ReportEffect env cfg persist key p q) {hash : Str}
    (hne : hash ≠ proxyKeyHash env key) : q.state.disabledByHash.lookup hash=p.state.disabledByHash.lookup hash := by
  cases h with
  | nothing | recorded => rfl
  | disabled record n =>
    have hlocked : ((p.setRecord key record).insertDisabledLocked env key n).state.disabledByHash.lookup hash=
        p.state.disabledByHash.lookup hash := AList.lookup_insert_ne hne
    unfold Pool.persistDisabledEntryInner
    split_ifs
    · rw [Pool.persistState_state]
      exact hlocked
    · exact hlocked
  | enabled | enabledReset =>
    have hlocked : ((p.setRecord key none).removeDisabledLocked env key).state.disabledByHash.lookup hash=
        p.state.disabledByHash.lookup hash := AList.lookup_erase_ne hne
    cases persist
    · exact hlocked
    · simpa [Pool.removePersistedDisabledInner] using hlocked
  | retired =>
    obtain ⟨_,_,hdisabled,_⟩ := Pool.removeAndRetireLocked_state env key (p.setRecord key none)
    rw [(Pool.removeAndRetire_state env cfg key _ persist).1,hdisabled]
    exact AList.lookup_erase_ne hne

/-- A deferred recheck adds its node to those that are behind. -/
lemma Behind.exec {keys : List Str} (h : Behind env keys saved p) {call : PoolCall} {key : Str} {report : NodeReport}
    (hreport : call.report=some (key,report))
    (hdeferred : call = .recheckSuccess key false ∨ call = .recheckFailure key false) :
    Behind env (keys++[key]) saved (call.exec env cfg 0 p) := by
  obtain ⟨hproxies,hretired⟩ := deferred_exec env cfg 0 p hreport hdeferred
  have heffect : ReportEffect env cfg false key p (call.exec env cfg 0 p) := by
    obtain rfl | rfl := hdeferred
    · exact (p.recheckSuccess_does env cfg key false).1
    · exact (p.recheckFailure_does env cfg key false).1
  obtain ⟨⟨gone,hgone,hnodes⟩,hdisabled,hold⟩ := h
  have hout : ∀ hash, (∀ k ∈ keys++[key], hash ≠ proxyKeyHash env k) →
      (∀ k ∈ keys, hash ≠ proxyKeyHash env k) ∧ hash ≠ proxyKeyHash env key := fun hash hne =>
    ⟨fun k hk => hne k (List.mem_append_left _ hk),hne key (List.mem_append_right _ (List.mem_singleton_self _))⟩
  refine ⟨⟨fun k => gone k || decide (k=key) && drops (p.failures key) report,fun k hk => ?_,?_⟩,fun hash hne => ?_,
    fun hash hne => ?_⟩
  · obtain hk | hk := Bool.or_eq_true_iff.mp hk
    · exact List.mem_append_left _ (hgone k hk)
    · rw [of_decide_eq_true (Bool.and_eq_true_iff.mp hk).1]
      exact List.mem_append_right _ (List.mem_singleton_self _)
  · rw [hproxies,hnodes,List.filter_filter]
    apply List.filter_congr
    intro entry _
    rw [Bool.not_or,Bool.and_comm]
  · exact (reportEffect_lookup heffect (hout hash hne).2).trans (hdisabled hash (hout hash hne).1)
  · rw [hretired,hold hash (hout hash hne).1]
    exact or_iff_left fun hsame => (hout hash hne).2 hsame.2

lemma deferred_file {call : PoolCall} {key : Str}
    (hdeferred : call = .recheckSuccess key false ∨ call = .recheckFailure key false) :
    (call.exec env cfg 0 p).file=p.file := by
  obtain rfl | rfl := hdeferred
  · exact recheckSuccess_deferred_file cfg p key
  · exact recheckFailure_deferred_file cfg p key

/-- A connection saves the state or leaves it, and the file, alone. -/
lemma traffic_saves (hc : cfg.persistent = true) {op : PoolOp} (htraffic : isTraffic op = true)
    {after : PoolConfig × Pool} (h : PoolOp.step env (cfg,p) op=some after) :
    after.2.state=p.state ∧ after.2.file=p.file ∨ after.2.Projected := by
  cases op with
  | next now shuffles attempts =>
    cases h
    exact .inl ⟨(attempts.next_pool now shuffles p).1,attempts.next_file now shuffles p⟩
  | reportSuccess choice =>
    cases h
    exact reportSuccess_saves hc p choice
  | reportFailure now choice =>
    cases h
    exact reportFailure_saves hc p now choice
  | merge | replace | recheckSuccess | recheckFailure | persistState | rebuild => cases htraffic

end
namespace Program
variable {ext : TargetExternals} {libc : Libc} {env : Externals} {cfg : PoolConfig} {config : HealthConfig}
  {s t : Program} {e : ProgramEvent}

/-- The file holds the pool as it was at a moment of the run, and what has been reported since was reported by the round
that is running. -/
structure Filed (ext : TargetExternals) (libc : Libc) (env : Externals) (cfg : PoolConfig) (config : HealthConfig)
    (start : Program) (es : List ProgramEvent) (s : Program) : Prop where
  settled : s.current=[] → s.pool.Projected
  saved : ∃ before after u, es=before++after ∧ Run (step ext env cfg config) (Allowed libc config) start before u ∧
    s.pool.file = .saved u.pool.persistedState ∧ Behind env (reportedKeys s.current) u.pool s.pool

lemma Filed.of_projected {start : Program} {es : List ProgramEvent} (h : s.pool.Projected)
    (hrun : Run (step ext env cfg config) (Allowed libc config) start es s) :
    Filed ext libc env cfg config start es s :=
  ⟨fun _ => h,es,[],s,by simp,hrun,h,.refl _ _⟩

theorem Filed.step {start : Program} {es : List ProgramEvent} (hc : cfg.persistent = true)
    (hrun : Run (step ext env cfg config) (Allowed libc config) start es s)
    (h : Filed ext libc env cfg config start es s) (hallowed : s.Allowed libc config e)
    (ht : s.step ext env cfg config e=some t) : Filed ext libc env cfg config start (es++[e]) t := by
  have hnext := hrun.snoc ht hallowed
  obtain ⟨before,after,u,rfl,hu,hfile,hbehind⟩ := h.saved
  cases step_does ht with
  | traffic htaken =>
    obtain ⟨hstate,hsame⟩ | hprojected := traffic_saves hc hallowed htaken
    · refine ⟨fun hnone => (h.settled hnone).of_same hstate hsame,before,after++[_],u,List.append_assoc _ _ _,hu,?_,?_⟩
      · exact hsame.trans hfile
      · exact hbehind.of_same hstate
    · exact .of_projected hprojected hnext
  | merge => exact .of_projected (Pool.merge_file env s.pool hc _) hnext
  | skip hmerged =>
    refine .of_projected (h.settled ?_) hnext
    rw [current,hmerged]
  | begin n hmerged =>
    refine .of_projected (h.settled ?_) hnext
    rw [current,hmerged]
  | @worker disabled n round next i result hrunning htaken =>
    obtain ⟨hcalls,_⟩ := RecheckRound.worker_calls htaken
    have hcurrent := current_rechecking hrunning
    rw [hcurrent] at hbehind
    obtain hnone | ⟨call,key,report,hissued,hreport,hdeferred⟩ := round.issued_cases i
    · refine ⟨fun hcurrent' => ?_,before,after++[_],u,List.append_assoc _ _ _,hu,?_,?_⟩
      · change next.calls=[] at hcurrent'
        rw [hcalls,hnone,List.append_nil] at hcurrent'
        rw [hnone]
        exact h.settled (hcurrent.trans hcurrent')
      · rw [hnone]
        exact hfile
      · rw [hnone]
        change Behind env (reportedKeys next.calls) u.pool s.pool
        rw [hcalls,hnone,List.append_nil]
        exact hbehind
    · refine ⟨fun hcurrent' => ?_,before,after++[_],u,List.append_assoc _ _ _,hu,?_,?_⟩
      · change next.calls=[] at hcurrent'
        rw [hcalls,hissued] at hcurrent'
        simp at hcurrent'
      · rw [hissued]
        change (call.exec env cfg 0 s.pool).file=_
        rw [deferred_file hdeferred]
        exact hfile
      · rw [hissued]
        change Behind env (reportedKeys next.calls) u.pool (call.exec env cfg 0 s.pool)
        have hkey : reportedKeys [RoundCall.report call]=[key] := by
          simp [reportedKeys,reportedKey,hreport]
        rw [hcalls,hissued,reportedKeys_append,hkey]
        exact hbehind.exec hreport hdeferred
  | flush => exact .of_projected (Pool.Projected.persistState hc _) hnext

end Program

/-- Whenever no recheck is running, the state file holds what the pool would save. While one is, it holds the pool of an
earlier moment, and the two differ only in nodes that this round has reported already: each of them once. -/
theorem file_behind_by_one_round (ext : TargetExternals) (libc : Libc) (env : Externals) {cfg : PoolConfig}
    (config : HealthConfig) (hc : cfg.persistent = true) {file : StateFile} {es : List ProgramEvent} {s : Program}
    (hrun : Run (Program.step ext env cfg config) (Program.Allowed libc config) (.start env cfg file) es s) :
    (s.current=[] → s.pool.Projected) ∧ (reportedKeys s.current).Nodup ∧
      ∃ before after u, es=before++after ∧
        Run (Program.step ext env cfg config) (Program.Allowed libc config) (.start env cfg file) before u ∧
        s.pool.file = .saved u.pool.persistedState ∧ Behind env (reportedKeys s.current) u.pool s.pool := by
  have hstart : (Program.start env cfg file).pool.Projected := .built hc [] file
  obtain ⟨_,hfiled⟩ := hrun.history
    (fun es s => Run (Program.step ext env cfg config) (Program.Allowed libc config) (.start env cfg file) es s ∧
      Program.Filed ext libc env cfg config (.start env cfg file) es s)
    (fun es s e t h hallowed ht => ⟨h.1.snoc ht hallowed,h.2.step hc h.1 hallowed ht⟩) []
    ⟨.nil _,.of_projected hstart (.nil _)⟩
  refine ⟨hfiled.settled,?_,hfiled.saved⟩
  cases hphase : s.phase with
  | idle | merged =>
    rw [Program.current,hphase]
    exact .nil
  | rechecking disabled n round =>
    obtain ⟨hkeys,hsound,_⟩ := (Program.reached_ok hrun).round _ _ _ hphase
    rw [Program.current_rechecking hphase]
    exact (hsound.reported hkeys).1

/-- The sample node has been found unhealthy, and the round goes on. -/
theorem file_behind_sample : ∃ s, Run sampleStep (Program.Allowed Libc.sample defaultHealth)
    (.start sampleExternals sampleConfig .absent) (sampleFails++unhealthyRound.take 6) s ∧
    reportedKeys s.current=[sampleNode.key] ∧
    ∃ u, s.pool.file = .saved (Program.pool u).persistedState ∧
      Behind sampleExternals [sampleNode.key] u.pool s.pool := by
  have hfound : ((sampleFails++unhealthyRound.take 6).foldlM (fun s e => if sampleAllowed e then sampleStep s e else none)
      (.start sampleExternals sampleConfig .absent)).any
        (fun s => decide (reportedKeys s.current=[sampleNode.key])) = true := by
    decide
  obtain ⟨s,hs,hkeys⟩ := (Option.any_eq_true _ _).mp hfound
  have hkeys := of_decide_eq_true hkeys
  have hrun := Run.of_checked (fun _ => sampleAllowed) sampleAllowed_allowed hs
  obtain ⟨_,_,_,_,u,_,_,hfile,hbehind⟩ := file_behind_by_one_round sampleTargetExternals Libc.sample sampleExternals
    defaultHealth rfl hrun
  rw [hkeys] at hbehind
  exact ⟨s,hrun,hkeys,u,hfile,hbehind⟩

end RotatorProxy.Health
