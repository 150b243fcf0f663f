import RotatorProxy.Proxy.Selection

/-! The candidates of a request: what an iterator gives out until it ends, and that nothing usable
is left out while its limit lasts. -/
namespace RotatorProxy.Proxy
open Text Library

variable {env : Externals} {cfg : PoolConfig} {now : ℕ} {p : Pool}

/-- Take from an iterator until it ends; `none` if it has not ended after `fuel` turns. -/
def ProxyAttempts.collect (now : ℕ) (shuffles : ℕ → ℕ → Shuffle) :
    ℕ → ProxyAttempts → Pool → Option (List ProxyChoice × Pool)
  | 0,_,_ => none
  | fuel+1,attempts,p =>
    match attempts.next now (shuffles fuel) p with
    | (none,_,p,_) => some ([],p)
    | (some choice,attempts,p,_) =>
      (collect now shuffles fuel attempts p).map (fun rest => (choice::rest.1,rest.2))

/-- `candidates`; every turn of the iterator lowers what remains. -/
def Pool.candidates (cfg : PoolConfig) (now : ℕ) (shuffles : ℕ → ℕ → Shuffle) (p : Pool) :
    Option (List ProxyChoice × Pool) :=
  (p.attempts cfg).collect now shuffles ((p.attempts cfg).remaining+1) p

/-- The active entries that can be used. -/
def Pool.usableEntries (now : ℕ) (tried : List Str) (p : Pool) : List ProxyEntry :=
  p.state.proxies.filter (fun entry => decide (Available now tried p.failures entry))

lemma Pool.mem_usableEntries {tried : List Str} {entry : ProxyEntry} :
    entry ∈ p.usableEntries now tried ↔
      entry ∈ p.state.proxies ∧ Available now tried p.failures entry := by
  simp [usableEntries]

/-- Giving out one entry takes one key off those that can still be given out. -/
lemma filter_given_length {P Q : ProxyEntry → Prop} [DecidablePred P] [DecidablePred Q]
    {entries : List ProxyEntry} (hnodup : (entries.map ProxyEntry.key).Nodup) {entry : ProxyEntry}
    (hmem : entry ∈ entries) (hP : P entry) (hQ : ∀ e, Q e ↔ P e ∧ e.key ≠ entry.key) :
    (entries.filter (fun e => decide (Q e))).length+1=(entries.filter (fun e => decide (P e))).length := by
  induction entries with
  | nil => cases hmem
  | cons e entries ih =>
    rw [List.map_cons,List.nodup_cons] at hnodup
    by_cases hkey : e.key=entry.key
    · obtain rfl : entry=e := by
        obtain heq | hmem := List.mem_cons.mp hmem
        · exact heq
        · exact absurd (List.mem_map_of_mem hmem) (hkey ▸ hnodup.1)
      have hrest : ∀ e' ∈ entries, decide (Q e')=decide (P e') := by
        intro e' he'
        have hne : e'.key ≠ entry.key := fun heq => hnodup.1 (heq ▸ List.mem_map_of_mem he')
        simp [hQ,hne]
      rw [List.filter_cons_of_neg (by simp [hQ]),List.filter_cons_of_pos (by simpa using hP),
        List.filter_congr hrest,List.length_cons]
    · have hmem' : entry ∈ entries := (List.mem_cons.mp hmem).resolve_left (fun h => hkey (h ▸ rfl))
      have hih := ih hnodup.2 hmem'
      by_cases hPe : P e
      · rw [List.filter_cons_of_pos (by simp [hQ,hPe,hkey]),List.filter_cons_of_pos (by simpa using hPe),
          List.length_cons,List.length_cons,hih]
      · rw [List.filter_cons_of_neg (by simp [hQ,hPe]),List.filter_cons_of_neg (by simpa using hPe),hih]

/-- An iterator gives out distinct usable entries that it has not tried, as many as remain to it or
as there are. -/
theorem ProxyAttempts.collect_exact (shuffles : ℕ → ℕ → Shuffle) {fuel : ℕ} {attempts : ProxyAttempts}
    (h : p.BagFits) (hkeys : p.activeKeys.Nodup) (hdirect : attempts.directPending = false)
    (hfuel : attempts.remaining < fuel) :
    ∃ (entries : List ProxyEntry) (q : Pool), attempts.collect now shuffles fuel p=some (entries.map .proxy,q) ∧
      (entries.map ProxyEntry.key).Nodup ∧ (∀ e ∈ entries, e ∈ p.usableEntries now attempts.tried) ∧
      entries.length=min attempts.remaining (p.usableEntries now attempts.tried).length := by
  induction fuel generalizing attempts p with
  | zero => omega
  | succ fuel ih =>
    rw [collect]
    by_cases hremaining : attempts.remaining=0
    · have hnext : attempts.next now (shuffles fuel) p=(none,attempts,p,[]) := by
        rw [next,if_neg (by simp [hdirect]),if_pos hremaining]
      rw [hnext]
      exact ⟨[],p,rfl,List.nodup_nil,fun e he => (by cases he),by simp [hremaining]⟩
    · obtain ⟨q,events,hstate,hq,husable,⟨entry,hmem,havail,he⟩ | ⟨hnone,he⟩⟩ :=
        next_complete h now (shuffles fuel) hdirect hremaining
      · rw [he]
        dsimp only
        have hiff : ∀ e, Available now (attempts.tried.insert entry.key) q.failures e ↔
            Available now attempts.tried p.failures e ∧ e.key ≠ entry.key := by
          intro e
          unfold Available
          rw [husable,List.mem_insert_iff]
          tauto
        obtain ⟨entries,t,hcollect,hnodup,hall,hlength⟩ :=
          @ih q ⟨attempts.tried.insert entry.key,attempts.remaining-1,false⟩ hq
            (by rw [Pool.activeKeys,hstate]; exact hkeys) rfl (by simp only; omega)
        have hcount := filter_given_length hkeys hmem havail hiff
        have hfewer : (q.usableEntries now (attempts.tried.insert entry.key)).length+1=
            (p.usableEntries now attempts.tried).length := by
          rw [Pool.usableEntries,hstate]
          exact hcount
        have hback : ∀ e ∈ entries, e ∈ p.usableEntries now attempts.tried ∧ e.key ≠ entry.key := by
          intro e hin
          obtain ⟨hp,ha⟩ := Pool.mem_usableEntries.mp (hall e hin)
          rw [hstate] at hp
          exact ⟨Pool.mem_usableEntries.mpr ⟨hp,((hiff e).mp ha).1⟩,((hiff e).mp ha).2⟩
        refine ⟨entry::entries,t,by rw [hcollect]; rfl,?_,?_,?_⟩
        · rw [List.map_cons,List.nodup_cons]
          refine ⟨?_,hnodup⟩
          intro hin
          obtain ⟨e,hin,heq⟩ := List.mem_map.mp hin
          exact (hback e hin).2 heq
        · intro e hin
          obtain rfl | hin := List.mem_cons.mp hin
          · exact Pool.mem_usableEntries.mpr ⟨hmem,havail⟩
          · exact (hback e hin).1
        · rw [List.length_cons,hlength]
          simp only
          omega
      · rw [he]
        refine ⟨[],q,rfl,List.nodup_nil,fun e hin => (by cases hin),?_⟩
        have hempty : p.usableEntries now attempts.tried=[] := by
          rw [List.eq_nil_iff_forall_not_mem]
          intro e hin
          obtain ⟨hp,ha⟩ := Pool.mem_usableEntries.mp hin
          exact hnone e hp ha
        simp [hempty]

/-! Reachable bags -/

/-- The bag fits the vector, or a call in flight is still going to reset it. -/
def BagSettles (c : Concurrent) : Prop :=
  c.shared.pool.BagFits ∨ ∃ call ∈ c.calls, ∃ g, .resetSelection g ∈ call

lemma World.next_fits {w : World} (h : w.pool.BagFits) (caller now : ℕ) (shuffles : ℕ → Shuffle) :
    (w.next caller now shuffles).pool.BagFits := by
  unfold World.next
  cases w.iterators[caller]? with
  | none => exact h
  | some attempts => exact attempts.next_fits h now shuffles

lemma Pool.resetSelection_fits (p : Pool) (g : ℕ) : (p.resetSelection g).BagFits := by
  unfold BagFits
  rw [resetSelection,SelectionBag.usable_reset]
  exact Positions.nil _

/-- A section keeps a bag that fits, or leaves its call with a reset to do. -/
theorem execSection_fits {w : World} (h : w.pool.BagFits) (a : PoolSection) :
    (execSection env cfg a w).1.pool.BagFits ∨ ∃ g, .resetSelection g ∈ (execSection env cfg a w).2 := by
  cases @execSection_bagEffect env cfg w a with
  | same same =>
    left
    unfold Pool.BagFits
    rw [same.length,same.generation,same.selection]
    exact h
  | scanned caller now shuffles => exact .inl (w.next_fits h caller now shuffles)
  | changed selection log generation changes g resets => exact .inr ⟨g,resets⟩
  | cleared g => exact .inl (w.pool.resetSelection_fits g)

theorem step_bagSettles {c d : Concurrent} {move : Move PoolSection} (h : BagSettles c)
    (hd : (poolSections env cfg).step c move=some d) : BagSettles d := by
  cases move with
  | start a =>
    obtain ⟨_,rfl⟩ := (poolSections env cfg).start_cases hd
    exact h.imp_right (fun ⟨call,hcall,hg⟩ => ⟨call,List.mem_append_left _ hcall,hg⟩)
  | resume i =>
    obtain ⟨xs,a,rest,ys,hcalls,_,_,rfl⟩ := (poolSections env cfg).resume_cases hd
    by_cases hreset : ∃ g, a = .resetSelection g
    · obtain ⟨g,rfl⟩ := hreset
      exact .inl (c.shared.pool.resetSelection_fits g)
    · obtain hfits | ⟨call,hcall,g,hg⟩ := h
      · refine (execSection_fits hfits a).imp_right (fun ⟨g,hg⟩ => ?_)
        exact ⟨_,List.mem_append_right _ (List.mem_singleton_self _),g,List.mem_append_left _ hg⟩
      -- the reset was still to come and is not the section that has run
      · right
        rw [hcalls] at hcall
        obtain hcall | hcall := List.mem_append.mp hcall
        · exact ⟨call,List.mem_append_left _ (List.mem_append_left _ hcall),g,hg⟩
        · obtain rfl | hcall := List.mem_cons.mp hcall
          · obtain rfl | hg := List.mem_cons.mp hg
            · exact absurd ⟨g,rfl⟩ hreset
            · exact ⟨_,List.mem_append_right _ (List.mem_singleton_self _),g,List.mem_append_right _ hg⟩
          · exact ⟨call,List.mem_append_left _ (List.mem_append_right _ hcall),g,hg⟩

/-- Once no reset is outstanding the bag fits, and at any time before the generation wraps around. -/
theorem reachable_fits {proxies : List ProxyNode} {file : StateFile} {moves : List (Move PoolSection)}
    {c : Concurrent}
    (hrun : Run (poolSections env cfg).step (fun _ _ => True)
      ⟨.fresh (Pool.withRuntimeFailurePolicyAndState env cfg proxies file),[]⟩ moves c)
    (hquiet : Sections.Quiescent c ∨ c.shared.generationChanges < 2^64) : c.shared.pool.BagFits := by
  obtain hreturned | hchanges := hquiet
  · have hsettles : BagSettles c := by
      refine hrun.invariant BagSettles (fun c move d hc _ hd => step_bagSettles hc hd) (.inl ?_)
      unfold Pool.BagFits
      rw [World.fresh,(fresh_bag env cfg proxies file).1]
      exact (Pool.resetSelection_fits _ 0)
    refine hsettles.resolve_right ?_
    rintro ⟨call,hcall,g,hg⟩
    rw [hreturned call hcall] at hg
    cases hg
  · exact (reachable_bagInv hrun hchanges).2.positions

/-- What the iterator of a request may give out: the whole pool, or as many as `max_retries`. -/
def attemptLimit (cfg : PoolConfig) (p : Pool) : ℕ :=
  if cfg.maxRetries=0 then p.state.proxies.length else cfg.maxRetries

/-- With the bag of any reachable pool and any failure records, a scan ends within twice the length
of the pool and finds a usable entry that has not been tried if there is one. The candidates are
then distinct usable entries, as many as the limit and the records allow; an empty pool has the
direct connection as its only candidate, and no other pool has it. -/
theorem candidates_exact {proxies : List ProxyNode} {file : StateFile} {moves : List (Move PoolSection)}
    {c : Concurrent}
    (hrun : Run (poolSections env cfg).step (fun _ _ => True)
      ⟨.fresh (Pool.withRuntimeFailurePolicyAndState env cfg proxies file),[]⟩ moves c)
    (hquiet : Sections.Quiescent c ∨ c.shared.generationChanges < 2^64)
    (hkeys : c.shared.pool.activeKeys.Nodup) (failures : FailureMap) (now : ℕ)
    (hp : p={c.shared.pool with failures := failures}) :
    (∀ tried shuffles, ∃ scan, p.nextRandomAvailable now tried shuffles=scan ∧
      pops scan.events ≤ 2*p.state.proxies.length-1 ∧
      ((∃ entry ∈ p.state.proxies, scan.outcome = .found entry ∧ Available now tried failures entry) ∨
        (scan.outcome = .exhausted ∧ ∀ entry ∈ p.state.proxies, ¬Available now tried failures entry))) ∧
    ∀ shuffles, ∃ choices q, p.candidates cfg now shuffles=some (choices,q) ∧
      (p.state.proxies=[] → choices=[.direct]) ∧
      (p.state.proxies ≠ [] → ∃ entries : List ProxyEntry, choices=entries.map .proxy ∧
        (entries.map ProxyEntry.key).Nodup ∧
        (∀ e ∈ entries, e ∈ p.state.proxies ∧ Usable now (failures e.key)) ∧
        entries.length=min (attemptLimit cfg p)
          (p.state.proxies.filter (fun e => decide (Usable now (failures e.key)))).length) := by
  have hfits : p.BagFits := by
    rw [hp]
    exact reachable_fits hrun hquiet
  have hfailures : p.failures=failures := by rw [hp]
  refine ⟨fun tried shuffles => ⟨_,rfl,?_⟩,fun shuffles => ?_⟩
  · obtain ⟨hcomplete,_,hpops⟩ := hfits.nextRandomAvailable now tried shuffles
    rw [hfailures] at hcomplete
    refine ⟨hpops,hcomplete.imp (fun ⟨entry,hmem,hout,havail,_⟩ => ⟨entry,hmem,hout,havail⟩) ?_⟩
    exact fun ⟨hout,_,hnone⟩ => ⟨hout,hnone⟩
  · unfold Pool.candidates Pool.attempts
    dsimp only
    by_cases hlen : p.state.proxies.length=0
    · rw [if_pos hlen]
      refine ⟨[.direct],p,rfl,fun _ => rfl,fun hne => absurd (List.length_eq_zero_iff.mp hlen) hne⟩
    · rw [if_neg hlen]
      obtain ⟨entries,q,hcollect,hnodup,hall,hlength⟩ :=
        @ProxyAttempts.collect_exact now p shuffles _ ⟨[],_,false⟩ hfits
          (by rw [hp]; exact hkeys) rfl (Nat.lt_succ_self _)
      refine ⟨_,q,hcollect,fun hnil => absurd (by rw [hnil]; rfl) hlen,fun _ => ?_⟩
      have hfilter : p.usableEntries now []=
          p.state.proxies.filter (fun e => decide (Usable now (failures e.key))) := by
        rw [Pool.usableEntries,hfailures]
        refine List.filter_congr (fun e _ => ?_)
        simp [Available]
      refine ⟨entries,rfl,hnodup,fun e he => ?_,?_⟩
      · obtain ⟨hmem,_,husable⟩ := Pool.mem_usableEntries.mp (hall e he)
        rw [hfailures] at husable
        exact ⟨hmem,husable⟩
      · dsimp only at hlength
        rw [hlength,hfilter]
        have hle := List.length_filter_le (fun e => decide (Usable now (failures e.key))) p.state.proxies
        unfold attemptLimit
        split_ifs <;> omega

/-! Two nodes, of which one is disabled -/

def secondNode : ProxyNode := .http ⟨"127.0.0.1".toList,2⟩ none

def firstDisabled : FailureMap :=
  Function.update (fun _ => none) sampleNode.key (some ⟨0,1,none,true,0⟩)

/-- An iterator has taken the second of two entries: the bag still holds the first. -/
def halfUsedMoves : List (Move PoolSection) :=
  [.start .attempts,.resume 0,.start (.next 0 0 (fun _ => .identity)),.resume 1]

theorem candidates_exact_half_used :
    ∃ c, Run (poolSections sampleExternals sampleConfig).step (fun _ _ => True)
        ⟨.fresh (Pool.withRuntimeFailurePolicyAndState sampleExternals sampleConfig
          [sampleNode,secondNode] .absent),[]⟩ halfUsedMoves c ∧
      c.shared.pool.selection=⟨0,[0]⟩ ∧
      ∀ shuffles, ∃ entries : List ProxyEntry, ∃ q,
        ({c.shared.pool with failures := firstDisabled} : Pool).candidates sampleConfig 0 shuffles=
          some (entries.map .proxy,q) ∧ entries.length=1 := by
  have hrun := (.cons rfl trivial (.cons rfl trivial (.cons rfl trivial (.cons rfl trivial (.nil _)))) :
    Run (poolSections sampleExternals sampleConfig).step (fun _ _ => True)
      ⟨.fresh (Pool.withRuntimeFailurePolicyAndState sampleExternals sampleConfig
        [sampleNode,secondNode] .absent),[]⟩ halfUsedMoves _)
  refine ⟨_,hrun,by decide,fun shuffles => ?_⟩
  obtain ⟨choices,q,hq,_,hsome⟩ := (candidates_exact hrun (.inl (by decide)) (by decide)
    firstDisabled 0 rfl).2 shuffles
  obtain ⟨entries,rfl,_,_,hlength⟩ := hsome (by decide)
  exact ⟨entries,q,hq,hlength.trans (by decide)⟩

end RotatorProxy.Proxy
