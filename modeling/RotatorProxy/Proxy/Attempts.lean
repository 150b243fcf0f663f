import RotatorProxy.Proxy.Agreement

/-! Candidates for one request: `next_random_available` and the iterator over it. A scan also gives
the fills and pops of the selection bag in their order. -/
namespace RotatorProxy.Proxy
open Text

inductive BagEvent
  | cleared
  | filled
  /-- `index` is popped and applied to a vector of `len` entries. -/
  | popped (index len : ℕ)
  deriving DecidableEq, Repr

inductive ScanOutcome
  | found (entry : ProxyEntry)
  | exhausted
  /-- `state.proxies[index]` panics. -/
  | outOfBounds (index : ℕ)
  | outOfFuel

structure Scan where
  outcome : ScanOutcome
  bag : SelectionBag
  failures : FailureMap
  events : List BagEvent

/-- `tried.contains || is_unavailable`: whether the entry is passed over, and the records after it. -/
def passOver (now : ℕ) (tried : List Str) (entry : ProxyEntry) (failures : FailureMap) :
    Bool × FailureMap :=
  if entry.key ∈ tried then (true,failures)
  else
    let looked := isUnavailable now (failures entry.key)
    (looked.1,Function.update failures entry.key looked.2)

/-- The loop of `next_random_available`; `shuffles` are the random orders it draws. -/
def scanLoop (now : ℕ) (tried : List Str) (generation : ℕ) (proxies : List ProxyEntry)
    (shuffles : ℕ → Shuffle) : ℕ → ℕ → SelectionBag → FailureMap → Scan
  | 0,_,bag,failures => ⟨.outOfFuel,bag,failures,[]⟩
  | fuel+1,scannedInRound,bag,failures =>
    match bag.nextIndex (shuffles fuel) generation proxies.length with
    | (none,bag) => ⟨.exhausted,bag,failures,[]⟩
    | (some (index,refilled),bag) =>
      let scannedInRound := (if refilled then 0 else scannedInRound)+1
      let events := (if refilled then [BagEvent.filled] else [])++[.popped index proxies.length]
      match proxies[index]? with
      | none => ⟨.outOfBounds index,bag,failures,events⟩
      | some entry =>
        let (skip,failures) := passOver now tried entry failures
        if skip then
          if proxies.length ≤ scannedInRound then ⟨.exhausted,bag,failures,events⟩
          else
            let rest := scanLoop now tried generation proxies shuffles fuel scannedInRound bag failures
            {rest with events := events++rest.events}
        else ⟨.found entry,bag,failures,events⟩

/-- No scan pops more than twice as often as there are entries. -/
def scanFuel (proxies : List ProxyEntry) : ℕ := 2*proxies.length

def Pool.nextRandomAvailable (now : ℕ) (tried : List Str) (shuffles : ℕ → Shuffle) (p : Pool) : Scan :=
  if p.state.proxies.length=0 then ⟨.exhausted,p.selection,p.failures,[]⟩
  else scanLoop now tried p.state.generation p.state.proxies shuffles (scanFuel p.state.proxies) 0
    p.selection p.failures

structure ProxyAttempts where
  tried : List Str
  remaining : ℕ
  directPending : Bool

def Pool.attempts (cfg : PoolConfig) (p : Pool) : ProxyAttempts :=
  let len := p.state.proxies.length
  if len=0 then ⟨[],1,true⟩
  else ⟨[],if cfg.maxRetries=0 then len else min cfg.maxRetries len,false⟩

/-- `ProxyAttempts::next`: the choice, the iterator and the pool after it, and what was done to the
bag. -/
def ProxyAttempts.next (now : ℕ) (shuffles : ℕ → Shuffle) (attempts : ProxyAttempts) (p : Pool) :
    Option ProxyChoice × ProxyAttempts × Pool × List BagEvent :=
  if attempts.directPending then (some .direct,{attempts with directPending := false,remaining := 0},p,[])
  else if attempts.remaining=0 then (none,attempts,p,[])
  else
    let scan := p.nextRandomAvailable now attempts.tried shuffles
    let p := {p with selection := scan.bag,failures := scan.failures}
    match scan.outcome with
    | .found entry =>
      (some (.proxy entry),⟨attempts.tried.insert entry.key,attempts.remaining-1,false⟩,p,scan.events)
    | _ => (none,attempts,p,scan.events)

/-! One pop -/

theorem SelectionBag.nextIndex_cases (shuffle : Shuffle) (bag : SelectionBag) (generation len : ℕ)
    (hlen : len ≠ 0) :
    ∃ index rest, (bag.remaining=rest++[index] ∧ bag.generation=generation ∧
        bag.nextIndex shuffle generation len=(some (index,false),⟨generation,rest⟩)) ∨
      ((rest++[index]).Perm (List.range len) ∧ (bag.generation ≠ generation ∨ bag.remaining=[]) ∧
        bag.nextIndex shuffle generation len=(some (index,true),⟨generation,rest⟩)) := by
  unfold nextIndex
  rw [if_neg hlen]
  by_cases hr : bag.generation ≠ generation ∨ bag.remaining=[]
  · have hperm := shuffle.perm (List.range len)
    have hne : shuffle.apply (List.range len) ≠ [] := by
      intro h
      rw [h] at hperm
      have := hperm.length_eq
      simp at this
      exact hlen this.symm
    refine ⟨(shuffle.apply (List.range len)).getLast hne,(shuffle.apply (List.range len)).dropLast,.inr ⟨?_,hr,?_⟩⟩
    · rw [List.dropLast_append_getLast]
      exact hperm
    · simp [hr,List.getLast?_eq_some_getLast hne]
  · obtain ⟨hg,hne⟩ := not_or.mp hr
    refine ⟨bag.remaining.getLast hne,bag.remaining.dropLast,.inl ⟨?_,not_not.mp hg,?_⟩⟩
    · exact (List.dropLast_append_getLast hne).symm
    · simp [hne,List.getLast?_eq_some_getLast hne,not_not.mp hg]

lemma isUnavailable_true {now : ℕ} {record : Option FailureRecord}
    (h : (isUnavailable now record).1 = true) : (isUnavailable now record).2=record := by
  cases record with
  | none => rfl
  | some r =>
    unfold isUnavailable at h ⊢
    dsimp only at h ⊢
    split_ifs at h ⊢ with hd
    · rfl
    · cases hc : r.cooldownUntil with
      | none => rfl
      | some until_ =>
        simp only [hc] at h ⊢
        split_ifs at h ⊢
        rfl

/-- Looking at a record does not change what it says of the disabled list. -/
theorem isUnavailable_disabledCount (now : ℕ) (record : Option FailureRecord) :
    disabledCount (isUnavailable now record).2=disabledCount record := by
  cases record with
  | none => rfl
  | some r =>
    unfold isUnavailable
    dsimp only
    split_ifs with hd
    · rfl
    · cases r.cooldownUntil with
      | none => rfl
      | some until_ =>
        dsimp only
        split_ifs <;> rfl

theorem passOver_disabledCount (now : ℕ) (tried : List Str) (entry : ProxyEntry) (failures : FailureMap)
    (key : Str) : disabledCount ((passOver now tried entry failures).2 key)=disabledCount (failures key) := by
  unfold passOver
  split_ifs
  · rfl
  · by_cases hk : key=entry.key
    · subst hk
      simp [isUnavailable_disabledCount]
    · simp [Function.update_of_ne hk]

lemma passOver_none (now : ℕ) (tried : List Str) (entry : ProxyEntry) (failures : FailureMap) (key : Str)
    (h : failures key=none) : (passOver now tried entry failures).2 key=none := by
  unfold passOver
  split_ifs
  · exact h
  · by_cases hk : key=entry.key
    · subst hk
      simp [h,isUnavailable]
    · simpa [Function.update_of_ne hk] using h

/-- An entry that is passed over leaves the records as they were. -/
theorem passOver_skip {now : ℕ} {tried : List Str} {entry : ProxyEntry} {failures : FailureMap}
    (h : (passOver now tried entry failures).1 = true) :
    (passOver now tried entry failures).2=failures ∧
      (entry.key ∈ tried ∨ (isUnavailable now (failures entry.key)).1 = true) := by
  unfold passOver at h ⊢
  split_ifs at h ⊢ with ht
  · exact ⟨rfl,.inl ht⟩
  · exact ⟨Function.update_eq_self_iff.mpr (isUnavailable_true h),.inr h⟩

/-- A scan changes no record but that of the entry that it finds, which is in the pool. -/
theorem scanLoop_changes (now : ℕ) (tried : List Str) (generation : ℕ) (proxies : List ProxyEntry)
    (shuffles : ℕ → Shuffle) (fuel scanned : ℕ) (bag : SelectionBag) (failures : FailureMap) {scan : Scan}
    (hscan : scanLoop now tried generation proxies shuffles fuel scanned bag failures=scan) :
    (scan.failures=failures ∧ ∀ entry, scan.outcome ≠ .found entry) ∨
      ∃ entry ∈ proxies, (passOver now tried entry failures).1 = false ∧ scan.outcome = .found entry ∧
        scan.failures=(passOver now tried entry failures).2 := by
  induction fuel generalizing scanned bag scan with
  | zero =>
    subst hscan
    exact .inl ⟨rfl,fun _ h => by cases h⟩
  | succ fuel ih =>
    rw [scanLoop] at hscan
    split at hscan
    · subst hscan
      exact .inl ⟨rfl,fun _ h => by cases h⟩
    · next index refilled bag' _ =>
      dsimp only at hscan
      generalize (if refilled then 0 else scanned)+1=scanned' at hscan
      generalize (if refilled then [BagEvent.filled] else [])++[.popped index proxies.length]=events at hscan
      split at hscan
      · subst hscan
        exact .inl ⟨rfl,fun _ h => by cases h⟩
      · next entry hentry =>
        cases hskip : (passOver now tried entry failures).1 with
        | true =>
          rw [(passOver_skip hskip).1,hskip,if_pos rfl] at hscan
          split_ifs at hscan
          · subst hscan
            exact .inl ⟨rfl,fun _ h => by cases h⟩
          · have hrest := ih scanned' bag' rfl
            subst hscan
            exact hrest
        | false =>
          rw [hskip,if_neg Bool.false_ne_true] at hscan
          subst hscan
          exact .inr ⟨entry,List.mem_of_getElem? hentry,hskip,rfl,rfl⟩

/-- A scan adds no record and leaves the disabled counts alone, and what it finds is in the pool. -/
theorem scanLoop_effect (now : ℕ) (tried : List Str) (generation : ℕ) (proxies : List ProxyEntry)
    (shuffles : ℕ → Shuffle) (fuel scanned : ℕ) (bag : SelectionBag) (failures : FailureMap) {scan : Scan}
    (hscan : scanLoop now tried generation proxies shuffles fuel scanned bag failures=scan) :
    (∀ key, failures key=none → scan.failures key=none) ∧
      (∀ key, disabledCount (scan.failures key)=disabledCount (failures key)) ∧
      ∀ entry, scan.outcome=.found entry → entry ∈ proxies := by
  obtain ⟨hsame,hnone⟩ | ⟨entry,hentry,_,hfound,hpassed⟩ :=
    scanLoop_changes now tried generation proxies shuffles fuel scanned bag failures hscan
  · rw [hsame]
    exact ⟨fun _ h => h,fun _ => rfl,fun e h => absurd h (hnone e)⟩
  · rw [hpassed,hfound]
    refine ⟨passOver_none now tried entry failures,passOver_disabledCount now tried entry failures,fun e h => ?_⟩
    cases h
    exact hentry

/-- One turn of the loop on a position inside the vector. -/
theorem scanLoop_cases (now : ℕ) (tried : List Str) {generation : ℕ} {proxies : List ProxyEntry}
    {shuffles : ℕ → Shuffle} {fuel : ℕ} (scanned : ℕ) {bag bag' : SelectionBag} (failures : FailureMap)
    {index : ℕ} {refilled : Bool} {entry : ProxyEntry}
    (hnext : bag.nextIndex (shuffles fuel) generation proxies.length=(some (index,refilled),bag'))
    (hentry : proxies[index]? = some entry) :
    ((passOver now tried entry failures).1 = false ∧
      scanLoop now tried generation proxies shuffles (fuel+1) scanned bag failures=
        ⟨.found entry,bag',(passOver now tried entry failures).2,
          (if refilled then [.filled] else [])++[.popped index proxies.length]⟩) ∨
    ((passOver now tried entry failures).1 = true ∧
      ∃ scanned', scanned'=(if refilled then 0 else scanned)+1 ∧
        ((proxies.length ≤ scanned' ∧
          scanLoop now tried generation proxies shuffles (fuel+1) scanned bag failures=
            ⟨.exhausted,bag',failures,
              (if refilled then [.filled] else [])++[.popped index proxies.length]⟩) ∨
        (scanned' < proxies.length ∧ ∃ rest,
          rest=scanLoop now tried generation proxies shuffles fuel scanned' bag' failures ∧
          scanLoop now tried generation proxies shuffles (fuel+1) scanned bag failures=
            ⟨rest.outcome,rest.bag,rest.failures,
              ((if refilled then [.filled] else [])++[.popped index proxies.length])++rest.events⟩))) := by
  rw [scanLoop]
  simp only [hnext,hentry]
  cases hskip : (passOver now tried entry failures).1 with
  | false => exact .inl ⟨rfl,rfl⟩
  | true =>
    refine .inr ⟨rfl,_,rfl,?_⟩
    rw [(passOver_skip hskip).1,if_pos rfl]
    by_cases hdone : proxies.length ≤ (if refilled then 0 else scanned)+1
    · exact .inl ⟨hdone,if_pos hdone⟩
    · exact .inr ⟨by omega,_,rfl,if_neg hdone⟩

/-- `next` moves the bag and clears expired cooldowns; it gives out entries of the pool. -/
theorem ProxyAttempts.next_pool (attempts : ProxyAttempts) (now : ℕ) (shuffles : ℕ → Shuffle) (p : Pool) :
    (attempts.next now shuffles p).2.2.1.state=p.state ∧
      (∀ key, p.failures key=none → (attempts.next now shuffles p).2.2.1.failures key=none) ∧
      (∀ key, disabledCount ((attempts.next now shuffles p).2.2.1.failures key)=
        disabledCount (p.failures key)) ∧
      ∀ entry, (attempts.next now shuffles p).1=some (.proxy entry) → entry ∈ p.state.proxies := by
  unfold next
  split_ifs
  · exact ⟨rfl,fun _ h => h,fun _ => rfl,fun entry h => by cases h⟩
  · exact ⟨rfl,fun _ h => h,fun _ => rfl,fun entry h => by cases h⟩
  · dsimp only
    have hscan : (∀ key, p.failures key=none →
          (p.nextRandomAvailable now attempts.tried shuffles).failures key=none) ∧
        (∀ key, disabledCount ((p.nextRandomAvailable now attempts.tried shuffles).failures key)=
          disabledCount (p.failures key)) ∧
        ∀ entry, (p.nextRandomAvailable now attempts.tried shuffles).outcome=.found entry →
          entry ∈ p.state.proxies := by
      unfold Pool.nextRandomAvailable
      split_ifs
      · exact ⟨fun _ h => h,fun _ => rfl,fun entry h => by cases h⟩
      · exact scanLoop_effect _ _ _ _ _ _ _ _ _ rfl
    obtain ⟨hnone,hcount,hfound⟩ := hscan
    generalize p.nextRandomAvailable now attempts.tried shuffles=scan at *
    obtain ⟨outcome,bag,failures,events⟩ := scan
    cases outcome with
    | found entry =>
      refine ⟨rfl,hnone,hcount,fun e h => ?_⟩
      cases h
      exact hfound entry rfl
    | exhausted | outOfBounds index | outOfFuel => exact ⟨rfl,hnone,hcount,fun e h => by cases h⟩

lemma ProxyAttempts.next_file (attempts : ProxyAttempts) (now : ℕ) (shuffles : ℕ → Shuffle) (p : Pool) :
    (attempts.next now shuffles p).2.2.1.file=p.file := by
  unfold next
  split_ifs
  · rfl
  · rfl
  · dsimp only
    cases (p.nextRandomAvailable now attempts.tried shuffles).outcome <;> rfl

end RotatorProxy.Proxy
