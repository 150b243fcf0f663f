import RotatorProxy.Library.Run
import RotatorProxy.Proxy.Calls
import RotatorProxy.Proxy.Invariant

/-! Failure records against the disabled map under interleaved calls. A report changes the record in
one section and the map in a later one; the two agree in the end when the writes to the map come in
the order of the records they belong to. -/
namespace RotatorProxy.Proxy
open Text Library

variable {env : Externals} {cfg : PoolConfig} {U : Set Str} {key : Str} {w t : World}
  {a b : PoolSection} {listed : Option ℕ}

/-- The key whose entry of the disabled map a section sets, and the count it lists afterwards. -/
def PoolSection.disabledWrite : PoolSection → Option (Str × Option ℕ)
  | insertDisabled key count _ => some (key,some count)
  | removeDisabled key _ => some (key,none)
  | _ => none

/-- The key of a section that is only ever run for an entry of the pool. -/
def PoolSection.subject : PoolSection → Option Str
  | reportSuccess entry | reportFailure _ entry => some entry.key
  | removeRecord key | insertDisabled key _ _ | removeDisabled key _ | removeAndRetire key _ => some key
  | _ => none

/-- Sections that touch neither the records nor the entries. -/
def PoolSection.isTrailing : PoolSection → Bool
  | readGeneration | resetSelection _ | persistSnapshot | persistWrite _ => true
  | _ => false

/-- Sections that may still be to come after the next one of a call. -/
def PoolSection.isFollowUp : PoolSection → Bool
  | removeAndRetire _ _ => true
  | a => a.isTrailing

def World.count (w : World) (key : Str) : Option ℕ := disabledCount (w.pool.failures key)

def World.listedCount (env : Externals) (w : World) (key : Str) : Option ℕ := w.pool.listedCount env key

/-- The entry of a key after a section, as far as the section writes it. -/
def PoolSection.written (key : Str) (listed : Option ℕ) (a : PoolSection) : Option ℕ :=
  match a.disabledWrite with
  | some (k,count) => if k=key then count else listed
  | none => listed

def settle (key : Str) (listed : Option ℕ) (sections : List PoolSection) : Option ℕ :=
  sections.foldl (PoolSection.written key) listed

/-- Everything but `replace`; what is merged has keys in `U`. -/
def PoolSection.InScope (U : Set Str) : PoolSection → Prop
  | merge proxies => ∀ node ∈ proxies, node.key ∈ U
  | replace _ | clearShard _ => False
  | _ => True

/-- None of the sections writes the entry of the key. -/
def NoWrite (key : Str) (sections : List PoolSection) : Prop :=
  ∀ a ∈ sections, ∀ count, a.disabledWrite ≠ some (key,count)

/-- The next section of the call writes an entry of the disabled map for which a call that changed
its record earlier still has its write to do. -/
def overtakes (c : Concurrent) (i : ℕ) : Bool :=
  match c.calls[i]? with
  | some (a::_) => match a.disabledWrite with
    | some (key,_) => (c.calls.take i).flatten.any (fun b => b.disabledWrite.any (fun e => e.1=key))
    | none => false
  | _ => false

/-- Calls of the reporting operations, of `merge` and of the iterators, in which no write overtakes
another. -/
def InOrder (U : Set Str) (c : Concurrent) : Move PoolSection → Prop
  | .start a => a.InScope U
  | .resume i => overtakes c i = false

@[simp] lemma settle_nil : settle key listed []=listed := rfl

lemma settle_cons (l : List PoolSection) :
    settle key listed (a::l)=settle key (a.written key listed) l := rfl

lemma settle_append (l l' : List PoolSection) :
    settle key listed (l++l')=settle key (settle key listed l) l' := by
  simp [settle]

lemma written_noWrite (h : ∀ count, a.disabledWrite ≠ some (key,count)) : a.written key listed=listed := by
  unfold PoolSection.written
  split
  · next k count hw => exact if_neg (fun heq => h count (by rw [hw,heq]))
  · rfl

lemma written_write {count : Option ℕ} (h : a.disabledWrite=some (key,count)) :
    a.written key listed=count := by
  simp [PoolSection.written,h]

lemma NoWrite.append {l l' : List PoolSection} (h : NoWrite key l) (h' : NoWrite key l') :
    NoWrite key (l++l') := fun a ha => (List.mem_append.mp ha).elim (h a) (h' a)

lemma settle_noWrite {l : List PoolSection} (h : NoWrite key l) : settle key listed l=listed := by
  induction l generalizing listed with
  | nil => rfl
  | cons a l ih =>
    rw [settle_cons,written_noWrite (h a List.mem_cons_self)]
    exact ih (fun b hb => h b (List.mem_cons_of_mem _ hb))

/-- What a section does to the record and the entry of one key, and what it leaves to be done. -/
inductive KeyEffect (env : Externals) (key : Str) (a : PoolSection) (w t : World) (more : List PoolSection) :
    Prop
  | quiet (wasActive : key ∈ w.pool.activeKeys) (own : NoWrite key [a]) (none : NoWrite key more)
      (count : t.count key=w.count key) (listed : t.listedCount env key=w.listedCount env key)
  | wrote (wasActive : key ∈ w.pool.activeKeys) (n : Option ℕ) (write : a.disabledWrite=some (key,n))
      (none : NoWrite key more) (count : t.count key=w.count key) (listed : t.listedCount env key=n)
  | decided (wasActive : key ∈ w.pool.activeKeys) (b : PoolSection) (tail : List PoolSection)
      (more_eq : more=b::tail) (write : b.disabledWrite=some (key,t.count key)) (none : NoWrite key tail)
  | retiring (persist : Bool) (more_mem : .removeAndRetire key persist ∈ more)
  | removing (eq : a=.removeRecord key)
  | gone (gone : key ∉ t.pool.activeKeys)
  | entered (new : key ∉ w.pool.activeKeys) (unretired : proxyKeyHash env key ∉ w.pool.state.retiredHashes)
      (own : NoWrite key [a]) (none : NoWrite key more)
      (agrees : w.pool.failures key=Option.none → t.count key=t.listedCount env key)
      (listed : t.listedCount env key=w.listedCount env key)

/-! Each section -/

lemma noWrite_nil : NoWrite key [] := by
  intro a ha
  cases ha

lemma noWrite_singleton (h : a.disabledWrite=none) : NoWrite key [a] := by
  intro b hb count
  rw [List.mem_singleton.mp hb,h]
  exact Option.some_ne_none _ |>.symm

lemma disabledWrite_followUp (h : a.isFollowUp = true) : a.disabledWrite=none := by
  cases a <;> simp_all [PoolSection.isFollowUp,PoolSection.isTrailing,PoolSection.disabledWrite]

lemma noWrite_of_followUps {l : List PoolSection} (h : ∀ a ∈ l, a.isFollowUp = true) : NoWrite key l := by
  intro a ha count
  rw [disabledWrite_followUp (h a ha)]
  exact (Option.some_ne_none _).symm

lemma followUp_of_trailing (h : a.isTrailing = true) : a.isFollowUp = true := by
  cases a <;> first | rfl | exact h

lemma trailing_persist (persist : Bool) :
    ∀ b ∈ (if persist then persistSections cfg else []), b.isTrailing = true := by
  unfold persistSections
  cases persist <;> split_ifs <;> simp [PoolSection.isTrailing]

lemma trailing_reset (reset : Option ℕ) : ∀ b ∈ resetSections reset, b.isTrailing = true := by
  cases reset <;> simp [resetSections,PoolSection.isTrailing]

lemma trailing_append {l l' : List PoolSection} (h : ∀ b ∈ l, b.isTrailing = true)
    (h' : ∀ b ∈ l', b.isTrailing = true) : ∀ b ∈ l++l', b.isTrailing = true :=
  fun b hb => (List.mem_append.mp hb).elim (h b) (h' b)

lemma trailing_merge (proxies : List ProxyNode) :
    ∀ b ∈ (execSection env cfg (.merge proxies) w).2, b.isTrailing = true :=
  trailing_append (trailing_reset _) (trailing_persist true)

lemma trailing_retire (k : Str) (persist : Bool) :
    ∀ b ∈ (execSection env cfg (.removeAndRetire k persist) w).2, b.isTrailing = true := by
  simp only [execSection]
  split
  · exact trailing_append (trailing_reset _) (trailing_persist persist)
  · exact fun b hb => by cases hb

lemma noWrite_of_trailing {l : List PoolSection} (h : ∀ a ∈ l, a.isTrailing = true) : NoWrite key l :=
  noWrite_of_followUps (fun a ha => followUp_of_trailing (h a ha))

/-- Of the sections that one leaves to be done, all but the first are follow-ups. -/
theorem execSection_followUp (ha : a.InScope U) :
    ∀ b ∈ (execSection env cfg a w).2.tail, b.isFollowUp = true := by
  cases a with
  | merge proxies => exact fun b hb => followUp_of_trailing (trailing_merge proxies b (List.mem_of_mem_tail hb))
  | replace proxies => exact ha.elim
  | removeAndRetire key persist =>
    exact fun b hb => followUp_of_trailing (trailing_retire key persist b (List.mem_of_mem_tail hb))
  | reportSuccess entry =>
    simp only [execSection]
    split_ifs <;> simp
  | reportFailure now entry =>
    simp only [execSection]
    split_ifs <;> simp
  | recheckSuccess key persist =>
    simp only [execSection]
    split_ifs <;> simp [PoolSection.isFollowUp,PoolSection.isTrailing]
  | recheckFailure key persist =>
    simp only [execSection]
    generalize w.pool.recheckFailureLocked key=r
    obtain ⟨q,_ | count⟩ := r
    · simp
    · dsimp only
      split_ifs <;> simp [PoolSection.isFollowUp]
  | insertDisabled _ _ persist | removeDisabled _ persist =>
    exact fun b hb => followUp_of_trailing (trailing_persist persist b (List.mem_of_mem_tail hb))
  | attempts | next _ _ _ | clearShard _ | removeRecord _ | resetSelection _ | persistWrite _ =>
    intro b hb
    cases hb
  | readGeneration | persistSnapshot =>
    intro b hb
    cases hb

lemma noWrite_ne {k : Str} {count : Option ℕ} (h : a.disabledWrite=some (k,count)) (hne : key ≠ k) :
    NoWrite key [a] := by
  intro b hb n heq
  rw [List.mem_singleton.mp hb,h] at heq
  exact hne (Prod.mk.inj (Option.some.inj heq)).1.symm

/-- A section that leaves the entries of the pool, the count and the map entry of the key alone. -/
lemma KeyEffect.of_same {more : List PoolSection} (hproxies : t.pool.state.proxies=w.pool.state.proxies)
    (hown : NoWrite key [a]) (hmore : NoWrite key more) (hcount : t.count key=w.count key)
    (hlisted : t.listedCount env key=w.listedCount env key) : KeyEffect env key a w t more := by
  by_cases hk : key ∈ w.pool.activeKeys
  · exact .quiet hk hown hmore hcount hlisted
  · refine .gone ?_
    rw [Pool.activeKeys_congr hproxies]
    exact hk

/-- A section on the record of another key. -/
lemma KeyEffect.setRecord_ne {k : Str} {record : Option FailureRecord} {more : List PoolSection}
    (hne : key ≠ k) (hown : NoWrite key [a]) (hmore : NoWrite key more) :
    KeyEffect env key a w (w.setPool (w.pool.setRecord k record)) more :=
  .of_same rfl hown hmore (congrArg disabledCount (Pool.setRecord_ne record hne)) rfl

/-- A section that decides the entry of its key, if the key is active. -/
lemma KeyEffect.of_decided {more tail : List PoolSection} (hproxies : t.pool.state.proxies=w.pool.state.proxies)
    (hmore : more=b::tail) (hwrite : b.disabledWrite=some (key,t.count key)) (htail : NoWrite key tail) :
    KeyEffect env key a w t more := by
  by_cases hk : key ∈ w.pool.activeKeys
  · exact .decided hk b tail hmore hwrite htail
  · refine .gone ?_
    rw [Pool.activeKeys_congr hproxies]
    exact hk

theorem reportSuccess_keyEffect (entry : ProxyEntry) :
    KeyEffect env key (.reportSuccess entry) w (execSection env cfg (.reportSuccess entry) w).1
      (execSection env cfg (.reportSuccess entry) w).2 := by
  have hown : NoWrite key [.reportSuccess entry] := noWrite_singleton rfl
  rcases w.pool.reportSuccessLocked_cases entry.key with ⟨_,he⟩ | ⟨record,hr,he⟩
  · simp only [execSection,he]
    exact .of_same rfl hown noWrite_nil rfl rfl
  · simp only [execSection,he]
    cases hb : record.disabled || decide (0 < record.disabledRecheckFailures) with
    | false =>
      by_cases hk : key=entry.key
      · subst hk
        have hd : record.disabled=false := by simpa using (Bool.or_eq_false_iff.mp hb).1
        refine .of_same rfl hown noWrite_nil ?_ rfl
        simp [World.count,World.setPool,hr,hd]
      · exact .setRecord_ne hk hown noWrite_nil
    | true =>
      by_cases hk : key=entry.key
      · subst hk
        refine .of_decided rfl rfl ?_ noWrite_nil
        simp [PoolSection.disabledWrite,World.count,World.setPool]
      · exact .setRecord_ne hk hown (noWrite_ne rfl hk)

theorem reportFailure_keyEffect (now : ℕ) (entry : ProxyEntry) :
    KeyEffect env key (.reportFailure now entry) w (execSection env cfg (.reportFailure now entry) w).1
      (execSection env cfg (.reportFailure now entry) w).2 := by
  have hown : NoWrite key [.reportFailure now entry] := noWrite_singleton rfl
  obtain ⟨hcount,_⟩ := recordFailure_disabledCount cfg now (w.pool.failures entry.key)
  have he : w.pool.reportFailureLocked cfg now entry.key=
      (w.pool.setRecord entry.key (some (recordFailure cfg now (w.pool.failures entry.key)).1),
        (recordFailure cfg now (w.pool.failures entry.key)).2) := rfl
  generalize recordFailure cfg now (w.pool.failures entry.key)=r at *
  obtain ⟨record,becameDisabled⟩ := r
  simp only [execSection,he]
  by_cases hk : key=entry.key
  · subst hk
    cases becameDisabled with
    | false =>
      refine .of_same rfl hown noWrite_nil ?_ rfl
      simpa [World.count,World.setPool] using hcount
    | true =>
      refine .of_decided rfl rfl ?_ noWrite_nil
      simpa [PoolSection.disabledWrite,World.count,World.setPool] using hcount.symm
  · cases becameDisabled with
    | false => exact .setRecord_ne hk hown noWrite_nil
    | true => exact .setRecord_ne hk hown (noWrite_ne rfl hk)

theorem recheckSuccess_keyEffect (k : Str) (persist : Bool) :
    KeyEffect env key (.recheckSuccess k persist) w (execSection env cfg (.recheckSuccess k persist) w).1
      (execSection env cfg (.recheckSuccess k persist) w).2 := by
  have hown : NoWrite key [.recheckSuccess k persist] := noWrite_singleton rfl
  have htail : NoWrite key [.readGeneration] := noWrite_singleton rfl
  rcases w.pool.recheckSuccessLocked_cases k with ⟨_,he⟩ | ⟨_,he⟩
  · simp only [execSection,he]
    exact .of_same rfl hown noWrite_nil rfl rfl
  · simp only [execSection,he]
    by_cases hk : key=k
    · subst hk
      refine .of_decided rfl rfl ?_ htail
      simp [PoolSection.disabledWrite,World.count,World.setPool]
    · exact .setRecord_ne hk hown (NoWrite.append (noWrite_ne rfl hk) htail)

theorem recheckFailure_keyEffect (k : Str) (persist : Bool) :
    KeyEffect env key (.recheckFailure k persist) w (execSection env cfg (.recheckFailure k persist) w).1
      (execSection env cfg (.recheckFailure k persist) w).2 := by
  have hown : NoWrite key [.recheckFailure k persist] := noWrite_singleton rfl
  rcases w.pool.recheckFailureLocked_cases k with ⟨_,he⟩ | ⟨record,count,_,_,hnew,he⟩
  · simp only [execSection,he]
    exact .of_same rfl hown noWrite_nil rfl rfl
  · simp only [execSection,he]
    split_ifs with hthird
    · by_cases hk : key=k
      · subst hk
        exact .retiring persist (by simp)
      · refine .setRecord_ne hk hown (NoWrite.append (noWrite_singleton rfl) (noWrite_singleton rfl))
    · by_cases hk : key=k
      · subst hk
        refine .of_decided rfl rfl ?_ noWrite_nil
        simpa [PoolSection.disabledWrite,World.count,World.setPool] using hnew.symm
      · exact .setRecord_ne hk hown (noWrite_ne rfl hk)

theorem disabledWrite_keyEffect (hU : Set.InjOn (proxyKeyHash env) U) (hkey : key ∈ U) {k : Str}
    (hk : k ∈ U) {count : Option ℕ} (ha : a.disabledWrite=some (k,count)) :
    KeyEffect env key a w (execSection env cfg a w).1 (execSection env cfg a w).2 := by
  have hhash : key ≠ k → proxyKeyHash env key ≠ proxyKeyHash env k := fun hne heq => hne (hU hkey hk heq)
  cases a with
  | insertDisabled k' n persist =>
    cases ha
    by_cases hactive : key ∈ w.pool.activeKeys
    · by_cases hne : key=k
      · subst hne
        exact .wrote hactive _ rfl (noWrite_of_trailing (trailing_persist persist)) rfl
          (Pool.insertDisabledLocked_listedCount key w.pool n)
      · exact .quiet hactive (noWrite_ne rfl hne) (noWrite_of_trailing (trailing_persist persist)) rfl
          (Pool.insertDisabledLocked_listedCount_ne k w.pool n (hhash hne))
    · exact .gone hactive
  | removeDisabled k' persist =>
    cases ha
    by_cases hactive : key ∈ w.pool.activeKeys
    · by_cases hne : key=k
      · subst hne
        exact .wrote hactive _ rfl (noWrite_of_trailing (trailing_persist persist)) rfl
          (Pool.removeDisabledLocked_listedCount key w.pool)
      · exact .quiet hactive (noWrite_ne rfl hne) (noWrite_of_trailing (trailing_persist persist)) rfl
          (Pool.removeDisabledLocked_listedCount_ne k w.pool (hhash hne))
    · exact .gone hactive
  | _ => cases ha

theorem removeAndRetire_keyEffect (hU : Set.InjOn (proxyKeyHash env) U) (hkey : key ∈ U) {k : Str}
    (hk : k ∈ U) (persist : Bool) :
    KeyEffect env key (.removeAndRetire k persist) w (execSection env cfg (.removeAndRetire k persist) w).1
      (execSection env cfg (.removeAndRetire k persist) w).2 := by
  obtain ⟨hproxies,_,hdisabled,hfailures,_⟩ := Pool.removeAndRetireLocked_state env k w.pool
  have hactive : ∀ k', k' ∈ (w.pool.removeAndRetireLocked env k).1.activeKeys ↔
      k' ∈ w.pool.activeKeys ∧ k' ≠ k := by
    intro k'
    rw [Pool.activeKeys,hproxies]
    exact Pool.mem_keys_filter_ne
  by_cases hin : key ∈ (w.pool.removeAndRetireLocked env k).1.activeKeys
  · obtain ⟨hold,hne⟩ := (hactive key).mp hin
    have hhash : proxyKeyHash env key ≠ proxyKeyHash env k := fun heq => hne (hU hkey hk heq)
    refine .quiet hold (noWrite_singleton rfl) (noWrite_of_trailing (trailing_retire k persist))
      (congrArg disabledCount (congrFun hfailures key)) ?_
    change (AList.lookup _ (w.pool.removeAndRetireLocked env k).1.state.disabledByHash).map _=_
    rw [hdisabled,AList.lookup_erase_ne hhash]
    rfl
  · exact .gone hin

theorem merge_keyEffect (proxies : List ProxyNode) :
    KeyEffect env key (.merge proxies) w (execSection env cfg (.merge proxies) w).1
      (execSection env cfg (.merge proxies) w).2 := by
  have hown : NoWrite key [.merge proxies] := noWrite_singleton rfl
  have hmore : NoWrite key (execSection env cfg (.merge proxies) w).2 :=
    noWrite_of_trailing (trailing_merge proxies)
  have hpool : (execSection env cfg (.merge proxies) w).1.pool=_ := Pool.mergeLocked_pool env cfg proxies w.pool
  generalize (execSection env cfg (.merge proxies) w).1=t at *
  have hlisted : t.listedCount env key=w.listedCount env key := by
    unfold World.listedCount Pool.listedCount
    rw [hpool]
  have hrecord : t.pool.failures key=
      restoreRecords env cfg w.pool.state.disabledByHash (w.pool.mergeAdded env proxies) w.pool.failures key := by
    rw [hpool]
  have hactive : t.pool.activeKeys=
      w.pool.activeKeys++(w.pool.mergeAdded env proxies).map ProxyEntry.key := by
    unfold Pool.activeKeys
    rw [hpool]
    exact List.map_append
  rw [restoreRecords_apply] at hrecord
  by_cases hin : key ∈ t.pool.activeKeys
  · by_cases hadded : key ∈ (w.pool.mergeAdded env proxies).map ProxyEntry.key
    · obtain ⟨e,he,rfl⟩ := List.mem_map.mp hadded
      obtain ⟨_,_,hunretired,hnew⟩ : _ ∧ _ ∧ _ ∧ _ := ⟨trivial,retainNew_mem he⟩
      refine .entered hnew hunretired hown hmore ?_ hlisted
      intro hnone
      rw [if_pos hadded,hnone,Option.or_none] at hrecord
      rw [hlisted,World.count,hrecord,disabledCount_listed]
      rfl
    · rw [if_neg hadded] at hrecord
      rw [hactive] at hin
      exact .quiet ((List.mem_append.mp hin).resolve_right hadded) hown hmore
        (congrArg disabledCount hrecord) hlisted
  · exact .gone hin

theorem next_keyEffect (caller now : ℕ) (shuffles : ℕ → Shuffle) :
    KeyEffect env key (.next caller now shuffles) w (w.next caller now shuffles) [] := by
  have hown : NoWrite key [.next caller now shuffles] := noWrite_singleton rfl
  unfold World.next
  cases w.iterators[caller]? with
  | none => exact .of_same rfl hown noWrite_nil rfl rfl
  | some attempts =>
    obtain ⟨hstate,_,hcount,_⟩ := attempts.next_pool now shuffles w.pool
    refine .of_same (congrArg PoolState.proxies hstate) hown noWrite_nil (hcount key) ?_
    unfold World.listedCount Pool.listedCount
    dsimp only
    rw [hstate]

/-- The effect of any section on a key, when it is about keys of `U` only. -/
theorem execSection_keyEffect (hU : Set.InjOn (proxyKeyHash env) U) (hkey : key ∈ U)
    (hsubject : ∀ k, a.subject=some k → k ∈ U) (hscope : a.InScope U) :
    KeyEffect env key a w (execSection env cfg a w).1 (execSection env cfg a w).2 := by
  cases a with
  | next caller now shuffles => exact next_keyEffect caller now shuffles
  | merge proxies => exact merge_keyEffect proxies
  | replace _ | clearShard _ => exact hscope.elim
  | reportSuccess entry => exact reportSuccess_keyEffect entry
  | reportFailure now entry => exact reportFailure_keyEffect now entry
  | recheckSuccess k persist => exact recheckSuccess_keyEffect k persist
  | recheckFailure k persist => exact recheckFailure_keyEffect k persist
  | removeRecord k =>
    by_cases hk : key=k
    · subst hk
      exact .removing rfl
    · exact .setRecord_ne hk (noWrite_singleton rfl) noWrite_nil
  | insertDisabled k count persist => exact disabledWrite_keyEffect hU hkey (hsubject k rfl) rfl
  | removeDisabled k persist => exact disabledWrite_keyEffect hU hkey (hsubject k rfl) rfl
  | removeAndRetire k persist => exact removeAndRetire_keyEffect hU hkey (hsubject k rfl) persist
  | attempts | resetSelection _ | persistWrite _ =>
    exact .of_same rfl (noWrite_singleton rfl) noWrite_nil rfl rfl
  | readGeneration | persistSnapshot =>
    exact .of_same rfl (noWrite_singleton rfl) (noWrite_singleton rfl) rfl rfl

/-! The invariant -/

/-- A key of `U` that is active or has been retired. -/
def World.Known (env : Externals) (U : Set Str) (w : World) (key : Str) : Prop :=
  key ∈ U ∧ (key ∈ w.pool.activeKeys ∨ proxyKeyHash env key ∈ w.pool.state.retiredHashes)

/-- What a section may add to a pool and to its call. -/
structure SectionEffect (env : Externals) (U : Set Str) (a : PoolSection) (w t : World)
    (more : List PoolSection) : Prop where
  known : ∀ k, w.Known env U k → t.Known env U k
  active : ∀ k ∈ t.pool.activeKeys, k ∈ w.pool.activeKeys ∨ k ∈ U
  records : ∀ k, t.pool.failures k ≠ none → w.pool.failures k ≠ none ∨ a.subject=some k ∨ k ∈ t.pool.activeKeys
  handed : ∀ e ∈ t.handedOut, e ∈ w.handedOut ∨ e ∈ w.pool.state.proxies
  subjects : ∀ b ∈ more, ∀ k, b.subject=some k → a.subject=some k ∨ w.pool.failures k ≠ none
  inner : ∀ b ∈ more, b.isFollowUp = true ∨ b.subject.isSome = true
  retiring : ∀ k, .removeRecord k ∈ more → ∃ persist, .removeAndRetire k persist ∈ more

lemma subject_trailing (h : a.isTrailing = true) : a.subject=none := by
  cases a <;> simp_all [PoolSection.isTrailing,PoolSection.subject]

/-- A section that leaves the entries of the pool and the retired hashes alone. -/
lemma SectionEffect.of_same {more : List PoolSection} (hproxies : t.pool.state.proxies=w.pool.state.proxies)
    (hretired : t.pool.state.retiredHashes=w.pool.state.retiredHashes) (hhanded : t.handedOut=w.handedOut)
    (hrecords : ∀ k, t.pool.failures k ≠ none → w.pool.failures k ≠ none ∨ a.subject=some k)
    (hsubjects : ∀ b ∈ more, ∀ k, b.subject=some k → a.subject=some k ∨ w.pool.failures k ≠ none)
    (hinner : ∀ b ∈ more, b.isFollowUp = true ∨ b.subject.isSome = true)
    (hretiring : ∀ k, .removeRecord k ∈ more → ∃ persist, .removeAndRetire k persist ∈ more) :
    SectionEffect env U a w t more := by
  have hactive : t.pool.activeKeys=w.pool.activeKeys := Pool.activeKeys_congr hproxies
  refine ⟨?_,?_,?_,?_,hsubjects,hinner,hretiring⟩
  · intro k hk
    unfold World.Known at hk ⊢
    rwa [hactive,hretired]
  · intro k hk
    exact .inl (hactive ▸ hk)
  · exact fun k hk => (hrecords k hk).imp_right .inl
  · intro e he
    exact .inl (hhanded ▸ he)

/-- The same for a section after which only trailing ones come. -/
lemma SectionEffect.of_trailing {more : List PoolSection} (hproxies : t.pool.state.proxies=w.pool.state.proxies)
    (hretired : t.pool.state.retiredHashes=w.pool.state.retiredHashes) (hhanded : t.handedOut=w.handedOut)
    (hrecords : ∀ k, t.pool.failures k ≠ none → w.pool.failures k ≠ none ∨ a.subject=some k)
    (hmore : ∀ b ∈ more, b.isTrailing = true) : SectionEffect env U a w t more := by
  refine .of_same hproxies hretired hhanded hrecords ?_ (fun b hb => .inl (followUp_of_trailing (hmore b hb))) ?_
  · intro b hb k hk
    rw [subject_trailing (hmore b hb)] at hk
    cases hk
  · intro k hk
    cases hmore _ hk

lemma setRecord_records {k key : Str} {p : Pool} {record : Option FailureRecord}
    (h : (p.setRecord key record).failures k ≠ none) : p.failures k ≠ none ∨ key=k := by
  by_cases hk : k=key
  · exact .inr hk.symm
  · rw [Pool.setRecord_ne record hk] at h
    exact .inl h

lemma setNone_records {k key : Str} {p : Pool} (h : (p.setRecord key none).failures k ≠ none) :
    p.failures k ≠ none := by
  by_cases hk : k=key
  · subst hk
    exact absurd (Pool.setRecord_self none) h
  · rwa [Pool.setRecord_ne none hk] at h

theorem reportSuccess_sectionEffect (entry : ProxyEntry) :
    SectionEffect env U (.reportSuccess entry) w (execSection env cfg (.reportSuccess entry) w).1
      (execSection env cfg (.reportSuccess entry) w).2 := by
  rcases w.pool.reportSuccessLocked_cases entry.key with ⟨_,he⟩ | ⟨record,hr,he⟩
  · simp only [execSection,he]
    exact .of_trailing rfl rfl rfl (fun k hk => .inl hk) (by simp)
  · simp only [execSection,he]
    refine .of_same rfl rfl rfl (fun k hk => .inl (setNone_records hk)) ?_ ?_ ?_
    all_goals
      cases record.disabled || decide (0 < record.disabledRecheckFailures) <;> simp [PoolSection.subject]

theorem reportFailure_sectionEffect (now : ℕ) (entry : ProxyEntry) :
    SectionEffect env U (.reportFailure now entry) w (execSection env cfg (.reportFailure now entry) w).1
      (execSection env cfg (.reportFailure now entry) w).2 := by
  refine .of_same rfl rfl rfl
    (fun k hk => (setRecord_records hk).imp_right (congrArg some)) ?_ ?_ ?_
  all_goals
    simp only [execSection]
    cases (w.pool.reportFailureLocked cfg now entry.key).2 <;> simp [PoolSection.subject]

theorem recheckSuccess_sectionEffect (key : Str) (persist : Bool) :
    SectionEffect env U (.recheckSuccess key persist) w (execSection env cfg (.recheckSuccess key persist) w).1
      (execSection env cfg (.recheckSuccess key persist) w).2 := by
  rcases w.pool.recheckSuccessLocked_cases key with ⟨_,he⟩ | ⟨⟨count,hcount⟩,he⟩
  · simp only [execSection,he]
    exact .of_trailing rfl rfl rfl (fun k hk => .inl hk) (by simp)
  · have hrecord : w.pool.failures key ≠ none := fun hn => by simp [hn] at hcount
    simp only [execSection,he,if_true]
    refine .of_same rfl rfl rfl (fun k hk => .inl (setNone_records hk)) ?_ ?_ (by simp)
    · simp [PoolSection.subject,hrecord]
    · simp [PoolSection.subject,PoolSection.isFollowUp,PoolSection.isTrailing]

theorem recheckFailure_sectionEffect (key : Str) (persist : Bool) :
    SectionEffect env U (.recheckFailure key persist) w (execSection env cfg (.recheckFailure key persist) w).1
      (execSection env cfg (.recheckFailure key persist) w).2 := by
  rcases w.pool.recheckFailureLocked_cases key with ⟨_,he⟩ | ⟨record,count,hr,_,_,he⟩
  · simp only [execSection,he]
    exact .of_trailing rfl rfl rfl (fun k hk => .inl hk) (by simp)
  · have hrecord : w.pool.failures key ≠ none := fun hn => by simp [hn] at hr
    simp only [execSection,he]
    refine .of_same rfl rfl rfl ?_ ?_ ?_ ?_
    · intro k hk
      exact .inl ((setRecord_records hk).elim id (fun heq => heq ▸ hrecord))
    all_goals
      split_ifs <;> simp [PoolSection.subject,PoolSection.isFollowUp,hrecord]

theorem removeAndRetire_sectionEffect (key : Str) (persist : Bool) :
    SectionEffect env U (.removeAndRetire key persist) w
      (execSection env cfg (.removeAndRetire key persist) w).1
      (execSection env cfg (.removeAndRetire key persist) w).2 := by
  obtain ⟨hproxies,hretired,_,hfailures,_⟩ := Pool.removeAndRetireLocked_state env key w.pool
  have htrailing := @trailing_retire env cfg w key persist
  have hactive : ∀ k, k ∈ (execSection env cfg (.removeAndRetire key persist) w).1.pool.activeKeys ↔
      k ∈ w.pool.activeKeys ∧ k ≠ key := by
    intro k
    change k ∈ (w.pool.removeAndRetireLocked env key).1.activeKeys ↔ _
    rw [Pool.activeKeys,hproxies]
    exact Pool.mem_keys_filter_ne
  have hhashes : (execSection env cfg (.removeAndRetire key persist) w).1.pool.state.retiredHashes=
      w.pool.state.retiredHashes.insert (proxyKeyHash env key) := hretired
  refine ⟨?_,fun k hk => .inl ((hactive k).mp hk).1,?_,fun e he => .inl he,?_,
    fun b hb => .inl (followUp_of_trailing (htrailing b hb)),fun k hk => by cases htrailing _ hk⟩
  · rintro k ⟨hU,hk⟩
    refine ⟨hU,?_⟩
    rw [hactive,hhashes,List.mem_insert_iff]
    by_cases hne : k=key
    · exact .inr (.inl (by rw [hne]))
    · exact hk.imp (fun h => ⟨h,hne⟩) .inr
  · intro k hk
    exact .inl (by rwa [← hfailures])
  · intro b hb k hk
    rw [subject_trailing (htrailing b hb)] at hk
    cases hk

theorem merge_sectionEffect {proxies : List ProxyNode} (hscope : ∀ node ∈ proxies, node.key ∈ U) :
    SectionEffect env U (.merge proxies) w (execSection env cfg (.merge proxies) w).1
      (execSection env cfg (.merge proxies) w).2 := by
  have htrailing := @trailing_merge env cfg w proxies
  have hpool : (execSection env cfg (.merge proxies) w).1.pool=_ := Pool.mergeLocked_pool env cfg proxies w.pool
  have hactive : (execSection env cfg (.merge proxies) w).1.pool.activeKeys=
      w.pool.activeKeys++(w.pool.mergeAdded env proxies).map ProxyEntry.key := by
    unfold Pool.activeKeys
    rw [hpool]
    exact List.map_append
  refine ⟨?_,?_,?_,fun e he => .inl he,?_,
    fun b hb => .inl (followUp_of_trailing (htrailing b hb)),fun k hk => by cases htrailing _ hk⟩
  · rintro k ⟨hU,hk⟩
    refine ⟨hU,?_⟩
    rw [hactive,hpool]
    exact hk.imp_left (List.mem_append_left _)
  · intro k hk
    rw [hactive] at hk
    refine (List.mem_append.mp hk).imp_right (fun hk => ?_)
    obtain ⟨e,he,rfl⟩ := List.mem_map.mp hk
    obtain ⟨node,hn,rfl⟩ := List.mem_map.mp (retainNew_mem he).1
    exact hscope node hn
  · intro k hk
    by_cases hadded : k ∈ (w.pool.mergeAdded env proxies).map ProxyEntry.key
    · exact .inr (.inr (by rw [hactive]; exact List.mem_append_right _ hadded))
    · rw [hpool] at hk
      dsimp only at hk
      rw [restoreRecords_apply,if_neg hadded] at hk
      exact .inl hk
  · intro b hb k hk
    rw [subject_trailing (htrailing b hb)] at hk
    cases hk

theorem next_sectionEffect (caller now : ℕ) (shuffles : ℕ → Shuffle) :
    SectionEffect env U (.next caller now shuffles) w (w.next caller now shuffles) [] := by
  unfold World.next
  cases w.iterators[caller]? with
  | none => exact .of_trailing rfl rfl rfl (fun k hk => .inl hk) (by simp)
  | some attempts =>
    obtain ⟨hstate,hnone,_,hfound⟩ := attempts.next_pool now shuffles w.pool
    have hactive : (attempts.next now shuffles w.pool).2.2.1.activeKeys=w.pool.activeKeys :=
      Pool.activeKeys_congr (congrArg PoolState.proxies hstate)
    dsimp only
    refine ⟨?_,?_,?_,?_,by simp,by simp,by simp⟩
    · intro k hk
      unfold World.Known at hk ⊢
      rwa [hactive,hstate]
    · intro k hk
      exact .inl (hactive ▸ hk)
    · exact fun k hk => .inl (fun h => hk (hnone k h))
    · intro e he
      generalize (attempts.next now shuffles w.pool).1=choice at *
      obtain _ | _ | entry := choice
      · exact .inl he
      · exact .inl he
      · rcases List.mem_append.mp he with he | he
        · exact .inl he
        · rw [List.mem_singleton.mp he]
          exact .inr (hfound entry rfl)

theorem execSection_sectionEffect (hscope : a.InScope U) :
    SectionEffect env U a w (execSection env cfg a w).1 (execSection env cfg a w).2 := by
  cases a with
  | next caller now shuffles => exact next_sectionEffect caller now shuffles
  | merge proxies => exact merge_sectionEffect hscope
  | replace _ | clearShard _ => exact hscope.elim
  | reportSuccess entry => exact reportSuccess_sectionEffect entry
  | reportFailure now entry => exact reportFailure_sectionEffect now entry
  | recheckSuccess key persist => exact recheckSuccess_sectionEffect key persist
  | recheckFailure key persist => exact recheckFailure_sectionEffect key persist
  | removeAndRetire key persist => exact removeAndRetire_sectionEffect key persist
  | removeRecord key =>
    exact .of_trailing rfl rfl rfl (fun k hk => .inl (setNone_records hk)) (fun b hb => by cases hb)
  | insertDisabled key count persist =>
    exact .of_trailing rfl rfl rfl (fun k hk => .inl hk) (trailing_persist persist)
  | removeDisabled key persist =>
    exact .of_trailing rfl rfl rfl (fun k hk => .inl hk) (trailing_persist persist)
  | attempts | resetSelection _ | persistWrite _ | readGeneration | persistSnapshot =>
    refine .of_trailing rfl rfl rfl (fun k hk => .inl hk) ?_
    simp [execSection,PoolSection.isTrailing]

/-- The keys that are in use, what the calls in flight still have to do, and for every active key that
no call is about to retire: with the writes in flight the map says what the record says. -/
structure Tracked (env : Externals) (U : Set Str) (c : Concurrent) : Prop where
  active : ∀ k ∈ c.shared.pool.activeKeys, k ∈ U
  handed : ∀ e ∈ c.shared.handedOut, c.shared.Known env U e.key
  records : ∀ k, c.shared.pool.failures k ≠ none → c.shared.Known env U k
  subjects : ∀ a ∈ c.calls.flatten, ∀ k, a.subject=some k → c.shared.Known env U k
  scope : ∀ a ∈ c.calls.flatten, a.InScope U
  followUps : ∀ call ∈ c.calls, ∀ a ∈ call.tail, a.isFollowUp = true
  retiring : ∀ call ∈ c.calls, ∀ k, .removeRecord k ∈ call → ∃ persist, .removeAndRetire k persist ∈ call
  settles : ∀ k ∈ c.shared.pool.activeKeys, (∃ persist, .removeAndRetire k persist ∈ c.calls.flatten) ∨
    settle k (c.shared.listedCount env k) c.calls.flatten=c.shared.count k

lemma subject_of_disabledWrite {k : Str} {count : Option ℕ} (h : a.disabledWrite=some (k,count)) :
    a.subject=some k := by
  cases a <;> simp_all [PoolSection.disabledWrite,PoolSection.subject]

lemma inScope_of_inner (h : a.isFollowUp = true ∨ a.subject.isSome = true) : a.InScope U := by
  cases a <;> simp_all [PoolSection.isFollowUp,PoolSection.isTrailing,PoolSection.subject,PoolSection.InScope]

/-- A section that starts a call writes nothing, and is about an entry that was given out. -/
lemma startable_cases (h : startableSection cfg a w = true) :
    a.disabledWrite=none ∧ (∀ k, a ≠ .removeRecord k) ∧
      (∀ k, a.subject=some k → ∃ e ∈ w.handedOut, e.key=k) := by
  cases a <;> simp_all [startableSection,PoolSection.disabledWrite,PoolSection.subject]

lemma Tracked.start {c : Concurrent} (h : Tracked env U c) (hscope : a.InScope U)
    (hstart : startableSection cfg a c.shared = true) : Tracked env U ⟨c.shared,c.calls++[[a]]⟩ := by
  obtain ⟨hwrite,hremove,hsubject⟩ := startable_cases hstart
  have hflat : (c.calls++[[a]]).flatten=c.calls.flatten++[a] := by simp
  refine ⟨h.active,h.handed,h.records,?_,?_,?_,?_,?_⟩
  · rw [hflat]
    intro b hb k hk
    rcases List.mem_append.mp hb with hb | hb
    · exact h.subjects b hb k hk
    · rw [List.mem_singleton.mp hb] at hk
      obtain ⟨e,he,rfl⟩ := hsubject k hk
      exact h.handed e he
  · rw [hflat]
    intro b hb
    rcases List.mem_append.mp hb with hb | hb
    · exact h.scope b hb
    · rwa [List.mem_singleton.mp hb]
  · intro call hcall b hb
    rcases List.mem_append.mp hcall with hcall | hcall
    · exact h.followUps call hcall b hb
    · rw [List.mem_singleton.mp hcall] at hb
      cases hb
  · intro call hcall k hk
    rcases List.mem_append.mp hcall with hcall | hcall
    · exact h.retiring call hcall k hk
    · rw [List.mem_singleton.mp hcall] at hk
      exact absurd (List.mem_singleton.mp hk).symm (hremove k)
  · rw [hflat]
    intro k hk
    rcases h.settles k hk with ⟨persist,hp⟩ | hs
    · exact .inl ⟨persist,List.mem_append_left _ hp⟩
    · rw [settle_append,settle_noWrite (noWrite_singleton hwrite)]
      exact .inr hs

/-- The writes in flight still settle to the record after a section that overtakes none. -/
lemma Tracked.settles_resume {xs ys : List (List PoolSection)} {rest : List PoolSection}
    (hU : Set.InjOn (proxyKeyHash env) U) (h : Tracked env U ⟨w,xs++(a::rest)::ys⟩)
    (hfifo : ∀ k count, a.disabledWrite=some (k,count) → NoWrite k xs.flatten)
    (hactive : key ∈ (execSection env cfg a w).1.pool.activeKeys) :
    (∃ persist, .removeAndRetire key persist ∈
        xs.flatten++ys.flatten++((execSection env cfg a w).2++rest)) ∨
      settle key ((execSection env cfg a w).1.listedCount env key)
        (xs.flatten++ys.flatten++((execSection env cfg a w).2++rest))=
          (execSection env cfg a w).1.count key := by
  have hflat : (xs++(a::rest)::ys).flatten=xs.flatten++([a]++rest++ys.flatten) := by simp
  have hscope : a.InScope U := h.scope a (by simp)
  have heffect := @execSection_sectionEffect env cfg U w a hscope
  have hrest : ∀ k, NoWrite k rest := fun k =>
    noWrite_of_followUps (h.followUps (a::rest) (by simp))
  have hkey : key ∈ U := (heffect.active key hactive).elim (h.active key) id
  -- a call that is to retire the key is still in flight: it has not run its last section
  have hstill : ∀ persist, .removeAndRetire key persist ∈ (xs++(a::rest)::ys).flatten →
      .removeAndRetire key persist ∈ xs.flatten++ys.flatten++((execSection env cfg a w).2++rest) := by
    intro persist hp
    rw [hflat] at hp
    simp only [List.mem_append,List.mem_singleton] at hp ⊢
    rcases hp with hp | ((rfl | hp) | hp)
    · exact .inl (.inl hp)
    · obtain ⟨hproxies,_⟩ := Pool.removeAndRetireLocked_state env key w.pool
      change key ∈ (w.pool.removeAndRetireLocked env key).1.activeKeys at hactive
      rw [Pool.activeKeys,hproxies] at hactive
      exact absurd rfl (Pool.mem_keys_filter_ne.mp hactive).2
    · exact .inr (.inr hp)
    · exact .inl (.inr hp)
  have hkeyEffect : KeyEffect env key a w (execSection env cfg a w).1 (execSection env cfg a w).2 :=
    execSection_keyEffect hU hkey
      (fun k hk => (h.subjects a (by simp) k hk).1) hscope
  cases hkeyEffect with
  | quiet wasActive own none count listed =>
    refine (h.settles key wasActive).imp (Exists.imp hstill) (fun hs => ?_)
    simp only [hflat,settle_append,settle_noWrite own,settle_noWrite none,settle_noWrite (hrest key)] at hs ⊢
    rw [listed,count]
    exact hs
  | wrote wasActive n write none count listed =>
    refine (h.settles key wasActive).imp (Exists.imp hstill) (fun hs => ?_)
    simp only [hflat,settle_append,settle_noWrite none,settle_noWrite (hrest key),settle_cons,settle_nil,
      written_write write,settle_noWrite (hfifo key n write)] at hs ⊢
    rw [listed,count]
    exact hs
  | decided wasActive b tail more_eq write none =>
    right
    rw [more_eq]
    simp only [settle_append,settle_cons,written_write write,settle_noWrite none,settle_noWrite (hrest key)]
  | retiring persist more_mem =>
    exact .inl ⟨persist,by simp [more_mem]⟩
  | removing eq =>
    subst eq
    obtain ⟨persist,hp⟩ := h.retiring (.removeRecord key::rest) (by simp) key List.mem_cons_self
    exact .inl ⟨persist,hstill persist (List.mem_flatten.mpr ⟨_,by simp,hp⟩)⟩
  | gone gone => exact absurd hactive gone
  | entered new unretired own none agrees listed =>
    right
    -- nothing in flight is about a key that was never active
    have hunknown : ¬w.Known env U key := fun hk => hk.2.elim new unretired
    have hquiet : NoWrite key (xs++(a::rest)::ys).flatten := fun b hb count hw =>
      hunknown (h.subjects b hb key (subject_of_disabledWrite hw))
    rw [hflat] at hquiet
    have hxs : NoWrite key xs.flatten := fun b hb => hquiet b (by simp [hb])
    have hys : NoWrite key ys.flatten := fun b hb => hquiet b (by simp [hb])
    simp only [settle_append,settle_noWrite hxs,settle_noWrite hys,settle_noWrite none,
      settle_noWrite (hrest key)]
    exact (agrees (not_not.mp (fun hr => hunknown (h.records key hr)))).symm

lemma Tracked.resume {xs ys : List (List PoolSection)} {rest : List PoolSection}
    (hU : Set.InjOn (proxyKeyHash env) U) (h : Tracked env U ⟨w,xs++(a::rest)::ys⟩)
    (hfifo : ∀ k count, a.disabledWrite=some (k,count) → NoWrite k xs.flatten) :
    Tracked env U ⟨(execSection env cfg a w).1,xs++ys++[(execSection env cfg a w).2++rest]⟩ := by
  have hscope : a.InScope U := h.scope a (by simp)
  have heffect := @execSection_sectionEffect env cfg U w a hscope
  have hflat : (xs++ys++[(execSection env cfg a w).2++rest]).flatten=
      xs.flatten++ys.flatten++((execSection env cfg a w).2++rest) := by simp
  -- what is still to be done was so before, or comes from the section
  have hmem : ∀ b ∈ (xs++ys++[(execSection env cfg a w).2++rest]).flatten,
      b ∈ (execSection env cfg a w).2 ∨ b ∈ (xs++(a::rest)::ys).flatten := by
    intro b hb
    rw [hflat] at hb
    simp only [List.flatten_append,List.flatten_cons,List.mem_append,List.mem_cons] at hb ⊢
    tauto
  have hcalls : ∀ call ∈ xs++ys++[(execSection env cfg a w).2++rest],
      call ∈ xs++(a::rest)::ys ∨ call=(execSection env cfg a w).2++rest :=
    fun call hcall => Sections.call_of_resume hcall
  have hrest := h.followUps (a::rest) (by simp)
  refine ⟨?_,?_,?_,?_,?_,?_,?_,?_⟩
  · exact fun k hk => (heffect.active k hk).elim (h.active k) id
  · intro e he
    rcases heffect.handed e he with he | he
    · exact heffect.known _ (h.handed e he)
    · have hk : e.key ∈ w.pool.activeKeys := List.mem_map_of_mem he
      exact heffect.known _ ⟨h.active _ hk,.inl hk⟩
  · intro k hk
    rcases heffect.records k hk with hr | hr | hr
    · exact heffect.known _ (h.records k hr)
    · exact heffect.known _ (h.subjects a (by simp) k hr)
    · exact ⟨(heffect.active k hr).elim (h.active k) id,.inl hr⟩
  · intro b hb k hk
    rcases hmem b hb with hb | hb
    · exact heffect.known _ ((heffect.subjects b hb k hk).elim (h.subjects a (by simp) k) (h.records k))
    · exact heffect.known _ (h.subjects b hb k hk)
  · intro b hb
    rcases hmem b hb with hb | hb
    · exact inScope_of_inner (heffect.inner b hb)
    · exact h.scope b hb
  · intro call hcall b hb
    rcases hcalls call hcall with hcall | rfl
    · exact h.followUps call hcall b hb
    · cases hmore : (execSection env cfg a w).2 with
      | nil =>
        rw [hmore] at hb
        exact hrest b (List.mem_of_mem_tail hb)
      | cons first more =>
        rw [hmore] at hb
        rcases List.mem_append.mp hb with hb | hb
        · exact execSection_followUp hscope b (by rw [hmore]; exact hb)
        · exact hrest b hb
  · intro call hcall k hk
    rcases hcalls call hcall with hcall | rfl
    · exact h.retiring call hcall k hk
    · rcases List.mem_append.mp hk with hk | hk
      · obtain ⟨persist,hp⟩ := heffect.retiring k hk
        exact ⟨persist,List.mem_append_left _ hp⟩
      · cases hrest _ hk
  · intro k hk
    rw [hflat]
    exact h.settles_resume hU hfifo hk

theorem Tracked.step (hU : Set.InjOn (proxyKeyHash env) U) {c d : Concurrent} {move : Move PoolSection}
    (h : Tracked env U c) (hg : InOrder U c move) (hd : (poolSections env cfg).step c move = some d) :
    Tracked env U d := by
  cases move with
  | start a =>
    obtain ⟨hstart,rfl⟩ := (poolSections env cfg).start_cases hd
    exact h.start hg hstart
  | resume i =>
    obtain ⟨xs,a,rest,ys,hcalls,rfl,_,rfl⟩ := (poolSections env cfg).resume_cases hd
    obtain ⟨w,calls⟩ := c
    dsimp only at hcalls
    subst hcalls
    refine h.resume hU (fun k count hw b hb n hb' => ?_)
    have hgot : (xs++(a::rest)::ys)[xs.length]? = some (a::rest) := by simp
    have hnone : overtakes ⟨w,xs++(a::rest)::ys⟩ xs.length=false := hg
    rw [overtakes,hgot] at hnone
    simp only [hw,List.take_left',List.any_eq_false] at hnone
    exact hnone b hb (by simp [hb'])

/-! From the start -/

theorem fresh_tracked {proxies : List ProxyNode} {file : StateFile}
    (hkeys : ∀ k ∈ (Pool.withRuntimeFailurePolicyAndState env cfg proxies file).activeKeys, k ∈ U) :
    Tracked env U ⟨.fresh (Pool.withRuntimeFailurePolicyAndState env cfg proxies file),[]⟩ := by
  obtain ⟨q,hq,hfailures⟩ : ∃ q : Pool, Pool.withRuntimeFailurePolicyAndState env cfg proxies file=
      q.persistState cfg ∧ q.failures=
        restoreRecords env cfg q.state.disabledByHash q.state.proxies (fun _ => none) := ⟨_,rfl,rfl⟩
  rw [hq] at hkeys ⊢
  have hactive : (q.persistState cfg).activeKeys=q.activeKeys := Pool.activeKeys_congr (by simp)
  refine ⟨hkeys,by simp [World.fresh],?_,by simp,by simp,by simp,by simp,?_⟩
  · intro k hk
    simp only [World.fresh,Pool.persistState_failures,hfailures,restoreRecords_apply] at hk
    split_ifs at hk with hmem
    · have hin : k ∈ (q.persistState cfg).activeKeys := by rwa [hactive]
      exact ⟨hkeys k hin,.inl hin⟩
    · exact absurd rfl hk
  · intro k hk
    right
    change Pool.listedCount env k (q.persistState cfg)=disabledCount ((q.persistState cfg).failures k)
    have hin : k ∈ q.activeKeys := by rwa [← hactive]
    unfold Pool.activeKeys at hin
    rw [Pool.persistState_failures,hfailures,restoreRecords_apply,if_pos hin,Option.or_none,
      disabledCount_listed]
    unfold Pool.listedCount
    rw [Pool.persistState_state]

/-- When no write to the disabled map overtakes an earlier one for the same key, and all calls have
returned, the record and the map entry of every active key agree. -/
theorem agrees_in_order (hU : NoCollision env U) {proxies : List ProxyNode} {file : StateFile}
    (hkeys : ∀ k ∈ (Pool.withRuntimeFailurePolicyAndState env cfg proxies file).activeKeys, k ∈ U)
    {moves : List (Move PoolSection)} {c : Concurrent}
    (hrun : Run (poolSections env cfg).step (InOrder U)
      ⟨.fresh (Pool.withRuntimeFailurePolicyAndState env cfg proxies file),[]⟩ moves c)
    (hreturned : Sections.Quiescent c) :
    ∀ k ∈ c.shared.pool.activeKeys, c.shared.pool.Agrees env k := by
  have htracked := hrun.invariant (Tracked env U)
    (fun c move d hc hg hd => hc.step hU.proxyKeyHash hg hd) (fresh_tracked hkeys)
  have hflat : c.calls.flatten=[] := List.flatten_eq_nil_iff.mpr hreturned
  intro k hk
  rcases htracked.settles k hk with ⟨persist,hp⟩ | hs
  · rw [hflat] at hp
    cases hp
  · rw [hflat,settle_nil] at hs
    exact hs.symm

/-! One node, one failure and one success -/

def sampleWorld : Concurrent :=
  ⟨.fresh (Pool.withRuntimeFailurePolicyAndState sampleExternals sampleConfig [sampleNode] .absent),[]⟩

/-- An iterator gives out the node; its failure is recorded, and a success is started. -/
def reportMoves : List (Move PoolSection) :=
  [.start .attempts,.resume 0,.start (.next 0 0 (fun _ => .identity)),.resume 1,
    .start (.reportFailure 0 (.fromNode sampleNode)),.resume 2,
    .start (.reportSuccess (.fromNode sampleNode))]

/-- The whole success comes between the two sections of the failure. -/
def overtakingMoves : List (Move PoolSection) :=
  reportMoves++[.resume 3,.resume 3,.resume 3,.resume 3,.resume 2,.resume 3,.resume 3]

/-- The failure is written first. -/
def inOrderMoves : List (Move PoolSection) :=
  reportMoves++[.resume 3,.resume 2,.resume 3,.resume 3,.resume 2,.resume 3,.resume 3]

/-- The record is gone, but the map lists the node: after a restart it would be disabled. -/
theorem overtaken_failure_disagrees :
    ∃ c, Run (poolSections sampleExternals sampleConfig).step (fun _ _ => True) sampleWorld overtakingMoves c ∧
      Sections.Quiescent c ∧ sampleNode.key ∈ c.shared.pool.activeKeys ∧
      c.shared.pool.failures sampleNode.key=none ∧
      c.shared.pool.listedCount sampleExternals sampleNode.key=some 0 ∧
      ¬c.shared.pool.Agrees sampleExternals sampleNode.key := by
  have hrun := (.cons rfl trivial (.cons rfl trivial (.cons rfl trivial (.cons rfl trivial
    (.cons rfl trivial (.cons rfl trivial (.cons rfl trivial (.cons rfl trivial (.cons rfl trivial
      (.cons rfl trivial (.cons rfl trivial (.cons rfl trivial (.cons rfl trivial
        (.cons rfl trivial (.nil _)))))))))))))) :
    Run (poolSections sampleExternals sampleConfig).step (fun _ _ => True) sampleWorld overtakingMoves _)
  refine ⟨_,hrun,by decide,by decide,rfl,by decide,by decide⟩

theorem agrees_in_order_sample :
    ∃ c, Run (poolSections sampleExternals sampleConfig).step (InOrder {sampleNode.key}) sampleWorld
        inOrderMoves c ∧ c.shared.pool.Agrees sampleExternals sampleNode.key := by
  have hrun := (.cons rfl trivial (.cons rfl rfl (.cons rfl trivial (.cons rfl rfl
    (.cons rfl trivial (.cons rfl rfl (.cons rfl trivial (.cons rfl rfl (.cons rfl rfl
      (.cons rfl rfl (.cons rfl rfl (.cons rfl rfl (.cons rfl rfl (.cons rfl rfl (.nil _)))))))))))))) :
    Run (poolSections sampleExternals sampleConfig).step (InOrder {sampleNode.key}) sampleWorld
      inOrderMoves _)
  exact ⟨_,hrun,agrees_in_order (Set.injOn_singleton _ _) (by decide) hrun (by decide) _ (by decide)⟩

end RotatorProxy.Proxy
