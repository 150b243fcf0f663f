import RotatorProxy.Library.Run
import RotatorProxy.Proxy.Calls
import RotatorProxy.Proxy.Scan

/-! Safety of the selection bag. The bag and the vector of entries sit behind different locks, and a
reset may arrive long after the change it belongs to; only the generation links the two. -/
namespace RotatorProxy.Proxy
open Text Library

variable {generation len index : ℕ} {log : List BagEvent} {bag : SelectionBag}

/-- The positions popped since the bag was last filled or cleared. -/
def currentRound (log : List BagEvent) : List ℕ :=
  log.foldl (fun round event => match event with
    | .popped index _ => index::round
    | _ => []) []

/-- Between two fills or resets no position is popped twice. -/
def NoRepeat (log : List BagEvent) : Prop :=
  ∀ before i n between j m after, log=before++.popped i n::(between++.popped j m::after) →
    (∀ event ∈ between, ∃ k l, event=BagEvent.popped k l) → i ≠ j

@[simp] lemma currentRound_popped (log : List BagEvent) (index len : ℕ) :
    currentRound (log++[.popped index len])=index::currentRound log := by
  simp [currentRound]

@[simp] lemma currentRound_filled (log : List BagEvent) : currentRound (log++[.filled])=[] := by
  simp [currentRound]

@[simp] lemma currentRound_cleared (log : List BagEvent) : currentRound (log++[.cleared])=[] := by
  simp [currentRound]

lemma mem_currentRound {before between : List BagEvent} {i n : ℕ}
    (h : ∀ event ∈ between, ∃ k l, event=BagEvent.popped k l) :
    i ∈ currentRound (before++.popped i n::between) := by
  induction between using List.reverseRecOn with
  | nil => simp
  | append_singleton between event ih =>
    obtain ⟨k,l,rfl⟩ := h event (by simp)
    have hin := ih (fun e he => h e (List.mem_append_left _ he))
    rw [show before++BagEvent.popped i n::(between++[.popped k l])=
      (before++.popped i n::between)++[.popped k l] by simp,currentRound_popped]
    exact List.mem_cons_of_mem _ hin

/-- Only a last pop can break `NoRepeat`. -/
lemma NoRepeat.snoc (h : NoRepeat log) (event : BagEvent)
    (hnew : ∀ index n, event = .popped index n → index ∉ currentRound log) : NoRepeat (log++[event]) := by
  intro before i n between j m after heq hbetween
  rcases List.eq_nil_or_concat after with rfl | ⟨after,last,rfl⟩
  · rw [show before++BagEvent.popped i n::(between++[.popped j m])=
      (before++.popped i n::between)++[.popped j m] by simp] at heq
    obtain ⟨rfl,hlast⟩ := List.append_inj' heq rfl
    rintro rfl
    exact hnew i m (List.singleton_inj.mp hlast) (mem_currentRound hbetween)
  · rw [show before++BagEvent.popped i n::(between++.popped j m::after.concat last)=
      (before++.popped i n::(between++.popped j m::after))++[last] by simp] at heq
    exact h before i n between j m after (List.append_inj' heq rfl).1 hbetween

/-- What holds of the bag beside a vector of `len` entries at `generation`. -/
structure BagSafe (generation len : ℕ) (log : List BagEvent) (bag : SelectionBag) : Prop where
  inBounds : ∀ index n, .popped index n ∈ log → index < n
  noRepeat : NoRepeat log
  nodup : bag.remaining.Nodup
  fresh : ∀ i ∈ bag.remaining, i ∉ currentRound log
  current : bag.generation=generation → ∀ i ∈ bag.remaining, i < len
  known : bag.remaining=[] ∨ bag.generation ≤ generation

namespace BagSafe

lemma nil (generation len g : ℕ) : BagSafe generation len [] ⟨g,[]⟩ := by
  refine ⟨by simp,?_,List.nodup_nil,by simp,by simp,.inl rfl⟩
  intro before i n between j m after heq
  simp at heq

/-- A pop of a position that is still in the bag. -/
lemma pop {g : ℕ} {rest : List ℕ} (h : BagSafe generation len log ⟨g,rest++[index]⟩) (hlt : index < len) :
    BagSafe generation len (log++[.popped index len]) ⟨g,rest⟩ := by
  have hmem : ∀ i ∈ rest, i ∈ rest++[index] := fun i hi => List.mem_append_left _ hi
  have hnew := h.fresh index (by simp)
  have hnodup := List.nodup_append.mp h.nodup
  refine ⟨?_,h.noRepeat.snoc _ ?_,hnodup.1,?_,fun hg i hi => h.current hg i (hmem i hi),?_⟩
  · intro i n hi
    rcases List.mem_append.mp hi with hi | hi
    · exact h.inBounds i n hi
    · cases List.mem_singleton.mp hi
      exact hlt
  · rintro i n ⟨⟩
    exact hnew
  · intro i hi
    rw [currentRound_popped,List.mem_cons,not_or]
    exact ⟨hnodup.2.2 i hi index (List.mem_singleton_self _),h.fresh i (hmem i hi)⟩
  · rcases h.known with hn | hle
    · simp at hn
    · exact .inr hle

lemma log_snoc (h : BagSafe generation len log bag) {event : BagEvent}
    (he : ∀ index n, event ≠ .popped index n) {g : ℕ} {remaining : List ℕ}
    (hround : currentRound (log++[event])=[]) (hnodup : remaining.Nodup)
    (hcurrent : g=generation → ∀ i ∈ remaining, i < len) (hknown : remaining=[] ∨ g ≤ generation) :
    BagSafe generation len (log++[event]) ⟨g,remaining⟩ := by
  refine ⟨?_,h.noRepeat.snoc _ (fun i n heq => absurd heq (he i n)),hnodup,?_,hcurrent,hknown⟩
  · intro i n hi
    rcases List.mem_append.mp hi with hi | hi
    · exact h.inBounds i n hi
    · exact absurd (List.mem_singleton.mp hi).symm (he i n)
  · rw [hround]
    exact fun _ _ => List.not_mem_nil

/-- A reset, with whatever generation it was given. -/
lemma clear (h : BagSafe generation len log bag) (g : ℕ) :
    BagSafe generation len (log++[.cleared]) (SelectionBag.reset g) :=
  h.log_snoc (fun _ _ => BagEvent.noConfusion) (by simp) List.nodup_nil (by simp) (.inl rfl)

lemma fill (h : BagSafe generation len log bag) {order : List ℕ} (horder : order.Perm (List.range len)) :
    BagSafe generation len (log++[.filled]) ⟨generation,order⟩ := by
  refine h.log_snoc (fun _ _ => BagEvent.noConfusion) (by simp) ?_ ?_ (.inr le_rfl)
  · exact horder.nodup_iff.mpr List.nodup_range
  · exact fun _ i hi => List.mem_range.mp (horder.mem_iff.mp hi)

/-- The vector has changed, and the generation with it. -/
lemma bump (h : BagSafe generation len log bag) (len' : ℕ) : BagSafe (generation+1) len' log bag := by
  refine ⟨h.inBounds,h.noRepeat,h.nodup,h.fresh,?_,h.known.imp_right (fun hle => by omega)⟩
  intro hg i hi
  rcases h.known with hn | hle
  · rw [hn] at hi
    cases hi
  · omega

end BagSafe

lemma BagSafe.positions (h : BagSafe generation len log bag) : Positions len (bag.usable generation) := by
  unfold SelectionBag.usable
  split_ifs with hg
  · exact ⟨h.nodup,h.current hg⟩
  · exact Positions.nil len

/-! Scanning -/

theorem nextIndex_safe (shuffle : Shuffle) (hlen : len ≠ 0) (h : BagSafe generation len log bag) :
    ∃ index refilled rest,
      bag.nextIndex shuffle generation len=(some (index,refilled),⟨generation,rest⟩) ∧ index < len ∧
        BagSafe generation len (log++((if refilled then [.filled] else [])++[.popped index len]))
          ⟨generation,rest⟩ := by
  obtain ⟨index,rest,⟨hrem,hgen,heq⟩ | ⟨hperm,_,heq⟩⟩ := bag.nextIndex_cases shuffle generation len hlen
  · obtain ⟨g,remaining⟩ := bag
    dsimp only at hrem hgen
    subst hrem hgen
    have hlt := h.current rfl index (by simp)
    exact ⟨index,false,rest,heq,hlt,h.pop hlt⟩
  · have hlt : index < len := List.mem_range.mp (hperm.mem_iff.mp (by simp))
    refine ⟨index,true,rest,heq,hlt,?_⟩
    rw [← List.append_assoc]
    exact (h.fill hperm).pop hlt

/-- The scan passed an entry over only when it may. -/
def Scan.Fair (now : ℕ) (tried : List Str) (proxies : List ProxyEntry) (failures : FailureMap)
    (scan : Scan) : Prop :=
  ∀ index n, .popped index n ∈ scan.events → n=proxies.length ∧
    ∃ entry, proxies[index]? = some entry ∧
      (scan.outcome=.found entry ∨ entry.key ∈ tried ∨ (isUnavailable now (failures entry.key)).1 = true)

theorem scanLoop_safe {now : ℕ} {tried : List Str} {proxies : List ProxyEntry} {shuffles : ℕ → Shuffle}
    {fuel scanned : ℕ} {failures : FailureMap} {scan : Scan} (hlen : proxies.length ≠ 0)
    (h : BagSafe generation proxies.length log bag)
    (hscan : scanLoop now tried generation proxies shuffles fuel scanned bag failures=scan) :
    BagSafe generation proxies.length (log++scan.events) scan.bag ∧
      scan.Fair now tried proxies failures := by
  induction fuel generalizing scanned bag log scan with
  | zero =>
    subst hscan
    exact ⟨by simpa [scanLoop] using h,by simp [scanLoop,Scan.Fair]⟩
  | succ fuel ih =>
    obtain ⟨index,refilled,left,hnext,hlt,hsafe⟩ := nextIndex_safe (shuffles fuel) hlen h
    obtain ⟨entry,hentry⟩ : ∃ entry, proxies[index]? = some entry := ⟨_,List.getElem?_eq_getElem hlt⟩
    have hcases := scanLoop_cases now tried scanned failures hnext hentry
    generalize hevents : (if refilled then [BagEvent.filled] else [])++
      [.popped index proxies.length]=events at hsafe hcases
    have hpopped : ∀ i n, BagEvent.popped i n ∈ events → i=index ∧ n=proxies.length := by
      intro i n hi
      rw [← hevents] at hi
      cases refilled <;> simpa using hi
    rcases hcases with ⟨_,heq⟩ | ⟨hskip,scanned',_,⟨_,heq⟩ | ⟨_,rest,hrest,heq⟩⟩
    · rw [← hscan,heq]
      refine ⟨hsafe,fun i n hi => ?_⟩
      obtain ⟨rfl,rfl⟩ := hpopped i n hi
      exact ⟨rfl,entry,hentry,.inl rfl⟩
    · rw [← hscan,heq]
      refine ⟨hsafe,fun i n hi => ?_⟩
      obtain ⟨rfl,rfl⟩ := hpopped i n hi
      exact ⟨rfl,entry,hentry,.inr (passOver_skip hskip).2⟩
    · obtain ⟨hbag,hfair⟩ := ih hsafe hrest.symm
      rw [← hscan,heq]
      refine ⟨by rw [← List.append_assoc]; exact hbag,fun i n hi => ?_⟩
      rcases List.mem_append.mp hi with hi | hi
      · obtain ⟨rfl,rfl⟩ := hpopped i n hi
        exact ⟨rfl,entry,hentry,.inr (passOver_skip hskip).2⟩
      · exact hfair i n hi

/-! Interleaved calls -/

variable {env : Externals} {cfg : PoolConfig} {w : World}

/-- While the generation has not wrapped around, it counts the changes of the vector. -/
def World.BagInv (w : World) : Prop :=
  w.generationChanges < 2^64 → w.pool.state.generation=w.generationChanges ∧
    BagSafe w.pool.state.generation w.pool.state.proxies.length w.bagLog w.pool.selection

/-- A section that touches neither the length of the vector nor the bag. -/
structure SameBag (w t : World) : Prop where
  length : t.pool.state.proxies.length=w.pool.state.proxies.length
  generation : t.pool.state.generation=w.pool.state.generation
  selection : t.pool.selection=w.pool.selection
  log : t.bagLog=w.bagLog
  changes : t.generationChanges=w.generationChanges

lemma World.BagInv.same {t : World} (h : w.BagInv) (hs : SameBag w t) : t.BagInv := by
  obtain ⟨h1,h2,h3,h4,h5⟩ := hs
  unfold World.BagInv at *
  rwa [h1,h2,h3,h4,h5]

/-- All that a section can do to the vector and the bag, and what its call then has to do. -/
inductive BagEffect (w : World) : PoolSection → World → List PoolSection → Prop
  | same {a t more} (same : SameBag w t) : BagEffect w a t more
  | scanned (caller now : ℕ) (shuffles : ℕ → Shuffle) {more} :
    BagEffect w (.next caller now shuffles) (w.next caller now shuffles) more
  | changed {a t more} (selection : t.pool.selection=w.pool.selection) (log : t.bagLog=w.bagLog)
    (generation : t.pool.state.generation=wrappingSucc w.pool.state.generation)
    (changes : t.generationChanges=w.generationChanges+1) (g : ℕ)
    (resets : .resetSelection g ∈ more) : BagEffect w a t more
  | cleared (g : ℕ) {more} : BagEffect w (.resetSelection g) (w.resetSelection g) more

/-- A state section goes to the next generation and then resets the bag, or leaves both alone. -/
lemma BagEffect.setPoolGeneration {a : PoolSection} {pool : Pool} {reset : Option ℕ}
    {more : List PoolSection} (hselection : pool.selection=w.pool.selection)
    (hstate : (reset=none ∧ pool.state.generation=w.pool.state.generation ∧
        pool.state.proxies.length=w.pool.state.proxies.length) ∨
      (∃ g, reset=some g ∧ pool.state.generation=wrappingSucc w.pool.state.generation))
    (hmore : ∀ g, reset=some g → .resetSelection g ∈ more) :
    BagEffect w a (w.setPoolGeneration pool reset) more := by
  obtain ⟨rfl,hgen,hlen⟩ | ⟨g,rfl,hgen⟩ := hstate
  · exact .same ⟨hlen,hgen,hselection,rfl,rfl⟩
  · exact .changed hselection rfl hgen rfl g (hmore g rfl)

/-- What one call of `next` does to the bag. -/
theorem next_safe (attempts : ProxyAttempts) {pool : Pool} (now : ℕ) (shuffles : ℕ → Shuffle)
    (h : BagSafe pool.state.generation pool.state.proxies.length log pool.selection) :
    BagSafe pool.state.generation pool.state.proxies.length
        (log++(attempts.next now shuffles pool).2.2.2)
        (attempts.next now shuffles pool).2.2.1.selection ∧
      (attempts.next now shuffles pool).2.2.1.state=pool.state ∧
      ∀ index n, .popped index n ∈ (attempts.next now shuffles pool).2.2.2 →
        n=pool.state.proxies.length ∧ ∃ entry, pool.state.proxies[index]? = some entry ∧
          ((attempts.next now shuffles pool).1=some (.proxy entry) ∨ entry.key ∈ attempts.tried ∨
            (isUnavailable now (pool.failures entry.key)).1 = true) := by
  unfold ProxyAttempts.next
  split_ifs with hdirect hremaining
  · exact ⟨by simpa using h,rfl,by simp⟩
  · exact ⟨by simpa using h,rfl,by simp⟩
  · dsimp only
    generalize hscan : pool.nextRandomAvailable now attempts.tried shuffles=scan
    have hspec : BagSafe pool.state.generation pool.state.proxies.length (log++scan.events) scan.bag ∧
        scan.Fair now attempts.tried pool.state.proxies pool.failures := by
      unfold Pool.nextRandomAvailable at hscan
      split_ifs at hscan with hlen
      · subst hscan
        exact ⟨by simpa using h,by simp [Scan.Fair]⟩
      · exact scanLoop_safe hlen h hscan
    obtain ⟨hsafe,hfair⟩ := hspec
    obtain ⟨outcome,bag,failures,events⟩ := scan
    cases outcome with
    | found entry =>
      refine ⟨hsafe,rfl,fun index n hi => ?_⟩
      obtain ⟨hn,e,he,hout | hwhy⟩ := hfair index n hi
      · cases hout
        exact ⟨hn,entry,he,.inl rfl⟩
      · exact ⟨hn,e,he,.inr hwhy⟩
    | exhausted | outOfBounds index | outOfFuel =>
      refine ⟨hsafe,rfl,fun index n hi => ?_⟩
      obtain ⟨hn,e,he,hout | hwhy⟩ := hfair index n hi
      · cases hout
      · exact ⟨hn,e,he,.inr hwhy⟩

lemma World.BagInv.next (h : w.BagInv) (caller now : ℕ) (shuffles : ℕ → Shuffle) :
    (w.next caller now shuffles).BagInv := by
  unfold World.next
  cases w.iterators[caller]? with
  | none => exact h
  | some attempts =>
    intro hlt
    obtain ⟨hchanges,hsafe⟩ := h hlt
    obtain ⟨hnext,hstate,_⟩ := next_safe attempts now shuffles hsafe
    dsimp only
    rw [hstate]
    exact ⟨hchanges,hnext⟩

lemma sameBag_reportSuccess (key : Str) : SameBag w (w.setPool (w.pool.reportSuccessLocked key).1) := by
  rcases w.pool.reportSuccessLocked_cases key with ⟨_,he⟩ | ⟨_,_,he⟩ <;>
    · rw [he]
      exact ⟨rfl,rfl,rfl,rfl,rfl⟩

lemma sameBag_recheckSuccess (key : Str) : SameBag w (w.setPool (w.pool.recheckSuccessLocked key).1) := by
  rcases w.pool.recheckSuccessLocked_cases key with ⟨_,he⟩ | ⟨_,he⟩ <;>
    · rw [he]
      exact ⟨rfl,rfl,rfl,rfl,rfl⟩

lemma sameBag_recheckFailure (key : Str) : SameBag w (w.setPool (w.pool.recheckFailureLocked key).1) := by
  rcases w.pool.recheckFailureLocked_cases key with ⟨_,he⟩ | ⟨_,_,_,_,_,he⟩ <;>
    · rw [he]
      exact ⟨rfl,rfl,rfl,rfl,rfl⟩

variable (env) in
/-- Retiring either removes nothing or goes to the next generation. -/
lemma removeAndRetireLocked_generation (p : Pool) (key : Str) :
    (p.removeAndRetireLocked env key).1.selection=p.selection ∧
      (((p.removeAndRetireLocked env key).2=none ∧
        (p.removeAndRetireLocked env key).1.state.generation=p.state.generation ∧
        (p.removeAndRetireLocked env key).1.state.proxies.length=p.state.proxies.length) ∨
      (∃ g, (p.removeAndRetireLocked env key).2=some g ∧
        (p.removeAndRetireLocked env key).1.state.generation=wrappingSucc p.state.generation)) := by
  unfold Pool.removeAndRetireLocked
  dsimp only
  split_ifs
  · exact ⟨rfl,.inl ⟨rfl,rfl,rfl⟩⟩
  · exact ⟨rfl,.inr ⟨_,rfl,rfl⟩⟩

variable (env cfg) in
lemma mergeLocked_generation (p : Pool) (proxies : List ProxyNode) :
    (p.mergeLocked env cfg proxies).1.selection=p.selection ∧
      (((p.mergeLocked env cfg proxies).2.2=none ∧
        (p.mergeLocked env cfg proxies).1.state.generation=p.state.generation ∧
        (p.mergeLocked env cfg proxies).1.state.proxies.length=p.state.proxies.length) ∨
      (∃ g, (p.mergeLocked env cfg proxies).2.2=some g ∧
        (p.mergeLocked env cfg proxies).1.state.generation=wrappingSucc p.state.generation)) := by
  rw [Pool.mergeLocked_pool,Pool.mergeLocked_reset]
  by_cases hadded : p.mergeAdded env proxies=[]
  · simp [hadded]
  · simp [hadded]

theorem execSection_bagEffect (a : PoolSection) :
    BagEffect w a (execSection env cfg a w).1 (execSection env cfg a w).2 := by
  cases a with
  | next caller now shuffles => exact .scanned caller now shuffles
  | merge proxies =>
    have hgen := mergeLocked_generation env cfg w.pool proxies
    simp only [execSection]
    generalize w.pool.mergeLocked env cfg proxies=r at *
    obtain ⟨q,summary,reset⟩ := r
    exact .setPoolGeneration hgen.1 hgen.2 (fun g hg => by cases hg; exact List.mem_cons_self)
  | replace proxies =>
    exact .setPoolGeneration rfl (.inr ⟨_,rfl,rfl⟩)
      (fun g hg => by cases hg; exact List.mem_cons_self)
  | removeAndRetire key persist =>
    have hgen := removeAndRetireLocked_generation env w.pool key
    simp only [execSection]
    generalize w.pool.removeAndRetireLocked env key=r at *
    obtain ⟨q,reset⟩ := r
    exact .setPoolGeneration hgen.1 hgen.2 (fun g hg => by cases hg; exact List.mem_cons_self)
  | resetSelection generation => exact .cleared generation
  | reportSuccess entry => exact .same (sameBag_reportSuccess entry.key)
  | recheckSuccess key persist => exact .same (sameBag_recheckSuccess key)
  | recheckFailure key persist =>
    have hsame := sameBag_recheckFailure (w := w) key
    simp only [execSection]
    generalize w.pool.recheckFailureLocked key=r at *
    obtain ⟨q,_ | count⟩ := r <;> exact .same hsame
  | attempts | clearShard _ | reportFailure _ _ | removeRecord _ | insertDisabled _ _ _
  | removeDisabled _ _ | readGeneration | persistSnapshot | persistWrite _ =>
    exact .same ⟨rfl,rfl,rfl,rfl,rfl⟩

/-- Every section keeps the bag safe, whatever section it is and whenever it comes. -/
theorem execSection_bagInv (h : w.BagInv) (a : PoolSection) : (execSection env cfg a w).1.BagInv := by
  cases @execSection_bagEffect env cfg w a with
  | same same => exact h.same same
  | scanned caller now shuffles => exact h.next caller now shuffles
  | changed selection log generation changes =>
    intro hlt
    rw [changes] at hlt
    obtain ⟨hcount,hsafe⟩ := h (by omega)
    have hsucc : wrappingSucc w.pool.state.generation=w.generationChanges+1 := by
      rw [hcount,wrappingSucc,Nat.mod_eq_of_lt hlt]
    rw [generation,selection,log,changes,hsucc]
    exact ⟨rfl,hcount ▸ hsafe.bump _⟩
  | cleared g =>
    intro hlt
    obtain ⟨hcount,hsafe⟩ := h hlt
    exact ⟨hcount,hsafe.clear g⟩

theorem step_bagInv {c d : Concurrent} {move : Move PoolSection} (h : c.shared.BagInv)
    (hd : (poolSections env cfg).step c move = some d) : d.shared.BagInv := by
  cases move with
  | start a =>
    obtain ⟨_,rfl⟩ := (poolSections env cfg).start_cases hd
    exact h
  | resume i =>
    obtain ⟨_,a,_,_,_,_,_,rfl⟩ := (poolSections env cfg).resume_cases hd
    exact execSection_bagInv h a

variable (env cfg) in
lemma fresh_bag (proxies : List ProxyNode) (file : StateFile) :
    (Pool.withRuntimeFailurePolicyAndState env cfg proxies file).selection=SelectionBag.reset 0 ∧
      (Pool.withRuntimeFailurePolicyAndState env cfg proxies file).state.generation=0 := by
  unfold Pool.withRuntimeFailurePolicyAndState Pool.persistState
  split <;> exact ⟨rfl,rfl⟩

lemma reachable_bagInv {proxies : List ProxyNode} {file : StateFile} {moves : List (Move PoolSection)}
    {c : Concurrent}
    (hrun : Run (poolSections env cfg).step (fun _ _ => True)
      ⟨.fresh (Pool.withRuntimeFailurePolicyAndState env cfg proxies file),[]⟩ moves c) :
    c.shared.BagInv := by
  refine hrun.invariant (fun c => c.shared.BagInv) (fun c move d hc _ hd => step_bagInv hc hd) ?_
  intro _
  simp only [World.fresh]
  rw [(fresh_bag env cfg proxies file).1,(fresh_bag env cfg proxies file).2]
  exact ⟨rfl,BagSafe.nil _ _ _⟩

/-- In every interleaving of calls on a pool with fewer than `2^64` changes of its generation, a
popped index lies inside the vector it is applied to, no position comes up twice in a round, every
scan ends, and `next` passes an entry over only if its caller has tried it or it is unavailable. -/
theorem selection_safe {proxies : List ProxyNode} {file : StateFile} {moves : List (Move PoolSection)}
    {c : Concurrent}
    (hrun : Run (poolSections env cfg).step (fun _ _ => True)
      ⟨.fresh (Pool.withRuntimeFailurePolicyAndState env cfg proxies file),[]⟩ moves c)
    (hchanges : c.shared.generationChanges < 2^64) :
    (∀ index len, .popped index len ∈ c.shared.bagLog → index < len) ∧ NoRepeat c.shared.bagLog ∧
      (∀ now tried shuffles, (c.shared.pool.nextRandomAvailable now tried shuffles).outcome ≠ .outOfFuel) ∧
      ∀ (attempts : ProxyAttempts) (now : ℕ) (shuffles : ℕ → Shuffle) (index len : ℕ),
        .popped index len ∈ (attempts.next now shuffles c.shared.pool).2.2.2 →
        len=c.shared.pool.state.proxies.length ∧
          ∃ entry, c.shared.pool.state.proxies[index]? = some entry ∧
            ((attempts.next now shuffles c.shared.pool).1=some (.proxy entry) ∨
              entry.key ∈ attempts.tried ∨
              (isUnavailable now (c.shared.pool.failures entry.key)).1 = true) := by
  obtain ⟨_,hsafe⟩ := reachable_bagInv hrun hchanges
  refine ⟨hsafe.inBounds,hsafe.noRepeat,?_,fun attempts now shuffles => (next_safe attempts now shuffles hsafe).2.2⟩
  intro now tried shuffles
  obtain ⟨_,_,hout,_⟩ | ⟨hout,_⟩ :=
    (Pool.BagFits.nextRandomAvailable hsafe.positions now tried shuffles).1 <;>
  · rw [hout]
    exact ScanOutcome.noConfusion

/-- The reset of a `merge` arrives after a first scan at the new generation. -/
def lateResetMoves : List (Move PoolSection) :=
  [.start (.merge [sampleNode]),.resume 0,.start .attempts,.resume 1,.start .attempts,.resume 2,
    .start (.next 0 0 (fun _ => .identity)),.resume 3,.resume 0,
    .start (.next 1 0 (fun _ => .identity)),.resume 4]

theorem selection_safe_late_reset :
    ∃ c, Run (poolSections sampleExternals sampleConfig).step (fun _ _ => True)
        ⟨.fresh (Pool.withRuntimeFailurePolicyAndState sampleExternals sampleConfig [] .absent),[]⟩
        lateResetMoves c ∧
      c.shared.bagLog=[.filled,.popped 0 1,.cleared,.filled,.popped 0 1] ∧
      NoRepeat c.shared.bagLog := by
  have hrun := (.cons rfl trivial (.cons rfl trivial (.cons rfl trivial (.cons rfl trivial
    (.cons rfl trivial (.cons rfl trivial (.cons rfl trivial (.cons rfl trivial (.cons rfl trivial
      (.cons rfl trivial (.cons rfl trivial (.nil _))))))))))) :
    Run (poolSections sampleExternals sampleConfig).step (fun _ _ => True)
      ⟨.fresh (Pool.withRuntimeFailurePolicyAndState sampleExternals sampleConfig [] .absent),[]⟩
      lateResetMoves _)
  exact ⟨_,hrun,rfl,(selection_safe hrun (by decide)).2.1⟩

end RotatorProxy.Proxy
