import RotatorProxy.Proxy.Attempts
import RotatorProxy.Proxy.Cooldown

/-! Completeness of one scan. What is left in the bag and what has been passed over since the scan
began or the bag was filled never share a position, so a scan that gives up has looked at every one. -/
namespace RotatorProxy.Proxy
open Text

/-- The positions that the next pops give before the bag is filled again. -/
def SelectionBag.usable (bag : SelectionBag) (generation : ℕ) : List ℕ :=
  if bag.generation=generation then bag.remaining else []

@[simp] lemma SelectionBag.usable_self (generation : ℕ) (remaining : List ℕ) :
    SelectionBag.usable ⟨generation,remaining⟩ generation=remaining := if_pos rfl

@[simp] lemma SelectionBag.usable_reset (g generation : ℕ) :
    (SelectionBag.reset g).usable generation=[] := ite_self _

/-- Distinct positions of a vector of `len` entries. -/
def Positions (len : ℕ) (is : List ℕ) : Prop := is.Nodup ∧ ∀ i ∈ is, i < len

namespace Positions
variable {len : ℕ} {is js : List ℕ}

lemma nil (len : ℕ) : Positions len [] := ⟨List.nodup_nil,fun _ hi => by cases hi⟩

lemma left (h : Positions len (is++js)) : Positions len is :=
  ⟨(List.nodup_append.mp h.1).1,fun i hi => h.2 i (List.mem_append_left js hi)⟩

lemma right (h : Positions len (is++js)) : Positions len js :=
  ⟨(List.nodup_append.mp h.1).2.1,fun i hi => h.2 i (List.mem_append_right is hi)⟩

lemma perm (h : Positions len is) (hp : is.Perm js) : Positions len js :=
  ⟨hp.nodup_iff.mp h.1,fun i hi => h.2 i (hp.mem_iff.mpr hi)⟩

lemma range (len : ℕ) : Positions len (List.range len) :=
  ⟨List.nodup_range,fun _ hi => List.mem_range.mp hi⟩

lemma subperm (h : Positions len is) : is.Subperm (List.range len) :=
  h.1.subperm (fun i hi => List.mem_range.mpr (h.2 i hi))

lemma length_le (h : Positions len is) : is.length ≤ len := by
  simpa using h.subperm.length_le

/-- As many positions as there are entries are all of them. -/
lemma all (h : Positions len is) (hlen : len ≤ is.length) {i : ℕ} (hi : i < len) : i ∈ is := by
  have hperm := h.subperm.perm_of_length_le (by simpa using hlen)
  exact hperm.mem_iff.mpr (List.mem_range.mpr hi)

/-- The last position in the bag goes over to those that have been popped. -/
lemma move {rest : List ℕ} {index : ℕ} (h : Positions len (is++(rest++[index]))) :
    Positions len ((index::is)++rest) := by
  apply h.perm
  rw [← List.append_assoc]
  exact List.perm_append_comm

end Positions

def BagEvent.isPopped : BagEvent → Bool
  | .popped _ _ => true
  | _ => false

def pops (events : List BagEvent) : ℕ := events.countP BagEvent.isPopped

@[simp] lemma pops_nil : pops [] = 0 := rfl

@[simp] lemma pops_append (es fs : List BagEvent) : pops (es++fs)=pops es+pops fs := List.countP_append

@[simp] lemma pops_turn (refilled : Bool) (index len : ℕ) :
    pops ((if refilled then [.filled] else [])++[.popped index len])=1 := by
  cases refilled <;> rfl

/-- Neither disabled nor cooling. -/
def Usable (now : ℕ) (record : Option FailureRecord) : Prop :=
  ∀ r, record=some r → r.disabled = false ∧ ¬r.Cooling now

lemma isUnavailable_eq_false {now : ℕ} {record : Option FailureRecord} :
    (isUnavailable now record).1 = false ↔ Usable now record := by
  cases record with
  | none => exact ⟨fun _ r hr => (by cases hr),fun _ => rfl⟩
  | some r =>
    have hcooling : r.Cooling now ↔ ∃ until_, r.cooldownUntil=some until_ ∧ now < until_ := Iff.rfl
    simp only [Usable,Option.some.injEq,forall_eq',hcooling,isUnavailable]
    cases hd : r.disabled with
    | true => simp
    | false =>
      cases r.cooldownUntil with
      | none => simp
      | some until_ =>
        by_cases hlt : now < until_ <;> simp [hlt]

instance (now : ℕ) (record : Option FailureRecord) : Decidable (Usable now record) :=
  decidable_of_iff _ isUnavailable_eq_false

/-- An entry that the caller has not tried and whose record lets it be used. -/
def Available (now : ℕ) (tried : List Str) (failures : FailureMap) (entry : ProxyEntry) : Prop :=
  entry.key ∉ tried ∧ Usable now (failures entry.key)

instance (now : ℕ) (tried : List Str) (failures : FailureMap) (entry : ProxyEntry) :
    Decidable (Available now tried failures entry) := inferInstanceAs (Decidable (_ ∧ _))

lemma passOver_eq_false {now : ℕ} {tried : List Str} {failures : FailureMap} {entry : ProxyEntry} :
    (passOver now tried entry failures).1 = false ↔ Available now tried failures entry := by
  unfold passOver Available
  rw [← isUnavailable_eq_false]
  split_ifs with ht <;> simp [ht]

lemma passOver_eq_true {now : ℕ} {tried : List Str} {failures : FailureMap} {entry : ProxyEntry} :
    (passOver now tried entry failures).1 = true ↔ ¬Available now tried failures entry := by
  rw [← passOver_eq_false,Bool.not_eq_false]

/-- The scan ends with an available entry, or there is none. -/
def Scan.Complete (now : ℕ) (tried : List Str) (proxies : List ProxyEntry) (failures : FailureMap)
    (scan : Scan) : Prop :=
  (∃ entry ∈ proxies, scan.outcome = .found entry ∧ Available now tried failures entry ∧
    scan.failures=(passOver now tried entry failures).2) ∨
  (scan.outcome = .exhausted ∧ scan.failures=failures ∧
    ∀ entry ∈ proxies, ¬Available now tried failures entry)

/-- How often a scan that has `left` usable positions may still pop: the bag is filled once more
unless what is left makes up a whole round with the `popped` positions before. -/
def popBound (len popped left : ℕ) : ℕ := if popped+left=len then left else left+len

variable {generation : ℕ} {now : ℕ} {tried : List Str} {proxies : List ProxyEntry}
  {shuffles : ℕ → Shuffle} {fuel : ℕ} {bag : SelectionBag} {failures : FailureMap}

/-- After a pop without a fill the round goes on; after a fill it starts with the position popped. -/
lemma SelectionBag.nextIndex_round (shuffle : Shuffle) (popped : List ℕ)
    (hopen : popped.length < proxies.length)
    (hpositions : Positions proxies.length (popped++bag.usable generation))
    (hpassed : ∀ i ∈ popped, ∀ entry, proxies[i]? = some entry → ¬Available now tried failures entry) :
    ∃ index refilled rest round,
      bag.nextIndex shuffle generation proxies.length=(some (index,refilled),⟨generation,rest⟩) ∧
      round.length=(if refilled then 0 else popped.length) ∧
      Positions proxies.length ((index::round)++rest) ∧
      (∀ i ∈ round, ∀ entry, proxies[i]? = some entry → ¬Available now tried failures entry) ∧
      1+popBound proxies.length (round.length+1) rest.length ≤
        popBound proxies.length popped.length (bag.usable generation).length := by
  obtain ⟨index,rest,⟨hrem,hgen,heq⟩ | ⟨hperm,hempty,heq⟩⟩ :=
    bag.nextIndex_cases shuffle generation proxies.length (Nat.ne_zero_of_lt hopen)
  · have husable : bag.usable generation=rest++[index] := by rw [SelectionBag.usable,if_pos hgen,hrem]
    rw [husable] at hpositions ⊢
    refine ⟨index,false,rest,popped,heq,rfl,hpositions.move,hpassed,?_⟩
    simp only [popBound,List.length_append,List.length_singleton]
    split_ifs <;> omega
  · have husable : bag.usable generation=[] := by
      unfold SelectionBag.usable
      split_ifs with hgen
      · exact hempty.resolve_left (not_not.mpr hgen)
      · rfl
    have hfull := hperm.length_eq
    simp only [List.length_append,List.length_singleton,List.length_range] at hfull
    have hall : Positions proxies.length ([]++(rest++[index])) := (Positions.range _).perm hperm.symm
    refine ⟨index,true,rest,[],heq,rfl,hall.move,fun i hi => (by cases hi),?_⟩
    rw [husable]
    simp only [popBound,List.length_nil]
    split_ifs <;> omega

/-- `popped` are the positions since the scan began or the bag was filled; all were passed over. -/
theorem scanLoop_complete (popped : List ℕ) (hopen : popped.length < proxies.length)
    (hpositions : Positions proxies.length (popped++bag.usable generation))
    (hpassed : ∀ i ∈ popped, ∀ entry, proxies[i]? = some entry → ¬Available now tried failures entry)
    (hfuel : popBound proxies.length popped.length (bag.usable generation).length ≤ fuel)
    {scan : Scan}
    (hscan : scanLoop now tried generation proxies shuffles fuel popped.length bag failures=scan) :
    scan.Complete now tried proxies failures ∧
      Positions proxies.length (scan.bag.usable generation) ∧
      pops scan.events ≤ popBound proxies.length popped.length (bag.usable generation).length := by
  induction fuel generalizing popped bag scan with
  | zero =>
    have := hpositions.length_le
    unfold popBound at hfuel
    split_ifs at hfuel <;> omega
  | succ fuel ih =>
    obtain ⟨index,refilled,rest,round,hnext,hround,hpos,hpassed',hbound⟩ :=
      SelectionBag.nextIndex_round (shuffles fuel) popped hopen hpositions hpassed
    have hlt : index < proxies.length := hpos.2 index (by simp)
    obtain ⟨entry,hentry⟩ : ∃ entry, proxies[index]? = some entry := ⟨_,List.getElem?_eq_getElem hlt⟩
    obtain ⟨hfound,heq⟩ | ⟨hskip,scanned,hscanned,hrest⟩ :=
      scanLoop_cases now tried popped.length failures hnext hentry
    · subst hscan
      rw [heq]
      refine ⟨.inl ⟨entry,List.mem_of_getElem? hentry,rfl,passOver_eq_false.mp hfound,rfl⟩,?_,?_⟩
      · simpa using hpos.right
      · rw [pops_turn]
        omega
    · have hround' : scanned=(index::round).length := by rw [hscanned,← hround,List.length_cons]
      have hall : ∀ i ∈ index::round, ∀ entry, proxies[i]? = some entry →
          ¬Available now tried failures entry := by
        intro i hi e he
        obtain rfl | hi := List.mem_cons.mp hi
        · rw [hentry] at he
          cases he
          exact passOver_eq_true.mp hskip
        · exact hpassed' i hi e he
      obtain ⟨hdone,heq⟩ | ⟨hmore,rest',hrest',heq⟩ := hrest
      · subst hscan
        rw [heq]
        refine ⟨.inr ⟨rfl,rfl,?_⟩,?_,?_⟩
        · intro e he
          obtain ⟨i,hi,hget⟩ := List.getElem_of_mem he
          refine hall i (hpos.left.all (by omega) hi) e ?_
          rw [List.getElem?_eq_getElem hi,hget]
        · simpa using hpos.right
        · rw [pops_turn]
          omega
      · subst hround'
        obtain ⟨hcomplete,hbag,hpops⟩ := ih (index::round) hmore (by simpa using hpos) hall
          (by simp only [SelectionBag.usable_self,List.length_cons]; omega) hrest'.symm
        subst hscan
        rw [heq]
        refine ⟨hcomplete,hbag,?_⟩
        rw [pops_append,pops_turn]
        simp only [SelectionBag.usable_self,List.length_cons] at hpops
        omega

/-- What the bag holds for the present generation are positions of the present vector. -/
def Pool.BagFits (p : Pool) : Prop :=
  Positions p.state.proxies.length (p.selection.usable p.state.generation)

/-- A scan finds an available entry whenever there is one, after fewer pops than two for each entry. -/
theorem Pool.BagFits.nextRandomAvailable {p : Pool} (h : p.BagFits) (now : ℕ) (tried : List Str)
    (shuffles : ℕ → Shuffle) :
    (p.nextRandomAvailable now tried shuffles).Complete now tried p.state.proxies p.failures ∧
      Positions p.state.proxies.length
        ((p.nextRandomAvailable now tried shuffles).bag.usable p.state.generation) ∧
      pops (p.nextRandomAvailable now tried shuffles).events ≤ 2*p.state.proxies.length-1 := by
  unfold Pool.nextRandomAvailable
  split_ifs with hlen
  · refine ⟨.inr ⟨rfl,rfl,?_⟩,h,Nat.zero_le _⟩
    rw [List.length_eq_zero_iff.mp hlen]
    exact fun _ he => by cases he
  · have hle := h.length_le
    have hbound : popBound p.state.proxies.length ([] : List ℕ).length
        (p.selection.usable p.state.generation).length ≤ 2*p.state.proxies.length-1 := by
      simp only [popBound,List.length_nil]
      split_ifs <;> omega
    have hfuel : 2*p.state.proxies.length-1 ≤ scanFuel p.state.proxies := Nat.sub_le _ _
    exact (scanLoop_complete [] (Nat.pos_of_ne_zero hlen) h (fun i hi => by cases hi)
      (hbound.trans hfuel) rfl).imp_right (And.imp_right (fun hpops => hpops.trans hbound))

/-! Taking from an iterator -/

/-- Whatever a scan finds is an available entry: nothing that is passed over changes a record. -/
theorem scanLoop_found (now : ℕ) (tried : List Str) (generation : ℕ) (proxies : List ProxyEntry)
    (shuffles : ℕ → Shuffle) (fuel scanned : ℕ) (bag : SelectionBag) (failures : FailureMap) {entry : ProxyEntry}
    (hfound : (scanLoop now tried generation proxies shuffles fuel scanned bag failures).outcome=.found entry) :
    entry ∈ proxies ∧ Available now tried failures entry := by
  obtain ⟨_,hnone⟩ | ⟨e,he,hskip,hout,_⟩ :=
    scanLoop_changes now tried generation proxies shuffles fuel scanned bag failures rfl
  · exact absurd hfound (hnone entry)
  · cases hout.symm.trans hfound
    exact ⟨he,passOver_eq_false.mp hskip⟩

/-- A proxy that `next` gives out is available, and it is noted as tried. -/
theorem ProxyAttempts.next_found {attempts rest : ProxyAttempts} {now : ℕ} {shuffles : ℕ → Shuffle} {p q : Pool}
    {entry : ProxyEntry} {events : List BagEvent}
    (hnext : attempts.next now shuffles p=(some (.proxy entry),rest,q,events)) :
    entry ∈ p.state.proxies ∧ Available now attempts.tried p.failures entry ∧
      rest=⟨attempts.tried.insert entry.key,attempts.remaining-1,false⟩ := by
  unfold next at hnext
  split_ifs at hnext
  · cases hnext
  · cases hnext
  · dsimp only at hnext
    split at hnext
    · next e hout =>
      cases hnext
      unfold Pool.nextRandomAvailable at hout
      split_ifs at hout
      obtain ⟨hmem,havail⟩ := scanLoop_found _ _ _ _ _ _ _ _ _ hout
      exact ⟨hmem,havail,rfl⟩
    · cases hnext

/-- A record looked at twice at one time gives the same answer. -/
lemma isUnavailable_again (now : ℕ) (record : Option FailureRecord) :
    (isUnavailable now (isUnavailable now record).2).1=(isUnavailable now record).1 := by
  cases hu : (isUnavailable now record).1 with
  | true => rw [isUnavailable_true hu,hu]
  | false =>
    cases record with
    | none => rfl
    | some r =>
      unfold isUnavailable at hu ⊢
      dsimp only at hu ⊢
      split_ifs at hu ⊢ with hd
      cases hc : r.cooldownUntil with
      | none => simp [hc,hd]
      | some until_ =>
        simp only [hc] at hu ⊢
        split_ifs at hu ⊢
        simp [hd]

lemma passOver_unavailable (now : ℕ) (tried : List Str) (entry : ProxyEntry) (failures : FailureMap)
    (key : Str) : (isUnavailable now ((passOver now tried entry failures).2 key)).1=
      (isUnavailable now (failures key)).1 := by
  unfold passOver
  split_ifs
  · rfl
  · by_cases hk : key=entry.key
    · subst hk
      simp [isUnavailable_again]
    · simp [Function.update_of_ne hk]

lemma Scan.Complete.usable {scan : Scan} (h : scan.Complete now tried proxies failures) (key : Str) :
    Usable now (scan.failures key) ↔ Usable now (failures key) := by
  rw [← isUnavailable_eq_false,← isUnavailable_eq_false]
  obtain ⟨entry,_,_,_,hf⟩ | ⟨_,hf,_⟩ := h
  · rw [hf,passOver_unavailable]
  · rw [hf]

/-- An iterator that may go on gives out an available entry, or there is none. Either way the bag
still fits and no key becomes usable or unusable. -/
theorem ProxyAttempts.next_complete {p : Pool} (h : p.BagFits) (now : ℕ) (shuffles : ℕ → Shuffle)
    {attempts : ProxyAttempts} (hdirect : attempts.directPending = false)
    (hremaining : attempts.remaining ≠ 0) :
    ∃ (q : Pool) (events : List BagEvent), q.state=p.state ∧ q.BagFits ∧
      (∀ key, Usable now (q.failures key) ↔ Usable now (p.failures key)) ∧
      ((∃ entry ∈ p.state.proxies, Available now attempts.tried p.failures entry ∧
        attempts.next now shuffles p=(some (.proxy entry),
          ⟨attempts.tried.insert entry.key,attempts.remaining-1,false⟩,q,events)) ∨
      ((∀ entry ∈ p.state.proxies, ¬Available now attempts.tried p.failures entry) ∧
        attempts.next now shuffles p=(none,attempts,q,events))) := by
  obtain ⟨hcomplete,hbag,_⟩ := h.nextRandomAvailable now attempts.tried shuffles
  have hsame := hcomplete.usable
  unfold next
  rw [if_neg (by simp [hdirect]),if_neg hremaining]
  dsimp only
  generalize p.nextRandomAvailable now attempts.tried shuffles=scan at *
  obtain ⟨outcome,bag,failures,events⟩ := scan
  refine ⟨{p with selection := bag,failures := failures},events,rfl,hbag,hsame,?_⟩
  obtain ⟨entry,hmem,hout,havail,_⟩ | ⟨hout,_,hnone⟩ := hcomplete
  · dsimp only at hout
    subst hout
    exact .inl ⟨entry,hmem,havail,rfl⟩
  · dsimp only at hout
    subst hout
    exact .inr ⟨hnone,rfl⟩

/-- Whatever the iterator does, the bag still fits. -/
theorem ProxyAttempts.next_fits {p : Pool} (h : p.BagFits) (now : ℕ) (shuffles : ℕ → Shuffle)
    (attempts : ProxyAttempts) : (attempts.next now shuffles p).2.2.1.BagFits := by
  by_cases hdirect : attempts.directPending = true
  · rw [next,if_pos hdirect]
    exact h
  · by_cases hremaining : attempts.remaining=0
    · rw [next,if_neg hdirect,if_pos hremaining]
      exact h
    · obtain ⟨q,events,_,hq,_,⟨_,_,_,he⟩ | ⟨_,he⟩⟩ :=
        next_complete h now shuffles (by simpa using hdirect) hremaining <;>
      · rw [he]
        exact hq

end RotatorProxy.Proxy
