import RotatorProxy.Library.Run
import Mathlib.Algebra.BigOperators.Fin
import Mathlib.Algebra.BigOperators.Group.Finset.Piecewise

/-! Workers that share one queue. Each of them looks whether it is to stop, takes an item, works on it, and records the
result; some results make it leave and tell the others to stop. A step is taken by one worker, whichever it is. -/
namespace RotatorProxy.Library

inductive Phase (α ρ : Type*)
  | looping
  | popping
  | working (item : α)
  | finishing (item : α) (result : ρ)
  | stopped

def Phase.isStopped {α ρ : Type*} : Phase α ρ → Bool
  | stopped => true
  | _ => false

lemma Phase.isStopped_iff {α ρ : Type*} (p : Phase α ρ) : p.isStopped = true ↔ p = .stopped := by
  cases p <;> simp [Phase.isStopped]

structure Entry (α ρ : Type*) (n : ℕ) where
  worker : Fin n
  item : α
  result : ρ

structure Crew (α ρ : Type*) (n : ℕ) where
  queue : List α
  stop : Bool
  phase : Fin n → Phase α ρ
  /-- what has been recorded, in order -/
  log : List (Entry α ρ n)

variable {α ρ : Type*} {n : ℕ}

namespace Crew

def start (items : List α) (n : ℕ) : Crew α ρ n := ⟨items,false,fun _ => .looping,[]⟩

def goto (c : Crew α ρ n) (i : Fin n) (p : Phase α ρ) : Crew α ρ n := {c with phase := Function.update c.phase i p}

/-- The worker that goes on, and the result if its work comes to an end. -/
def step (quits : ρ → Bool) (c : Crew α ρ n) (e : Fin n × ρ) : Option (Crew α ρ n) :=
  match c.phase e.1 with
  | .looping => some (c.goto e.1 (if c.stop then .stopped else .popping))
  | .popping =>
    match c.queue with
    | [] => some (c.goto e.1 .stopped)
    | item::rest => some {c.goto e.1 (.working item) with queue := rest}
  | .working item => some (c.goto e.1 (.finishing item e.2))
  | .finishing item result => some {c.goto e.1 (if quits result then .stopped else .looping) with
      stop := c.stop || quits result
      log := c.log++[⟨e.1,item,result⟩]}
  | .stopped => none

def Ended (c : Crew α ρ n) : Prop := ∀ i, c.phase i = .stopped

instance (c : Crew α ρ n) : Decidable c.Ended :=
  decidable_of_iff (∀ i, (c.phase i).isStopped = true) (forall_congr' fun i => (c.phase i).isStopped_iff)

/-- What one worker has recorded -/
def resultsOf (c : Crew α ρ n) (i : Fin n) : List (Entry α ρ n) := c.log.filter (fun entry => entry.worker=i)

def completed (quits : ρ → Bool) (c : Crew α ρ n) : List (Entry α ρ n) := c.log.filter (fun entry => !quits entry.result)

/-- What no worker has taken, or was given up. -/
def unfinished (quits : ρ → Bool) (c : Crew α ρ n) : List α :=
  c.queue++(c.log.filter (fun entry => quits entry.result)).map Entry.item

end Crew

/-- The item that a worker has in its hands -/
def Phase.held : Phase α ρ → Multiset α
  | working item | finishing item _ => {item}
  | _ => 0

/-- How many steps a worker takes at most before it takes the next item. -/
def Phase.rank : Phase α ρ → ℕ
  | working _ => 4
  | finishing _ _ => 3
  | looping => 2
  | popping => 1
  | stopped => 0

theorem sum_update_add {ι β M : Type*} [Fintype ι] [DecidableEq ι] [AddCommMonoid M] (f : β → M) (φ : ι → β) (i : ι)
    (b : β) : ∑ j, f (Function.update φ i b j)+f (φ i)=∑ j, f (φ j)+f b := by
  have hupdate : (fun j => f (Function.update φ i b j))=Function.update (f ∘ φ) i (f b) := by
    funext j
    exact Function.apply_update (fun _ => f) φ i b j
  rw [hupdate,Finset.sum_update_of_mem (Finset.mem_univ i),Finset.sdiff_singleton_eq_erase,add_assoc]
  exact (congrArg (f b+·) (Finset.sum_erase_add _ (f ∘ φ) (Finset.mem_univ i))).trans (add_comm _ _)

namespace Crew
variable {quits : ρ → Bool} {c t : Crew α ρ n} {e : Fin n × ρ}

/-- All that a worker can do. -/
theorem step_cases (h : step quits c e=some t) :
    (c.phase e.1 = .looping ∧ t=c.goto e.1 (if c.stop then .stopped else .popping)) ∨
    (c.phase e.1 = .popping ∧ c.queue=[] ∧ t=c.goto e.1 .stopped) ∨
    (∃ item rest, c.phase e.1 = .popping ∧ c.queue=item::rest ∧
      t={c.goto e.1 (.working item) with queue := rest}) ∨
    (∃ item, c.phase e.1 = .working item ∧ t=c.goto e.1 (.finishing item e.2)) ∨
    ∃ item result, c.phase e.1 = .finishing item result ∧
      t={c.goto e.1 (if quits result then .stopped else .looping) with
        stop := c.stop || quits result
        log := c.log++[⟨e.1,item,result⟩]} := by
  unfold step at h
  cases hphase : c.phase e.1 with
  | looping =>
    simp only [hphase,Option.some.injEq] at h
    exact .inl ⟨rfl,h.symm⟩
  | popping =>
    cases hqueue : c.queue with
    | nil =>
      simp only [hphase,hqueue,Option.some.injEq] at h
      exact .inr (.inl ⟨rfl,rfl,h.symm⟩)
    | cons item rest =>
      simp only [hphase,hqueue,Option.some.injEq] at h
      exact .inr (.inr (.inl ⟨item,rest,rfl,rfl,h.symm⟩))
  | working item =>
    simp only [hphase,Option.some.injEq] at h
    exact .inr (.inr (.inr (.inl ⟨item,rfl,h.symm⟩)))
  | finishing item result =>
    simp only [hphase,Option.some.injEq] at h
    exact .inr (.inr (.inr (.inr ⟨item,result,rfl,h.symm⟩)))
  | stopped =>
    simp only [hphase] at h
    cases h

/-- What a step records. -/
theorem step_log (h : step quits c e=some t) : t.log=c.log++match c.phase e.1 with
    | .finishing item result => [⟨e.1,item,result⟩]
    | _ => [] := by
  obtain ⟨hphase,rfl⟩ | ⟨hphase,hqueue,rfl⟩ | ⟨item,rest,hphase,hqueue,rfl⟩ | ⟨item,hphase,rfl⟩ |
    ⟨item,result,hphase,rfl⟩ := step_cases h
  all_goals rw [hphase]
  · exact (List.append_nil _).symm
  · exact (List.append_nil _).symm
  · exact (List.append_nil _).symm
  · exact (List.append_nil _).symm

theorem step_ended (h : c.Ended) : step quits c e=none := by
  unfold step
  rw [h e.1]

/-! It comes to an end -/

/-- How many steps are left at most -/
def left (c : Crew α ρ n) : ℕ := 4*c.queue.length+∑ i, (c.phase i).rank

lemma left_start (items : List α) : (start items n : Crew α ρ n).left=4*items.length+2*n := by
  simp [left,start,Phase.rank,mul_comm]

theorem step_left (h : step quits c e=some t) : t.left < c.left := by
  have hsum := fun p => sum_update_add Phase.rank c.phase e.1 p
  obtain ⟨hphase,rfl⟩ | ⟨hphase,hqueue,rfl⟩ | ⟨item,rest,hphase,hqueue,rfl⟩ | ⟨item,hphase,rfl⟩ |
    ⟨item,result,hphase,rfl⟩ := step_cases h
  · have hnext := hsum (if c.stop then .stopped else .popping)
    have hrank : (if c.stop then Phase.stopped else Phase.popping : Phase α ρ).rank ≤ 1 := by
      split_ifs <;> simp [Phase.rank]
    rw [hphase,show (Phase.looping : Phase α ρ).rank=2 from rfl] at hnext
    simp only [left,goto]
    omega
  · have hnext := hsum .stopped
    rw [hphase,show (Phase.popping : Phase α ρ).rank=1 from rfl,show (Phase.stopped : Phase α ρ).rank=0 from rfl] at hnext
    simp only [left,goto]
    omega
  · have hnext := hsum (.working item)
    rw [hphase,show (Phase.popping : Phase α ρ).rank=1 from rfl,
      show (Phase.working item : Phase α ρ).rank=4 from rfl] at hnext
    simp only [left,goto,hqueue,List.length_cons]
    omega
  · have hnext := hsum (.finishing item e.2)
    rw [hphase,show (Phase.working item : Phase α ρ).rank=4 from rfl,
      show (Phase.finishing item e.2 : Phase α ρ).rank=3 from rfl] at hnext
    simp only [left,goto]
    omega
  · have hnext := hsum (if quits result then .stopped else .looping)
    have hrank : (if quits result then Phase.stopped else Phase.looping : Phase α ρ).rank ≤ 2 := by
      split_ifs <;> simp [Phase.rank]
    rw [hphase,show (Phase.finishing item result : Phase α ρ).rank=3 from rfl] at hnext
    simp only [left,goto]
    omega

/-- As long as a worker has not stopped it can go on. -/
theorem ended_or_step (quits : ρ → Bool) (c : Crew α ρ n) : c.Ended ∨ ∃ i, ∀ r, (step quits c (i,r)).isSome = true := by
  by_cases hended : c.Ended
  · exact .inl hended
  · obtain ⟨i,hi⟩ := not_forall.mp hended
    refine .inr ⟨i,fun r => ?_⟩
    unfold step
    dsimp only
    cases hphase : c.phase i with
    | stopped => exact absurd hphase hi
    | popping => cases hqueue : c.queue <;> rfl
    | looping | working | finishing => rfl

/-! And every item is accounted for -/

/-- What the workers have in their hands -/
def inHand (c : Crew α ρ n) : Multiset α := ∑ i, (c.phase i).held

lemma inHand_goto (c : Crew α ρ n) (i : Fin n) (p : Phase α ρ) :
    (c.goto i p).inHand+(c.phase i).held=c.inHand+p.held := sum_update_add Phase.held c.phase i p

/-- No item is lost or doubled, and nobody stops before the queue is empty unless a result made it so. -/
structure Sound (quits : ρ → Bool) (items : List α) (c : Crew α ρ n) : Prop where
  items : Multiset.ofList c.queue+c.inHand+Multiset.ofList (c.log.map Entry.item)=Multiset.ofList items
  flag : c.stop = true → ∃ entry ∈ c.log, quits entry.result = true
  stopped : ∀ i, c.phase i = .stopped → c.queue=[] ∨ ∃ entry ∈ c.log, quits entry.result = true

theorem start_sound (quits : ρ → Bool) (items : List α) : (start items n : Crew α ρ n).Sound quits items where
  items := by simp [start,inHand,Phase.held]
  flag h := by cases h
  stopped i h := by cases h

lemma goto_stopped {i j : Fin n} {p : Phase α ρ} (h : (c.goto i p).phase j = .stopped) :
    c.phase j = .stopped ∨ p = .stopped := by
  change Function.update c.phase i p j = .stopped at h
  by_cases heq : j=i
  · subst heq
    rw [Function.update_self] at h
    exact .inr h
  · rw [Function.update_of_ne heq] at h
    exact .inl h

/-- A step of a worker that neither takes an item nor records a result. -/
lemma Sound.goto {items : List α} (hc : c.Sound quits items) {i : Fin n} {p : Phase α ρ}
    (hheld : p.held=(c.phase i).held)
    (hstopped : p = .stopped → c.queue=[] ∨ ∃ entry ∈ c.log, quits entry.result = true) :
    (c.goto i p).Sound quits items := by
  refine ⟨?_,hc.flag,fun j hj => (goto_stopped hj).elim (hc.stopped j) hstopped⟩
  have hsame := c.inHand_goto i p
  rw [hheld] at hsame
  rw [← hc.items,← add_right_cancel hsame]
  rfl

theorem Sound.step {items : List α} (hc : c.Sound quits items) (h : step quits c e=some t) : t.Sound quits items := by
  have hitems := hc.items
  obtain ⟨hphase,rfl⟩ | ⟨hphase,hqueue,rfl⟩ | ⟨item,rest,hphase,hqueue,rfl⟩ | ⟨item,hphase,rfl⟩ |
    ⟨item,result,hphase,rfl⟩ := step_cases h
  · refine hc.goto ?_ fun hnext => ?_
    · rw [hphase]
      split_ifs <;> rfl
    · split_ifs at hnext with hstop
      exact .inr (hc.flag hstop)
  · exact hc.goto (by rw [hphase]; rfl) fun _ => .inl hqueue
  · refine ⟨?_,hc.flag,fun i hi => ?_⟩
    · have hnext := c.inHand_goto e.1 (.working item)
      rw [hphase,show (Phase.popping : Phase α ρ).held=0 from rfl,add_zero] at hnext
      rw [← hitems,hqueue,← Multiset.cons_coe,← Multiset.singleton_add]
      change Multiset.ofList rest+(c.goto e.1 (.working item)).inHand+_=_
      rw [hnext,show (Phase.working item : Phase α ρ).held={item} from rfl]
      ac_rfl
    · refine (goto_stopped hi).elim (fun hi => ?_) nofun
      refine (hc.stopped i hi).imp_left fun hnil => ?_
      rw [hqueue] at hnil
      cases hnil
  · exact hc.goto (by rw [hphase]; rfl) nofun
  · have hkept : (∃ entry ∈ c.log, quits entry.result = true) →
        ∃ entry ∈ c.log++[⟨e.1,item,result⟩], quits entry.result = true := by
      rintro ⟨entry,hmem,hquits⟩
      exact ⟨entry,List.mem_append_left _ hmem,hquits⟩
    have hlast : quits result = true → ∃ entry ∈ c.log++[⟨e.1,item,result⟩], quits entry.result = true :=
      fun hquits => ⟨_,List.mem_append_right _ (List.mem_singleton_self _),hquits⟩
    refine ⟨?_,fun hstop => ?_,fun i hi => ?_⟩
    · have hnext := c.inHand_goto e.1 (if quits result then .stopped else .looping)
      have hheld : (if quits result then Phase.stopped else Phase.looping : Phase α ρ).held=0 := by
        split_ifs <;> rfl
      rw [hphase,hheld,add_zero,show (Phase.finishing item result : Phase α ρ).held={item} from rfl] at hnext
      rw [← hitems,← hnext]
      change Multiset.ofList c.queue+(c.goto e.1 (if quits result then .stopped else .looping)).inHand+
        Multiset.ofList ((c.log++[(⟨e.1,item,result⟩ : Entry α ρ n)]).map Entry.item)=_
      rw [List.map_append,← Multiset.coe_add,List.map_singleton,Multiset.coe_singleton]
      ac_rfl
    · exact (Bool.or_eq_true_iff.mp hstop).elim (fun hstop => hkept (hc.flag hstop)) hlast
    · refine (goto_stopped hi).elim (fun hi => (hc.stopped i hi).imp_right hkept) fun hnext => ?_
      split_ifs at hnext with hquits
      exact .inr (hlast hquits)

/-- What has been recorded is part of the work. -/
lemma Sound.log_subperm {items : List α} (hc : c.Sound quits items) : (c.log.map Entry.item).Subperm items := by
  rw [← Multiset.coe_le,← hc.items]
  exact Multiset.le_add_left _ _

/-! At the end -/

lemma inHand_ended (h : c.Ended) : c.inHand=0 := by
  refine Finset.sum_eq_zero fun i _ => ?_
  rw [h i]
  rfl

/-- Every item was completed once, or was not. -/
theorem Sound.perm {items : List α} (hc : c.Sound quits items) (h : c.Ended) :
    ((c.completed quits).map Entry.item++c.unfinished quits).Perm items := by
  have hitems := hc.items
  rw [inHand_ended h,add_zero,Multiset.coe_add,Multiset.coe_eq_coe] at hitems
  have hsplit := (List.filter_append_perm (fun entry : Entry α ρ n => quits entry.result) c.log).map Entry.item
  rw [List.map_append] at hsplit
  refine List.Perm.trans ?_ ((hsplit.append_left c.queue).trans hitems)
  unfold completed unfinished
  rw [← List.append_assoc c.queue]
  exact List.perm_append_comm

/-- Without a result that makes them leave, the workers leave nothing. -/
theorem Sound.unfinished_eq_nil {items : List α} (hc : c.Sound quits items) (h : c.Ended) (hn : 0 < n)
    (hquits : ∀ entry ∈ c.log, quits entry.result = false) : c.unfinished quits=[] := by
  have hnone : ¬∃ entry ∈ c.log, quits entry.result = true := by
    rintro ⟨entry,hmem,htrue⟩
    exact Bool.false_ne_true ((hquits entry hmem).symm.trans htrue)
  have hqueue : c.queue=[] := (hc.stopped ⟨0,hn⟩ (h _)).resolve_right hnone
  have hfilter : c.log.filter (fun entry => quits entry.result)=[] := by
    refine List.filter_eq_nil_iff.mpr fun entry hmem => ?_
    rw [hquits entry hmem]
    exact Bool.false_ne_true
  rw [unfinished,hqueue,hfilter]
  rfl

/-- The results of all workers, one worker after the other, are what was recorded. -/
theorem resultsOf_perm (c : Crew α ρ n) {order : List (Fin n)} (h : order.Perm (List.finRange n)) :
    (order.flatMap c.resultsOf).Perm c.log := by
  refine (h.flatMap_right _).trans ?_
  rw [← Multiset.coe_eq_coe]
  have hsum : ∀ l : List (Fin n), Multiset.ofList (l.flatMap c.resultsOf)=
      (l.map (fun i => Multiset.ofList (c.resultsOf i))).sum := by
    intro l
    induction l with
    | nil => rfl
    | cons i l ih => rw [List.flatMap_cons,List.map_cons,List.sum_cons,← ih,Multiset.coe_add]
  rw [hsum,← Fin.sum_univ_def]
  unfold resultsOf
  induction c.log with
  | nil => simp
  | cons entry log ih =>
    have hcons : ∀ i, Multiset.ofList ((entry::log).filter (fun entry => entry.worker=i))=
        (if entry.worker=i then {entry} else 0)+Multiset.ofList (log.filter (fun entry => entry.worker=i)) := by
      intro i
      rw [List.filter_cons]
      split_ifs <;> simp_all
    rw [Finset.sum_congr rfl (fun i _ => hcons i),Finset.sum_add_distrib,ih,Finset.sum_ite_eq,
      if_pos (Finset.mem_univ _)]
    rfl

end Crew
end RotatorProxy.Library
