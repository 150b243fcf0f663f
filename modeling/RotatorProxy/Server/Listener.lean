import Mathlib.Data.List.Perm.Basic
import RotatorProxy.Library.Run
import RotatorProxy.Outbound.Resource

/-! The accept loop. It takes a permit before it accepts a connection and hands it to the task of the connection, which
gives it back at its end; after an error it waits longer each time. Time is in milliseconds. -/
namespace RotatorProxy.Server
open Text Library Outbound

/-- `ACCEPT_ERROR_INITIAL_RETRY_DELAY` -/
def acceptErrorInitialRetryDelay : ℕ := 100

/-- `ACCEPT_ERROR_MAX_RETRY_DELAY` -/
def acceptErrorMaxRetryDelay : ℕ := 5000

/-- `Semaphore::MAX_PERMITS` where a `usize` has 64 bits -/
def maxPermits : ℕ := (2^64-1)/8

def nextAcceptRetryDelay (current : ℕ) : ℕ := min (current*2) acceptErrorMaxRetryDelay

inductive AcceptPhase
  | acquiring
  /-- with a permit -/
  | accepting
  | sleeping
  deriving DecidableEq

/-- The loop, and the connections whose tasks have not ended: each of them holds a permit. -/
structure Listener (κ : Type) where
  permits : ℕ
  retryDelay : ℕ
  phase : AcceptPhase
  clients : List κ

inductive ListenerEvent (κ : Type)
  | acquired
  | accepted (client : κ)
  | failed (err : IoError)
  | woke
  | finished (client : κ)

/-- The check at the beginning of `run_listener_with_limit` -/
def runListenerWithLimit (κ : Type) (maxConcurrentConnections : ℕ) : Except IoError (Listener κ) :=
  if maxConcurrentConnections=0 ∨ maxPermits < maxConcurrentConnections then
    .error (.new .invalidInput ("入站连接并发上限必须在 1..=".toList++decimal maxPermits++" 之间".toList))
  else .ok ⟨maxConcurrentConnections,acceptErrorInitialRetryDelay,.acquiring,[]⟩

namespace Listener
variable {κ : Type} {s t : Listener κ} {e : ListenerEvent κ} {limit : ℕ}

/-- Every iteration of the loop takes a permit; one that fails gives it back before it sleeps. -/
def step [DecidableEq κ] (s : Listener κ) : ListenerEvent κ → Option (Listener κ)
  | .acquired =>
    if s.phase = .acquiring ∧ 0 < s.permits then some {s with permits := s.permits-1,phase := .accepting} else none
  | .accepted client =>
    if s.phase = .accepting then some {s with
      retryDelay := acceptErrorInitialRetryDelay,phase := .acquiring,clients := s.clients++[client]}
    else none
  | .failed _ =>
    if s.phase = .accepting then some {s with permits := s.permits+1,phase := .sleeping} else none
  | .woke =>
    if s.phase = .sleeping then some {s with retryDelay := nextAcceptRetryDelay s.retryDelay,phase := .acquiring}
    else none
  | .finished client =>
    if client ∈ s.clients then some {s with permits := s.permits+1,clients := s.clients.erase client} else none

/-- What happens in the loop and not in the task of a connection. -/
def inLoop : ListenerEvent κ → Bool
  | .finished _ => false
  | _ => true

/-- The permits that are not free -/
def held (s : Listener κ) : ℕ := s.clients.length+if s.phase = .accepting then 1 else 0

def acceptedOf : ListenerEvent κ → Option κ
  | .accepted client => some client
  | _ => none

def finishedOf : ListenerEvent κ → Option κ
  | .finished client => some client
  | _ => none

/-- The failures since the last connection. -/
def failuresInARow (es : List (ListenerEvent κ)) : ℕ :=
  es.foldl (fun n e => match e with
    | .failed _ => n+1
    | .accepted _ => 0
    | _ => n) 0

/-- The delay after so many failures -/
def backoff (failures : ℕ) : ℕ := min (acceptErrorInitialRetryDelay*2^failures) acceptErrorMaxRetryDelay

lemma nextAcceptRetryDelay_backoff (n : ℕ) : nextAcceptRetryDelay (backoff n)=backoff (n+1) := by
  unfold nextAcceptRetryDelay backoff
  rw [pow_succ,← mul_assoc]
  omega

/-- The permits are all accounted for, no connection is lost, and the delay follows the failures. -/
structure Ok (limit : ℕ) (es : List (ListenerEvent κ)) (s : Listener κ) : Prop where
  permits : s.permits+s.held=limit
  clients : (es.filterMap acceptedOf).Perm (s.clients++es.filterMap finishedOf)
  awake : s.phase ≠ .sleeping → s.retryDelay=backoff (failuresInARow es)
  asleep : s.phase = .sleeping → 0 < failuresInARow es ∧ s.retryDelay=backoff (failuresInARow es-1)

lemma start_ok (hlimit : runListenerWithLimit κ limit = .ok s) : s.Ok limit [] := by
  unfold runListenerWithLimit at hlimit
  split_ifs at hlimit
  cases hlimit
  exact ⟨rfl,.refl _,fun _ => rfl,nofun⟩

lemma failuresInARow_snoc (es : List (ListenerEvent κ)) (e : ListenerEvent κ) : failuresInARow (es++[e])=
    match e with
    | .failed _ => failuresInARow es+1
    | .accepted _ => 0
    | _ => failuresInARow es := by
  unfold failuresInARow
  rw [List.foldl_append]
  rfl

/-- A step that no connection takes part in -/
lemma clients_quiet {es : List (ListenerEvent κ)} {clients : List κ} (haccepted : acceptedOf e=none)
    (hfinished : finishedOf e=none) (h : (es.filterMap acceptedOf).Perm (clients++es.filterMap finishedOf)) :
    ((es++[e]).filterMap acceptedOf).Perm (clients++(es++[e]).filterMap finishedOf) := by
  rw [List.filterMap_append,List.filterMap_append,List.filterMap_cons_none haccepted,
    List.filterMap_cons_none hfinished,List.filterMap_nil,List.filterMap_nil,List.append_nil,List.append_nil]
  exact h

variable [DecidableEq κ]

theorem Ok.step {es : List (ListenerEvent κ)} (h : s.Ok limit es) (ht : s.step e=some t) : t.Ok limit (es++[e]) := by
  obtain ⟨hpermits,hclients,hawake,hasleep⟩ := h
  unfold held at hpermits
  cases e with
  | acquired =>
    simp only [Listener.step] at ht
    split_ifs at ht with hfree
    cases ht
    rw [hfree.1,if_neg (by decide)] at hpermits
    refine ⟨?_,clients_quiet rfl rfl hclients,fun _ => ?_,nofun⟩
    · simp only [held,if_pos]
      omega
    · rw [failuresInARow_snoc]
      exact hawake (by rw [hfree.1]; decide)
  | accepted client =>
    simp only [Listener.step] at ht
    split_ifs at ht with hphase
    cases ht
    rw [hphase,if_pos rfl] at hpermits
    refine ⟨?_,?_,fun _ => ?_,nofun⟩
    · simp only [held,List.length_append,List.length_singleton]
      rw [if_neg (by decide)]
      omega
    · simp only [List.filterMap_append,acceptedOf,finishedOf,List.filterMap_cons,List.filterMap_nil,List.append_nil]
      refine (hclients.append_right _).trans ?_
      rw [List.append_assoc,List.append_assoc]
      exact List.Perm.append_left _ List.perm_append_comm
    · rw [failuresInARow_snoc]
      rfl
  | failed err =>
    simp only [Listener.step] at ht
    split_ifs at ht with hphase
    cases ht
    rw [hphase,if_pos rfl] at hpermits
    refine ⟨?_,clients_quiet rfl rfl hclients,fun hne => absurd rfl hne,fun _ => ?_⟩
    · simp only [held]
      rw [if_neg (by decide)]
      omega
    · rw [failuresInARow_snoc]
      exact ⟨Nat.succ_pos _,hawake (by rw [hphase]; decide)⟩
  | woke =>
    simp only [Listener.step] at ht
    split_ifs at ht with hphase
    cases ht
    obtain ⟨hsome,hdelay⟩ := hasleep hphase
    rw [hphase,if_neg (by decide)] at hpermits
    refine ⟨?_,clients_quiet rfl rfl hclients,fun _ => ?_,nofun⟩
    · simp only [held]
      rw [if_neg (by decide)]
      omega
    · rw [failuresInARow_snoc]
      dsimp only
      rw [hdelay,nextAcceptRetryDelay_backoff,Nat.sub_add_cancel hsome]
  | finished client =>
    simp only [Listener.step] at ht
    split_ifs at ht with hmem
    cases ht
    have hlength := List.length_erase_of_mem hmem
    have hpos := List.length_pos_of_mem hmem
    refine ⟨?_,?_,?_,?_⟩
    · simp only [held]
      omega
    · simp only [List.filterMap_append,acceptedOf,finishedOf,List.filterMap_cons,List.filterMap_nil,List.append_nil]
      refine hclients.trans (((List.perm_cons_erase hmem).append_right _).trans ?_)
      rw [← List.append_assoc]
      exact List.perm_append_singleton _ _ |>.symm
    · rw [failuresInARow_snoc]
      exact hawake
    · rw [failuresInARow_snoc]
      exact hasleep

/-- The loop waits for nothing but a permit, and only when none is free. -/
lemma blocked_iff (s : Listener κ) :
    (∀ e, inLoop e = true → s.step e=none) ↔ s.phase = .acquiring ∧ s.permits=0 := by
  constructor
  · intro hnone
    cases hphase : s.phase with
    | acquiring =>
      have hacquired := hnone .acquired rfl
      simp only [Listener.step,hphase] at hacquired
      split_ifs at hacquired with hfree
      have hnone : ¬0 < s.permits := fun hpos => hfree ⟨trivial,hpos⟩
      exact ⟨rfl,by omega⟩
    | accepting =>
      have hfailed := hnone (.failed (.otherError [])) rfl
      simp [Listener.step,hphase] at hfailed
    | sleeping =>
      have hwoke := hnone .woke rfl
      simp [Listener.step,hphase] at hwoke
  · rintro ⟨hphase,hpermits⟩ e hloop
    cases e with
    | finished client => cases hloop
    | acquired | accepted | failed | woke => simp [Listener.step,hphase,hpermits]

end Listener

/-- Once the limit is accepted the loop never ends, whatever errors there are. The connections are never more than the
limit, each that was accepted is running or has come to its end, and the loop waits for a connection to end only when the
limit is reached. After `k` failures in a row it sleeps for `100*2^(k-1)` milliseconds, but five seconds at most. -/
theorem listener_keeps_limit {κ : Type} [DecidableEq κ] {limit : ℕ} {start s : Listener κ}
    {es : List (ListenerEvent κ)} (hlimit : runListenerWithLimit κ limit = .ok start)
    (hrun : Run Listener.step (fun _ _ => True) start es s) :
    s.permits+s.held=limit ∧ s.clients.length ≤ limit ∧
      (es.filterMap Listener.acceptedOf).Perm (s.clients++es.filterMap Listener.finishedOf) ∧
      ((∀ e, Listener.inLoop e = true → s.step e=none) ↔ s.phase = .acquiring ∧ s.clients.length=limit) ∧
      (s.phase = .sleeping → 0 < Listener.failuresInARow es ∧
        s.retryDelay=min (100*2^(Listener.failuresInARow es-1)) 5000) := by
  obtain ⟨hpermits,hclients,_,hasleep⟩ := hrun.history (fun es s => s.Ok limit es)
    (fun _ _ _ _ h _ ht => h.step ht) [] (Listener.start_ok hlimit)
  refine ⟨hpermits,?_,hclients,?_,hasleep⟩
  · unfold Listener.held at hpermits
    omega
  · rw [Listener.blocked_iff]
    apply and_congr_right
    intro hphase
    rw [Listener.held,hphase,if_neg (by decide)] at hpermits
    omega

/-! With a limit of one the loop fails, accepts a connection and waits for its end. -/

def sampleAccepts : List (ListenerEvent ℕ) :=
  [.acquired,.failed (.otherError []),.woke,.acquired,.failed (.otherError []),.woke,.acquired,.accepted 7]

theorem listener_keeps_limit_sample : ∃ s : Listener ℕ,
    Run Listener.step (fun _ _ => True) ⟨1,acceptErrorInitialRetryDelay,.acquiring,[]⟩ sampleAccepts s ∧
    s.phase = .acquiring ∧ s.clients.length=1 ∧ ∀ e, Listener.inLoop e = true → s.step e=none := by
  have hfound : (sampleAccepts.foldlM (fun s e => if true then Listener.step s e else none)
      (⟨1,acceptErrorInitialRetryDelay,.acquiring,[]⟩ : Listener ℕ)).any
        (fun s => decide (s.phase = .acquiring ∧ s.clients.length=1)) = true := by
    decide
  obtain ⟨s,hs,hfacts⟩ := (Option.any_eq_true _ _).mp hfound
  obtain ⟨hphase,hlength⟩ := of_decide_eq_true hfacts
  have hrun : Run Listener.step (fun _ _ => True) ⟨1,acceptErrorInitialRetryDelay,.acquiring,[]⟩ sampleAccepts s :=
    Run.of_checked (fun _ _ => true) (fun _ _ _ => trivial) hs
  have hlimit : runListenerWithLimit ℕ 1 = .ok ⟨1,acceptErrorInitialRetryDelay,.acquiring,[]⟩ := rfl
  obtain ⟨_,_,_,hblocked,_⟩ := listener_keeps_limit hlimit hrun
  exact ⟨s,hrun,hphase,hlength,hblocked.mpr ⟨hphase,hlength⟩⟩

end RotatorProxy.Server
