import RotatorProxy.Library.Run
import RotatorProxy.Outbound.Connector

/-! Connections through the pool one after another, each from its `connect` to the end of its
stream, and what the ones that die before their first response add up to. -/
namespace RotatorProxy.Outbound
open Text Proxy Library

/-- One connection: the turns of its `connect`, and the polls of its stream if it gets one. -/
structure Connection where
  tape : List Attempt
  polls : List (ℕ × Connector.InnerPoll)

/-- The pool, and the pools that the connections through one node have left so far. -/
structure Traffic where
  pool : Pool
  after : List Pool

namespace Connector
variable (c : Connector) (key : Str)

def keyOf : ProxyChoice → Option Str
  | .direct => none
  | .proxy entry => some entry.key

/-- A whole connection: the key of the node it goes through, and the pool it leaves. -/
def serve (connection : Connection) (p : Pool) : Option (Option Str × Pool) :=
  (c.connect connection.tape p).map fun result =>
    match result.1 with
    | .ok (.observed s) => (keyOf s.choice,(c.observeAll connection.polls s result.2).2)
    | .ok .plain => (none,result.2)
    | .error _ => (none,result.2)

def trafficStep (t : Traffic) (connection : Connection) : Option Traffic :=
  (c.serve connection t.pool).map fun served =>
    if served.1=some key then ⟨served.2,t.after++[served.2]⟩ else ⟨served.2,t.after⟩

/-- A connection through the node ends in an error or the end of its stream with no response. -/
def DiesEarly (t : Traffic) (connection : Connection) : Prop :=
  ∀ p, c.serve connection t.pool = some (some key,p) → FailsBeforeResponse connection.polls

/-- The node has been put in cooldown or disabled. -/
def CooledOrDisabled (p : Pool) : Prop :=
  ∃ record, p.failures key = some record ∧ (record.cooldownUntil.isSome = true ∨ record.disabled = true)

def MarkedDisabled (p : Pool) : Prop := ∃ record, p.failures key = some record ∧ record.disabled = true

variable {c key}

lemma reportFailure_record (env : Externals) (cfg : PoolConfig) (now : ℕ) (p : Pool) (entry : ProxyEntry) :
    (p.reportFailure env cfg now (.proxy entry)).failures entry.key=
      some (recordFailure cfg now (p.failures entry.key)).1 := by
  obtain ⟨_,he⟩ | ⟨_,he⟩ := p.reportFailure_cases env cfg now entry
  · simp [he,Pool.persistDisabledEntryInner]
  · simp [he]

/-- A connection that dies early leaves the record of a first failure, whatever came before it. -/
theorem serve_dead {connection : Connection} {p q : Pool}
    (h : c.serve connection p = some (some key,q)) (hdies : FailsBeforeResponse connection.polls) :
    ∃ now, q.failures key = some (recordFailure c.cfg now none).1 := by
  unfold serve at h
  obtain ⟨⟨result,r⟩,hconnect,hserved⟩ := Option.map_eq_some_iff.mp h
  rcases result with err | plain | s
  · cases hserved
  · cases hserved
  · obtain ⟨entry,rfl,hnone⟩ := connectLoop_observed hconnect
    obtain ⟨poll,_,_,hpool⟩ := observeAll_fails (c := c) hdies (.proxy entry) r
    cases hserved
    refine ⟨poll.1,?_⟩
    change (c.observeAll connection.polls (.new (.proxy entry)) r).2.failures entry.key=_
    rw [hpool,reportFailure_record,hnone]

/-- The record of a first failure. -/
lemma recordFailure_first (cfg : PoolConfig) (now : ℕ) :
    (recordFailure cfg now none).1=
      if cfg.runtimeFailureThreshold=1 then
        if cfg.runtimeDisableAfterCooldowns=1 then ⟨0,1,none,true,0⟩
        else ⟨0,1,some (now+cfg.cooldown),false,0⟩
      else ⟨1,0,none,false,0⟩ := by
  have hT := cfg.threshold_pos
  have hD := cfg.disable_pos
  simp only [recordFailure,FailureRecord.fresh,Option.getD_none,Bool.false_eq_true,if_false,
    Option.any_none,Nat.zero_add]
  by_cases h1 : cfg.runtimeFailureThreshold=1
  · by_cases h2 : cfg.runtimeDisableAfterCooldowns=1
    · simp [h1,h2]
    · rw [if_pos h1.le,if_neg (by omega),if_pos h1,if_neg h2]
  · rw [if_neg (by omega),if_neg h1]

variable (c key) in
/-- Every connection through the node has left its record as that of one failure. -/
def OneFailure (t : Traffic) : Prop :=
  ∀ p ∈ t.after, ∃ now, p.failures key = some (recordFailure c.cfg now none).1

theorem OneFailure.step {t u : Traffic} {connection : Connection} (ht : c.OneFailure key t)
    (hdies : c.DiesEarly key t connection) (hu : c.trafficStep key t connection = some u) :
    c.OneFailure key u := by
  obtain ⟨⟨via,q⟩,hserve,rfl⟩ := Option.map_eq_some_iff.mp hu
  intro p hp
  split_ifs at hp with hvia
  · rcases List.mem_append.mp hp with hp | hp
    · exact ht p hp
    · rw [List.mem_singleton] at hp
      subst hp hvia
      exact serve_dead hserve (hdies p hserve)
  · exact ht p hp

/-- Of `T*D` connections through one node that all die before their first response, the first `T`
put it in cooldown and all of them disable it only if one failure is enough for either. -/
theorem dead_connections_add_up {p₀ : Pool} {connections : List Connection} {t : Traffic}
    (hrun : Run (c.trafficStep key) (c.DiesEarly key) ⟨p₀,[]⟩ connections t)
    (hcount : t.after.length=c.cfg.runtimeFailureThreshold*c.cfg.runtimeDisableAfterCooldowns) :
    ((∃ p, t.after[c.cfg.runtimeFailureThreshold-1]? = some p ∧ CooledOrDisabled key p) ∧
        ∃ p, t.after.getLast? = some p ∧ MarkedDisabled key p) ↔
      c.cfg.runtimeFailureThreshold=1 ∧ c.cfg.runtimeDisableAfterCooldowns=1 := by
  have hrecords : c.OneFailure key t := by
    apply hrun.invariant (c.OneFailure key)
    · exact fun t connection u ht hdies hu => ht.step hdies hu
    · intro p hp
      cases hp
  constructor
  · rintro ⟨⟨p,hp,record,hrecord,hcooled⟩,q,hq,record',hrecord',hdisabled⟩
    obtain ⟨now,hfirst⟩ := hrecords p (List.mem_of_getElem? hp)
    obtain ⟨now',hfirst'⟩ := hrecords q (List.mem_of_getLast? hq)
    rw [hrecord,recordFailure_first] at hfirst
    rw [hrecord',recordFailure_first] at hfirst'
    cases hfirst
    cases hfirst'
    split_ifs at hcooled hdisabled with hT hD
    · exact ⟨hT,hD⟩
  · rintro ⟨hT,hD⟩
    rw [hT,hD] at hcount
    obtain ⟨p,hp⟩ := List.length_eq_one_iff.mp hcount
    obtain ⟨now,hfirst⟩ := hrecords p (by rw [hp]; exact List.mem_singleton_self p)
    rw [recordFailure_first,if_pos hT,if_pos hD] at hfirst
    rw [hp,hT]
    exact ⟨⟨p,rfl,_,hfirst,.inr rfl⟩,p,rfl,_,hfirst,rfl⟩

/-! Two connections through one node -/

/-- The node accepts the connection and closes it at once. -/
def closedConnection (now : ℕ) : Connection where
  tape := [⟨now,fun _ => .identity,.connected,now⟩]
  polls := [(now,.readReady 1024 0)]

lemma closedConnection_fails (now : ℕ) : FailsBeforeResponse (closedConnection now).polls :=
  ⟨[],_,[],rfl,rfl,fun poll h => by cases h⟩

/-- With a threshold of two, two such connections leave the node with a single failure. -/
theorem dead_connections_forgotten :
    ∃ t, Run ((sampleConnector 2).trafficStep sampleNode.key) ((sampleConnector 2).DiesEarly sampleNode.key)
        ⟨samplePool 2,[]⟩ [closedConnection 0,closedConnection 1] t ∧
      t.after.length=2*1 ∧ t.pool.failures sampleNode.key = some ⟨1,0,none,false,0⟩ ∧
      ¬(∃ p, t.after[2-1]? = some p ∧ CooledOrDisabled sampleNode.key p) ∧
      ¬∃ p, t.after.getLast? = some p ∧ MarkedDisabled sampleNode.key p := by
  have hrun := (.cons rfl (fun _ _ => closedConnection_fails 0)
      (.cons rfl (fun _ _ => closedConnection_fails 1) (.nil _)) :
    Run ((sampleConnector 2).trafficStep sampleNode.key) ((sampleConnector 2).DiesEarly sampleNode.key)
      ⟨samplePool 2,[]⟩ [closedConnection 0,closedConnection 1] _)
  refine ⟨_,hrun,rfl,rfl,?_,?_⟩
  · rintro ⟨p,hp,record,hrecord,hcooled⟩
    cases hp
    cases hrecord
    exact absurd hcooled (by decide)
  · rintro ⟨p,hp,record,hrecord,hdisabled⟩
    cases hp
    cases hrecord
    exact absurd hdisabled (by decide)

theorem dead_connections_add_up_once :
    ∃ t, Run ((sampleConnector 1).trafficStep sampleNode.key) ((sampleConnector 1).DiesEarly sampleNode.key)
        ⟨samplePool 1,[]⟩ [closedConnection 0] t ∧ t.after.length=1 ∧
      (∃ p, t.after[0]? = some p ∧ CooledOrDisabled sampleNode.key p) ∧
      ∃ p, t.after.getLast? = some p ∧ MarkedDisabled sampleNode.key p := by
  have hrun := (.cons rfl (fun _ _ => closedConnection_fails 0) (.nil _) :
    Run ((sampleConnector 1).trafficStep sampleNode.key) ((sampleConnector 1).DiesEarly sampleNode.key)
      ⟨samplePool 1,[]⟩ [closedConnection 0] _)
  exact ⟨_,hrun,rfl,(dead_connections_add_up hrun rfl).mpr ⟨rfl,rfl⟩⟩

end Connector
end RotatorProxy.Outbound
