import RotatorProxy.Proxy.Entering

/-! The link between the failure records in memory and the disabled map that is saved: both say
which nodes are disabled and how many rechecks have failed. What each section does to either side. -/
namespace RotatorProxy.Proxy
open Text

variable {env : Externals} {cfg : PoolConfig}

/-- The recheck count of a record that is marked disabled. -/
def disabledCount (record : Option FailureRecord) : Option ℕ :=
  record.bind (fun r => if r.disabled then some r.disabledRecheckFailures else none)

@[simp] theorem disabledCount_none : disabledCount none = none := rfl

@[simp] theorem disabledCount_some (r : FailureRecord) :
    disabledCount (some r) = if r.disabled then some r.disabledRecheckFailures else none := rfl

@[simp] theorem disabledCount_listed (disabled : DisabledMap) (key : Str) :
    disabledCount (listedRecord env cfg disabled key) =
      (disabled.lookup (proxyKeyHash env key)).map PersistedDisabledProxy.disabledRecheckFailures := by
  unfold listedRecord
  cases disabled.lookup (proxyKeyHash env key) with
  | none => rfl
  | some d => rfl

/-- The recheck count under which the saved map lists a key. -/
def Pool.listedCount (env : Externals) (key : Str) (p : Pool) : Option ℕ :=
  (p.state.disabledByHash.lookup (proxyKeyHash env key)).map
    PersistedDisabledProxy.disabledRecheckFailures

/-- The record of a key is marked disabled exactly when the map lists the hash of the key, and
then both hold the same count. -/
def Pool.Agrees (env : Externals) (p : Pool) (key : Str) : Prop :=
  disabledCount (p.failures key) = p.listedCount env key

instance (env : Externals) (p : Pool) (key : Str) : Decidable (p.Agrees env key) :=
  inferInstanceAs (Decidable (_ = _))

variable (cfg) in
/-- A failure makes a record disabled with count zero, or leaves its disabled count alone. -/
theorem recordFailure_disabledCount (now : ℕ) (record : Option FailureRecord) :
    disabledCount (some (recordFailure cfg now record).1) =
        (if (recordFailure cfg now record).2 then some 0 else disabledCount record) ∧
      ((recordFailure cfg now record).2 = true → disabledCount record = none) := by
  have hfresh : disabledCount record = disabledCount (some (record.getD FailureRecord.fresh)) := by
    cases record with
    | none => rfl
    | some r => rfl
  rw [hfresh]
  unfold recordFailure
  dsimp only
  generalize record.getD FailureRecord.fresh = r
  by_cases hd : r.disabled = true
  · simp [hd]
  · split_ifs <;> simp_all

namespace Pool
variable (key : Str) (p : Pool)

@[simp] theorem setRecord_state (record : Option FailureRecord) :
    (p.setRecord key record).state = p.state := rfl
@[simp] theorem setRecord_file (record : Option FailureRecord) :
    (p.setRecord key record).file = p.file := rfl
@[simp] theorem setRecord_failures (record : Option FailureRecord) :
    (p.setRecord key record).failures = Function.update p.failures key record := rfl
@[simp] theorem insertDisabledLocked_failures (count : ℕ) :
    (p.insertDisabledLocked env key count).failures = p.failures := rfl
@[simp] theorem removeDisabledLocked_failures :
    (p.removeDisabledLocked env key).failures = p.failures := rfl
@[simp] theorem resetSelection_state (generation : ℕ) :
    (p.resetSelection generation).state = p.state := rfl
@[simp] theorem resetSelection_failures (generation : ℕ) :
    (p.resetSelection generation).failures = p.failures := rfl
@[simp] theorem resetSelection_file (generation : ℕ) :
    (p.resetSelection generation).file = p.file := rfl
@[simp] theorem persistState_state : (p.persistState cfg).state = p.state := by
  unfold persistState
  split <;> rfl
@[simp] theorem persistState_failures : (p.persistState cfg).failures = p.failures := by
  unfold persistState
  split <;> rfl

/-! The saved map, key by key -/

@[simp] theorem insertDisabledLocked_listedCount (count : ℕ) :
    (p.insertDisabledLocked env key count).listedCount env key = some count := by
  simp [insertDisabledLocked,listedCount]

theorem insertDisabledLocked_listedCount_ne {key' : Str} (count : ℕ)
    (h : proxyKeyHash env key' ≠ proxyKeyHash env key) :
    (p.insertDisabledLocked env key count).listedCount env key' = p.listedCount env key' := by
  simp [insertDisabledLocked,listedCount,AList.lookup_insert_ne h]

@[simp] theorem removeDisabledLocked_listedCount :
    (p.removeDisabledLocked env key).listedCount env key = none := by
  simp [removeDisabledLocked,listedCount]

theorem removeDisabledLocked_listedCount_ne {key' : Str}
    (h : proxyKeyHash env key' ≠ proxyKeyHash env key) :
    (p.removeDisabledLocked env key).listedCount env key' = p.listedCount env key' := by
  simp [removeDisabledLocked,listedCount,AList.lookup_erase_ne h]

/-! The locked sections on failure records: each one only sets the record of its key. -/

theorem reportSuccessLocked_cases :
    (p.failures key = none ∧ p.reportSuccessLocked key = (p,false)) ∨
      ∃ record, p.failures key = some record ∧ p.reportSuccessLocked key =
        (p.setRecord key none,record.disabled || decide (0 < record.disabledRecheckFailures)) := by
  cases hr : p.failures key with
  | none => exact .inl ⟨rfl,by simp [reportSuccessLocked,hr]⟩
  | some record => exact .inr ⟨record,rfl,by simp [reportSuccessLocked,hr]⟩

theorem recheckSuccessLocked_cases :
    (disabledCount (p.failures key) = none ∧ p.recheckSuccessLocked key = (p,false)) ∨
      (∃ count, disabledCount (p.failures key) = some count) ∧
        p.recheckSuccessLocked key = (p.setRecord key none,true) := by
  cases hr : p.failures key with
  | none => exact .inl ⟨rfl,by simp [recheckSuccessLocked,hr]⟩
  | some record =>
    by_cases hd : record.disabled = true
    · exact .inr ⟨⟨record.disabledRecheckFailures,by simp [hd]⟩,by simp [recheckSuccessLocked,hr,hd]⟩
    · exact .inl ⟨by simp [hd],by simp [recheckSuccessLocked,hr,hd]⟩

theorem recheckFailureLocked_cases :
    (disabledCount (p.failures key) = none ∧ p.recheckFailureLocked key = (p,none)) ∨
      ∃ record count, p.failures key = some record ∧ disabledCount (some record) = some count ∧
        disabledCount (some {record with disabledRecheckFailures := count+1}) = some (count+1) ∧
        p.recheckFailureLocked key =
          (p.setRecord key (some {record with disabledRecheckFailures := count+1}),some (count+1)) := by
  cases hr : p.failures key with
  | none => exact .inl ⟨rfl,by simp [recheckFailureLocked,hr]⟩
  | some record =>
    by_cases hd : record.disabled = true
    · refine .inr ⟨record,record.disabledRecheckFailures,rfl,by simp [hd],by simp [hd],?_⟩
      simp [recheckFailureLocked,hr,hd]
    · exact .inl ⟨by simp [hd],by simp [recheckFailureLocked,hr,hd]⟩

variable (env cfg) in
theorem reportFailure_cases (now : ℕ) (entry : ProxyEntry) :
    ((recordFailure cfg now (p.failures entry.key)).2 = true ∧
      p.reportFailure env cfg now (.proxy entry) =
        (p.setRecord entry.key (some (recordFailure cfg now (p.failures entry.key)).1)).persistDisabledEntryInner
          env cfg entry.key 0 true) ∨
      ((recordFailure cfg now (p.failures entry.key)).2 = false ∧
        p.reportFailure env cfg now (.proxy entry) =
          p.setRecord entry.key (some (recordFailure cfg now (p.failures entry.key)).1)) := by
  cases hb : (recordFailure cfg now (p.failures entry.key)).2 with
  | true => exact .inl ⟨rfl,by simp [reportFailure,reportFailureLocked,hb]⟩
  | false => exact .inr ⟨rfl,by simp [reportFailure,reportFailureLocked,hb]⟩

variable (env) in
/-- Retiring erases the key from the map and from the active entries, and marks its hash. -/
theorem removeAndRetireLocked_state :
    (p.removeAndRetireLocked env key).1.state.proxies =
        p.state.proxies.filter (fun entry => entry.key ≠ key) ∧
      (p.removeAndRetireLocked env key).1.state.retiredHashes =
        p.state.retiredHashes.insert (proxyKeyHash env key) ∧
      (p.removeAndRetireLocked env key).1.state.disabledByHash =
        p.state.disabledByHash.erase (proxyKeyHash env key) ∧
      (p.removeAndRetireLocked env key).1.failures = p.failures ∧
      (p.removeAndRetireLocked env key).1.file = p.file := by
  unfold removeAndRetireLocked
  dsimp only
  split_ifs with hlen
  · refine ⟨?_,rfl,rfl,rfl,rfl⟩
    exact (List.filter_eq_self.mpr (List.length_filter_eq_length_iff.mp hlen)).symm
  · exact ⟨rfl,rfl,rfl,rfl,rfl⟩

variable (env) in
/-- An entry is removed exactly when the key is active. -/
theorem removeAndRetireLocked_reset :
    (key ∉ p.activeKeys → (p.removeAndRetireLocked env key).2 = none) ∧
      (key ∈ p.activeKeys →
        (p.removeAndRetireLocked env key).2 = some (wrappingSucc p.state.generation)) := by
  unfold removeAndRetireLocked
  dsimp only
  constructor
  · intro hk
    rw [if_pos]
    rw [List.filter_eq_self.mpr]
    intro e he
    have hne : e.key ≠ key := fun heq => hk (heq ▸ List.mem_map_of_mem he)
    simpa using hne
  · intro hk
    rw [if_neg]
    intro hlen
    obtain ⟨e,he,hkey⟩ := List.mem_map.mp hk
    have := List.length_filter_eq_length_iff.mp hlen e he
    simp [hkey] at this

variable (env cfg) in
/-- What comes after the locked section touches neither the state nor the records. -/
theorem removeAndRetire_state (persist : Bool) :
    (p.removeAndRetire env cfg key persist).state = (p.removeAndRetireLocked env key).1.state ∧
      (p.removeAndRetire env cfg key persist).failures = p.failures := by
  obtain ⟨_,_,_,hf,_⟩ := removeAndRetireLocked_state env key p
  unfold removeAndRetire
  generalize p.removeAndRetireLocked env key = r at *
  obtain ⟨q,reset⟩ := r
  cases reset with
  | none => exact ⟨rfl,hf⟩
  | some generation => cases persist <;> simpa using hf

@[simp] theorem setRecord_setRecord (r r' : Option FailureRecord) :
    (p.setRecord key r).setRecord key r' = p.setRecord key r' := by
  simp [setRecord]

variable (env cfg) in
theorem recheckFailure_cases :
    (disabledCount (p.failures key) = none ∧
      p.reportDisabledRecheckFailure env cfg key = (p,.notDisabled)) ∨
      ∃ record count, p.failures key = some record ∧ disabledCount (p.failures key) = some count ∧
        ((count+1 < disabledRecheckDeleteAfterFailures ∧
          p.reportDisabledRecheckFailure env cfg key =
            ((p.setRecord key (some {record with disabledRecheckFailures := count+1})).persistDisabledEntryInner
              env cfg key (count+1) true,
              .stillDisabled (count+1) disabledRecheckDeleteAfterFailures) ∧
          disabledCount (some {record with disabledRecheckFailures := count+1}) = some (count+1)) ∨
        (disabledRecheckDeleteAfterFailures ≤ count+1 ∧
          p.reportDisabledRecheckFailure env cfg key =
            ((p.setRecord key none).removeAndRetire env cfg key true,
              .removed (count+1) disabledRecheckDeleteAfterFailures))) := by
  rcases recheckFailureLocked_cases key p with ⟨hn,he⟩ | ⟨record,count,hr,hc,hc',he⟩
  · exact .inl ⟨hn,by simp [reportDisabledRecheckFailure,reportDisabledRecheckFailureInner,he]⟩
  · refine .inr ⟨record,count,hr,by rw [hr,hc],?_⟩
    by_cases ht : disabledRecheckDeleteAfterFailures ≤ count+1
    · exact .inr ⟨ht,by simp [reportDisabledRecheckFailure,reportDisabledRecheckFailureInner,he,ht]⟩
    · exact .inl ⟨by omega,by simp [reportDisabledRecheckFailure,reportDisabledRecheckFailureInner,he,ht],
        hc'⟩

end Pool
end RotatorProxy.Proxy
