import RotatorProxy.Proxy.Node
import Mathlib.Data.List.AList

/-! The proxy pool. Each public operation is a sequence of sections run under one lock each; the
functions ending in `Locked` are those sections, and the operations put them together in the order
of the code. Time is a number of ticks of the monotonic clock, and a file write succeeds. -/
namespace RotatorProxy.Proxy
open Text

/-- `DEFAULT_DISABLED_RECHECK_DELETE_AFTER_FAILURES` -/
def disabledRecheckDeleteAfterFailures : ℕ := 3

/-- `FAILURE_SHARDS` -/
def failureShards : ℕ := 64

def failureShardIndex (env : Externals) (key : Str) : ℕ := env.defaultHash key%failureShards

/-- `u64::wrapping_add` of one -/
def wrappingSucc (generation : ℕ) : ℕ := (generation+1)%2^64

structure FailureRecord where
  failures : ℕ
  cooldowns : ℕ
  cooldownUntil : Option ℕ
  disabled : Bool
  disabledRecheckFailures : ℕ
  deriving DecidableEq, Repr

def FailureRecord.fresh : FailureRecord := ⟨0,0,none,false,0⟩

structure PersistedDisabledProxy where
  keyHash : Str
  disabledRecheckFailures : ℕ
  deriving DecidableEq

/-- `HashMap<String, PersistedDisabledProxy>`; nothing depends on the order of its entries. -/
abbrev DisabledMap := AList (fun _ : Str => PersistedDisabledProxy)

/-- The list of the state file collected into a map: the last entry of a hash wins. -/
def loadDisabled (disabled : List PersistedDisabledProxy) : DisabledMap :=
  disabled.foldl (fun m d => m.insert d.keyHash d) ∅

/-- All the failure shards together: a key is only ever looked up in its own shard. -/
abbrev FailureMap := Str → Option FailureRecord

structure PoolState where
  proxies : List ProxyEntry
  retiredHashes : List Str
  disabledByHash : DisabledMap
  generation : ℕ

structure PersistedPoolState where
  version : ℕ
  available : List PersistedProxyNode
  disabled : List PersistedDisabledProxy
  retired : List Str

inductive StateFile
  | absent
  | unreadable
  | saved (state : PersistedPoolState)

/-- `load_persisted_pool_state`; a failure to load is an empty start. -/
def loadPersistedPoolState : StateFile → Option PersistedPoolState
  | .absent => some ⟨2,[],[],[]⟩
  | .unreadable => none
  | .saved state => if state.version=1 ∨ state.version=2 then some state else none

structure SelectionBag where
  generation : ℕ
  remaining : List ℕ
  deriving DecidableEq, Repr

/-- A shuffle puts a list in some order. -/
structure Shuffle where
  apply : List ℕ → List ℕ
  perm : ∀ l, (apply l).Perm l

def Shuffle.identity : Shuffle := ⟨id,fun _ => .refl _⟩

namespace SelectionBag

def reset (generation : ℕ) : SelectionBag := ⟨generation,[]⟩

def nextIndex (shuffle : Shuffle) (bag : SelectionBag) (generation len : ℕ) :
    Option (ℕ × Bool) × SelectionBag :=
  if len=0 then (none,bag)
  else
    let refilled := decide (bag.generation ≠ generation ∨ bag.remaining=[])
    let bag := if refilled then ⟨generation,shuffle.apply (List.range len)⟩ else bag
    (bag.remaining.getLast?.map (fun index => (index,refilled)),
      ⟨bag.generation,bag.remaining.dropLast⟩)

end SelectionBag

/-- The settings of a pool. The constructor raises both thresholds to at least one. -/
structure PoolConfig where
  /-- whether there is a `state_path` -/
  persistent : Bool
  maxRetries : ℕ
  runtimeFailureThreshold : ℕ
  runtimeDisableAfterCooldowns : ℕ
  cooldown : ℕ
  threshold_pos : 1 ≤ runtimeFailureThreshold
  disable_pos : 1 ≤ runtimeDisableAfterCooldowns

def PoolConfig.new (maxRetries threshold cooldown disableAfter : ℕ) (persistent : Bool) : PoolConfig where
  persistent := persistent
  maxRetries := maxRetries
  runtimeFailureThreshold := max threshold 1
  runtimeDisableAfterCooldowns := max disableAfter 1
  cooldown := cooldown
  threshold_pos := le_max_right _ _
  disable_pos := le_max_right _ _

def sampleConfig : PoolConfig := .new 0 1 300 1 true

structure Pool where
  state : PoolState
  selection : SelectionBag
  failures : FailureMap
  file : StateFile

/-! Failure records -/

/-- `is_unavailable` on the record of one key: the answer, and the record it leaves behind. -/
def isUnavailable (now : ℕ) : Option FailureRecord → Bool × Option FailureRecord
  | none => (false,none)
  | some record =>
    if record.disabled then (true,some record)
    else match record.cooldownUntil with
      | none => (false,some record)
      | some until_ =>
        if now < until_ then (true,some record)
        else (false,some {record with failures := 0,cooldownUntil := none})

/-- `report_failure` on the record of one key: the new record, and whether it became disabled. -/
def recordFailure (cfg : PoolConfig) (now : ℕ) (record : Option FailureRecord) : FailureRecord × Bool :=
  let record := record.getD FailureRecord.fresh
  if record.disabled then (record,false)
  else
    let expired := record.cooldownUntil.any (fun until_ => decide (until_ ≤ now))
    let record := if expired then {record with failures := 0,cooldownUntil := none} else record
    if cfg.runtimeFailureThreshold ≤ record.failures+1 then
      if cfg.runtimeDisableAfterCooldowns ≤ record.cooldowns+1 then
        (⟨0,record.cooldowns+1,none,true,0⟩,true)
      else
        (⟨0,record.cooldowns+1,some (now+cfg.cooldown),record.disabled,
          record.disabledRecheckFailures⟩,false)
    else ({record with failures := record.failures+1},false)

/-- The record of a node that the state file lists as disabled. -/
def restoredRecord (cfg : PoolConfig) (disabled : PersistedDisabledProxy) : FailureRecord where
  failures := 0
  cooldowns := cfg.runtimeDisableAfterCooldowns
  cooldownUntil := none
  disabled := true
  disabledRecheckFailures := disabled.disabledRecheckFailures

def restoreRecord (env : Externals) (cfg : PoolConfig) (disabled : DisabledMap) (failures : FailureMap)
    (entry : ProxyEntry) : FailureMap :=
  match disabled.lookup (proxyKeyHash env entry.key) with
  | some d => Function.update failures entry.key (some (restoredRecord cfg d))
  | none => failures

/-- One pass over entries that inserts a restored record for every one listed as disabled. -/
def restoreRecords (env : Externals) (cfg : PoolConfig) (disabled : DisabledMap)
    (entries : List ProxyEntry) (failures : FailureMap) : FailureMap :=
  entries.foldl (restoreRecord env cfg disabled) failures

/-! Entering the pool -/

/-- The entries whose hash is not retired and whose key is not known, the first of each key. -/
def retainNew (env : Externals) (retired : List Str) : List Str → List ProxyEntry → List ProxyEntry
  | _,[] => []
  | known,entry::entries =>
    if proxyKeyHash env entry.key ∈ retired then retainNew env retired known entries
    else if entry.key ∈ known then retainNew env retired known entries
    else entry::retainNew env retired (entry.key::known) entries

structure MergeLoop where
  known : List Str
  failures : FailureMap
  merged : List ProxyEntry
  skippedExisting : ℕ
  skippedRetired : ℕ

/-- One turn of the loop in `merge`. -/
def mergeEntry (env : Externals) (cfg : PoolConfig) (state : PoolState) (loop : MergeLoop)
    (entry : ProxyEntry) : MergeLoop :=
  if proxyKeyHash env entry.key ∈ state.retiredHashes then
    {loop with skippedRetired := loop.skippedRetired+1}
  else if entry.key ∈ loop.known then {loop with skippedExisting := loop.skippedExisting+1}
  else
    {loop with
      known := entry.key::loop.known
      failures := restoreRecord env cfg state.disabledByHash loop.failures entry
      merged := loop.merged++[entry]}

structure PoolMergeSummary where
  previous : ℕ
  added : ℕ
  skippedExisting : ℕ
  skippedRetired : ℕ
  active : ℕ
  deriving DecidableEq, Repr

inductive DisabledRecheckFailure
  | stillDisabled (failures threshold : ℕ)
  | removed (failures threshold : ℕ)
  | notDisabled
  deriving DecidableEq, Repr

namespace Pool
variable (env : Externals) (cfg : PoolConfig)

def activeKeys (p : Pool) : List Str := p.state.proxies.map ProxyEntry.key

/-! Sections -/

def setRecord (key : Str) (record : Option FailureRecord) (p : Pool) : Pool :=
  {p with failures := Function.update p.failures key record}

/-- Gives whether the record was disabled. -/
def reportSuccessLocked (key : Str) (p : Pool) : Pool × Bool :=
  match p.failures key with
  | none => (p,false)
  | some record => (p.setRecord key none,record.disabled || decide (0 < record.disabledRecheckFailures))

/-- Gives whether the record became disabled. -/
def reportFailureLocked (now : ℕ) (key : Str) (p : Pool) : Pool × Bool :=
  let result := recordFailure cfg now (p.failures key)
  (p.setRecord key (some result.1),result.2)

def recheckSuccessLocked (key : Str) (p : Pool) : Pool × Bool :=
  match p.failures key with
  | none => (p,false)
  | some record => if record.disabled then (p.setRecord key none,true) else (p,false)

/-- Gives the new count of recheck failures of a disabled node. -/
def recheckFailureLocked (key : Str) (p : Pool) : Pool × Option ℕ :=
  match p.failures key with
  | none => (p,none)
  | some record =>
    if record.disabled then
      let count := record.disabledRecheckFailures+1
      (p.setRecord key (some {record with disabledRecheckFailures := count}),some count)
    else (p,none)

def insertDisabledLocked (key : Str) (count : ℕ) (p : Pool) : Pool :=
  let keyHash := proxyKeyHash env key
  {p with state.disabledByHash := p.state.disabledByHash.insert keyHash ⟨keyHash,count⟩}

def removeDisabledLocked (key : Str) (p : Pool) : Pool :=
  {p with state.disabledByHash := p.state.disabledByHash.erase (proxyKeyHash env key)}

/-- Gives the new generation when an entry was removed. -/
def removeAndRetireLocked (key : Str) (p : Pool) : Pool × Option ℕ :=
  let keyHash := proxyKeyHash env key
  let marked := {p with
    state.disabledByHash := p.state.disabledByHash.erase keyHash
    state.retiredHashes := p.state.retiredHashes.insert keyHash}
  let retained := p.state.proxies.filter (fun entry => entry.key ≠ key)
  if retained.length=p.state.proxies.length then (marked,none)
  else
    let generation := wrappingSucc p.state.generation
    ({marked with state.proxies := retained,state.generation := generation},some generation)

/-- Gives the summary, and the new generation when an entry was added. -/
def mergeLocked (proxies : List ProxyNode) (p : Pool) : Pool × PoolMergeSummary × Option ℕ :=
  let previous := p.state.proxies.length
  let loop := (entriesFromNodes proxies).foldl (mergeEntry env cfg p.state)
    ⟨p.activeKeys,p.failures,p.state.proxies,0,0⟩
  let added := loop.merged.length-previous
  let generation := wrappingSucc p.state.generation
  let p := {p with failures := loop.failures}
  if 0 < added then
    ({p with state.proxies := loop.merged,state.generation := generation},
      ⟨previous,added,loop.skippedExisting,loop.skippedRetired,loop.merged.length⟩,some generation)
  else (p,⟨previous,added,loop.skippedExisting,loop.skippedRetired,previous⟩,none)

def replaceLocked (proxies : List ProxyNode) (p : Pool) : Pool × ℕ :=
  let generation := wrappingSucc p.state.generation
  ({p with state := ⟨entriesFromNodes proxies,[],∅,generation⟩},generation)

def resetSelection (generation : ℕ) (p : Pool) : Pool :=
  {p with selection := SelectionBag.reset generation}

/-- What `persist_state` reads under the state lock. -/
def persistedState (p : Pool) : PersistedPoolState where
  version := 2
  available := p.state.proxies.filterMap persistedProxyNodeFromEntry
  disabled := p.state.disabledByHash.entries.map Sigma.snd
  retired := p.state.retiredHashes

/-! Operations -/

def persistState (p : Pool) : Pool :=
  if cfg.persistent then {p with file := .saved p.persistedState} else p

def persistDisabledEntryInner (key : Str) (count : ℕ) (persist : Bool) (p : Pool) : Pool :=
  let p := p.insertDisabledLocked env key count
  if persist then p.persistState cfg else p

def removePersistedDisabledInner (key : Str) (persist : Bool) (p : Pool) : Pool :=
  let p := p.removeDisabledLocked env key
  if persist then p.persistState cfg else p

def removeAndRetire (key : Str) (persist : Bool) (p : Pool) : Pool :=
  match p.removeAndRetireLocked env key with
  | (p,none) => p
  | (p,some generation) =>
    let p := p.resetSelection generation
    if persist then p.persistState cfg else p

def reportSuccess (choice : ProxyChoice) (p : Pool) : Pool :=
  match choice with
  | .direct => p
  | .proxy entry =>
    match p.reportSuccessLocked entry.key with
    | (p,wasDisabled) =>
      if wasDisabled then p.removePersistedDisabledInner env cfg entry.key true else p

def reportFailure (now : ℕ) (choice : ProxyChoice) (p : Pool) : Pool :=
  match choice with
  | .direct => p
  | .proxy entry =>
    match p.reportFailureLocked cfg now entry.key with
    | (p,becameDisabled) =>
      if becameDisabled then p.persistDisabledEntryInner env cfg entry.key 0 true else p

def reportDisabledRecheckSuccessInner (key : Str) (persist : Bool) (p : Pool) : Pool × Bool :=
  match p.recheckSuccessLocked key with
  | (p,false) => (p,false)
  | (p,true) =>
    let p := p.removePersistedDisabledInner env cfg key persist
    (p.resetSelection p.state.generation,true)

def reportDisabledRecheckSuccess (key : Str) (p : Pool) : Pool × Bool :=
  p.reportDisabledRecheckSuccessInner env cfg key true

def reportDisabledRecheckFailureInner (key : Str) (persist : Bool) (p : Pool) :
    Pool × DisabledRecheckFailure :=
  match p.recheckFailureLocked key with
  | (p,none) => (p,.notDisabled)
  | (p,some count) =>
    if disabledRecheckDeleteAfterFailures ≤ count then
      ((p.setRecord key none).removeAndRetire env cfg key persist,
        .removed count disabledRecheckDeleteAfterFailures)
    else
      (p.persistDisabledEntryInner env cfg key count persist,
        .stillDisabled count disabledRecheckDeleteAfterFailures)

def reportDisabledRecheckFailure (key : Str) (p : Pool) : Pool × DisabledRecheckFailure :=
  p.reportDisabledRecheckFailureInner env cfg key true

def merge (proxies : List ProxyNode) (p : Pool) : Pool × PoolMergeSummary :=
  match p.mergeLocked env cfg proxies with
  | (p,summary,reset) =>
    let p := match reset with
      | some generation => p.resetSelection generation
      | none => p
    (p.persistState cfg,summary)

def clearShard (index : ℕ) (p : Pool) : Pool :=
  {p with
    failures := fun key => if failureShardIndex env key=index then none else p.failures key}

def clearFailureRecords (p : Pool) : Pool := {p with failures := fun _ => none}

def replace (proxies : List ProxyNode) (p : Pool) : Pool :=
  match p.replaceLocked proxies with
  | (p,generation) => ((p.resetSelection generation).clearFailureRecords).persistState cfg

/-- `with_runtime_failure_policy_and_state`: a pool built from the state file and more nodes. -/
def withRuntimeFailurePolicyAndState (proxies : List ProxyNode) (file : StateFile) : Pool :=
  let persisted := if cfg.persistent then loadPersistedPoolState file else none
  let retiredHashes := (persisted.map (fun state => state.retired.dedup)).getD []
  let disabledByHash : DisabledMap :=
    (persisted.map (fun state => loadDisabled state.disabled)).getD ∅
  let persistedProxies :=
    (persisted.map (fun state => restorePersistedProxyNodes env state.available)).getD []
  let initialEntries := retainNew env retiredHashes []
    (entriesFromNodes persistedProxies++entriesFromNodes proxies)
  let pool : Pool :=
    { state := ⟨initialEntries,retiredHashes,disabledByHash,0⟩
      selection := ⟨0,[]⟩
      failures := restoreRecords env cfg disabledByHash initialEntries (fun _ => none)
      file := file }
  pool.persistState cfg

end Pool
end RotatorProxy.Proxy
