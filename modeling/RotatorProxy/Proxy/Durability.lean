import RotatorProxy.Library.Replace
import RotatorProxy.Proxy.Filed
import RotatorProxy.Text.Split
import Mathlib.Logic.Relation

/-! The state file on a disk. The state is written to a file beside it, which is then renamed; whatever moment the process
is killed at, the next one finds the state before the operation or after it. -/
namespace RotatorProxy.Proxy
open Text Library

/-! Paths -/

/-- A path that names a file. -/
structure StatePath where
  parent : Str
  fileName : Str
  deriving DecidableEq

/-- The stem of a file name and its extension; a leading dot begins no extension. -/
def splitExtension (fileName : Str) : Str × Option Str :=
  match rsplitOnce '.' fileName with
  | some (before,after) => if before=[] then (fileName,none) else (before,some after)
  | none => (fileName,none)

/-- `Path::with_extension` -/
def StatePath.withExtension (path : StatePath) (extension : Str) : StatePath :=
  {path with fileName := (splitExtension path.fileName).1++ '.'::extension}

def StatePath.tmpPath (path : StatePath) : StatePath := path.withExtension "tmp".toList

lemma splitExtension_eq {fileName stem extension : Str} (h : splitExtension fileName=(stem,some extension)) :
    fileName=stem++ '.'::extension := by
  unfold splitExtension rsplitOnce at h
  cases hsplit : splitOnce '.' fileName.reverse with
  | none =>
    rw [hsplit] at h
    cases h
  | some parts =>
    obtain ⟨after,before⟩ := parts
    obtain ⟨hreverse,_⟩ := splitOnce_eq_some.mp hsplit
    simp only [hsplit,Option.map_some] at h
    split_ifs at h with hstem
    · cases h
    · cases h
      rw [← List.reverse_reverse fileName,hreverse,List.reverse_append,List.reverse_cons,List.append_assoc]
      rfl

lemma splitExtension_append {stem extension : Str} (hstem : stem ≠ []) (hdot : '.' ∉ extension) :
    splitExtension (stem++ '.'::extension)=(stem,some extension) := by
  unfold splitExtension
  rw [rsplitOnce_append hdot]
  exact if_neg hstem

/-- The other file is the same one only if the file is called so already. -/
lemma tmpPath_eq_iff (path : StatePath) :
    path.tmpPath=path ↔ (splitExtension path.fileName).2=some "tmp".toList := by
  obtain ⟨parent,fileName⟩ := path
  constructor
  · intro hsame
    have hname : (splitExtension fileName).1++ '.'::"tmp".toList=fileName := congrArg StatePath.fileName hsame
    by_cases hstem : (splitExtension fileName).1=[]
    · rw [hstem] at hname
      subst hname
      exact absurd hstem (by decide)
    · have hsplit := splitExtension_append hstem (show '.' ∉ "tmp".toList by decide)
      rw [hname] at hsplit
      exact congrArg Prod.snd hsplit
  · intro hextension
    have hname := splitExtension_eq (Prod.ext rfl hextension : splitExtension fileName=(_,some "tmp".toList))
    exact congrArg (StatePath.mk parent) hname.symm

/-! `save_persisted_pool_state` -/

/-- Writes the encoded state, in the pieces in which it goes to the disk. -/
def saveOps (path : StatePath) (pieces : List Bytes) : List (DiskOp StatePath UInt8) :=
  replaceOps path.tmpPath path pieces

/-- A save leaves the file whole at every moment, and so also when it fails or the process is killed, if and only if the
file is not called `.tmp`. -/
theorem save_whole_iff (path : StatePath) :
    (∀ (disk : Disk StatePath UInt8) (pieces : List Bytes),
      (disk.run (saveOps path pieces)) path=some pieces.flatten ∧ ∀ stopped, stopped <+: saveOps path pieces →
        (disk.run stopped) path=disk path ∨ (disk.run stopped) path=some pieces.flatten) ↔
      (splitExtension path.fileName).2 ≠ some "tmp".toList := by
  rw [Ne,← tmpPath_eq_iff]
  constructor
  · intro hwhole hsame
    -- the old content is gone before the new one is there
    obtain ⟨_,hstopped⟩ := hwhole (fun _ => some [1]) [[2]]
    have hprefix : [.truncate path.tmpPath] <+: saveOps path [[2]] := ⟨_,rfl⟩
    have htruncated : (Disk.run (fun _ : StatePath => some ([1] : Bytes)) [.truncate path.tmpPath]) path=some [] := by
      rw [hsame]
      exact Function.update_self path (some ([] : Bytes)) (fun _ : StatePath => some ([1] : Bytes))
    have hlost := hstopped _ hprefix
    rw [htruncated] at hlost
    simp at hlost
  · exact fun hne disk pieces => ⟨disk.replaced hne pieces,fun _ => disk.stopped hne⟩

/-! Processes that are killed -/

/-- `serde_json` on the persisted state -/
structure StateCodec where
  encode : PersistedPoolState → Option Bytes
  decode : Bytes → Option PersistedPoolState

/-- The state is written and read back as it was. -/
def StateCodec.Keeps (codec : StateCodec) (state : PersistedPoolState) (raw : Bytes) : Prop :=
  codec.encode state=some raw ∧ codec.decode raw=some state

/-- What `load_persisted_pool_state` finds. -/
def readStateFile (codec : StateCodec) (disk : Disk StatePath UInt8) (path : StatePath) : StateFile :=
  match disk path with
  | none => .absent
  | some raw =>
    match codec.decode raw with
    | none => .unreadable
    | some state => .saved state

/-- The memory of the process, if one is running, and the disk. -/
structure OnDisk where
  memory : Option (PoolConfig × Pool)
  disk : Disk StatePath UInt8

/-- Operations that save the state or not, and processes that are killed or started between any two operations of the
disk. The guard restricts the operations. -/
inductive DiskStep (env : Externals) (codec : StateCodec) (path : StatePath)
    (guard : PoolConfig × Pool → PoolOp → Prop) : OnDisk → OnDisk → Prop
  | quiet {s t : PoolConfig × Pool} {op : PoolOp} {disk : Disk StatePath UInt8} (taken : PoolOp.step env s op=some t)
      (allowed : guard s op) (same : t.2.file=s.2.file) : DiskStep env codec path guard ⟨some s,disk⟩ ⟨some t,disk⟩
  | saves {s t : PoolConfig × Pool} {op : PoolOp} {disk : Disk StatePath UInt8} {pieces : List Bytes}
      (taken : PoolOp.step env s op=some t) (allowed : guard s op) (saved : t.2.Projected)
      (written : codec.Keeps t.2.persistedState pieces.flatten) :
    DiskStep env codec path guard ⟨some s,disk⟩ ⟨some t,disk.run (saveOps path pieces)⟩
  | killed {s : PoolConfig × Pool} {disk : Disk StatePath UInt8} :
    DiskStep env codec path guard ⟨some s,disk⟩ ⟨none,disk⟩
  | killedSaving {s t : PoolConfig × Pool} {op : PoolOp} {disk : Disk StatePath UInt8} {pieces : List Bytes}
      {stopped : List (DiskOp StatePath UInt8)} (taken : PoolOp.step env s op=some t) (allowed : guard s op)
      (saved : t.2.Projected) (written : codec.Keeps t.2.persistedState pieces.flatten)
      (part : stopped <+: saveOps path pieces) :
    DiskStep env codec path guard ⟨some s,disk⟩ ⟨none,disk.run stopped⟩
  | started {t : PoolConfig × Pool} {proxies : List ProxyNode} {disk : Disk StatePath UInt8} {pieces : List Bytes}
      (persistent : t.1.persistent = true)
      (built : t.2=Pool.withRuntimeFailurePolicyAndState env t.1 proxies (readStateFile codec disk path))
      (allowed : ∀ s : PoolConfig × Pool, s.2.file=readStateFile codec disk path → guard s (.rebuild t.1 proxies))
      (written : codec.Keeps t.2.persistedState pieces.flatten) :
    DiskStep env codec path guard ⟨none,disk⟩ ⟨some t,disk.run (saveOps path pieces)⟩
  | killedStarting {t : PoolConfig × Pool} {proxies : List ProxyNode} {disk : Disk StatePath UInt8}
      {pieces : List Bytes} {stopped : List (DiskOp StatePath UInt8)} (persistent : t.1.persistent = true)
      (built : t.2=Pool.withRuntimeFailurePolicyAndState env t.1 proxies (readStateFile codec disk path))
      (allowed : ∀ s : PoolConfig × Pool, s.2.file=readStateFile codec disk path → guard s (.rebuild t.1 proxies))
      (written : codec.Keeps t.2.persistedState pieces.flatten) (part : stopped <+: saveOps path pieces) :
    DiskStep env codec path guard ⟨none,disk⟩ ⟨none,disk.run stopped⟩

section
variable {env : Externals} {codec : StateCodec} {path : StatePath} {guard : PoolConfig × Pool → PoolOp → Prop}
  {disk : Disk StatePath UInt8}

lemma readStateFile_congr {disk' : Disk StatePath UInt8} (h : disk' path=disk path) :
    readStateFile codec disk' path=readStateFile codec disk path := by
  rw [readStateFile,h]
  rfl

lemma readStateFile_keeps {state : PersistedPoolState} {raw : Bytes} (h : codec.Keeps state raw)
    (hdisk : disk path=some raw) : readStateFile codec disk path = .saved state := by
  rw [readStateFile,hdisk]
  simp only [h.2]

/-- After a save that was cut short the file reads as before, or as the state that was to be saved. -/
lemma readStateFile_stopped (disk : Disk StatePath UInt8) (hpath : path.tmpPath ≠ path) {state : PersistedPoolState}
    {pieces : List Bytes} (h : codec.Keeps state pieces.flatten) {stopped : List (DiskOp StatePath UInt8)}
    (hpart : stopped <+: saveOps path pieces) :
    readStateFile codec (disk.run stopped) path=readStateFile codec disk path ∨
      readStateFile codec (disk.run stopped) path = .saved state :=
  (disk.stopped hpath hpart).imp readStateFile_congr (readStateFile_keeps h)

/-- What is in memory and on the disk is what a run of the operations comes to in which nobody is killed. -/
def Refines (env : Externals) (codec : StateCodec) (path : StatePath) (guard : PoolConfig × Pool → PoolOp → Prop)
    (start : PoolConfig × Pool) (w : OnDisk) : Prop :=
  ∃ ops t, Run (PoolOp.step env) guard start ops t ∧ t.2.file=readStateFile codec w.disk path ∧
    ∀ s, w.memory=some s → s=t

theorem Refines.step (hpath : path.tmpPath ≠ path) {start : PoolConfig × Pool} {w w' : OnDisk}
    (h : Refines env codec path guard start w) (hstep : DiskStep env codec path guard w w') :
    Refines env codec path guard start w' := by
  obtain ⟨ops,u,hrun,hfile,hmemory⟩ := h
  cases hstep with
  | @quiet s t op disk taken allowed same =>
    cases hmemory s rfl
    exact ⟨ops++[op],t,hrun.snoc taken allowed,same.trans hfile,fun _ ht => (Option.some.inj ht).symm⟩
  | @saves s t op disk pieces taken allowed saved written =>
    cases hmemory s rfl
    refine ⟨ops++[op],t,hrun.snoc taken allowed,?_,fun _ ht => (Option.some.inj ht).symm⟩
    exact saved.trans (readStateFile_keeps written (disk.replaced hpath pieces)).symm
  | killed => exact ⟨ops,u,hrun,hfile,nofun⟩
  | @killedSaving s t op disk pieces stopped taken allowed saved written part =>
    cases hmemory s rfl
    obtain hold | hnew := readStateFile_stopped disk hpath written part
    · exact ⟨ops,_,hrun,hfile.trans hold.symm,nofun⟩
    · exact ⟨ops++[op],t,hrun.snoc taken allowed,saved.trans hnew.symm,nofun⟩
  | @started t proxies disk pieces persistent built allowed written =>
    have hbuilt : PoolOp.step env u (.rebuild t.1 proxies)=some t := by
      rw [PoolOp.step,hfile,← built]
    have hsaved : t.2.Projected := built ▸ Pool.Projected.built persistent proxies _
    refine ⟨ops++[_],t,hrun.snoc hbuilt (allowed u hfile),?_,fun _ ht => (Option.some.inj ht).symm⟩
    exact hsaved.trans (readStateFile_keeps written (disk.replaced hpath pieces)).symm
  | @killedStarting t proxies disk pieces stopped persistent built allowed written part =>
    have hbuilt : PoolOp.step env u (.rebuild t.1 proxies)=some t := by
      rw [PoolOp.step,hfile,← built]
    have hsaved : t.2.Projected := built ▸ Pool.Projected.built persistent proxies _
    obtain hold | hnew := readStateFile_stopped disk hpath written part
    · exact ⟨ops,u,hrun,hfile.trans hold.symm,nofun⟩
    · exact ⟨ops++[_],t,hrun.snoc hbuilt (allowed u hfile),hsaved.trans hnew.symm,nofun⟩

/-- However often processes are killed and started on one disk, in the middle of a save or not, the pool and the file are
those of a run in which every operation comes to its end: each operation that is killed has happened or has not. -/
theorem killed_runs_refine (hpath : (splitExtension path.fileName).2 ≠ some "tmp".toList) {w : OnDisk}
    (hsteps : Relation.ReflTransGen (DiskStep env codec path guard) ⟨none,disk⟩ w) {start : PoolConfig × Pool}
    (hstart : start.2.file=readStateFile codec disk path) : Refines env codec path guard start w := by
  have hne : path.tmpPath ≠ path := fun hsame => hpath ((tmpPath_eq_iff path).mp hsame)
  induction hsteps with
  | refl => exact ⟨[],start,.nil start,hstart,nofun⟩
  | tail _ hstep ih => exact ih.step hne hstep

/-- The operation leaves what would be saved as it is, or is one of those that do not save it. -/
def KeptOrUnsaved (env : Externals) (s : PoolConfig × Pool) (op : PoolOp) : Prop :=
  Unsaved env s op ∨ ∀ t, PoolOp.step env s op=some t → t.2.persistedState=s.2.persistedState

/-- The file holds the state of a moment since which nothing has changed what would be saved but those operations that do
not save it. -/
def FiledSince (env : Externals) (guard : PoolConfig × Pool → PoolOp → Prop) (file : StateFile)
    (s : PoolConfig × Pool) : Prop :=
  ∃ ops t, Run (PoolOp.step env) (fun u op => guard u op ∧ KeptOrUnsaved env u op) t ops s ∧
    file = .saved t.2.persistedState

lemma FiledSince.step {s t : PoolConfig × Pool} {op : PoolOp} (h : FiledSince env guard s.2.file s)
    (hc : t.1.persistent = true) (allowed : guard s op) (taken : PoolOp.step env s op=some t) :
    FiledSince env guard t.2.file t := by
  obtain ⟨ops,u,hrun,hfile⟩ := h
  obtain ⟨hsame,hkept⟩ | hsaved := step_saves hc taken
  · refine ⟨ops++[op],u,hrun.snoc taken ⟨allowed,hkept.imp_right fun hk v hv => ?_⟩,hsame.trans hfile⟩
    cases hv.symm.trans taken
    exact hk
  · exact ⟨[],t,.nil t,hsaved⟩

/-- Where every operation saves what it changes the file is up to date. -/
lemma FiledSince.now {file : StateFile} {s : PoolConfig × Pool} (h : FiledSince env guard file s)
    (hguard : ∀ u op, guard u op → ¬Unsaved env u op) : file = .saved s.2.persistedState := by
  obtain ⟨ops,t,hrun,hfile⟩ := h
  have hsame : s.2.persistedState=t.2.persistedState := by
    refine hrun.invariant (fun u => u.2.persistedState=t.2.persistedState) ?_ rfl
    rintro u op v hu ⟨hallowed,hunsaved | hkept⟩ htaken
    · exact absurd hunsaved (hguard u op hallowed)
    · exact (hkept v htaken).trans hu
  rw [hfile,hsame]

/-- Whatever has been killed before, the file on the disk is what the running process would have saved at a moment since
which it has changed that only by deferred rechecks and unsaved removals; without these the file is up to date. -/
theorem killed_runs_filed (hpath : (splitExtension path.fileName).2 ≠ some "tmp".toList)
    (hbuild : ∀ s cfg proxies, guard s (.rebuild cfg proxies) → cfg.persistent = true) {w : OnDisk}
    (hsteps : Relation.ReflTransGen (DiskStep env codec path guard) ⟨none,disk⟩ w) :
    ∀ s, w.memory=some s → FiledSince env guard (readStateFile codec w.disk path) s ∧
      ((∀ u op, guard u op → ¬Unsaved env u op) → readStateFile codec w.disk path = .saved s.2.persistedState) := by
  have hfiled : ∀ s, w.memory=some s → s.1.persistent = true ∧ FiledSince env guard s.2.file s := by
    induction hsteps with
    | refl => nofun
    | tail _ hstep ih =>
      intro u hu
      cases hstep with
      | quiet taken allowed | saves taken allowed =>
        cases hu
        obtain ⟨hc,hs⟩ := ih _ rfl
        have hc := step_persistent hc (fun cfg proxies h => hbuild _ cfg proxies (h ▸ allowed)) taken
        exact ⟨hc,hs.step hc allowed taken⟩
      | killed | killedSaving | killedStarting => cases hu
      | started persistent built =>
        cases hu
        have hsaved : u.2.Projected := built ▸ Pool.Projected.built persistent _ _
        exact ⟨persistent,[],u,.nil u,hsaved⟩
  intro s hs
  obtain ⟨_,t,_,hfile,hmemory⟩ :=
    killed_runs_refine hpath hsteps (rfl : (PoolConfig.new 0 1 0 1 true,
      (⟨⟨[],[],∅,0⟩,⟨0,[]⟩,fun _ => none,readStateFile codec disk path⟩ : Pool)).2.file=readStateFile codec disk path)
  cases hmemory s hs
  rw [← hfile]
  exact ⟨(hfiled s hs).2,(hfiled s hs).2.now⟩

end

/-! A process is killed when it has begun to save for the second time. -/

def samplePath : StatePath := ⟨".rotator-proxy".toList,"pool-state.json".toList⟩

/-- A state without nodes, as `to_vec_pretty` writes it -/
def emptyStateText : Bytes :=
  ("\x7b\n  \"version\": 2,\n  \"available\": [],\n  \"disabled\": [],\n  \"retired\": []\n\x7d".toList).map
    (fun c => UInt8.ofNat c.toNat)

/-- The codec on such states. -/
def emptyStateCodec : StateCodec where
  encode state :=
    if state.version=2 ∧ state.available.isEmpty ∧ state.disabled.isEmpty ∧ state.retired.isEmpty then some emptyStateText
    else none
  decode raw := if raw=emptyStateText then some ⟨2,[],[],[]⟩ else none

def emptyStart : PoolConfig × Pool :=
  (sampleConfig,Pool.withRuntimeFailurePolicyAndState sampleExternals sampleConfig [] .absent)

def emptyDisk : Disk StatePath UInt8 := fun _ => none

/-- The scratch file has been truncated. -/
def cutDisk : Disk StatePath UInt8 :=
  (emptyDisk.run (saveOps samplePath [emptyStateText])).run [.truncate samplePath.tmpPath]

lemma rebuild_allowed (s : PoolConfig × Pool) : NoUnsavedRemoval sampleExternals s (.rebuild sampleConfig []) := by
  refine ⟨rfl,nofun,fun _ _ h => ?_⟩
  cases h
  rfl

lemma cut_reached : Relation.ReflTransGen
    (DiskStep sampleExternals emptyStateCodec samplePath (NoUnsavedRemoval sampleExternals)) ⟨none,emptyDisk⟩
    ⟨none,cutDisk⟩ := by
  have hstarted : DiskStep sampleExternals emptyStateCodec samplePath (NoUnsavedRemoval sampleExternals)
      ⟨none,emptyDisk⟩ ⟨some emptyStart,emptyDisk.run (saveOps samplePath [emptyStateText])⟩ :=
    .started rfl rfl (fun s _ => rebuild_allowed s) ⟨rfl,rfl⟩
  have hpart : [.truncate samplePath.tmpPath] <+: saveOps samplePath [emptyStateText] := ⟨_,rfl⟩
  have htaken : PoolOp.step sampleExternals emptyStart .persistState=
      some (sampleConfig,emptyStart.2.persistState sampleConfig) := rfl
  refine (Relation.ReflTransGen.single hstarted).tail ?_
  exact .killedSaving htaken ⟨rfl,nofun,nofun⟩ (Pool.Projected.persistState rfl _) ⟨rfl,rfl⟩ hpart

theorem killed_runs_sample : Refines sampleExternals emptyStateCodec samplePath (NoUnsavedRemoval sampleExternals)
    (sampleConfig,{emptyStart.2 with file := .absent}) ⟨none,cutDisk⟩ :=
  killed_runs_refine (by decide) cut_reached rfl

/-! A process with one node is killed while it saves. The next one disables the node and defers a recheck that fails. -/

def sampleHash : Str := proxyKeyHash sampleExternals sampleNode.key

def textBefore : Str :=
  "\x7b\n  \"version\": 2,\n  \"available\": [\n    \x7b\n      \"kind\": \"http\",\n      \"addr\": \x7b\n".toList++
    "        \"host\": \"127.0.0.1\",\n        \"port\": 1\n      \x7d,\n      \"auth\": null\n    \x7d\n  ],\n".toList++
    "  \"disabled\": [".toList

def textAfter : Str := "],\n  \"retired\": []\n\x7d".toList

/-- The state with that node as `to_vec_pretty` writes it, with the text between the brackets of the disabled nodes. -/
def nodeStateText (disabled : Str) : Bytes := (textBefore++disabled++textAfter).map (fun c => UInt8.ofNat c.toNat)

def disabledText : Str :=
  '\n'::"    \x7b\n      \"key_hash\": \"".toList++sampleHash++
    "\",\n      \"disabled_recheck_failures\": 0\n    \x7d\n  ".toList

def nodeState (disabled : List PersistedDisabledProxy) : PersistedPoolState :=
  ⟨2,[.http ⟨"127.0.0.1".toList,1⟩ none],disabled,[]⟩

def PersistedProxyNode.isSample : PersistedProxyNode → Bool
  | .http addr none => decide (addr=⟨"127.0.0.1".toList,1⟩)
  | _ => false

/-- The codec on the states that have this node, and it enabled or newly disabled. -/
def nodeCodec : StateCodec where
  encode state :=
    if state.version=2 ∧ state.available.map PersistedProxyNode.isSample=[true] ∧ state.retired=[] then
      if state.disabled=[] then some (nodeStateText [])
      else if state.disabled=[⟨sampleHash,0⟩] then some (nodeStateText disabledText) else none
    else none
  decode raw :=
    if raw=nodeStateText [] then some (nodeState [])
    else if raw=nodeStateText disabledText then some (nodeState [⟨sampleHash,0⟩]) else none

lemma nodeStateText_ne : nodeStateText disabledText ≠ nodeStateText [] := by
  intro hsame
  have hlength := congrArg List.length hsame
  simp only [nodeStateText,List.length_map,List.length_append,List.length_nil] at hlength
  have hempty : disabledText=[] := List.length_eq_zero_iff.mp (by omega)
  exact List.cons_ne_nil _ _ hempty

lemma nodeCodec_enabled : nodeCodec.Keeps (nodeState []) [nodeStateText []].flatten := by
  rw [List.flatten_singleton]
  simp [StateCodec.Keeps,nodeCodec,nodeState,PersistedProxyNode.isSample]

lemma nodeCodec_disabled : nodeCodec.Keeps (nodeState [⟨sampleHash,0⟩]) [nodeStateText disabledText].flatten := by
  rw [List.flatten_singleton]
  simp [StateCodec.Keeps,nodeCodec,nodeState,PersistedProxyNode.isSample,nodeStateText_ne]

/-- Every operation, as long as the process has a state file. -/
def Filing (_ : PoolConfig × Pool) (op : PoolOp) : Prop := ∀ cfg proxies, op = .rebuild cfg proxies → cfg.persistent = true

def nodeStart (file : StateFile) : PoolConfig × Pool :=
  (sampleConfig,Pool.withRuntimeFailurePolicyAndState sampleExternals sampleConfig [sampleNode] file)

/-- The first process has saved its node, and truncated the scratch file of a second save. -/
def halfSavedDisk : Disk StatePath UInt8 :=
  (emptyDisk.run (saveOps samplePath [nodeStateText []])).run [.truncate samplePath.tmpPath]

def enabledNode : PoolConfig × Pool := nodeStart (.saved (nodeState []))

def disabledNode : PoolConfig × Pool :=
  (sampleConfig,enabledNode.2.reportFailure sampleExternals sampleConfig 0 (.proxy (.fromNode sampleNode)))

def recheckedNode : PoolConfig × Pool :=
  (sampleConfig,(disabledNode.2.reportDisabledRecheckFailureInner sampleExternals sampleConfig sampleNode.key false).1)

def disabledDisk : Disk StatePath UInt8 :=
  (halfSavedDisk.run (saveOps samplePath [nodeStateText []])).run (saveOps samplePath [nodeStateText disabledText])

lemma sampleTmpPath_ne : samplePath.tmpPath ≠ samplePath := by decide

lemma half_saved : [.truncate samplePath.tmpPath] <+: saveOps samplePath [nodeStateText []] := ⟨_,rfl⟩

lemma halfSaved_reached : Relation.ReflTransGen (DiskStep sampleExternals nodeCodec samplePath Filing) ⟨none,emptyDisk⟩
    ⟨none,halfSavedDisk⟩ := by
  have hstarted : DiskStep sampleExternals nodeCodec samplePath Filing ⟨none,emptyDisk⟩
      ⟨some (nodeStart .absent),emptyDisk.run (saveOps samplePath [nodeStateText []])⟩ :=
    .started rfl rfl (fun _ _ _ _ h => by cases h; rfl) nodeCodec_enabled
  have htaken : PoolOp.step sampleExternals (nodeStart .absent) .persistState=
      some (sampleConfig,(nodeStart .absent).2.persistState sampleConfig) := rfl
  refine (Relation.ReflTransGen.single hstarted).tail ?_
  exact .killedSaving htaken nofun (Pool.Projected.persistState rfl _) nodeCodec_enabled half_saved

lemma rechecked_reached : Relation.ReflTransGen (DiskStep sampleExternals nodeCodec samplePath Filing) ⟨none,emptyDisk⟩
    ⟨some recheckedNode,disabledDisk⟩ := by
  have hsaved := emptyDisk.replaced sampleTmpPath_ne [nodeStateText []]
  have hread : readStateFile nodeCodec halfSavedDisk samplePath = .saved (nodeState []) :=
    readStateFile_keeps nodeCodec_enabled ((Disk.stopped _ sampleTmpPath_ne half_saved).elim (·.trans hsaved) id)
  have hstarted : DiskStep sampleExternals nodeCodec samplePath Filing ⟨none,halfSavedDisk⟩
      ⟨some enabledNode,halfSavedDisk.run (saveOps samplePath [nodeStateText []])⟩ :=
    .started rfl (by rw [hread]; rfl) (fun _ _ _ _ h => by cases h; rfl) nodeCodec_enabled
  have hfailed : PoolOp.step sampleExternals enabledNode (.reportFailure 0 (.proxy (.fromNode sampleNode)))=
      some disabledNode := rfl
  have hrechecked : PoolOp.step sampleExternals disabledNode (.recheckFailure sampleNode.key false)=
      some recheckedNode := rfl
  refine ((halfSaved_reached.tail hstarted).tail (.saves hfailed nofun rfl nodeCodec_disabled)).tail ?_
  exact .quiet hrechecked nofun rfl

/-- The deferred recheck counts in memory and not yet in the file. -/
theorem killed_runs_filed_sample :
    (FiledSince sampleExternals Filing (readStateFile nodeCodec disabledDisk samplePath) recheckedNode ∧
      ((∀ u op, Filing u op → ¬Unsaved sampleExternals u op) →
        readStateFile nodeCodec disabledDisk samplePath = .saved recheckedNode.2.persistedState)) ∧
      readStateFile nodeCodec disabledDisk samplePath = .saved (nodeState [⟨sampleHash,0⟩]) ∧
      recheckedNode.2.persistedState=nodeState [⟨sampleHash,1⟩] :=
  ⟨killed_runs_filed (by decide) (fun _ cfg proxies h => h cfg proxies rfl) rechecked_reached recheckedNode rfl,
    readStateFile_keeps nodeCodec_disabled (Disk.replaced _ sampleTmpPath_ne [nodeStateText disabledText]),rfl⟩

end RotatorProxy.Proxy
