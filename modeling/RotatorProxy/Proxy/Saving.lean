import RotatorProxy.Library.Saves
import RotatorProxy.Proxy.Admission
import RotatorProxy.Proxy.Retirement

/-! The state file under interleaved calls. The state changes in one section and is saved in two later
ones, under another lock; the last save to begin reads the last state. -/
namespace RotatorProxy.Proxy
open Text Library

variable {env : Externals} {cfg : PoolConfig} {key : Str} {w t : World} {a : PoolSection}

/-- Sections of operations that save what they change: none deferred, and no `replace`. -/
def PoolSection.saves : PoolSection → Prop
  | recheckSuccess _ persist | recheckFailure _ persist | insertDisabled _ _ persist
  | removeDisabled _ persist | removeAndRetire _ persist => persist = true
  | replace _ | clearShard _ => False
  | _ => True

/-- The key of a recheck failure that has yet to be counted or may lead to a removal. -/
def PoolSection.rechecked : PoolSection → Option Str
  | recheckFailure key _ | removeAndRetire key _ => some key
  | _ => none

/-- What a save has read and is to write. -/
def PoolSection.unwritten : PoolSection → Option PersistedPoolState
  | persistWrite state => some state
  | _ => none

/-- What the state file is to show. -/
def Pool.savedState (p : Pool) : StateFile := .saved p.persistedState

/-- The file shows the state, and no save is under way. -/
def World.Saved (w : World) : Prop := w.pool.file=w.pool.savedState ∧ w.persisting = false

/-- A recheck failure is reported for an active key, by one call at a time. -/
def RecheckedOnce (c : Concurrent) : Move PoolSection → Prop
  | .start a => a.saves ∧ ∀ key, a.rechecked=some key →
    key ∈ c.shared.pool.activeKeys ∧ ∀ b ∈ Sections.pending c, b.rechecked ≠ some key
  | .resume _ => True

/-! Each section -/

/-- What a section does to the state and to its file. -/
inductive SaveEffect (a : PoolSection) (w t : World) (more : List PoolSection) : Prop
  | idle (file : t.pool.file=w.pool.file) (persisting : t.persisting=w.persisting)
      (own : a ≠ .persistSnapshot) (writes : a.unwritten=none) (none : ∀ b ∈ more, b.unwritten=none)
      (view : t.pool.savedState=w.pool.savedState ∨ .persistSnapshot ∈ more)
  | read (eq : a = .persistSnapshot) (pool : t.pool=w.pool) (persisting : t.persisting = true)
      (more_eq : more=[.persistWrite w.pool.persistedState])
  | wrote (state : PersistedPoolState) (eq : a = .persistWrite state) (file : t.pool.file = .saved state)
      (view : t.pool.savedState=w.pool.savedState) (persisting : t.persisting = false) (none : more=[])

lemma unwritten_reset {reset : Option ℕ} {b : PoolSection} (hb : b ∈ resetSections reset) :
    b.unwritten=none := by
  cases reset with
  | none => cases hb
  | some generation =>
    rw [List.mem_singleton.mp hb]
    rfl

lemma unwritten_persist {b : PoolSection} (hb : b ∈ persistSections cfg) : b.unwritten=none := by
  unfold persistSections at hb
  split_ifs at hb
  · rw [List.mem_singleton.mp hb]
    rfl
  · cases hb

/-- Only the first section of a save leaves a write to be done. -/
theorem execSection_unwritten (ha : a ≠ .persistSnapshot) :
    ∀ b ∈ (execSection env cfg a w).2, b.unwritten=none := by
  cases a with
  | persistSnapshot => exact absurd rfl ha
  | merge proxies =>
    exact fun b hb => (List.mem_append.mp hb).elim unwritten_reset unwritten_persist
  | replace proxies =>
    intro b hb
    obtain rfl | hb := List.mem_cons.mp hb
    · rfl
    · obtain hb | hb := List.mem_append.mp hb
      · obtain ⟨i,_,rfl⟩ := List.mem_map.mp hb
        rfl
      · exact unwritten_persist hb
  | removeAndRetire k persist =>
    intro b hb
    simp only [execSection] at hb
    split at hb
    · obtain hb | hb := List.mem_append.mp hb
      · exact unwritten_reset hb
      · split_ifs at hb
        · exact unwritten_persist hb
        · cases hb
    · cases hb
  | insertDisabled k count persist | removeDisabled k persist =>
    intro b hb
    simp only [execSection] at hb
    split_ifs at hb
    · exact unwritten_persist hb
    · cases hb
  | reportSuccess _ | reportFailure _ _ | recheckSuccess _ _ =>
    simp only [execSection]
    split_ifs <;> simp [PoolSection.unwritten]
  | recheckFailure k persist =>
    simp only [execSection]
    generalize w.pool.recheckFailureLocked k=r
    obtain ⟨q,_ | count⟩ := r
    · simp
    · dsimp only
      split_ifs <;> simp [PoolSection.unwritten]
  | readGeneration => simp [execSection,PoolSection.unwritten]
  | attempts | next _ _ _ | clearShard _ | removeRecord _ | resetSelection _ | persistWrite _ =>
    intro b hb
    cases hb

lemma snapshot_mem_persist (hc : cfg.persistent = true) : .persistSnapshot ∈ persistSections cfg := by
  simp [persistSections,hc]

/-- A section on the failure records only. -/
lemma SaveEffect.of_record {q : Pool} {more : List PoolSection} (hstate : q.state=w.pool.state)
    (hfile : q.file=w.pool.file) (hown : a ≠ .persistSnapshot) (hwrites : a.unwritten=none)
    (hmore : ∀ b ∈ more, b.unwritten=none) : SaveEffect a w (w.setPool q) more := by
  refine .idle hfile rfl hown hwrites hmore (.inl ?_)
  simp only [World.setPool,Pool.savedState,Pool.persistedState,hstate]

lemma next_saveEffect (caller now : ℕ) (shuffles : ℕ → Shuffle) :
    SaveEffect (.next caller now shuffles) w (w.next caller now shuffles) [] := by
  unfold World.next
  cases w.iterators[caller]? with
  | none => exact .idle rfl rfl (by simp) rfl (by simp) (.inl rfl)
  | some attempts =>
    obtain ⟨hstate,_⟩ := attempts.next_pool now shuffles w.pool
    refine .idle (attempts.next_file now shuffles w.pool) rfl (by simp) rfl (by simp) (.inl ?_)
    unfold Pool.savedState Pool.persistedState
    dsimp only
    rw [hstate]

/-- Every section that changes the state leaves a save to be begun. -/
theorem execSection_saveEffect (hc : cfg.persistent = true) (hsaves : a.saves)
    (hactive : ∀ key persist, a = .removeAndRetire key persist → key ∈ w.pool.activeKeys) :
    SaveEffect a w (execSection env cfg a w).1 (execSection env cfg a w).2 := by
  cases a with
  | next caller now shuffles => exact next_saveEffect caller now shuffles
  | merge proxies =>
    refine .idle ?_ rfl (by simp) rfl (execSection_unwritten (by simp)) (.inr ?_)
    · exact (congrArg Pool.file (Pool.mergeLocked_pool env cfg proxies w.pool)).trans rfl
    · exact List.mem_append_right _ (snapshot_mem_persist hc)
  | replace _ | clearShard _ => exact hsaves.elim
  | reportSuccess entry =>
    have hmore := @execSection_unwritten env cfg w (.reportSuccess entry) (by simp)
    obtain ⟨_,he⟩ | ⟨record,_,he⟩ := w.pool.reportSuccessLocked_cases entry.key <;>
    · simp only [execSection,he] at hmore ⊢
      exact .of_record rfl rfl (by simp) rfl hmore
  | reportFailure now entry => exact .of_record rfl rfl (by simp) rfl (execSection_unwritten (by simp))
  | recheckSuccess k persist =>
    have hmore := @execSection_unwritten env cfg w (.recheckSuccess k persist) (by simp)
    obtain ⟨_,he⟩ | ⟨_,he⟩ := w.pool.recheckSuccessLocked_cases k <;>
    · simp only [execSection,he] at hmore ⊢
      exact .of_record rfl rfl (by simp) rfl hmore
  | recheckFailure k persist =>
    have hmore := @execSection_unwritten env cfg w (.recheckFailure k persist) (by simp)
    obtain ⟨_,he⟩ | ⟨_,_,_,_,_,he⟩ := w.pool.recheckFailureLocked_cases k <;>
    · simp only [execSection,he] at hmore ⊢
      exact .of_record rfl rfl (by simp) rfl hmore
  | insertDisabled k count persist | removeDisabled k persist =>
    cases hsaves
    exact .idle rfl rfl (by simp) rfl (execSection_unwritten (by simp)) (.inr (snapshot_mem_persist hc))
  | removeAndRetire k persist =>
    cases hsaves
    obtain ⟨_,_,_,_,hfile⟩ := Pool.removeAndRetireLocked_state env k w.pool
    have hreset := (Pool.removeAndRetireLocked_reset env k w.pool).2 (hactive k true rfl)
    refine .idle hfile rfl (by simp) rfl (execSection_unwritten (by simp)) (.inr ?_)
    simp [execSection,hreset,snapshot_mem_persist hc]
  | persistSnapshot => exact .read rfl rfl rfl rfl
  | persistWrite state => exact .wrote state rfl rfl rfl rfl rfl
  | attempts | removeRecord _ | readGeneration | resetSelection _ =>
    exact .idle rfl rfl (by simp) rfl (execSection_unwritten (by simp)) (.inl rfl)

/-- Sections of a save or of a reset of the bag. -/
lemma saves_trailing {b : PoolSection} (h : b.isTrailing = true) : b.saves ∧ b.rechecked=none := by
  cases b <;> simp_all [PoolSection.isTrailing,PoolSection.saves,PoolSection.rechecked]

/-- An operation that saves goes on saving, and is about a removal only if it was about a recheck
failure of the same key. -/
theorem execSection_saves (hsaves : a.saves) :
    (∀ b ∈ (execSection env cfg a w).2, b.saves) ∧
      ((execSection env cfg a w).2.filterMap PoolSection.rechecked).Sublist a.rechecked.toList := by
  have htrailing : ∀ {more : List PoolSection}, (∀ b ∈ more, b.isTrailing = true) →
      (∀ b ∈ more, b.saves) ∧ (more.filterMap PoolSection.rechecked).Sublist a.rechecked.toList := by
    intro more h
    have hnone : more.filterMap PoolSection.rechecked=[] :=
      List.filterMap_eq_nil_iff.mpr (fun b hb => (saves_trailing (h b hb)).2)
    exact ⟨fun b hb => (saves_trailing (h b hb)).1,hnone ▸ List.nil_sublist _⟩
  cases a with
  | merge proxies => exact htrailing (trailing_merge proxies)
  | replace _ | clearShard _ => exact hsaves.elim
  | removeAndRetire key persist => exact htrailing (trailing_retire key persist)
  | insertDisabled _ _ persist | removeDisabled _ persist => exact htrailing (trailing_persist persist)
  | reportSuccess entry | reportFailure now entry =>
    simp only [execSection]
    split_ifs <;> simp [PoolSection.saves,PoolSection.rechecked]
  | recheckSuccess key persist =>
    cases hsaves
    simp only [execSection]
    split_ifs <;> simp [PoolSection.saves,PoolSection.rechecked]
  | recheckFailure key persist =>
    cases hsaves
    simp only [execSection]
    generalize w.pool.recheckFailureLocked key=r
    obtain ⟨q,_ | count⟩ := r
    · simp
    · dsimp only
      split_ifs
      · exact ⟨by simp [PoolSection.saves],.refl _⟩
      · exact ⟨by simp [PoolSection.saves],List.nil_sublist _⟩
  | attempts | next _ _ _ | removeRecord _ | resetSelection _ | persistWrite _ =>
    exact htrailing (fun b hb => by cases hb)
  | readGeneration | persistSnapshot => exact htrailing (by simp [execSection,PoolSection.isTrailing])

/-! Runs -/

/-- What the calls in flight may still do, and where the saves stand. -/
structure Saving (past : List Concurrent) (c : Concurrent) : Prop where
  saves : ∀ b ∈ Sections.pending c, b.saves
  once : ((Sections.pending c).filterMap PoolSection.rechecked).Nodup
  active : ∀ key ∈ (Sections.pending c).filterMap PoolSection.rechecked, key ∈ c.shared.pool.activeKeys
  held : ∃ held : Option PersistedPoolState,
    (Sections.pending c).filterMap PoolSection.unwritten=held.toList ∧ c.shared.persisting=held.isSome ∧
    FollowsHolding (fun c : Concurrent => c.shared.pool.savedState) (fun c => c.shared.pool.file)
      (held.map .saved) past c ∧
    (.persistSnapshot ∉ Sections.pending c →
      (held.map .saved).getD c.shared.pool.file=c.shared.pool.savedState)

lemma Saving.start {past : List Concurrent} {c : Concurrent} (h : Saving past c) (hsaves : a.saves)
    (honce : ∀ key, a.rechecked=some key →
      key ∈ c.shared.pool.activeKeys ∧ ∀ b ∈ Sections.pending c, b.rechecked ≠ some key)
    (hstart : startableSection cfg a c.shared = true) :
    Saving (past++[c]) ⟨c.shared,c.calls++[[a]]⟩ := by
  have hpending : Sections.pending ⟨c.shared,c.calls++[[a]]⟩=Sections.pending c++[a] :=
    Sections.pending_start c.shared c.calls a
  obtain ⟨hall,hnodup,hactive,held,hheld,hpersisting,hfollows,hlast⟩ := h
  refine ⟨?_,?_,?_,held,?_,hpersisting,?_,?_⟩
  · intro b hb
    rw [hpending] at hb
    obtain hb | hb := List.mem_append.mp hb
    · exact hall b hb
    · rwa [List.mem_singleton.mp hb]
  · rw [hpending,List.filterMap_append,List.nodup_append]
    refine ⟨hnodup,?_,?_⟩
    · cases h : a.rechecked <;> simp [h]
    · intro key hkey key' hkey' heq
      subst heq
      obtain ⟨b,hb,hbkey⟩ := List.mem_filterMap.mp hkey
      have hakey : a.rechecked=some key := by simpa using hkey'
      exact (honce key hakey).2 b hb hbkey
  · intro key hkey
    rw [hpending,List.filterMap_append] at hkey
    obtain hkey | hkey := List.mem_append.mp hkey
    · exact hactive key hkey
    · exact (honce key (by simpa using hkey)).1
  · have hwrites : a.unwritten=none := by
      cases a <;> first | rfl | cases hstart
    rw [hpending,List.filterMap_append,hheld]
    simp [hwrites]
  · exact FollowsHolding.step (t := ⟨c.shared,c.calls++[[a]]⟩) hfollows rfl (.inl rfl)
  · intro hsnapshot
    refine hlast (fun hmem => hsnapshot ?_)
    rw [hpending]
    exact List.mem_append_left _ hmem

/-- What is pending for the keys of recheck failures is handed on or given up. -/
lemma handed_on {α : Type*} {o : Option α} {more l l' : List α} (hsub : more.Sublist o.toList)
    (hperm : (o.toList++l').Perm (more++l)) (hnodup : l.Nodup) :
    l'.Nodup ∧ (∀ x ∈ l', x ∈ l) ∧ (more=[] → ∀ x, o=some x → x ∉ l') := by
  cases o with
  | none =>
    obtain rfl := List.sublist_nil.mp hsub
    have hsame : l'.Perm l := hperm
    exact ⟨hsame.nodup_iff.mpr hnodup,fun x => hsame.mem_iff.mp,fun _ x hx => by cases hx⟩
  | some y =>
    cases more with
    | nil =>
      have hcons : (y::l').Perm l := hperm
      obtain ⟨hy,hl⟩ := List.nodup_cons.mp (hcons.nodup_iff.mpr hnodup)
      refine ⟨hl,fun x hx => hcons.mem_iff.mp (List.mem_cons_of_mem _ hx),fun _ x hx => ?_⟩
      cases hx
      exact hy
    | cons z more =>
      obtain ⟨rfl,rfl⟩ : z=y ∧ more=[] := by simpa using hsub
      have hsame : l'.Perm l := hperm.cons_inv
      exact ⟨hsame.nodup_iff.mpr hnodup,fun x => hsame.mem_iff.mp,fun h => by cases h⟩

lemma filterMap_cons_toList {α β : Type*} (f : α → Option β) (a : α) (l : List α) :
    (a::l).filterMap f=(f a).toList++l.filterMap f := by
  cases h : f a <;> simp [h]

lemma eq_toList_of_perm {α : Type*} {o : Option α} {l : List α} (h : l.Perm o.toList) : l=o.toList := by
  cases o with
  | none => exact List.perm_nil.mp h
  | some x => exact List.perm_singleton.mp h

lemma Saving.resume {past : List Concurrent} {xs ys : List (List PoolSection)} {rest : List PoolSection}
    (hc : cfg.persistent = true) (h : Saving past ⟨w,xs++(a::rest)::ys⟩)
    (henabled : enabledSection a w = true) :
    Saving (past++[⟨w,xs++(a::rest)::ys⟩])
      ⟨(execSection env cfg a w).1,xs++ys++[(execSection env cfg a w).2++rest]⟩ := by
  have hperm := Sections.pending_resume w (execSection env cfg a w).1 xs ys a
    (execSection env cfg a w).2 rest
  have hown : a ∈ Sections.pending (⟨w,xs++(a::rest)::ys⟩ : Concurrent) := by
    simp [Sections.pending]
  obtain ⟨hall,hnodup,hactive,held,hheld,hpersisting,hfollows,hlast⟩ := h
  have hsaves := hall a hown
  obtain ⟨hmore,honce⟩ := @execSection_saves env cfg w a hsaves
  have hretire : ∀ key persist, a = .removeAndRetire key persist → key ∈ w.pool.activeKeys := by
    rintro key persist rfl
    exact hactive key (List.mem_filterMap.mpr ⟨_,hown,rfl⟩)
  have heffect := @execSection_saveEffect env cfg w a hc hsaves hretire
  have hleaves : ∀ key, key ∈ w.pool.activeKeys → key ∉ (execSection env cfg a w).1.pool.activeKeys →
      ∃ persist, a = .removeAndRetire key persist := by
    intro key
    apply execSection_leaves
    rintro proxies rfl
    exact hsaves
  have hretired : ∀ key persist, a = .removeAndRetire key persist →
      (execSection env cfg a w).2.filterMap PoolSection.rechecked=[] := by
    rintro key persist rfl
    exact List.filterMap_eq_nil_iff.mpr (fun b hb => (saves_trailing (trailing_retire key persist b hb)).2)
  generalize (execSection env cfg a w).1=t at *
  generalize (execSection env cfg a w).2=more at *
  have hkeys := hperm.filterMap PoolSection.rechecked
  rw [filterMap_cons_toList,List.filterMap_append] at hkeys
  obtain ⟨hnodup',hsub,hgone⟩ := handed_on honce hkeys hnodup
  have hwrites := hperm.filterMap PoolSection.unwritten
  rw [filterMap_cons_toList,List.filterMap_append,hheld] at hwrites
  have hsnapshot : a ≠ .persistSnapshot →
      .persistSnapshot ∉ Sections.pending (⟨t,xs++ys++[more++rest]⟩ : Concurrent) →
      .persistSnapshot ∉ more++Sections.pending (⟨w,xs++(a::rest)::ys⟩ : Concurrent) := by
    intro hne hnot hmem
    obtain heq | hmem := List.mem_cons.mp (hperm.mem_iff.mpr hmem)
    · exact hne heq.symm
    · exact hnot hmem
  refine ⟨?_,hnodup',?_,?_⟩
  · intro b hb
    obtain hb | hb := List.mem_append.mp (hperm.mem_iff.mp (List.mem_cons_of_mem _ hb))
    · exact hmore b hb
    · exact hall b hb
  · intro key hkey
    by_contra hout
    obtain ⟨persist,ha⟩ := hleaves key (hactive key (hsub key hkey)) hout
    refine hgone (hretired key persist ha) key ?_ hkey
    rw [ha]
    rfl
  · cases heffect with
    | idle file persisting own writes hnone view =>
      have hmorenone : more.filterMap PoolSection.unwritten=[] := List.filterMap_eq_nil_iff.mpr hnone
      rw [writes,hmorenone] at hwrites
      refine ⟨held,eq_toList_of_perm hwrites,persisting.trans hpersisting,hfollows.step file (.inl rfl),?_⟩
      intro hnot
      have hnot := hsnapshot own hnot
      obtain view | hmem := view
      · dsimp only
        rw [file,view]
        exact hlast (fun hmem => hnot (List.mem_append_right _ hmem))
      · exact absurd (List.mem_append_left _ hmem) hnot
    | read eq pool persisting more_eq =>
      subst eq more_eq
      obtain rfl : held=none := by
        have hfree : w.persisting = false := by simpa [enabledSection] using henabled
        rw [hfree] at hpersisting
        exact Option.isNone_iff_eq_none.mp (by simpa using hpersisting)
      have hview : t.pool.savedState = .saved w.pool.persistedState := by rw [pool]; rfl
      refine ⟨some w.pool.persistedState,eq_toList_of_perm hwrites,persisting,?_,fun _ => hview.symm⟩
      exact hfollows.step (congrArg Pool.file pool) (.inr (congrArg some hview.symm))
    | wrote state eq file view persisting none =>
      subst eq none
      have hcons : (state::(Sections.pending (⟨t,xs++ys++[[]++rest]⟩ : Concurrent)).filterMap
        PoolSection.unwritten).Perm held.toList := hwrites
      have heq := eq_toList_of_perm hcons
      obtain _ | state' := held
      · cases heq
      · obtain ⟨rfl,hnil⟩ := List.cons.inj heq
        refine ⟨Option.none,hnil,persisting,hfollows.write file,?_⟩
        intro hnot
        refine file.trans ((hlast ?_).trans view.symm)
        exact fun hmem => hsnapshot (by simp) hnot hmem

/-- No update is lost: from a pool just built, or any other whose file shows it, the file goes on
showing states that the pool has been in, each no earlier than the one before, and shows the last
one when all calls have returned. -/
theorem no_update_lost (hc : cfg.persistent = true) :
    (∀ proxies file, (World.fresh (Pool.withRuntimeFailurePolicyAndState env cfg proxies file)).Saved) ∧
    ∀ {w : World} {moves : List (Move PoolSection)} {c : Concurrent}, w.Saved →
      Run (poolSections env cfg).step RecheckedOnce ⟨w,[]⟩ moves c →
      Follows (fun c : Concurrent => c.shared.pool.savedState) (fun c => c.shared.pool.file)
          (passed (poolSections env cfg).step ⟨w,[]⟩ moves++[c]) ∧
        (Sections.Quiescent c → c.shared.pool.file=c.shared.pool.savedState) := by
  refine ⟨?_,?_⟩
  · intro proxies file
    obtain ⟨q,_,_,_,heq,_⟩ := Pool.built_spec env cfg file proxies
    refine ⟨?_,rfl⟩
    change (Pool.withRuntimeFailurePolicyAndState env cfg proxies file).file=_
    rw [World.fresh,heq,Pool.persistState,if_pos hc]
    rfl
  · intro w moves c hsaved hrun
    have hstart : Saving [] (⟨w,[]⟩ : Concurrent) := by
      refine ⟨fun b hb => (by cases hb),List.nodup_nil,fun key hkey => (by cases hkey),none,rfl,hsaved.2,
        FollowsHolding.start hsaved.1,fun _ => hsaved.1⟩
    have hend := hrun.visits Saving ?_ [] hstart
    · rw [List.nil_append] at hend
      obtain ⟨_,_,_,held,hheld,_,hfollows,hlast⟩ := hend
      refine ⟨hfollows.follows,fun hquiet => ?_⟩
      have hnone := hquiet.pending
      rw [hnone] at hheld hlast
      obtain rfl : held=none := by
        cases held <;> simp_all
      exact hlast (by simp)
    · intro past c move d hc' hg hd
      cases move with
      | start a =>
        obtain ⟨hstart,rfl⟩ := (poolSections env cfg).start_cases hd
        exact hc'.start hg.1 hg.2 hstart
      | resume i =>
        obtain ⟨xs,a,rest,ys,hcalls,_,henabled,rfl⟩ := (poolSections env cfg).resume_cases hd
        obtain ⟨w,calls⟩ := c
        dsimp only at hcalls
        subst hcalls
        exact hc'.resume hc henabled

/-- A save that read the state before the third failure writes it after the node is retired; the save
that follows the retirement comes after it. -/
def retiringMoves : List (Move PoolSection) :=
  [.start (.recheckFailure sampleNode.key true),.start .persistSnapshot,.resume 1,.resume 0,.resume 1,
    .resume 1,.resume 0,.resume 0,.resume 1,.resume 1]

theorem no_update_lost_retired :
    ∃ c, Run (poolSections sampleExternals sampleConfig).step RecheckedOnce ⟨doomedWorld,[]⟩ retiringMoves c ∧
      Sections.Quiescent c ∧ c.shared.pool.file=c.shared.pool.savedState := by
  have hactive : RecheckedOnce ⟨doomedWorld,[]⟩ (.start (.recheckFailure sampleNode.key true)) := by
    refine ⟨rfl,fun key hkey => ?_⟩
    cases hkey
    exact ⟨by decide,fun b hb => by cases hb⟩
  have hrun := (.cons rfl hactive (.cons rfl ⟨trivial,fun key hkey => (by cases hkey)⟩ (.cons rfl trivial
    (.cons rfl trivial (.cons rfl trivial (.cons rfl trivial (.cons rfl trivial (.cons rfl trivial
    (.cons rfl trivial (.cons rfl trivial (.nil _)))))))))) :
    Run (poolSections sampleExternals sampleConfig).step RecheckedOnce ⟨doomedWorld,[]⟩ retiringMoves _)
  refine ⟨_,hrun,?_,((no_update_lost rfl).2 ⟨rfl,rfl⟩ hrun).2 ?_⟩ <;> decide

end RotatorProxy.Proxy
