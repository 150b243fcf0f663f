import RotatorProxy.Proxy.Interleaving

/-! Retiring a node. The third failed recheck is counted in one section and acted on in two later
ones, so what has been decided can be overtaken by a success. -/
namespace RotatorProxy.Proxy
open Text Library

variable {env : Externals} {cfg : PoolConfig} {w t : World} {key : Str} {a : PoolSection}

/-- The sections of the four reports. -/
def PoolSection.isReport : PoolSection → Bool
  | .attempts | .next _ _ _ | .merge _ | .replace _ | .clearShard _ => false
  | _ => true

/-- A success for `key` that finds something to reset. -/
def RecordsSuccess (key : Str) : PoolSection → World → Prop
  | .reportSuccess entry,w => entry.key=key ∧ w.pool.failures key ≠ none
  | .recheckSuccess key' _,w => key'=key ∧ disabledCount (w.pool.failures key) ≠ none
  | _,_ => False

/-- The sections in which `key` is retired after its third failure has been counted. -/
def PoolSection.retires (key : Str) : PoolSection → Prop
  | .removeRecord key' | .removeAndRetire key' _ => key'=key
  | _ => False

/-- A success is recorded only while no call has the node still to retire. -/
def NoLateSuccess (c : Concurrent) : Move PoolSection → Prop
  | .start a => a.isReport = true
  | .resume i => ∀ a rest key, c.calls[i]? = some (a::rest) → RecordsSuccess key a c.shared →
    ∀ call ∈ c.calls, ∀ b ∈ call, ¬b.retires key

/-- Disabled after at least three failed rechecks. -/
def StillFailing (key : Str) (w : World) : Prop :=
  ∃ n, disabledCount (w.pool.failures key)=some n ∧ disabledRecheckDeleteAfterFailures ≤ n

/-- The third failure of `key`, or a later one, has been counted, and no success recorded since. -/
def Counted (key : Str) (past : List (PoolSection × World)) : Prop :=
  ∃ before persist w mid n, past=before++(.recheckFailure key persist,w)::mid ∧
    disabledCount (w.pool.failures key)=some n ∧ disabledRecheckDeleteAfterFailures ≤ n+1 ∧
    ∀ x ∈ mid, ¬RecordsSuccess key x.1 x.2

/-- After that the record was dropped while the node was still failing, and no success has been
recorded since. -/
def Dropped (key : Str) (past : List (PoolSection × World)) : Prop :=
  ∃ before w mid, past=before++(.removeRecord key,w)::mid ∧ Counted key before ∧ StillFailing key w ∧
    ∀ x ∈ mid, ¬RecordsSuccess key x.1 x.2

lemma Counted.snoc {past : List (PoolSection × World)} (h : Counted key past)
    (ha : ¬RecordsSuccess key a w) : Counted key (past++[(a,w)]) := by
  obtain ⟨before,persist,u,mid,n,rfl,hn,hge,hmid⟩ := h
  refine ⟨before,persist,u,mid++[(a,w)],n,by simp,hn,hge,?_⟩
  intro x hx
  obtain hx | hx := List.mem_append.mp hx
  · exact hmid x hx
  · rw [List.mem_singleton.mp hx]
    exact ha

lemma Dropped.snoc {past : List (PoolSection × World)} (h : Dropped key past)
    (ha : ¬RecordsSuccess key a w) : Dropped key (past++[(a,w)]) := by
  obtain ⟨before,u,mid,rfl,hcounted,hu,hmid⟩ := h
  refine ⟨before,u,mid++[(a,w)],by simp,hcounted,hu,?_⟩
  intro x hx
  obtain hx | hx := List.mem_append.mp hx
  · exact hmid x hx
  · rw [List.mem_singleton.mp hx]
    exact ha

/-! Each section -/

/-- Only a success and the removal itself stop a disabled node from being one. -/
theorem StillFailing.exec (h : StillFailing key w) (hreport : a.isReport = true)
    (hsuccess : ¬RecordsSuccess key a w) (hremove : a ≠ .removeRecord key) :
    StillFailing key (execSection env cfg a w).1 := by
  obtain ⟨n,hn,hge⟩ := h
  have hother : ∀ {k : Str} (record : Option FailureRecord), key ≠ k →
      StillFailing key (w.setPool (w.pool.setRecord k record)) := by
    intro k record hne
    exact ⟨n,by simpa [World.setPool,Function.update_of_ne hne] using hn,hge⟩
  cases a with
  | attempts | next _ _ _ | merge _ | replace _ | clearShard _ => cases hreport
  | reportSuccess entry =>
    have hne : key ≠ entry.key := by
      rintro rfl
      exact hsuccess ⟨rfl,fun hnone => by simp [hnone] at hn⟩
    obtain ⟨_,he⟩ | ⟨record,_,he⟩ := w.pool.reportSuccessLocked_cases entry.key
    · simp only [execSection,he]
      exact ⟨n,hn,hge⟩
    · simp only [execSection,he]
      exact hother none hne
  | reportFailure now entry =>
    by_cases hne : key=entry.key
    · subst hne
      obtain ⟨hcount,hbefore⟩ := recordFailure_disabledCount cfg now (w.pool.failures entry.key)
      have hnot : (recordFailure cfg now (w.pool.failures entry.key)).2 = false := by
        cases hb : (recordFailure cfg now (w.pool.failures entry.key)).2 with
        | true =>
          rw [hbefore hb] at hn
          cases hn
        | false => rfl
      rw [hnot,if_neg Bool.false_ne_true] at hcount
      refine ⟨n,?_,hge⟩
      simp only [execSection,Pool.reportFailureLocked,World.setPool,Pool.setRecord_failures,
        Function.update_self,hcount,hn]
    · exact hother _ hne
  | recheckSuccess k persist =>
    have hne : key ≠ k := by
      rintro rfl
      exact hsuccess ⟨rfl,fun hnone => by rw [hnone] at hn; cases hn⟩
    obtain ⟨_,he⟩ | ⟨_,he⟩ := w.pool.recheckSuccessLocked_cases k
    · simp only [execSection,he]
      exact ⟨n,hn,hge⟩
    · simp only [execSection,he]
      exact hother none hne
  | recheckFailure k persist =>
    obtain ⟨_,he⟩ | ⟨record,count,hr,hcount,hnew,he⟩ := w.pool.recheckFailureLocked_cases k
    · simp only [execSection,he]
      exact ⟨n,hn,hge⟩
    · simp only [execSection,he]
      by_cases hne : key=k
      · subst hne
        rw [hr,hcount] at hn
        cases hn
        exact ⟨n+1,by simpa [World.setPool] using hnew,by omega⟩
      · exact hother _ hne
  | removeRecord k =>
    have hne : key ≠ k := by
      rintro rfl
      exact hremove rfl
    exact hother none hne
  | removeAndRetire k persist =>
    obtain ⟨_,_,_,hf,_⟩ := Pool.removeAndRetireLocked_state env k w.pool
    exact ⟨n,by simpa [execSection,World.setPoolGeneration,hf] using hn,hge⟩
  | insertDisabled _ _ _ | removeDisabled _ _ | readGeneration | resetSelection _ | persistSnapshot
  | persistWrite _ => exact ⟨n,hn,hge⟩

lemma not_retires_persist {b : PoolSection} (hb : b ∈ persistSections cfg) : ¬b.retires key := by
  unfold persistSections at hb
  split_ifs at hb
  · rw [List.mem_singleton.mp hb]
    exact not_false
  · cases hb

lemma not_retires_persist_if {b : PoolSection} {persist : Bool}
    (hb : b ∈ if persist then persistSections cfg else []) : ¬b.retires key := by
  split_ifs at hb
  · exact not_retires_persist hb
  · cases hb

lemma not_retires_reset {b : PoolSection} {reset : Option ℕ} (hb : b ∈ resetSections reset) :
    ¬b.retires key := by
  cases reset with
  | none => cases hb
  | some generation =>
    rw [List.mem_singleton.mp hb]
    exact not_false

/-- A call is to retire a key only after it has counted the third failure of a disabled node. -/
theorem execSection_retires {b : PoolSection} (hb : b ∈ (execSection env cfg a w).2) (hr : b.retires key) :
    ∃ persist n, a = .recheckFailure key persist ∧ disabledCount (w.pool.failures key)=some n ∧
      disabledRecheckDeleteAfterFailures ≤ n+1 ∧
      disabledCount ((execSection env cfg a w).1.pool.failures key)=some (n+1) ∧
      (execSection env cfg a w).2=[.removeRecord key,.removeAndRetire key persist] := by
  cases a with
  | recheckFailure k persist =>
    obtain ⟨_,he⟩ | ⟨record,n,hr0,hn,hnew,he⟩ := w.pool.recheckFailureLocked_cases k
    · simp [execSection,he] at hb
    · simp only [execSection,he] at hb ⊢
      split_ifs at hb ⊢ with hmany
      · obtain rfl : k=key := by
          simp only [List.mem_cons,List.not_mem_nil,or_false] at hb
          obtain rfl | rfl := hb <;> exact hr
        refine ⟨persist,n,rfl,by rw [hr0,hn],hmany,?_,rfl⟩
        simpa [World.setPool] using hnew
      · rw [List.mem_singleton.mp hb] at hr
        exact hr.elim
  | merge proxies =>
    obtain hb | hb := List.mem_append.mp hb
    · exact absurd hr (not_retires_reset hb)
    · exact absurd hr (not_retires_persist hb)
  | replace proxies =>
    obtain rfl | hb := List.mem_cons.mp hb
    · exact hr.elim
    · obtain hb | hb := List.mem_append.mp hb
      · obtain ⟨i,_,rfl⟩ := List.mem_map.mp hb
        exact hr.elim
      · exact absurd hr (not_retires_persist hb)
  | removeAndRetire k persist =>
    simp only [execSection] at hb
    split at hb
    · obtain hb | hb := List.mem_append.mp hb
      · exact absurd hr (not_retires_reset hb)
      · exact absurd hr (not_retires_persist_if hb)
    · cases hb
  | insertDisabled k count persist | removeDisabled k persist =>
    exact absurd hr (not_retires_persist_if hb)
  | reportSuccess entry | reportFailure now entry =>
    simp only [execSection] at hb
    split_ifs at hb
    · rw [List.mem_singleton.mp hb] at hr
      exact hr.elim
    · cases hb
  | recheckSuccess k persist =>
    simp only [execSection] at hb
    split_ifs at hb
    · simp only [List.mem_cons,List.not_mem_nil,or_false] at hb
      obtain rfl | rfl := hb <;> exact hr.elim
    · cases hb
  | readGeneration | persistSnapshot =>
    rw [List.mem_singleton.mp hb] at hr
    exact hr.elim
  | attempts | next _ _ _ | clearShard _ | removeRecord _ | resetSelection _ | persistWrite _ => cases hb

/-- A key leaves the pool only when it is retired. -/
theorem execSection_leaves (hreplace : ∀ proxies, a ≠ .replace proxies) (hin : key ∈ w.pool.activeKeys)
    (hout : key ∉ (execSection env cfg a w).1.pool.activeKeys) :
    ∃ persist, a = .removeAndRetire key persist := by
  cases a with
  | replace proxies => exact absurd rfl (hreplace proxies)
  | next caller now shuffles =>
    refine absurd ?_ hout
    simp only [execSection,World.next]
    split
    · exact hin
    · next attempts _ =>
      obtain ⟨hstate,_⟩ := attempts.next_pool now shuffles w.pool
      exact (Pool.activeKeys_congr (congrArg PoolState.proxies hstate)).symm ▸ hin
  | merge proxies =>
    refine absurd ?_ hout
    have hproxies := congrArg (fun p => p.state.proxies) (Pool.mergeLocked_pool env cfg proxies w.pool)
    change key ∈ (w.pool.mergeLocked env cfg proxies).1.state.proxies.map ProxyEntry.key
    rw [hproxies]
    exact List.mem_map.mpr ((List.mem_map.mp hin).imp (fun e => And.imp_left (List.mem_append_left _)))
  | removeAndRetire k persist =>
    obtain ⟨hp,_⟩ := Pool.removeAndRetireLocked_state env k w.pool
    obtain rfl : key=k := by
      by_contra hne
      apply hout
      change key ∈ (w.pool.removeAndRetireLocked env k).1.activeKeys
      rw [Pool.activeKeys,hp]
      exact Pool.mem_keys_filter_ne.mpr ⟨hin,hne⟩
    exact ⟨persist,rfl⟩
  | reportSuccess entry =>
    obtain ⟨_,he⟩ | ⟨_,_,he⟩ := w.pool.reportSuccessLocked_cases entry.key <;>
    · simp only [execSection,he] at hout
      exact absurd hin hout
  | recheckSuccess k persist =>
    obtain ⟨_,he⟩ | ⟨_,he⟩ := w.pool.recheckSuccessLocked_cases k <;>
    · simp only [execSection,he] at hout
      exact absurd hin hout
  | recheckFailure k persist =>
    obtain ⟨_,he⟩ | ⟨_,_,_,_,_,he⟩ := w.pool.recheckFailureLocked_cases k <;>
    · simp only [execSection,he] at hout
      exact absurd hin hout
  | attempts | clearShard _ | reportFailure _ _ | removeRecord _ | insertDisabled _ _ _ | removeDisabled _ _
  | readGeneration | resetSelection _ | persistSnapshot | persistWrite _ => exact absurd hin hout

/-- The sections that a report leads to are those of reports. -/
lemma execSection_isReport {b : PoolSection} (ha : a.isReport = true)
    (hb : b ∈ (execSection env cfg a w).2) : b.isReport = true := by
  have hscope : a.InScope Set.univ := by
    cases a <;> simp_all [PoolSection.isReport,PoolSection.InScope]
  have hinner := (@execSection_sectionEffect env cfg _ w a hscope).inner b hb
  cases b <;> simp_all [PoolSection.isReport,PoolSection.isFollowUp,PoolSection.isTrailing,
    PoolSection.subject]

/-! Runs -/

/-- What holds of the sections that have run and of those still to be run. -/
structure Retiring (env : Externals) (cfg : PoolConfig) (past : List (PoolSection × World))
    (c : Concurrent) : Prop where
  reports : ∀ call ∈ c.calls, ∀ b ∈ call, b.isReport = true
  counted : ∀ call ∈ c.calls, ∀ key, .removeRecord key ∈ call →
    Counted key past ∧ (StillFailing key c.shared ∨ Dropped key past)
  dropped : ∀ call ∈ c.calls, ∀ key persist before after,
    call=before++.removeAndRetire key persist::after → .removeRecord key ∈ before ∨ Dropped key past
  left : ∀ before a w after, past=before++(a,w)::after → ∀ key ∈ w.pool.activeKeys,
    key ∉ (execSection env cfg a w).1.pool.activeKeys →
    (∃ persist, a = .removeAndRetire key persist) ∧ Dropped key before

lemma Retiring.start {c : Concurrent} {past : List (PoolSection × World)} (h : Retiring env cfg past c)
    (hreport : a.isReport = true) (hstart : startableSection cfg a c.shared = true) :
    Retiring env cfg past ⟨c.shared,c.calls++[[a]]⟩ := by
  refine ⟨?_,?_,?_,h.left⟩
  · intro call hcall b hb
    obtain hcall | hcall := List.mem_append.mp hcall
    · exact h.reports call hcall b hb
    · rw [List.mem_singleton.mp hcall] at hb
      rwa [List.mem_singleton.mp hb]
  · intro call hcall key hkey
    obtain hcall | hcall := List.mem_append.mp hcall
    · exact h.counted call hcall key hkey
    · rw [List.mem_singleton.mp hcall] at hkey
      rw [← List.mem_singleton.mp hkey] at hstart
      cases hstart
  · intro call hcall key persist before after heq
    obtain hcall | hcall := List.mem_append.mp hcall
    · exact h.dropped call hcall key persist before after heq
    · rw [List.mem_singleton.mp hcall] at heq
      have hmem : .removeAndRetire key persist ∈ [a] := by simp [heq]
      rw [← List.mem_singleton.mp hmem] at hstart
      cases hstart

/-- A section that drops the record of a failing node, or leaves the node failing. -/
lemma Retiring.pending {past : List (PoolSection × World)} {xs ys : List (List PoolSection)}
    {rest : List PoolSection} (h : Retiring env cfg past ⟨w,xs++(a::rest)::ys⟩)
    (hsuccess : ¬RecordsSuccess key a w) {call : List PoolSection} (hcall : call ∈ xs++(a::rest)::ys)
    (hkey : .removeRecord key ∈ call) :
    Counted key (past++[(a,w)]) ∧ ((a ≠ .removeRecord key ∧ StillFailing key (execSection env cfg a w).1) ∨
      Dropped key (past++[(a,w)])) := by
  obtain ⟨hcounted,hstill⟩ := h.counted call hcall key hkey
  refine ⟨hcounted.snoc hsuccess,?_⟩
  obtain hstill | hdropped := hstill
  · by_cases hremove : a = .removeRecord key
    · subst hremove
      exact .inr ⟨past,w,[],rfl,hcounted,hstill,fun x hx => (by cases hx)⟩
    · exact .inl ⟨hremove,hstill.exec (h.reports (a::rest) (by simp) a List.mem_cons_self) hsuccess hremove⟩
  · exact .inr (hdropped.snoc hsuccess)

/-- The call that has run a section: what it is still to retire was already to be retired, or is so because
of the section. -/
lemma Retiring.dropped_own {past : List (PoolSection × World)} {xs ys : List (List PoolSection)}
    {rest before after : List PoolSection} {key : Str} {persist : Bool}
    (h : Retiring env cfg past ⟨w,xs++(a::rest)::ys⟩) (hsuccess : ¬RecordsSuccess key a w)
    (heq : (execSection env cfg a w).2++rest=before++.removeAndRetire key persist::after) :
    .removeRecord key ∈ before ∨ Dropped key (past++[(a,w)]) := by
  have hown : a::rest ∈ xs++(a::rest)::ys := List.mem_append_right _ List.mem_cons_self
  have hold : ∀ as, rest=as++.removeAndRetire key persist::after →
      .removeRecord key ∈ as ∨ Dropped key (past++[(a,w)]) := by
    intro as has
    obtain hmem | hd := h.dropped (a::rest) hown key persist (a::as) after
      (by rw [has,List.cons_append])
    · have hrest : .removeRecord key ∈ a::rest := by
        rw [has,← List.cons_append]
        exact List.mem_append_left _ hmem
      obtain hhead | hmem := List.mem_cons.mp hmem
      · obtain ⟨_,⟨hne,_⟩ | hd⟩ := h.pending hsuccess hown hrest
        · exact absurd hhead.symm hne
        · exact .inr hd
      · exact .inl hmem
    · exact .inr (hd.snoc hsuccess)
  obtain ⟨as,rfl,has⟩ | ⟨cs,hmore,hcs⟩ := List.append_eq_append_iff.mp heq
  · exact (hold as has).imp_left (List.mem_append_right _)
  · cases cs with
    | nil =>
      exact (hold [] hcs.symm).imp_left (fun hmem => by cases hmem)
    | cons x cs =>
      obtain ⟨rfl,_⟩ := List.cons.inj hcs
      obtain ⟨_,_,_,_,_,_,hlist⟩ := @execSection_retires env cfg w key a (.removeAndRetire key persist)
        (by rw [hmore]; simp) rfl
      rw [hlist] at hmore
      cases before with
      | nil => cases hmore
      | cons b before =>
        obtain ⟨rfl,_⟩ := List.cons.inj hmore
        exact .inl List.mem_cons_self

lemma Retiring.resume {past : List (PoolSection × World)} {xs ys : List (List PoolSection)}
    {rest : List PoolSection} (h : Retiring env cfg past ⟨w,xs++(a::rest)::ys⟩)
    (hg : ∀ key, RecordsSuccess key a w → ∀ call ∈ xs++(a::rest)::ys, ∀ b ∈ call, ¬b.retires key) :
    Retiring env cfg (past++[(a,w)])
      ⟨(execSection env cfg a w).1,xs++ys++[(execSection env cfg a w).2++rest]⟩ := by
  have hown : a::rest ∈ xs++(a::rest)::ys := List.mem_append_right _ List.mem_cons_self
  have hreport : a.isReport = true := h.reports (a::rest) hown a List.mem_cons_self
  have hcalls : ∀ call ∈ xs++ys++[(execSection env cfg a w).2++rest],
      call ∈ xs++(a::rest)::ys ∨ call=(execSection env cfg a w).2++rest :=
    fun call hcall => Sections.call_of_resume hcall
  -- no success has just been recorded for a key that some call is to retire
  have hquiet : ∀ key, (∃ call ∈ xs++ys++[(execSection env cfg a w).2++rest],
      ∃ b ∈ call, b.retires key) → ¬RecordsSuccess key a w := by
    rintro key ⟨call,hcall,b,hb,hr⟩ hsuccess
    obtain hcall | rfl := hcalls call hcall
    · exact hg key hsuccess call hcall b hb hr
    · obtain hb | hb := List.mem_append.mp hb
      · obtain ⟨persist,n,rfl,_⟩ := execSection_retires hb hr
        exact hsuccess
      · exact hg key hsuccess (a::rest) hown b (List.mem_cons_of_mem _ hb) hr
  refine ⟨?_,?_,?_,?_⟩
  · intro call hcall b hb
    obtain hcall | rfl := hcalls call hcall
    · exact h.reports call hcall b hb
    · obtain hb | hb := List.mem_append.mp hb
      · exact execSection_isReport hreport hb
      · exact h.reports (a::rest) hown b (List.mem_cons_of_mem _ hb)
  · intro call hcall key hkey
    have hsuccess := hquiet key ⟨call,hcall,_,hkey,rfl⟩
    obtain hcall | rfl := hcalls call hcall
    · exact (h.pending hsuccess hcall hkey).imp_right (Or.imp_left And.right)
    · obtain hkey | hkey := List.mem_append.mp hkey
      · obtain ⟨persist,n,rfl,hn,hge,hnext,_⟩ := execSection_retires hkey rfl
        exact ⟨⟨past,persist,w,[],n,rfl,hn,hge,fun x hx => (by cases hx)⟩,.inl ⟨n+1,hnext,hge⟩⟩
      · exact (h.pending hsuccess hown (List.mem_cons_of_mem _ hkey)).imp_right (Or.imp_left And.right)
  · intro call hcall key persist before after heq
    have hsuccess := hquiet key ⟨call,hcall,.removeAndRetire key persist,by simp [heq],rfl⟩
    obtain hcall | rfl := hcalls call hcall
    · exact (h.dropped call hcall key persist before after heq).imp_right (fun hd => hd.snoc hsuccess)
    · exact h.dropped_own hsuccess heq
  · intro before b u after heq key hin hout
    obtain rfl | ⟨after,last,rfl⟩ := List.eq_nil_or_concat after
    · obtain ⟨rfl,hlast⟩ := List.append_inj' heq rfl
      cases hlast
      have hreplace : ∀ proxies, a ≠ .replace proxies := by
        rintro proxies rfl
        cases hreport
      obtain ⟨persist,rfl⟩ := execSection_leaves hreplace hin hout
      refine ⟨⟨persist,rfl⟩,?_⟩
      obtain hmem | hd := h.dropped _ hown key persist [] rest rfl
      · cases hmem
      · exact hd
    · rw [List.concat_eq_append,← List.cons_append,← List.append_assoc] at heq
      exact h.left before b u after (List.append_inj' heq rfl).1 key hin hout

/-- In every interleaving of reports in which no success is recorded while a call has the node still to
retire, a key leaves the pool only after a call has counted its third failed recheck and then dropped
its record with the node still failing, and with no success recorded up to the removal. -/
theorem retired_only_failing {moves : List (Move PoolSection)} {c : Concurrent}
    (hrun : Run (poolSections env cfg).step NoLateSuccess ⟨w,[]⟩ moves c) :
    ∀ before a u after, (poolSections env cfg).trace ⟨w,[]⟩ moves=before++(a,u)::after →
      ∀ key ∈ u.pool.activeKeys, key ∉ (execSection env cfg a u).1.pool.activeKeys →
      (∃ persist, a = .removeAndRetire key persist) ∧ Dropped key before := by
  have hstart : Retiring env cfg [] (⟨w,[]⟩ : Concurrent) := by
    refine ⟨fun call hcall => (by cases hcall),fun call hcall => (by cases hcall),
      fun call hcall => (by cases hcall),?_⟩
    intro before a u after heq
    simp at heq
  refine ((poolSections env cfg).traced (Retiring env cfg) ?_ hrun [] hstart).left
  intro past c move d hc hg hd
  cases move with
  | start a =>
    obtain ⟨hstartable,rfl⟩ := (poolSections env cfg).start_cases hd
    rw [Sections.ran,List.append_nil]
    exact hc.start hg hstartable
  | resume i =>
    obtain ⟨xs,a,rest,ys,hcalls,rfl,_,rfl⟩ := (poolSections env cfg).resume_cases hd
    rw [Sections.ran_resume hcalls]
    obtain ⟨w,calls⟩ := c
    dsimp only at hcalls
    subst hcalls
    exact hc.resume (fun key hsuccess => hg a rest key (by simp) hsuccess)

/-! A node that has failed two rechecks, and an entry of it that was given out before -/

def doomedWorld : World :=
  {World.fresh (Pool.withRuntimeFailurePolicyAndState sampleExternals sampleConfig [sampleNode]
    (.saved ⟨2,[],[⟨proxyKeyHash sampleExternals sampleNode.key,2⟩],[]⟩)) with
    handedOut := [.fromNode sampleNode]}

/-- The third failure is counted; then a whole success is recorded; then the node is retired. -/
def lateSuccessMoves : List (Move PoolSection) :=
  [.start (.recheckFailure sampleNode.key true),.resume 0,.start (.reportSuccess (.fromNode sampleNode)),
    .resume 1,.resume 0,.resume 1]

theorem retired_after_success :
    (∃ c, Run (poolSections sampleExternals sampleConfig).step (fun _ _ => True) ⟨doomedWorld,[]⟩
        lateSuccessMoves c ∧ sampleNode.key ∉ c.shared.pool.activeKeys ∧
        proxyKeyHash sampleExternals sampleNode.key ∈ c.shared.pool.state.retiredHashes) ∧
      ∃ before u, (poolSections sampleExternals sampleConfig).trace ⟨doomedWorld,[]⟩ lateSuccessMoves=
          before++[(.removeAndRetire sampleNode.key true,u)] ∧
        sampleNode.key ∈ u.pool.activeKeys ∧ ¬Dropped sampleNode.key before := by
  have hrun := (.cons rfl trivial (.cons rfl trivial (.cons rfl trivial (.cons rfl trivial
    (.cons rfl trivial (.cons rfl trivial (.nil _)))))) :
    Run (poolSections sampleExternals sampleConfig).step (fun _ _ => True) ⟨doomedWorld,[]⟩
      lateSuccessMoves _)
  refine ⟨⟨_,hrun,by decide,by decide⟩,[_,_,_],_,rfl,by decide,?_⟩
  rintro ⟨before,w,mid,heq,_,⟨n,hn,_⟩,_⟩
  obtain _ | ⟨x,_ | ⟨y,_ | ⟨z,before⟩⟩⟩ := before
  · cases heq
  · cases heq
  · cases heq
    have hnone : none = some n := hn
    cases hnone
  · simp at heq

theorem retired_only_failing_alone :
    ∃ c, Run (poolSections sampleExternals sampleConfig).step NoLateSuccess ⟨doomedWorld,[]⟩
        [.start (.recheckFailure sampleNode.key true),.resume 0,.resume 0,.resume 0] c ∧
      sampleNode.key ∉ c.shared.pool.activeKeys ∧
      ∃ before u, (poolSections sampleExternals sampleConfig).trace ⟨doomedWorld,[]⟩
          [.start (.recheckFailure sampleNode.key true),.resume 0,.resume 0,.resume 0]=
            before++[(.removeAndRetire sampleNode.key true,u)] ∧ Dropped sampleNode.key before := by
  have hguard : ∀ {c : Concurrent} {i : ℕ} {a : PoolSection} {rest : List PoolSection},
      c.calls[i]? = some (a::rest) → (∀ key, ¬RecordsSuccess key a c.shared) → NoLateSuccess c (.resume i) := by
    intro c i a rest hcall hnone b rest' key hcall' hsuccess
    rw [hcall] at hcall'
    cases hcall'
    exact absurd hsuccess (hnone key)
  have hrun := (.cons rfl rfl (.cons rfl (hguard rfl (fun _ h => h)) (.cons rfl (hguard rfl (fun _ h => h))
    (.cons rfl (hguard rfl (fun _ h => h)) (.nil _)))) :
    Run (poolSections sampleExternals sampleConfig).step NoLateSuccess ⟨doomedWorld,[]⟩
      [.start (.recheckFailure sampleNode.key true),.resume 0,.resume 0,.resume 0] _)
  refine ⟨_,hrun,by decide,[_,_],_,rfl,?_⟩
  exact (retired_only_failing hrun [_,_] _ _ [] rfl sampleNode.key (by decide) (by decide)).2

end RotatorProxy.Proxy
