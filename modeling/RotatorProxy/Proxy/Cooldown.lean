import RotatorProxy.Proxy.Agreement

/-! Cooldowns over a series of failures of one node. A failure reported while the node is cooling is
counted like any other, so a burst can count as several cooldowns. -/
namespace RotatorProxy.Proxy
open Text

variable {env : Externals} {cfg : PoolConfig} {entry : ProxyEntry} {p : Pool} {now : ℕ} {times : List ℕ}

/-- In a cooldown that has not expired. -/
def FailureRecord.Cooling (now : ℕ) (r : FailureRecord) : Prop :=
  ∃ until_, r.cooldownUntil=some until_ ∧ now < until_

instance (now : ℕ) (r : FailureRecord) : Decidable (r.Cooling now) :=
  match h : r.cooldownUntil with
  | none => .isFalse (fun ⟨_,hu,_⟩ => by simp [h] at hu)
  | some until_ => decidable_of_iff (now < until_) (by simp [FailureRecord.Cooling,h])

/-- The failures that still count when the next one comes. -/
def FailureRecord.pending (now : ℕ) (r : FailureRecord) : ℕ :=
  if r.cooldownUntil.any (fun until_ => decide (until_ ≤ now)) then 0 else r.failures

lemma FailureRecord.Cooling.pending {r : FailureRecord} (h : r.Cooling now) : r.pending now=r.failures := by
  obtain ⟨until_,hu,hlt⟩ := h
  simp [FailureRecord.pending,hu,hlt]

/-- What a failure makes of the record of a node that is not disabled. -/
inductive FailureStep (cfg : PoolConfig) (now : ℕ) (r : FailureRecord) : FailureRecord → Prop
  | counted {s} (few : r.pending now+1 < cfg.runtimeFailureThreshold) (failures : s.failures=r.pending now+1)
    (cooldowns : s.cooldowns=r.cooldowns) (disabled : s.disabled = false)
    (cooldownUntil : (s.cooldownUntil=r.cooldownUntil ∧ (r.cooldownUntil=none ∨ r.Cooling now)) ∨
      (s.cooldownUntil=none ∧ ¬r.Cooling now)) : FailureStep cfg now r s
  | cooled {s} (many : cfg.runtimeFailureThreshold ≤ r.pending now+1)
    (few : r.cooldowns+1 < cfg.runtimeDisableAfterCooldowns) (cooldowns : s.cooldowns=r.cooldowns+1)
    (disabled : s.disabled = false) (cooldownUntil : s.cooldownUntil=some (now+cfg.cooldown))
    (failures : s.failures=0) : FailureStep cfg now r s
  | disabled {s} (many : cfg.runtimeFailureThreshold ≤ r.pending now+1)
    (last : cfg.runtimeDisableAfterCooldowns ≤ r.cooldowns+1) (cooldowns : s.cooldowns=r.cooldowns+1)
    (disabled : s.disabled = true) : FailureStep cfg now r s

/-- The record after an expired cooldown has been cleared. -/
lemma cleared_spec (now : ℕ) (r : FailureRecord) (hd : r.disabled = false) :
    ∃ s : FailureRecord, (if r.cooldownUntil.any (fun until_ => decide (until_ ≤ now))
        then {r with failures := 0,cooldownUntil := none} else r)=s ∧
      s.failures=r.pending now ∧ s.cooldowns=r.cooldowns ∧ s.disabled = false ∧
      ((s.cooldownUntil=r.cooldownUntil ∧ (r.cooldownUntil=none ∨ r.Cooling now)) ∨
        (s.cooldownUntil=none ∧ ¬r.Cooling now)) := by
  cases hu : r.cooldownUntil with
  | none => exact ⟨r,by simp,by simp [FailureRecord.pending,hu],rfl,hd,.inl ⟨hu,.inl rfl⟩⟩
  | some until_ =>
    by_cases hexpired : until_ ≤ now
    · refine ⟨{r with failures := 0,cooldownUntil := none},by simp [hexpired],
        by simp [FailureRecord.pending,hu,hexpired],rfl,hd,.inr ⟨rfl,?_⟩⟩
      rintro ⟨u,hu',hlt⟩
      rw [hu] at hu'
      cases hu'
      omega
    · exact ⟨r,by simp [hexpired],by simp [FailureRecord.pending,hu,hexpired],rfl,hd,
        .inl ⟨hu,.inr ⟨until_,hu,by omega⟩⟩⟩

theorem recordFailure_step {record : Option FailureRecord} {r : FailureRecord}
    (hr : record.getD .fresh=r) (hd : r.disabled = false) :
    FailureStep cfg now r (recordFailure cfg now record).1 := by
  obtain ⟨s,hs,hfailures,hcooldowns,hdisabled,huntil⟩ := cleared_spec now r hd
  unfold recordFailure
  rw [hr]
  dsimp only
  rw [if_neg (by simp [hd]),hs,hfailures,hcooldowns]
  split_ifs with hmany hlast
  · exact .disabled hmany hlast rfl rfl
  · exact .cooled hmany (by omega) rfl hdisabled rfl rfl
  · exact .counted (by omega) rfl rfl hdisabled huntil

/-- The record of a node, a fresh one when there is none. -/
def Pool.record (key : Str) (p : Pool) : FailureRecord := (p.failures key).getD .fresh

variable (env cfg entry) in
/-- One failure after the other. -/
def Pool.reportFailures (p : Pool) (times : List ℕ) : Pool :=
  times.foldl (fun p now => p.reportFailure env cfg now (.proxy entry)) p

lemma Pool.record_reportFailure (env : Externals) (cfg : PoolConfig) (p : Pool) (now : ℕ) (entry : ProxyEntry) :
    (p.reportFailure env cfg now (.proxy entry)).record entry.key=
      (recordFailure cfg now (p.failures entry.key)).1 := by
  obtain ⟨_,he⟩ | ⟨_,he⟩ := p.reportFailure_cases env cfg now entry <;>
  · rw [he]
    simp [Pool.record,Pool.persistDisabledEntryInner]

/-- A failure of a disabled node changes nothing; of another one it makes a step. -/
theorem Pool.record_step (env : Externals) (cfg : PoolConfig) (p : Pool) (now : ℕ) (entry : ProxyEntry) :
    ((p.record entry.key).disabled = true ∧
      (p.reportFailure env cfg now (.proxy entry)).record entry.key=p.record entry.key) ∨
    ((p.record entry.key).disabled = false ∧ FailureStep cfg now (p.record entry.key)
      ((p.reportFailure env cfg now (.proxy entry)).record entry.key)) := by
  rw [record_reportFailure]
  cases hd : (p.record entry.key).disabled with
  | true =>
    refine .inl ⟨rfl,?_⟩
    unfold Pool.record at hd ⊢
    rw [recordFailure]
    simp [hd]
  | false => exact .inr ⟨rfl,recordFailure_step rfl hd⟩

variable (env cfg entry) in
/-- The failure reported at `now` raises the count of cooldowns. -/
def EntersCooldown (p : Pool) (now : ℕ) : Prop :=
  (p.record entry.key).cooldowns < ((p.reportFailure env cfg now (.proxy entry)).record entry.key).cooldowns

instance (p : Pool) (now : ℕ) : Decidable (EntersCooldown env cfg entry p now) :=
  inferInstanceAs (Decidable (_ < _))

theorem entersCooldown_iff : EntersCooldown env cfg entry p now ↔ (p.record entry.key).disabled = false ∧
    cfg.runtimeFailureThreshold ≤ (p.record entry.key).pending now+1 := by
  unfold EntersCooldown
  obtain ⟨hd,he⟩ | ⟨hd,hstep⟩ := p.record_step env cfg now entry
  · simp [hd,he]
  · cases hstep with
    | counted few failures cooldowns =>
      rw [cooldowns]
      simp only [hd,true_and]
      omega
    | cooled many few cooldowns | disabled many few cooldowns =>
      rw [cooldowns]
      simp only [hd,true_and]
      omega

variable (env cfg entry) in
/-- The times of the failures that raise the count of cooldowns. -/
def cooldownEntries : Pool → List ℕ → List ℕ
  | _,[] => []
  | p,now::times =>
    (if EntersCooldown env cfg entry p now then [now] else [])++
      cooldownEntries (p.reportFailure env cfg now (.proxy entry)) times

variable (env cfg entry) in
/-- The count of cooldowns is raised only when the node is not in one already. -/
def EntersOutside (p : Pool) (times : List ℕ) : Prop :=
  ∀ before now after, times=before++now::after →
    EntersCooldown env cfg entry (p.reportFailures env cfg entry before) now →
    ¬((p.reportFailures env cfg entry before).record entry.key).Cooling now

variable (env cfg entry) in
/-- Fewer failures than the threshold arrive in any one cooldown. -/
def FewWhileCooling (p : Pool) (times : List ℕ) : Prop :=
  ∀ before now after, times=before++now::after →
    ((p.reportFailures env cfg entry before).record entry.key).disabled = false →
    ((p.reportFailures env cfg entry before).record entry.key).Cooling now →
    ((p.reportFailures env cfg entry before).record entry.key).failures+1 < cfg.runtimeFailureThreshold

theorem entersOutside_iff : EntersOutside env cfg entry p times ↔ FewWhileCooling env cfg entry p times := by
  constructor
  · intro h before now after heq hd hcool
    by_contra hmany
    refine h before now after heq (entersCooldown_iff.mpr ⟨hd,?_⟩) hcool
    rw [hcool.pending]
    omega
  · intro h before now after heq henters hcool
    obtain ⟨hd,hmany⟩ := entersCooldown_iff.mp henters
    have := h before now after heq hd hcool
    rw [hcool.pending] at hmany
    omega

variable (env cfg entry) in
/-- How many failures there have been since the one that raised the count last; `n` have been before the first of them. -/
def reportsSince : Pool → ℕ → List ℕ → ℕ
  | _,n,[] => n
  | p,n,now::times =>
    reportsSince (p.reportFailure env cfg now (.proxy entry)) (if EntersCooldown env cfg entry p now then 0 else n+1) times

/-- As long as a cooldown lasts the record counts the failures since it began. -/
def FailureRecord.CountsSince (n : ℕ) (r : FailureRecord) : Prop :=
  r.disabled = false → r.cooldownUntil ≠ none → r.failures=n

lemma countsSince_step {n : ℕ} (now : ℕ) (h : (p.record entry.key).CountsSince n) :
    ((p.reportFailure env cfg now (.proxy entry)).record entry.key).CountsSince
      (if EntersCooldown env cfg entry p now then 0 else n+1) := by
  intro hd' hu'
  have henters := @entersCooldown_iff env cfg entry p now
  obtain ⟨hd,hsame⟩ | ⟨hd,hstep⟩ := p.record_step env cfg now entry
  · rw [hsame,hd] at hd'
    cases hd'
  · cases hstep with
    | counted few failures cooldowns disabled cooldownUntil =>
      rw [if_neg (fun he => by have := (henters.mp he).2; omega),failures]
      -- the cooldown is the one that there was
      obtain ⟨hs,hu | hcool⟩ | ⟨hs,_⟩ := cooldownUntil
      · exact absurd (hs.trans hu) hu'
      · obtain ⟨until_,hu,_⟩ := id hcool
        rw [hcool.pending,h hd (by rw [hu]; exact Option.some_ne_none until_)]
      · exact absurd hs hu'
    | cooled many few cooldowns disabled cooldownUntil failures => rw [if_pos (henters.mpr ⟨hd,many⟩),failures]
    | disabled many last cooldowns disabled =>
      rw [disabled] at hd'
      cases hd'

/-- In a series of failures the record's count is the number of those since the cooldown began. -/
theorem failures_eq_reportsSince {n : ℕ} (h : (p.record entry.key).CountsSince n) :
    ((p.reportFailures env cfg entry times).record entry.key).CountsSince (reportsSince env cfg entry p n times) := by
  induction times generalizing p n with
  | nil => exact h
  | cons now times ih => exact ih (countsSince_step now h)

/-- Of a node without a record, by the number of failures: one that comes in a cooldown is always among the first few. -/
theorem fewWhileCooling_iff (hnone : p.failures entry.key=none) :
    FewWhileCooling env cfg entry p times ↔ ∀ before now after, times=before++now::after →
      ((p.reportFailures env cfg entry before).record entry.key).disabled = false →
      ((p.reportFailures env cfg entry before).record entry.key).Cooling now →
      reportsSince env cfg entry p 0 before+1 < cfg.runtimeFailureThreshold := by
  have hfresh : (p.record entry.key).CountsSince 0 := by
    rw [Pool.record,hnone]
    exact fun _ _ => rfl
  have hcounts : ∀ {before now}, ((p.reportFailures env cfg entry before).record entry.key).disabled = false →
      ((p.reportFailures env cfg entry before).record entry.key).Cooling now →
      ((p.reportFailures env cfg entry before).record entry.key).failures=reportsSince env cfg entry p 0 before := by
    rintro before now hd ⟨until_,hu,_⟩
    exact failures_eq_reportsSince hfresh hd (by rw [hu]; exact Option.some_ne_none until_)
  constructor
  · intro h before now after heq hd hcool
    rw [← hcounts hd hcool]
    exact h before now after heq hd hcool
  · intro h before now after heq hd hcool
    rw [hcounts hd hcool]
    exact h before now after heq hd hcool

lemma EntersOutside.tail (h : EntersOutside env cfg entry p (now::times)) :
    EntersOutside env cfg entry (p.reportFailure env cfg now (.proxy entry)) times := by
  intro before t after heq
  exact h (now::before) t after (by rw [heq,List.cons_append])

/-- The next cooldown cannot be entered before the one entered at `e` is over. -/
def Separated (cfg : PoolConfig) (e lower : ℕ) (r : FailureRecord) : Prop :=
  r.disabled = true ∨ r.cooldownUntil=some (e+cfg.cooldown) ∨
    (r.cooldownUntil=none ∧ e+cfg.cooldown ≤ lower)

lemma Separated.next {e lower : ℕ} {r s : FailureRecord} (h : Separated cfg e lower r) (hle : lower ≤ now)
    (hd : r.disabled = false) (hstep : FailureStep cfg now r s) (hsame : s.cooldowns=r.cooldowns) :
    Separated cfg e now s := by
  obtain hdis | hu | ⟨hu,hlower⟩ := h
  · rw [hd] at hdis
    cases hdis
  · cases hstep with
    | counted few failures cooldowns disabled cooldownUntil =>
      obtain ⟨hs,_⟩ | ⟨hs,hcool⟩ := cooldownUntil
      · exact .inr (.inl (hs.trans hu))
      · refine .inr (.inr ⟨hs,?_⟩)
        by_contra hlt
        exact hcool ⟨_,hu,by omega⟩
    | cooled many few cooldowns | disabled many few cooldowns => omega
  · cases hstep with
    | counted few failures cooldowns disabled cooldownUntil =>
      obtain ⟨hs,_⟩ | ⟨hs,_⟩ := cooldownUntil
      · exact .inr (.inr ⟨hs.trans hu,by omega⟩)
      · exact .inr (.inr ⟨hs,by omega⟩)
    | cooled many few cooldowns | disabled many few cooldowns => omega

/-- A cooldown that has just been entered. -/
lemma separated_enters (henters : EntersCooldown env cfg entry p now) :
    Separated cfg now now ((p.reportFailure env cfg now (.proxy entry)).record entry.key) := by
  obtain ⟨hd,hmany⟩ := entersCooldown_iff.mp henters
  obtain ⟨hdis,_⟩ | ⟨_,hstep⟩ := p.record_step env cfg now entry
  · rw [hd] at hdis
    cases hdis
  · cases hstep with
    | counted few => omega
    | cooled many few cooldowns disabled cooldownUntil => exact .inr (.inl cooldownUntil)
    | disabled many last cooldowns disabled => exact .inl disabled

lemma separated_stays (h : ¬EntersCooldown env cfg entry p now) {e lower : ℕ} (hle : lower ≤ now)
    (hsep : Separated cfg e lower (p.record entry.key)) :
    Separated cfg e now ((p.reportFailure env cfg now (.proxy entry)).record entry.key) := by
  obtain ⟨hdis,hsame⟩ | ⟨hd,hstep⟩ := p.record_step env cfg now entry
  · rw [hsame]
    exact .inl hdis
  · refine hsep.next hle hd hstep ?_
    unfold EntersCooldown at h
    cases hstep with
    | counted few failures cooldowns => exact cooldowns
    | cooled many few cooldowns | disabled many few cooldowns => omega

/-- After an entry at `e` the next one comes a full cooldown later, and so on. -/
lemma cooldownEntries_after (hsorted : times.Pairwise (· ≤ ·))
    (houtside : EntersOutside env cfg entry p times) {e lower : ℕ} (hlower : ∀ t ∈ times, lower ≤ t)
    (h : Separated cfg e lower (p.record entry.key)) :
    List.IsChain (fun s t => s+cfg.cooldown ≤ t) (e::cooldownEntries env cfg entry p times) := by
  induction times generalizing p e lower with
  | nil => exact .singleton e
  | cons now times ih =>
    obtain ⟨hfirst,htail⟩ := List.pairwise_cons.mp hsorted
    have hle := hlower now List.mem_cons_self
    rw [cooldownEntries]
    by_cases henters : EntersCooldown env cfg entry p now
    · rw [if_pos henters,List.singleton_append]
      refine .cons_cons ?_ (ih htail houtside.tail hfirst (separated_enters henters))
      obtain hdis | hu | ⟨_,hover⟩ := h
      · rw [(entersCooldown_iff.mp henters).1] at hdis
        cases hdis
      · by_contra hlt
        exact houtside [] now times rfl henters ⟨_,hu,by omega⟩
      · omega
    · rw [if_neg henters,List.nil_append]
      exact ih htail houtside.tail hfirst (separated_stays henters hle h)

/-- Two entries in a row lie a full cooldown apart. -/
theorem cooldownEntries_separated (hsorted : times.Pairwise (· ≤ ·))
    (houtside : EntersOutside env cfg entry p times) :
    List.IsChain (fun s t => s+cfg.cooldown ≤ t) (cooldownEntries env cfg entry p times) := by
  induction times generalizing p with
  | nil => exact .nil
  | cons now times ih =>
    obtain ⟨hfirst,htail⟩ := List.pairwise_cons.mp hsorted
    rw [cooldownEntries]
    by_cases henters : EntersCooldown env cfg entry p now
    · rw [if_pos henters]
      exact cooldownEntries_after htail houtside.tail hfirst (separated_enters henters)
    · rw [if_neg henters]
      exact ih htail houtside.tail

/-- The count of cooldowns of a node that has only failed, disabled or not. -/
def CountsCooldowns (cfg : PoolConfig) (r : FailureRecord) : Prop :=
  if r.disabled then r.cooldowns=cfg.runtimeDisableAfterCooldowns
  else r.cooldowns < cfg.runtimeDisableAfterCooldowns

lemma countsCooldowns_step (now : ℕ) (h : CountsCooldowns cfg (p.record entry.key)) :
    CountsCooldowns cfg ((p.reportFailure env cfg now (.proxy entry)).record entry.key) ∧
      ((p.reportFailure env cfg now (.proxy entry)).record entry.key).cooldowns=
        (p.record entry.key).cooldowns+(if EntersCooldown env cfg entry p now then 1 else 0) := by
  have hcount : ∀ s : FailureRecord, (p.reportFailure env cfg now (.proxy entry)).record entry.key=s →
      (s.cooldowns=(p.record entry.key).cooldowns ∨ s.cooldowns=(p.record entry.key).cooldowns+1) →
      s.cooldowns=(p.record entry.key).cooldowns+(if EntersCooldown env cfg entry p now then 1 else 0) := by
    intro s hs hor
    have henters : EntersCooldown env cfg entry p now ↔ (p.record entry.key).cooldowns < s.cooldowns := by
      rw [EntersCooldown,hs]
    split_ifs with he <;> rw [henters] at he <;> omega
  generalize hs : (p.reportFailure env cfg now (.proxy entry)).record entry.key=s at hcount ⊢
  obtain ⟨hd,he⟩ | ⟨hd,hstep⟩ := p.record_step env cfg now entry
  · rw [hs] at he
    subst he
    exact ⟨h,hcount _ rfl (.inl rfl)⟩
  · rw [hs] at hstep
    unfold CountsCooldowns at h ⊢
    rw [hd,if_neg Bool.false_ne_true] at h
    cases hstep with
    | counted few failures cooldowns disabled =>
      rw [disabled,if_neg Bool.false_ne_true]
      exact ⟨cooldowns ▸ h,hcount _ rfl (.inl cooldowns)⟩
    | cooled many few cooldowns disabled =>
      rw [disabled,if_neg Bool.false_ne_true]
      exact ⟨cooldowns ▸ few,hcount _ rfl (.inr cooldowns)⟩
    | disabled many last cooldowns disabled =>
      rw [disabled,if_pos rfl]
      exact ⟨by omega,hcount _ rfl (.inr cooldowns)⟩

/-- The count goes up with every entry, and the node is disabled when it reaches the limit. -/
theorem cooldowns_eq_entries (h : CountsCooldowns cfg (p.record entry.key)) :
    CountsCooldowns cfg ((p.reportFailures env cfg entry times).record entry.key) ∧
      ((p.reportFailures env cfg entry times).record entry.key).cooldowns=
        (p.record entry.key).cooldowns+(cooldownEntries env cfg entry p times).length := by
  induction times generalizing p with
  | nil => exact ⟨h,rfl⟩
  | cons now times ih =>
    obtain ⟨hfirst,hcount⟩ := @countsCooldowns_step env _ _ _ now h
    obtain ⟨hcounts,hlength⟩ := ih hfirst
    refine ⟨hcounts,?_⟩
    change ((Pool.reportFailures env cfg entry _ times).record entry.key).cooldowns=_
    rw [hlength,hcount,cooldownEntries,List.length_append]
    split_ifs
    · rw [List.length_singleton,Nat.add_assoc]
    · rw [List.length_nil,Nat.add_assoc]

/-- In a series of failures from no record on, the count of cooldowns is raised only outside a
cooldown exactly when fewer failures than the threshold arrive in any one cooldown. Then the entries
lie a full cooldown apart, and the node is disabled at the last of as many as the limit. -/
theorem burst_is_one_cooldown_iff (hnone : p.failures entry.key=none)
    (hsorted : times.Pairwise (· ≤ ·)) :
    (EntersOutside env cfg entry p times ↔ FewWhileCooling env cfg entry p times) ∧
      (FewWhileCooling env cfg entry p times →
        List.IsChain (fun s t => s+cfg.cooldown ≤ t) (cooldownEntries env cfg entry p times) ∧
        (((p.reportFailures env cfg entry times).record entry.key).disabled = true →
          (cooldownEntries env cfg entry p times).length=cfg.runtimeDisableAfterCooldowns)) := by
  refine ⟨entersOutside_iff,fun h => ⟨cooldownEntries_separated hsorted (entersOutside_iff.mpr h),?_⟩⟩
  intro hdisabled
  have hfresh : p.record entry.key=.fresh := by simp [Pool.record,hnone]
  have hstart : CountsCooldowns cfg (p.record entry.key) := by
    rw [hfresh]
    exact cfg.disable_pos
  obtain ⟨hcounts,hlength⟩ := @cooldowns_eq_entries env _ _ _ times hstart
  rw [CountsCooldowns,if_pos hdisabled] at hcounts
  rw [hfresh] at hlength
  simp only [FailureRecord.fresh,Nat.zero_add] at hlength
  omega

/-! One failure is enough for a cooldown of 300 ticks, and three cooldowns disable the node. -/

def cooldownConfig : PoolConfig := .new 0 1 300 3 true

def cooldownPool : Pool :=
  Pool.withRuntimeFailurePolicyAndState sampleExternals cooldownConfig [sampleNode] .absent

/-- Three failures at one instant count as three cooldowns. -/
theorem burst_is_three_cooldowns :
    cooldownPool.failures sampleNode.key=none ∧
      cooldownEntries sampleExternals cooldownConfig (.fromNode sampleNode) cooldownPool [0,0,0]=[0,0,0] ∧
      ((cooldownPool.reportFailures sampleExternals cooldownConfig (.fromNode sampleNode)
        [0,0,0]).record sampleNode.key).disabled = true ∧
      ¬EntersOutside sampleExternals cooldownConfig (.fromNode sampleNode) cooldownPool [0,0,0] := by
  refine ⟨rfl,by decide,by decide,fun h => ?_⟩
  exact absurd (h [0] 0 [0] rfl (by decide)) (by decide)

/-- Each failure comes when the cooldown of the one before is over. -/
theorem burst_is_one_cooldown_spaced :
    ((cooldownPool.reportFailures sampleExternals cooldownConfig (.fromNode sampleNode)
        [0,300,700]).record sampleNode.key).disabled = true ∧
      (cooldownEntries sampleExternals cooldownConfig (.fromNode sampleNode) cooldownPool
        [0,300,700]).length=3 := by
  have hfew : FewWhileCooling sampleExternals cooldownConfig (.fromNode sampleNode) cooldownPool
      [0,300,700] := by
    intro before now after heq _ hcool
    obtain _ | ⟨a,_ | ⟨b,_ | ⟨c,before⟩⟩⟩ := before
    · cases heq
      exact absurd hcool (by decide)
    · cases heq
      exact absurd hcool (by decide)
    · cases heq
      exact absurd hcool (by decide)
    · simp at heq
  have hdisabled : ((cooldownPool.reportFailures sampleExternals cooldownConfig (.fromNode sampleNode)
      [0,300,700]).record sampleNode.key).disabled = true := by decide
  exact ⟨hdisabled,((burst_is_one_cooldown_iff rfl (by decide)).2 hfew).2 hdisabled⟩

end RotatorProxy.Proxy
