import RotatorProxy.Health.Schedule

/-! The scheduler of the refreshes. It waits, refreshes the pool and plans again, one turn after the other; a sleep can end
late and a refresh can take as long as it likes. The local clock is not set meanwhile. -/
namespace RotatorProxy.Health

/-- What is done between two refreshes -/
inductive RefreshPlan
  | interval (seconds : ℕ)
  | daily (time : NaiveTime)

/-- The plan of `run_refresh_scheduler`. Without an interval the time is parsed, and when that fails there is no plan. -/
def refreshPlan (refreshIntervalSeconds : Option ℕ) (dailyRefreshTime : Option NaiveTime) : Option RefreshPlan :=
  match refreshIntervalSeconds with
  | some seconds => some (.interval seconds)
  | none => dailyRefreshTime.map .daily

def RefreshPlan.wait (rule : LocalRule) (now : ℤ) : RefreshPlan → ℕ
  | interval seconds => seconds*nanosPerSecond
  | daily time => rule.durationUntilNextRefreshFrom now time

/-- How late a sleep ends, and how long the refresh after it takes -/
structure Lag where
  late : ℕ
  took : ℕ

structure RefreshTurn where
  planned : ℤ
  wake : ℤ
  began : ℤ
  ended : ℤ
  deriving DecidableEq

def RefreshPlan.turn (plan : RefreshPlan) (rule : LocalRule) (now : ℤ) (lag : Lag) : RefreshTurn where
  planned := now
  wake := now+plan.wait rule now
  began := now+plan.wait rule now+lag.late
  ended := now+plan.wait rule now+lag.late+lag.took

/-- The loop of `run_refresh_scheduler` -/
def RefreshPlan.turns (plan : RefreshPlan) (rule : LocalRule) : ℤ → List Lag → List RefreshTurn
  | _,[] => []
  | now,lag::lags => plan.turn rule now lag::plan.turns rule (plan.turn rule now lag).ended lags

/-- When the last turn is over -/
def RefreshPlan.over (plan : RefreshPlan) (rule : LocalRule) : ℤ → List Lag → ℤ
  | now,[] => now
  | now,lag::lags => plan.over rule (plan.turn rule now lag).ended lags

namespace LocalRule
variable (rule : LocalRule) (time : NaiveTime)

/-- The first instant of the time on some date. -/
def Occurs (instant : ℤ) : Prop :=
  ∃ date ≤ rule.lastDate, (rule.fromLocalDatetime date time).soonest=some instant

/-- The second instant of the time, on a date on which it comes twice. -/
def Repeats (instant : ℤ) : Prop :=
  ∃ date, ∃ first < instant, rule.fromLocalDatetime date time=.ambiguous first instant

/-- The times of the dates before today's are over. -/
def Dated : Prop := ∀ time date now instant, (rule.fromLocalDatetime date time).soonest=some instant →
  now < instant → rule.dateNaive now ≤ date

/-- A time comes for the second time before it comes on a later date. -/
def RepeatsEarly : Prop := ∀ time date later first last next, date < later →
  rule.fromLocalDatetime date time=.ambiguous first last → (rule.fromLocalDatetime later time).soonest=some next →
    last < next

variable {rule time} {now next : ℤ}

/-- A second instant is the first one of no date. -/
lemma not_occurs_of_repeats (hrule : rule.Increasing) (hrepeats : rule.RepeatsEarly) {instant : ℤ}
    (h : rule.Repeats time instant) : ¬rule.Occurs time instant := by
  obtain ⟨date,first,hlt,hdate⟩ := h
  rintro ⟨other,-,hother⟩
  have hfirst : (rule.fromLocalDatetime date time).soonest=some first := by
    rw [hdate]
    exact congrArg some (min_eq_left hlt.le)
  rcases lt_trichotomy date other with hbefore | rfl | hbehind
  · exact lt_irrefl _ (hrepeats time date other first instant instant hbefore hdate hother)
  · rw [hfirst] at hother
    exact hlt.ne (Option.some.inj hother)
  · exact lt_asymm hlt (hrule time other date instant first hbehind hother hfirst)

/-- No occurrence is passed over. -/
lemma next_le_of_occurs (hordered : rule.Ordered) (hrule : rule.Increasing) (hdated : rule.Dated)
    (hnext : rule.nextRefreshAfter now time=some next) {instant : ℤ} (hinstant : rule.Occurs time instant) (hafter : now < instant) : next ≤ instant := by
  obtain ⟨date,hlast,hdate⟩ := hinstant
  obtain ⟨⟨-,later,-,hlater,-,hnextDate⟩,hleast⟩ := nextRefreshFrom_isLeast hordered hrule hnext
  have hfrom := hdated time date now instant hdate hafter
  by_cases hnear : date < rule.dateNaive now+(3 : ℕ)
  · exact hleast ⟨hafter,date,hfrom,hnear,.inr hlast,hdate⟩
  · exact (hrule time later date _ _ (by omega) hnextDate hdate).le

end LocalRule

namespace RefreshPlan
variable {plan : RefreshPlan} {rule : LocalRule} {now : ℤ} {lag : Lag} {lags : List Lag}

@[simp] lemma turn_planned : (plan.turn rule now lag).planned=now := rfl

lemma turn_in_order (plan : RefreshPlan) (rule : LocalRule) (now : ℤ) (lag : Lag) :
    (plan.turn rule now lag).planned ≤ (plan.turn rule now lag).wake ∧
    (plan.turn rule now lag).wake ≤ (plan.turn rule now lag).began ∧
    (plan.turn rule now lag).began ≤ (plan.turn rule now lag).ended := by
  simp only [turn]
  omega

/-- No turn begins before the turns do. -/
lemma turns_after {turn : RefreshTurn} (h : turn ∈ plan.turns rule now lags) : now ≤ turn.planned := by
  induction lags generalizing now with
  | nil => cases h
  | cons lag lags ih =>
    rcases List.mem_cons.mp h with rfl | hrest
    · exact le_rfl
    · have horder := plan.turn_in_order rule now lag
      have hafter := ih hrest
      rw [turn_planned] at horder
      omega

end RefreshPlan

section
variable {rule : LocalRule} {time : NaiveTime} {now : ℤ} {lags : List Lag}

/-- The time comes on today's date or one of the two after it, which the calendar still has. -/
def LocalRule.Plannable (rule : LocalRule) (time : NaiveTime) (now : ℤ) : Prop :=
  rule.dateNaive now ≤ rule.lastDate ∧ ∃ instant, rule.Upcoming now time 3 (rule.dateNaive now) instant

/-- A turn wakes at the first occurrence there is after its planning. -/
lemma daily_turn (hordered : rule.Ordered) (hrule : rule.Increasing) (hdated : rule.Dated)
    (hnow : rule.Plannable time now) (lag : Lag) :
    IsLeast {instant | rule.Occurs time instant ∧ now < instant} ((RefreshPlan.daily time).turn rule now lag).wake := by
  obtain ⟨hdate,instant,hinstant⟩ := hnow
  obtain ⟨next,hnext⟩ := LocalRule.nextRefreshFrom_some hordered hinstant
  obtain ⟨⟨hafter,later,-,-,hlast,hlater⟩,-⟩ := LocalRule.nextRefreshFrom_isLeast hordered hrule hnext
  have hwake : ((RefreshPlan.daily time).turn rule now lag).wake=next := (LocalRule.wait_lands hnext hafter).2
  rw [hwake]
  refine ⟨⟨⟨later,?_,hlater⟩,hafter⟩,fun other hother =>
    LocalRule.next_le_of_occurs hordered hrule hdated hnext hother.1 hother.2⟩
  rcases hlast with rfl | hlast
  · exact hdate
  · exact hlast

/-- Every turn wakes after it was planned. -/
lemma daily_turns_wake (hordered : rule.Ordered) (hrule : rule.Increasing) (hdated : rule.Dated)
    (hplannable : ∀ turn ∈ (RefreshPlan.daily time).turns rule now lags, rule.Plannable time turn.planned)
    {turn : RefreshTurn} (h : turn ∈ (RefreshPlan.daily time).turns rule now lags) :
    rule.Occurs time turn.wake ∧ turn.planned < turn.wake ∧ turn.wake ≤ turn.began ∧ turn.began ≤ turn.ended := by
  induction lags generalizing now with
  | nil => cases h
  | cons lag lags ih =>
    rcases List.mem_cons.mp h with rfl | hrest
    · have hleast := daily_turn hordered hrule hdated (hplannable _ List.mem_cons_self) lag
      exact ⟨hleast.1.1,hleast.1.2,(RefreshPlan.turn_in_order _ rule now lag).2⟩
    · exact ih (fun turn hturn => hplannable turn (List.mem_cons_of_mem _ hturn)) hrest

lemma daily_turns_sorted (hordered : rule.Ordered) (hrule : rule.Increasing) (hdated : rule.Dated)
    (hplannable : ∀ turn ∈ (RefreshPlan.daily time).turns rule now lags, rule.Plannable time turn.planned) :
    ((RefreshPlan.daily time).turns rule now lags).Pairwise (fun a b => a.ended < b.wake) := by
  induction lags generalizing now with
  | nil => exact .nil
  | cons lag lags ih =>
    have htail := fun turn hturn => hplannable turn (List.mem_cons_of_mem _ hturn)
    refine List.pairwise_cons.mpr ⟨fun turn hturn => ?_,ih htail⟩
    have hafter := RefreshPlan.turns_after hturn
    have hwake := (daily_turns_wake hordered hrule hdated htail hturn).2.1
    omega

/-- An occurrence is a turn's unless it comes between the wake of a turn and its end. -/
lemma daily_turns_serve (hordered : rule.Ordered) (hrule : rule.Increasing) (hdated : rule.Dated)
    (hplannable : ∀ turn ∈ (RefreshPlan.daily time).turns rule now lags, rule.Plannable time turn.planned)
    {instant : ℤ} (hinstant : rule.Occurs time instant) (hafter : now < instant)
    (hover : instant ≤ (RefreshPlan.daily time).over rule now lags) :
    ∃ turn ∈ (RefreshPlan.daily time).turns rule now lags, turn.wake ≤ instant ∧ instant ≤ turn.ended := by
  induction lags generalizing now with
  | nil => exact absurd hafter (not_lt.mpr hover)
  | cons lag lags ih =>
    have hleast := daily_turn hordered hrule hdated (hplannable _ List.mem_cons_self) lag
    by_cases hended : instant ≤ ((RefreshPlan.daily time).turn rule now lag).ended
    · exact ⟨_,List.mem_cons_self,hleast.2 ⟨hinstant,hafter⟩,hended⟩
    · obtain ⟨turn,hturn,hwithin⟩ := ih (fun turn hturn => hplannable turn (List.mem_cons_of_mem _ hturn))
        (not_le.mp hended) hover
      exact ⟨turn,List.mem_cons_of_mem _ hturn,hwithin⟩

/-- Two turns that one instant is in are the same. -/
lemma turn_unique {turns : List RefreshTurn} (hsorted : turns.Pairwise (fun a b => a.ended < b.wake)) {instant : ℤ}
    {a b : RefreshTurn} (ha : a ∈ turns) (hb : b ∈ turns) (hawake : a.wake ≤ instant) (haended : instant ≤ a.ended)
    (hbwake : b.wake ≤ instant) (hbended : instant ≤ b.ended) : a=b := by
  have hbefore : turns.Pairwise (fun a b => a.wake ≤ instant ∧ instant ≤ a.ended → b.wake ≤ instant ∧ instant ≤ b.ended →
      a=b) := hsorted.imp (by intro a b hlt ha hb; omega)
  have hbehind : turns.Pairwise (fun b a => a.wake ≤ instant ∧ instant ≤ a.ended → b.wake ≤ instant ∧ instant ≤ b.ended →
      a=b) := hsorted.imp (by intro b a hlt ha hb; omega)
  exact hbefore.forall_of_forall_of_flip (fun _ _ _ _ => rfl) hbehind ha hb ⟨hawake,haended⟩ ⟨hbwake,hbended⟩

/-- The turns come one after the other, and each refreshes no earlier than at the first instant of the daily time on some
date, for which there is no other turn. The first instant of a date is left out exactly when it comes after the wake of some
turn and by the end of its refresh; no turn is for the second one. -/
theorem daily_refreshes_once {start : ℤ} (hordered : rule.Ordered) (hrule : rule.Increasing) (hdated : rule.Dated)
    (hrepeats : rule.RepeatsEarly)
    (hplannable : ∀ turn ∈ (RefreshPlan.daily time).turns rule start lags, rule.Plannable time turn.planned) :
    ((RefreshPlan.daily time).turns rule start lags).Pairwise (fun a b => a.ended < b.wake) ∧
    (∀ turn ∈ (RefreshPlan.daily time).turns rule start lags, rule.Occurs time turn.wake ∧ turn.wake ≤ turn.began) ∧
    (∀ turn ∈ (RefreshPlan.daily time).turns rule start lags, ¬rule.Repeats time turn.wake) ∧
    ∀ instant, rule.Occurs time instant → start < instant → instant ≤ (RefreshPlan.daily time).over rule start lags →
      ((∃! turn, turn ∈ (RefreshPlan.daily time).turns rule start lags ∧ turn.wake=instant) ↔
        ¬∃ turn ∈ (RefreshPlan.daily time).turns rule start lags, turn.wake < instant ∧ instant ≤ turn.ended) := by
  have hsorted := daily_turns_sorted hordered hrule hdated hplannable
  have hwake : ∀ turn ∈ (RefreshPlan.daily time).turns rule start lags, rule.Occurs time turn.wake ∧
      turn.planned < turn.wake ∧ turn.wake ≤ turn.began ∧ turn.began ≤ turn.ended :=
    fun _ => daily_turns_wake hordered hrule hdated hplannable
  refine ⟨hsorted,fun turn hturn => ⟨(hwake turn hturn).1,(hwake turn hturn).2.2.1⟩,
    fun turn hturn hsecond => LocalRule.not_occurs_of_repeats hrule hrepeats hsecond (hwake turn hturn).1,
    fun instant hinstant hafter hover => ⟨?_,?_⟩⟩
  · rintro ⟨turn,⟨hturn,rfl⟩,-⟩ ⟨other,hother,hlt,hle⟩
    obtain ⟨-,-,hbegan,hended⟩ := hwake turn hturn
    have hsame := turn_unique hsorted hturn hother le_rfl (hbegan.trans hended) hlt.le hle
    rw [hsame] at hlt
    exact lt_irrefl _ hlt
  · intro hfree
    obtain ⟨turn,hturn,hle,hended⟩ := daily_turns_serve hordered hrule hdated hplannable hinstant hafter hover
    have heq : turn.wake=instant := hle.eq_of_not_lt fun hlt => hfree ⟨turn,hturn,hlt,hended⟩
    refine ⟨turn,⟨hturn,heq⟩,?_⟩
    rintro other ⟨hother,hwakes⟩
    obtain ⟨-,-,hbegan,hended'⟩ := hwake other hother
    exact turn_unique hsorted hother hturn hwakes.le (hwakes ▸ hbegan.trans hended') hle hended

end

/-! A refresh that takes more than a day. It begins on the date on which the time comes twice, five seconds late, and is not
over when the time comes on the next one. -/

lemma skippedThenTwice_dated : skippedThenTwice.Dated := by
  intro time date now instant hinstant hafter
  rw [skippedThenTwice_soonest hinstant] at hafter
  have htime := time.lt_day
  have hbegun := Int.ediv_mul_le now (show (nanosPerDay : ℤ) ≠ 0 by decide)
  have hle : now/nanosPerDay*nanosPerDay < (date+1)*nanosPerDay := by
    rw [add_one_mul]
    omega
  exact Int.lt_add_one_iff.mp (lt_of_mul_lt_mul_right hle (by decide))

lemma skippedThenTwice_repeatsEarly : skippedThenTwice.RepeatsEarly := by
  intro time date later first last next hlt hdate hlater
  have hnext := skippedThenTwice_soonest hlater
  unfold skippedThenTwice at hdate
  dsimp only at hdate
  split_ifs at hdate with _ htwo
  cases hdate
  have htime := Int.mul_le_mul_of_nonneg_right (show date+1 ≤ later by omega) (show (0 : ℤ) ≤ nanosPerDay by decide)
  have hhour : (60*60*nanosPerSecond : ℤ) < nanosPerDay := by decide
  rw [hnext]
  linarith

def sampleLags : List Lag := [⟨5*nanosPerSecond,25*60*60*nanosPerSecond⟩,⟨0,60*nanosPerSecond⟩]

lemma sampleLags_turns : (RefreshPlan.daily halfPastTwo).turns skippedThenTwice halfPastTwo.nanos sampleLags=
    [⟨halfPastTwo.nanos,2*nanosPerDay+halfPastTwo.nanos,2*nanosPerDay+halfPastTwo.nanos+5*nanosPerSecond,
      3*nanosPerDay+halfPastTwo.nanos+3605*nanosPerSecond⟩,
    ⟨3*nanosPerDay+halfPastTwo.nanos+3605*nanosPerSecond,4*nanosPerDay+halfPastTwo.nanos,
      4*nanosPerDay+halfPastTwo.nanos,4*nanosPerDay+halfPastTwo.nanos+60*nanosPerSecond⟩] := by
  decide

theorem daily_refreshes_once_sample :
    (∃! turn, turn ∈ (RefreshPlan.daily halfPastTwo).turns skippedThenTwice halfPastTwo.nanos sampleLags ∧
      turn.wake=4*nanosPerDay+halfPastTwo.nanos) ∧
    ¬∃! turn, turn ∈ (RefreshPlan.daily halfPastTwo).turns skippedThenTwice halfPastTwo.nanos sampleLags ∧
      turn.wake=3*nanosPerDay+halfPastTwo.nanos := by
  have hplannable : ∀ turn ∈ (RefreshPlan.daily halfPastTwo).turns skippedThenTwice halfPastTwo.nanos sampleLags,
      skippedThenTwice.Plannable halfPastTwo turn.planned := by
    rw [sampleLags_turns]
    simp only [List.forall_mem_cons,List.not_mem_nil,false_imp_iff,implies_true,and_true]
    exact ⟨⟨by decide,2*nanosPerDay+halfPastTwo.nanos,by decide,2,by decide,by decide,.inr (by decide),rfl⟩,
      ⟨by decide,4*nanosPerDay+halfPastTwo.nanos,by decide,4,by decide,by decide,.inr (by decide),rfl⟩⟩
  obtain ⟨-,-,-,hserved⟩ := daily_refreshes_once skippedThenTwice_ordered skippedThenTwice_increasing
    skippedThenTwice_dated skippedThenTwice_repeatsEarly hplannable
  rw [hserved _ ⟨4,by decide,rfl⟩ (by decide) (by decide),hserved _ ⟨3,by decide,rfl⟩ (by decide) (by decide),
    sampleLags_turns]
  decide

end RotatorProxy.Health
