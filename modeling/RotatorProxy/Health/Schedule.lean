import Mathlib.Order.Bounds.Basic
import Mathlib.Tactic

/-! When the daily refresh comes next. An instant is a number of nanoseconds, a local date a number of days; which instants
have a local date and time is up to the time zone, where a time of day can be skipped or come twice. -/
namespace RotatorProxy.Health

def nanosPerSecond : ℕ := 10^9

def nanosPerDay : ℕ := 24*60*60*nanosPerSecond

/-- `NaiveTime`, as the nanoseconds since midnight -/
structure NaiveTime where
  nanos : ℕ
  lt_day : nanos < nanosPerDay

/-- `chrono::LocalResult` -/
inductive LocalResult
  | none
  | single (instant : ℤ)
  | ambiguous (first last : ℤ)

def LocalResult.earliest : LocalResult → Option ℤ
  | none => .none
  | single instant => some instant
  | ambiguous first _ => some first

/-- The smaller instant, in whatever order the two are. -/
def LocalResult.soonest : LocalResult → Option ℤ
  | none => .none
  | single instant => some instant
  | ambiguous first last => some (min first last)

/-- What the program asks of `Local`. -/
structure LocalRule where
  dateNaive : ℤ → ℤ
  fromLocalDatetime : ℤ → NaiveTime → LocalResult
  /-- `NaiveDate::MAX` -/
  lastDate : ℤ

namespace LocalRule
variable (rule : LocalRule) (now : ℤ) (time : NaiveTime)

def succOpt (date : ℤ) : Option ℤ := if date < rule.lastDate then some (date+1) else none

/-- The loop of `next_refresh_after`, with so many rounds to go. -/
def nextRefreshFrom : ℕ → ℤ → Option ℤ
  | 0,_ => none
  | rounds+1,date =>
    match ((rule.fromLocalDatetime date time).earliest).filter (fun candidate => decide (now < candidate)) with
    | some candidate => some candidate
    | none => (rule.succOpt date).bind (nextRefreshFrom rounds)

def nextRefreshAfter : Option ℤ := rule.nextRefreshFrom now time 3 (rule.dateNaive now)

/-- In nanoseconds; a negative difference would be no wait at all. -/
def durationUntilNextRefreshFrom : ℕ :=
  match rule.nextRefreshAfter now time with
  | none => nanosPerDay
  | some next => (next-now).toNat

/-- The order that `chrono` documents for the two instants: the earlier one is put first. -/
def Ordered : Prop := ∀ date time first last, rule.fromLocalDatetime date time=.ambiguous first last → first ≤ last

/-- The later the date, the later its first instant. -/
def Increasing : Prop := ∀ time date later instant next, date < later →
  (rule.fromLocalDatetime date time).soonest=some instant →
  (rule.fromLocalDatetime later time).soonest=some next → instant < next

/-- A first instant after now, on one of so many dates from this one on. -/
def Upcoming (rounds : ℕ) (date instant : ℤ) : Prop :=
  now < instant ∧ ∃ later, date ≤ later ∧ later < date+rounds ∧ (later=date ∨ later ≤ rule.lastDate) ∧
    (rule.fromLocalDatetime later time).soonest=some instant

/-- A rule whose local time is always as far from the instants. -/
def fixedOffset (offset lastDate : ℤ) : LocalRule where
  dateNaive instant := (instant+offset)/nanosPerDay
  fromLocalDatetime date time := .single (date*nanosPerDay+time.nanos-offset)
  lastDate := lastDate

end LocalRule

/-! The search -/

namespace LocalRule
variable {rule : LocalRule} {now : ℤ} {time : NaiveTime}

lemma succOpt_eq_some {date next : ℤ} (h : rule.succOpt date=some next) : date < rule.lastDate ∧ next=date+1 := by
  unfold succOpt at h
  split_ifs at h with hlast
  exact ⟨hlast,(Option.some.inj h).symm⟩

/-- What the program takes for the first instant is the first one. -/
lemma Ordered.earliest_eq (h : rule.Ordered) (date : ℤ) (time : NaiveTime) :
    (rule.fromLocalDatetime date time).earliest=(rule.fromLocalDatetime date time).soonest := by
  cases hresult : rule.fromLocalDatetime date time with
  | none => rfl
  | single instant => rfl
  | ambiguous first last => exact congrArg some (min_eq_left (h date time first last hresult)).symm

/-- After a date without an instant the search goes on with the next one. -/
lemma upcoming_succ {rounds : ℕ} {date instant : ℤ}
    (hnone : ¬∃ candidate, (rule.fromLocalDatetime date time).soonest=some candidate ∧ now < candidate) :
    rule.Upcoming now time (rounds+1) date instant ↔
      date < rule.lastDate ∧ rule.Upcoming now time rounds (date+1) instant := by
  constructor
  · rintro ⟨hafter,later,hfrom,hto,hlast,hlater⟩
    have hne : later ≠ date := by
      rintro rfl
      exact hnone ⟨instant,hlater,hafter⟩
    have hle := hlast.resolve_left hne
    push_cast at hto
    exact ⟨by omega,hafter,later,by omega,by omega,.inr hle,hlater⟩
  · rintro ⟨hlast,hafter,later,hfrom,hto,hlater,hinstant⟩
    refine ⟨hafter,later,by omega,by push_cast; omega,.inr ?_,hinstant⟩
    omega

/-- What is found is the smallest instant that is to come. -/
lemma nextRefreshFrom_isLeast (hordered : rule.Ordered) (hrule : rule.Increasing) {rounds : ℕ} {date next : ℤ}
    (h : rule.nextRefreshFrom now time rounds date=some next) :
    IsLeast {instant | rule.Upcoming now time rounds date instant} next := by
  induction rounds generalizing date with
  | zero => cases h
  | succ rounds ih =>
    unfold nextRefreshFrom at h
    rw [hordered.earliest_eq] at h
    split at h
    · next candidate hcandidate =>
      cases h
      obtain ⟨hearliest,hafter⟩ := Option.filter_eq_some_iff.mp hcandidate
      refine ⟨⟨of_decide_eq_true hafter,date,le_rfl,by push_cast; omega,.inl rfl,hearliest⟩,?_⟩
      rintro instant ⟨-,later,hfrom,-,-,hlater⟩
      obtain rfl | hlt := hfrom.eq_or_lt
      · rw [hearliest] at hlater
        exact (Option.some.inj hlater).le
      · exact (hrule time date later _ _ hlt hearliest hlater).le
    · next hcandidate =>
      obtain ⟨succ,hsucc,hrest⟩ := Option.bind_eq_some_iff.mp h
      obtain ⟨hlast,rfl⟩ := succOpt_eq_some hsucc
      have hnone : ¬∃ candidate, (rule.fromLocalDatetime date time).soonest=some candidate ∧ now < candidate := by
        rintro ⟨candidate,hearliest,hafter⟩
        rw [hearliest,Option.filter_some,decide_eq_true hafter] at hcandidate
        cases hcandidate
      have hsame : {instant | rule.Upcoming now time (rounds+1) date instant}=
          {instant | rule.Upcoming now time rounds (date+1) instant} := by
        ext instant
        exact (upcoming_succ hnone).trans (and_iff_right hlast)
      rw [hsame]
      exact ih hrest

/-- An instant that is to come is not missed. -/
lemma nextRefreshFrom_some (hordered : rule.Ordered) {rounds : ℕ} {date instant : ℤ}
    (h : rule.Upcoming now time rounds date instant) : ∃ next, rule.nextRefreshFrom now time rounds date=some next := by
  induction rounds generalizing date with
  | zero =>
    obtain ⟨-,later,hfrom,hto,-⟩ := h
    push_cast at hto
    omega
  | succ rounds ih =>
    unfold nextRefreshFrom
    rw [hordered.earliest_eq]
    cases hcandidate : (rule.fromLocalDatetime date time).soonest.filter (fun candidate => decide (now < candidate)) with
    | some candidate => exact ⟨candidate,rfl⟩
    | none =>
      have hnone : ¬∃ candidate, (rule.fromLocalDatetime date time).soonest=some candidate ∧ now < candidate := by
        rintro ⟨candidate,hearliest,hafter⟩
        rw [hearliest,Option.filter_some,decide_eq_true hafter] at hcandidate
        cases hcandidate
      obtain ⟨hlast,hrest⟩ := (upcoming_succ hnone).mp h
      have hsucc : rule.succOpt date=some (date+1) := if_pos hlast
      rw [hsucc]
      exact ih hrest

/-! The wait -/

lemma wait_lands {next : ℤ} (h : rule.nextRefreshAfter now time=some next) (hafter : now < next) :
    0 < rule.durationUntilNextRefreshFrom now time ∧ now+rule.durationUntilNextRefreshFrom now time=next := by
  unfold durationUntilNextRefreshFrom
  rw [h]
  dsimp only
  omega

lemma fixedOffset_ordered (offset lastDate : ℤ) : (fixedOffset offset lastDate).Ordered := by
  rintro _ _ _ _ ⟨⟩

theorem fixedOffset_increasing (offset lastDate : ℤ) : (fixedOffset offset lastDate).Increasing := by
  intro time date later instant next hlt hinstant hnext
  cases hinstant
  cases hnext
  have hday : (0 : ℤ) < nanosPerDay := by decide
  have hmul := Int.mul_lt_mul_of_pos_right hlt hday
  omega

/-- With one offset the time comes today or, if there is a tomorrow, then. -/
lemma fixedOffset_wait (offset lastDate now : ℤ) (time : NaiveTime) :
    0 < (fixedOffset offset lastDate).durationUntilNextRefreshFrom now time ∧
      (fixedOffset offset lastDate).durationUntilNextRefreshFrom now time ≤ nanosPerDay := by
  cases hnext : (fixedOffset offset lastDate).nextRefreshAfter now time with
  | none =>
    have hwait : (fixedOffset offset lastDate).durationUntilNextRefreshFrom now time=nanosPerDay := by
      rw [durationUntilNextRefreshFrom,hnext]
    rw [hwait]
    exact ⟨by decide,le_rfl⟩
  | some next =>
    obtain ⟨⟨hafter,later,hfrom,hto,hlast,hlater⟩,hleast⟩ :=
      nextRefreshFrom_isLeast (fixedOffset_ordered offset lastDate) (fixedOffset_increasing offset lastDate) hnext
    obtain ⟨hpos,hlands⟩ := wait_lands hnext hafter
    refine ⟨hpos,?_⟩
    have hday : (0 : ℤ) < nanosPerDay := by decide
    have htime := time.lt_day
    have hbegun := Int.ediv_mul_le (now+offset) hday.ne'
    have hover := Int.lt_ediv_add_one_mul_self (now+offset) hday
    have hnextDate := add_one_mul ((now+offset)/(nanosPerDay : ℤ)) (nanosPerDay : ℤ)
    by_cases htoday : now < (now+offset)/nanosPerDay*nanosPerDay+time.nanos-offset
    · have hle : next ≤ (now+offset)/nanosPerDay*nanosPerDay+time.nanos-offset :=
        hleast ⟨htoday,_,le_rfl,by push_cast; omega,.inl rfl,rfl⟩
      omega
    · have hne : later ≠ (now+offset)/nanosPerDay := by
        rintro rfl
        rw [← Option.some.inj hlater] at hafter
        exact htoday hafter
      have hle : next ≤ ((now+offset)/nanosPerDay+1)*nanosPerDay+time.nanos-offset := by
        refine hleast ⟨by omega,_,(lt_add_one _).le,?_,.inr ?_,rfl⟩
        · change (now+offset)/nanosPerDay+1 < (now+offset)/nanosPerDay+3
          omega
        · have hfrom' : (now+offset)/nanosPerDay ≤ later := hfrom
          have hlast' := hlast.resolve_left hne
          change (now+offset)/nanosPerDay+1 ≤ lastDate
          have hsame : (fixedOffset offset lastDate).lastDate=lastDate := rfl
          omega
      omega

end LocalRule

/-- If the refresh time is still to come on today's, tomorrow's or the following date, the refresh is at the smallest of
these instants, and the wait is positive and ends with it. Where the local time is always as far ahead, the wait is no
more than a day. -/
theorem next_refresh_isLeast {rule : LocalRule} (hordered : rule.Ordered) (hrule : rule.Increasing) (now : ℤ)
    (time : NaiveTime) :
    ((∃ instant, rule.Upcoming now time 3 (rule.dateNaive now) instant) →
      ∃ next, rule.nextRefreshAfter now time=some next ∧
        IsLeast {instant | rule.Upcoming now time 3 (rule.dateNaive now) instant} next ∧ now < next ∧
        0 < rule.durationUntilNextRefreshFrom now time ∧ now+rule.durationUntilNextRefreshFrom now time=next) ∧
    ∀ offset lastDate, 0 < (LocalRule.fixedOffset offset lastDate).durationUntilNextRefreshFrom now time ∧
      (LocalRule.fixedOffset offset lastDate).durationUntilNextRefreshFrom now time ≤ nanosPerDay := by
  refine ⟨?_,fun offset lastDate => LocalRule.fixedOffset_wait offset lastDate now time⟩
  rintro ⟨instant,hinstant⟩
  obtain ⟨next,hnext⟩ := LocalRule.nextRefreshFrom_some hordered hinstant
  have hleast := LocalRule.nextRefreshFrom_isLeast hordered hrule hnext
  exact ⟨next,hnext,hleast,hleast.1.1,LocalRule.wait_lands hnext hleast.1.1⟩

/-! A time that is skipped on one date and comes twice on the next -/

def skippedThenTwice : LocalRule where
  dateNaive instant := instant/nanosPerDay
  fromLocalDatetime date time :=
    if date=1 then .none
    else if date=2 then .ambiguous (date*nanosPerDay+time.nanos) (date*nanosPerDay+time.nanos+60*60*nanosPerSecond)
    else .single (date*nanosPerDay+time.nanos)
  lastDate := 10^6

lemma skippedThenTwice_ordered : skippedThenTwice.Ordered := by
  intro date time first last h
  unfold skippedThenTwice at h
  dsimp only at h
  split_ifs at h
  cases h
  exact Int.le_add_of_nonneg_right (by decide)

lemma skippedThenTwice_soonest {date instant : ℤ} {time : NaiveTime}
    (h : (skippedThenTwice.fromLocalDatetime date time).soonest=some instant) :
    instant=date*nanosPerDay+time.nanos := by
  rw [← skippedThenTwice_ordered.earliest_eq] at h
  unfold skippedThenTwice at h
  dsimp only at h
  split_ifs at h
  · cases h
  · exact (Option.some.inj h).symm
  · exact (Option.some.inj h).symm

lemma skippedThenTwice_increasing : skippedThenTwice.Increasing := by
  intro time date later instant next hlt hinstant hnext
  rw [skippedThenTwice_soonest hinstant,skippedThenTwice_soonest hnext]
  have hmul := Int.mul_lt_mul_of_pos_right hlt (show (0 : ℤ) < nanosPerDay by decide)
  omega

/-- Half past two -/
def halfPastTwo : NaiveTime := ⟨150*60*nanosPerSecond,by decide⟩

/-- At half past two, a day before the one on which it is skipped. -/
theorem skipped_date_passed_over :
    ∃ next, skippedThenTwice.nextRefreshAfter halfPastTwo.nanos halfPastTwo=some next ∧
      IsLeast {instant | skippedThenTwice.Upcoming halfPastTwo.nanos halfPastTwo 3
        (skippedThenTwice.dateNaive halfPastTwo.nanos) instant} next ∧ halfPastTwo.nanos < next ∧
      0 < skippedThenTwice.durationUntilNextRefreshFrom halfPastTwo.nanos halfPastTwo ∧
      halfPastTwo.nanos+skippedThenTwice.durationUntilNextRefreshFrom halfPastTwo.nanos halfPastTwo=next :=
  (next_refresh_isLeast skippedThenTwice_ordered skippedThenTwice_increasing halfPastTwo.nanos halfPastTwo).1
    ⟨2*nanosPerDay+halfPastTwo.nanos,by decide,2,by decide,by decide,.inr (by decide),rfl⟩

example : skippedThenTwice.nextRefreshAfter halfPastTwo.nanos halfPastTwo=
    some (2*nanosPerDay+150*60*nanosPerSecond) := by decide

end RotatorProxy.Health
