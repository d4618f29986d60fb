import Mathlib
import Tabular.Calendar

/-!
# Days and their numbers

Real days follow one another without a gap, and each is numbered by one more than the day before.

* `Date.next` is the day after a day, `Date.Before` the order of days.
* `Date.isReal_next` and `Date.number_next`: the next day is real and has the next number.
* `Date.number_lt_iff`: **numbers are in the order of the days**, so they tell real days apart
  (`Date.number_inj`).
* `Date.isReal_ofNumber` and `Date.number_ofNumber`: **every number is that of a real day.**
* `Date.Later n` says how many days one day is after another; `Date.later_iff` reads it off the
  numbers.
-/

namespace Tabular.Date

variable {a b d : Date} {n : Int} {year year' : Int} {m m' : Nat}

/-! ## Months -/

/-- The count of days of a year. -/
def yearLength (year : Int) : Nat := if isLeap year then 366 else 365

theorem daysInMonth_bounds (year : Int) (m : Nat) :
    28 ≤ daysInMonth year m ∧ daysInMonth year m ≤ 31 := by
  unfold daysInMonth
  split
  · split <;> decide
  all_goals decide

theorem daysBeforeMonth_succ (hm : 1 ≤ m) :
    daysBeforeMonth year (m + 1) = daysBeforeMonth year m + daysInMonth year m := by
  obtain ⟨k, rfl⟩ : ∃ k, m = k + 1 := ⟨m - 1, by omega⟩
  rfl

/-- The months make up the year. -/
theorem daysBeforeMonth_thirteen (year : Int) : daysBeforeMonth year 13 = yearLength year := by
  simp only [daysBeforeMonth, daysInMonth, yearLength]
  split <;> rfl

/-- A month ends before a later one begins. -/
theorem daysBeforeMonth_add_le (hm : 1 ≤ m) (h : m < m') :
    daysBeforeMonth year m + daysInMonth year m ≤ daysBeforeMonth year m' := by
  induction m', h using Nat.le_induction with
  | base => exact (daysBeforeMonth_succ hm).ge
  | succ k hk ih =>
    have hsucc : daysBeforeMonth year (k + 1) = daysBeforeMonth year k + daysInMonth year k :=
      daysBeforeMonth_succ (by omega)
    omega

/-! ## Years -/

/-- The count of days before a year, in divisions that round down. -/
theorem daysBefore_eq (year : Int) : daysBefore year =
    365 * (year - 1) + (year - 1) / 4 - (year - 1) / 100 + (year - 1) / 400 := by
  unfold daysBefore
  rw [Int.fdiv_eq_ediv_of_nonneg _ (by decide), Int.fdiv_eq_ediv_of_nonneg _ (by decide),
    Int.fdiv_eq_ediv_of_nonneg _ (by decide)]

/-- A year begins after the days of the year before. -/
theorem daysBefore_succ (year : Int) :
    daysBefore (year + 1) = daysBefore year + yearLength year := by
  rw [daysBefore_eq, daysBefore_eq]
  unfold yearLength isLeap
  simp only [Bool.and_eq_true, beq_iff_eq, Bool.or_eq_true, bne_iff_ne]
  split <;> omega

/-- A year ends before a later one begins. -/
theorem daysBefore_add_le (h : year < year') :
    daysBefore year + yearLength year ≤ daysBefore year' := by
  have hmono : Monotone daysBefore := monotone_int_of_le_succ fun y => by
    rw [daysBefore_succ]
    omega
  rw [← daysBefore_succ]
  exact hmono h

/-! ## The order of days -/

/-- A day comes before another. -/
def Before (a b : Date) : Prop :=
  a.year < b.year ∨ a.year = b.year ∧ (a.month < b.month ∨ a.month = b.month ∧ a.day < b.day)

theorem before_or_eq_or_before (a b : Date) : a.Before b ∨ a = b ∨ b.Before a := by
  obtain ⟨ya, ma, da⟩ := a
  obtain ⟨yb, mb, db⟩ := b
  simp only [Before, mk.injEq]
  omega

theorem isReal_iff : d.isReal = true ↔
    1 ≤ d.month ∧ d.month ≤ 12 ∧ 1 ≤ d.day ∧ d.day ≤ daysInMonth d.year d.month := by
  simp only [isReal, Bool.and_eq_true, decide_eq_true_eq, and_assoc]

/-- A real day lies in its year. -/
theorem number_bounds (h : d.isReal = true) :
    daysBefore d.year ≤ d.number ∧ d.number < daysBefore d.year + yearLength d.year := by
  obtain ⟨hm, hm', hd, hd'⟩ := isReal_iff.1 h
  have hyear : daysBeforeMonth d.year d.month + daysInMonth d.year d.month ≤
      daysBeforeMonth d.year 13 := daysBeforeMonth_add_le hm (by omega)
  rw [daysBeforeMonth_thirteen] at hyear
  unfold number
  omega

theorem number_lt_of_before (ha : a.isReal = true) (hb : b.isReal = true) (h : a.Before b) :
    a.number < b.number := by
  rcases h with hyear | ⟨hyear, hmonth | ⟨hmonth, hday⟩⟩
  · have hends := (number_bounds ha).2
    have hbegins := (number_bounds hb).1
    have hle := daysBefore_add_le hyear
    omega
  · obtain ⟨hm, -, -, hd⟩ := isReal_iff.1 ha
    obtain ⟨-, -, hd', -⟩ := isReal_iff.1 hb
    have hle : daysBeforeMonth a.year a.month + daysInMonth a.year a.month ≤
        daysBeforeMonth a.year b.month := daysBeforeMonth_add_le hm hmonth
    unfold number
    rw [← hyear]
    omega
  · unfold number
    rw [← hyear, ← hmonth]
    omega

/-- **Numbers are in the order of the days.** -/
theorem number_lt_iff (ha : a.isReal = true) (hb : b.isReal = true) :
    a.number < b.number ↔ a.Before b := by
  refine ⟨fun h => ?_, number_lt_of_before ha hb⟩
  rcases before_or_eq_or_before a b with hab | rfl | hba
  · exact hab
  · exact absurd h (Int.lt_irrefl _)
  · exact absurd (number_lt_of_before hb ha hba) (Int.lt_asymm h)

/-- Numbers tell real days apart. -/
theorem number_inj (ha : a.isReal = true) (hb : b.isReal = true) : a.number = b.number ↔ a = b := by
  refine ⟨fun h => ?_, congrArg number⟩
  rcases before_or_eq_or_before a b with hab | hab | hba
  · exact absurd h (Int.ne_of_lt (number_lt_of_before ha hb hab))
  · exact hab
  · exact absurd h (Int.ne_of_gt (number_lt_of_before hb ha hba))

/-! ## The day of a number -/

/-- The year of a number is the one it lies in. -/
theorem daysBefore_yearOf (n : Int) :
    daysBefore (yearOf n) ≤ n ∧ n < daysBefore (yearOf n) + yearLength (yearOf n) := by
  rw [← daysBefore_succ]
  unfold yearOf
  rw [Int.fdiv_eq_ediv_of_nonneg _ (by decide)]
  -- a year begins less than two days off 146097 / 400 days for each year before, so the guess is
  -- off by one year at most
  simp only [daysBefore_eq]
  split
  · omega
  split
  · omega
  · omega

/-- The month that is found is the one that the day lies in. -/
theorem monthFrom_spec {fuel rest : Nat} (hm : 1 ≤ m) (hfuel : m + fuel = 12)
    (hrest : daysBeforeMonth year m + rest < yearLength year) :
    let found := monthFrom year fuel m rest
    m ≤ found.1 ∧ found.1 ≤ 12 ∧ found.2 < daysInMonth year found.1 ∧
      daysBeforeMonth year found.1 + found.2 = daysBeforeMonth year m + rest := by
  induction fuel generalizing m rest with
  | zero =>
    -- in December the rest of the days lies before the end of the year
    obtain rfl : m = 12 := by omega
    have hyear : daysBeforeMonth year 13 = daysBeforeMonth year 12 + daysInMonth year 12 :=
      daysBeforeMonth_succ (by decide)
    rw [daysBeforeMonth_thirteen] at hyear
    exact ⟨le_rfl, le_rfl, by simp only [monthFrom]; omega, rfl⟩
  | succ fuel ih =>
    unfold monthFrom
    split
    · rename_i hlt
      exact ⟨le_rfl, by omega, hlt, rfl⟩
    · have hsucc : daysBeforeMonth year (m + 1) = daysBeforeMonth year m + daysInMonth year m :=
        daysBeforeMonth_succ hm
      obtain ⟨hle, hle', hlt, heq⟩ := @ih (m + 1) (rest - daysInMonth year m) (by omega) (by omega)
        (by omega)
      exact ⟨by omega, hle', hlt, by omega⟩

theorem ofNumber_spec (n : Int) : (ofNumber n).isReal = true ∧ (ofNumber n).number = n := by
  obtain ⟨hbegins, hends⟩ := daysBefore_yearOf n
  obtain ⟨hm, hm', hlt, heq⟩ := @monthFrom_spec (yearOf n) 1 11 (n - daysBefore (yearOf n)).toNat
    le_rfl rfl (by simp only [daysBeforeMonth]; omega)
  have hone : daysBeforeMonth (yearOf n) 1 = 0 := rfl
  constructor
  · rw [isReal_iff]
    unfold ofNumber
    exact ⟨hm, hm', by simp only; omega, by simp only; omega⟩
  · unfold number ofNumber
    simp only
    omega

/-- **A number is that of a real day.** -/
theorem isReal_ofNumber (n : Int) : (ofNumber n).isReal = true := (ofNumber_spec n).1

@[simp] theorem number_ofNumber (n : Int) : (ofNumber n).number = n := (ofNumber_spec n).2

/-- A real day is found by its number. -/
theorem ofNumber_number (h : d.isReal = true) : ofNumber d.number = d :=
  (number_inj (isReal_ofNumber _) h).1 (number_ofNumber _)

/-! ## One day after the other -/

/-- The day after a day. -/
def next (d : Date) : Date :=
  if d.day < daysInMonth d.year d.month then { d with day := d.day + 1 }
  else if d.month < 12 then ⟨d.year, d.month + 1, 1⟩
  else ⟨d.year + 1, 1, 1⟩

/-- The next day is real. -/
theorem isReal_next (h : d.isReal = true) : d.next.isReal = true := by
  obtain ⟨hm, hm', hd, hd'⟩ := isReal_iff.1 h
  rw [isReal_iff]
  unfold next
  split
  · exact ⟨hm, hm', by simp only; omega, by simp only; omega⟩
  split
  · have hlong := (daysInMonth_bounds d.year (d.month + 1)).1
    exact ⟨by simp only; omega, by simp only; omega, le_rfl, by simp only; omega⟩
  · have hlong := (daysInMonth_bounds (d.year + 1) 1).1
    exact ⟨le_rfl, by simp only; omega, le_rfl, by simp only; omega⟩

/-- **The next day has the next number.** -/
theorem number_next (h : d.isReal = true) : d.next.number = d.number + 1 := by
  obtain ⟨hm, hm', hd, hd'⟩ := isReal_iff.1 h
  have hsucc : daysBeforeMonth d.year (d.month + 1) =
      daysBeforeMonth d.year d.month + daysInMonth d.year d.month := daysBeforeMonth_succ hm
  unfold next
  split
  · simp only [number]
    omega
  split
  · simp only [number]
    omega
  · obtain hdec : d.month = 12 := by omega
    rw [hdec] at hsucc
    rw [daysBeforeMonth_thirteen] at hsucc
    have hyear := daysBefore_succ d.year
    have hone : daysBeforeMonth (d.year + 1) 1 = 0 := rfl
    simp only [number, hdec] at *
    omega

theorem iterate_next (h : d.isReal = true) (k : Nat) :
    (next^[k] d).isReal = true ∧ (next^[k] d).number = d.number + k := by
  induction k with
  | zero => exact ⟨h, by simp⟩
  | succ k ih =>
    rw [Function.iterate_succ_apply']
    refine ⟨isReal_next ih.1, ?_⟩
    rw [number_next ih.1, ih.2]
    push_cast
    omega

/-- The day `b` is `n` days after the day `a`; if `n` is negative, `a` is that many days after
`b`. -/
def Later (n : Int) (a b : Date) : Prop := next^[n.toNat] a = next^[(-n).toNat] b

/-- **How many days a day is after another is the difference of their numbers.** -/
theorem later_iff (ha : a.isReal = true) (hb : b.isReal = true) :
    Later n a b ↔ b.number = a.number + n := by
  obtain ⟨hreal, hnumber⟩ := iterate_next ha n.toNat
  obtain ⟨hreal', hnumber'⟩ := iterate_next hb (-n).toNat
  rw [Later, ← number_inj hreal hreal', hnumber, hnumber']
  omega

end Tabular.Date
