import Mathlib
import Tabular.Proofs.Calendar.Days
import Tabular.Proofs.Digits
import Tabular.Proofs.Words

/-!
# Dates as they are written

Dates of the years 0 to 9999 are written in ten characters, year first. All other years have a
sign in front, and their dates are in no way like these.

* `Date.FourDigit` are the dates of these years, and `Date.toList_iso` is how they are written.
* `Date.isStrictDate_iso` and `Date.normalizeDate?_iso`: **they are the dates that are strict when
  written, and the ones that are read back.**
* `Date.iso_lt_iff`: **their texts are in the order of the days.**
-/

namespace Tabular

/-! ## Digits -/

theorem isDigit_digitChar (n : Nat) : isDigit (Nat.digitChar (n % 10)) = true :=
  (digitChar_spec _ (Nat.mod_lt _ (by decide))).1

theorem isDecimalDigit_digitChar (n : Nat) : isDecimalDigit (Nat.digitChar (n % 10)) = true :=
  (digitChar_spec _ (Nat.mod_lt _ (by decide))).2.1

theorem isBlank_digitChar : ∀ k < 10, isBlank (Nat.digitChar k) = false := by
  decide

/-! ## Signs -/

/-- No date starts with what is no digit. -/
theorem Date.read?_eq_none {c : Char} (h : isDigit c = false) (cs : List Char) :
    Date.read? (c :: cs) = none := by
  unfold Date.read?
  split
  · rename_i hcs
    obtain ⟨rfl, -⟩ := List.cons.inj hcs
    simp only [List.all_cons, h, Bool.false_and, Bool.false_eq_true, if_false]
  · rfl

theorem normalizeDate?_eq_none {s : String} {c : Char} {cs : List Char}
    (hs : s.toList = c :: cs) (hblank : isBlank c = false) (h : isDigit c = false) :
    normalizeDate? s = none := by
  have htrim : trim s.toList = c :: trimRight cs := by
    rw [hs, trim, trimLeft_cons hblank, ← List.nil_append (c :: cs), trimRight_append hblank]
    rfl
  rw [normalizeDate?, htrim, Date.read?_eq_none h]
  rfl

theorem isStrictDate_eq_false {s : String} {c : Char} {cs : List Char} (hs : s.toList = c :: cs)
    (h : isDecimalDigit c = false) : isStrictDate s = false := by
  unfold isStrictDate
  split
  · rename_i heq
    rw [hs] at heq
    obtain ⟨rfl, -⟩ := List.cons.inj heq
    simp only [List.all_cons, h, Bool.false_and]
  · rfl

namespace Date

variable {a b d : Date}

/-- The year can be written with four digits. -/
def FourDigit (d : Date) : Prop := 0 ≤ d.year ∧ d.year ≤ 9999

/-- The sign in front of any other year. -/
theorem toList_iso_sign (h : ¬d.FourDigit) :
    ∃ c cs, d.iso.toList = c :: cs ∧ (c = '-' ∨ c = '+') := by
  have hyear : ∃ c cs, (yearText d.year).toList = c :: cs ∧ (c = '-' ∨ c = '+') := by
    unfold yearText
    split
    · exact ⟨'-', _, String.toList_append, .inl rfl⟩
    split
    · exact ⟨'+', _, String.toList_append, .inr rfl⟩
    · exact absurd ⟨by omega, by omega⟩ h
  obtain ⟨c, cs, hcs, hsign⟩ := hyear
  refine ⟨c, cs ++ ("-" ++ padZeros 2 d.month ++ "-" ++ padZeros 2 d.day).toList, ?_, hsign⟩
  simp only [iso, String.toList_append, hcs, List.cons_append, List.append_assoc]

/-! ## The years 0 to 9999 -/

/-- How a date of the years 0 to 9999 is written. -/
def chars (d : Date) : List Char :=
  lastDigits 4 d.year.natAbs ++ '-' :: (lastDigits 2 d.month ++ '-' :: lastDigits 2 d.day)

theorem isReal.month_lt (h : d.isReal = true) : d.month < 10 ^ 2 := by
  obtain ⟨-, hm, -, -⟩ := isReal_iff.1 h
  omega

theorem isReal.day_lt (h : d.isReal = true) : d.day < 10 ^ 2 := by
  obtain ⟨-, -, -, hd⟩ := isReal_iff.1 h
  have hle := (daysInMonth_bounds d.year d.month).2
  omega

theorem FourDigit.year_lt (h : d.FourDigit) : d.year.natAbs < 10 ^ 4 := by
  obtain ⟨h0, h1⟩ := h
  omega

/-- **A date of the years 0 to 9999 is written in ten characters.** -/
theorem toList_iso (h : d.isReal = true) (hfour : d.FourDigit) : d.iso.toList = d.chars := by
  have hyear : yearText d.year = padZeros 4 d.year.natAbs := by
    unfold yearText
    rw [if_neg (by have := hfour.1; omega), if_neg (by have := hfour.2; omega)]
    exact String.empty_append
  simp only [iso, hyear, String.toList_append, toList_padZeros (by decide) hfour.year_lt,
    toList_padZeros (by decide) (isReal.month_lt h), toList_padZeros (by decide) (isReal.day_lt h),
    chars]
  simp

theorem shortNumber?_lastDigits {n : Nat} (h : n < 10 ^ 2) (rest : List Char) :
    shortNumber? (lastDigits 2 n ++ rest) = some (n, rest) := by
  have hvalue : digitsValue (lastDigits 2 n) = n := digitsValue_lastDigits h
  simp only [lastDigits, List.nil_append, List.singleton_append] at hvalue
  simp only [lastDigits, List.nil_append, List.cons_append, shortNumber?, isDigit_digitChar,
    if_true, hvalue]

theorem read?_chars (h : d.isReal = true) (hfour : d.FourDigit) : read? d.chars = some d := by
  have hvalue : digitsValue (lastDigits 4 d.year.natAbs) = d.year.natAbs :=
    digitsValue_lastDigits hfour.year_lt
  have hyear : (d.year.natAbs : Int) = d.year := Int.natAbs_of_nonneg hfour.1
  have hmonth := shortNumber?_lastDigits (isReal.month_lt h) ('-' :: lastDigits 2 d.day)
  have hday := shortNumber?_lastDigits (isReal.day_lt h) []
  rw [List.append_nil] at hday
  rw [chars]
  simp only [lastDigits, List.nil_append, List.cons_append] at hvalue hmonth hday ⊢
  simp [read?, isDigit_digitChar, isDateSeparator, isDateTail, hvalue, hyear, hmonth, hday, h]

theorem solid_chars (d : Date) : Solid d.chars := by
  have hdigits (width n : Nat) : Solid (lastDigits width n) := by
    intro c hc
    obtain ⟨k, hk, rfl⟩ := exists_of_mem_lastDigits hc
    exact isBlank_digitChar k hk
  intro c hc
  simp only [chars, List.mem_append, List.mem_cons] at hc
  rcases hc with hc | rfl | hc | rfl | hc
  · exact hdigits _ _ c hc
  · decide
  · exact hdigits _ _ c hc
  · decide
  · exact hdigits _ _ c hc

/-! ## Strict dates -/

variable (h : d.isReal = true)

include h

/-- **The dates of the years 0 to 9999 are those that are strict when written.** -/
theorem isStrictDate_iso : isStrictDate d.iso = true ↔ d.FourDigit := by
  refine ⟨fun hstrict => by_contra fun hfour => ?_, fun hfour => ?_⟩
  · obtain ⟨c, cs, hcs, hsign⟩ := toList_iso_sign hfour
    have hdigit : isDecimalDigit c = false := by rcases hsign with rfl | rfl <;> decide
    rw [isStrictDate_eq_false hcs hdigit] at hstrict
    cases hstrict
  · rw [isStrictDate, toList_iso h hfour, chars]
    simp [lastDigits, isDecimalDigit_digitChar]

/-- **The dates of the years 0 to 9999 are those that are read back.** -/
theorem normalizeDate?_iso : normalizeDate? d.iso = some d.iso ↔ d.FourDigit := by
  refine ⟨fun hread => by_contra fun hfour => ?_, fun hfour => ?_⟩
  · obtain ⟨c, cs, hcs, hsign⟩ := toList_iso_sign hfour
    have hblank : isBlank c = false := by rcases hsign with rfl | rfl <;> decide
    have hdigit : isDigit c = false := by rcases hsign with rfl | rfl <;> decide
    rw [normalizeDate?_eq_none hcs hblank hdigit] at hread
    cases hread
  · rw [normalizeDate?, toList_iso h hfour, d.solid_chars.trim_eq, read?_chars h hfour]
    rfl

end Date

/-! ## The order of written dates -/

/-- Texts are in the order of their fronts. -/
theorem lt_of_take_lt {u v : List Char} {k : Nat} (h : u.take k < v.take k) : u < v := by
  induction k generalizing u v with
  | zero => simp at h
  | succ k ih =>
    cases v with
    | nil => simp at h
    | cons d v =>
      cases u with
      | nil => exact List.nil_lt_cons d v
      | cons c u =>
        rw [List.take_succ_cons, List.take_succ_cons, List.cons_lt_cons_iff] at h
        rw [List.cons_lt_cons_iff]
        exact h.imp_right fun h => ⟨h.1, ih h.2⟩

/-- **The texts of the years 0 to 9999 are in the order of the days.** -/
theorem Date.iso_lt_iff {a b : Date} (ha : a.isReal = true) (hb : b.isReal = true)
    (hfa : a.FourDigit) (hfb : b.FourDigit) : a.iso < b.iso ↔ a.Before b := by
  have hyear : a.year.natAbs < b.year.natAbs ↔ a.year < b.year := by
    have := hfa.1
    have := hfb.1
    omega
  have hyear' : a.year.natAbs = b.year.natAbs ↔ a.year = b.year := by
    have := hfa.1
    have := hfb.1
    omega
  have hdash : ¬ '-' < '-' := by decide
  -- year, month and day are as wide in both texts, so they are compared one after the other
  rw [String.lt_iff_toList_lt, toList_iso ha hfa, toList_iso hb hfb, chars, chars,
    append_lt_append_iff (by simp), lastDigits_lt_iff hfa.year_lt hfb.year_lt,
    lastDigits_inj hfa.year_lt hfb.year_lt, hyear, hyear', List.cons_lt_cons_iff,
    append_lt_append_iff (by simp), lastDigits_lt_iff (isReal.month_lt ha) (isReal.month_lt hb),
    lastDigits_inj (isReal.month_lt ha) (isReal.month_lt hb), List.cons_lt_cons_iff,
    lastDigits_lt_iff (isReal.day_lt ha) (isReal.day_lt hb)]
  simp only [hdash, false_or, true_and, Before]

end Tabular
