import Mathlib
import Tabular.Proofs.Calendar.Written

/-!
# Dates as they are spelled

A date can be spelled in many ways: month and day have one or two digits, any of three separators
stands between the numbers, and a time may follow. The written form is one of these spellings.

* `Date.Spells` says which texts spell which date.
* `Date.read?_eq_some_iff`: **a date is read exactly if the text spells it.** So a text spells one
  date at most (`Date.Spells.unique`).
* `Date.Spells.fourDigit`: only dates of the years 0 to 9999 are spelled.
* `normalizeDate?_spells`: **normalising gives the written form of the date that a text spells**,
  leaves it alone after that, and keeps the order of the days.
-/

namespace Tabular

variable {c : Char} {cs ds rest : List Char}

namespace Date

variable {d e : Date}

/-! ## Spellings -/

/-- Digits, at least `least` and at most `most` of them, that stand for a number. -/
structure Figures (least most : Nat) (ds : List Char) (n : Int) : Prop where
  digits : ∀ c ∈ ds, isDigit c = true
  least_le : least ≤ ds.length
  le_most : ds.length ≤ most
  value : n = digitsValue ds

/-- What may stand behind a date: nothing, or a space or a `T` and more text on the same line. -/
def Behind (cs : List Char) : Prop :=
  cs = [] ∨ ∃ c rest, cs = c :: rest ∧ (c = ' ' ∨ c = 'T') ∧ '\n' ∉ rest

/-- The text spells a day of the calendar: four digits for the year, one or two for the month and
for the day, separators between them, and behind them what may stand there. -/
structure Spells (cs : List Char) (d : Date) : Prop where
  real : d.isReal = true
  shape : ∃ year s month t day rest,
    cs = year ++ s :: (month ++ t :: (day ++ rest)) ∧
      s ∈ ['-', '/', '.'] ∧ t ∈ ['-', '/', '.'] ∧
      Figures 4 4 year d.year ∧ Figures 1 2 month d.month ∧ Figures 1 2 day d.day ∧ Behind rest

theorem isDateSeparator_iff : isDateSeparator c = true ↔ c ∈ ['-', '/', '.'] := by
  simp [isDateSeparator, or_assoc]

theorem isDigit_of_separator (h : c ∈ ['-', '/', '.']) : isDigit c = false := by
  simp only [List.mem_cons, List.not_mem_nil, or_false] at h
  rcases h with rfl | rfl | rfl <;> decide

theorem isDateTail_iff : isDateTail cs = true ↔ Behind cs := by
  unfold isDateTail Behind
  split
  · simp
  · simp

theorem Behind.isDigit_head (h : Behind rest) : ∀ c ∈ rest.head?, isDigit c = false := by
  rcases h with rfl | ⟨c, rest, rfl, rfl | rfl, -⟩
  · simp
  · simp; decide
  · simp; decide

/-! ## Reading -/

/-- What is read as a short number is one or two digits. -/
theorem shortNumber?_spec {n : Nat} (h : shortNumber? cs = some (n, rest)) :
    ∃ ds, cs = ds ++ rest ∧ Figures 1 2 ds n := by
  unfold shortNumber? at h
  split at h
  · rename_i c d more
    split at h
    · rename_i hc
      split at h
      · rename_i hd
        cases h
        exact ⟨[c, d], rfl, by simp [hc, hd], by simp, by simp, rfl⟩
      · cases h
        exact ⟨[c], rfl, by simp [hc], by simp, by simp, by simp [digitsValue]⟩
    · cases h
  · rename_i c
    split at h
    · rename_i hc
      cases h
      exact ⟨[c], rfl, by simp [hc], by simp, by simp, by simp [digitsValue]⟩
    · cases h
  · cases h

/-- One or two digits are read as a short number, if no digit follows. -/
theorem shortNumber?_append {n : Nat} (h : Figures 1 2 ds n)
    (hrest : ∀ c ∈ rest.head?, isDigit c = false) : shortNumber? (ds ++ rest) = some (n, rest) := by
  obtain ⟨hdigits, hleast, hmost, hvalue⟩ := h
  rw [Nat.cast_inj] at hvalue
  match ds with
  | [] => simp at hleast
  | [c] =>
    have hc : isDigit c = true := hdigits c (by simp)
    have hn : n = digitValue c := by simpa [digitsValue] using hvalue
    cases rest with
    | nil => simp [shortNumber?, hc, hn]
    | cons d rest => simp [shortNumber?, hc, hn, hrest d rfl]
  | [c, d] =>
    have hc : isDigit c = true := hdigits c (by simp)
    have hd : isDigit d = true := hdigits d (by simp)
    simp [shortNumber?, hc, hd, hvalue]
  | _ :: _ :: _ :: _ => simp at hmost

theorem spells_of_read? (h : read? cs = some d) : Spells cs d := by
  unfold read? at h
  split at h
  · rename_i y₁ y₂ y₃ y₄ s more
    split at h
    · rename_i hfront
      rw [Bool.and_eq_true, List.all_eq_true] at hfront
      obtain ⟨⟨month, more⟩, hmonth, h⟩ := Option.bind_eq_some_iff.1 h
      dsimp only at h
      split at h
      · rename_i t more
        split at h
        · rename_i ht
          obtain ⟨⟨day, rest⟩, hday, h⟩ := Option.bind_eq_some_iff.1 h
          dsimp only at h
          split at h
          · rename_i htail
            rw [Bool.and_eq_true] at htail
            cases h
            obtain ⟨m, rfl, hm⟩ := shortNumber?_spec hmonth
            obtain ⟨k, rfl, hk⟩ := shortNumber?_spec hday
            have hyear : Figures 4 4 [y₁, y₂, y₃, y₄] (digitsValue [y₁, y₂, y₃, y₄]) :=
              ⟨hfront.1, le_rfl, le_rfl, rfl⟩
            exact ⟨htail.2, _, s, m, t, k, rest, rfl, isDateSeparator_iff.1 hfront.2,
              isDateSeparator_iff.1 ht, hyear, hm, hk, isDateTail_iff.1 htail.1⟩
          · cases h
        · cases h
      · cases h
    · cases h
  · cases h

theorem read?_of_spells (h : Spells cs d) : read? cs = some d := by
  obtain ⟨hreal, year, s, month, t, day, rest, rfl, hs, ht, hyear, hmonth, hday, hrest⟩ := h
  obtain ⟨y₁, y₂, y₃, y₄, rfl⟩ : ∃ y₁ y₂ y₃ y₄, year = [y₁, y₂, y₃, y₄] :=
    List.length_eq_four.1 (le_antisymm hyear.le_most hyear.least_le)
  -- neither a separator nor what stands behind a date goes on with a digit
  have hm : shortNumber? (month ++ t :: (day ++ rest)) = some (d.month, t :: (day ++ rest)) :=
    shortNumber?_append hmonth (by simpa using isDigit_of_separator ht)
  have hd : shortNumber? (day ++ rest) = some (d.day, rest) :=
    shortNumber?_append hday hrest.isDigit_head
  have hfront : [y₁, y₂, y₃, y₄].all isDigit = true := List.all_eq_true.2 hyear.digits
  have hdate : (⟨digitsValue [y₁, y₂, y₃, y₄], d.month, d.day⟩ : Date) = d := by
    rw [← hyear.value]
  simp [read?, hfront, isDateSeparator_iff.2 hs, isDateSeparator_iff.2 ht, hm, hd, hdate,
    isDateTail_iff.2 hrest, hreal]

/-- **A date is read exactly if the text spells it.** -/
theorem read?_eq_some_iff : read? cs = some d ↔ Spells cs d := ⟨spells_of_read?, read?_of_spells⟩

/-- A text spells one date at most. -/
theorem Spells.unique (hd : Spells cs d) (he : Spells cs e) : d = e := by
  have hread : some d = some e := (read?_of_spells hd).symm.trans (read?_of_spells he)
  exact Option.some.inj hread

/-- **Only dates of the years 0 to 9999 are spelled.** -/
theorem Spells.fourDigit (h : Spells cs d) : d.FourDigit := by
  obtain ⟨-, year, s, month, t, day, rest, -, -, -, hyear, -⟩ := h
  have hlt : digitsValue year < 10 ^ year.length := digitsValue_lt hyear.digits
  rw [le_antisymm hyear.le_most hyear.least_le] at hlt
  have hvalue := hyear.value
  constructor <;> omega

end Date

/-! ## Normalising -/

variable {s u : String} {d e : Date}

/-- The text of a spelled date. -/
theorem Date.Spells.iso_eq_iff (h : Date.Spells cs d) : d.iso = u ↔ u.toList = d.chars := by
  rw [← Date.toList_iso h.real h.fourDigit, String.toList_inj, eq_comm]

theorem normalizeDate?_eq_some_iff :
    normalizeDate? s = some u ↔ ∃ d, Date.Spells (trim s.toList) d ∧ d.iso = u := by
  simp only [normalizeDate?, Option.map_eq_some_iff, Date.read?_eq_some_iff]

/-- What a text is normalised to is the written form of any date that it spells. -/
theorem eq_iso_of_normalizeDate? (h : normalizeDate? s = some u)
    (hd : Date.Spells (trim s.toList) d) : u = d.iso := by
  obtain ⟨e, he, rfl⟩ := normalizeDate?_eq_some_iff.1 h
  rw [he.unique hd]

/-- Written forms tell the dates apart that are spelled. -/
theorem Date.Spells.iso_inj {ds : List Char} (hd : Date.Spells cs d) (he : Date.Spells ds e) :
    d.iso = e.iso ↔ d = e := by
  refine ⟨fun h => ?_, congrArg _⟩
  have hchars : d.chars = e.chars := by
    rw [← hd.iso_eq_iff.1 rfl, h, he.iso_eq_iff.1 rfl]
  have hread : some d = some e := by
    rw [← Date.read?_chars hd.real hd.fourDigit, hchars, Date.read?_chars he.real he.fourDigit]
  exact Option.some.inj hread

/-- **Normalising gives the written form of the date that a text spells**, blanks around it left
aside, and nothing for any other text; the years are 0 to 9999. The written form is strict and is
left as it is; written forms are in the order of the days, and are the same for the same day
only. -/
theorem normalizeDate?_spells (s t : String) :
    (∀ u, normalizeDate? s = some u ↔
      ∃! d, Date.Spells (trim s.toList) d ∧ u.toList = d.chars) ∧
    (∀ d, Date.Spells (trim s.toList) d → d.FourDigit) ∧
    (∀ u, normalizeDate? s = some u → isStrictDate u = true ∧ normalizeDate? u = some u) ∧
    ∀ u v d e, normalizeDate? s = some u → normalizeDate? t = some v →
      Date.Spells (trim s.toList) d → Date.Spells (trim t.toList) e →
      (u < v ↔ d.Before e) ∧ (u = v ↔ d = e) := by
  refine ⟨fun u => ?_, fun d hd => hd.fourDigit, fun u hu => ?_, fun u v d e hu hv hd he => ?_⟩
  · rw [normalizeDate?_eq_some_iff]
    constructor
    · rintro ⟨d, hd, hiso⟩
      exact ⟨d, ⟨hd, hd.iso_eq_iff.1 hiso⟩, fun e he => he.1.unique hd⟩
    · rintro ⟨d, ⟨hd, hchars⟩, -⟩
      exact ⟨d, hd, hd.iso_eq_iff.2 hchars⟩
  · obtain ⟨d, hd, rfl⟩ := normalizeDate?_eq_some_iff.1 hu
    exact ⟨(Date.isStrictDate_iso hd.real).2 hd.fourDigit,
      (Date.normalizeDate?_iso hd.real).2 hd.fourDigit⟩
  · rw [eq_iso_of_normalizeDate? hu hd, eq_iso_of_normalizeDate? hv he]
    exact ⟨Date.iso_lt_iff hd.real he.real hd.fourDigit he.fourDigit, hd.iso_inj he⟩

/-- A date with a time behind it and one with slashes are normalised, left alone after that, and
written in their order. -/
theorem normalizeDate?_spells_loose :
    Date.Spells (trim " 2025-3-1 0:00".toList) ⟨2025, 3, 1⟩ ∧
      Date.Spells (trim "2025/12/31".toList) ⟨2025, 12, 31⟩ ∧
      normalizeDate? " 2025-3-1 0:00" = some "2025-03-01" ∧
      normalizeDate? "2025/12/31" = some "2025-12-31" ∧
      isStrictDate "2025-03-01" = true ∧ normalizeDate? "2025-03-01" = some "2025-03-01" ∧
      "2025-03-01" < "2025-12-31" := by
  have hd : Date.Spells (trim " 2025-3-1 0:00".toList) ⟨2025, 3, 1⟩ :=
    Date.read?_eq_some_iff.1 (by decide +kernel)
  have he : Date.Spells (trim "2025/12/31".toList) ⟨2025, 12, 31⟩ :=
    Date.read?_eq_some_iff.1 (by decide +kernel)
  have hu : normalizeDate? " 2025-3-1 0:00" = some "2025-03-01" := by decide +kernel
  have hv : normalizeDate? "2025/12/31" = some "2025-12-31" := by decide +kernel
  obtain ⟨-, -, hkept, horder⟩ := normalizeDate?_spells " 2025-3-1 0:00" "2025/12/31"
  obtain ⟨hstrict, hagain⟩ := hkept _ hu
  exact ⟨hd, he, hu, hv, hstrict, hagain,
    (horder _ _ _ _ hu hv hd he).1.2 (.inr ⟨rfl, .inl (by decide)⟩)⟩

end Tabular
