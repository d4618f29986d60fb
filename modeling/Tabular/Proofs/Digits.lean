import Mathlib
import Tabular.Decimal.Numeral
import Tabular.Text.Letter
import Tabular.Text.Pad

/-!
# Numbers of a fixed width

A number that is written with zeros in front is as wide as it was asked to be, unless it is longer.
Numbers of the same width are ordered as texts as they are as numbers.

* `lastDigits width n` are the last digits of a number.
* `toList_padZeros`: **a padded number is written with just these digits**, if they are enough.
* `digitsValue_lt`: a run of digits stands for a number of that many digits.
* `digitsValue_lastDigits`: the number is read back.
* `lastDigits_lt_iff`: the order of the texts is that of the numbers.
* `append_lt_append_iff`: texts with fronts of the same length are compared in front first.
-/

namespace Tabular

variable {width n a b : Nat} {c : Char}

/-! ## Digits -/

/-- A digit is read as what it stands for, and is a decimal digit in either sense. -/
theorem digitChar_spec : ∀ k < 10, isDigit (Nat.digitChar k) = true ∧
    isDecimalDigit (Nat.digitChar k) = true ∧ digitValue (Nat.digitChar k) = k := by
  decide

theorem digitChar_lt_iff : ∀ a < 10, ∀ b < 10, Nat.digitChar a < Nat.digitChar b ↔ a < b := by
  decide

theorem digitsValue_concat (ds : List Char) (c : Char) :
    digitsValue (ds ++ [c]) = 10 * digitsValue ds + digitValue c := by
  simp only [digitsValue, List.foldl_append, List.foldl_cons, List.foldl_nil]

theorem digitValue_lt (h : isDigit c = true) : digitValue c < 10 := by
  simp only [isDigit, Bool.and_eq_true, decide_eq_true_eq] at h
  have hle : c.toNat ≤ '9'.toNat := h.2
  have hnine : '9'.toNat = '0'.toNat + 9 := rfl
  unfold digitValue
  omega

/-- The count of its digits bounds a number. -/
theorem digitsValue_lt {ds : List Char} (h : ∀ c ∈ ds, isDigit c = true) :
    digitsValue ds < 10 ^ ds.length := by
  induction ds using List.reverseRecOn with
  | nil => decide
  | append_singleton ds c ih =>
    have hc : digitValue c < 10 := digitValue_lt (h c (by simp))
    have hds : digitsValue ds < 10 ^ ds.length := ih fun d hd => h d (by simp [hd])
    rw [digitsValue_concat, List.length_append, List.length_singleton, pow_succ]
    omega

/-! ## The last digits -/

/-- The last digits of a number, with zeros in front if it has fewer. -/
def lastDigits : Nat → Nat → List Char
  | 0, _ => []
  | width + 1, n => lastDigits width (n / 10) ++ [Nat.digitChar (n % 10)]

@[simp] theorem length_lastDigits (width n : Nat) : (lastDigits width n).length = width := by
  induction width generalizing n with
  | zero => rfl
  | succ width ih => rw [lastDigits, List.length_append, ih, List.length_singleton]

theorem exists_of_mem_lastDigits (h : c ∈ lastDigits width n) : ∃ k < 10, c = Nat.digitChar k := by
  induction width generalizing n with
  | zero => cases h
  | succ width ih =>
    rw [lastDigits, List.mem_append, List.mem_singleton] at h
    rcases h with h | rfl
    · exact ih h
    · exact ⟨n % 10, Nat.mod_lt _ (by decide), rfl⟩

/-- The number is read back from its digits. -/
theorem digitsValue_lastDigits (h : n < 10 ^ width) : digitsValue (lastDigits width n) = n := by
  induction width generalizing n with
  | zero =>
    rw [pow_zero, Nat.lt_one_iff] at h
    exact h.symm
  | succ width ih =>
    rw [pow_succ] at h
    rw [lastDigits, digitsValue_concat, ih (by omega),
      (digitChar_spec _ (Nat.mod_lt _ (by decide))).2.2]
    omega

theorem lastDigits_inj (ha : a < 10 ^ width) (hb : b < 10 ^ width) :
    lastDigits width a = lastDigits width b ↔ a = b := by
  refine ⟨fun h => ?_, congrArg _⟩
  rw [← digitsValue_lastDigits ha, h, digitsValue_lastDigits hb]

theorem toDigits_padded (hwidth : 1 ≤ width) (h : n < 10 ^ width) :
    List.replicate (width - (Nat.toDigits 10 n).length) '0' ++ Nat.toDigits 10 n =
      lastDigits width n := by
  induction width, hwidth using Nat.le_induction generalizing n with
  | base =>
    rw [pow_one] at h
    rw [Nat.toDigits_of_lt_base h, lastDigits, Nat.mod_eq_of_lt h]
    rfl
  | succ width hwidth ih =>
    rw [pow_succ] at h
    rw [lastDigits, ← ih (by omega), Nat.toDigits_eq_if (by decide)]
    split
    · -- one digit is left, and the zero in front of it is one of the padding
      rename_i hn
      have hzero : n / 10 = 0 := by omega
      rw [hzero, Nat.mod_eq_of_lt hn, Nat.toDigits_of_lt_base (by decide : 0 < 10),
        List.length_singleton, List.length_singleton, Nat.add_sub_cancel]
      show _ = List.replicate (width - 1) '0' ++ ['0'] ++ _
      rw [← List.replicate_succ', Nat.sub_add_cancel hwidth]
    · rw [List.length_append, List.length_singleton, Nat.add_sub_add_right, List.append_assoc]

/-- **A padded number is written with just the digits that were asked for**, if they are enough. -/
theorem toList_padZeros (hwidth : 1 ≤ width) (h : n < 10 ^ width) :
    (padZeros width n).toList = lastDigits width n := by
  unfold padZeros
  rw [String.toList_ofList, toDigits_padded hwidth h]

/-! ## The order of texts -/

/-- Texts with fronts of the same length are compared in front first. -/
theorem append_lt_append_iff {u v : List Char} (h : u.length = v.length) (s t : List Char) :
    u ++ s < v ++ t ↔ u < v ∨ u = v ∧ s < t := by
  induction u generalizing v with
  | nil =>
    rw [List.length_nil, eq_comm, List.length_eq_zero_iff] at h
    subst h
    simp
  | cons c u ih =>
    cases v with
    | nil => cases h
    | cons d v =>
      rw [List.cons_append, List.cons_append, List.cons_lt_cons_iff, List.cons_lt_cons_iff,
        ih (Nat.succ.inj h), List.cons.injEq]
      tauto

/-- **The order of the texts is that of the numbers.** -/
theorem lastDigits_lt_iff (ha : a < 10 ^ width) (hb : b < 10 ^ width) :
    lastDigits width a < lastDigits width b ↔ a < b := by
  induction width generalizing a b with
  | zero =>
    rw [pow_zero, Nat.lt_one_iff] at ha hb
    simp [lastDigits, ha, hb]
  | succ width ih =>
    rw [pow_succ] at ha hb
    have hlast : [Nat.digitChar (a % 10)] < [Nat.digitChar (b % 10)] ↔ a % 10 < b % 10 := by
      rw [List.cons_lt_cons_iff, digitChar_lt_iff _ (Nat.mod_lt _ (by decide)) _
        (Nat.mod_lt _ (by decide))]
      simp
    rw [lastDigits, lastDigits, append_lt_append_iff (by simp), ih (by omega) (by omega),
      lastDigits_inj (by omega) (by omega), hlast]
    omega

end Tabular
