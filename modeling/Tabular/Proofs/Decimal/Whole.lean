import Mathlib
import Tabular.Decimal.Shortest

/-!
# Whole numbers

A whole number below `2 ^ 53` is a double exactly, and the double is written like the number: with
its digits and nothing else.

* `Normal` are the significands of full precision with an exponent in range, and `Normal.float` is
  the positive double with these parts. `Normal.roundWithAccuracy_eq` says that it is rounded to
  itself, `Normal.ofFloat_float` that its parts are read back.
* `exists_normal` and `float_ofNat`: whole numbers are such doubles.
* `Around.onGrid?_eq` and `Around.search_eq`: the search for the shortest decimal ends at the
  whole number.
* `decimal_ofNat`: **a whole number is written with its digits.**
-/

namespace Tabular

open Float.Model (Format UnpackedFloat totalExponent)
open Float.Model.UnpackedFloat (ExtendedMantissa)

variable {m n k : Nat} {q : Int}

/-! ## Normal doubles -/

/-- Zeros behind a significand are made up for by the exponent. -/
theorem totalExponent_mul (hpos : 0 < m) (k : Nat) (q : Int) :
    totalExponent (m * 2 ^ k) (q - k) = totalExponent m q := by
  have hlog : (m * 2 ^ k).log2 = m.log2 + k := by
    refine (Nat.log2_eq_iff (Nat.mul_pos hpos (Nat.two_pow_pos k)).ne').2 ⟨?_, ?_⟩
    · rw [Nat.pow_add]
      exact Nat.mul_le_mul_right _ (Nat.log2_self_le hpos.ne')
    · rw [Nat.add_right_comm, Nat.pow_add]
      exact Nat.mul_lt_mul_of_pos_right Nat.lt_log2_self (Nat.two_pow_pos k)
  unfold totalExponent
  rw [hlog]
  omega

/-- Zeros are shifted out without a trace. -/
theorem shiftRight_zeros (m k : Nat) :
    (⟨m * 2 ^ k, false, false⟩ : ExtendedMantissa) >>> k = ⟨m, false, false⟩ := by
  induction k generalizing m with
  | zero =>
    rw [Nat.pow_zero, Nat.mul_one]
    rfl
  | succ k ih =>
    have hnext : m * 2 ^ (k + 1) = m * 2 * 2 ^ k := by
      rw [Nat.pow_succ, Nat.mul_assoc, Nat.mul_comm 2]
    show ExtendedMantissa.shiftRightOne
      ((⟨m * 2 ^ (k + 1), false, false⟩ : ExtendedMantissa) >>> k) = _
    rw [hnext, ih]
    simp [ExtendedMantissa.shiftRightOne]

/-- A significand of full precision, and an exponent in the range of doubles. -/
structure Normal (m : Nat) (q : Int) : Prop where
  low : 2 ^ 52 ≤ m
  high : m < 2 ^ 53
  least : -1074 ≤ q
  greatest : q ≤ 971

namespace Normal

theorem pos (h : Normal m q) : 0 < m := Nat.lt_of_lt_of_le (by decide) h.low

theorem log2_eq (h : Normal m q) : m.log2 = 52 := (Nat.log2_eq_iff h.pos.ne').2 ⟨h.low, h.high⟩

/-- The positive double with a significand and an exponent. -/
def float (h : Normal m q) : Float := .ofModel (.pack (.finite .positive m q h.pos))

/-! ### Rounding -/

theorem targetExponent_eq (h : Normal m q) :
    Format.binary64.targetExponent (totalExponent m q) = q := by
  have hleast := h.least
  simp only [Format.targetExponent, totalExponent, h.log2_eq, Format.mantissaBits,
    Format.minExponent]
  omega

theorem shift_eq (h : Normal m q) (k : Nat) :
    UnpackedFloat.shiftToTargetExponent .binary64 (m * 2 ^ k) (q - k) .exact =
      (⟨m, false, false⟩, q) := by
  have hk : (q - (q - k)).toNat = k := by omega
  simp only [UnpackedFloat.shiftToTargetExponent, totalExponent_mul h.pos, h.targetExponent_eq,
    UnpackedFloat.shiftToExponent, hk, ExtendedMantissa.ofMantissaAndAccuracy,
    shiftRight_zeros, Int.sub_add_cancel]

/-- **A significand of full precision is rounded to itself**, without the zeros behind it. -/
theorem roundWithAccuracy_eq (h : Normal m q) (k : Nat) :
    UnpackedFloat.roundWithAccuracy .binary64 .positive (m * 2 ^ k) (q - k) .exact =
      .finite .positive m q h.pos := by
  have hagain := h.shift_eq 0
  rw [Nat.pow_zero, Nat.mul_one, Int.natCast_zero, Int.sub_zero] at hagain
  unfold UnpackedFloat.roundWithAccuracy
  rw [h.shift_eq]
  simp only [ExtendedMantissa.roundedMantissa, ExtendedMantissa.accuracy,
    UnpackedFloat.Accuracy.roundToNearestEven, hagain]
  exact dif_neg h.pos.ne'

/-! ### Words -/

/-- The fields of a normal double. -/
theorem pack_eq (h : Normal m q) :
    UnpackedFloat.pack .binary64 (.finite .positive m q h.pos) = UnpackedFloat.packComponents
      .binary64 .positive (.ofNat _ (q + 1075).toNat) (.ofNat _ m) := by
  have hbias : q + Format.binary64.exponentBias + Format.binary64.mantissaBitsWithoutImplicit =
      q + 1075 := by
    show q + 1023 + 52 = _
    omega
  have hfinite : ¬ 2 ^ Format.binary64.exponentBits ≤ (q + 1075).toNat + 1 := by
    have hgreatest := h.greatest
    show ¬ 2048 ≤ _
    omega
  simp only [UnpackedFloat.pack, hbias, if_neg hfinite, h.log2_eq]
  exact if_pos rfl

theorem toNat_toBits (h : Normal m q) :
    h.float.toBits.toNat = (q + 1075).toNat * 2 ^ 52 + (m - 2 ^ 52) := by
  have ⟨hlow, hhigh, hleast, hgreatest⟩ := h
  show (UnpackedFloat.pack .binary64 (.finite .positive m q h.pos)).toNat = _
  rw [h.pack_eq]
  show (0#1 ++ BitVec.ofNat 11 (q + 1075).toNat ++ BitVec.ofNat 52 m).toNat = _
  -- the fields do not overlap, so that joining them adds them
  rw [BitVec.toNat_append, BitVec.toNat_append, BitVec.toNat_ofNat, BitVec.toNat_ofNat,
    BitVec.toNat_ofNat, Nat.shiftLeft_eq, Nat.shiftLeft_eq, Nat.zero_mod, Nat.zero_mul,
    Nat.zero_or, Nat.mul_comm, ← Nat.two_pow_add_eq_or_of_lt (Nat.mod_lt m (Nat.two_pow_pos 52))]
  omega

/-- **A normal double has the value of its parts.** -/
theorem ofFloat_float (h : Normal m q) : Binary.ofFloat h.float = .finite false m q := by
  have ⟨hlow, hhigh, hleast, hgreatest⟩ := h
  have hbit : hiddenBit = 2 ^ 52 := rfl
  have hsign : ¬ signBit ≤ (q + 1075).toNat * 2 ^ 52 + (m - 2 ^ 52) := by
    have hbit : signBit = 2 ^ 63 := rfl
    omega
  have he : ((q + 1075).toNat * 2 ^ 52 + (m - 2 ^ 52)) / hiddenBit % 2048 = (q + 1075).toNat := by
    rw [hbit]
    omega
  have hf : ((q + 1075).toNat * 2 ^ 52 + (m - 2 ^ 52)) % hiddenBit = m - 2 ^ 52 := by
    rw [hbit]
    omega
  unfold Binary.ofFloat Binary.ofBits
  rw [h.toNat_toBits]
  simp only [he, hf, hsign, decide_false]
  rw [if_neg (by omega), if_neg (by omega), Binary.finite.injEq]
  exact ⟨rfl, by omega, by omega⟩

theorem unpackSign_packComponents (e : BitVec 11) (f : BitVec 52) :
    UnpackedFloat.unpackSign (UnpackedFloat.packComponents .binary64 .positive e f) = 0#1 := by
  show (0#1 ++ e ++ f).extractLsb' 63 1 = 0#1
  rw [BitVec.extractLsb'_append_eq_of_le (by decide),
    BitVec.extractLsb'_append_eq_of_le (by decide)]
  rfl

/-- The parts of a normal double are read back from its word. -/
theorem unpack_eq (h : Normal m q) : h.float.toModel.unpack = .finite .positive m q h.pos := by
  have ⟨hlow, hhigh, hleast, hgreatest⟩ := h
  have he : (BitVec.ofNat 11 (q + 1075).toNat).toNat = (q + 1075).toNat := by
    rw [BitVec.toNat_ofNat]
    omega
  -- the exponent is none of the two that are set apart
  have hfinite : BitVec.ofNat 11 (q + 1075).toNat ≠ -1#11 := by
    intro heq
    have hmax : (-1#11).toNat = 2047 := rfl
    rw [heq, hmax] at he
    omega
  have hfull : BitVec.ofNat 11 (q + 1075).toNat ≠ 0#11 := by
    intro heq
    rw [heq, BitVec.toNat_ofNat] at he
    omega
  have hm : (1#1 ++ BitVec.ofNat 52 m).toNat = m := by
    rw [BitVec.toNat_append, BitVec.toNat_ofNat, BitVec.toNat_ofNat, Nat.shiftLeft_eq, Nat.mul_comm,
      ← Nat.two_pow_add_eq_or_of_lt (Nat.mod_lt m (Nat.two_pow_pos 52))]
    omega
  have hq : ((BitVec.ofNat 11 (q + 1075).toNat).toNat : Int) - (1023 + 52) = q := by
    rw [he]
    omega
  show UnpackedFloat.unpack .binary64 (UnpackedFloat.pack .binary64 _) = _
  rw [h.pack_eq]
  unfold UnpackedFloat.unpack
  simp only [UnpackedFloat.unpackMantissa_packComponents,
    UnpackedFloat.unpackExponent_packComponents, unpackSign_packComponents]
  rw [if_neg hfinite, if_neg hfull]
  simp only [hm]
  congr 1

/-- A double is its own product with one. -/
theorem float_mul_one (h : Normal m q) : h.float * .ofBits 0x3FF0000000000000 = h.float := by
  have hone : (Float.ofBits 0x3FF0000000000000).toModel.unpack =
      .finite .positive (2 ^ 52) (-52) (by decide) := by rfl
  show Float.ofModel (.pack (UnpackedFloat.mul .binary64 h.float.toModel.unpack
    (Float.ofBits 0x3FF0000000000000).toModel.unpack)) = _
  rw [h.unpack_eq, hone]
  exact congrArg (fun x => Float.ofModel (.pack x)) (h.roundWithAccuracy_eq 52)

end Normal

/-! ## Whole numbers as doubles -/

/-- A whole number has full precision with zeros behind it. -/
theorem exists_normal (hpos : 0 < n) (h : n < 2 ^ 53) :
    ∃ k : Nat, Normal (n * 2 ^ k) (-(k : Int)) := by
  have hlog : n.log2 ≤ 52 := Nat.lt_succ_iff.1 ((Nat.log2_lt hpos.ne').2 h)
  obtain ⟨k, hk⟩ := Nat.exists_eq_add_of_le hlog
  have hlow : 2 ^ n.log2 * 2 ^ k ≤ n * 2 ^ k :=
    Nat.mul_le_mul_right _ (Nat.log2_self_le hpos.ne')
  have hhigh : n * 2 ^ k < 2 ^ (n.log2 + 1) * 2 ^ k :=
    Nat.mul_lt_mul_of_pos_right Nat.lt_log2_self (Nat.two_pow_pos _)
  rw [← Nat.pow_add, ← hk] at hlow
  rw [← Nat.pow_add, Nat.add_right_comm, ← hk] at hhigh
  exact ⟨k, hlow, hhigh, by omega, by omega⟩

/-- **The double of a whole number.** -/
theorem float_ofNat (h : Normal (n * 2 ^ k) (-(k : Int))) (hn : n < 2 ^ 53) :
    Float.ofNat n = h.float := by
  have hpos : 0 < n := Nat.pos_of_mul_pos_right h.pos
  have hcast : n.toUInt64.toNat = n := by
    simp
    omega
  have hround : UnpackedFloat.ofUInt64 .binary64 n.toUInt64 =
      .finite .positive (n * 2 ^ k) (-(k : Int)) h.pos := by
    have hgt : compare (n : Int) 0 = .gt := Int.compare_eq_gt.2 (by omega)
    have htarget : Format.binary64.targetExponent (totalExponent n 0) = -k := by
      rw [← totalExponent_mul hpos k, Int.zero_sub, h.targetExponent_eq]
    have hexact := h.roundWithAccuracy_eq 0
    rw [Nat.pow_zero, Nat.mul_one, Int.natCast_zero, Int.sub_zero] at hexact
    simp only [UnpackedFloat.ofUInt64, UnpackedFloat.ofNat, UnpackedFloat.ofInt,
      UnpackedFloat.normalize, hcast, hgt, UnpackedFloat.round, UnpackedFloat.decreaseExponent,
      Int.toNat_natCast, htarget, Nat.shiftLeft_eq, Int.zero_sub, Int.neg_neg, hexact]
  have hfloat : n.toUInt64.toFloat = h.float := congrArg (fun x => Float.ofModel (.pack x)) hround
  -- a small number is converted as a word, and multiplied by the zeroth power of ten
  show Float.ofScientific n false 0 = _
  unfold Float.ofScientific
  rw [dif_pos ⟨hn, by decide⟩, if_neg (by decide), hfloat]
  exact h.float_mul_one

/-! ## Whole numbers as texts -/

namespace Neighbourhood

variable {v : Neighbourhood}

/-- The neighbourhood is around a whole number, and there is no other one in it. -/
structure Around (v : Neighbourhood) (n : Nat) : Prop where
  mid_eq : v.mid = n * v.scale
  low_lt : v.low < v.mid
  lt_high : v.mid < v.high
  below : v.mid < v.low + v.scale
  above : v.high < v.mid + v.scale

theorem Around.scale_pos (h : v.Around n) : 0 < v.scale := by
  have hlow := h.low_lt
  have hbelow := h.below
  omega

/-- The neighbourhood of a whole number is less than one wide to either side. -/
theorem around_whole (h : Normal (n * 2 ^ k) (-(k : Int))) :
    (Neighbourhood.of (n * 2 ^ k) (-(k : Int))).Around n := by
  have hlow := h.low
  have hup : (-(k : Int)).toNat = 0 := by omega
  have hscale : (- -(k : Int)).toNat = k := by omega
  have hk : 0 < 2 ^ k := Nat.two_pow_pos k
  have hpow (j : Nat) : Nat.pow 2 j = 2 ^ j := rfl
  simp only [Neighbourhood.of, hup, hscale, hpow, Nat.pow_zero, Nat.mul_one]
  refine ⟨by ring, ?_, ?_, ?_, ?_⟩ <;> dsimp only
  · split <;> omega
  · omega
  · split <;> omega
  · omega

/-- No other whole number is in the neighbourhood. -/
theorem Around.inside_eq (h : v.Around n) (a : Nat) : (if v.closed = true then
      decide (v.low ≤ a * v.scale) && decide (a * v.scale ≤ v.high)
    else decide (v.low < a * v.scale) && decide (a * v.scale < v.high)) = decide (a = n) := by
  obtain ⟨hmid, hlow, hhigh, hbelow, habove⟩ := h
  rw [Bool.eq_iff_iff, decide_eq_true_iff]
  -- a neighbour is a whole unit away from the middle, the ends are less than that
  rcases Nat.lt_trichotomy a n with ha | rfl | ha
  · have hle : (a + 1) * v.scale ≤ n * v.scale := Nat.mul_le_mul_right _ ha
    rw [Nat.add_mul] at hle
    split <;> rw [Bool.and_eq_true, decide_eq_true_iff, decide_eq_true_iff] <;> omega
  · rw [← hmid]
    split <;> rw [Bool.and_eq_true, decide_eq_true_iff, decide_eq_true_iff] <;> omega
  · have hle : (n + 1) * v.scale ≤ a * v.scale := Nat.mul_le_mul_right _ ha
    rw [Nat.add_mul] at hle
    split <;> rw [Bool.and_eq_true, decide_eq_true_iff, decide_eq_true_iff] <;> omega

/-- **A grid of whole numbers has one in the neighbourhood** if it has the number itself. -/
theorem Around.onGrid?_eq (h : v.Around n) (i : Nat) :
    v.onGrid? i = if 10 ^ i ∣ n then some (n / 10 ^ i) else none := by
  have hscale : 0 < v.scale := h.scale_pos
  have hi : (i : Int).toNat = i := Int.toNat_natCast i
  have hneg : (-(i : Int)).toNat = 0 := by omega
  have hpow (j : Nat) : Nat.pow 10 j = 10 ^ j := rfl
  have hunit (a : Nat) : a * (v.scale * 10 ^ i) = a * 10 ^ i * v.scale := by ring
  have hbelow : v.mid / (v.scale * 10 ^ i) = n / 10 ^ i := by
    rw [h.mid_eq, Nat.mul_comm n, Nat.mul_div_mul_left _ _ hscale]
  have habove : (n / 10 ^ i + 1) * 10 ^ i ≠ n := by
    rw [Nat.mul_comm]
    exact (Nat.lt_mul_div_succ n (Nat.pow_pos (by decide))).ne'
  unfold Neighbourhood.onGrid?
  simp only [hi, hneg, hpow, Nat.pow_zero, Nat.mul_one, hunit, h.inside_eq, hbelow, habove,
    decide_false]
  by_cases hdvd : 10 ^ i ∣ n
  · simp only [Nat.div_mul_cancel hdvd, decide_true, if_pos hdvd]
  · have hne : n / 10 ^ i * 10 ^ i ≠ n := fun heq => hdvd (Dvd.intro_left _ heq)
    simp only [hne, decide_false, if_neg hdvd]

/-- **The search ends at the whole number**, with zeros at its end left out. -/
theorem Around.search_eq (h : v.Around n) {i steps : Nat} (hi : i < steps) :
    ∃ d e : Nat, v.search steps i = ⟨d, e⟩ ∧ d * 10 ^ e = n := by
  induction steps generalizing i with
  | zero => exact absurd hi (Nat.not_lt_zero i)
  | succ steps ih =>
    unfold search
    rw [h.onGrid?_eq]
    by_cases hdvd : 10 ^ i ∣ n
    · have hn : n / 10 ^ i * 10 ^ i = n := Nat.div_mul_cancel hdvd
      simp only [if_pos hdvd]
      split
      · rename_i hlast
        refine ⟨n / 10 ^ i / 10, i + 1, rfl, ?_⟩
        rw [pow_succ', ← Nat.mul_assoc, Nat.div_mul_cancel (Nat.dvd_of_mod_eq_zero hlast), hn]
      · exact ⟨n / 10 ^ i, i, rfl, hn⟩
    · -- every number is on the grid of the units
      cases i with
      | zero => exact absurd (one_dvd n) hdvd
      | succ i =>
        have hnext : ((i + 1 : Nat) : Int) - 1 = i := by omega
        simp only [if_neg hdvd, hnext]
        exact ih (by omega)

theorem Around.magnitude_eq (h : v.Around n) (hpos : 0 < n) :
    magnitude v.mid v.scale = ((Nat.toDigits 10 n).length - 1 : Nat) := by
  have hscale : 0 < v.scale := h.scale_pos
  have hle : v.scale ≤ v.mid := by
    rw [h.mid_eq]
    exact Nat.le_mul_of_pos_left _ hpos
  have hdigits : 0 < (Nat.toDigits 10 n).length := Nat.length_toDigits_pos
  unfold magnitude digitCount
  rw [if_pos hle, h.mid_eq, Nat.mul_div_cancel _ hscale]
  omega

end Neighbourhood

/-- Powers of ten add zeros at the end. -/
theorem toDigits_mul_pow {d : Nat} (hd : 0 < d) (e : Nat) :
    Nat.toDigits 10 (d * 10 ^ e) = Nat.toDigits 10 d ++ List.replicate e '0' := by
  induction e with
  | zero => simp
  | succ e ih =>
    have hpos : 0 < d * 10 ^ e := Nat.mul_pos hd (Nat.pow_pos (by decide))
    have hlast : d * 10 ^ (e + 1) = 10 * (d * 10 ^ e) + 0 := by ring
    rw [hlast, ← Nat.toDigits_append_toDigits (by decide) hpos (by decide), ih,
      List.replicate_succ', List.append_assoc]
    rfl

theorem Scaled.text_whole {d : Nat} (hd : 0 < d) (e : Nat) :
    (⟨d, e⟩ : Scaled).text = toString (d * 10 ^ e) := by
  have htext : toString (d * 10 ^ e) = String.ofList (Nat.toDigits 10 (d * 10 ^ e)) := rfl
  unfold Scaled.text
  rw [htext, toDigits_mul_pow hd]
  simp

/-- **The shortest decimal of a whole number has its digits.** -/
theorem text_shortest (h : Normal (n * 2 ^ k) (-(k : Int))) (hpos : 0 < n) (hn : n < 10 ^ 17) :
    (shortest (n * 2 ^ k) (-(k : Int))).text = toString n := by
  have haround := Neighbourhood.around_whole h
  have hdigits : 0 < (Nat.toDigits 10 n).length := Nat.length_toDigits_pos
  have hlength : (Nat.toDigits 10 n).length ≤ 17 :=
    (Nat.length_toDigits_le_iff (by decide) (by decide)).2 hn
  have hsteps : (Nat.toDigits 10 n).length - 1 < 17 := by omega
  obtain ⟨d, e, hsearch, hvalue⟩ := haround.search_eq hsteps
  have hd : 0 < d := by
    refine Nat.pos_of_ne_zero ?_
    rintro rfl
    omega
  unfold shortest
  dsimp only
  rw [haround.magnitude_eq hpos, hsearch, Scaled.text_whole hd, hvalue]

/-- **A whole number is written with its digits.** -/
theorem decimal_ofNat (h : n < 2 ^ 53) : decimal (.ofNat n) = toString n := by
  rcases Nat.eq_zero_or_pos n with rfl | hpos
  · decide +kernel
  · obtain ⟨k, hnormal⟩ := exists_normal hpos h
    have htext := text_shortest hnormal hpos (Nat.lt_trans h (by decide))
    unfold decimal
    rw [float_ofNat hnormal h, hnormal.ofFloat_float]
    simp only [Binary.decimal, hnormal.pos.ne', Bool.false_eq_true, if_false, String.empty_append]
    exact htext

end Tabular
