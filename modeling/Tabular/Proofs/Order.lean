import Tabular.Profile

/-!
# The total order of doubles

The numbers of a column are sorted in the total order of doubles, which goes by their words alone.

* `totalKey_injective`: the order decides between any two different words, also between the two
  zeros and between two NaN with different payloads.
* `map_toBits_ordered`: sorted doubles have the words `inTotalOrder` of their words.
* `inTotalOrder_perm` and `ordered_perm`: **what is sorted does not depend on the order before.**
-/

namespace Tabular

variable {v w : UInt64} {ws ws' : List UInt64} {x y : Float} {xs ys : List Float}

/-! ## Words -/

theorem eq_of_toBits_eq {x y : Float} (h : x.toBits = y.toBits) : x = y := by
  obtain ⟨x, _⟩ := x
  obtain ⟨y, _⟩ := y
  cases h
  rfl

/-- Different words have different places in the total order. -/
theorem totalKey_injective (h : totalKey v = totalKey w) : v = w := by
  have hsign : signBit = 9223372036854775808 := rfl
  rw [← UInt64.toNat_inj]
  unfold totalKey at h
  rw [hsign] at h
  split at h <;> split at h <;> omega

/-- Words in their total order. -/
def inTotalOrder (ws : List UInt64) : List UInt64 :=
  ws.mergeSort fun v w => totalKey v ≤ totalKey w

theorem pairwise_inTotalOrder (ws : List UInt64) :
    (inTotalOrder ws).Pairwise fun v w => totalKey v ≤ totalKey w := by
  have trans (u v w : UInt64) : decide (totalKey u ≤ totalKey v) →
      decide (totalKey v ≤ totalKey w) → decide (totalKey u ≤ totalKey w) := by
    simp only [decide_eq_true_eq]
    exact Int.le_trans
  have total (v w : UInt64) :
      decide (totalKey v ≤ totalKey w) || decide (totalKey w ≤ totalKey v) := by
    simp only [Bool.or_eq_true, decide_eq_true_eq]
    exact Int.le_total _ _
  exact (List.pairwise_mergeSort trans total ws).imp of_decide_eq_true

/-- **Words are sorted to one list, in whatever order they were.** -/
theorem inTotalOrder_perm (h : ws.Perm ws') : inTotalOrder ws = inTotalOrder ws' := by
  have hperm : (inTotalOrder ws).Perm (inTotalOrder ws') :=
    ((List.mergeSort_perm _ _).trans h).trans (List.mergeSort_perm _ _).symm
  refine List.Perm.eq_of_pairwise ?_ (pairwise_inTotalOrder ws) (pairwise_inTotalOrder ws') hperm
  intro v w _ _ hvw hwv
  exact totalKey_injective (Int.le_antisymm hvw hwv)

/-! ## Doubles -/

/-- Doubles are sorted by their words. -/
theorem map_toBits_ordered (xs : List Float) :
    (ordered xs).map Float.toBits = inTotalOrder (xs.map Float.toBits) :=
  List.map_mergeSort fun _ _ _ _ => rfl

theorem mem_ordered : x ∈ ordered xs ↔ x ∈ xs := List.mem_mergeSort

theorem pairwise_ordered (xs : List Float) :
    (ordered xs).Pairwise fun x y => totalLe x y = true := by
  have h := pairwise_inTotalOrder (xs.map Float.toBits)
  rw [← map_toBits_ordered, List.pairwise_map] at h
  exact h.imp decide_eq_true

/-- **Doubles are sorted to one list, in whatever order they were**: of two that stand at one place
every bit is the same. -/
theorem ordered_perm (h : xs.Perm ys) : ordered xs = ordered ys := by
  have hwords : (ordered xs).map Float.toBits = (ordered ys).map Float.toBits := by
    rw [map_toBits_ordered, map_toBits_ordered]
    exact inTotalOrder_perm (h.map _)
  exact (List.map_inj_right fun _ _ => eq_of_toBits_eq).1 hwords

theorem totalLe_refl (x : Float) : totalLe x x = true := decide_eq_true (Int.le_refl _)

end Tabular
