import Mathlib.Data.List.Induction
import Mathlib.Data.List.Nodup
import Tabular.Header

/-!
# Free names

The choices for a name are all different, so striking out those that are taken never brings
one of them back.

* `candidate_injective`: no choice comes twice.
* `freeFrom_spec`: the search stops at the first choice that is not taken.
* `freeName_not_mem`: **the name that is found is free.**
* `length_cleanHeaders` and `nodup_cleanHeaders`: every header gets a name, and no name comes
  twice.
-/

namespace Tabular

theorem toList_candidate_succ (base : String) (k : Nat) :
    (candidate base (k + 1)).toList = base.toList ++ '_' :: (toString (k + 1)).toList := by
  simp [candidate]

/-- No choice for a name comes twice. -/
theorem candidate_injective {base : String} {j k : Nat}
    (h : candidate base j = candidate base k) : j = k := by
  have hl := congrArg String.toList h
  cases j with
  | zero =>
    cases k with
    | zero => rfl
    | succ k =>
      rw [toList_candidate_succ] at hl
      simp [candidate] at hl
  | succ j =>
    cases k with
    | zero =>
      rw [toList_candidate_succ] at hl
      simp [candidate] at hl
    | succ k =>
      rw [toList_candidate_succ, toList_candidate_succ, List.append_cancel_left_eq,
        List.cons.injEq] at hl
      have hv := congrArg (Nat.ofDigitChars 10 · 0) hl.2
      simpa [Nat.toList_repr, Nat.ofDigitChars_toDigits] using hv

/-- The search from the `k`-th choice on ends at the first one that is not taken. -/
theorem freeFrom_spec (taken : List String) (base : String) (k : Nat) :
    ∃ m, k ≤ m ∧ freeFrom taken base k = candidate base m ∧ candidate base m ∉ taken ∧
      ∀ j, k ≤ j → j < m → candidate base j ∈ taken := by
  fun_induction freeFrom taken base k with
  | case1 taken k h ih =>
    obtain ⟨m, hkm, heq, hfree, hall⟩ := ih
    refine ⟨m, by omega, heq, ?_, ?_⟩
    · -- the choice that was struck out is another one
      have hne : candidate base m ≠ candidate base k := fun he => by
        have := candidate_injective he
        omega
      rwa [List.mem_erase_of_ne hne] at hfree
    · intro j hj hjm
      rcases Nat.eq_or_lt_of_le hj with rfl | hlt
      · exact h
      · exact List.mem_of_mem_erase (hall j hlt hjm)
  | case2 taken k h => exact ⟨k, Nat.le_refl k, rfl, h, fun j h1 h2 => by omega⟩

/-- **The name that is found is free.** -/
theorem freeName_not_mem (taken : List String) (base : String) : freeName taken base ∉ taken := by
  obtain ⟨m, -, heq, hfree, -⟩ := freeFrom_spec taken base 0
  unfold freeName
  rwa [heq]

/-! ## All headers -/

/-- The last header gets a name that is free among those before it. -/
theorem cleanHeaders_concat (headers : List String) (header : String) :
    cleanHeaders (headers ++ [header]) = cleanHeaders headers ++
      [freeName (cleanHeaders headers) (headerBase ((cleanHeaders headers).length + 1) header)] := by
  unfold cleanHeaders
  rw [List.foldl_append]
  rfl

@[simp] theorem length_cleanHeaders (headers : List String) :
    (cleanHeaders headers).length = headers.length := by
  induction headers using List.reverseRecOn with
  | nil => rfl
  | append_singleton headers header ih =>
    rw [cleanHeaders_concat, List.length_append, List.length_append, ih]
    rfl

/-- **The names of columns are distinct.** -/
theorem nodup_cleanHeaders (headers : List String) : (cleanHeaders headers).Nodup := by
  induction headers using List.reverseRecOn with
  | nil => exact .nil
  | append_singleton headers header ih =>
    rw [cleanHeaders_concat, ← List.concat_eq_append]
    exact .concat (freeName_not_mem _ _) ih

end Tabular
