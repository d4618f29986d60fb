import Mathlib
import Tabular.Aggregate.Bucket

/-!
# Thinned lists

A list that is too long is thinned at an even stride. The stride is at least one, so no member is
kept twice and the order stays. Places are computed in machine words, and these are even as long as
the last product of a place and a length fits in a word (`PlacesFit`).

* `evenPlace` is the place of a kept member by whole numbers of any size; `evenPlace_succ`,
  `evenPlace_strictMono` and `evenPlace_last`: it moves on by the stride or by one more, so the
  places rise strictly, and they end at the last one.
* `keptPlace_eq`: **the place that is computed is the even one if the products fit**; it is within
  the list in any case (`keptPlace_lt`).
* `getElem?_thin` and `length_thin`: **which members are kept, and how many.**
* `thin_sublist`, `head?_thin` and `getLast?_thin`: they stand in the order of the list, with its
  first and its last member among them.
* `thin_evenlySpread`: **the members that are kept are spread evenly over the whole list.**
-/

namespace Tabular

variable {α : Type} {cap n i : Nat} {items : List α}

/-! ## Even places -/

/-- The place in a list of `n` members of the `i`-th one at an even stride. -/
def evenPlace (cap n i : Nat) : Nat := i * (n - 1) / (cap - 1)

/-- From one place to the next it is the stride, or one more where the remainders add up to a
whole. -/
theorem evenPlace_succ (h2 : 2 ≤ cap) (n i : Nat) :
    evenPlace cap n (i + 1) = evenPlace cap n i + (n - 1) / (cap - 1) ∨
      evenPlace cap n (i + 1) = evenPlace cap n i + (n - 1) / (cap - 1) + 1 := by
  have hpos : 0 < cap - 1 := by omega
  have hsum : evenPlace cap n (i + 1) = (i * (n - 1) + (n - 1)) / (cap - 1) := by
    rw [evenPlace, Nat.succ_mul]
  rw [hsum, Nat.add_div hpos]
  split
  · exact .inr rfl
  · exact .inl rfl

/-- The places rise strictly if members are left out at all. -/
theorem evenPlace_strictMono (h2 : 2 ≤ cap) (h : cap ≤ n) : StrictMono (evenPlace cap n) := by
  have hstride : 0 < (n - 1) / (cap - 1) := Nat.div_pos (by omega) (by omega)
  refine strictMono_nat_of_lt_succ fun i => ?_
  obtain hnext | hnext := evenPlace_succ h2 n i <;> omega

/-- The last place is that of the last member. -/
theorem evenPlace_last (h2 : 2 ≤ cap) : evenPlace cap n (cap - 1) = n - 1 := by
  have hpos : 0 < cap - 1 := by omega
  exact Nat.mul_div_cancel_left _ hpos

/-! ## Places in machine words -/

/-- **The products of the places fit in a machine word**, if there are places to compute at all. With
a cap of up to 64 they do in all lists of up to `2 ^ 58` members. -/
def PlacesFit (cap n : Nat) : Prop := cap < n → (cap - 1) * (n - 1) < 2 ^ 64

theorem placesFit_of_le (hcap : cap ≤ 64) (hn : n ≤ 2 ^ 58) : PlacesFit cap n := by
  intro _
  calc (cap - 1) * (n - 1) ≤ 63 * 2 ^ 58 := Nat.mul_le_mul (by omega) (by omega)
    _ < 2 ^ 64 := by decide

theorem toNat_keptPlace (cap n i : Nat) : keptPlace cap n i =
    i % 2 ^ 64 * ((n - 1) % 2 ^ 64) % 2 ^ 64 / ((cap - 1) % 2 ^ 64) := by
  rw [keptPlace, UInt64.toNat_div, UInt64.toNat_mul, UInt64.toNat_ofNat', UInt64.toNat_ofNat',
    UInt64.toNat_ofNat']

/-- In a list that can be counted in machine words only the product wraps. -/
theorem keptPlace_of_lt (h : cap ≤ n) (hn : n ≤ 2 ^ 64) (hi : i < cap) :
    keptPlace cap n i = i * (n - 1) % 2 ^ 64 / (cap - 1) := by
  rw [toNat_keptPlace, Nat.mod_eq_of_lt (a := i) (by omega),
    Nat.mod_eq_of_lt (a := n - 1) (by omega), Nat.mod_eq_of_lt (a := cap - 1) (by omega)]

/-- **A place that is computed is the even one** if the products fit. -/
theorem keptPlace_eq (h2 : 2 ≤ cap) (h : cap < n) (hfit : PlacesFit cap n) (hi : i < cap) :
    keptPlace cap n i = evenPlace cap n i := by
  have hlast : 1 * (n - 1) ≤ (cap - 1) * (n - 1) := Nat.mul_le_mul_right _ (by omega)
  have hproduct : i * (n - 1) ≤ (cap - 1) * (n - 1) := Nat.mul_le_mul_right _ (by omega)
  have hword := hfit h
  rw [keptPlace_of_lt h.le (by omega) hi, Nat.mod_eq_of_lt (by omega), evenPlace]

/-- A place is within the list, since a product that wraps only gets smaller. -/
theorem keptPlace_lt (h2 : 2 ≤ cap) (h : cap ≤ n) (hi : i < cap) : keptPlace cap n i < n := by
  by_cases hn : n ≤ 2 ^ 64
  · have hle : i * (n - 1) % 2 ^ 64 ≤ (cap - 1) * (n - 1) :=
      (Nat.mod_le _ _).trans (Nat.mul_le_mul_right _ (by omega))
    have hplace : keptPlace cap n i ≤ evenPlace cap n (cap - 1) := by
      rw [keptPlace_of_lt h hn hi]
      exact Nat.div_le_div_right hle
    rw [evenPlace_last h2] at hplace
    omega
  · have hword : keptPlace cap n i < 2 ^ 64 := UInt64.toNat_lt _
    omega

@[simp] theorem keptPlace_zero : keptPlace cap n 0 = 0 := by
  simp [toNat_keptPlace]

/-! ## The members that are kept -/

/-- A list that is not too long stays as it is. -/
theorem thin_of_length_le (h : items.length ≤ cap) : thin cap items = items := by
  rw [thin, if_pos h]

/-- The members at the kept places. -/
theorem thin_eq_map (h2 : 2 ≤ cap) (h : cap < items.length) :
    thin cap items = (List.finRange cap).map fun (i : Fin cap) =>
      items.get ⟨keptPlace cap items.length i, keptPlace_lt h2 h.le i.isLt⟩ := by
  rw [thin, if_neg (by omega), if_neg (by omega), if_neg (by omega),
    ← List.map_coe_finRange_eq_range, List.filterMap_map, ← List.filterMap_eq_map]
  refine List.filterMap_congr fun i _ => ?_
  exact List.getElem?_eq_getElem (keptPlace_lt h2 h.le i.isLt)

/-- **Which members are kept.** -/
theorem getElem?_thin (h2 : 2 ≤ cap) (h : cap < items.length) (hi : i < cap) :
    (thin cap items)[i]? = items[keptPlace cap items.length i]? := by
  have hlt := keptPlace_lt h2 h.le hi
  rw [thin_eq_map h2 h, List.getElem?_map, List.getElem?_eq_getElem (by simpa using hi),
    List.getElem?_eq_getElem hlt]
  simp

theorem length_thin (h2 : 2 ≤ cap) : (thin cap items).length = min items.length cap := by
  by_cases h : items.length ≤ cap
  · rw [thin_of_length_le h]
    omega
  · rw [thin_eq_map h2 (by omega), List.length_map, List.length_finRange]
    omega

example : thin 3 ["a", "b", "c", "d", "e", "f"] = ["a", "c", "f"] := by decide

/-- What is kept are members. -/
theorem mem_of_mem_thin {x : α} (h2 : 2 ≤ cap) (hx : x ∈ thin cap items) : x ∈ items := by
  by_cases h : items.length ≤ cap
  · rwa [thin_of_length_le h] at hx
  · rw [thin_eq_map h2 (by omega)] at hx
    obtain ⟨i, -, rfl⟩ := List.mem_map.1 hx
    exact List.get_mem _ _

/-- **Members stay in their order.** -/
theorem thin_sublist (h2 : 2 ≤ cap) (hfit : PlacesFit cap items.length) :
    (thin cap items).Sublist items := by
  by_cases h : items.length ≤ cap
  · rw [thin_of_length_le h]
  · have hlong : cap < items.length := by omega
    let place (i : Fin cap) : Fin items.length :=
      ⟨keptPlace cap items.length i, keptPlace_lt h2 hlong.le i.isLt⟩
    have hplace {i j : Fin cap} (hij : i < j) : place i < place j := by
      show keptPlace cap items.length i < keptPlace cap items.length j
      rw [keptPlace_eq h2 hlong hfit i.isLt, keptPlace_eq h2 hlong hfit j.isLt]
      exact evenPlace_strictMono h2 hlong.le hij
    have hrise : ((List.finRange cap).map place).Pairwise (· < ·) :=
      List.pairwise_map.2 ((List.pairwise_lt_finRange cap).imp hplace)
    have hsub := List.map_getElem_sublist hrise
    rw [List.map_map] at hsub
    rw [thin_eq_map h2 hlong]
    exact hsub

/-- The first member is kept. -/
theorem head?_thin (h2 : 2 ≤ cap) : (thin cap items).head? = items.head? := by
  by_cases h : items.length ≤ cap
  · rw [thin_of_length_le h]
  · rw [List.head?_eq_getElem?, List.head?_eq_getElem?, getElem?_thin h2 (by omega) (by omega),
      keptPlace_zero]

/-- The last member is kept. -/
theorem getLast?_thin (h2 : 2 ≤ cap) (hfit : PlacesFit cap items.length) :
    (thin cap items).getLast? = items.getLast? := by
  by_cases h : items.length ≤ cap
  · rw [thin_of_length_le h]
  · have hlen : (thin cap items).length - 1 = cap - 1 := by
      rw [length_thin h2]
      omega
    rw [List.getLast?_eq_getElem?, List.getLast?_eq_getElem?, hlen,
      getElem?_thin h2 (by omega) (by omega), keptPlace_eq h2 (by omega) hfit (by omega),
      evenPlace_last h2]

/-! ## All places together -/

/-- The places of the members that are kept of `n`. -/
def keptPlaces (cap n : Nat) : List Nat :=
  if n ≤ cap then List.range n else (List.range cap).map (keptPlace cap n)

theorem keptPlaces_of_le (h : n ≤ cap) : keptPlaces cap n = List.range n := by
  rw [keptPlaces, if_pos h]

theorem keptPlaces_of_lt (h : cap < n) :
    keptPlaces cap n = (List.range cap).map (keptPlace cap n) := by
  rw [keptPlaces, if_neg (by omega)]

/-- Places in a list of `n` members that rise from the first one to the last one. There are at
most `cap` of them, and if that is too few for all members, the gaps between neighbours are as
even as whole numbers allow. -/
structure EvenlySpread (cap n : Nat) (places : List Nat) : Prop where
  count : places.length = min n cap
  within : ∀ p ∈ places, p < n
  rises : places.Pairwise (· < ·)
  first : places.head? = some 0
  last : places.getLast? = some (n - 1)
  gaps : cap < n → places.IsChain fun p q =>
    q = p + (n - 1) / (cap - 1) ∨ q = p + (n - 1) / (cap - 1) + 1

/-- A list that is not too long keeps all of its places. -/
theorem evenlySpread_range (h : n ≤ cap) (hn : n ≠ 0) : EvenlySpread cap n (List.range n) where
  count := by
    rw [List.length_range]
    omega
  within p hp := List.mem_range.1 hp
  rises := List.pairwise_lt_range
  first := by rw [List.head?_range, if_neg hn]
  last := by rw [List.getLast?_range, if_neg hn]
  gaps hlong := absurd h (by omega)

/-- Of a list that is too long places at an even stride are kept. -/
theorem evenlySpread_map (h2 : 2 ≤ cap) (h : cap < n) :
    EvenlySpread cap n ((List.range cap).map (evenPlace cap n)) where
  count := by
    rw [List.length_map, List.length_range]
    omega
  within p hp := by
    obtain ⟨i, hi, rfl⟩ := List.mem_map.1 hp
    have hle : evenPlace cap n i ≤ evenPlace cap n (cap - 1) :=
      (evenPlace_strictMono h2 h.le).monotone (Nat.le_sub_one_of_lt (List.mem_range.1 hi))
    rw [evenPlace_last h2] at hle
    omega
  rises := List.pairwise_map.2
    (List.pairwise_lt_range.imp fun hij => evenPlace_strictMono h2 h.le hij)
  first := by
    rw [List.head?_map, List.head?_range, if_neg (by omega), Option.map_some, evenPlace,
      Nat.zero_mul, Nat.zero_div]
  last := by
    rw [List.getLast?_map, List.getLast?_range, if_neg (by omega), Option.map_some,
      evenPlace_last h2]
  gaps _ := (List.isChain_map _).2 ((List.isChain_range _ _).2 fun i _ => evenPlace_succ h2 n i)

/-- **The places that are kept are spread evenly** if their products fit. -/
theorem evenlySpread_keptPlaces (h2 : 2 ≤ cap) (hn : n ≠ 0) (hfit : PlacesFit cap n) :
    EvenlySpread cap n (keptPlaces cap n) := by
  by_cases h : n ≤ cap
  · rw [keptPlaces_of_le h]
    exact evenlySpread_range h hn
  · have heven : (List.range cap).map (keptPlace cap n) = (List.range cap).map (evenPlace cap n) :=
      List.map_congr_left fun i hi => keptPlace_eq h2 (by omega) hfit (List.mem_range.1 hi)
    rw [keptPlaces_of_lt (by omega), heven]
    exact evenlySpread_map h2 (by omega)

/-- Where they do not fit, a place may come before the one that it should follow. -/
example : keptPlaces 3 (2 ^ 64 - 1) = [0, 2 ^ 63 - 1, 2 ^ 63 - 2] := by decide +kernel

/-- Places are within the list, whether their products fit or not. -/
theorem lt_of_mem_keptPlaces {p : Nat} (h2 : 2 ≤ cap) (hp : p ∈ keptPlaces cap n) : p < n := by
  by_cases h : n ≤ cap
  · rw [keptPlaces_of_le h] at hp
    exact List.mem_range.1 hp
  · rw [keptPlaces_of_lt (by omega)] at hp
    obtain ⟨i, hi, rfl⟩ := List.mem_map.1 hp
    exact keptPlace_lt h2 (by omega) (List.mem_range.1 hi)

/-- The members that are kept are those at the kept places, and each of these is the place of a
member. -/
theorem map_some_thin (h2 : 2 ≤ cap) :
    (thin cap items).map some = (keptPlaces cap items.length).map (items[·]?) := by
  by_cases h : items.length ≤ cap
  · -- All members are kept, and each is the one at its own place.
    rw [thin_of_length_le h, keptPlaces_of_le h]
    refine List.ext_getElem (by simp) fun i hi _ => ?_
    have hi' : i < items.length := by simpa using hi
    simp [hi']
  · have hlong : cap < items.length := by omega
    rw [thin_eq_map h2 hlong, keptPlaces_of_lt hlong, ← List.map_coe_finRange_eq_range,
      List.map_map, List.map_map, List.map_map]
    refine List.map_congr_left fun i _ => ?_
    exact (List.getElem?_eq_getElem (keptPlace_lt h2 hlong.le i.isLt)).symm

/-- **A thinned list keeps members that are spread evenly over the whole list.** They are those at
the kept places, which are within the list. As long as the products of the places fit in a machine
word, these rise strictly from the first place to the last, and if members are left out, two
neighbours are as far apart as the stride or by one more. -/
theorem thin_evenlySpread (h2 : 2 ≤ cap) (hne : items ≠ []) :
    (thin cap items).length = min items.length cap ∧
      (thin cap items).map some = (keptPlaces cap items.length).map (items[·]?) ∧
      (∀ p ∈ keptPlaces cap items.length, p < items.length) ∧
      (PlacesFit cap items.length → EvenlySpread cap items.length (keptPlaces cap items.length)) :=
  ⟨length_thin h2, map_some_thin h2, fun _ => lt_of_mem_keptPlaces h2,
    evenlySpread_keptPlaces h2 (mt List.length_eq_zero_iff.1 hne)⟩

/-- Of six members three are kept, the second after the stride and the third after one more. -/
theorem thin_evenlySpread_rangeSix :
    2 ≤ 3 ∧ List.range 6 ≠ [] ∧ PlacesFit 3 6 ∧ thin 3 (List.range 6) = [0, 2, 5] ∧
      EvenlySpread 3 6 [0, 2, 5] := by
  have h2 : 2 ≤ 3 := by decide
  have hne : List.range 6 ≠ [] := by decide
  have hfit : PlacesFit 3 6 := fun _ => by decide
  obtain ⟨-, hmembers, -, hplaces⟩ := thin_evenlySpread h2 hne
  have hkept : (thin 3 (List.range 6)).map some = [0, 2, 5].map some := hmembers
  exact ⟨h2, hne, hfit, List.map_injective_iff.2 (Option.some_injective Nat) hkept, hplaces hfit⟩

end Tabular
