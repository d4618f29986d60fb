import Mathlib
import Tabular.Proofs.Header
import Tabular.Proofs.Words

/-!
# Names for headers

Headers are named from left to right. A header asks for its own text without the blanks around it,
or for its place if it is blank, and gets the first free choice for that.

* `Neat` names are not empty and have no blanks around them. `neat_of_mem_cleanHeaders`: **the names
  of columns are neat.**
* `Takes` is the search for a name as a loop over a growing set of taken names. `takes_iff`: **it
  always ends, with the first free choice, and adds nothing else.**
* `cleanHeaders_take` and `getElem?_cleanHeaders`: what a header is called depends on the headers
  before it only.
* `cleanHeaders_eq_self`: neat and distinct names are left as they are, so cleaning headers again
  changes nothing.
-/

namespace Tabular

variable {base name : String} {headers taken : List String} {k : Nat}

/-! ## Neat names -/

/-- The name has characters, and no blanks around them. -/
structure Neat (name : String) : Prop where
  ne_empty : name ≠ ""
  trimmed_eq : trimmed name = name

/-- A text that starts and ends with characters that are not blank is neat. -/
theorem neat_of_ends {c d : Char} {cs : List Char} (hc : isBlank c = false)
    (hd : isBlank d = false) (h : name.toList = c :: (cs ++ [d])) : Neat name := by
  constructor
  · rintro rfl
    cases h
  · rw [trimmed, h, trim_eq_self hc hd, ← h, String.ofList_toList]

/-- A neat name starts with a character that is not blank. -/
theorem Neat.front (h : Neat name) : ∃ c cs, name.toList = c :: cs ∧ isBlank c = false := by
  have htrim : trim name.toList = name.toList := by
    simpa [trimmed] using congrArg String.toList h.trimmed_eq
  cases hname : name.toList with
  | nil => exact absurd (String.toList_eq_nil_iff.1 hname) h.ne_empty
  | cons c cs =>
    have hleft : trimLeft (c :: cs) = c :: cs := by
      rw [← hname, ← htrim, trimLeft_trim]
    exact ⟨c, cs, rfl, not_isBlank_of_trimLeft hleft⟩

/-- A number at the end keeps a text neat. -/
theorem neat_append_toString {c : Char} {cs : List Char} (hname : name.toList = c :: cs)
    (hc : isBlank c = false) (n : Nat) : Neat (name ++ toString n) := by
  have hne : (toString n).toList ≠ [] := by
    simp [Nat.toDigits_ne_nil]
  have hlast : isBlank ((toString n).toList.getLast hne) = false :=
    solid_toString n _ (List.getLast_mem hne)
  have hends : (name ++ toString n).toList =
      c :: ((cs ++ (toString n).toList.dropLast) ++ [(toString n).toList.getLast hne]) := by
    rw [String.toList_append, hname, List.append_assoc, List.dropLast_append_getLast,
      List.cons_append]
  exact neat_of_ends hc hlast hends

/-- Every header asks for a neat name. -/
theorem neat_headerBase (place : Nat) (header : String) : Neat (headerBase place header) := by
  unfold headerBase
  dsimp only
  split
  · have hfront : "col_".toList = 'c' :: "ol_".toList := rfl
    exact neat_append_toString hfront (by decide) place
  · rename_i hne
    refine ⟨by simpa [String.isEmpty_iff] using hne, ?_⟩
    simp [trimmed, trim_trim]

/-- All choices for a neat name are neat. -/
theorem Neat.candidate (h : Neat base) (k : Nat) : Neat (candidate base k) := by
  unfold Tabular.candidate
  split
  · exact h
  · obtain ⟨c, cs, hbase, hc⟩ := h.front
    have hfront : (base ++ "_").toList = c :: (cs ++ "_".toList) := by
      rw [String.toList_append, hbase, List.cons_append]
    exact neat_append_toString hfront hc k

theorem Neat.freeName (h : Neat base) (taken : List String) : Neat (freeName taken base) := by
  obtain ⟨k, -, hname, -⟩ := freeFrom_spec taken base 0
  unfold Tabular.freeName
  rw [hname]
  exact h.candidate k

/-- **The names of columns are neat.** -/
theorem neat_of_mem_cleanHeaders (h : name ∈ cleanHeaders headers) : Neat name := by
  induction headers using List.reverseRecOn with
  | nil => cases h
  | append_singleton headers header ih =>
    rw [cleanHeaders_concat, List.mem_append, List.mem_singleton] at h
    rcases h with h | rfl
    · exact ih h
    · exact (neat_headerBase _ header).freeName _

/-! ## Names that are kept -/

theorem freeName_eq_self (h : base ∉ taken) : freeName taken base = base := by
  unfold freeName freeFrom
  exact dif_neg h

theorem headerBase_eq {header : String} (h : trimmed header ≠ "") (place : Nat) :
    headerBase place header = trimmed header := if_neg (by simpa [String.isEmpty_iff] using h)

/-! ## The search as a loop -/

/-- **The search for a free name, as a loop over the taken names.** Each choice in turn is added to
them: one that is there already changes nothing, and the first one that is new ends the loop. -/
inductive Takes (base : String) (s : Finset String) : Nat → String → Finset String → Prop where
  | free {k : Nat} (h : candidate base k ∉ s) :
      Takes base s k (candidate base k) (insert (candidate base k) s)
  | taken {k : Nat} {name : String} {s' : Finset String} (h : candidate base k ∈ s)
      (hnext : Takes base s (k + 1) name s') : Takes base s k name s'

/-- The name is the first free choice: the base itself, or the base with the least number, from one
on, that makes it free. -/
def FirstFree (s : Finset String) (base name : String) : Prop :=
  name ∉ s ∧ (name = base ∨ base ∈ s ∧ ∃ k, 1 ≤ k ∧ name = base ++ "_" ++ toString k ∧
    ∀ j, 1 ≤ j → j < k → base ++ "_" ++ toString j ∈ s)

variable {s : Finset String} {m : Nat}

theorem candidate_of_pos (hk : 1 ≤ k) : candidate base k = base ++ "_" ++ toString k :=
  if_neg (by omega)

theorem firstFree_iff : FirstFree s base name ↔
    ∃ m, name = candidate base m ∧ candidate base m ∉ s ∧ ∀ j < m, candidate base j ∈ s := by
  constructor
  · rintro ⟨hfree, rfl | ⟨hbase, k, hk, rfl, hall⟩⟩
    · exact ⟨0, rfl, hfree, fun j hj => absurd hj (Nat.not_lt_zero j)⟩
    · rw [← candidate_of_pos hk] at hfree
      refine ⟨k, (candidate_of_pos hk).symm, hfree, fun j hj => ?_⟩
      cases j with
      | zero => exact hbase
      | succ j =>
        rw [candidate_of_pos (by omega)]
        exact hall _ (by omega) hj
  · rintro ⟨m, rfl, hfree, hall⟩
    cases m with
    | zero => exact ⟨hfree, .inl rfl⟩
    | succ m =>
      refine ⟨hfree, .inr ⟨hall 0 (by omega), m + 1, by omega, candidate_of_pos (by omega), ?_⟩⟩
      intro j hj hlt
      rw [← candidate_of_pos hj]
      exact hall j hlt

/-- The loop passes over choices that are taken, and ends at the first one that is free. -/
theorem takes_candidate (hkm : k ≤ m) (hfree : candidate base m ∉ s)
    (hall : ∀ j, k ≤ j → j < m → candidate base j ∈ s) :
    Takes base s k (candidate base m) (insert (candidate base m) s) := by
  induction hkm using Nat.decreasingInduction with
  | self => exact .free hfree
  | of_succ k hk ih => exact .taken (hall k le_rfl hk) (ih fun j hj => hall j (by omega))

theorem Takes.unique {name' : String} {t t' : Finset String} (h : Takes base s k name t)
    (h' : Takes base s k name' t') : name = name' ∧ t = t' := by
  induction h with
  | free hfree =>
    cases h' with
    | free => exact ⟨rfl, rfl⟩
    | taken htaken => exact absurd htaken hfree
  | taken htaken _ ih =>
    cases h' with
    | free hfree => exact absurd htaken hfree
    | taken _ hnext => exact ih hnext

theorem freeName_firstFree (taken : List String) (base : String) :
    FirstFree taken.toFinset base (freeName taken base) := by
  obtain ⟨m, -, hname, hfree, hall⟩ := freeFrom_spec taken base 0
  refine firstFree_iff.2 ⟨m, hname, ?_, fun j hj => ?_⟩
  · rwa [List.mem_toFinset]
  · rw [List.mem_toFinset]
    exact hall j (Nat.zero_le j) hj

theorem FirstFree.takes (h : FirstFree s base name) : Takes base s 0 name (insert name s) := by
  obtain ⟨m, rfl, hfree, hall⟩ := firstFree_iff.1 h
  exact takes_candidate (Nat.zero_le m) hfree fun j _ => hall j

/-- One name is the first free choice, and it is the one that is found. -/
theorem FirstFree.eq_freeName (h : FirstFree taken.toFinset base name) :
    name = freeName taken base :=
  (h.takes.unique (freeName_firstFree taken base).takes).1

/-- **The loop ends with the first free choice and adds just that name.** -/
theorem takes_iff : Takes base taken.toFinset 0 name s ↔
    name = freeName taken base ∧ s = insert name taken.toFinset := by
  have hends := (freeName_firstFree taken base).takes
  constructor
  · intro h
    obtain ⟨rfl, rfl⟩ := h.unique hends
    exact ⟨rfl, rfl⟩
  · rintro ⟨rfl, rfl⟩
    exact hends

/-! ## Header by header -/

/-- The headers in front get the names that they get without those behind them. -/
theorem cleanHeaders_prefix (front back : List String) :
    cleanHeaders front <+: cleanHeaders (front ++ back) := by
  induction back using List.reverseRecOn with
  | nil => rw [List.append_nil]
  | append_singleton back header ih =>
    rw [← List.append_assoc, cleanHeaders_concat]
    exact ih.trans (List.prefix_append _ _)

theorem cleanHeaders_take (headers : List String) (k : Nat) :
    cleanHeaders (headers.take k) = (cleanHeaders headers).take k := by
  have hstart := cleanHeaders_prefix (headers.take k) (headers.drop k)
  rw [List.take_append_drop, List.prefix_iff_eq_take, length_cleanHeaders,
    List.length_take] at hstart
  rw [hstart, ← length_cleanHeaders headers, ← List.take_eq_take_min]

theorem length_take_cleanHeaders (hk : k < headers.length) :
    ((cleanHeaders headers).take k).length = k := by
  rw [List.length_take, length_cleanHeaders]
  omega

/-- **A header gets the first free choice for what it asks for**, next to the names before it. -/
theorem take_succ_cleanHeaders (hk : k < headers.length) :
    (cleanHeaders headers).take (k + 1) = (cleanHeaders headers).take k ++
      [freeName ((cleanHeaders headers).take k) (headerBase (k + 1) headers[k])] := by
  rw [← cleanHeaders_take, ← cleanHeaders_take, List.take_succ_eq_append_getElem hk,
    cleanHeaders_concat, cleanHeaders_take, length_take_cleanHeaders hk]

theorem getElem?_cleanHeaders (hk : k < headers.length) : (cleanHeaders headers)[k]? =
    some (freeName ((cleanHeaders headers).take k) (headerBase (k + 1) headers[k])) := by
  have hlength := length_take_cleanHeaders hk
  rw [← List.getElem?_take_of_lt k.lt_succ_self, take_succ_cleanHeaders hk,
    List.getElem?_append_right (by omega), hlength, Nat.sub_self]
  rfl

/-- **Neat and distinct names are left as they are.** -/
theorem cleanHeaders_eq_self {names : List String} (hnodup : names.Nodup)
    (hneat : ∀ n ∈ names, Neat n) : cleanHeaders names = names := by
  induction names using List.reverseRecOn with
  | nil => rfl
  | append_singleton names name ih =>
    rw [← List.concat_eq_append, List.nodup_concat] at hnodup
    rw [List.forall_mem_append, List.forall_mem_singleton] at hneat
    obtain ⟨hneat, hname⟩ := hneat
    have hbase (place : Nat) : headerBase place name = name := by
      rw [headerBase_eq, hname.trimmed_eq]
      rw [hname.trimmed_eq]
      exact hname.ne_empty
    rw [cleanHeaders_concat, ih hnodup.2 hneat, hbase, freeName_eq_self hnodup.1]

/-- **Columns get distinct and neat names.** A header keeps its text if no header before it got that
name, the names of the headers in front do not depend on those behind them, and names that were
given are left as they are. Each name is found by the loop over the names before it; the loop always
ends, with the first free choice, and adds just that name. -/
theorem cleanHeaders_names (headers : List String) :
    ((cleanHeaders headers).length = headers.length ∧ (cleanHeaders headers).Nodup ∧
      ∀ n ∈ cleanHeaders headers, n ≠ "" ∧ trimmed n = n) ∧
    (∀ (k : Nat) (hk : k < headers.length), trimmed headers[k] ≠ "" →
      trimmed headers[k] ∉ (cleanHeaders headers).take k →
      (cleanHeaders headers)[k]? = some (trimmed headers[k])) ∧
    (∀ k, cleanHeaders (headers.take k) = (cleanHeaders headers).take k) ∧
    cleanHeaders (cleanHeaders headers) = cleanHeaders headers ∧
    (∀ (k : Nat) (hk : k < headers.length), ∃ name, (cleanHeaders headers)[k]? = some name ∧
      Takes (headerBase (k + 1) headers[k]) ((cleanHeaders headers).take k).toFinset 0 name
        ((cleanHeaders headers).take (k + 1)).toFinset) ∧
    ∀ (taken : List String) (base : String),
      FirstFree taken.toFinset base (freeName taken base) ∧
      ∀ name s, Takes base taken.toFinset 0 name s ↔
        name = freeName taken base ∧ s = insert name taken.toFinset := by
  have hneat : ∀ n ∈ cleanHeaders headers, Neat n := fun n => neat_of_mem_cleanHeaders
  refine ⟨⟨length_cleanHeaders headers, nodup_cleanHeaders headers, fun n hn => ?_⟩,
    fun k hk hne hnew => ?_, cleanHeaders_take headers,
    cleanHeaders_eq_self (nodup_cleanHeaders headers) hneat, fun k hk => ?_, fun taken base => ?_⟩
  · exact ⟨(hneat n hn).ne_empty, (hneat n hn).trimmed_eq⟩
  · rw [getElem?_cleanHeaders hk, headerBase_eq hne, freeName_eq_self hnew]
  · refine ⟨_, getElem?_cleanHeaders hk, takes_iff.2 ⟨rfl, ?_⟩⟩
    rw [take_succ_cleanHeaders hk]
    ext n
    simp [or_comm]
  · exact ⟨freeName_firstFree taken base, fun name s => takes_iff⟩

/-- Headers of which one is repeated, one has a blank in front, and one is like a name that is made
up. -/
def awkwardHeaders : List String := ["x", "x", " y", "x_1"]

theorem cleanHeaders_awkwardHeaders : cleanHeaders awkwardHeaders = ["x", "x_1", "y", "x_1_1"] := by
  have hx (place : Nat) : headerBase place "x" = "x" := rfl
  have hy : headerBase 3 " y" = "y" := by decide
  have hnumbered : headerBase 4 "x_1" = "x_1" := by decide
  have hfirst : freeName [] "x" = "x" := freeName_eq_self (by decide)
  have hsecond : FirstFree ["x"].toFinset "x" "x_1" :=
    ⟨by decide, .inr ⟨by decide, 1, le_rfl, rfl, fun j h1 h2 => absurd h1 (by omega)⟩⟩
  have hthird : freeName ["x", "x_1"] "y" = "y" := freeName_eq_self (by decide)
  have hfourth : FirstFree ["x", "x_1", "y"].toFinset "x_1" "x_1_1" :=
    ⟨by decide, .inr ⟨by decide, 1, le_rfl, rfl, fun j h1 h2 => absurd h1 (by omega)⟩⟩
  simp [cleanHeaders, awkwardHeaders, hx, hy, hnumbered, hfirst, ← hsecond.eq_freeName, hthird,
    ← hfourth.eq_freeName]

/-- The third header keeps its text, the fourth has to give way to the name of the second, and
cleaning the names again changes nothing. -/
theorem cleanHeaders_names_awkward :
    (cleanHeaders awkwardHeaders)[2]? = some "y" ∧
      (∃ name, (cleanHeaders awkwardHeaders)[3]? = some name ∧
        Takes (headerBase 4 "x_1") ["x", "x_1", "y"].toFinset 0 name
          ["x", "x_1", "y", "x_1_1"].toFinset) ∧
      cleanHeaders ["x", "x_1", "y", "x_1_1"] = ["x", "x_1", "y", "x_1_1"] := by
  have hnames := cleanHeaders_awkwardHeaders
  have hlt : 2 < awkwardHeaders.length := by decide
  have htrimmed : trimmed awkwardHeaders[2] = "y" := by
    show trimmed " y" = "y"
    decide
  have hnew : trimmed awkwardHeaders[2] ∉ (cleanHeaders awkwardHeaders).take 2 := by
    rw [htrimmed, hnames]
    decide
  obtain ⟨-, hkept, -, hagain, hloop, -⟩ := cleanHeaders_names awkwardHeaders
  have hthird := hkept 2 hlt (by rw [htrimmed]; decide) hnew
  have hfourth := hloop 3 (by decide)
  rw [htrimmed] at hthird
  rw [hnames] at hfourth hagain
  refine ⟨hthird, ?_, hagain⟩
  rw [hnames]
  exact hfourth

end Tabular
