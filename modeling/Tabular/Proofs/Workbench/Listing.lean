import Mathlib
import Tabular.Proofs.Decimal.Whole
import Tabular.Proofs.Layout
import Tabular.Proofs.Split
import Tabular.Proofs.Words
import Tabular.Proofs.Workbench.Frame

/-!
# Listings of observations

`list` shows rows of the active sheet under numbers that are counted from one. Its range is one
bound, or two with a slash between them.

* `Marks` says which number a bound stands for; `bound_eq_ok` and `bound_eq_error` say that bounds
  are read so.
* `Picks` says which observations a range picks, and `Spoiled` which bound spoils it;
  `picks_or_spoiled` says that one of the two is so.
* `Tabulates` says that a text has one line for every observation in it, in order, and
  `tabulates_observations` that a range is set so.
* `listTable_eq_ok`: what is listed, from what is asked for.
* `sliceTable` takes the rows of a range as a slice, which goes wrong for a slice that is not there;
  `sliceTable_eq` says that this does not happen.
* `execute_list`: **a listing shows exactly the observations that are asked for.**
-/

namespace Tabular

open Checked (safe access)

variable {total k start stop : Nat} {s t a line : String} {ks : List Nat}
variable {names args columns : List String} {rows : List Row} {sheet : Sheet} {ctx : Context}

/-! ## Bounds -/

/-- The text of a count: digits, with or without a plus in front, below the word limit. -/
def CountText (s : String) (k : Nat) : Prop :=
  ∃ ds, (s.toList = ds ∨ s.toList = '+' :: ds) ∧ ds ≠ [] ∧ (∀ c ∈ ds, isDigit c = true) ∧
    digitsValue ds = k ∧ k < wordLimit

/-- A count is read from what stands behind a plus, if there is one. -/
theorem natural?_eq (s : String) : ∃ ds,
    (s.toList = '+' :: ds ∨ s.toList = ds ∧ ∀ rest, ds ≠ '+' :: rest) ∧
    natural? s = if ds = [] ∨ (!ds.all isDigit) = true then none
      else if digitsValue ds < wordLimit then some (digitsValue ds) else none := by
  unfold natural?
  dsimp only
  split
  · rename_i rest hs
    exact ⟨rest, .inl hs, rfl⟩
  · rename_i hs
    exact ⟨s.toList, .inr ⟨rfl, fun rest h => hs rest h⟩, rfl⟩

/-- **Which texts are read as counts.** -/
theorem natural?_eq_some_iff : natural? s = some k ↔ CountText s k := by
  obtain ⟨ds, hs, hread⟩ := natural?_eq s
  rw [hread]
  constructor
  · intro h
    split at h
    · cases h
    · rename_i hds
      split at h
      · rename_i hlt
        simp only [not_or, Bool.not_eq_true', Bool.not_eq_false, List.all_eq_true] at hds
        cases h
        exact ⟨ds, hs.symm.imp_left And.left, hds.1, hds.2, rfl, hlt⟩
      · cases h
  · rintro ⟨ds', hs', hne, hdigits, rfl, hlt⟩
    obtain rfl : ds = ds' := by
      rcases hs with hs | ⟨rfl, hs⟩
      · rcases hs' with hs' | hs'
        · -- a plus is not a digit
          have hplus : isDigit '+' = true := hdigits '+' (by simp [← hs', hs])
          cases hplus
        · exact (List.cons.inj (hs.symm.trans hs')).2
      · exact hs'.resolve_right (hs ds')
    rw [if_neg (by simpa [hne] using hdigits), if_pos hlt]

/-- A count is written with digits and a plus. -/
theorem CountText.not_mem (h : CountText s k) {c : Char} (hplus : c ≠ '+')
    (hdigit : isDigit c = false) : c ∉ s.toList := by
  obtain ⟨ds, hs, -, hdigits, -⟩ := h
  have hds : c ∉ ds := by
    intro hc
    have hc := hdigits c hc
    rw [hdigit] at hc
    cases hc
  rcases hs with hs | hs
  · rwa [hs]
  · rw [hs, List.mem_cons, not_or]
    exact ⟨hplus, hds⟩

/-- **The number that a bound stands for**: the first, the last, or the one that is written. -/
inductive Marks (total : Nat) : String → Nat → Prop where
  | first {s : String} (h : s = "f" ∨ s = "F") : Marks total s 1
  | last {s : String} (h : s = "l" ∨ s = "L") : Marks total s total
  | count {s : String} {k : Nat} (h : CountText s k) : Marks total s k

/-- There is no slash in a bound. -/
theorem Marks.slash (h : Marks total s k) : '/' ∉ s.toList := by
  cases h with
  | first h => rcases h with rfl | rfl <;> decide
  | last h => rcases h with rfl | rfl <;> decide
  | count h => exact h.not_mem (by decide) (by decide)

/-- **Bounds are read as what they stand for.** -/
theorem bound_eq_ok : bound total s = .ok k ↔ Marks total s k := by
  unfold bound
  constructor
  · intro h
    split at h
    · rename_i hfirst
      cases h
      exact .first hfirst
    split at h
    · rename_i hlast
      cases h
      exact .last hlast
    split at h
    · rename_i n hn
      cases h
      exact .count (natural?_eq_some_iff.1 hn)
    · cases h
  · intro h
    cases h with
    | first h => exact if_pos h
    | last h => rw [if_neg (by rcases h with rfl | rfl <;> decide), if_pos h]
    | count h =>
      have hfirst : ¬ (s = "f" ∨ s = "F") := by
        rintro (rfl | rfl)
        · exact h.not_mem (c := 'f') (by decide) (by decide) (by decide)
        · exact h.not_mem (c := 'F') (by decide) (by decide) (by decide)
      have hlast : ¬ (s = "l" ∨ s = "L") := by
        rintro (rfl | rfl)
        · exact h.not_mem (c := 'l') (by decide) (by decide) (by decide)
        · exact h.not_mem (c := 'L') (by decide) (by decide) (by decide)
      rw [if_neg hfirst, if_neg hlast, natural?_eq_some_iff.2 h]

/-- A bound that stands for no number is refused. -/
theorem bound_eq_error (h : ∀ k, ¬ Marks total s k) :
    bound total s = .error (.invalidRange s) := by
  cases hb : bound total s with
  | ok k => exact absurd (bound_eq_ok.1 hb) (h k)
  | error e =>
    unfold bound at hb
    split at hb
    · cases hb
    split at hb
    · cases hb
    split at hb
    · cases hb
    · exact hb.symm

/-! ## Ranges and requests -/

/-- A range is cut at its first slash. -/
theorem range_slash (h : '/' ∉ a.toList) (b : String) : range total (a ++ "/" ++ b) = (do
    let i ← bound total a
    let j ← bound total b
    return (i - 1, j)) := by
  have htext : (a ++ "/" ++ b).toList = a.toList ++ '/' :: b.toList := by simp
  unfold range
  rw [htext, splitFirst?_append (beq_of_not_mem h) rfl]
  simp only [String.ofList_toList]

/-- A range without a slash is a single observation. -/
theorem range_single (h : '/' ∉ a.toList) : range total a = (do
    let i ← bound total a
    return (i - 1, i)) := by
  unfold range
  rw [splitFirst?_eq_none (beq_of_not_mem h)]

/-- Counting starts from one, and a start beyond the end leaves nothing. -/
theorem Ico_min (i stop : Nat) :
    List.Ico (min (i - 1) stop + 1) (stop + 1) = List.Ico (max i 1) (stop + 1) := by
  rcases Nat.le_total (i - 1) stop with h | h
  · have hmax : max i 1 = i - 1 + 1 := by omega
    rw [Nat.min_eq_left h, hmax]
  · have hle : stop + 1 ≤ max i 1 := by omega
    rw [Nat.min_eq_right h, List.Ico.eq_nil_of_le hle, List.Ico.self_empty]

theorem Ico_single (i total : Nat) :
    List.Ico (max i 1) (min i total + 1) = if 1 ≤ i ∧ i ≤ total then [i] else [] := by
  split
  · rename_i h
    rw [max_eq_left h.1, min_eq_left h.2, List.Ico.succ_singleton]
  · exact List.Ico.eq_nil_of_le (by omega)

/-- **The observations that a range picks out of `total`**: those between two bounds, or a single
one. -/
inductive Picks (total : Nat) : String → List Nat → Prop where
  | pair {a b : String} {i j : Nat} (ha : Marks total a i) (hb : Marks total b j) :
      Picks total (a ++ "/" ++ b) (List.Ico (max i 1) (min j total + 1))
  | single {a : String} {i : Nat} (ha : Marks total a i) :
      Picks total a (if 1 ≤ i ∧ i ≤ total then [i] else [])

/-- **The bound that spoils a range**: the first one that stands for no number. -/
inductive Spoiled (total : Nat) : String → String → Prop where
  | before {a : String} (hslash : '/' ∉ a.toList) (ha : ∀ i, ¬ Marks total a i) (b : String) :
      Spoiled total (a ++ "/" ++ b) a
  | behind {a b : String} {i : Nat} (ha : Marks total a i) (hb : ∀ j, ¬ Marks total b j) :
      Spoiled total (a ++ "/" ++ b) b
  | single {a : String} (hslash : '/' ∉ a.toList) (ha : ∀ i, ¬ Marks total a i) :
      Spoiled total a a

/-- Every text picks observations, or has a bound that spoils it. -/
theorem picks_or_spoiled (total : Nat) (r : String) :
    (∃ ks, Picks total r ks) ∨ ∃ t, Spoiled total r t := by
  -- a range is judged by what stands before its first slash, and then by what is behind it
  by_cases hslash : '/' ∈ r.toList
  · obtain ⟨as, bs, hr, has⟩ := List.eq_append_cons_of_mem hslash
    obtain rfl : r = .ofList as ++ "/" ++ .ofList bs := by
      rw [← String.toList_inj, hr]
      simp
    by_cases ha : ∃ i, Marks total (.ofList as) i
    · obtain ⟨i, ha⟩ := ha
      by_cases hb : ∃ j, Marks total (.ofList bs) j
      · obtain ⟨j, hb⟩ := hb
        exact .inl ⟨_, .pair ha hb⟩
      · exact .inr ⟨_, .behind ha (not_exists.1 hb)⟩
    · exact .inr ⟨_, .before (by rwa [String.toList_ofList]) (not_exists.1 ha) _⟩
  · by_cases ha : ∃ i, Marks total r i
    · obtain ⟨i, ha⟩ := ha
      exact .inl ⟨_, .single ha⟩
    · exact .inr ⟨_, .single hslash (not_exists.1 ha)⟩

/-- The observations after the first `start`, up to the first `stop` and none beyond `total`. -/
def between (total start stop : Nat) : List Nat :=
  List.Ico (min start (min stop total) + 1) (min stop total + 1)

/-- **A range is read as the observations that it picks.** -/
theorem Picks.range_eq (h : Picks total s ks) :
    ∃ start stop, range total s = .ok (start, stop) ∧ between total start stop = ks := by
  cases h with
  | @pair a b i j ha hb =>
    refine ⟨i - 1, j, ?_, Ico_min i _⟩
    rw [range_slash ha.slash, bound_eq_ok.2 ha, bound_eq_ok.2 hb]
    rfl
  | @single a i ha =>
    refine ⟨i - 1, i, ?_, (Ico_min i _).trans (Ico_single i total)⟩
    rw [range_single ha.slash, bound_eq_ok.2 ha]
    rfl

theorem Spoiled.range_eq (h : Spoiled total s t) : range total s = .error (.invalidRange t) := by
  cases h with
  | before hslash ha b =>
    rw [range_slash hslash, bound_eq_error ha]
    rfl
  | behind ha hb =>
    rw [range_slash ha.slash, bound_eq_ok.2 ha, bound_eq_error hb]
    rfl
  | single hslash ha =>
    rw [range_single hslash, bound_eq_error ha]
    rfl

theorem bne_in (h : "in" ∉ names) : ∀ n ∈ names, (n != "in") = true := by
  intro n hn
  rw [bne_iff_ne]
  rintro rfl
  exact h hn

theorem listRequest_names (h : "in" ∉ names) :
    listRequest total names = .ok (names, 0, listedRows !names.isEmpty) := by
  have hdrop : names.dropWhile (· != "in") = [] := List.dropWhile_eq_nil_iff.2 (bne_in h)
  unfold listRequest
  rw [hdrop]

theorem listRequest_in (h : "in" ∉ names) (r : String) :
    listRequest total (names ++ ["in", r]) = (do return (names, ← range total r)) := by
  unfold listRequest
  rw [List.dropWhile_append_of_pos (bne_in h), List.takeWhile_append_of_pos (bne_in h)]
  simp

/-! ## Observations -/

/-- **The line of the `k`-th observation**, in columns of given widths: its number, which is written
with its digits, and what the cells of the `k`-th row show. -/
def Shows (widths : List Nat) (columns : List String) (rows : List Row) (k : Nat) (l : String) :
    Prop :=
  ∃ number row, 1 ≤ k ∧ rows[k - 1]? = some row ∧ number = (Cell.number (.ofNat k)).display ∧
    (k < 2 ^ 53 → number = toString k) ∧
    Sets widths (number :: columns.map fun c => (row.cell c).display) l

/-- **A text tabulates observations**: under a header line and a rule it has one line for each of
them, in the given order, and all of its lines are set in the same columns. -/
def Tabulates (columns : List String) (rows : List Row) (ks : List Nat) (text : String) : Prop :=
  ∃ widths header ls, widths.length = columns.length + 1 ∧
    text = header ++ "\n" ++ rule widths.sum ++ "\n" ++ lines ls ∧
    Sets widths ("Obs" :: columns) header ∧ List.Forall₂ (Shows widths columns rows) ks ls

theorem length_observations (h : stop ≤ rows.length) :
    (observations columns rows start stop).length = stop - start := by
  simp [observations, Nat.min_eq_left h]

/-- **A range is set with one line for every observation in it**, in order. -/
theorem tabulates_observations (columns : List String) (h : stop ≤ rows.length) :
    Tabulates columns rows (List.Ico (start + 1) (stop + 1))
      (layout ("Obs" :: columns) (observations columns rows start stop)) := by
  let table := observations columns rows start stop
  let widths := columnWidths ("Obs" :: columns) table
  refine ⟨widths, headerLine widths ("Obs" :: columns), table.map (rowLine widths),
    length_columnWidths _ _, layout_eq (List.cons_ne_nil _ _) _, (headerLine_fits _ _).sets, ?_⟩
  -- the `i`-th line is about the observation that is `i` places behind the start
  refine List.forall₂_iff_get.2 ⟨?_, fun i hi hi' => ?_⟩
  · rw [List.Ico.length, List.length_map, length_observations h, Nat.add_sub_add_right]
  · have hi : i < table.length := by simpa using hi'
    have hrow : start + i < rows.length := by
      rw [length_observations h] at hi
      omega
    have hk : (List.Ico (start + 1) (stop + 1)).get ⟨i, ‹_›⟩ = start + i + 1 := by
      simp [List.Ico]
      omega
    have hcells : table[i] = observation columns (start + i + 1) rows[start + i] := by
      simp [table, observations]
    have hline : Sets widths (table[i].map Cell.display) (rowLine widths table[i]) :=
      sets_rowLine (List.getElem_mem hi) (by simp [hcells, observation])
    rw [hk]
    refine ⟨(Cell.number (.ofNat (start + i + 1))).display, rows[start + i], by omega, ?_, rfl,
      decimal_ofNat, ?_⟩
    · rw [Nat.add_sub_cancel, List.getElem?_eq_getElem]
    · rw [hcells, observation, List.map_cons, List.map_map] at hline
      simpa [hcells, observation, Function.comp_def] using hline

/-! ## Tables -/

/-- The columns that are listed: the named ones, or all of them. -/
def listed (sheet : Sheet) (names : List String) : List String :=
  if names = [] then sheet.columns else names

theorem listTable_eq_ok (hs : ctx.sheet = .ok sheet) (hcolumns : sheet.columns ≠ [])
    (hknown : ∀ n ∈ names, n ∈ sheet.columns)
    (hr : listRequest sheet.rows.length args = .ok (names, start, stop)) :
    listTable ctx args = .ok (layout ("Obs" :: listed sheet names)
      (observations (listed sheet names) sheet.rows
        (min start (min stop sheet.rows.length)) (min stop sheet.rows.length))) := by
  have hcheck : checkColumns sheet names = .ok () := checkColumns_eq_ok.2 hknown
  have hne : listed sheet names ≠ [] := by
    unfold listed
    split
    · exact hcolumns
    · assumption
  refine bind_eq_ok.2 ⟨sheet, hs, bind_eq_ok.2 ⟨_, hr, bind_eq_ok.2 ⟨(), hcheck, ?_⟩⟩⟩
  simp only [List.isEmpty_iff]
  exact if_neg hne

theorem listTable_eq_error {e : BenchError} (hs : ctx.sheet = .ok sheet)
    (hr : listRequest sheet.rows.length args = .error e) : listTable ctx args = .error e :=
  bind_eq_error.2 (.inr ⟨sheet, hs, bind_eq_error.2 (.inl hr)⟩)

/-- The members of a list from one place up to another, if the places are in order and in the
list. -/
def slice? {α : Type} (l : List α) (start stop : Nat) : Option (List α) :=
  if start ≤ stop ∧ stop ≤ l.length then some ((l.take stop).drop start) else none

/-- **The listing out of a slice of the rows.** -/
def sliceTable (ctx : Context) (args : List String) : Checked BenchError String := do
  let sheet ← safe ctx.sheet
  let (names, start, stop) ← safe (listRequest sheet.rows.length args)
  safe (checkColumns sheet names)
  let columns := if names.isEmpty then sheet.columns else names
  if columns.isEmpty then safe (.error (.invalidSyntax .list))
  else do
    let stop := min stop sheet.rows.length
    let start := min start stop
    let rows ← access (slice? sheet.rows start stop)
    return layout ("Obs" :: columns) (rows.mapIdx fun i r => observation columns (start + i + 1) r)

/-- **No slice is out of range.** -/
theorem sliceTable_eq (ctx : Context) (args : List String) :
    sliceTable ctx args = safe (listTable ctx args) := by
  refine Checked.safe_bind fun sheet _ => Checked.safe_bind fun (names, start, stop) _ =>
    Checked.safe_bind fun _ _ => ?_
  dsimp only
  generalize (if names.isEmpty then sheet.columns else names) = columns
  split
  · rfl
  · have hslice : slice? sheet.rows (min start (min stop sheet.rows.length))
        (min stop sheet.rows.length) = some _ :=
      if_pos ⟨min_le_right _ _, min_le_right _ _⟩
    rw [Checked.access_bind hslice]
    rfl

/-! ## Lines -/

/-- The line asks for a listing: its first word is the keyword, the others are the arguments. -/
def ListLine (line : String) (args : List String) : Prop :=
  ∃ word, wordsOf line = word :: args ∧ (lowered word = "list" ∨ lowered word = "l")

theorem ListLine.parse?_eq (h : ListLine line args) :
    Command.parse? line = some ⟨.list, args, trimmed line⟩ := by
  obtain ⟨word, hwords, hword⟩ := h
  rcases hword with hword | hword <;> simp [Command.parse?, hwords, Keyword.ofWords?, hword]

theorem Command.run_list (ctx : Context) (args : List String) (line : String) :
    (⟨.list, args, line⟩ : Command).run ctx = (listTable ctx args).map .text := rfl

namespace Workbench

variable {w : Workbench}

/-- A line is answered with a text, and nothing changes. -/
def Answers (w : Workbench) (line text : String) : Prop :=
  w.execute line =
    (w, ⟨true, [⟨.command, ". " ++ trimmed line⟩, ⟨.output, text⟩], false, w.active⟩)

/-- A line is refused, and nothing changes. -/
def Refuses (w : Workbench) (line : String) (e : BenchError) : Prop :=
  w.execute line =
    (w, ⟨true, [⟨.command, ". " ++ trimmed line⟩, ⟨.error, e.message⟩], false, w.active⟩)

/-- **A line lists observations**: it is answered with a text that has a line for each of them, in
the given order. -/
def Lists (w : Workbench) (line : String) (columns : List String) (rows : List Row)
    (ks : List Nat) : Prop :=
  ∃ text, w.Answers line text ∧ Tabulates columns rows ks text

/-- A listing is answered with its table. -/
theorem answers_of_listRequest (hs : w.activeSheet? = some sheet) (hcolumns : sheet.columns ≠ [])
    (hknown : ∀ n ∈ names, n ∈ sheet.columns) (hline : ListLine line args)
    (hr : listRequest sheet.rows.length args = .ok (names, start, stop)) :
    w.Answers line (layout ("Obs" :: listed sheet names)
      (observations (listed sheet names) sheet.rows
        (min start (min stop sheet.rows.length)) (min stop sheet.rows.length))) := by
  have htable := listTable_eq_ok (context_sheet_eq_ok.2 hs) hcolumns hknown hr
  have hrun := Command.run_list w.context args (trimmed line)
  rw [htable] at hrun
  have hends := execute_answered hline.parse?_eq hrun
  exact hends

/-- Observations are listed as they are asked for. -/
theorem lists_of_listRequest (hs : w.activeSheet? = some sheet) (hcolumns : sheet.columns ≠ [])
    (hknown : ∀ n ∈ names, n ∈ sheet.columns) (hline : ListLine line args)
    (hr : listRequest sheet.rows.length args = .ok (names, start, stop)) :
    w.Lists line (listed sheet names) sheet.rows (between sheet.rows.length start stop) :=
  ⟨_, answers_of_listRequest hs hcolumns hknown hline hr,
    tabulates_observations _ (min_le_right _ _)⟩

theorem refuses_of_listRequest {e : BenchError} (hs : w.activeSheet? = some sheet)
    (hline : ListLine line args) (hr : listRequest sheet.rows.length args = .error e) :
    w.Refuses line e := by
  have htable := listTable_eq_error (context_sheet_eq_ok.2 hs) hr
  have hrun := Command.run_list w.context args (trimmed line)
  rw [htable] at hrun
  have hends := execute_refused hline.parse?_eq hrun
  exact hends

/-- **A listing shows exactly the observations that are asked for.** A range picks them, or it is
refused for the bound that spoils it. Without a range they are the first five, or the first twenty
if columns are named. No slice of the rows is ever out of range. -/
theorem execute_list (hs : w.activeSheet? = some sheet) (hcolumns : sheet.columns ≠ [])
    (hknown : ∀ n ∈ names, n ∈ sheet.columns) (hin : "in" ∉ names) :
    let total := sheet.rows.length
    let columns := listed sheet names
    (∀ line r ks, ListLine line (names ++ ["in", r]) → Picks total r ks →
      w.Lists line columns sheet.rows ks) ∧
    (∀ line r t, ListLine line (names ++ ["in", r]) → Spoiled total r t →
      w.Refuses line (.invalidRange t)) ∧
    (∀ r, (∃ ks, Picks total r ks) ∨ ∃ t, Spoiled total r t) ∧
    (∀ line, ListLine line names → w.Lists line columns sheet.rows
      (List.Ico 1 (min (if names = [] then 5 else 20) total + 1))) ∧
    ∀ args, sliceTable w.context args = safe (listTable w.context args) := by
  intro total columns
  refine ⟨?_, ?_, picks_or_spoiled total, ?_, sliceTable_eq w.context⟩
  · intro line r ks hline hpicks
    obtain ⟨start, stop, hrange, rfl⟩ := hpicks.range_eq
    refine lists_of_listRequest hs hcolumns hknown hline ?_
    rw [listRequest_in hin, hrange]
    rfl
  · intro line r t hline hspoiled
    refine refuses_of_listRequest hs hline ?_
    rw [listRequest_in hin, hspoiled.range_eq]
    rfl
  · intro line hline
    have hlists := lists_of_listRequest hs hcolumns hknown hline (listRequest_names hin)
    have hrows : listedRows (!names.isEmpty) = if names = [] then 5 else 20 := by
      cases names <;> rfl
    rw [hrows, between, Nat.zero_min] at hlists
    exact hlists

/-- A sheet with two observations. -/
def pairSheet : Sheet :=
  ⟨"s", ["x", "y"], [Row.empty.insert "x" (.text "a"), Row.empty.insert "y" (.text "b")], []⟩

/-- A workbench with this sheet. -/
def pairBench : Workbench := ⟨[⟨"d", [pairSheet], "s"⟩], some "d", ⟨.first, 50⟩⟩

/-- The second observation of the sheet, as it is listed. -/
def pairText : String :=
  "         Obs           y\n------------------------\n           2           b"

/-- Of two observations the second one is listed, and a negative bound is refused. -/
theorem execute_list_pairBench :
    pairBench.activeSheet? = some pairSheet ∧ pairSheet.columns ≠ [] ∧
      (∀ n ∈ ["y"], n ∈ pairSheet.columns) ∧ "in" ∉ ["y"] ∧
      pairBench.Lists "list y in +2/l" ["y"] pairSheet.rows [2] ∧
      pairBench.Answers "list y in +2/l" pairText ∧
      pairBench.Refuses "L y in 2/-1" (.invalidRange "-1") := by
  have hs : pairBench.activeSheet? = some pairSheet := by rfl
  have hcolumns : pairSheet.columns ≠ [] := by decide
  have hknown : ∀ n ∈ ["y"], n ∈ pairSheet.columns := by decide
  have hin : "in" ∉ ["y"] := by decide
  obtain ⟨hlists, hrefuses, -⟩ := execute_list hs hcolumns hknown hin
  have hline : ListLine "list y in +2/l" (["y"] ++ ["in", "+2/l"]) :=
    ⟨"list", by decide +kernel, .inl (by cbv)⟩
  have hpicks : Picks 2 "+2/l" [2] :=
    .pair (a := "+2") (b := "l") (i := 2) (j := 2)
      (.count (natural?_eq_some_iff.1 (by decide))) (.last (.inl rfl))
  have hr : listRequest pairSheet.rows.length (["y"] ++ ["in", "+2/l"]) = .ok (["y"], 1, 2) := by
    rfl
  have hanswers := answers_of_listRequest hs hcolumns hknown hline hr
  have htext : layout ("Obs" :: listed pairSheet ["y"]) (observations (listed pairSheet ["y"])
      pairSheet.rows (min 1 (min 2 pairSheet.rows.length)) (min 2 pairSheet.rows.length)) =
        pairText := by
    decide +kernel
  rw [htext] at hanswers
  have hline' : ListLine "L y in 2/-1" (["y"] ++ ["in", "2/-1"]) :=
    ⟨"L", by decide +kernel, .inr (by cbv)⟩
  have hspoiled : Spoiled 2 "2/-1" "-1" := by
    refine .behind (a := "2") (b := "-1") (i := 2)
      (.count (natural?_eq_some_iff.1 (by decide))) fun j h => ?_
    have hbound := bound_eq_ok.2 h
    cases hbound
  exact ⟨hs, hcolumns, hknown, hin, hlists _ _ _ hline hpicks, hanswers,
    hrefuses _ _ _ hline' hspoiled⟩

end Workbench

end Tabular
