import Tabular.Proofs.Console.Outcome

/-!
# Commands that miss no sheet

A command looks for the active sheet of a dataset under its name. When every dataset has its
active sheet, no command is refused for want of one.

* `BenchError.eq_sheetNotFound_of_message`: only this refusal is worded in this way.
* `FindsSheet` says of a computation that it is not refused so, and `FindsSheet.bind` that a
  chain of such computations is not.
* `Command.run_findsSheet`: **no command misses a sheet** where `Context.Whole` holds.
-/

namespace Tabular

variable {ctx : Context}

/-! ## The wording of the refusal -/

theorem head?_append_text {s t : String} {c : Char} (h : s.toList.head? = some c) :
    (s ++ t).toList.head? = some c := by
  rw [String.toList_append, List.head?_append, h, Option.some_or]

namespace BenchError

/-- The letter that the wording of an error begins with. -/
def initial : BenchError → Char
  | .noActiveDataset => 'n'
  | .sheetNotFound _ => 's'
  | .unknownVariables _ | .variableExists _ => 'v'
  | .invalidSyntax _ | .invalidRange _ | .reply _ => 'i'
  | .datasetNotFound _ _ => 'd'
  | .keyNotFound _ _ => 'k'
  | .formula _ => 'e'
  | .intake _ | .render _ => 'f'

theorem head?_message (e : BenchError) : e.message.toList.head? = some e.initial := by
  cases e with
  | noActiveDataset => rfl
  | unknownVariables | invalidSyntax | formula | intake | reply | render =>
    exact head?_append_text rfl
  | sheetNotFound | invalidRange | variableExists =>
    exact head?_append_text (head?_append_text rfl)
  | datasetNotFound => exact head?_append_text (head?_append_text (head?_append_text rfl))
  | keyNotFound =>
    exact head?_append_text (head?_append_text (head?_append_text (head?_append_text rfl)))

/-- Only a missing sheet is complained about in these words. -/
theorem eq_sheetNotFound_of_message {e : BenchError} {name : String}
    (h : e.message = (sheetNotFound name).message) : ∃ n, e = sheetNotFound n := by
  have hc := congrArg (·.toList.head?) h
  simp only [head?_message, Option.some.injEq] at hc
  cases e with
  | sheetNotFound n => exact ⟨n, rfl⟩
  | _ => cases hc

end BenchError

/-! ## Computations that find their sheet -/

/-- The computation is not refused for want of a sheet. -/
def FindsSheet {α : Type} (x : Except BenchError α) : Prop :=
  ∀ name, x ≠ .error (.sheetNotFound name)

namespace FindsSheet

variable {α β : Type}

theorem ok (a : α) : FindsSheet (.ok a) := fun _ h => by cases h

theorem pure (a : α) : FindsSheet (Pure.pure a) := ok a

theorem bind {x : Except BenchError α} {f : α → Except BenchError β} (hx : FindsSheet x)
    (hf : ∀ a, x = .ok a → FindsSheet (f a)) : FindsSheet (x >>= f) := by
  intro name h
  rcases bind_eq_error.1 h with h | ⟨a, ha, h⟩
  · exact hx name h
  · exact hf a ha name h

theorem map {x : Except BenchError α} (hx : FindsSheet x) (f : α → β) : FindsSheet (x.map f) :=
  fun name h => hx name (map_eq_error.1 h)

theorem error {e : BenchError} (h : ∀ name, e ≠ .sheetNotFound name) :
    FindsSheet (.error e : Except BenchError α) :=
  fun name he => h name (Except.error.inj he)

theorem mapError {ε : Type} {f : ε → BenchError} (x : Except ε α)
    (h : ∀ e name, f e ≠ .sheetNotFound name) : FindsSheet (x.mapError f) := by
  cases x with
  | ok a => exact ok a
  | error e => exact error (h e)

end FindsSheet

/-! ## Commands -/

/-- Every dataset that a command may read has its active sheet. -/
def Context.Whole (ctx : Context) : Prop :=
  ∀ d, ctx.active = some d ∨ d ∈ ctx.datasets → ∃ s, d.active? = some s

theorem findsSheet_sheetOf {d : Dataset} (h : ∃ s, d.active? = some s) :
    FindsSheet (Context.sheetOf d) := by
  obtain ⟨s, hs⟩ := h
  rw [Context.sheetOf_eq_ok.2 hs]
  exact .ok s

theorem findsSheet_checkColumns (s : Sheet) (names : List String) :
    FindsSheet (checkColumns s names) := by
  unfold checkColumns
  dsimp only
  split
  · exact .ok _
  · exact .error (by simp)

theorem findsSheet_bound (total : Nat) (s : String) : FindsSheet (bound total s) := by
  unfold bound
  split
  · exact .ok _
  split
  · exact .ok _
  split
  · exact .ok _
  · exact .error (by simp)

theorem findsSheet_range (total : Nat) (s : String) : FindsSheet (range total s) := by
  unfold range
  split
  · exact .bind (findsSheet_bound _ _) fun a _ => .bind (findsSheet_bound _ _) fun b _ => .pure _
  · exact .bind (findsSheet_bound _ _) fun a _ => .pure _

theorem findsSheet_listRequest (total : Nat) (args : List String) :
    FindsSheet (listRequest total args) := by
  unfold listRequest
  split
  · exact .ok _
  · exact .error (by simp)
  · exact .bind (findsSheet_range _ _) fun a _ => .pure _
  · exact .error (by simp)

theorem findsSheet_generateRequest (line : String) : FindsSheet (generateRequest line) := by
  unfold generateRequest
  dsimp only
  split
  · exact .error (by simp)
  split
  · exact .error (by simp)
  · exact .ok _

theorem findsSheet_merge (masterRows : List Row) (masterColumns : List String)
    (usingRows : List Row) (usingColumns : List String) (column : String) :
    FindsSheet (merge masterRows masterColumns usingRows usingColumns column) := by
  unfold merge
  split
  · exact .error (by simp)
  split
  · exact .error (by simp)
  · exact .ok _

namespace Context

theorem findsSheet_dataset : FindsSheet ctx.dataset := by
  unfold dataset
  split
  · exact .ok _
  · exact .error (by simp)

theorem findsSheet_find (name : String) : FindsSheet (ctx.find name) := by
  unfold find
  split
  · exact .ok _
  · exact .error (by simp)

namespace Whole

theorem sheet (h : ctx.Whole) : FindsSheet ctx.sheet :=
  findsSheet_dataset.bind fun d hd => findsSheet_sheetOf (h d (.inl (dataset_eq_ok.1 hd)))

theorem describe (h : ctx.Whole) (names : List String) : FindsSheet (describe ctx names) :=
  findsSheet_dataset.bind fun _ _ => h.sheet.bind fun s _ =>
    (findsSheet_checkColumns s names).bind fun _ _ => .pure _

theorem summarizeTable (h : ctx.Whole) (names : List String) :
    FindsSheet (summarizeTable ctx names) := by
  refine h.sheet.bind fun s _ => (findsSheet_checkColumns s names).bind fun _ _ => ?_
  dsimp only
  split <;> split <;> exact .pure _

theorem listTable (h : ctx.Whole) (args : List String) : FindsSheet (listTable ctx args) := by
  refine h.sheet.bind fun s _ => (findsSheet_listRequest _ args).bind fun r _ => ?_
  refine (findsSheet_checkColumns s r.1).bind fun _ _ => ?_
  dsimp only
  generalize (if r.1.isEmpty then s.columns else r.1) = columns
  split
  · exact .error (by simp)
  · exact .pure _

theorem generateColumn (h : ctx.Whole) (line : String) : FindsSheet (generateColumn ctx line) := by
  refine h.sheet.bind fun s _ => (findsSheet_generateRequest line).bind fun r _ => ?_
  dsimp only
  split
  · exact .error (by simp)
  split
  · exact .error (by simp)
  · exact .pure _

theorem dropColumns (h : ctx.Whole) (names : List String) : FindsSheet (dropColumns ctx names) := by
  refine h.sheet.bind fun s _ => ?_
  dsimp only
  split
  · exact .error (by simp)
  · exact (findsSheet_checkColumns s names).bind fun _ _ => .pure _

theorem mergeDataset (h : ctx.Whole) (args : List String) :
    FindsSheet (mergeDataset ctx args) := by
  unfold Tabular.mergeDataset
  split
  · split
    · exact .error (by simp)
    · refine h.sheet.bind fun s _ => (findsSheet_find _).bind fun d hd => ?_
      have hd := List.mem_of_find?_eq_some (find_eq_ok.1 hd)
      exact (findsSheet_sheetOf (h d (.inr hd))).bind fun other _ =>
        (findsSheet_merge _ _ _ _ _).bind fun merged _ => .pure _
  · exact .error (by simp)

end Whole

end Context

theorem findsSheet_changeFrame (parts : List String) : FindsSheet (changeFrame ctx parts) := by
  unfold changeFrame
  dsimp only
  split
  · exact .error (by simp)
  · exact (Context.findsSheet_find _).bind fun d _ => .pure _

/-- **No command misses a sheet** when every dataset has its active one. -/
theorem Command.run_findsSheet (c : Command) (h : ctx.Whole) : FindsSheet (c.run ctx) := by
  unfold run
  split
  · exact (h.describe _).map _
  · exact (h.summarizeTable _).map _
  · exact (h.listTable _).map _
  · exact h.sheet.bind fun s _ => .pure _
  · exact h.generateColumn _
  · exact h.dropColumns _
  · exact h.mergeDataset _
  · exact findsSheet_changeFrame _
  · exact .ok _

end Tabular
