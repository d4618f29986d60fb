import Tabular.Proofs.Console.Lines
import Tabular.Proofs.Refusal
import Tabular.Proofs.Service.Routed
import Tabular.Proofs.Workbench.Operation
import Tabular.Workbench.Run

/-!
# The service and its workbench

A request acts on the workbench as one step of a run, or not at all.

* `Workbench.Admits`: the workbench does not refuse a step. `Workbench.after_of_not_admits`: a
  refused step changes nothing.
* `perform_refused`: a request that is not carried out has the status of an error.
* `Asks`: what is read from a request for an action that does not only read is a step.
* `upload_eq`, `remove_eq` and `setSheet_eq` answer with the `outcome` of an operation.
* `asks_of_perform` and `perform_of_asks`: such a request is carried out just when it asks for a
  step that the workbench admits.
* `answer_of_routed` and `answer_of_asks` answer one request by its action and by its step.
* `Drives` gives the steps of a sequence of requests, and `served_eq_run` the workbench after it.
* `answer_exact`: **requests act exactly as their steps, and errors change nothing.**
-/

namespace Tabular

namespace Workbench

variable {w w' : Workbench}

/-- Blanks around a line do not matter. -/
theorem execute_trimmed (w : Workbench) (line : String) :
    w.execute (trimmed line) = w.execute line := by
  unfold execute
  rw [interpret_trimmed]

/-- A dataset is found again when its sheet pointer has been set. -/
theorem find?_of_setActiveSheet {name sheet : String}
    (h : w.setActiveSheet name sheet = .ok w') : ∃ d, w'.find? name = some d := by
  obtain ⟨before, d, after, -, hname, hbefore, -, rfl⟩ := setActiveSheet_eq_ok.1 h
  refine ⟨{ d with activeSheet := sheet }, ?_⟩
  have hb : ∀ x ∈ before, (x.name == name) = false := by simpa using hbefore
  exact find?_append_cons hb (by simpa using hname)

/-! ## Steps that are not refused -/

/-- The workbench does not refuse a step. -/
def Admits (w : Workbench) : Step → Prop
  | .load name tables => ∃ r, w.load name tables = .ok r
  | .remove name => ∃ w', w.remove name = .ok w'
  | .setActiveSheet name sheet => ∃ w', w.setActiveSheet name sheet = .ok w'
  | .clear | .execute _ => True

theorem after_load {name : String} {tables : List Table} {d : Dataset}
    (h : w.load name tables = .ok (w', d)) : w.after (.load name tables) = w' := by
  show ((w.load name tables).toOption.map Prod.fst).getD w = w'
  rw [h]
  rfl

theorem after_remove {name : String} (h : w.remove name = .ok w') :
    w.after (.remove name) = w' := by
  show (w.remove name).toOption.getD w = w'
  rw [h]
  rfl

theorem after_setActiveSheet {name sheet : String} (h : w.setActiveSheet name sheet = .ok w') :
    w.after (.setActiveSheet name sheet) = w' := by
  show (w.setActiveSheet name sheet).toOption.getD w = w'
  rw [h]
  rfl

/-- A refused step changes nothing. -/
theorem after_of_not_admits {step : Step} (h : ¬ w.Admits step) : w.after step = w := by
  cases step with
  | load name tables =>
    show ((w.load name tables).toOption.map Prod.fst).getD w = w
    cases hl : w.load name tables with
    | error e => rfl
    | ok r => exact absurd ⟨r, hl⟩ h
  | remove name =>
    show (w.remove name).toOption.getD w = w
    cases hr : w.remove name with
    | error e => rfl
    | ok w' => exact absurd ⟨w', hr⟩ h
  | setActiveSheet name sheet =>
    show (w.setActiveSheet name sheet).toOption.getD w = w
    cases hs : w.setActiveSheet name sheet with
    | error e => rfl
    | ok w' => exact absurd ⟨w', hs⟩ h
  | clear | execute line => exact absurd trivial h

end Workbench

namespace Service

variable {opener : Opener} {limit : Nat} {settings : Settings} {w w' : Workbench} {req : Request}
  {a : Action} {r : Response} {step : Workbench.Step}

/-! ## Refused requests -/

/-- A response with the status of an error. -/
def Response.Failed (r : Response) : Prop := 400 ≤ r.status

theorem failed_bare {n : Nat} (h : 400 ≤ n) : (bare n).Failed := h

theorem Refusal.failed (e : Refusal) : e.response.Failed := by
  show 400 ≤ e.status
  unfold Refusal.status
  split <;> decide

theorem readName_refused (name : String) : RefusedOnly Response.Failed (readName name) := by
  unfold readName
  split
  · exact .ok _
  · exact .error (failed_bare (by decide))

theorem readJson_refused {σ α : Type} (record : Json.Record σ α) :
    RefusedOnly Response.Failed (readJson limit record req) := by
  unfold readJson
  split
  · exact .error (failed_bare (by decide))
  split
  · exact .error (failed_bare (by decide))
  split
  · exact .ok _
  · exact .error (failed_bare (by decide))
  · exact .error (failed_bare (by decide))

/-- **A request that is not carried out is answered with the status of an error.** -/
theorem perform_refused (a : Action) :
    RefusedOnly Response.Failed (perform opener limit settings w req a) := by
  cases a with
  | health | listDatasets | clear => exact .ok _
  | upload name =>
    refine (readName_refused name).bind fun name => ?_
    split
    · exact .error (failed_bare (by decide))
    split
    · exact .error (failed_bare (by decide))
    split
    · exact .error (Refusal.failed _)
    split
    · exact .error (Refusal.failed _)
    · exact .ok _
  | remove name =>
    refine (readName_refused name).bind fun name => ?_
    split
    · exact .error (Refusal.failed _)
    · exact .ok _
  | setSheet name =>
    refine (readName_refused name).bind fun name => (readJson_refused _).bind fun sheet => ?_
    split
    · exact .error (Refusal.failed _)
    split
    · exact .ok _
    · exact .ok _
  | console =>
    refine (readJson_refused _).bind fun line => ?_
    dsimp only
    split
    · exact .error (Refusal.failed .emptyCommand)
    · exact .ok _
  | groundTruth =>
    refine .map ((readJson_refused _).bind fun columns => ?_)
    dsimp only
    split
    · exact .error (Refusal.failed _)
    · exact .ok _
  | reply =>
    refine .map ?_
    unfold readReply
    split
    · exact .error (failed_bare (by decide))
    split
    · exact .error (failed_bare (by decide))
    · exact .ok _

/-! ## Requests for steps -/

/-- The format of a file is the one that is given, or else the one of its name. -/
inductive Announced (name : String) : Option String → FileFormat → Prop where
  | given {f : String} {format : FileFormat} (h : FileFormat.named f = .ok format) :
      Announced name (some f) format
  | ofName {format : FileFormat} (h : FileFormat.ofFileName? name = some format) :
      Announced name none format

theorem uploadFormat_eq_ok {name : String} {given : Option String} {format : FileFormat} :
    uploadFormat name given = .ok format ↔ Announced name given format := by
  unfold uploadFormat
  constructor
  · intro h
    split at h
    · split at h
      · rename_i hf
        cases h
        exact .given hf
      · cases h
    · split at h
      · rename_i hf
        cases h
        exact .ofName hf
      · cases h
  · intro h
    cases h with
    | given hf => simp only [hf]
    | ofName hf => simp only [hf]

theorem readUpload_eq_ok {name stem : String} {given : Option String} {body : List UInt8}
    {tables : List Table} :
    readUpload opener settings name given body = .ok (stem, tables) ↔
      body.length ≤ settings.maxFileSize ∧ body ≠ [] ∧ stem = fileStem name ∧
        ∃ format, Announced name given format ∧
          readTables format (fileStem name) body opener = .ok tables := by
  unfold readUpload
  constructor
  · intro h
    split at h
    · cases h
    rename_i hsize
    split at h
    · cases h
    rename_i hempty
    obtain ⟨format, hformat, h⟩ := bind_eq_ok.1 h
    split at h
    · rename_i htables
      cases h
      exact ⟨Nat.le_of_not_lt hsize, by simpa using hempty, rfl, format,
        uploadFormat_eq_ok.1 hformat, htables⟩
    · cases h
  · rintro ⟨hsize, hempty, rfl, format, hformat, htables⟩
    rw [if_neg (Nat.not_lt_of_le hsize), if_neg (by simpa using hempty)]
    refine bind_eq_ok.2 ⟨format, uploadFormat_eq_ok.2 hformat, ?_⟩
    simp only [htables]
    rfl

/-- **The step of an action**, as it is read from a request. -/
inductive Asks (opener : Opener) (limit : Nat) (settings : Settings) (req : Request) :
    Action → Workbench.Step → Prop where
  | upload {escaped name : String} {given : Option String} {format : FileFormat}
      {tables : List Table} (hname : pathText? escaped = some name)
      (hgiven : parameter? "format" (Target.ofString req.target).query = some given)
      (hlimit : req.body.length ≤ limit) (hsize : req.body.length ≤ settings.maxFileSize)
      (hempty : req.body ≠ []) (hformat : Announced name given format)
      (htables : readTables format (fileStem name) req.body opener = .ok tables) :
      Asks opener limit settings req (.upload escaped) (.load (fileStem name) tables)
  | remove {escaped name : String} (hname : pathText? escaped = some name) :
      Asks opener limit settings req (.remove escaped) (.remove name)
  | clear : Asks opener limit settings req .clear .clear
  | setSheet {escaped name sheet : String} (hname : pathText? escaped = some name)
      (hsheet : readJson limit (stringRecord "sheet") req = .ok sheet) :
      Asks opener limit settings req (.setSheet escaped) (.setActiveSheet name sheet)
  | console {line : String} (hline : readJson limit (stringRecord "command") req = .ok line)
      (hblank : trimmed line ≠ "") : Asks opener limit settings req .console (.execute line)

/-- The actions that only read. -/
def Action.reads : Action → Bool
  | .health | .listDatasets | .groundTruth | .reply => true
  | .clear | .upload _ | .remove _ | .setSheet _ | .console => false

theorem readName_eq_ok {escaped name : String} :
    readName escaped = .ok name ↔ pathText? escaped = some name := by
  unfold readName
  cases pathText? escaped <;> simp

/-- What is carried out is the step that was asked for, unless the action only reads. -/
theorem asks_of_perform (h : perform opener limit settings w req a = .ok (w', r)) :
    a.reads = true ∧ w' = w ∨ a.reads = false ∧ ∃ step, Asks opener limit settings req a step := by
  cases a with
  | health | listDatasets =>
    cases h
    exact .inl ⟨rfl, rfl⟩
  | groundTruth | reply =>
    obtain ⟨r', -, h⟩ := map_eq_ok.1 h
    cases h
    exact .inl ⟨rfl, rfl⟩
  | clear => exact .inr ⟨rfl, .clear, .clear⟩
  | upload escaped =>
    obtain ⟨name, hname, h⟩ := bind_eq_ok.1 h
    split at h
    · cases h
    rename_i given hgiven
    split at h
    · cases h
    rename_i hlimit
    split at h
    · cases h
    rename_i stem tables hupload
    obtain ⟨hsize, hempty, rfl, format, hformat, htables⟩ := readUpload_eq_ok.1 hupload
    exact .inr ⟨rfl, _, .upload (readName_eq_ok.1 hname) hgiven (Nat.le_of_not_lt hlimit) hsize
      hempty hformat htables⟩
  | remove escaped =>
    obtain ⟨name, hname, -⟩ := bind_eq_ok.1 h
    exact .inr ⟨rfl, _, .remove (readName_eq_ok.1 hname)⟩
  | setSheet escaped =>
    obtain ⟨name, hname, h⟩ := bind_eq_ok.1 h
    obtain ⟨sheet, hsheet, -⟩ := bind_eq_ok.1 h
    exact .inr ⟨rfl, _, .setSheet (readName_eq_ok.1 hname) hsheet⟩
  | console =>
    obtain ⟨line, hline, h⟩ := bind_eq_ok.1 h
    dsimp only at h
    split at h
    · cases h
    rename_i hblank
    exact .inr ⟨rfl, _, .console hline (by simpa using hblank)⟩

/-! ## Steps that are carried out -/

/-- What comes of an operation of the workbench: the refusal of its error, or an answer. -/
def outcome {α : Type} (x : Except BenchError α) (f : α → Workbench × Response) :
    Except Response (Workbench × Response) :=
  (x.mapError fun e => (Refusal.bench e).response).map f

theorem exists_outcome_eq_error {α : Type} {x : Except BenchError α}
    {f : α → Workbench × Response} (h : ¬ ∃ a, x = .ok a) : ∃ r, outcome x f = .error r := by
  cases x with
  | ok a => exact absurd ⟨a, rfl⟩ h
  | error e => exact ⟨_, rfl⟩

/-- An upload loads its tables. -/
theorem upload_eq {escaped name : String} {given : Option String} {tables : List Table}
    (hname : pathText? escaped = some name)
    (hgiven : parameter? "format" (Target.ofString req.target).query = some given)
    (hlimit : req.body.length ≤ limit)
    (hupload : readUpload opener settings name given req.body = .ok (fileStem name, tables)) :
    upload opener limit settings w escaped req = outcome (w.load (fileStem name) tables)
      fun p => (p.1, ⟨200, .json (datasetInfo p.1 true p.2)⟩) := by
  unfold upload
  rw [readName_eq_ok.2 hname, hgiven]
  dsimp only [bind, Except.bind]
  rw [if_neg (Nat.not_lt_of_le hlimit), hupload]
  dsimp only
  cases w.load (fileStem name) tables <;> rfl

theorem remove_eq {escaped name : String} (hname : pathText? escaped = some name) :
    remove w escaped = outcome (w.remove name)
      fun w' => (w', okObject [("removed", .text name), ("active", activeName w')]) := by
  unfold remove
  rw [readName_eq_ok.2 hname]
  dsimp only [bind, Except.bind]
  cases w.remove name <;> rfl

/-- Setting a sheet pointer is answered with the dataset, which is found again. -/
theorem setSheet_eq {escaped name sheet : String} (hname : pathText? escaped = some name)
    (hsheet : readJson limit (stringRecord "sheet") req = .ok sheet) :
    setSheet limit w escaped req = outcome (w.setActiveSheet name sheet)
      fun w' => (w', ((w'.find? name).map fun d =>
        ⟨200, .json (datasetInfo w' false d)⟩).getD (Refusal.missingDataset name).response) := by
  unfold setSheet
  rw [readName_eq_ok.2 hname]
  dsimp only [bind, Except.bind]
  rw [hsheet]
  dsimp only
  cases w.setActiveSheet name sheet with
  | error e => rfl
  | ok w' =>
    dsimp only [outcome, Except.mapError, Except.map]
    cases w'.find? name <;> rfl

/-- **A request for a step is carried out if the workbench admits the step**, and the workbench
after it is the one after the step. -/
theorem perform_of_asks (w : Workbench) (h : Asks opener limit settings req a step) :
    (w.Admits step →
      ∃ r, perform opener limit settings w req a = .ok (w.after step, r) ∧ r.status = 200) ∧
      (¬ w.Admits step → ∃ r, perform opener limit settings w req a = .error r) := by
  cases h with
  | @upload escaped name given format tables hname hgiven hlimit hsize hempty hformat htables =>
    have hupload := readUpload_eq_ok.2 ⟨hsize, hempty, rfl, format, hformat, htables⟩
    rw [perform, upload_eq hname hgiven hlimit hupload]
    refine ⟨?_, exists_outcome_eq_error⟩
    rintro ⟨⟨w', d⟩, hload⟩
    rw [hload, Workbench.after_load hload]
    exact ⟨_, rfl, rfl⟩
  | @remove escaped name hname =>
    rw [perform, remove_eq hname]
    refine ⟨?_, exists_outcome_eq_error⟩
    rintro ⟨w', hremove⟩
    rw [hremove, Workbench.after_remove hremove]
    exact ⟨_, rfl, rfl⟩
  | clear => exact ⟨fun _ => ⟨_, rfl, rfl⟩, fun hrefused => absurd trivial hrefused⟩
  | @setSheet escaped name sheet hname hsheet =>
    rw [perform, setSheet_eq hname hsheet]
    refine ⟨?_, exists_outcome_eq_error⟩
    rintro ⟨w', hset⟩
    obtain ⟨d, hd⟩ := Workbench.find?_of_setActiveSheet hset
    rw [hset, Workbench.after_setActiveSheet hset]
    refine ⟨_, rfl, ?_⟩
    rw [hd]
    rfl
  | @console line hline hblank =>
    refine ⟨fun _ => ?_, fun hrefused => absurd trivial hrefused⟩
    show ∃ r, runConsole limit settings w req = .ok ((w.execute line).1, r) ∧ r.status = 200
    unfold runConsole
    rw [hline]
    dsimp only [bind, Except.bind]
    rw [if_neg (by simpa using hblank), w.execute_trimmed]
    exact ⟨_, rfl, rfl⟩

/-! ## One request -/

@[simp] theorem status_headOf (r : Response) : (headOf r).status = r.status := by
  unfold headOf
  split <;> rfl

/-- **A request that asks for an action is answered with what comes of the action.** -/
theorem answer_of_routed (w : Workbench) (hroute : Routed req a) :
    ∃ r, (answer opener limit settings w req).2.status = r.status ∧
      (perform opener limit settings w req a = .error r ∧
          (answer opener limit settings w req).1 = w ∨
        perform opener limit settings w req a =
          .ok ((answer opener limit settings w req).1, r)) := by
  cases hperform : perform opener limit settings w req a with
  | error r =>
    rw [answer_of_refused hroute hperform]
    exact ⟨r, rfl, .inl ⟨rfl, rfl⟩⟩
  | ok p =>
    obtain ⟨w', r⟩ := p
    rw [answer_of_performed hroute hperform]
    refine ⟨r, ?_, .inr rfl⟩
    dsimp only
    split
    · exact status_headOf r
    · rfl

/-- **A request for a step acts as the step.** It succeeds if the workbench admits the step, and
else it is answered with the status of an error. -/
theorem answer_of_asks (w : Workbench) (hroute : Routed req a)
    (h : Asks opener limit settings req a step) :
    (answer opener limit settings w req).1 = w.after step ∧
      (w.Admits step → (answer opener limit settings w req).2.status = 200) ∧
      (¬ w.Admits step → 400 ≤ (answer opener limit settings w req).2.status) := by
  obtain ⟨hdone, hrefused⟩ := perform_of_asks w h
  by_cases hadmits : w.Admits step
  · obtain ⟨r, hperform, hstatus⟩ := hdone hadmits
    rw [answer_of_performed hroute hperform]
    refine ⟨rfl, fun _ => ?_, fun hnot => absurd hadmits hnot⟩
    dsimp only
    split
    · rw [status_headOf, hstatus]
    · exact hstatus
  · obtain ⟨r, hperform⟩ := hrefused hadmits
    have hstatus : 400 ≤ r.status := perform_refused a r hperform
    rw [answer_of_refused hroute hperform, Workbench.after_of_not_admits hadmits]
    exact ⟨rfl, fun hyes => absurd hyes hadmits, fun _ => hstatus⟩

/-- A request that asks for no step changes nothing, and if it asks for an action that does not
only read, then it is refused. -/
theorem answer_of_not_asks (w : Workbench)
    (h : ∀ a, Routed req a → ∀ step, ¬ Asks opener limit settings req a step) :
    (answer opener limit settings w req).1 = w ∧ ∀ a, Routed req a → a.reads = false →
      400 ≤ (answer opener limit settings w req).2.status := by
  by_cases hroute : ∃ a, Routed req a
  · obtain ⟨a, ha⟩ := hroute
    cases hperform : perform opener limit settings w req a with
    | error r =>
      rw [answer_of_refused ha hperform]
      exact ⟨rfl, fun _ _ _ => perform_refused a r hperform⟩
    | ok p =>
      obtain ⟨w', r⟩ := p
      rw [answer_of_performed ha hperform]
      rcases asks_of_perform hperform with ⟨hreads, rfl⟩ | ⟨-, step, hstep⟩
      · refine ⟨rfl, fun b hb hwrites => ?_⟩
        rw [← ha.unique hb, hreads] at hwrites
        cases hwrites
      · exact absurd hstep (h a ha step)
  · have hroute : ∀ a, ¬ Routed req a := fun a ha => hroute ⟨a, ha⟩
    exact ⟨(answer_of_not_routed hroute).1, fun a ha _ => absurd ha (hroute a)⟩

/-! ## Sequences of requests -/

/-- The steps that a sequence of requests asks for, in their order. -/
inductive Drives (opener : Opener) (limit : Nat) (settings : Settings) :
    List Request → List Workbench.Step → Prop where
  | nil : Drives opener limit settings [] []
  | step {req : Request} {a : Action} {step : Workbench.Step} {requests : List Request}
      {steps : List Workbench.Step} (hroute : Routed req a)
      (h : Asks opener limit settings req a step)
      (more : Drives opener limit settings requests steps) :
      Drives opener limit settings (req :: requests) (step :: steps)
  | none {req : Request} {requests : List Request} {steps : List Workbench.Step}
      (h : ∀ a, Routed req a → ∀ step, ¬ Asks opener limit settings req a step)
      (more : Drives opener limit settings requests steps) :
      Drives opener limit settings (req :: requests) steps

/-- From any workbench on, requests act as the run of their steps. -/
theorem foldl_answer (w : Workbench) (requests : List Request) :
    ∃ steps, Drives opener limit settings requests steps ∧
      requests.foldl (fun w req => (answer opener limit settings w req).1) w = w.run steps := by
  induction requests generalizing w with
  | nil => exact ⟨[], .nil, rfl⟩
  | cons req requests ih =>
    by_cases hstep : ∃ a step, Routed req a ∧ Asks opener limit settings req a step
    · obtain ⟨a, step, hroute, hasks⟩ := hstep
      obtain ⟨steps, hdrives, hrun⟩ := ih (w.after step)
      refine ⟨step :: steps, .step hroute hasks hdrives, ?_⟩
      rw [List.foldl_cons, (answer_of_asks w hroute hasks).1, hrun, Workbench.run_cons]
    · have hnone : ∀ a, Routed req a → ∀ step, ¬ Asks opener limit settings req a step :=
        fun a hroute step hasks => hstep ⟨a, step, hroute, hasks⟩
      obtain ⟨steps, hdrives, hrun⟩ := ih w
      refine ⟨steps, .none hnone hdrives, ?_⟩
      rw [List.foldl_cons, (answer_of_not_asks w hnone).1, hrun]

/-- **The workbench of the service is that of a run**: the run of the steps that the requests ask
for, from the empty workbench. -/
theorem served_eq_run (opener : Opener) (limit : Nat) (settings : Settings)
    (requests : List Request) :
    ∃ steps, Drives opener limit settings requests steps ∧
      served opener limit settings requests = (Workbench.empty settings.options).run steps :=
  foldl_answer (start settings) requests

/-- **Requests act exactly as steps of the workbench, and errors leave it untouched.** After any
requests the workbench is that of the run of their steps. A further request asks for one action at
most, by its method and its target, and is answered with what comes of that action; if it asks for
none, then it is answered at once. A request whose answer has the status of an error changes
nothing, and neither does one that only reads. One that asks for a step does to the workbench what
the step does, and it succeeds or fails with the step; if a request for an action that does not
only read succeeds, then it asks for a step. A console line that is not blank always succeeds. -/
theorem answer_exact (opener : Opener) (limit : Nat) (settings : Settings)
    (earlier : List Request) (req : Request) :
    let w := served opener limit settings earlier
    let w' := (answer opener limit settings w req).1
    let status := (answer opener limit settings w req).2.status
    (∃ steps, Drives opener limit settings earlier steps ∧
      w = (Workbench.empty settings.options).run steps) ∧
    (∀ a b, Routed req a → Routed req b → a = b) ∧
    (∀ a, Routed req a → ∃ r, status = r.status ∧
      (perform opener limit settings w req a = .error r ∧ w' = w ∨
        perform opener limit settings w req a = .ok (w', r))) ∧
    ((∀ a, ¬ Routed req a) → w' = w ∧
      (req.method = "OPTIONS" ∧ status = 200 ∨ (∀ res, ¬ Leads req.target res) ∧ status = 404 ∨
        (∃ res, Leads req.target res) ∧ status = 405)) ∧
    (400 ≤ status → w' = w) ∧
    (∀ a, Routed req a → a.reads = true → w' = w) ∧
    (∀ a step, Routed req a → Asks opener limit settings req a step →
      w' = w.after step ∧ (w.Admits step → status = 200) ∧ (¬ w.Admits step → 400 ≤ status)) ∧
    (∀ a, Routed req a → a.reads = false → status < 400 →
      ∃ step, Asks opener limit settings req a step ∧ w.Admits step) ∧
    (∀ line, Routed req .console → Asks opener limit settings req .console (.execute line) →
      status = 200 ∧ w' = (w.execute line).1) := by
  intro w w' status
  have hasked : ∀ a step, Routed req a → Asks opener limit settings req a step →
      w' = w.after step ∧ (w.Admits step → status = 200) ∧ (¬ w.Admits step → 400 ≤ status) :=
    fun a step hroute hasks => answer_of_asks w hroute hasks
  have hidle : (∀ a, Routed req a → ∀ step, ¬ Asks opener limit settings req a step) →
      w' = w ∧ ∀ a, Routed req a → a.reads = false → 400 ≤ status :=
    fun hnone => answer_of_not_asks w hnone
  refine ⟨served_eq_run opener limit settings earlier, fun a b ha hb => ha.unique hb,
    fun a hroute => answer_of_routed w hroute, answer_of_not_routed, ?_, ?_, hasked, ?_, ?_⟩
  · -- a request for a step is answered so only if the step is refused
    intro hstatus
    by_cases hstep : ∃ a step, Routed req a ∧ Asks opener limit settings req a step
    · obtain ⟨a, step, hroute, hasks⟩ := hstep
      obtain ⟨hafter, hadmitted, -⟩ := hasked a step hroute hasks
      have hrefused : ¬ w.Admits step := by
        intro hadmits
        have := hadmitted hadmits
        omega
      rw [hafter, Workbench.after_of_not_admits hrefused]
    · exact (hidle fun a hroute step hasks => hstep ⟨a, step, hroute, hasks⟩).1
  · intro a hroute hreads
    refine (hidle fun b hb step hasks => ?_).1
    rw [hroute.unique hb] at hreads
    cases hasks <;> cases hreads
  · intro a hroute hwrites hstatus
    by_cases hstep : ∃ step, Asks opener limit settings req a step
    · obtain ⟨step, hasks⟩ := hstep
      obtain ⟨-, -, hrefused⟩ := hasked a step hroute hasks
      refine ⟨step, hasks, ?_⟩
      by_contra hnot
      have := hrefused hnot
      omega
    · have hnone : ∀ b, Routed req b → ∀ step, ¬ Asks opener limit settings req b step := by
        intro b hb step hasks
        rw [← hroute.unique hb] at hasks
        exact hstep ⟨step, hasks⟩
      have := (hidle hnone).2 a hroute hwrites
      omega
  · intro line hroute hasks
    obtain ⟨hafter, hadmitted, -⟩ := hasked .console (.execute line) hroute hasks
    exact ⟨hadmitted trivial, hafter⟩

/-! ## A request for each kind of action

One of the requests uploads a spreadsheet file, which is an archive. Its members are not packed, and
each record of it starts with the letters `PK`. -/

/-- A number in so many bytes, the lowest first. -/
def littleEndian : Nat → Nat → List UInt8
  | 0, _ => []
  | size + 1, n => .ofNat n :: littleEndian size (n / 256)

/-- A file of an archive, with the checksum of its text. -/
structure Member where
  name : String
  checksum : Nat
  text : String

/-- What an archive says of a member in both of its records: that it is not packed, its time, its
checksum and its lengths. -/
def Member.header (m : Member) : List UInt8 :=
  [20, 0, 0, 0, 0, 0, 0, 0, 33, 0] ++ littleEndian 4 m.checksum ++
    littleEndian 4 m.text.utf8ByteSize ++ littleEndian 4 m.text.utf8ByteSize ++
    littleEndian 2 m.name.utf8ByteSize ++ [0, 0]

/-- The record of a member that holds its text. -/
def Member.record (m : Member) : List UInt8 :=
  [80, 75, 3, 4] ++ m.header ++ m.name.toUTF8.toList ++ m.text.toUTF8.toList

/-- The directory of members whose records start at `offset`. -/
def directory (offset : Nat) : List Member → List UInt8
  | [] => []
  | m :: ms =>
    [80, 75, 1, 2, 20, 0] ++ m.header ++ [0, 0, 0, 0, 0, 0, 0, 0, 0, 0] ++ littleEndian 4 offset ++
      m.name.toUTF8.toList ++ directory (offset + m.record.length) ms

/-- The archive of members: their records, the directory, and where that is. -/
def archive (ms : List Member) : List UInt8 :=
  let records := ms.flatMap Member.record
  let central := directory 0 ms
  records ++ central ++ [80, 75, 5, 6, 0, 0, 0, 0] ++ littleEndian 2 ms.length ++
    littleEndian 2 ms.length ++ littleEndian 4 central.length ++ littleEndian 4 records.length ++
    [0, 0]

/-- A spreadsheet file: an archive of a workbook, the place of its worksheet, and the worksheet, with
two cells in one column. -/
def bookFile : List UInt8 := archive
  [⟨"xl/workbook.xml", 0x2917d17a,
      "<workbook><sheets><sheet name=\"s\" r:id=\"r\"/></sheets></workbook>"⟩,
    ⟨"xl/_rels/workbook.xml.rels", 0x4bd34746,
      "<Relationships><Relationship Id=\"r\" Target=\"worksheets/s.xml\"/></Relationships>"⟩,
    ⟨"xl/worksheets/s.xml", 0x1e81bf48,
      "<worksheet><sheetData><row r=\"1\"><c r=\"A1\" t=\"str\"><v>k</v></c></row>" ++
        "<row r=\"2\"><c r=\"A2\" t=\"str\"><v>x</v></c></row></sheetData></worksheet>"⟩]

/-- The worksheet of the file. -/
def bookSheet : Worksheet := ⟨"s", [[some (.string "k")], [some (.string "x")]]⟩

/-- Opens the file, and nothing else. -/
def bookOpener : Opener := fun bytes => if bytes = bookFile then some [bookSheet] else none

/-- The table of the worksheet. -/
def bookTable : Table := ⟨"s", ["k"], [.ofList [("k", .text "x")]]⟩

/-- The upload of the file. -/
def bookRequest : Request := ⟨"POST", "/datasets/b.xlsx?format=xlsx", none, bookFile⟩

/-- A console line. -/
def lineRequest : Request :=
  ⟨"POST", "/console", some "application/json", "\x7b\"command\":\"list\"\x7d".toUTF8.toList⟩

/-- A request for each kind of action. -/
def tour : List (Request × Action) :=
  [(⟨"GET", "/health", none, []⟩, .health),
    (⟨"HEAD", "/datasets?all", none, []⟩, .listDatasets),
    (⟨"DELETE", "/datasets#all", none, []⟩, .clear),
    (bookRequest, .upload "b.xlsx"),
    (⟨"DELETE", "/datasets/b", none, []⟩, .remove "b"),
    (⟨"PUT", "/datasets/b/sheet", some "application/json", []⟩, .setSheet "b"),
    (lineRequest, .console),
    (⟨"POST", "/ground-truth", some "application/json", []⟩, .groundTruth),
    (⟨"POST", "/reasoning/reply", none, []⟩, .reply)]

/-- Every kind of action is asked for, a spreadsheet file is loaded, and a console line succeeds. -/
theorem answer_exact_tour :
    (∀ p ∈ tour, Routed p.1 p.2) ∧
    (let w := served bookOpener bodyLimit .default []
     let r := answer bookOpener bodyLimit .default w bookRequest
     r.1 = w.after (.load "b" [bookTable]) ∧ r.2.status = 200) ∧
    (let w := served bookOpener bodyLimit .default [bookRequest]
     let r := answer bookOpener bodyLimit .default w lineRequest
     r.1 = (w.execute "list").1 ∧ r.2.status = 200) := by
  have htour : ∀ p ∈ tour, Routed p.1 p.2 := by decide +kernel
  refine ⟨htour, ?_, ?_⟩
  · obtain ⟨-, -, -, -, -, -, hasked, -⟩ :=
      answer_exact bookOpener bodyLimit .default [] bookRequest
    have hopen : bookOpener bookFile = some [bookSheet] := if_pos rfl
    have hread : readWorkbook [bookSheet] = .ok [bookTable] := by cbv
    have htables : readTables .xlsx (fileStem "b.xlsx") bookFile bookOpener = .ok [bookTable] := by
      simp only [readTables, hopen, hread]
    have hgiven : parameter? "format" (Target.ofString bookRequest.target).query =
        some (some "xlsx") := by
      decide +kernel
    have hasks : Asks bookOpener bodyLimit .default bookRequest (.upload "b.xlsx")
        (.load (fileStem "b.xlsx") [bookTable]) :=
      .upload (by decide +kernel) hgiven (by decide +kernel) (by decide +kernel) (by decide +kernel)
        (.given rfl) htables
    have hstem : fileStem "b.xlsx" = "b" := by decide +kernel
    rw [hstem] at hasks
    have hroute : Routed bookRequest (.upload "b.xlsx") :=
      htour (bookRequest, .upload "b.xlsx") (by simp [tour])
    obtain ⟨hafter, hstatus, -⟩ := hasked _ _ hroute hasks
    exact ⟨hafter, hstatus ⟨_, rfl⟩⟩
  · obtain ⟨-, -, -, -, -, -, -, -, hconsole⟩ :=
      answer_exact bookOpener bodyLimit .default [bookRequest] lineRequest
    have hline : readJson bodyLimit (stringRecord "command") lineRequest = .ok "list" :=
      toOption_eq_some.1 (by decide +kernel)
    have hblank : trimmed "list" ≠ "" := by decide +kernel
    have hroute : Routed lineRequest .console :=
      htour (lineRequest, .console) (by simp [tour])
    obtain ⟨hstatus, hafter⟩ := hconsole "list" hroute (.console hline hblank)
    exact ⟨hafter, hstatus⟩

end Service

end Tabular
