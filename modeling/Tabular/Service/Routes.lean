import Tabular.Intake.Format
import Tabular.Json.Records
import Tabular.Reply
import Tabular.Service.Request
import Tabular.Settings
import Tabular.Workbench

/-!
# The service

The service answers requests about one workbench. A request is routed by its path, read, and
carried out; a request that cannot be read changes nothing.

* `Route.of` is the routing table.
* `Refusal` tells why a request is refused, with its status.
* `Service.answer` answers one request under a limit for bodies and gives the workbench after it,
  and `Service.respond` does so under the usual limit. Both are given what opens spreadsheet files.
-/

namespace Tabular.Service

/-- What a response carries. -/
inductive Body where
  | none
  | text (s : String)
  | json (j : Json)

/-- A response. -/
structure Response where
  status : Nat
  body : Body

/-- Why a request is refused by what it says; errors of the workbench are among it. -/
inductive Refusal where
  | emptyCommand
  | emptyUpload
  | unknownFormat (name : String)
  | tooLarge (size limit : Nat)
  | missingDataset (name : String)
  | bench (e : BenchError)
  deriving DecidableEq, Repr

/-- The wording of a refusal. -/
def Refusal.message : Refusal → String
  | .emptyCommand => "Invalid input: Empty command"
  | .emptyUpload => "Invalid input: Empty upload"
  | .unknownFormat name => s!"Invalid input: Cannot infer file format of '{name}'"
  | .tooLarge size limit => s!"Payload too large: {size} bytes exceeds limit of {limit} bytes"
  | .missingDataset name => s!"Not found: Dataset {name}"
  | .bench e => e.message

/-- The status of a refusal. -/
def Refusal.status : Refusal → Nat
  | .tooLarge .. => 413
  | .missingDataset _ => 404
  | .bench (.datasetNotFound ..) => 404
  | .bench (.sheetNotFound _) => 404
  | .bench .noActiveDataset => 409
  | .bench (.render _) => 500
  | _ => 400

/-- The response to a refused request. -/
def Refusal.response (r : Refusal) : Response :=
  ⟨r.status, .json (.object [("error", .text r.message)])⟩

/-- A response without content. -/
def bare (status : Nat) : Response := ⟨status, .none⟩

/-- A response with a JSON object. -/
def okObject (members : List (String × Json)) : Response := ⟨200, .json (.object members)⟩

/-- The resources of the service, those of a dataset with the escaped name. -/
inductive Resource where
  | health
  | datasets
  | dataset (name : String)
  | activeSheet (name : String)
  | console
  | groundTruth
  | reply
  deriving DecidableEq, Repr

/-- The resource of a path. -/
def Resource.of? (path : String) : Option Resource :=
  match segments path with
  | ["health"] => some .health
  | ["datasets"] => some .datasets
  | ["datasets", name] => if name.isEmpty then none else some (.dataset name)
  | ["datasets", name, "sheet"] => if name.isEmpty then none else some (.activeSheet name)
  | ["console"] => some .console
  | ["ground-truth"] => some .groundTruth
  | ["reasoning", "reply"] => some .reply
  | _ => none

/-- What a request asks for. -/
inductive Action where
  | health
  | listDatasets
  | clear
  | upload (name : String)
  | remove (name : String)
  | setSheet (name : String)
  | console
  | groundTruth
  | reply
  deriving DecidableEq, Repr

/-- The action of a method on a resource. -/
def Action.of? (method : String) : Resource → Option Action
  | .health => if method = "GET" then some .health else none
  | .datasets =>
    if method = "GET" then some .listDatasets
    else if method = "DELETE" then some .clear
    else none
  | .dataset name =>
    if method = "POST" then some (.upload name)
    else if method = "DELETE" then some (.remove name)
    else none
  | .activeSheet name => if method = "PUT" then some (.setSheet name) else none
  | .console => if method = "POST" then some .console else none
  | .groundTruth => if method = "POST" then some .groundTruth else none
  | .reply => if method = "POST" then some .reply else none

/-- A sheet as the service tells about it; summaries are told only if there are any. -/
def sheetInfo (withSummaries : Bool) (s : Sheet) : Json :=
  .object <|
    [("name", .text s.name), ("obs", .ofNat s.rows.length), ("vars", .ofNat s.columns.length)] ++
    if withSummaries && !s.summaries.isEmpty then
      [("summaries", .ofList Summary.toJson s.summaries)] else []

/-- A dataset as the service tells about it. -/
def datasetInfo (w : Workbench) (withSummaries : Bool) (d : Dataset) : Json :=
  .object [
    ("name", .text d.name), ("active", .bool (w.active == some d.name)),
    ("active_sheet", .text d.activeSheet),
    ("sheets", .ofList (sheetInfo withSummaries) d.sheets)]

/-- The name of the active dataset or null. -/
def activeName (w : Workbench) : Json := .ofOption .text w.active

/-- A record with one string. -/
def stringRecord (field : String) : Json.Record (Option String) String where
  fields := [field]
  required := 1
  start := none
  store s _ d := Json.fill s Json.Decoder.string d
  finish s := s

/-- The columns that a ground truth is asked for, which need not be given. -/
def columnsRecord : Json.Record (Option (Option (List String))) (Option (List String)) where
  fields := ["vars"]
  required := 0
  start := none
  store s _ d := Json.fill s (Json.Decoder.nullable (Json.Decoder.list Json.Decoder.string)) d
  finish s := some s.join

/-- Where no other limit is set, no body may be larger. -/
def bodyLimit : Nat := 2 * 1024 * 1024

/-- Reads a JSON body, which its content type must announce. What follows the value in it is
left aside. -/
def readJson (limit : Nat) (r : Json.Record σ α) (req : Request) : Except Response α :=
  if !(req.contentType.map acceptsJson).getD false then .error (bare 415)
  else if req.body.length > limit then .error (bare 413)
  else
    match r.decode (Json.Document.read req.body).1 with
    | .ok a => .ok a
    | .error .malformed => .error (bare 400)
    | .error .mismatched => .error (bare 422)

/-- Reads an escaped name. -/
def readName (name : String) : Except Response String :=
  match pathText? name with
  | some name => .ok name
  | none => .error (bare 400)

/-- The format of an upload: the one that is given, or else the one of its file name. -/
def uploadFormat (name : String) (given : Option String) : Except Refusal FileFormat :=
  match given with
  | some f =>
    match FileFormat.named f with
    | .ok format => .ok format
    | .error e => .error (.bench (.intake e))
  | none =>
    match FileFormat.ofFileName? name with
    | some format => .ok format
    | none => .error (.unknownFormat name)

/-- The tables of an upload and the name for their dataset. -/
def readUpload (opener : Opener) (settings : Settings) (name : String) (given : Option String)
    (body : List UInt8) : Except Refusal (String × List Table) := do
  if body.length > settings.maxFileSize then .error (.tooLarge body.length settings.maxFileSize)
  else if body.isEmpty then .error .emptyUpload
  else
    let format ← uploadFormat name given
    match readTables format (fileStem name) body opener with
    | .ok tables => return (fileStem name, tables)
    | .error e => .error (.bench (.intake e))

/-- Loads a file as a dataset. -/
def upload (opener : Opener) (limit : Nat) (settings : Settings) (w : Workbench) (name : String)
    (req : Request) : Except Response (Workbench × Response) := do
  let name ← readName name
  match parameter? "format" (Target.ofString req.target).query with
  | none => .error (bare 400)
  | some format =>
    if req.body.length > limit then .error (bare 413)
    else
      match readUpload opener settings name format req.body with
      | .error e => .error e.response
      | .ok (stem, tables) =>
        match w.load stem tables with
        | .error e => .error (Refusal.bench e).response
        | .ok (w', d) => return (w', ⟨200, .json (datasetInfo w' true d)⟩)

/-- Removes a dataset. -/
def remove (w : Workbench) (name : String) : Except Response (Workbench × Response) := do
  let name ← readName name
  match w.remove name with
  | .error e => .error (Refusal.bench e).response
  | .ok w' => return (w', okObject [("removed", .text name), ("active", activeName w')])

/-- Makes a sheet of a dataset its active one. -/
def setSheet (limit : Nat) (w : Workbench) (name : String) (req : Request) :
    Except Response (Workbench × Response) := do
  let name ← readName name
  let sheet ← readJson limit (stringRecord "sheet") req
  match w.setActiveSheet name sheet with
  | .error e => .error (Refusal.bench e).response
  | .ok w' =>
    match w'.find? name with
    | some d => return (w', ⟨200, .json (datasetInfo w' false d)⟩)
    | none => return (w', (Refusal.missingDataset name).response)

/-- Runs a console line. Free text comes back with a request to the reasoning service, if
there is data to ask about. -/
def runConsole (limit : Nat) (settings : Settings) (w : Workbench) (req : Request) :
    Except Response (Workbench × Response) := do
  let line := trimmed (← readJson limit (stringRecord "command") req)
  if line.isEmpty then .error Refusal.emptyCommand.response
  else
    let (w', e) := w.execute line
    let request :=
      if e.handled then none else (w'.reasoningRequest line none settings.sampleRows).toOption
    let more := match request with
      | some r => [("reasoning_request", r.toJson)]
      | none => []
    return (w', okObject (e.members ++ more))

/-- The exact sums of the active sheet. -/
def readGroundTruth (limit : Nat) (w : Workbench) (req : Request) : Except Response Response := do
  let scope := match ← readJson limit columnsRecord req with
    | some (c :: cs) => Scope.custom (c :: cs)
    | _ => .full
  match w.groundTruth scope with
  | .error e => .error (Refusal.bench e).response
  | .ok text => return okObject [("context", .text text)]

/-- Reads a reply; one that cannot be used gives the stock reply. -/
def readReply (limit : Nat) (req : Request) : Except Response Response :=
  if req.body.length > limit then .error (bare 413)
  else
    match String.fromUTF8? ⟨req.body.toArray⟩ with
    | none => .error (bare 400)
    | some raw => .ok ⟨200, .json ((Reply.read raw).toOption.getD Reply.fallback).toJson⟩

/-- Carries out an action: the workbench after it and the response, or the response that
refuses it. -/
def perform (opener : Opener) (limit : Nat) (settings : Settings) (w : Workbench) (req : Request) :
    Action → Except Response (Workbench × Response)
  | .health => .ok (w, ⟨200, .text "OK"⟩)
  | .listDatasets =>
    .ok (w, okObject [("active", activeName w),
      ("datasets", .ofList (datasetInfo w false) w.datasets)])
  | .clear => .ok (w.clear, okObject [("removed", .ofNat w.datasets.length)])
  | .upload name => upload opener limit settings w name req
  | .remove name => remove w name
  | .setSheet name => setSheet limit w name req
  | .console => runConsole limit settings w req
  | .groundTruth => (readGroundTruth limit w req).map fun r => (w, r)
  | .reply => (readReply limit req).map fun r => (w, r)

/-- The head of a response: its status without its content. -/
def headOf (r : Response) : Response :=
  match r.body with
  | .text _ => ⟨r.status, .text ""⟩
  | _ => bare r.status

/-- **Answers a request.** No body may be larger than the limit. A question for the options of
any path is answered at once, and one for the head of a resource like one for the resource. -/
def answer (opener : Opener) (limit : Nat) (settings : Settings) (w : Workbench) (req : Request) :
    Workbench × Response :=
  if req.method = "OPTIONS" then (w, ⟨200, .text ""⟩)
  else
    match Resource.of? (Target.ofString req.target).path with
    | none => (w, bare 404)
    | some resource =>
      let isHead := req.method == "HEAD"
      match Action.of? (if isHead then "GET" else req.method) resource with
      | none => (w, bare 405)
      | some action =>
        match perform opener limit settings w req action with
        | .error r => (w, r)
        | .ok (w', r) => (w', if isHead then headOf r else r)

/-- Answers a request under the usual limit for bodies. -/
def respond (settings : Settings) (w : Workbench) (req : Request)
    (opener : Opener := Opener.never) : Workbench × Response :=
  answer opener bodyLimit settings w req

/-- The workbench that the service starts with. -/
def start (settings : Settings) : Workbench := .empty settings.options

/-- **The workbench after requests**, answered one after the other from the start. -/
def served (opener : Opener) (limit : Nat) (settings : Settings) (requests : List Request) :
    Workbench :=
  requests.foldl (fun w req => (answer opener limit settings w req).1) (start settings)

end Tabular.Service
