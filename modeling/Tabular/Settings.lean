import Tabular.Address
import Tabular.Sheet
import Tabular.Text.Case

/-!
# Settings

The service is set up by a few variables; one that is not set has its default.

* `Settings.ofVariables` reads them, in a fixed order, and stops at the first that is wrong.
-/

namespace Tabular

/-- The settings of the service. -/
structure Settings where
  address : SocketAddress
  maxFileSize : Nat
  inference : Inference
  ceiling : Nat
  sampleRows : Nat
  deriving DecidableEq, Repr

/-- Why a variable is refused. -/
inductive SettingsError where
  | unreadable (key raw : String)
  | unknownInference (name : String)
  deriving DecidableEq, Repr

/-- The wording of a settings error. -/
def SettingsError.message : SettingsError → String
  | .unreadable key raw => s!"Failed to parse {key}='{raw}'"
  | .unknownInference name =>
    s!"Failed to parse WORKBENCH_TYPE_INFERENCE='{name}': expected 'first' or 'majority'"

namespace Settings

/-- The settings when no variable is set. -/
def default : Settings where
  address := .octets [127, 0, 0, 1] 3000
  maxFileSize := 10 * 1024 * 1024
  inference := .first
  ceiling := 50
  sampleRows := 3

/-- Reads a variable without the blanks around it. -/
def setting (look : String → Option String) (key : String) (read : String → Option α)
    (otherwise : α) : Except SettingsError α :=
  match look key with
  | none => .ok otherwise
  | some raw => (read (trimmed raw)).elim (.error (.unreadable key raw)) .ok

/-- Reads the inference policy, in any ASCII letter case. -/
def inferenceVariable (look : String → Option String) : Except SettingsError Inference :=
  match look "WORKBENCH_TYPE_INFERENCE" with
  | none => .ok default.inference
  | some raw =>
    match lowered (trimmed raw) with
    | "first" => .ok .first
    | "majority" => .ok .majority
    | name => .error (.unknownInference name)

/-- **Reads the settings.** -/
def ofVariables (look : String → Option String) : Except SettingsError Settings := do
  let address ← setting look "WORKBENCH_ADDR" SocketAddress.read? default.address
  let maxFileSize ← setting look "WORKBENCH_MAX_FILE_SIZE" natural? default.maxFileSize
  let inference ← inferenceVariable look
  let ceiling ← setting look "WORKBENCH_CATEGORY_CEILING" natural? default.ceiling
  let sampleRows ← setting look "WORKBENCH_SAMPLE_ROWS" natural? default.sampleRows
  return { address, maxFileSize, inference, ceiling, sampleRows }

/-- The options of the workbench. -/
def options (s : Settings) : Options := ⟨s.inference, s.ceiling⟩

end Settings

end Tabular
