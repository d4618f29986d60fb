import Tabular.Error
import Tabular.Json.Decode

/-!
# Replies of the reasoning service

A reply is prose with a JSON object somewhere in it: all from the first opening brace to the
last closing one is taken for that object.

* `objectIn?` finds it.
* `Reply.read` reads it; `Reply.fallback` stands in for a reply that cannot be read.
-/

namespace Tabular

open Json

/-- What the reply is meant to be. -/
inductive Intent where
  | analysis | chart | unknown
  deriving DecidableEq, Repr

/-- A reply: its intent, its text, and a chart that is passed on as it is. -/
structure Reply where
  intent : Intent
  text : String
  chart : Option Json

/-- The name of an intent. -/
def Intent.name : Intent → String
  | .analysis => "ANALYSIS"
  | .chart => "CHART"
  | .unknown => "UNKNOWN"

/-- The intent of a name; a name that is not known stands for an unknown intent. -/
def Intent.ofName (name : String) : Intent :=
  match name with
  | "ANALYSIS" => .analysis
  | "CHART" => .chart
  | _ => .unknown

/-- The members of a reply that have been met. -/
structure Reply.Draft where
  intent : Option Intent := none
  text : Option String := none
  chart : Option (Option Json) := none

/-- How a reply is read. -/
def Reply.record : Record Reply.Draft Reply where
  fields := ["intent", "textResponse", "chartConfig"]
  required := 2
  start := {}
  store s key d :=
    match key with
    | "intent" => do
      return { s with intent := ← fill s.intent (Decoder.variant fun n => some (.ofName n)) d }
    | "textResponse" => do return { s with text := ← fill s.text Decoder.string d }
    | _ => do
      let value := Decoder.nullable fun d => d.value (Document.deepest - 1)
      return { s with chart := ← fill s.chart value d }
  finish s := do return ⟨← s.intent, ← s.text, s.chart.join⟩

/-- The text from the first opening brace to the last closing one. -/
def objectIn? (cs : List Char) : Option (List Char) :=
  let fromFirst := cs.dropWhile (· != '\x7b')
  let upToLast := (fromFirst.reverse.dropWhile (· != '\x7d')).reverse
  if upToLast.isEmpty then none else some upToLast

/-- **Reads a reply.** -/
def Reply.read (raw : String) : Except ReplyError Reply :=
  match objectIn? raw.toList with
  | none => .error (.noObject raw)
  | some cs =>
    match Reply.record.decode (Document.ofBytes (String.ofList cs).toUTF8.toList) with
    | .ok reply => .ok reply
    | .error _ => .error (.unreadable (.ofList cs))

/-- What is shown when a reply cannot be used. -/
def Reply.fallback : Reply where
  intent := .analysis
  text := "I encountered an error processing your request. Please try a different query."
  chart := none

/-- A reply as JSON. -/
def Reply.toJson (r : Reply) : Json :=
  .object [("intent", .text r.intent.name), ("textResponse", .text r.text),
    ("chartConfig", r.chart.getD .null)]

end Tabular
