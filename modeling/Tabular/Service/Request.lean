import Tabular.Text.Case
import Tabular.Text.Split
import Tabular.Text.Utf8

/-!
# Requests and responses

A request names a method and a target and carries a body; the target is a path and a query.

* `Target.ofString` cuts a target, `segments` are the parts of its path.
* `decodePercent` undoes the escapes of a part, `parameter?` finds a parameter of a query.
* `acceptsJson` tells whether a content type announces JSON.
-/

namespace Tabular.Service

/-- A request. -/
structure Request where
  method : String
  target : String
  contentType : Option String
  body : List UInt8

/-- The path and the query of a request. -/
structure Target where
  path : String
  query : String
  deriving DecidableEq, Repr

/-- Cuts a target at its first question mark; what follows a number sign is no part of it. -/
def Target.ofString (s : String) : Target :=
  let cs := s.toList.takeWhile (· != '#')
  match splitFirst? (· == '?') cs with
  | some (path, query) => ⟨.ofList path, .ofList query⟩
  | none => ⟨.ofList cs, ""⟩

/-- The parts of a path after its slashes; a path that does not start with one has none. -/
def segments (path : String) : List String :=
  match path.toList with
  | '/' :: rest => (splitAll (· == '/') rest).map .ofList
  | _ => []

/-- The value of a hexadecimal digit. -/
def hexDigit? (b : UInt8) : Option UInt8 :=
  if 0x30 ≤ b && b ≤ 0x39 then some (b - 0x30)
  else if 0x41 ≤ b && b ≤ 0x46 then some (b - 0x41 + 10)
  else if 0x61 ≤ b && b ≤ 0x66 then some (b - 0x61 + 10)
  else none

/-- The bytes of an escaped text; a percent sign without two digits stands for itself. -/
def decodePercent : List UInt8 → List UInt8
  | 0x25 :: a :: b :: rest =>
    match hexDigit? a, hexDigit? b with
    | some x, some y => (16 * x + y) :: decodePercent rest
    | _, _ => 0x25 :: decodePercent (a :: b :: rest)
  | b :: rest => b :: decodePercent rest
  | [] => []

/-- The text of an escaped part of a path, if its bytes are one. -/
def pathText? (s : String) : Option String :=
  String.fromUTF8? ⟨(decodePercent s.toUTF8.toList).toArray⟩

/-- The text of an escaped part of a query, where a plus sign stands for a blank. -/
def queryText (cs : List Char) : String :=
  let bytes := (String.ofList cs).toUTF8.toList
  lossyText (decodePercent (bytes.map fun b => if b == 0x2b then 0x20 else b))

/-- The parameters of a query. -/
def parameters (query : String) : List (String × String) :=
  ((splitAll (· == '&') query.toList).filter (!·.isEmpty)).map fun part =>
    match splitFirst? (· == '=') part with
    | some (name, value) => (queryText name, queryText value)
    | none => (queryText part, "")

/-- The value of a parameter, which may stand in a query only once. -/
def parameter? (name query : String) : Option (Option String) :=
  match (parameters query).filter (·.1 == name) with
  | [] => some none
  | [p] => some (some p.2)
  | _ => none

/-- A content type announces JSON by its subtype or by the suffix of it. -/
def acceptsJson (contentType : String) : Bool :=
  let essence := (lowered contentType).toList.takeWhile (· != ';')
  match splitFirst? (· == '/') (essence.reverse.dropWhile (· == ' ')).reverse with
  | some (type, subtype) =>
    type == "application".toList &&
      (subtype == "json".toList ||
        ((splitLast? (· == '+') subtype).map fun p => p.2 == "json".toList && !p.1.isEmpty) == some true)
  | none => false

end Tabular.Service
