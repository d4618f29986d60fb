import Tabular.Decimal.Shortest

/-!
# JSON values

The values that answers are made of. Whole numbers and doubles are kept apart, and an
object keeps the order in which its members were given.

* `Json.ofFloat` has no number for infinities and NaN: they become null.
* `Json.sortMembers` orders members by name; of equal names the last one stays.
-/

namespace Tabular

/-- A JSON value. -/
inductive Json where
  | null
  | bool (b : Bool)
  | int (n : Int)
  | float (x : Float)
  | text (s : String)
  | list (items : List Json)
  | object (members : List (String × Json))

namespace Json

/-- A double as a number; null when it is not finite. -/
def ofFloat (x : Float) : Json := if x.isFinite then .float x else .null

/-- A count. -/
def ofNat (n : Nat) : Json := .int n

/-- A value or null. -/
def ofOption (f : α → Json) : Option α → Json
  | some a => f a
  | none => .null

/-- A list of values. -/
def ofList (f : α → Json) (as : List α) : Json := .list (as.map f)

/-- Puts a member into an ordered list of members, in place of one of the same name. -/
def insertMember (name : String) (v : Json) : List (String × Json) → List (String × Json)
  | [] => [(name, v)]
  | m :: ms =>
    if m.1 = name then (name, v) :: ms
    else if name < m.1 then (name, v) :: m :: ms
    else m :: insertMember name v ms

/-- The members in the order of their names, each name once. -/
def sortMembers (ms : List (String × Json)) : List (String × Json) :=
  ms.foldl (fun sorted m => insertMember m.1 m.2 sorted) []

end Json

end Tabular
