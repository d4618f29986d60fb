import Tabular.Json.Document

/-!
# Records out of JSON documents

A decoder walks a document in the order of its text and stops at the first fault. There are
two faults: the text is no JSON at that place, or the value there has the wrong shape.

* `Document.unfit` is the fault of a value that cannot stand where it does.
* `Record` describes a record; `Record.decode` reads it from an object, members in any
  order, or from a list in the order of the fields.
* `Document.value` is the plain value of a document.
-/

namespace Tabular.Json

/-- Why a document is refused. -/
inductive Fault where
  | malformed
  | mismatched
  deriving DecidableEq, Repr

/-- A reader of values out of documents. -/
abbrev Decoder (α : Type) := Document → Except Fault α

namespace Document

/-- The fault of a value in a place where it does not fit. A number or text that cannot be
read is a fault of the text. -/
def unfit : Document → Fault
  | .broken | .number .beyond | .text none => .malformed
  | _ => .mismatched

mutual

/-- The text of the document does not break; what its numbers and texts stand for does not
matter. -/
def intact : Document → Bool
  | .broken => false
  | .list items => allIntact items
  | .object members => membersIntact members
  | _ => true

/-- No item breaks. -/
def allIntact : List Document → Bool
  | [] => true
  | d :: ds => d.intact && allIntact ds

/-- No member breaks. -/
def membersIntact : List (Option String × Document) → Bool
  | [] => true
  | m :: ms => m.2.intact && membersIntact ms

end

end Document

namespace Decoder

/-- A string. -/
def string : Decoder String
  | .text (some s) => .ok s
  | d => .error d.unfit

/-- A count. -/
def count : Decoder Nat
  | .number (.int n) => if n ≥ 0 then .ok n.toNat else .error .mismatched
  | d => .error d.unfit

/-- The nearest double of a whole number. -/
def wholeFloat (n : Int) : Float :=
  let x := nearest n.natAbs 0
  if n < 0 then -x else x

/-- A double. -/
def float : Decoder Float
  | .number (.int n) => .ok (wholeFloat n)
  | .number (.float x) => .ok x
  | d => .error d.unfit

/-- A value or null. -/
def nullable (f : Decoder α) : Decoder (Option α)
  | .null => .ok none
  | d => (f d).map some

/-- A list. -/
def list (f : Decoder α) : Decoder (List α)
  | .list items => items.mapM f
  | d => .error d.unfit

/-- One of some names, alone or as the name of a null member. -/
def variant (f : String → Option α) : Decoder α
  | .text (some s) => (f s).elim (.error .mismatched) .ok
  | .object ((some s, d) :: ms) =>
    match f s, d, ms with
    | none, _, _ => .error .mismatched
    | some a, .null, [] => .ok a
    | some _, .null, _ => .error .malformed
    | some _, d, _ => .error d.unfit
  | .object ((none, _) :: _) => .error .malformed
  | d => .error d.unfit

end Decoder

/-- How a record is read: `σ` holds the members met so far. A list must hold the first
`required` fields; `store` knows the fields by name. -/
structure Record (σ α : Type) where
  fields : List String
  required : Nat
  start : σ
  store : σ → String → Document → Except Fault σ
  finish : σ → Option α

/-- Fills a slot of a record, which must not have been filled. -/
def fill (slot : Option α) (f : Decoder α) (d : Document) : Except Fault (Option α) :=
  match slot with
  | some _ => .error .mismatched
  | none => (f d).map some

namespace Record

/-- Stores the members of an object; members of other names are passed over. -/
def members (r : Record σ α) (s : σ) : List (Option String × Document) → Except Fault σ
  | [] => .ok s
  | (none, _) :: _ => .error .malformed
  | (some name, d) :: ms =>
    if name ∈ r.fields then
      match r.store s name d with
      | .ok s => r.members s ms
      | .error e => .error e
    else if d.intact then r.members s ms
    else .error .malformed

/-- Stores the items of a list as the fields in order. -/
def items (r : Record σ α) (s : σ) (needed : Nat) : List String → List Document → Except Fault σ
  | [], [] => .ok s
  | [], _ :: _ => .error .malformed
  | _ :: _, [] => if needed = 0 then .ok s else .error .mismatched
  | name :: names, d :: ds =>
    match r.store s name d with
    | .ok s => r.items s (needed - 1) names ds
    | .error e => .error e

/-- **Reads a record.** -/
def decode (r : Record σ α) : Decoder α
  | .object ms => do
    let s ← r.members r.start ms
    (r.finish s).elim (.error .mismatched) .ok
  | .list ds => do
    let s ← r.items r.start r.required r.fields ds
    (r.finish s).elim (.error .mismatched) .ok
  | d => .error d.unfit

end Record

namespace Document

/-- Lists and objects are nested at most this deep in a plain value. -/
def deepest : Nat := 127

mutual

/-- The plain value of a document, nested at most `depth` deep. Members are ordered by name;
of equal names the last one stays. -/
def value (depth : Nat) : Document → Except Fault Json
  | .null => .ok .null
  | .bool b => .ok (.bool b)
  | .number (.int n) => .ok (.int n)
  | .number (.float x) => .ok (.float x)
  | .text (some s) => .ok (.text s)
  | .list items =>
    if depth = 0 then .error .malformed
    else (values (depth - 1) items).map .list
  | .object ms =>
    if depth = 0 then .error .malformed
    else (memberValues (depth - 1) ms).map fun ms => .object (sortMembers ms)
  | .broken | .number .beyond | .text none => .error .malformed

/-- The values of the items. -/
def values (depth : Nat) : List Document → Except Fault (List Json)
  | [] => .ok []
  | d :: ds => do return (← value depth d) :: (← values depth ds)

/-- The values of the members. -/
def memberValues (depth : Nat) :
    List (Option String × Document) → Except Fault (List (String × Json))
  | [] => .ok []
  | (none, _) :: _ => .error .malformed
  | (some name, d) :: ms => do return (name, ← value depth d) :: (← memberValues depth ms)

end

end Document

end Tabular.Json
