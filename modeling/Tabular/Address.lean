import Tabular.Decimal.Numeral
import Tabular.Text.Join

/-!
# Socket addresses

A host address of four octets or of eight groups of sixteen bits, and a port.

* `SocketAddress.read?` reads `host:port`; the host with groups stands in brackets and may
  have a numeric scope.
* `SocketAddress.text` writes it: of groups that are zero the first longest run is left out.
-/

namespace Tabular

/-- Where a service listens. -/
inductive SocketAddress where
  | octets (host : List Nat) (port : Nat)
  | groups (host : List Nat) (scope port : Nat)
  deriving DecidableEq, Repr

namespace SocketAddress

/-- The value of a digit up to `f`. -/
def hexDigit? (c : Char) : Option Nat :=
  if isDigit c then some (digitValue c)
  else if 'a' ≤ c ∧ c ≤ 'f' then some (c.toNat - 'a'.toNat + 10)
  else if 'A' ≤ c ∧ c ≤ 'F' then some (c.toNat - 'A'.toNat + 10)
  else none

/-- Takes a given character. -/
def take? (c : Char) : List Char → Option (List Char)
  | [] => none
  | d :: rest => if d = c then some rest else none

/-- A decimal number below a limit. -/
def number? (limit : Nat) (cs : List Char) : Option (Nat × List Char) :=
  match cs.takeWhile isDigit with
  | [] => none
  | ds => if digitsValue ds < limit then some (digitsValue ds, cs.dropWhile isDigit) else none

/-- An octet: at most three digits, without a leading zero. -/
def octet? (cs : List Char) : Option (Nat × List Char) :=
  let ds := cs.takeWhile isDigit
  if ds.length > 3 ∨ (ds.head? = some '0' ∧ ds.length > 1) then none else number? 256 cs

/-- Four octets with points between them. -/
def octets? (cs : List Char) : Option (List Nat × List Char) := do
  let (a, cs) ← octet? cs
  let (b, cs) ← octet? (← take? '.' cs)
  let (c, cs) ← octet? (← take? '.' cs)
  let (d, cs) ← octet? (← take? '.' cs)
  return ([a, b, c, d], cs)

/-- A group: one to four hexadecimal digits. -/
def group? (cs : List Char) : Option (Nat × List Char) :=
  let ds := cs.takeWhile fun c => (hexDigit? c).isSome
  if ds.isEmpty ∨ ds.length > 4 then none
  else some (ds.foldl (fun n c => 16 * n + (hexDigit? c).getD 0) 0, cs.drop ds.length)

/-- Takes the colon in front of every group but the first. -/
def separated? (first : Bool) (cs : List Char) : Option (List Char) :=
  if first then some cs else take? ':' cs

/-- Up to `room` groups, the last two of them possibly written as four octets; and whether
they were. -/
def readRun (first : Bool) : Nat → List Char → List Nat × Bool × List Char
  | 0, cs => ([], false, cs)
  | room + 1, cs =>
    match separated? first cs with
    | none => ([], false, cs)
    | some inner =>
      match if room = 0 then none else octets? inner with
      | some ([a, b, c, d], rest) => ([256 * a + b, 256 * c + d], true, rest)
      | _ =>
        match group? inner with
        | none => ([], false, cs)
        | some (g, rest) =>
          let (gs, embedded, rest) := readRun false room rest
          (g :: gs, embedded, rest)

/-- Eight groups; two colons stand for one or more that are zero. -/
def host? (cs : List Char) : Option (List Nat × List Char) :=
  let (head, embedded, rest) := readRun true 8 cs
  if head.length = 8 then some (head, rest)
  else if embedded then none
  else do
    let rest ← take? ':' (← take? ':' rest)
    let (tail, _, rest) := readRun true (7 - head.length) rest
    return (head ++ List.replicate (8 - head.length - tail.length) 0 ++ tail, rest)

/-- The port after a host, which ends the address. -/
def port? (cs : List Char) : Option Nat := do
  match ← number? 65536 (← take? ':' cs) with
  | (port, []) => some port
  | _ => none

/-- Reads an address whose host is four octets. -/
def readOctets? (cs : List Char) : Option SocketAddress := do
  let (host, cs) ← octets? cs
  return .octets host (← port? cs)

/-- Reads an address whose host is eight groups. -/
def readGroups? (cs : List Char) : Option SocketAddress := do
  let (host, cs) ← host? (← take? '[' cs)
  match take? '%' cs with
  | some cs =>
    let (scope, cs) ← number? (Nat.pow 2 32) cs
    return .groups host scope (← port? (← take? ']' cs))
  | none => return .groups host 0 (← port? (← take? ']' cs))

/-- **Reads an address.** -/
def read? (s : String) : Option SocketAddress :=
  (readOctets? s.toList).or (readGroups? s.toList)

/-- The octets with points between them. -/
def octetsText (host : List Nat) : String := joined "." (host.map toString)

/-- Groups with colons between them. -/
def groupsText (gs : List Nat) : String :=
  joined ":" (gs.map fun g => .ofList (Nat.toDigits 16 g))

/-- The place and the length of the first longest run of zeros among groups from place `i` on. -/
def longestRun (i : Nat) : List Nat → Nat × Nat
  | [] => (i, 0)
  | g :: gs =>
    let here := ((g :: gs).takeWhile (· == 0)).length
    let later := longestRun (i + 1) gs
    if later.2 ≤ here then (i, here) else later

/-- The host of eight groups. -/
def hostText (gs : List Nat) : String :=
  match gs with
  | [0, 0, 0, 0, 0, 0xffff, a, b] =>
    "::ffff:" ++ octetsText [a / 256, a % 256, b / 256, b % 256]
  | _ =>
    let (place, length) := longestRun 0 gs
    if length > 1 then
      groupsText (gs.take place) ++ "::" ++ groupsText (gs.drop (place + length))
    else groupsText gs

/-- **The text of an address.** -/
def text : SocketAddress → String
  | .octets host port => octetsText host ++ s!":{port}"
  | .groups host scope port =>
    "[" ++ hostText host ++ (if scope = 0 then "" else s!"%{scope}") ++ s!"]:{port}"

end SocketAddress

end Tabular
