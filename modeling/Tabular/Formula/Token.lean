import Tabular.Cell
import Tabular.Formula.Tree
import Tabular.Text.Letter

/-!
# Tokens of a formula

A formula's source is cut into tokens with only blanks between them. A column of the table
is one token even when its name holds blanks or symbols: where a name is eligible, the
longest eligible name is taken.

* `Token.scan` recognises the token in front of a source that starts with no blank.
* `Token.eligible` says when a column name stands in front of a source.
* `Lexeme.ofSource` cuts a whole source, with byte positions.
-/

namespace Tabular

/-- The operators and punctuation of formulas. -/
inductive Symbol where
  | power | le | ge | eq | ne | andAnd | orOr
  | plus | minus | star | slash | caret | lt | gt | bang | and | or
  | question | colon | opening | closing | comma
  deriving DecidableEq, Repr

/-- How a symbol is written. -/
def Symbol.text : Symbol → String
  | .power => "**" | .le => "<=" | .ge => ">=" | .eq => "==" | .ne => "!="
  | .andAnd => "&&" | .orOr => "||"
  | .plus => "+" | .minus => "-" | .star => "*" | .slash => "/" | .caret => "^"
  | .lt => "<" | .gt => ">" | .bang => "!" | .and => "&" | .or => "|"
  | .question => "?" | .colon => ":" | .opening => "(" | .closing => ")" | .comma => ","

/-- All symbols, those of two characters before those of one. -/
def Symbol.all : List Symbol :=
  [.power, .le, .ge, .eq, .ne, .andAnd, .orOr, .plus, .minus, .star, .slash, .caret, .lt, .gt,
   .bang, .and, .or, .question, .colon, .opening, .closing, .comma]

/-- The longest symbol in front of a source. -/
def Symbol.front? (cs : List Char) : Option Symbol :=
  Symbol.all.find? (·.text.toList.isPrefixOf cs)

/-- One token of a formula. -/
inductive Token where
  | number (x : Float)
  | text (s : String)
  | column (name : String)
  | word (s : String)
  | symbol (s : Symbol)
  deriving DecidableEq

/-- How a token is named in a message. -/
def Token.description : Token → String
  | .number x => decimal x
  | .text s => "\"" ++ s ++ "\""
  | .column _ => "variable"
  | .word s => s
  | .symbol s => s.text

namespace Token

/-- The characters before an exponent. -/
def isMantissa (c : Char) : Bool := isDigit c || c == '.'

/-- The exponent in front of a source; empty unless it has a digit. -/
def exponentPart : List Char → List Char
  | c :: rest =>
    if c = 'e' ∨ c = 'E' then
      let sign := match rest with
        | '+' :: _ => ['+']
        | '-' :: _ => ['-']
        | _ => []
      match (rest.drop sign.length).takeWhile isDigit with
      | [] => []
      | digits => c :: (sign ++ digits)
    else []
  | [] => []

/-- The number in front of a source. -/
def numberPart (cs : List Char) : List Char :=
  cs.takeWhile isMantissa ++ exponentPart (cs.dropWhile isMantissa)

/-- A number starts with a digit, or with a point and a digit. -/
def startsNumber : List Char → Bool
  | '.' :: c :: _ => isDigit c
  | c :: _ => isDigit c
  | [] => false

/-- A column name stands in front of a source: no word character continues it, and it is
not the name of a function with an opening parenthesis after it. -/
def eligible (cs : List Char) (name : String) : Bool :=
  let after := cs.drop name.toList.length
  name.toList ≠ [] && name.toList.isPrefixOf cs && !after.head?.any isWordChar &&
    !((Func.ofName? name).isSome && (trimLeft after).head? == some '(')

/-- The longer of two names. -/
def longer (best : Option String) (name : String) : Option String :=
  match best with
  | none => some name
  | some b => if b.toList.length < name.toList.length then some name else some b

/-- The longest eligible column name. -/
def column? (columns : List String) (cs : List Char) : Option String :=
  (columns.filter (eligible cs)).foldl longer none

/-- **The token in front of the source `c :: rest`**, and how many characters of `rest` it
takes. Numbers come first, so a column named by a number never hides it; then columns,
quoted texts, words and symbols. -/
def scan (columns : List String) (c : Char) (rest : List Char) (pos : Nat) :
    Except FormulaError (Token × Nat) :=
  if startsNumber (c :: rest) then
    let part := numberPart (c :: rest)
    match float? (.ofList part) with
    | some x => .ok (.number x, part.length - 1)
    | none => .error (.invalidNumber (.ofList part))
  else match column? columns (c :: rest) with
  | some name => .ok (.column name, name.toList.length - 1)
  | none =>
    if c = '"' ∨ c = '\'' then
      let body := rest.takeWhile (· != c)
      if body.length < rest.length then .ok (.text (.ofList body), body.length + 1)
      else .error (.unterminatedText pos)
    else if isWordStart c then
      let more := rest.takeWhile isWordChar
      .ok (.word (.ofList (c :: more)), more.length)
    else match Symbol.front? (c :: rest) with
    | some s => .ok (.symbol s, s.text.toList.length - 1)
    | none => .error (.unexpectedChar c pos)

end Token

/-- The count of bytes that characters take in UTF-8. -/
def byteLength : List Char → Nat
  | [] => 0
  | c :: cs => c.utf8Size + byteLength cs

/-- A token with the byte position where its text begins. -/
structure Lexeme where
  token : Token
  pos : Nat
  deriving DecidableEq

/-- Cuts the characters from a byte position on into lexemes. -/
def Lexeme.cut (columns : List String) (pos : Nat) (cs : List Char) :
    Except FormulaError (List Lexeme) :=
  match _h : trimLeft cs with
  | [] => .ok []
  | c :: rest =>
    let start := pos + byteLength (cs.takeWhile isBlank)
    match Token.scan columns c rest start with
    | .error e => .error e
    | .ok (token, k) =>
      match cut columns (start + byteLength (c :: rest.take k)) (rest.drop k) with
      | .error e => .error e
      | .ok lexemes => .ok (⟨token, start⟩ :: lexemes)
termination_by cs.length
decreasing_by
  have hle := trimLeft_length_le cs
  rw [_h, List.length_cons] at hle
  have hd : (rest.drop k).length ≤ rest.length := by simp
  omega

/-- **Cuts a source into lexemes.** -/
def Lexeme.ofSource (columns : List String) (source : String) : Except FormulaError (List Lexeme) :=
  cut columns 0 source.toList

end Tabular
