import Tabular.Text.Blank
import Tabular.Text.Case

/-!
# Console lines

A line is a command when its first word is a keyword; `frame` also needs to know its second
word. Everything else is free text.

* `Keyword.ofWords?` knows the keywords and their short forms.
* `Command.parse?` reads a line.
-/

namespace Tabular

/-- The keyword of a command. -/
inductive Keyword where
  | describe | summarize | list | count | generate | drop | merge | frameChange | frameDir
  deriving DecidableEq, Repr

/-- A console line that is a command: its keyword, the words after the first, and the text of
the line without blanks around it. -/
structure Command where
  keyword : Keyword
  args : List String
  line : String
  deriving DecidableEq, Repr

/-- The keyword of a line of words. Keywords are known in any ASCII letter case. -/
def Keyword.ofWords? : List String → Option Keyword
  | [] => none
  | word :: args =>
    match lowered word with
    | "describe" | "d" => some .describe
    | "summarize" | "su" | "summ" => some .summarize
    | "list" | "l" => some .list
    | "count" => some .count
    | "generate" | "gen" => some .generate
    | "drop" => some .drop
    | "merge" => some .merge
    | "frame" =>
      match args.head?.map lowered with
      | some "change" => some .frameChange
      | some "dir" => some .frameDir
      | _ => none
    | _ => none

/-- **Reads a line**, unless it is free text. -/
def Command.parse? (line : String) : Option Command :=
  let ws := wordsOf line
  (Keyword.ofWords? ws).map fun keyword => ⟨keyword, ws.drop 1, trimmed line⟩

end Tabular
