/-!
# Letter case

Keywords and names of formats and functions are known in any letter case. All of them are
ASCII, and no other character is taken for an ASCII letter.
-/

namespace Tabular

/-- The text with its ASCII letters in lower case. -/
def lowered (s : String) : String := .ofList (s.toList.map Char.toLower)

end Tabular
