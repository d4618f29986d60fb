import Mathlib
import Tabular.Console.Run
import Tabular.Proofs.Split
import Tabular.Proofs.Words

/-!
# Lines and how they are read

Console lines in the forms in which they are typed, and the commands that they are read as.

* A name with blanks is written in quotes. The line is read as words all the same: they are put
  together again with single spaces, and all quotes are left out. `heard` is the name that comes
  out of this, and `heard_eq_iff` says which names are not changed on the way: the `Sayable` ones.
* `interpret_trimmed`: blanks around a line do not matter.
* `parse?_switchLine`, `parse?_mergeLine`, `parse?_generateLine` and `parse?_dropLine` read the
  lines of four commands.
* `name_of_generateRequest`: a new column gets the name that stands in the line.
-/

namespace Tabular

variable {name column source : String}

/-! ## Blanks around a line -/

/-- A line is read without the blanks around it. -/
theorem Command.parse?_trimmed (line : String) :
    Command.parse? (trimmed line) = Command.parse? line := by
  have hwords : wordsOf (trimmed line) = wordsOf line := by
    unfold wordsOf trimmed
    rw [String.toList_ofList, words_trim]
  have hline : trimmed (trimmed line) = trimmed line := by
    unfold trimmed
    rw [String.toList_ofList, trim_trim]
  unfold Command.parse?
  rw [hwords, hline]

/-- A line gives what it gives without the blanks around it. -/
theorem interpret_trimmed (ctx : Context) (line : String) :
    interpret ctx (trimmed line) = interpret ctx line := by
  unfold interpret
  rw [Command.parse?_trimmed]

/-! ## What a name is heard as -/

/-- A name in quotes. -/
def quoted (name : String) : String := "\"" ++ name ++ "\""

/-- The name that a name in quotes is heard as: runs of blanks are single spaces, and there are
no quotes. -/
def heard (name : String) : String := .ofList ((squeezed name.toList).filter (· != '"'))

/-- The name has no quotes, and its blanks are single spaces. -/
structure Sayable (name : String) : Prop where
  unquoted : '"' ∉ name.toList
  spaces : ∀ c ∈ name.toList, isBlank c = true → c = ' '
  single : ¬ [' ', ' '] <:+: name.toList

/-- **Sayable names are heard as they are**, and no others. -/
theorem heard_eq_iff : heard name = name ↔ Sayable name := by
  rw [← String.toList_inj, heard, String.toList_ofList]
  constructor
  · intro h
    have hquote : '"' ∉ name.toList := by
      rw [← h]
      simp
    -- squeezing brings in no quotes either, so none were left out
    have hsqueezed : '"' ∉ squeezed name.toList := fun hmem =>
      (mem_of_mem_squeezed hmem).elim (by decide) hquote
    have hall : (squeezed name.toList).filter (· != '"') = squeezed name.toList := by
      refine List.filter_eq_self.2 fun c hc => ?_
      rw [bne_iff_ne]
      rintro rfl
      exact hsqueezed hc
    rw [hall, squeezed_eq_iff] at h
    exact ⟨hquote, h.1, h.2⟩
  · rintro ⟨hquote, hspaces, hsingle⟩
    rw [squeezed_eq_iff.2 ⟨hspaces, hsingle⟩]
    refine List.filter_eq_self.2 fun c hc => ?_
    rw [bne_iff_ne]
    rintro rfl
    exact hquote hc

example : heard "a  \"b\"" = "a b" := by decide

/-- The words of a name in quotes give the name that is heard. -/
theorem unquoted_wordsOf_quoted (name : String) :
    unquoted (wordsOf (quoted name)) = heard name := by
  have hquote : isBlank '"' = false := by decide
  have hwords :
      (wordsOf (quoted name)).map String.toList = words ('"' :: name.toList ++ ['"']) := by
    simp [wordsOf, quoted, Function.comp_def]
  have hspace : " ".toList = [' '] := by decide
  unfold unquoted joined heard
  rw [hwords, hspace, intercalate_words hquote, String.toList_ofList, List.cons_append,
    squeezed_cons hquote, squeezed_concat hquote, trimLeft_cons hquote]
  simp

theorem wordsOf_quoted_ne_nil (name : String) : wordsOf (quoted name) ≠ [] := by
  have h := words_concat_ne_nil (d := '"') (by decide) ('"' :: name.toList)
  simpa [wordsOf, quoted] using h

/-! ## Lines with a name in quotes -/

/-- A word with a space behind it is the first word of a line. -/
theorem wordsOf_append {word rest : String} (hw : Solid word.toList) (hne : word ≠ "") :
    wordsOf (word ++ " " ++ rest) = word :: wordsOf rest := by
  have hne' : word.toList ≠ [] := by simpa using hne
  have hwords : words (word.toList ++ ' ' :: rest.toList) = word.toList :: words rest.toList :=
    words_append hw hne' (by decide)
  simp [wordsOf, hwords]

/-- The line that switches to a dataset. -/
def switchLine (name : String) : String := "frame change " ++ quoted name

/-- The line that merges a dataset into the active one by a key column. -/
def mergeLine (column name : String) : String := "merge 1:1 " ++ column ++ " using " ++ quoted name

theorem trimmed_quoted {c : Char} {cs : List Char} {s : String} (hc : isBlank c = false)
    (hs : s.toList = c :: cs) : trimmed (s ++ quoted name) = s ++ quoted name := by
  have htoList : (s ++ quoted name).toList = c :: ((cs ++ '"' :: name.toList) ++ ['"']) := by
    simp [quoted, hs]
  rw [trimmed, htoList, trim_eq_self hc (by decide), ← htoList, String.ofList_toList]

theorem parse?_switchLine (name : String) : Command.parse? (switchLine name) =
    some ⟨.frameChange, "change" :: wordsOf (quoted name), switchLine name⟩ := by
  have hwords : wordsOf (switchLine name) = "frame" :: "change" :: wordsOf (quoted name) := by
    have hline : switchLine name = "frame" ++ " " ++ ("change" ++ " " ++ quoted name) := by
      simp [← String.toList_inj, switchLine]
    rw [hline, wordsOf_append (by decide) (by decide), wordsOf_append (by decide) (by decide)]
  have htrimmed : trimmed (switchLine name) = switchLine name :=
    trimmed_quoted (c := 'f') (by decide) rfl
  have hframe : lowered "frame" = "frame" := by cbv
  have hchange : lowered "change" = "change" := by cbv
  simp [Command.parse?, hwords, htrimmed, Keyword.ofWords?, hframe, hchange]

theorem parse?_mergeLine (hcolumn : Solid column.toList) (hne : column ≠ "") (name : String) :
    Command.parse? (mergeLine column name) =
      some ⟨.merge, "1:1" :: column :: "using" :: wordsOf (quoted name),
        mergeLine column name⟩ := by
  have hwords : wordsOf (mergeLine column name) =
      "merge" :: "1:1" :: column :: "using" :: wordsOf (quoted name) := by
    have hline : mergeLine column name = "merge" ++ " " ++ ("1:1" ++ " " ++
        (column ++ " " ++ ("using" ++ " " ++ quoted name))) := by
      simp [← String.toList_inj, mergeLine]
    rw [hline, wordsOf_append (by decide) (by decide), wordsOf_append (by decide) (by decide),
      wordsOf_append hcolumn hne, wordsOf_append (by decide) (by decide)]
  have htrimmed : trimmed (mergeLine column name) = mergeLine column name := by
    have hfront : ("merge 1:1 " ++ column ++ " using ").toList =
        'm' :: ("erge 1:1 ".toList ++ column.toList ++ " using ".toList) := by
      simp
    exact trimmed_quoted (by decide) hfront
  have hmerge : lowered "merge" = "merge" := by cbv
  simp [Command.parse?, hwords, htrimmed, Keyword.ofWords?, hmerge]

/-! ## Lines about a new column -/

/-- The line that computes a new column. -/
def generateLine (name source : String) : String := "generate " ++ name ++ " = " ++ source

/-- The line that drops a column. -/
def dropLine (name : String) : String := "drop " ++ name

/-- Letters, digits and underscores are no blanks, and no equals signs. -/
theorem isBlank_of_isVariableChar {c : Char}
    (h : (c.isAlpha || c.isDigit || c == '_') = true) : isBlank c = false ∧ c ≠ '=' := by
  have hrange : 65 ≤ c.toNat ∧ c.toNat ≤ 90 ∨ 97 ≤ c.toNat ∧ c.toNat ≤ 122 ∨
      48 ≤ c.toNat ∧ c.toNat ≤ 57 ∨ c.toNat = 95 := by
    simp only [Char.isAlpha, Char.isUpper, Char.isLower, Char.isDigit, Bool.or_eq_true,
      Bool.and_eq_true, decide_eq_true_eq, beq_iff_eq, UInt32.le_iff_toNat_le, ge_iff_le] at h
    rcases h with ((h | h) | h) | rfl
    · exact .inl h
    · exact .inr (.inl h)
    · exact .inr (.inr (.inl h))
    · exact .inr (.inr (.inr rfl))
  constructor
  · simp only [isBlank, Bool.or_eq_false_iff, Bool.and_eq_false_iff, decide_eq_false_iff_not,
      beq_eq_false_iff_ne]
    omega
  · rintro rfl
    have hcode : '='.toNat = 61 := rfl
    omega

theorem isVariableName_chars (h : isVariableName name = true) :
    ∀ c ∈ name.toList, (c.isAlpha || c.isDigit || c == '_') = true := by
  unfold isVariableName at h
  split at h
  · cases h
  · rename_i c rest hname
    rw [Bool.and_eq_true, List.all_eq_true] at h
    rw [hname, List.forall_mem_cons]
    refine ⟨?_, h.2⟩
    have hc := h.1
    simp only [Bool.or_eq_true] at hc ⊢
    exact hc.imp_left .inl

/-- The name of a variable is a word. -/
theorem solid_of_isVariableName (h : isVariableName name = true) : Solid name.toList :=
  fun c hc => (isBlank_of_isVariableChar (isVariableName_chars h c hc)).1

theorem ne_empty_of_isVariableName (h : isVariableName name = true) : name ≠ "" := by
  rintro rfl
  cases h

theorem wordsOf_solid (h : Solid name.toList) (hne : name ≠ "") : wordsOf name = [name] := by
  have hwords := h.words_eq (by simpa using hne)
  simp [wordsOf, hwords]

theorem parse?_generateLine (name source : String) :
    ∃ args, Command.parse? (generateLine name source) =
      some ⟨.generate, args, trimmed (generateLine name source)⟩ := by
  have hline : generateLine name source = "generate" ++ " " ++ (name ++ " = " ++ source) := by
    simp [← String.toList_inj, generateLine]
  have hwords : wordsOf (generateLine name source) =
      "generate" :: wordsOf (name ++ " = " ++ source) := by
    rw [hline, wordsOf_append (by decide) (by decide)]
  have hgenerate : lowered "generate" = "generate" := by cbv
  exact ⟨_, by simp [Command.parse?, hwords, Keyword.ofWords?, hgenerate]; rfl⟩

theorem parse?_dropLine (hname : Solid name.toList) (hne : name ≠ "") :
    Command.parse? (dropLine name) = some ⟨.drop, [name], trimmed (dropLine name)⟩ := by
  have hline : dropLine name = "drop" ++ " " ++ name := rfl
  have hwords : wordsOf (dropLine name) = ["drop", name] := by
    rw [hline, wordsOf_append (by decide) (by decide), wordsOf_solid hname hne]
  have hdrop : lowered "drop" = "drop" := by cbv
  simp [Command.parse?, hwords, Keyword.ofWords?, hdrop]

/-- Trimming cuts off nothing in front of the formula. -/
theorem toList_trimmed_generateLine (name source : String) :
    (trimmed (generateLine name source)).toList = "generate".toList ++ ' ' ::
      ((name.toList ++ [' ']) ++ '=' :: trimRight (' ' :: source.toList)) := by
  have htoList : (generateLine name source).toList =
      ('g' :: ("enerate ".toList ++ name.toList ++ [' '])) ++ '=' :: ' ' :: source.toList := by
    simp [generateLine]
  rw [trimmed, String.toList_ofList, trim, htoList, List.cons_append, trimLeft_cons (by decide),
    ← List.cons_append, trimRight_append (by decide)]
  simp

/-- **A new column gets the name that stands in the line.** -/
theorem name_of_generateRequest (h : isVariableName name = true) {n s : String}
    (hr : generateRequest (trimmed (generateLine name source)) = .ok (n, s)) : n = name := by
  have hkeyword : Solid "generate".toList := by decide
  have hequals : ∀ c ∈ name.toList ++ [' '], (c == '=') = false := by
    intro c hc
    rcases List.mem_append.1 hc with hc | hc
    · exact beq_eq_false_iff_ne.2 (isBlank_of_isVariableChar (isVariableName_chars h c hc)).2
    · rw [List.mem_singleton.1 hc]
      rfl
  have hname : trimmed (String.ofList (name.toList ++ [' '])) = name := by
    rw [trimmed, String.toList_ofList, (solid_of_isVariableName h).trim_concat (by decide),
      String.ofList_toList]
  unfold generateRequest at hr
  rw [toList_trimmed_generateLine, splitFirst?_append hkeyword (by decide)] at hr
  dsimp only [Option.map_some, Option.getD_some] at hr
  rw [splitFirst?_append hequals (by decide)] at hr
  dsimp only at hr
  split at hr
  · cases hr
  · rw [hname] at hr
    cases hr
    rfl

end Tabular
