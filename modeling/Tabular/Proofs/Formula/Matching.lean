import Tabular.Formula.Token

/-!
# Column names in front of a source

The lexer takes the longest column name that stands in front of what is left of a source.

* `Stands name cs after`: a name stands in front of `cs` and leaves `after`. `eligible_iff` is the
  test for it.
* `column?_eq_some`: **the name that is taken is the longest one that stands there.**
* `Stands.length_le`: a name made of word characters is never longer than another name that
  stands at the same place.
* `scan_cases`: **what one step of the lexer can be.** `scan_congr`, `scan_column` and `scan_opening`
  say what it takes.
* `Lexeme.Cuts` is how the lexer goes through a source, and `cut_eq_ok` says so.
-/

namespace Tabular

namespace Token

variable {cs after : List Char} {name n : String} {columns : List String}

/-- A column name stands in front of a source: it is not empty, no word character continues it,
and it is not the name of a called function. -/
structure Stands (name : String) (cs after : List Char) : Prop where
  nonempty : name.toList ≠ []
  text : cs = name.toList ++ after
  boundary : ∀ c rest, after = c :: rest → isWordChar c = false
  not_called : (Func.ofName? name).isSome = true → (trimLeft after).head? ≠ some '('

theorem eligible_iff : eligible cs name = true ↔ ∃ after, Stands name cs after := by
  have hdrop : ∀ after, cs = name.toList ++ after → cs.drop name.toList.length = after := by
    rintro after rfl
    exact List.drop_left
  have hnext : ∀ after : List Char, after.head?.any isWordChar = false ↔
      ∀ c rest, after = c :: rest → isWordChar c = false := by
    intro after
    cases after <;> simp
  unfold eligible
  simp only [Bool.and_eq_true, Bool.not_eq_true', decide_eq_true_eq, List.isPrefixOf_iff_prefix,
    Bool.and_eq_false_iff, hnext, beq_eq_false_iff_ne]
  constructor
  · rintro ⟨⟨⟨hne, after, rfl⟩, hb⟩, hc⟩
    rw [hdrop after rfl] at hb hc
    refine ⟨after, hne, rfl, hb, fun hf => ?_⟩
    exact hc.resolve_left (by simp [hf])
  · rintro ⟨after, h⟩
    rw [hdrop after h.text]
    refine ⟨⟨⟨h.nonempty, after, h.text.symm⟩, h.boundary⟩, ?_⟩
    by_cases hf : (Func.ofName? name).isSome = true
    · exact .inr (h.not_called hf)
    · exact .inl (by simpa using hf)

/-- **Of two names at one place, one made of word characters is not the longer**: the other one
would be continued by a word character. -/
theorem Stands.length_le {after' : List Char} (h : Stands name cs after) (h' : Stands n cs after')
    (hn : ∀ c ∈ n.toList, isWordChar c = true) : n.toList.length ≤ name.toList.length := by
  refine Nat.le_of_not_lt fun hlt => ?_
  obtain ⟨more, hmore⟩ : name.toList <+: n.toList :=
    List.prefix_of_prefix_length_le ⟨after, h.text.symm⟩ ⟨after', h'.text.symm⟩
      (Nat.le_of_lt hlt)
  cases more with
  | nil =>
    rw [List.append_nil] at hmore
    rw [hmore] at hlt
    exact Nat.lt_irrefl _ hlt
  | cons c more =>
    have hafter : after = c :: (more ++ after') := by
      have htext := h.text.symm.trans h'.text
      rw [← hmore, List.append_assoc, List.append_cancel_left_eq] at htext
      simpa using htext
    -- what follows the shorter name is a character of the longer one
    have hc : isWordChar c = true := hn c (by rw [← hmore]; simp)
    rw [h.boundary c _ hafter] at hc
    cases hc

/-! ## The longest name -/

theorem longer_eq (best : Option String) (name : String) :
    ∃ b, longer best name = some b ∧ (best = some b ∨ b = name) ∧
      name.toList.length ≤ b.toList.length ∧
      ∀ a, best = some a → a.toList.length ≤ b.toList.length := by
  cases best with
  | none => exact ⟨name, rfl, .inr rfl, Nat.le_refl _, nofun⟩
  | some a =>
    unfold longer
    dsimp only
    split
    · rename_i hlt
      refine ⟨name, rfl, .inr rfl, Nat.le_refl _, ?_⟩
      rintro _ ⟨⟩
      exact Nat.le_of_lt hlt
    · rename_i hge
      refine ⟨a, rfl, .inl rfl, Nat.le_of_not_lt hge, ?_⟩
      rintro _ ⟨⟩
      exact Nat.le_refl _

/-- Going through names ends with the longest one seen. -/
theorem foldl_longer {names : List String} {best : Option String} {m : String}
    (h : names.foldl longer best = some m) :
    (best = some m ∨ m ∈ names) ∧ (∀ n ∈ names, n.toList.length ≤ m.toList.length) ∧
      ∀ a, best = some a → a.toList.length ≤ m.toList.length := by
  induction names generalizing best with
  | nil =>
    rw [List.foldl_nil] at h
    subst h
    refine ⟨.inl rfl, nofun, ?_⟩
    rintro _ ⟨⟩
    exact Nat.le_refl _
  | cons name names ih =>
    -- the longer one of the best so far and the first name goes on
    obtain ⟨b, hb, hfrom, hname, hbest⟩ := longer_eq best name
    rw [List.foldl_cons, hb] at h
    obtain ⟨hmem, hall, hle⟩ := ih h
    have hbm := hle b rfl
    refine ⟨?_, ?_, fun a ha => Nat.le_trans (hbest a ha) hbm⟩
    · rcases hmem with hmem | hmem
      · cases hmem
        exact hfrom.imp_right fun h => by simp [h]
      · exact .inr (List.mem_cons_of_mem _ hmem)
    · rintro n (_ | ⟨_, hn⟩)
      · exact Nat.le_trans hname hbm
      · exact hall n hn

/-- **The name that is taken is a column that stands there, and none of these is longer.** -/
theorem column?_eq_some (h : column? columns cs = some name) :
    name ∈ columns ∧ eligible cs name = true ∧
      ∀ n ∈ columns, eligible cs n = true → n.toList.length ≤ name.toList.length := by
  obtain ⟨hmem, hall, -⟩ := foldl_longer h
  have hmem := List.mem_filter.1 (hmem.resolve_left nofun)
  exact ⟨hmem.1, hmem.2, fun n hn he => hall n (List.mem_filter.2 ⟨hn, he⟩)⟩

/-! ## One step of the lexer -/

/-- The ways in which a step of the lexer goes in front of `c :: rest`, each with what was tried
before it. -/
inductive Scans (columns : List String) (c : Char) (rest : List Char) (pos : Nat) :
    Except FormulaError (Token × Nat) → Prop where
  | number {x : Float} (hnum : startsNumber (c :: rest) = true)
      (hx : float? (.ofList (numberPart (c :: rest))) = some x) :
      Scans columns c rest pos (.ok (.number x, (numberPart (c :: rest)).length - 1))
  | noNumber (hnum : startsNumber (c :: rest) = true)
      (hx : float? (.ofList (numberPart (c :: rest))) = none) :
      Scans columns c rest pos (.error (.invalidNumber (.ofList (numberPart (c :: rest)))))
  | column {name : String} (hnum : ¬ startsNumber (c :: rest) = true)
      (hcol : column? columns (c :: rest) = some name) :
      Scans columns c rest pos (.ok (.column name, name.toList.length - 1))
  | text (hnum : ¬ startsNumber (c :: rest) = true) (hcol : column? columns (c :: rest) = none)
      (hq : c = '"' ∨ c = '\'') (hclosed : (rest.takeWhile (· != c)).length < rest.length) :
      Scans columns c rest pos
        (.ok (.text (.ofList (rest.takeWhile (· != c))), (rest.takeWhile (· != c)).length + 1))
  | openText (hnum : ¬ startsNumber (c :: rest) = true)
      (hcol : column? columns (c :: rest) = none) (hq : c = '"' ∨ c = '\'')
      (hopen : ¬ (rest.takeWhile (· != c)).length < rest.length) :
      Scans columns c rest pos (.error (.unterminatedText pos))
  | word (hnum : ¬ startsNumber (c :: rest) = true) (hcol : column? columns (c :: rest) = none)
      (hq : ¬ (c = '"' ∨ c = '\'')) (hstart : isWordStart c = true) :
      Scans columns c rest pos
        (.ok (.word (.ofList (c :: rest.takeWhile isWordChar)), (rest.takeWhile isWordChar).length))
  | symbol {s : Symbol} (hnum : ¬ startsNumber (c :: rest) = true)
      (hcol : column? columns (c :: rest) = none) (hq : ¬ (c = '"' ∨ c = '\''))
      (hstart : ¬ isWordStart c = true) (hs : Symbol.front? (c :: rest) = some s) :
      Scans columns c rest pos (.ok (.symbol s, s.text.toList.length - 1))
  | noToken (hnum : ¬ startsNumber (c :: rest) = true)
      (hcol : column? columns (c :: rest) = none) (hq : ¬ (c = '"' ∨ c = '\''))
      (hstart : ¬ isWordStart c = true) (hs : Symbol.front? (c :: rest) = none) :
      Scans columns c rest pos (.error (.unexpectedChar c pos))

/-- **What a step of the lexer can be.** -/
theorem scan_cases (columns : List String) (c : Char) (rest : List Char) (pos : Nat) :
    Scans columns c rest pos (scan columns c rest pos) := by
  unfold scan
  dsimp only
  by_cases hnum : startsNumber (c :: rest) = true
  · rw [if_pos hnum]
    cases hx : float? (.ofList (numberPart (c :: rest))) with
    | some x => exact .number hnum hx
    | none => exact .noNumber hnum hx
  rw [if_neg hnum]
  cases hcol : column? columns (c :: rest) with
  | some name => exact .column hnum hcol
  | none =>
    dsimp only
    by_cases hq : c = '"' ∨ c = '\''
    · rw [if_pos hq]
      by_cases hclosed : (rest.takeWhile (· != c)).length < rest.length
      · rw [if_pos hclosed]
        exact .text hnum hcol hq hclosed
      · rw [if_neg hclosed]
        exact .openText hnum hcol hq hclosed
    rw [if_neg hq]
    by_cases hstart : isWordStart c = true
    · rw [if_pos hstart]
      exact .word hnum hcol hq hstart
    rw [if_neg hstart]
    cases hs : Symbol.front? (c :: rest) with
    | some s => exact .symbol hnum hcol hq hstart hs
    | none => exact .noToken hnum hcol hq hstart hs

/-- The columns matter to a token only through the name that is taken. -/
theorem scan_congr {columns' : List String} {c : Char} {rest : List Char} {pos : Nat}
    (h : column? columns (c :: rest) = column? columns' (c :: rest)) :
    scan columns c rest pos = scan columns' c rest pos := by
  unfold scan
  rw [h]

/-- A column is only taken where its name is the longest that stands there. -/
theorem scan_column {c : Char} {rest : List Char} {pos k : Nat}
    (h : scan columns c rest pos = .ok (.column name, k)) :
    column? columns (c :: rest) = some name := by
  have hscans := scan_cases columns c rest pos
  rw [h] at hscans
  cases hscans with
  | column _ hcol => exact hcol

/-- An opening parenthesis is only taken where it is written. -/
theorem scan_opening {c : Char} {rest : List Char} {pos k : Nat}
    (h : scan columns c rest pos = .ok (.symbol .opening, k)) : c = '(' := by
  have hscans := scan_cases columns c rest pos
  rw [h] at hscans
  cases hscans with
  | symbol _ _ _ _ hs =>
    have hp := List.find?_some hs
    exact (by simpa [Symbol.text] using hp : '(' = c).symm

end Token

theorem Lexeme.cut_of_nil (columns : List String) (pos : Nat) {cs : List Char}
    (h : trimLeft cs = []) : cut columns pos cs = .ok [] := by
  rw [cut]
  split
  · rfl
  · rename_i hcons
    rw [h] at hcons
    cases hcons

/-- One round of the lexer. -/
theorem Lexeme.cut_of_cons (columns : List String) (pos : Nat) {cs rest : List Char} {c : Char}
    (h : trimLeft cs = c :: rest) : cut columns pos cs = (do
      let start := pos + byteLength (cs.takeWhile isBlank)
      let (token, k) ← Token.scan columns c rest start
      let more ← cut columns (start + byteLength (c :: rest.take k)) (rest.drop k)
      return ⟨token, start⟩ :: more) := by
  rw [cut]
  split
  · rename_i hnil
    rw [h] at hnil
    cases hnil
  · rename_i c' rest' hcons
    rw [h] at hcons
    cases hcons
    dsimp only
    cases Token.scan columns c rest (pos + byteLength (cs.takeWhile isBlank)) with
    | error e => rfl
    | ok taken =>
      obtain ⟨token, k⟩ := taken
      dsimp only
      show _ = (cut columns _ (rest.drop k) >>= _)
      cases cut columns (pos + byteLength (cs.takeWhile isBlank) +
        byteLength (c :: rest.take k)) (rest.drop k) <;> rfl

/-- How the characters from a byte position on are cut into lexemes: blanks are passed over, then
a token is taken, up to the end. -/
inductive Lexeme.Cuts (columns : List String) : Nat → List Char → List Lexeme → Prop where
  | done {pos : Nat} {cs : List Char} (h : trimLeft cs = []) : Cuts columns pos cs []
  | next {pos start k : Nat} {cs rest : List Char} {c : Char} {token : Token} {ts : List Lexeme}
      (h : trimLeft cs = c :: rest) (hstart : start = pos + byteLength (cs.takeWhile isBlank))
      (hscan : Token.scan columns c rest start = .ok (token, k))
      (more : Cuts columns (start + byteLength (c :: rest.take k)) (rest.drop k) ts) :
      Cuts columns pos cs (⟨token, start⟩ :: ts)

/-- The lexer cuts in this way. -/
theorem Lexeme.cut_eq_ok {columns : List String} {pos : Nat} {cs : List Char}
    {ts : List Lexeme} : cut columns pos cs = .ok ts ↔ Cuts columns pos cs ts := by
  constructor
  · intro h
    fun_induction cut columns pos cs generalizing ts with
    | case1 pos cs hnil =>
      cases h
      exact .done hnil
    | case2 | case3 => cases h
    | case4 pos cs c rest hcons start token k hscan lexemes hmore =>
      rename_i ih
      cases h
      exact .next hcons rfl hscan (ih hmore)
  · intro h
    induction h with
    | done hnil => exact cut_of_nil columns _ hnil
    | next hcons hstart hscan _ ih =>
      rw [cut_of_cons columns _ hcons]
      dsimp only
      rw [← hstart, hscan]
      show (cut columns _ _ >>= _) = _
      rw [ih]
      rfl

end Tabular
