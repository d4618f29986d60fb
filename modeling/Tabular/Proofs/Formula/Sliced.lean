import Tabular.Proofs.Formula.Tiling

/-!
# The lexer on bytes

The lexer with counts of bytes in place of characters: it goes through the columns with long names
in front, and cuts the source at byte positions, which goes wrong inside a character.

* `splitBytes?` cuts a text at a byte position.
* `Sliced.scan` is one step of this lexer, and `Sliced.lex` all of them.
* `Sliced.scan_eq` and `Sliced.lex_eq`: it never goes wrong, and gives what `Lexeme.cut` gives.
* `ofSource_tiles`: **the lexer tiles every source, up to its end or to the place of its
  complaint.**
-/

namespace Tabular

open Token (Stuck numberPart bindings)

/-! ## Cutting at bytes -/

/-- The front of a text that takes a given count of bytes, and what is behind it. Nothing is cut
inside a character, or beyond the end. -/
def splitBytes? : Nat → List Char → Option (List Char × List Char)
  | 0, cs => some ([], cs)
  | _ + 1, [] => none
  | n + 1, c :: cs =>
    if c.utf8Size ≤ n + 1 then
      (splitBytes? (n + 1 - c.utf8Size) cs).map fun (front, back) => (c :: front, back)
    else none

/-- **A text is cut at the end of a front.** -/
theorem splitBytes?_append (front back : List Char) :
    splitBytes? (byteLength front) (front ++ back) = some (front, back) := by
  induction front with
  | nil => simp [byteLength, splitBytes?]
  | cons c front ih =>
    have hpos : 0 < c.utf8Size := c.utf8Size_pos
    obtain ⟨n, hn⟩ : ∃ n, byteLength (c :: front) = n + 1 :=
      ⟨byteLength (c :: front) - 1, by simp only [byteLength]; omega⟩
    have hle : c.utf8Size ≤ n + 1 := by
      rw [← hn]
      simp only [byteLength]
      omega
    have hrest : n + 1 - c.utf8Size = byteLength front := by
      rw [← hn]
      simp only [byteLength]
      omega
    rw [hn, List.cons_append, splitBytes?, if_pos hle, hrest, ih]
    rfl

namespace Sliced

open Checked

/-! ## The lexer -/

/-- Whether a number starts in front of a text. -/
def startsNumber (c : Char) (cs : List Char) : Checked FormulaError Bool :=
  if isDigit c then pure true
  else if c = '.' then do
    let (_, after) ← access (splitBytes? 1 cs)
    pure (after.head?.any isDigit)
  else pure false

/-- The first of the names that stands in front of a text. -/
def column? (cs : List Char) : List String → Checked FormulaError (Option String)
  | [] => pure none
  | name :: names =>
    if name.toList = [] ∨ !name.toList.isPrefixOf cs then column? cs names
    else do
      let (_, after) ← access (splitBytes? name.utf8ByteSize cs)
      if after.head?.any isWordChar then column? cs names
      else if (Func.ofName? name).isSome && (trimLeft after).head? == some '(' then column? cs names
      else pure (some name)

/-- **The token in front of `c :: rest`, and how many bytes it takes.** -/
def scan (names : List String) (c : Char) (rest : List Char) (pos : Nat) :
    Checked FormulaError (Token × Nat) := do
  if ← startsNumber c (c :: rest) then
    -- a byte for every character of a number
    let width := (numberPart (c :: rest)).length
    let (text, _) ← access (splitBytes? width (c :: rest))
    match float? (.ofList text) with
    | some x => pure (.number x, width)
    | none => throw (.invalidNumber (.ofList text))
  else match ← column? (c :: rest) names with
  | some name => pure (.column name, name.utf8ByteSize)
  | none =>
    if c = '"' ∨ c = '\'' then do
      let (_, body) ← access (splitBytes? 1 (c :: rest))
      if c ∈ body then do
        let width := byteLength (body.takeWhile (· != c))
        let (text, _) ← access (splitBytes? width body)
        pure (.text (.ofList text), width + 2)
      else throw (.unterminatedText pos)
    else if isWordStart c then do
      let width := byteLength ((c :: rest).takeWhile isWordChar)
      let (text, _) ← access (splitBytes? width (c :: rest))
      pure (.word (.ofList text), width)
    else match Symbol.front? (c :: rest) with
    | some s => pure (.symbol s, s.text.utf8ByteSize)
    | none => throw (.unexpectedChar c pos)

/-- **The lexemes of a source from a byte position on**, if they are cut in a given count of
rounds. -/
def lex (names : List String) (source : List Char) :
    Nat → Nat → Checked FormulaError (List Lexeme)
  | 0, _ => access none
  | rounds + 1, pos => do
    let (_, rest) ← access (splitBytes? pos source)
    let start := byteLength source - byteLength (trimLeft rest)
    match trimLeft rest with
    | [] => pure []
    | c :: rest => do
      let (token, width) ← scan names c rest start
      let more ← lex names source rounds (start + width)
      pure (⟨token, start⟩ :: more)

variable {c : Char} {cs rest : List Char}

theorem safe_ok_bind {ε α β : Type} (a : α) (f : α → Checked ε β) :
    (safe (.ok a) >>= f) = f a := rfl

/-! ## Characters of one byte -/

theorem byteLength_of_ascii (h : ∀ c ∈ cs, c.utf8Size = 1) : byteLength cs = cs.length := by
  induction cs with
  | nil => rfl
  | cons c cs ih =>
    rw [List.forall_mem_cons] at h
    rw [byteLength, List.length_cons, h.1, ih h.2, Nat.add_comm]

theorem utf8Size_of_isDigit (h : isDigit c = true) : c.utf8Size = 1 := by
  unfold isDigit at h
  rw [Bool.and_eq_true, decide_eq_true_eq, decide_eq_true_eq] at h
  refine Char.utf8Size_eq_one_iff.2 ?_
  exact UInt32.le_trans h.2 (by decide)

theorem utf8Size_of_mem_exponentPart (h : c ∈ Token.exponentPart cs) : c.utf8Size = 1 := by
  rcases Token.exponentPart_cases cs with hnil | ⟨letter, sign, digits, after, he, hpart, -⟩
  · rw [hnil] at h
    cases h
  · rw [hpart] at h
    rcases List.mem_cons.1 h with rfl | h
    · rcases he.letter with rfl | rfl <;> rfl
    rcases List.mem_append.1 h with hs | hd
    · rcases he.sign with rfl | rfl | rfl
      · cases hs
      · rw [List.mem_singleton.1 hs]
        rfl
      · rw [List.mem_singleton.1 hs]
        rfl
    · exact utf8Size_of_isDigit (he.digits c hd)

theorem utf8Size_of_mem_numberPart (h : c ∈ numberPart cs) : c.utf8Size = 1 := by
  unfold numberPart at h
  rcases List.mem_append.1 h with h | h
  · have hm : Token.isMantissa c = true := List.mem_takeWhile_imp h
    unfold Token.isMantissa at hm
    rw [Bool.or_eq_true, beq_iff_eq] at hm
    rcases hm with hd | rfl
    · exact utf8Size_of_isDigit hd
    · rfl
  · exact utf8Size_of_mem_exponentPart h

/-! ## One step -/

theorem startsNumber_eq (c : Char) (rest : List Char) :
    startsNumber c (c :: rest) = safe (.ok (Token.startsNumber (c :: rest))) := by
  by_cases hd : isDigit c = true
  · rw [startsNumber, if_pos hd, Token.startsNumber_of_isDigit hd]
    rfl
  rw [startsNumber, if_neg hd]
  by_cases hp : c = '.'
  · subst hp
    have hsplit : splitBytes? 1 ('.' :: rest) = some (['.'], rest) := splitBytes?_append ['.'] rest
    rw [if_pos rfl, access_bind hsplit]
    cases rest <;> rfl
  · rw [if_neg hp]
    have hfalse : Token.startsNumber (c :: rest) = false := by
      unfold Token.startsNumber
      split
      · rename_i heq
        exact absurd (List.cons.inj heq).1 hp
      · rename_i heq
        obtain ⟨rfl, -⟩ := List.cons.inj heq
        simpa using hd
      · rfl
    rw [hfalse]
    rfl

/-- **The first name that stands in front is found**: a name that the text begins with takes
the bytes that are cut off. -/
theorem column?_eq (cs : List Char) (names : List String) :
    column? cs names = safe (.ok (names.find? (Token.eligible cs))) := by
  induction names with
  | nil => rfl
  | cons name names ih =>
    by_cases hfront : name.toList = [] ∨ !name.toList.isPrefixOf cs
    · have hnot : ¬ Token.eligible cs name = true := by
        unfold Token.eligible
        rcases hfront with h | h
        · simp [h]
        · simp only [Bool.not_eq_true'] at h
          simp [h]
      rw [column?, if_pos hfront, List.find?_cons_of_neg hnot, ih]
    · rw [not_or, Bool.not_eq_true', Bool.not_eq_false, List.isPrefixOf_iff_prefix] at hfront
      obtain ⟨hne, after, rfl⟩ := hfront
      have hsplit := splitBytes?_append name.toList after
      rw [byteLength_toList] at hsplit
      rw [column?, if_neg (by simp [hne]), access_bind hsplit, List.find?_cons]
      have helig : Token.eligible (name.toList ++ after) name =
          (!after.head?.any isWordChar &&
            !((Func.ofName? name).isSome && (trimLeft after).head? == some '(')) := by
        have hprefix : name.toList.isPrefixOf (name.toList ++ after) = true :=
          List.isPrefixOf_iff_prefix.2 (List.prefix_append _ _)
        unfold Token.eligible
        simp [hne, hprefix]
      rw [helig]
      by_cases hword : after.head?.any isWordChar = true
      · simp [hword, ih]
      by_cases hcall : ((Func.ofName? name).isSome && (trimLeft after).head? == some '(') = true
      · simp [hcall, ih]
      · simp [hword, hcall]
        rfl

/-- A front of a text is cut off at its bytes. -/
theorem splitBytes?_of_front {front : List Char} (h : front <+: cs) :
    splitBytes? (byteLength front) cs = some (front, cs.drop front.length) := by
  obtain ⟨back, rfl⟩ := h
  rw [splitBytes?_append, List.drop_left]

theorem byteLength_numberPart (cs : List Char) :
    byteLength (numberPart cs) = (numberPart cs).length :=
  byteLength_of_ascii fun _ hd => utf8Size_of_mem_numberPart hd

/-- A number is cut off at as many bytes as it has characters. -/
theorem splitBytes?_numberPart (cs : List Char) :
    splitBytes? (numberPart cs).length cs =
      some (numberPart cs, cs.drop (numberPart cs).length) := by
  have hsplit := splitBytes?_of_front (Token.numberPart_front cs)
  rwa [byteLength_numberPart] at hsplit

/-- A quote takes one byte. -/
theorem utf8Size_of_quote (hq : c = '"' ∨ c = '\'') : c.utf8Size = 1 := by
  rcases hq with rfl | rfl <;> rfl

theorem splitBytes?_quote (hq : c = '"' ∨ c = '\'') (rest : List Char) :
    splitBytes? 1 (c :: rest) = some ([c], rest) := by
  have hsplit := splitBytes?_append [c] rest
  rwa [byteLength, byteLength, utf8Size_of_quote hq] at hsplit

/-- A closed quotation takes the bytes of its body and one for each quote. -/
theorem byteLength_quoted (hq : c = '"' ∨ c = '\'')
    (hclosed : (rest.takeWhile (· != c)).length < rest.length) :
    byteLength (c :: rest.take ((rest.takeWhile (· != c)).length + 1)) =
      byteLength (rest.takeWhile (· != c)) + 2 := by
  rw [Token.take_quoted hclosed, byteLength, byteLength_append, byteLength, byteLength,
    utf8Size_of_quote hq]
  omega

theorem isWordChar_of_isWordStart (h : isWordStart c = true) : isWordChar c = true := by
  unfold isWordStart at h
  unfold isWordChar
  rw [Bool.or_eq_true] at h
  rcases h with h | h <;> simp [h]

/-- **One step never goes wrong**, and it takes the bytes of the characters that are taken. -/
theorem scan_eq (columns : List String) (c : Char) (rest : List Char) (pos : Nat) :
    scan (bindings columns) c rest pos =
      safe ((Token.scan columns c rest pos).map fun (token, k) =>
        (token, byteLength (c :: rest.take k))) := by
  have hscans := Token.scan_cases columns c rest pos
  generalize Token.scan columns c rest pos = step at hscans
  unfold scan
  rw [startsNumber_eq, safe_ok_bind, column?_eq, Token.find?_bindings, safe_ok_bind]
  cases hscans with
  | number hnum hx =>
    have htake := Token.cons_take_of_front (Token.numberPart_front (c :: rest))
      (Token.numberPart_ne_nil hnum)
    rw [if_pos hnum, access_bind (splitBytes?_numberPart _)]
    simp only [hx, Except.map, htake, byteLength_numberPart]
    rfl
  | noNumber hnum hx =>
    rw [if_pos hnum, access_bind (splitBytes?_numberPart _)]
    simp only [hx]
    rfl
  | column hnum hcol =>
    obtain ⟨after, hs⟩ := (Token.column?_eq_some_iff.1 hcol).stands
    have htake := Token.cons_take_of_front ⟨after, hs.text.symm⟩ hs.nonempty
    rw [if_neg hnum, hcol]
    simp only [Except.map, htake, byteLength_toList]
    rfl
  | text hnum hcol hq hclosed =>
    have hbody := splitBytes?_of_front (List.takeWhile_prefix (· != c) (l := rest))
    rw [if_neg hnum, hcol]
    dsimp only
    rw [if_pos hq, access_bind (splitBytes?_quote hq rest)]
    dsimp only
    rw [if_pos (Token.length_takeWhile_lt_iff.1 hclosed), access_bind hbody]
    simp only [Except.map, byteLength_quoted hq hclosed]
    rfl
  | openText hnum hcol hq hopen =>
    rw [if_neg hnum, hcol]
    dsimp only
    rw [if_pos hq, access_bind (splitBytes?_quote hq rest)]
    dsimp only
    rw [if_neg (mt Token.length_takeWhile_lt_iff.2 hopen)]
    rfl
  | word hnum hcol hq hstart =>
    have hsplit := splitBytes?_of_front (List.takeWhile_prefix isWordChar (l := c :: rest))
    rw [if_neg hnum, hcol]
    dsimp only
    rw [if_neg hq, if_pos hstart, access_bind hsplit,
      List.takeWhile_cons_of_pos (isWordChar_of_isWordStart hstart)]
    simp only [Except.map, Token.take_length_takeWhile]
    rfl
  | symbol hnum hcol hq hstart hs =>
    have htake := Token.cons_take_of_front (Token.symbol_front hs) (Token.symbol_ne_nil _)
    rw [if_neg hnum, hcol]
    dsimp only
    rw [if_neg hq, if_neg hstart, hs]
    simp only [Except.map, htake, byteLength_toList]
    rfl
  | noToken hnum hcol hq hstart hs =>
    rw [if_neg hnum, hcol]
    dsimp only
    rw [if_neg hq, if_neg hstart, hs]
    rfl

/-! ## The whole source -/

/-- **The lexer on bytes never goes wrong**, and it gives what the lexer on characters gives: every
round begins between two characters of the source, and leaves less of it. -/
theorem lex_eq (columns : List String) {source front : List Char} {rounds : Nat}
    (hsource : source = front ++ cs) (hrounds : cs.length < rounds) :
    lex (bindings columns) source rounds (byteLength front) =
      safe (Lexeme.cut columns (byteLength front) cs) := by
  induction rounds generalizing front cs with
  | zero => omega
  | succ rounds ih =>
    have hsplit : splitBytes? (byteLength front) source = some (front, cs) := by
      rw [hsource, splitBytes?_append]
    have hstart : byteLength source - byteLength (trimLeft cs) =
        byteLength front + byteLength (cs.takeWhile isBlank) := by
      have hblanks := congrArg byteLength (takeWhile_append_trimLeft cs)
      rw [byteLength_append] at hblanks
      rw [hsource, byteLength_append]
      omega
    rw [lex, access_bind hsplit]
    dsimp only
    rw [hstart]
    cases hleft : trimLeft cs with
    | nil =>
      rw [Lexeme.cut_of_nil columns _ hleft]
      rfl
    | cons c rest =>
      rw [Lexeme.cut_of_cons columns _ hleft]
      dsimp only
      rw [scan_eq]
      cases hscan : Token.scan columns c rest
        (byteLength front + byteLength (cs.takeWhile isBlank)) with
      | error e => rfl
      | ok taken =>
        obtain ⟨token, k⟩ := taken
        -- the next round begins behind the token, and less is left there
        have hfront : byteLength (front ++ (cs.takeWhile isBlank ++ (c :: rest.take k))) =
            byteLength front + byteLength (cs.takeWhile isBlank) +
              byteLength (c :: rest.take k) := by
          rw [byteLength_append, byteLength_append, Nat.add_assoc]
        have hcs : cs = cs.takeWhile isBlank ++ ((c :: rest.take k) ++ rest.drop k) := by
          rw [List.cons_append, List.take_append_drop, ← hleft, takeWhile_append_trimLeft]
        have hless : (rest.drop k).length < rounds := by
          have hlen := congrArg List.length hcs
          simp only [List.length_append, List.length_cons] at hlen
          omega
        have hrest : source =
            (front ++ (cs.takeWhile isBlank ++ (c :: rest.take k))) ++ rest.drop k := by
          rw [hsource, List.append_assoc, List.append_assoc, ← hcs]
        have hmore := ih hrest hless
        rw [hfront] at hmore
        show (lex (bindings columns) source rounds _ >>= fun more => _) = _
        rw [hmore]
        exact safe_bind fun more _ => rfl

end Sliced

/-- **The lexer tiles every source.** On bytes it comes to its end and never cuts inside a
character. Where it gives all lexemes, they tile the source up to its end, and where it is refused,
lexemes tile the source up to the place of the complaint. A lexeme stands at its position, and so
does what is left. A column name that is trimmed, not empty and no number is the formula of that
column. -/
theorem Lexeme.ofSource_tiles (columns : List String) (source : String) :
    (∀ rounds, source.toList.length < rounds →
        Sliced.lex (bindings columns) source.toList rounds 0 =
          Checked.safe (ofSource columns source)) ∧
      (∀ ts, ofSource columns source = .ok ts →
        Tiles columns 0 source.toList ts source.utf8ByteSize []) ∧
      (∀ e, ofSource columns source = .error e → ∃ ts stop left,
        Tiles columns 0 source.toList ts stop left ∧ Stuck columns stop left e) ∧
      (∀ ts stop left, Tiles columns 0 source.toList ts stop left →
        (∀ l ∈ ts, ∃ text, StandsAt source l.pos (.ofList text) ∧ l.token.Writes text) ∧
          ∃ front, source = front ++ .ofList left ∧ stop = front.utf8ByteSize) ∧
      ∀ name ∈ columns, name ≠ "" → trimmed name = name →
        Token.startsNumber name.toList = false →
        Formula.compile columns name = .ok (.column name) := by
  have hcut := cut_tiles columns 0 source.toList
  refine ⟨?_, ?_, hcut.2, ?_, ?_⟩
  · intro rounds hrounds
    have hsource : source.toList = [] ++ source.toList := rfl
    exact Sliced.lex_eq columns hsource hrounds
  · intro ts hts
    obtain ⟨stop, htiles⟩ := hcut.1 ts hts
    rw [← htiles.stop_eq]
    exact htiles
  · intro ts stop left htiles
    exact ⟨htiles.standsAt, htiles.left_standsAt⟩
  · intro name hmem hne htrim hnum
    exact Formula.compile_name hmem hne htrim hnum

end Tabular
