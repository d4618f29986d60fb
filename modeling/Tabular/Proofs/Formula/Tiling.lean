import Tabular.Proofs.Formula.Longest
import Tabular.Proofs.Formula.NewColumn
import Tabular.Proofs.Words

/-!
# How tokens tile a source

The texts of the tokens stand in a source one after another, with nothing but blanks between them,
and the position of a token is the count of bytes in front of its text.

* `Token.Writes` says how a token is written, and `Token.Binds` where columns are taken.
* `Tiles`: lexemes tile the front of a source. `Stuck`: what stands where the lexer gives up.
* `scan_tile` and `scan_stuck` are one step of the lexer, and `cut_tiles` all of them: **a text is
  tiled up to its end, or up to the place of the complaint.**
* `Tiles.standsAt`: the position of a lexeme is the count of bytes in front of its text.
* `compile_name`: a column name alone is the formula of that column.
-/

namespace Tabular

/-! ## Bytes -/

/-- The count of bytes of characters is the size of their text. -/
theorem utf8ByteSize_ofList (cs : List Char) : (String.ofList cs).utf8ByteSize = byteLength cs := by
  induction cs with
  | nil => rfl
  | cons c cs ih =>
    rw [String.ofList_cons, String.utf8ByteSize_append, String.utf8ByteSize_singleton, ih]
    rfl

theorem byteLength_toList (s : String) : byteLength s.toList = s.utf8ByteSize := by
  rw [← utf8ByteSize_ofList, String.ofList_toList]

theorem byteLength_append (cs ds : List Char) :
    byteLength (cs ++ ds) = byteLength cs + byteLength ds := by
  induction cs with
  | nil => simp only [List.nil_append, byteLength, Nat.zero_add]
  | cons c cs ih =>
    simp only [List.cons_append, byteLength, ih]
    omega

namespace Token

variable {columns : List String} {c : Char} {cs rest part : List Char} {pos k : Nat} {token : Token}

/-! ## How tokens are written -/

/-- **How a token is written.** -/
inductive Writes : Token → List Char → Prop where
  | number {x : Float} {text : List Char} (h : startsNumber text = true)
      (hx : float? (.ofList text) = some x) : Writes (.number x) text
  | text {q : Char} {body : List Char} (hq : q = '"' ∨ q = '\'') (hbody : q ∉ body) :
      Writes (.text (.ofList body)) (q :: (body ++ [q]))
  | column {name : String} (h : name.toList ≠ []) : Writes (.column name) name.toList
  | word {text : List Char} (hstart : ∃ c ∈ text.head?, isWordStart c = true)
      (hmore : ∀ c ∈ text.tail, isWordChar c = true) : Writes (.word (.ofList text)) text
  | symbol (s : Symbol) : Writes (.symbol s) s.text.toList

/-- **Which token stands in front of a source**, as far as columns go: where a number starts it is
a number, and elsewhere it is a column just if a column stands there, and then the longest. -/
structure Binds (columns : List String) (cs : List Char) (token : Token) : Prop where
  number : startsNumber cs = true → ∃ x, token = .number x
  column_iff : startsNumber cs = false →
    ((∃ name, token = .column name) ↔ ∃ n ∈ columns, ∃ after, Stands n cs after)
  longest : ∀ name, token = .column name → Longest columns cs name

/-! ## Fronts -/

/-- A front that is not empty is the first character and some more. -/
theorem cons_take_of_front (hp : part <+: c :: rest) (hne : part ≠ []) :
    c :: rest.take (part.length - 1) = part := by
  obtain ⟨d, more, rfl⟩ := List.exists_cons_of_ne_nil hne
  obtain ⟨rfl, hmore⟩ := List.cons_prefix_cons.1 hp
  rw [List.length_cons, Nat.add_sub_cancel, ← List.prefix_iff_eq_take.1 hmore]

/-- The characters of a class in front are as many as there are of them. -/
theorem take_length_takeWhile (p : Char → Bool) (cs : List Char) :
    cs.take (cs.takeWhile p).length = cs.takeWhile p :=
  (List.prefix_iff_eq_take.1 (List.takeWhile_prefix p)).symm

/-- **The parts of an exponent**: a letter, a sign if there is one, and digits. -/
structure Exponent (c : Char) (sign digits : List Char) : Prop where
  letter : c = 'e' ∨ c = 'E'
  sign : sign = [] ∨ sign = ['+'] ∨ sign = ['-']
  digits : ∀ d ∈ digits, isDigit d = true

/-- What is read of an exponent stands in front, and it is the whole of one or nothing. -/
theorem exponentPart_cases (cs : List Char) :
    exponentPart cs = [] ∨ ∃ c sign digits after, Exponent c sign digits ∧
      exponentPart cs = c :: (sign ++ digits) ∧ cs = c :: (sign ++ (digits ++ after)) := by
  cases cs with
  | nil => exact .inl rfl
  | cons c rest =>
    -- the digits are what there is of them behind the sign
    have hparts (sign more : List Char) (hs : sign = [] ∨ sign = ['+'] ∨ sign = ['-'])
        (hc : c = 'e' ∨ c = 'E') : ∃ c' sign' digits after, Exponent c' sign' digits ∧
          c :: (sign ++ more.takeWhile isDigit) = c' :: (sign' ++ digits) ∧
          c :: (sign ++ more) = c' :: (sign' ++ (digits ++ after)) :=
      ⟨c, sign, more.takeWhile isDigit, more.dropWhile isDigit,
        ⟨hc, hs, fun d hd => List.mem_takeWhile_imp hd⟩, rfl,
        by rw [List.takeWhile_append_dropWhile]⟩
    by_cases hc : c = 'e' ∨ c = 'E'
    · simp only [exponentPart]
      rw [if_pos hc]
      split
      · exact .inl rfl
      · refine .inr ?_
        split
        · exact hparts ['+'] _ (.inr (.inl rfl)) hc
        · exact hparts ['-'] _ (.inr (.inr rfl)) hc
        · exact hparts [] _ (.inl rfl) hc
    · simp only [exponentPart]
      rw [if_neg hc]
      exact .inl rfl

theorem exponentPart_front (cs : List Char) : exponentPart cs <+: cs := by
  rcases exponentPart_cases cs with hnil | ⟨c, sign, digits, after, -, hpart, rfl⟩
  · rw [hnil]
    exact List.nil_prefix
  · rw [hpart, ← List.append_assoc, ← List.cons_append]
    exact List.prefix_append _ _

theorem numberPart_front (cs : List Char) : numberPart cs <+: cs := by
  have hsplit : cs.takeWhile isMantissa ++ cs.dropWhile isMantissa = cs :=
    List.takeWhile_append_dropWhile
  have h := (List.prefix_append_right_inj (cs.takeWhile isMantissa)).2
    (exponentPart_front (cs.dropWhile isMantissa))
  rwa [hsplit] at h

theorem startsNumber_of_isDigit (h : isDigit c = true) (cs : List Char) :
    startsNumber (c :: cs) = true := by
  unfold startsNumber
  split
  · rename_i heq
    obtain ⟨rfl, -⟩ := List.cons.inj heq
    have hpoint : isDigit '.' = false := by decide
    rw [hpoint] at h
    cases h
  · rename_i heq
    obtain ⟨rfl, -⟩ := List.cons.inj heq
    exact h
  · rename_i heq
    cases heq

/-- Where a number starts, its part of the source does so. -/
theorem startsNumber_numberPart (h : startsNumber cs = true) :
    startsNumber (numberPart cs) = true := by
  have hdigit {d : Char} (hd : isDigit d = true) : isMantissa d = true := by
    simp [isMantissa, hd]
  unfold numberPart
  unfold startsNumber at h
  split at h
  · rw [List.takeWhile_cons_of_pos (by decide), List.takeWhile_cons_of_pos (hdigit h)]
    exact h
  · rw [List.takeWhile_cons_of_pos (hdigit h)]
    exact startsNumber_of_isDigit h _
  · cases h

theorem numberPart_ne_nil (h : startsNumber cs = true) : numberPart cs ≠ [] := by
  intro hnil
  have hstart := startsNumber_numberPart h
  rw [hnil] at hstart
  cases hstart

theorem symbol_front {s : Symbol} (h : Symbol.front? cs = some s) : s.text.toList <+: cs := by
  unfold Symbol.front? at h
  simpa using List.find?_some h

theorem symbol_ne_nil (s : Symbol) : s.text.toList ≠ [] := by cases s <;> decide

/-- A quotation is closed just if the quote stands behind it. -/
theorem length_takeWhile_lt_iff : (rest.takeWhile (· != c)).length < rest.length ↔ c ∈ rest := by
  constructor
  · intro hlt
    by_contra hnot
    have hall : ∀ d ∈ rest, (d != c) = true := by
      intro d hd
      rw [bne_iff_ne]
      rintro rfl
      exact hnot hd
    rw [List.takeWhile_eq_self_iff.2 hall] at hlt
    exact Nat.lt_irrefl _ hlt
  · intro hmem
    refine Nat.lt_of_not_le fun hle => ?_
    -- the body would take all that is left
    have hall : rest.takeWhile (· != c) = rest :=
      (List.takeWhile_prefix _).eq_of_length_le hle
    rw [← hall] at hmem
    simpa using List.mem_takeWhile_imp hmem

/-- Behind the body of a closed quotation stands the quote. -/
theorem take_quoted (h : (rest.takeWhile (· != c)).length < rest.length) :
    rest.take ((rest.takeWhile (· != c)).length + 1) = rest.takeWhile (· != c) ++ [c] := by
  have hsplit : rest.takeWhile (· != c) ++ rest.dropWhile (· != c) = rest :=
    List.takeWhile_append_dropWhile
  have hhead := List.head?_dropWhile_not (· != c) rest
  cases hdrop : rest.dropWhile (· != c) with
  | nil =>
    rw [hdrop, List.append_nil] at hsplit
    rw [hsplit] at h
    exact absurd h (Nat.lt_irrefl _)
  | cons d more =>
    rw [hdrop] at hhead hsplit
    obtain rfl : d = c := by simpa using hhead
    calc rest.take ((rest.takeWhile (· != d)).length + 1)
        = (rest.takeWhile (· != d) ++ d :: more).take ((rest.takeWhile (· != d)).length + 1) := by
          rw [hsplit]
      _ = rest.takeWhile (· != d) ++ [d] := by
          rw [List.take_length_add_append]
          rfl

/-! ## One step of the lexer -/

/-- Where no number starts and no column stands, a token is bound that is no column. -/
theorem Binds.of_ne_column (hnum : startsNumber cs ≠ true) (hcol : column? columns cs = none)
    (hne : ∀ name, token ≠ .column name) : token.Binds columns cs where
  number h := absurd h hnum
  column_iff _ := by
    refine iff_of_false ?_ ?_
    · rintro ⟨name, hname⟩
      exact hne name hname
    · rintro ⟨n, hn, hs⟩
      exact column?_eq_none.1 hcol n hn hs
  longest name hname := absurd hname (hne name)

/-- Where no number starts, the longest column that stands there is bound. -/
theorem Binds.of_longest {name : String} (hnum : startsNumber cs ≠ true)
    (h : Longest columns cs name) : (Token.column name).Binds columns cs where
  number hs := absurd hs hnum
  column_iff _ := iff_of_true ⟨name, rfl⟩ ⟨name, h.mem, h.stands⟩
  longest n hn := by
    cases hn
    exact h

/-- **The lexer takes the text of its token**, and the column that is bound. -/
theorem scan_tile (h : scan columns c rest pos = .ok (token, k)) :
    token.Writes (c :: rest.take k) ∧ token.Binds columns (c :: rest) := by
  have hscans := scan_cases columns c rest pos
  rw [h] at hscans
  cases hscans with
  | number hnum hx =>
    rw [cons_take_of_front (numberPart_front _) (numberPart_ne_nil hnum)]
    refine ⟨.number (startsNumber_numberPart hnum) hx, fun _ => ⟨_, rfl⟩, fun hnot => ?_, nofun⟩
    rw [hnum] at hnot
    cases hnot
  | column hnum hcol =>
    have hlongest := column?_eq_some_iff.1 hcol
    obtain ⟨after, hs⟩ := hlongest.stands
    rw [cons_take_of_front ⟨after, hs.text.symm⟩ hs.nonempty]
    exact ⟨.column hs.nonempty, .of_longest hnum hlongest⟩
  | text hnum hcol hq hclosed =>
    -- what follows the body is the closing quote
    have hbody : c ∉ rest.takeWhile (· != c) := by
      intro hmem
      simpa using List.mem_takeWhile_imp hmem
    rw [take_quoted hclosed]
    exact ⟨.text hq hbody, .of_ne_column hnum hcol nofun⟩
  | word hnum hcol _ hstart =>
    rw [take_length_takeWhile]
    refine ⟨.word ⟨c, rfl, hstart⟩ ?_, .of_ne_column hnum hcol nofun⟩
    intro d hd
    exact List.mem_takeWhile_imp hd
  | symbol hnum hcol _ _ hs =>
    rw [cons_take_of_front (symbol_front hs) (symbol_ne_nil _)]
    exact ⟨.symbol _, .of_ne_column hnum hcol nofun⟩

/-- **What stands in front where the lexer gives up**: a number that does not read as one, a
quotation that is not closed, or a character that no token begins with. -/
inductive Stuck (columns : List String) (pos : Nat) : List Char → FormulaError → Prop where
  | number {text rest : List Char} (h : startsNumber text = true)
      (hx : float? (.ofList text) = none) :
      Stuck columns pos (text ++ rest) (.invalidNumber (.ofList text))
  | quotation {q : Char} {rest : List Char} (hq : q = '"' ∨ q = '\'') (hrest : q ∉ rest)
      (hcol : ∀ n ∈ columns, ¬ ∃ after, Stands n (q :: rest) after) :
      Stuck columns pos (q :: rest) (.unterminatedText pos)
  | char {c : Char} {rest : List Char} (hnum : startsNumber (c :: rest) = false)
      (hcol : ∀ n ∈ columns, ¬ ∃ after, Stands n (c :: rest) after)
      (hq : c ≠ '"' ∧ c ≠ '\'') (hword : isWordStart c = false)
      (hsymbol : ∀ s : Symbol, ¬ s.text.toList <+: c :: rest) :
      Stuck columns pos (c :: rest) (.unexpectedChar c pos)

theorem scan_stuck {e : FormulaError} (h : scan columns c rest pos = .error e) :
    Stuck columns pos (c :: rest) e := by
  have hscans := scan_cases columns c rest pos
  rw [h] at hscans
  cases hscans with
  | noNumber hnum hx =>
    obtain ⟨more, hmore⟩ := numberPart_front (c :: rest)
    have hstuck : Stuck columns pos (numberPart (c :: rest) ++ more) _ :=
      .number (startsNumber_numberPart hnum) hx
    rwa [hmore] at hstuck
  | openText _ hcol hq hopen =>
    rw [length_takeWhile_lt_iff] at hopen
    exact .quotation hq hopen (column?_eq_none.1 hcol)
  | noToken hnum hcol hq hstart hs =>
    refine .char (by simpa using hnum) (column?_eq_none.1 hcol) (by simpa using hq)
      (by simpa using hstart) fun s hfront => ?_
    have hnone := List.find?_eq_none.1 hs s (by cases s <;> decide)
    exact hnone (by simpa using hfront)

end Token

/-! ## The whole source -/

open Token (Writes Binds Stuck Longest)

/-- **Lexemes tile the front of a text**, which begins at a byte position: blanks, then the text of
a token at the position of its lexeme, and so on, and blanks at the end. What is left, and where, is
given last. -/
inductive Tiles (columns : List String) :
    Nat → List Char → List Lexeme → Nat → List Char → Prop where
  | done {pos : Nat} {blanks left : List Char} (hblanks : ∀ c ∈ blanks, isBlank c = true) :
      Tiles columns pos (blanks ++ left) [] (pos + byteLength blanks) left
  | next {pos stop : Nat} {blanks text rest left : List Char} {token : Token} {ts : List Lexeme}
      (hblanks : ∀ c ∈ blanks, isBlank c = true) (htext : token.Writes text)
      (hbinds : token.Binds columns (text ++ rest))
      (more : Tiles columns (pos + byteLength blanks + byteLength text) rest ts stop left) :
      Tiles columns pos (blanks ++ (text ++ rest)) (⟨token, pos + byteLength blanks⟩ :: ts) stop left

variable {columns : List String} {pos stop : Nat} {cs left : List Char} {ts : List Lexeme}

/-- What is not tiled ends the text, and stands at the place that is given. -/
theorem Tiles.left_eq (h : Tiles columns pos cs ts stop left) :
    ∃ front, cs = front ++ left ∧ stop = pos + byteLength front := by
  induction h with
  | done => exact ⟨_, rfl, rfl⟩
  | @next pos stop blanks text rest left token ts hblanks htext hbinds more ih =>
    obtain ⟨front, rfl, rfl⟩ := ih
    refine ⟨blanks ++ (text ++ front), by simp only [List.append_assoc], ?_⟩
    rw [byteLength_append, byteLength_append]
    omega

/-- The text of every lexeme stands in the source at the position of the lexeme. -/
theorem Tiles.text_eq (h : Tiles columns pos cs ts stop left) :
    ∀ l ∈ ts, ∃ before text after, cs = before ++ (text ++ after) ∧
      l.pos = pos + byteLength before ∧ l.token.Writes text := by
  induction h with
  | done => exact nofun
  | @next pos stop blanks text rest left token ts hblanks htext hbinds more ih =>
    intro l hl
    rcases List.mem_cons.1 hl with rfl | hl
    · exact ⟨blanks, text, rest, rfl, rfl, htext⟩
    · obtain ⟨before, text', after, rfl, hpos, hwrites⟩ := ih l hl
      refine ⟨blanks ++ (text ++ before), text', after, by simp only [List.append_assoc], ?_,
        hwrites⟩
      rw [byteLength_append, byteLength_append]
      omega

theorem takeWhile_append_trimLeft (cs : List Char) :
    cs.takeWhile isBlank ++ trimLeft cs = cs := List.takeWhile_append_dropWhile

theorem isBlank_of_mem_takeWhile (cs : List Char) : ∀ c ∈ cs.takeWhile isBlank, isBlank c = true :=
  fun _ hc => List.mem_takeWhile_imp hc

/-- A token that the lexer takes is one more tile. -/
theorem Tiles.of_scan {k : Nat} {rest : List Char} {c : Char} {token : Token} {start : Nat}
    (hcons : trimLeft cs = c :: rest) (hstart : start = pos + byteLength (cs.takeWhile isBlank))
    (hscan : Token.scan columns c rest start = .ok (token, k))
    (hmore : Tiles columns (start + byteLength (c :: rest.take k)) (rest.drop k) ts stop left) :
    Tiles columns pos cs (⟨token, start⟩ :: ts) stop left := by
  subst hstart
  obtain ⟨hwrites, hbinds⟩ := Token.scan_tile hscan
  have hrest : c :: rest.take k ++ rest.drop k = trimLeft cs := by
    rw [List.cons_append, List.take_append_drop, hcons]
  rw [← hcons, ← hrest] at hbinds
  have htile := Tiles.next (isBlank_of_mem_takeWhile cs) hwrites hbinds hmore
  rwa [hrest, takeWhile_append_trimLeft] at htile

/-- **The lexer tiles a text** up to its end, or up to the place where it gives up. -/
theorem cut_tiles (columns : List String) (pos : Nat) (cs : List Char) :
    (∀ ts, Lexeme.cut columns pos cs = .ok ts → ∃ stop, Tiles columns pos cs ts stop []) ∧
      ∀ e, Lexeme.cut columns pos cs = .error e →
        ∃ ts stop left, Tiles columns pos cs ts stop left ∧ Stuck columns stop left e := by
  fun_induction Lexeme.cut columns pos cs with
  | case1 pos cs hnil =>
    -- nothing but blanks
    have hdone : Tiles columns pos (cs.takeWhile isBlank ++ []) [] _ [] :=
      .done (isBlank_of_mem_takeWhile cs)
    rw [← hnil, takeWhile_append_trimLeft, hnil] at hdone
    constructor
    · intro ts hts
      cases hts
      exact ⟨_, hdone⟩
    · intro e he
      cases he
  | case2 pos cs c rest hcons start e hscan =>
    -- no token can be taken behind the blanks
    have hdone : Tiles columns pos (cs.takeWhile isBlank ++ trimLeft cs) [] start (trimLeft cs) :=
      .done (isBlank_of_mem_takeWhile cs)
    rw [takeWhile_append_trimLeft, hcons] at hdone
    constructor
    · intro ts hts
      cases hts
    · intro e he
      cases he
      exact ⟨[], start, c :: rest, hdone, Token.scan_stuck hscan⟩
  | case3 pos cs c rest hcons start token k hscan e hrest ih =>
    constructor
    · intro ts hts
      cases hts
    · intro e he
      cases he
      obtain ⟨ts, stop, left, hmore, hstuck⟩ := ih.2 e hrest
      exact ⟨_, stop, left, .of_scan hcons rfl hscan hmore, hstuck⟩
  | case4 pos cs c rest hcons start token k hscan ts hrest ih =>
    constructor
    · intro ts' hts
      cases hts
      obtain ⟨stop, hmore⟩ := ih.1 ts hrest
      exact ⟨stop, .of_scan hcons rfl hscan hmore⟩
    · intro e he
      cases he

/-! ## Sources -/

/-- **A text stands in a source at a byte position**: what is in front of it takes so many bytes,
so that the position is between two characters. -/
def StandsAt (source : String) (pos : Nat) (text : String) : Prop :=
  ∃ before after, source = before ++ text ++ after ∧ pos = before.utf8ByteSize

theorem eq_ofList_append {source : String} {front back : List Char}
    (h : source.toList = front ++ back) : source = .ofList front ++ .ofList back := by
  rw [← String.ofList_append, ← h, String.ofList_toList]

/-- Every lexeme stands in the source at its position. -/
theorem Tiles.standsAt {source : String} (h : Tiles columns 0 source.toList ts stop left) :
    ∀ l ∈ ts, ∃ text, StandsAt source l.pos (.ofList text) ∧ l.token.Writes text := by
  intro l hl
  obtain ⟨before, text, after, heq, hpos, hwrites⟩ := h.text_eq l hl
  refine ⟨text, ⟨.ofList before, .ofList after, ?_, ?_⟩, hwrites⟩
  · rw [String.append_assoc, ← String.ofList_append]
    exact eq_ofList_append heq
  · rw [hpos, Nat.zero_add, utf8ByteSize_ofList]

/-- What is left ends the source, and begins where the tiles stop. -/
theorem Tiles.left_standsAt {source : String} (h : Tiles columns 0 source.toList ts stop left) :
    ∃ front, source = front ++ .ofList left ∧ stop = front.utf8ByteSize := by
  obtain ⟨front, hfront, hstop⟩ := h.left_eq
  refine ⟨.ofList front, eq_ofList_append hfront, ?_⟩
  rw [hstop, Nat.zero_add, utf8ByteSize_ofList]

/-- Tiles that leave nothing stop at the end of the source. -/
theorem Tiles.stop_eq {source : String} (h : Tiles columns 0 source.toList ts stop []) :
    stop = source.utf8ByteSize := by
  obtain ⟨front, hfront, hstop⟩ := h.left_eq
  rw [List.append_nil] at hfront
  rw [hstop, ← hfront, Nat.zero_add, byteLength_toList]

/-- A column name alone is the longest column that stands there. -/
theorem Token.Longest.of_name {name : String} (hmem : name ∈ columns) (hne : name ≠ "") :
    Longest columns name.toList name where
  mem := hmem
  stands := by
    refine ⟨[], ?_, (List.append_nil _).symm, nofun, fun _ => nofun⟩
    simpa using hne
  length_le := by
    rintro n - ⟨after, hs⟩
    rw [hs.text, List.length_append]
    omega

/-- A phrase of one token is a whole formula. -/
theorem Formula.Derives.of_primary {k : Token} {e : Formula} (h : Derives .primary [k] e) :
    Derives .ternary [k] e :=
  .disjunction (.operand (.operand (.operand (.operand (.operand (.unsigned (.base h)))))))

/-- A trimmed column name where no number starts is the formula of that column. -/
theorem Formula.compile_name {name : String} (hmem : name ∈ columns) (hne : name ≠ "")
    (htrim : trimmed name = name) (hnum : Token.startsNumber name.toList = false) :
    compile columns name = .ok (.column name) := by
  have htrim' : trim name.toList = name.toList := by
    rw [← String.toList_inj] at htrim
    simpa [trimmed] using htrim
  have hleft : trimLeft name.toList = name.toList := by
    rw [← htrim', trimLeft_trim]
  have hcol : Token.column? columns name.toList = some name :=
    Token.column?_eq_some_iff.2 (.of_name hmem hne)
  cases hname : name.toList with
  | nil => exact absurd (String.toList_inj.1 (hname.trans String.toList_empty.symm)) hne
  | cons c rest =>
    rw [hname] at hleft hcol hnum
    have hscan : Token.scan columns c rest 0 = .ok (.column name, rest.length) := by
      unfold Token.scan
      simp [hnum, hcol, hname]
    refine compile_eq_ok.2 ⟨[⟨.column name, 0⟩], ?_, .of_primary (.column name)⟩
    rw [hname]
    refine .next hleft ?_ hscan (.done ?_)
    · rw [List.takeWhile_cons_of_neg (by simp [not_isBlank_of_trimLeft hleft])]
      rfl
    · rw [List.drop_length]
      rfl

end Tabular
