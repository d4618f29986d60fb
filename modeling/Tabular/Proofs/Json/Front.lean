import Mathlib
import Tabular.Json.Decode

/-!
# JSON in front of a text

A reader takes a value from the front of a text. What follows the value does not matter.

* `next?_append` and `eat?_append`: the blanks in front.
* `pieces?_append`: a quoted text, which ends at its closing quote.
* `number?_append`: **a number, unless it is all of the text**; `NumberAt` says how long it is.
* `named?_append` and `scalar?_append`: a word, and what is a number or a word.
-/

namespace Tabular.Json

variable {b c : UInt8} {bs : List UInt8}

/-! ## More behind what is left -/

/-- What is left when the text goes on. -/
def Left.append (r : Left bs) (more : List UInt8) : Left (bs ++ more) :=
  ⟨r.val ++ more, by
    have := r.property
    simp only [List.length_append]
    omega⟩

@[inherit_doc Left.append]
def Shorter.append (r : Shorter bs) (more : List UInt8) : Shorter (bs ++ more) :=
  ⟨r.val ++ more, by
    have := r.property
    simp only [List.length_append]
    omega⟩

/-! ## Blanks -/

theorem next?_append {r : Shorter bs} (h : next? bs = some (b, r)) (more : List UInt8) :
    next? (bs ++ more) = some (b, Shorter.append r more) := by
  induction bs with
  | nil => cases h
  | cons a bs ih =>
    show next? (a :: (bs ++ more)) = _
    rw [next?] at h ⊢
    cases ha : isSpace a with
    | false =>
      rw [ha] at h
      cases h
      rfl
    | true =>
      rw [ha, if_pos rfl] at h
      obtain ⟨⟨c, s⟩, hs, heq⟩ := Option.map_eq_some_iff.1 h
      cases heq
      rw [if_pos rfl, ih hs]
      rfl

/-- Only blanks are passed over. -/
theorem next?_eq_none : next? bs = none ↔ ∀ b ∈ bs, isSpace b = true := by
  induction bs with
  | nil => simp [next?]
  | cons a bs ih =>
    rw [next?, List.forall_mem_cons]
    cases ha : isSpace a with
    | false => simp
    | true =>
      simp only [if_true, Option.map_eq_none_iff, true_and]
      exact ih

theorem eat?_eq_some {r : Shorter bs} : eat? b bs = some r ↔ next? bs = some (b, r) := by
  unfold eat?
  cases hnext : next? bs with
  | none => simp
  | some p =>
    obtain ⟨c, s⟩ := p
    by_cases hc : c = b
    · subst hc
      simp
    · simp [hc]

theorem eat?_append {r : Shorter bs} (h : eat? b bs = some r) (more : List UInt8) :
    eat? b (bs ++ more) = some (Shorter.append r more) :=
  eat?_eq_some.2 (next?_append (eat?_eq_some.1 h) more)

/-- Another byte stays the first one. -/
theorem eat?_append_eq_none (h : eat? b bs = none) (hne : next? bs ≠ none) (more : List UInt8) :
    eat? b (bs ++ more) = none := by
  obtain ⟨⟨c, r⟩, hnext⟩ := Option.ne_none_iff_exists'.1 hne
  unfold eat? at h ⊢
  rw [hnext] at h
  rw [next?_append hnext more]
  by_cases hc : (c == b) = true
  · simp [hc] at h
  · simp [hc]

/-! ## Quoted texts -/

theorem pieces?_append {acc ps : List Piece} {r : Left bs} (h : pieces? acc bs = some (ps, r))
    (more : List UInt8) : pieces? acc (bs ++ more) = some (ps, Left.append r more) := by
  fun_induction pieces? acc bs with
  | case1 acc => cases h
  | case2 acc rest =>
    cases h
    rfl
  | case3 acc a b c d rest hcode => cases h
  | case4 acc a b c d rest n hcode ih =>
    obtain ⟨⟨ps', s⟩, hs, heq⟩ := Option.map_eq_some_iff.1 h
    cases heq
    simp only [List.cons_append, pieces?, hcode, ih hs]
    rfl
  | case5 acc e rest hcode he => cases h
  | case6 acc e rest hcode b he ih =>
    obtain ⟨⟨ps', s⟩, hs, heq⟩ := Option.map_eq_some_iff.1 h
    cases heq
    have hne : e ≠ 0x75 := by
      rintro rfl
      cases he
    show pieces? acc (0x5c :: e :: (rest ++ more)) = _
    rw [pieces?]
    · simp only [he, ih hs]
      rfl
    · intro a b c d rest h
      exact absurd h hne
  | case7 acc b rest _ _ _ hb => cases h
  | case8 acc b rest hquote hcode hescape hb ih =>
    obtain ⟨⟨ps', s⟩, hs, heq⟩ := Option.map_eq_some_iff.1 h
    cases heq
    have hne : b ≠ 0x5c := by
      rintro rfl
      simp at hb
    show pieces? acc (b :: (rest ++ more)) = _
    rw [pieces?]
    · simp only [hb, ih hs]
      rfl
    · exact hquote
    · intro a b c d rest h
      exact absurd h hne
    · intro e rest h
      exact absurd h hne

/-! ## Numbers -/

/-- A run that ends before the text does is not prolonged. -/
theorem takeWhile_append_of_lt {p : UInt8 → Bool} {l : List UInt8}
    (h : (l.takeWhile p).length < l.length) (more : List UInt8) :
    (l ++ more).takeWhile p = l.takeWhile p := by
  rw [List.takeWhile_append, if_neg (by omega)]

theorem fraction?_point (l : List UInt8) :
    fraction? (0x2e :: l) =
      if l.takeWhile isDigitByte = [] then none else some (l.takeWhile isDigitByte) := by
  show fraction? (0x2e :: l) = _
  rw [fraction?]
  split
  · rename_i h
    rw [if_pos h]
  · rename_i h
    rw [if_neg h]

/-- The length of a fraction with given digits. -/
def fractionLength (frac : List UInt8) : Nat := if frac = [] then 0 else frac.length + 1

theorem fraction?_cons (h : b ≠ 0x2e) (l : List UInt8) : fraction? (b :: l) = some [] := by
  unfold fraction?
  split
  · rename_i heq
    cases heq
    exact absurd rfl h
  · rfl

theorem fraction?_append {l frac : List UInt8} (h : fraction? l = some frac)
    (hlt : fractionLength frac < l.length) (more : List UInt8) :
    fraction? (l ++ more) = some frac := by
  cases l with
  | nil => cases hlt
  | cons b l =>
    rw [List.cons_append]
    by_cases hb : b = 0x2e
    · subst hb
      rw [fraction?_point] at h ⊢
      split at h
      · cases h
      · rename_i hne
        cases h
        rw [fractionLength, if_neg hne, List.length_cons] at hlt
        rw [takeWhile_append_of_lt (by omega), if_neg hne]
    · rwa [fraction?_cons hb] at h ⊢

/-- The length of the sign in front. -/
def signLength (l : List UInt8) : Nat := if l.head? = some 0x2b ∨ l.head? = some 0x2d then 1 else 0

theorem power?_cons (l : List UInt8) :
    power? (b :: l) =
      if b = 0x65 ∨ b = 0x45 then
        let digits := (l.drop (signLength l)).takeWhile isDigitByte
        if digits = [] then none
        else
          let n : Int := digitBytesValue digits
          some (some (if l.head? = some 0x2d then -n else n), 1 + signLength l + digits.length)
      else some (none, 0) := by
  unfold power?
  by_cases hb : b = 0x65 ∨ b = 0x45
  · have hb' : (b == 0x65 || b == 0x45) = true := by simpa using hb
    simp only [if_pos hb, hb', if_true]
    cases l with
    | nil => rfl
    | cons c l =>
      by_cases hplus : c = 0x2b
      · subst hplus
        have hs : signLength (0x2b :: l) = 1 := rfl
        rw [hs]
        cases hds : l.takeWhile isDigitByte <;> simp [hds]
      by_cases hminus : c = 0x2d
      · subst hminus
        have hs : signLength (0x2d :: l) = 1 := rfl
        rw [hs]
        cases hds : l.takeWhile isDigitByte <;> simp [hds]
      · have hs : signLength (c :: l) = 0 := by simp [signLength, hplus, hminus]
        rw [hs]
        cases hds : (c :: l).takeWhile isDigitByte <;> simp [hds, hplus, hminus]
  · have hb' : (b == 0x65 || b == 0x45) = false := by simpa using hb
    simp only [if_neg hb, hb', Bool.false_eq_true, if_false]

theorem signLength_append {l : List UInt8} (h : l ≠ []) (more : List UInt8) :
    signLength (l ++ more) = signLength l := by
  rw [signLength, List.head?_append_of_ne_nil l h]
  rfl

theorem power?_append {l : List UInt8} {e : Option Int} {n : Nat} (h : power? l = some (e, n))
    (hlt : n < l.length) (more : List UInt8) : power? (l ++ more) = some (e, n) := by
  cases l with
  | nil => cases hlt
  | cons b l =>
    rw [List.cons_append]
    rw [power?_cons] at h ⊢
    split at h
    · rename_i hb
      dsimp only at h
      split at h
      · cases h
      · rename_i hdigits
        have hn : 1 + signLength l + ((l.drop (signLength l)).takeWhile isDigitByte).length = n :=
          congrArg (fun p => p.2) (Option.some.inj h)
        rw [List.length_cons] at hlt
        have hne : l ≠ [] := by
          rintro rfl
          exact hdigits rfl
        have hrun : ((l.drop (signLength l)).takeWhile isDigitByte).length <
            (l.drop (signLength l)).length := by
          rw [List.length_drop]
          omega
        rw [if_pos hb, signLength_append hne, List.head?_append_of_ne_nil l hne,
          List.drop_append_of_le_length (by omega), takeWhile_append_of_lt hrun]
        dsimp only
        rw [if_neg hdigits, h]
    · rename_i hb
      rw [if_neg hb, h]

/-- The length of a minus in front. -/
def minusLength (l : List UInt8) : Nat := if l.head? == some 0x2d then 1 else 0

theorem minusLength_eq (l : List UInt8) :
    minusLength l = if l.head? == some 0x2d then 1 else 0 :=
  rfl

/-- **The number in front of a text and its length**, from its parts: a whole part, a fraction and
a power. -/
inductive NumberAt (bs : List UInt8) : Numeric → Nat → Prop where
  | parts {whole frac : List UInt8} {e : Option Int} {n : Nat}
    (whole_eq : (bs.drop (minusLength bs)).takeWhile isDigitByte = whole)
    (whole_ok : ¬(whole = [] ∨ (whole.head? = some 0x30 ∧ whole.length > 1)))
    (fraction : fraction? (bs.drop (minusLength bs + whole.length)) = some frac)
    (power : power? (bs.drop (minusLength bs + whole.length + fractionLength frac)) = some (e, n)) :
    NumberAt bs
      (if frac = [] ∧ e.isNone then Numeric.whole (minusLength bs == 1) (digitBytesValue whole)
        else Numeric.decimal (minusLength bs == 1) (digitBytesValue (whole ++ frac))
          (e.getD 0 - frac.length))
      (minusLength bs + whole.length + fractionLength frac + n)

theorem numberAt_of_number? {v : Numeric} {r : Left bs} (h : number? bs = some (v, r)) :
    ∃ k, NumberAt bs v k ∧ r.val = bs.drop k := by
  obtain ⟨minus, hminus⟩ : ∃ minus, (if bs.head? == some 0x2d then 1 else 0) = minus := ⟨_, rfl⟩
  unfold number? at h
  simp only [hminus, Option.ite_none_left_eq_some] at h
  obtain ⟨hwhole, h⟩ := h
  split at h
  · cases h
  rename_i frac hfrac
  split at h
  · cases h
  rename_i e n hpower
  cases h
  subst hminus
  exact ⟨_, .parts rfl hwhole hfrac hpower, rfl⟩

theorem NumberAt.number?_eq {v : Numeric} {k : Nat} (h : NumberAt bs v k) :
    ∃ hk, number? bs = some (v, ⟨bs.drop k, hk⟩) := by
  obtain ⟨hwhole, hok, hfrac, hpower⟩ := h
  subst hwhole
  unfold number?
  unfold fractionLength at hpower ⊢
  simp only [← minusLength_eq, if_neg hok, hfrac, hpower]
  exact ⟨by rw [List.length_drop]; omega, trivial⟩

theorem NumberAt.append {v : Numeric} {k : Nat} (h : NumberAt bs v k) (hk : k < bs.length)
    (more : List UInt8) : NumberAt (bs ++ more) v k := by
  obtain @⟨whole, frac, e, n, hwhole, hok, hfrac, hpower⟩ := h
  have hminus : minusLength (bs ++ more) = minusLength bs := by
    rw [minusLength, List.head?_append_of_ne_nil bs (List.ne_nil_of_length_pos (by omega))]
    rfl
  have hdrop {i : Nat} (hi : i < bs.length) : (bs ++ more).drop i = bs.drop i ++ more :=
    List.drop_append_of_le_length hi.le
  rw [← hminus] at hwhole hfrac hpower ⊢
  refine .parts ?_ hok ?_ ?_
  · rw [hdrop (by omega), takeWhile_append_of_lt (by rw [hwhole, List.length_drop]; omega), hwhole]
  · rw [hdrop (by omega)]
    exact fraction?_append hfrac (by rw [List.length_drop]; omega) more
  · rw [hdrop (by omega)]
    exact power?_append hpower (by rw [List.length_drop]; omega) more

/-- A number that does not end the text. -/
theorem number?_append {v : Numeric} {r : Left bs} (h : number? bs = some (v, r))
    (hne : r.val ≠ []) (more : List UInt8) :
    number? (bs ++ more) = some (v, Left.append r more) := by
  obtain ⟨k, hnumber, hr⟩ := numberAt_of_number? h
  have hk : k < bs.length := by
    rw [hr] at hne
    simpa using hne
  obtain ⟨hle, heq⟩ := (hnumber.append hk more).number?_eq
  have hrest : r.val ++ more = (bs ++ more).drop k := by
    rw [hr, List.drop_append_of_le_length hk.le]
  rw [heq]
  exact congrArg (fun r => some (v, r)) (Subtype.ext hrest.symm)

/-! ## Words -/

theorem literal?_append {word : String} {r : Left bs} (h : literal? word bs = some r)
    (more : List UInt8) : literal? word (bs ++ more) = some (Left.append r more) := by
  unfold literal? at h ⊢
  dsimp only at h ⊢
  split at h
  · rename_i hfront
    cases h
    have hle : word.toUTF8.toList.length ≤ bs.length :=
      (List.isPrefixOf_iff_prefix.1 hfront).length_le
    have hmore : word.toUTF8.toList.isPrefixOf (bs ++ more) = true :=
      List.isPrefixOf_iff_prefix.2
        ((List.isPrefixOf_iff_prefix.1 hfront).trans (List.prefix_append bs more))
    rw [if_pos hmore]
    exact congrArg some (Subtype.ext (List.drop_append_of_le_length hle))
  · cases h

/-- Two words do not stand in front of one text, if neither begins the other. -/
theorem literal?_eq_none {word word' : String} {r : Left bs} (h : literal? word' bs = some r)
    (hapart : ¬word.toUTF8.toList <+: word'.toUTF8.toList ∧
      ¬word'.toUTF8.toList <+: word.toUTF8.toList) : literal? word bs = none := by
  unfold literal? at h ⊢
  dsimp only at h ⊢
  split at h
  · rename_i hfront
    rw [if_neg]
    intro hfront'
    rw [List.isPrefixOf_iff_prefix] at hfront hfront'
    rcases List.prefix_or_prefix_of_prefix hfront hfront' with hp | hp
    · exact hapart.2 hp
    · exact hapart.1 hp
  · cases h

theorem named?_append {d : Document} {r : Left bs} (h : named? bs = some (d, r))
    (more : List UInt8) : named? (bs ++ more) = some (d, Left.append r more) := by
  unfold named? at h ⊢
  cases hnull : literal? "null" bs with
  | some s =>
    rw [hnull] at h
    cases h
    rw [literal?_append hnull]
    rfl
  | none =>
    cases htrue : literal? "true" bs with
    | some s =>
      rw [hnull, htrue] at h
      cases h
      have htrue' := literal?_append htrue more
      rw [literal?_eq_none htrue' (by decide +kernel), htrue']
      rfl
    | none =>
      rw [hnull, htrue, Option.map_none, Option.none_or, Option.map_none, Option.none_or] at h
      obtain ⟨s, hfalse, heq⟩ := Option.map_eq_some_iff.1 h
      cases heq
      have hfalse' := literal?_append hfalse more
      rw [literal?_eq_none hfalse' (by decide +kernel),
        literal?_eq_none hfalse' (by decide +kernel), hfalse']
      rfl

/-- A number at the end of the text may be prolonged. -/
theorem scalar?_append {d : Document} {r : Left (b :: bs)} (h : scalar? (b :: bs) = some (d, r))
    (hend : r.val = [] → ∀ n, d ≠ .number n) (more : List UInt8) :
    scalar? (b :: bs ++ more) = some (d, Left.append r more) := by
  unfold scalar? at h ⊢
  rw [List.head?_append_of_ne_nil _ (List.cons_ne_nil b bs)]
  split at h
  · rename_i hhead
    obtain ⟨⟨v, s⟩, hs, heq⟩ := Option.map_eq_some_iff.1 h
    cases heq
    have hne : s.val ≠ [] := fun hnil => hend hnil v rfl
    rw [if_pos hhead, number?_append hs hne]
    rfl
  · rename_i hhead
    rw [if_neg hhead, named?_append h]

end Tabular.Json
