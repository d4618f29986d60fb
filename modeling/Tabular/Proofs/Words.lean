import Mathlib.Data.List.Infix
import Mathlib.Data.List.TakeWhile
import Tabular.Text.Blank
import Tabular.Text.Join

/-!
# Words in a line

A line is read as words, and words are put together again with single spaces between them. What
comes back is the line with its blanks squeezed.

* `Solid` texts have no blanks; `words_append` reads a solid text in front as a word.
* `trim_eq_self`, `Solid.trim_eq` and `Solid.trim_concat`: what is cut off a line.
* `squeezed` has a single space for every run of blanks, and `squeezed_eq_iff` says which texts
  it leaves as they are.
* `intercalate_words`: **putting the words of a text together again squeezes its blanks.**
* `trim_trim` and `words_trim`: a trimmed text is trimmed already and has the same words.
-/

namespace Tabular

variable {c d : Char} {cs ds w : List Char}

/-- The text has no blanks. -/
def Solid (cs : List Char) : Prop := ∀ c ∈ cs, isBlank c = false

instance (cs : List Char) : Decidable (Solid cs) := List.decidableBAll _ cs

theorem Solid.all (h : Solid cs) : ∀ c ∈ cs, (!isBlank c) = true := by
  intro c hc
  rw [h c hc]
  rfl

/-- A digit is not blank. -/
theorem isBlank_of_isDigit (h : c.isDigit = true) : isBlank c = false := by
  have hcode : 48 ≤ c.toNat ∧ c.toNat ≤ 57 := by
    simpa [Char.isDigit, Char.le_def, UInt32.le_iff_toNat_le] using h
  simp [isBlank]
  omega

/-- A count is written without blanks. -/
theorem solid_toString (n : Nat) : Solid (toString n).toList := by
  intro c hc
  have hdigits : (toString n).toList = Nat.toDigits 10 n := by simp
  rw [hdigits] at hc
  exact isBlank_of_isDigit (Nat.isDigit_of_mem_toDigits (by decide) (by decide) hc)

/-! ## Cutting -/

theorem trimLeft_cons (h : isBlank c = false) : trimLeft (c :: cs) = c :: cs :=
  List.dropWhile_cons_of_neg (by simp [h])

theorem trimLeft_blank (h : isBlank c = true) : trimLeft (c :: cs) = trimLeft cs :=
  List.dropWhile_cons_of_pos h

/-- Behind a character that is not blank, only what follows is trimmed. -/
theorem trimRight_append (h : isBlank c = false) :
    trimRight (cs ++ c :: ds) = cs ++ c :: trimRight ds := by
  unfold trimRight
  rw [List.reverse_append, List.reverse_cons, List.append_assoc, List.singleton_append,
    List.dropWhile_append]
  split
  · rename_i hds
    simp [List.isEmpty_iff.1 hds, h]
  · simp

/-- A text between two characters that are not blank is not trimmed. -/
theorem trim_eq_self (hc : isBlank c = false) (hd : isBlank d = false) :
    trim (c :: (cs ++ [d])) = c :: (cs ++ [d]) := by
  unfold trim
  rw [trimLeft_cons hc, ← List.cons_append, trimRight_append hd]
  rfl

/-- A character that is not blank is not trimmed away. -/
theorem trim_ne_nil (h : c ∈ cs) (hc : isBlank c = false) :
    trim cs ≠ [] := by
  unfold trim
  cases hleft : trimLeft cs with
  | nil =>
    have hblank := List.dropWhile_eq_nil_iff.1 hleft c h
    rw [hc] at hblank
    cases hblank
  | cons d ds =>
    rw [← List.nil_append (d :: ds), trimRight_append (not_isBlank_of_trimLeft hleft)]
    exact List.cons_ne_nil d _

/-- A text without blanks is not trimmed. -/
theorem Solid.trim_eq (h : Solid cs) : trim cs = cs := by
  have hdrop {l : List Char} (hl : Solid l) : l.dropWhile isBlank = l := by
    cases l with
    | nil => rfl
    | cons c l => exact trimLeft_cons (hl c List.mem_cons_self)
  have hreverse : Solid cs.reverse := fun c hc => h c (List.mem_reverse.1 hc)
  rw [trim, trimLeft, hdrop h, trimRight, hdrop hreverse, List.reverse_reverse]

/-- Behind a text without blanks a blank is trimmed, and nothing else. -/
theorem Solid.trim_concat (h : Solid cs) (hd : isBlank d = true) : trim (cs ++ [d]) = cs := by
  have hlast : trimRight [d] = [] := by
    simp [trimRight, hd]
  have hleft : trimLeft (cs ++ [d]) = if cs = [] then [] else cs ++ [d] := by
    cases cs with
    | nil => simp [trimLeft, hd]
    | cons c cs => exact trimLeft_cons (h c List.mem_cons_self)
  unfold trim
  rw [hleft]
  cases cs using List.reverseRecOn with
  | nil => rfl
  | append_singleton cs e =>
    rw [if_neg (by simp), List.append_assoc, List.singleton_append,
      trimRight_append (h e (by simp)), hlast]

/-! ## Words -/

@[simp] theorem words_nil : words [] = [] := by
  rw [words]
  rfl

theorem words_blank (h : isBlank c = true) : words (c :: cs) = words cs := by
  rw [words, words, trimLeft_blank h]

theorem words_trimLeft (cs : List Char) : words (trimLeft cs) = words cs := by
  induction cs with
  | nil => rfl
  | cons c cs ih =>
    cases hc : isBlank c with
    | true => rw [trimLeft_blank hc, words_blank hc, ih]
    | false => rw [trimLeft_cons hc]

/-- A word goes on to the next blank. -/
theorem words_cons (h : isBlank c = false) :
    words (c :: cs) = (c :: cs.takeWhile (!isBlank ·)) :: words (cs.dropWhile (!isBlank ·)) := by
  rw [words]
  split
  · rename_i heq
    rw [trimLeft_cons h] at heq
    cases heq
  · rename_i a rest heq
    rw [trimLeft_cons h] at heq
    cases heq
    rfl

/-- A solid text with a blank behind it is a word. -/
theorem words_append (hw : Solid w) (hne : w ≠ []) (hd : isBlank d = true) :
    words (w ++ d :: ds) = w :: words ds := by
  cases w with
  | nil => exact absurd rfl hne
  | cons c w =>
    have hw' : ∀ x ∈ w, (!isBlank x) = true := fun x hx => hw.all x (List.mem_cons_of_mem c hx)
    rw [List.cons_append, words_cons (hw c List.mem_cons_self),
      List.takeWhile_append_of_pos hw', List.dropWhile_append_of_pos hw',
      List.takeWhile_cons_of_neg (by simp [hd]), List.dropWhile_cons_of_neg (by simp [hd]),
      List.append_nil, words_blank hd]

/-- A solid text is a single word. -/
theorem Solid.words_eq (hw : Solid w) (hne : w ≠ []) : words w = [w] := by
  cases w with
  | nil => exact absurd rfl hne
  | cons c w =>
    have hw' : ∀ x ∈ w, (!isBlank x) = true := fun x hx => hw.all x (List.mem_cons_of_mem c hx)
    rw [words_cons (hw c List.mem_cons_self), List.takeWhile_eq_self_iff.2 hw',
      List.dropWhile_eq_nil_iff.2 hw', words_nil]

theorem words_concat_ne_nil (h : isBlank d = false) (cs : List Char) : words (cs ++ [d]) ≠ [] := by
  induction cs with
  | nil => simp [words_cons h]
  | cons c cs ih =>
    rw [List.cons_append]
    cases hc : isBlank c with
    | true => rwa [words_blank hc]
    | false => simp [words_cons hc]

/-! ## Squeezed blanks -/

/-- The text with a single space for every run of blanks. -/
def squeezed : List Char → List Char
  | [] => []
  | c :: cs => if isBlank c then ' ' :: trimLeft (squeezed cs) else c :: squeezed cs

theorem squeezed_blank (h : isBlank c = true) :
    squeezed (c :: cs) = ' ' :: trimLeft (squeezed cs) := if_pos h

theorem squeezed_cons (h : isBlank c = false) : squeezed (c :: cs) = c :: squeezed cs := by
  simp [squeezed, h]

theorem trimLeft_trimLeft (cs : List Char) : trimLeft (trimLeft cs) = trimLeft cs := by
  cases h : trimLeft cs with
  | nil => rfl
  | cons c rest => exact trimLeft_cons (not_isBlank_of_trimLeft h)

/-- A character that is not blank ends a text and is not touched. -/
theorem squeezed_concat (h : isBlank d = false) (cs : List Char) :
    squeezed (cs ++ [d]) = squeezed cs ++ [d] := by
  have htrim (ds : List Char) : trimLeft (ds ++ [d]) = trimLeft ds ++ [d] := by
    unfold trimLeft
    rw [List.dropWhile_append, List.dropWhile_cons_of_neg (by simp [h])]
    split
    · rename_i hds
      rw [List.isEmpty_iff.1 hds, List.nil_append]
    · rfl
  induction cs with
  | nil => simp [squeezed, h]
  | cons c cs ih =>
    rw [List.cons_append]
    cases hc : isBlank c with
    | true => rw [squeezed_blank hc, squeezed_blank hc, ih, htrim, List.cons_append]
    | false => rw [squeezed_cons hc, squeezed_cons hc, ih, List.cons_append]

/-- Squeezing brings in nothing but spaces. -/
theorem mem_of_mem_squeezed (h : c ∈ squeezed cs) : c = ' ' ∨ c ∈ cs := by
  induction cs with
  | nil => exact .inr h
  | cons d cs ih =>
    unfold squeezed at h
    split at h
    · rcases List.mem_cons.1 h with h | h
      · exact .inl h
      · exact (ih ((List.dropWhile_sublist _).mem h)).imp_right (List.mem_cons_of_mem d)
    · rcases List.mem_cons.1 h with rfl | h
      · exact .inr List.mem_cons_self
      · exact (ih h).imp_right (List.mem_cons_of_mem d)

theorem length_squeezed_le (cs : List Char) : (squeezed cs).length ≤ cs.length := by
  induction cs with
  | nil => exact Nat.le_refl _
  | cons c cs ih =>
    have hle := trimLeft_length_le (squeezed cs)
    unfold squeezed
    split <;> simp only [List.length_cons] <;> omega

/-- Squeezed, trimmed and still the same means that nothing was done. -/
theorem trimLeft_squeezed_eq :
    trimLeft (squeezed cs) = cs ↔ squeezed cs = cs ∧ trimLeft cs = cs := by
  constructor
  · intro h
    have hle := length_squeezed_le cs
    have hsub : trimLeft (squeezed cs) = squeezed cs := by
      refine (List.dropWhile_sublist isBlank).eq_of_length_le ?_
      show (squeezed cs).length ≤ (trimLeft (squeezed cs)).length
      rwa [h]
    have heq : squeezed cs = cs := hsub.symm.trans h
    rw [heq] at h
    exact ⟨heq, h⟩
  · rintro ⟨h, ht⟩
    rw [h, ht]

theorem trimLeft_eq_self_iff : trimLeft cs = cs ↔ ∀ c ∈ cs.head?, isBlank c = false := by
  cases cs with
  | nil => simp [trimLeft]
  | cons c cs =>
    simp only [List.head?_cons, Option.mem_some_iff, forall_eq']
    constructor
    · exact not_isBlank_of_trimLeft
    · exact trimLeft_cons

/-- **Which texts have nothing to squeeze**: their blanks are spaces, no two of them adjacent. -/
theorem squeezed_eq_iff : squeezed cs = cs ↔
    (∀ c ∈ cs, isBlank c = true → c = ' ') ∧ ¬ [' ', ' '] <:+: cs := by
  induction cs with
  | nil => simp [squeezed]
  | cons c cs ih =>
    rw [List.infix_cons_iff, not_or, List.forall_mem_cons]
    cases hc : isBlank c with
    | false =>
      have hne : c ≠ ' ' := by
        rintro rfl
        cases hc
      rw [squeezed_cons hc, List.cons.injEq, ih]
      simp [Ne.symm hne]
    | true =>
      rw [squeezed_blank hc, List.cons.injEq, trimLeft_squeezed_eq, ih, trimLeft_eq_self_iff]
      constructor
      · rintro ⟨rfl, ⟨hblank, hinfix⟩, hhead⟩
        refine ⟨⟨fun _ => rfl, hblank⟩, ?_, hinfix⟩
        rintro ⟨t, ht⟩
        -- the second space would be the head of what follows
        obtain rfl : ' ' :: t = cs := by simpa using ht
        exact absurd (hhead ' ' rfl) (by decide)
      · rintro ⟨⟨hspace, hblank⟩, hprefix, hinfix⟩
        obtain rfl := hspace rfl
        refine ⟨rfl, ⟨hblank, hinfix⟩, ?_⟩
        intro d hd
        cases hdb : isBlank d with
        | false => rfl
        | true =>
          obtain ⟨ds, rfl⟩ := List.head?_eq_some_iff.1 hd
          obtain rfl := hblank d List.mem_cons_self hdb
          exact absurd ⟨ds, rfl⟩ hprefix

/-! ## Putting words together again -/

/-- **Putting the words of a text together again squeezes its blanks**, if the text does not end
with one. -/
theorem intercalate_words (hd : isBlank d = false) (cs : List Char) :
    List.intercalate [' '] (words (cs ++ [d])) = trimLeft (squeezed (cs ++ [d])) := by
  induction cs with
  | nil =>
    have hsolid : Solid [d] := by simpa [Solid] using hd
    rw [List.nil_append, hsolid.words_eq (by simp), squeezed_cons hd, trimLeft_cons hd]
    rfl
  | cons c cs ih =>
    rw [List.cons_append]
    cases hc : isBlank c with
    | true =>
      rw [words_blank hc, squeezed_blank hc, ih, trimLeft_blank (by decide), trimLeft_trimLeft]
    | false =>
      rw [squeezed_cons hc, trimLeft_cons hc, words_cons hc]
      have hne := words_concat_ne_nil hd cs
      -- does the word end here?
      cases hcs : cs ++ [d] with
      | nil => simp at hcs
      | cons e rest =>
        rw [hcs] at ih hne
        cases he : isBlank e with
        | true =>
          rw [squeezed_blank he, trimLeft_blank (by decide), trimLeft_trimLeft] at ih
          rw [List.takeWhile_cons_of_neg (by simp [he]), List.dropWhile_cons_of_neg (by simp [he]),
            squeezed_blank he, ← ih]
          obtain ⟨w, ws, hws⟩ := List.exists_cons_of_ne_nil hne
          rw [hws]
          rfl
        | false =>
          rw [words_cons he, squeezed_cons he, trimLeft_cons he] at ih
          rw [List.takeWhile_cons_of_pos (by simp [he]), List.dropWhile_cons_of_pos (by simp [he]),
            squeezed_cons he, ← ih]
          cases words (rest.dropWhile (!isBlank ·)) <;> rfl

/-! ## Trimmed texts -/

/-- No blank is left in front of a trimmed text. -/
theorem trimLeft_trim (cs : List Char) : trimLeft (trim cs) = trim cs := by
  unfold trim
  cases hleft : trimLeft cs with
  | nil => rfl
  | cons c rest =>
    -- the front is not blank, so that trimming at the end keeps it
    have hc : isBlank c = false := not_isBlank_of_trimLeft hleft
    have hcons : trimRight ([] ++ c :: rest) = [] ++ c :: trimRight rest := trimRight_append hc
    rw [List.nil_append, List.nil_append] at hcons
    rw [hcons, trimLeft_cons hc]

/-- A text is trimmed once and for all. -/
theorem trim_trim (cs : List Char) : trim (trim cs) = trim cs := by
  have hright (ds : List Char) : trimRight (trimRight ds) = trimRight ds := by
    show (trimLeft (trimLeft ds.reverse).reverse.reverse).reverse = (trimLeft ds.reverse).reverse
    rw [List.reverse_reverse, trimLeft_trimLeft]
  calc trim (trim cs) = trimRight (trim cs) := by rw [trim, trimLeft_trim]
    _ = trim cs := hright (trimLeft cs)

/-- A blank at the end belongs to no word. -/
theorem words_concat_blank (hd : isBlank d = true) (cs : List Char) :
    words (cs ++ [d]) = words cs := by
  fun_induction words cs with
  | case1 cs hleft =>
    have hall : ∀ x ∈ cs, isBlank x = true := List.dropWhile_eq_nil_iff.1 hleft
    rw [words]
    split
    · rfl
    · rename_i heq
      have hnil : trimLeft (cs ++ [d]) = [] := by
        refine List.dropWhile_eq_nil_iff.2 ?_
        intro x hx
        rcases List.mem_append.1 hx with hx | hx
        · exact hall x hx
        · rwa [List.mem_singleton.1 hx]
      rw [hnil] at heq
      cases heq
  | case2 cs c rest hleft ih =>
    have hc : isBlank c = false := not_isBlank_of_trimLeft hleft
    have hleft' : trimLeft (cs ++ [d]) = c :: (rest ++ [d]) := by
      unfold trimLeft at hleft ⊢
      rw [List.dropWhile_append, hleft]
      rfl
    have htake : (rest ++ [d]).takeWhile (!isBlank ·) = rest.takeWhile (!isBlank ·) := by
      rw [List.takeWhile_append, List.takeWhile_cons_of_neg (by simp [hd]), List.append_nil]
      split
      · rename_i hlen
        exact ((List.takeWhile_sublist _).eq_of_length hlen).symm
      · rfl
    have hdrop : (rest ++ [d]).dropWhile (!isBlank ·) = rest.dropWhile (!isBlank ·) ++ [d] := by
      rw [List.dropWhile_append, List.dropWhile_cons_of_neg (by simp [hd])]
      split
      · rename_i hnil
        rw [List.isEmpty_iff.1 hnil, List.nil_append]
      · rfl
    calc words (cs ++ [d]) = words (trimLeft (cs ++ [d])) := (words_trimLeft _).symm
      _ = (c :: rest.takeWhile (!isBlank ·)) :: words (rest.dropWhile (!isBlank ·) ++ [d]) := by
        rw [hleft', words_cons hc, htake, hdrop]
      _ = (c :: rest.takeWhile (!isBlank ·)) :: words (rest.dropWhile (!isBlank ·)) := by
        rw [ih]

/-- **Trimming a text leaves its words.** -/
theorem words_trim (cs : List Char) : words (trim cs) = words cs := by
  have hright (ds : List Char) : words (trimRight ds) = words ds := by
    induction ds using List.reverseRecOn with
    | nil => rfl
    | append_singleton ds d ih =>
      cases hd : isBlank d with
      | true =>
        have hdrop : trimRight (ds ++ [d]) = trimRight ds := by
          unfold trimRight
          rw [List.reverse_append, List.reverse_singleton, List.singleton_append,
            List.dropWhile_cons_of_pos hd]
        rw [hdrop, ih, words_concat_blank hd]
      | false =>
        rw [trimRight_append hd]
        rfl
  unfold trim
  rw [hright, words_trimLeft]

end Tabular
