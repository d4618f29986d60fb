import Mathlib
import Tabular.Proofs.Json.Front

/-!
# Documents in front of a text

Reading goes from the front of a text to the back and never looks behind the end of the value. So a
text may go on behind an intact value, and the value is still the same. Only a number at the very
end may be prolonged.

* `Finds` says what a reader finds and what it leaves; there is one lemma for each way to go on.
* `Stable`, `StableItems` and `StableMembers`: what follows does not matter. `stable_list` to
  `stableMembers_more` are the steps, one for each way to go on, and `stable_all` is the induction.
* `ofBytes_append`: **a whole text with more behind it than blanks is no JSON.**
-/

namespace Tabular.Json

variable {b : UInt8} {bs rest rest' : List UInt8}

/-- A reader finds a value in front of the text and leaves the rest. -/
def Finds {α : Type} (x : α × Left bs) (a : α) (rest : List UInt8) : Prop :=
  x.1 = a ∧ x.2.val = rest

theorem Finds.unique {α : Type} {x : α × Left bs} {a a' : α} {rest rest' : List UInt8}
    (h : Finds x a rest) (h' : Finds x a' rest') : a = a' ∧ rest = rest' :=
  ⟨h.1.symm.trans h'.1, h.2.symm.trans h'.2⟩

theorem Finds.of_eq {α : Type} {x : α × Left bs} {a : α} {r : Left bs} (h : x = (a, r)) :
    Finds x a r.val := by
  subst h
  exact ⟨rfl, rfl⟩

namespace Document

variable {d : Document} {ds : List Document} {ms : List (Option String × Document)}
  {ps : List Piece}

/-! ## What is found -/

theorem finds_emptyList {r : Shorter bs} {s : Shorter r.val} (h : next? bs = some (0x5b, r))
    (hclose : eat? 0x5d r.val = some s) : Finds (read bs) (.list []) s.val := by
  rw [read, h]
  simp only [beq_self_eq_true, if_true, hclose]
  exact ⟨rfl, rfl⟩

theorem finds_list {r : Shorter bs} (h : next? bs = some (0x5b, r))
    (hopen : eat? 0x5d r.val = none) (hitems : Finds (readItems r.val) ds rest) :
    Finds (read bs) (.list ds) rest := by
  obtain ⟨rfl, rfl⟩ := hitems
  rw [read, h]
  simp only [beq_self_eq_true, if_true, hopen]
  exact ⟨rfl, rfl⟩

theorem finds_emptyObject {r : Shorter bs} {s : Shorter r.val} (h : next? bs = some (0x7b, r))
    (hclose : eat? 0x7d r.val = some s) : Finds (read bs) (.object []) s.val := by
  have hlist : ((0x7b : UInt8) == 0x5b) = false := rfl
  rw [read, h]
  simp only [hlist, Bool.false_eq_true, if_false, beq_self_eq_true, if_true, hclose]
  exact ⟨rfl, rfl⟩

theorem finds_object {r : Shorter bs} (h : next? bs = some (0x7b, r))
    (hopen : eat? 0x7d r.val = none) (hmembers : Finds (readMembers r.val) ms rest) :
    Finds (read bs) (.object ms) rest := by
  have hlist : ((0x7b : UInt8) == 0x5b) = false := rfl
  obtain ⟨rfl, rfl⟩ := hmembers
  rw [read, h]
  simp only [hlist, Bool.false_eq_true, if_false, beq_self_eq_true, if_true, hopen]
  exact ⟨rfl, rfl⟩

theorem finds_text {r : Shorter bs} {s : Left r.val} (h : next? bs = some (0x22, r))
    (hpieces : pieces? [] r.val = some (ps, s)) : Finds (read bs) (.text (spell? ps)) s.val := by
  have hlist : ((0x22 : UInt8) == 0x5b) = false := rfl
  have hobject : ((0x22 : UInt8) == 0x7b) = false := rfl
  rw [read, h]
  simp only [hlist, hobject, Bool.false_eq_true, if_false, beq_self_eq_true, if_true, hpieces]
  exact ⟨rfl, rfl⟩

theorem finds_scalar {r : Shorter bs} {s : Left (b :: r.val)} (h : next? bs = some (b, r))
    (hlist : (b == 0x5b) = false) (hobject : (b == 0x7b) = false) (htext : (b == 0x22) = false)
    (hscalar : scalar? (b :: r.val) = some (d, s)) : Finds (read bs) d s.val := by
  rw [read, h]
  simp only [hlist, hobject, htext, Bool.false_eq_true, if_false, hscalar]
  exact ⟨rfl, rfl⟩

theorem finds_lastItem {s : Shorter rest} (h : Finds (read bs) d rest)
    (hclose : next? rest = some (0x5d, s)) : Finds (readItems bs) [d] s.val := by
  have hcomma : ((0x5d : UInt8) == 0x2c) = false := rfl
  obtain ⟨rfl, rfl⟩ := h
  rw [readItems]
  simp only [hclose, hcomma, Bool.false_eq_true, if_false, beq_self_eq_true, if_true]
  exact ⟨rfl, rfl⟩

theorem finds_items {s : Shorter rest} (h : Finds (read bs) d rest)
    (hcomma : next? rest = some (0x2c, s)) (hitems : Finds (readItems s.val) ds rest') :
    Finds (readItems bs) (d :: ds) rest' := by
  obtain ⟨rfl, rfl⟩ := h
  obtain ⟨rfl, rfl⟩ := hitems
  rw [readItems]
  simp only [hcomma, beq_self_eq_true, if_true]
  exact ⟨rfl, rfl⟩

/-- Items that do not go on break. -/
theorem finds_openItems (h : Finds (read bs) d rest)
    (hnext : ∀ b s, next? rest = some (b, s) → b ≠ 0x2c ∧ b ≠ 0x5d) :
    Finds (readItems bs) [d, .broken] [] := by
  obtain ⟨rfl, rfl⟩ := h
  rw [readItems]
  cases hn : next? (read bs).2.val with
  | none =>
    simp only [hn]
    exact ⟨rfl, rfl⟩
  | some p =>
    obtain ⟨b, s⟩ := p
    obtain ⟨hcomma, hclose⟩ := hnext b s hn
    simp only [hn, beq_eq_false_iff_ne.2 hcomma, beq_eq_false_iff_ne.2 hclose, Bool.false_eq_true,
      if_false]
    exact ⟨rfl, rfl⟩

section Members

variable {r₁ : Shorter bs} {r₂ : Left r₁.val} {r₃ : Shorter r₂.val} {s : Shorter rest}

theorem finds_lastMember (hopen : eat? 0x22 bs = some r₁)
    (hname : pieces? [] r₁.val = some (ps, r₂)) (hcolon : eat? 0x3a r₂.val = some r₃)
    (h : Finds (read r₃.val) d rest) (hclose : next? rest = some (0x7d, s)) :
    Finds (readMembers bs) [(spell? ps, d)] s.val := by
  have hcomma : ((0x7d : UInt8) == 0x2c) = false := rfl
  obtain ⟨rfl, rfl⟩ := h
  rw [readMembers, hopen]
  simp only [hname, hcolon, hclose, hcomma, Bool.false_eq_true, if_false, beq_self_eq_true,
    if_true]
  exact ⟨rfl, rfl⟩

theorem finds_members (hopen : eat? 0x22 bs = some r₁)
    (hname : pieces? [] r₁.val = some (ps, r₂)) (hcolon : eat? 0x3a r₂.val = some r₃)
    (h : Finds (read r₃.val) d rest) (hcomma : next? rest = some (0x2c, s))
    (hmembers : Finds (readMembers s.val) ms rest') :
    Finds (readMembers bs) ((spell? ps, d) :: ms) rest' := by
  obtain ⟨rfl, rfl⟩ := h
  obtain ⟨rfl, rfl⟩ := hmembers
  rw [readMembers, hopen]
  simp only [hname, hcolon, hcomma, beq_self_eq_true, if_true]
  exact ⟨rfl, rfl⟩

/-- Members that do not go on break. -/
theorem finds_openMembers (hopen : eat? 0x22 bs = some r₁)
    (hname : pieces? [] r₁.val = some (ps, r₂)) (hcolon : eat? 0x3a r₂.val = some r₃)
    (h : Finds (read r₃.val) d rest)
    (hnext : ∀ b s, next? rest = some (b, s) → b ≠ 0x2c ∧ b ≠ 0x7d) :
    Finds (readMembers bs) [(spell? ps, d), (none, .broken)] [] := by
  obtain ⟨rfl, rfl⟩ := h
  rw [readMembers, hopen]
  cases hn : next? (read r₃.val).2.val with
  | none =>
    simp only [hname, hcolon, hn]
    exact ⟨rfl, rfl⟩
  | some p =>
    obtain ⟨b, s⟩ := p
    obtain ⟨hcomma, hclose⟩ := hnext b s hn
    simp only [hname, hcolon, hn, beq_eq_false_iff_ne.2 hcomma, beq_eq_false_iff_ne.2 hclose,
      Bool.false_eq_true, if_false]
    exact ⟨rfl, rfl⟩

end Members

/-! ## What is intact -/

theorem next?_ne_none_of_allIntact (h : allIntact (readItems bs).1 = true) : next? bs ≠ none := by
  intro hnext
  have hstop : read bs = stop bs := by rw [read, hnext]
  rw [readItems, hstop] at h
  cases h

theorem next?_ne_none_of_membersIntact (h : membersIntact (readMembers bs).1 = true) :
    next? bs ≠ none := by
  intro hnext
  have hopen : eat? 0x22 bs = none := by rw [eat?, hnext]
  rw [readMembers, hopen] at h
  cases h

theorem not_allIntact_open (d : Document) : ¬allIntact [d, .broken] = true := by
  simp [allIntact, intact]

theorem not_membersIntact_open (name : Option String) (d : Document) :
    ¬membersIntact [(name, d), (none, .broken)] = true := by
  simp [membersIntact, intact]

theorem ne_nil_of_next? {p : UInt8 × Shorter bs} (h : next? bs = some p) : bs ≠ [] := by
  rintro rfl
  cases h

/-! ## Stability -/

/-- **What follows an intact value does not matter.** Only a number has to be followed by something
already, since it may be prolonged. -/
def Stable (bs : List UInt8) : Prop :=
  ∀ d rest, Finds (read bs) d rest → d.intact = true → (rest = [] → ∀ n, d ≠ .number n) →
    ∀ more, Finds (read (bs ++ more)) d (rest ++ more)

/-- What follows intact items does not matter. -/
def StableItems (bs : List UInt8) : Prop :=
  ∀ ds rest, Finds (readItems bs) ds rest → allIntact ds = true →
    ∀ more, Finds (readItems (bs ++ more)) ds (rest ++ more)

/-- What follows intact members does not matter. -/
def StableMembers (bs : List UInt8) : Prop :=
  ∀ ms rest, Finds (readMembers bs) ms rest → membersIntact ms = true →
    ∀ more, Finds (readMembers (bs ++ more)) ms (rest ++ more)

theorem Stable.of_finds (h : Finds (read bs) d rest)
    (hmore : d.intact = true → (rest = [] → ∀ n, d ≠ .number n) →
      ∀ more, Finds (read (bs ++ more)) d (rest ++ more)) : Stable bs := by
  intro d' rest' h'
  obtain ⟨rfl, rfl⟩ := h.unique h'
  exact hmore

theorem StableItems.of_finds (h : Finds (readItems bs) ds rest)
    (hmore : allIntact ds = true →
      ∀ more, Finds (readItems (bs ++ more)) ds (rest ++ more)) : StableItems bs := by
  intro ds' rest' h'
  obtain ⟨rfl, rfl⟩ := h.unique h'
  exact hmore

theorem StableMembers.of_finds (h : Finds (readMembers bs) ms rest)
    (hmore : membersIntact ms = true →
      ∀ more, Finds (readMembers (bs ++ more)) ms (rest ++ more)) : StableMembers bs := by
  intro ms' rest' h'
  obtain ⟨rfl, rfl⟩ := h.unique h'
  exact hmore

/-- A value that is followed by a mark is read in the same way with more behind it. -/
theorem Stable.finds {p : UInt8 × Shorter rest} (ih : Stable bs) (h : Finds (read bs) d rest)
    (hintact : d.intact = true) (hnext : next? rest = some p) (more : List UInt8) :
    Finds (read (bs ++ more)) d (rest ++ more) :=
  ih d rest h hintact (fun hnil => absurd hnil (ne_nil_of_next? hnext)) more

section Values

variable {r : Shorter bs}

theorem stable_broken (h : (read bs).1 = .broken) : Stable bs := by
  intro d rest hfinds hintact
  rw [← hfinds.1, h] at hintact
  cases hintact

theorem stable_emptyList {s : Shorter r.val} (hnext : next? bs = some (0x5b, r))
    (hclose : eat? 0x5d r.val = some s) : Stable bs :=
  .of_finds (finds_emptyList hnext hclose) fun _ _ more =>
    finds_emptyList (next?_append hnext more) (eat?_append hclose more)

theorem stable_list (hnext : next? bs = some (0x5b, r)) (hopen : eat? 0x5d r.val = none)
    (hitems : Finds (readItems r.val) ds rest) (ih : StableItems r.val) : Stable bs := by
  refine .of_finds (finds_list hnext hopen hitems) fun hintact _ more => ?_
  have hitem : next? r.val ≠ none := next?_ne_none_of_allIntact (hitems.1 ▸ hintact)
  exact finds_list (next?_append hnext more) (eat?_append_eq_none hopen hitem more)
    (ih ds rest hitems hintact more)

theorem stable_emptyObject {s : Shorter r.val} (hnext : next? bs = some (0x7b, r))
    (hclose : eat? 0x7d r.val = some s) : Stable bs :=
  .of_finds (finds_emptyObject hnext hclose) fun _ _ more =>
    finds_emptyObject (next?_append hnext more) (eat?_append hclose more)

theorem stable_object (hnext : next? bs = some (0x7b, r)) (hopen : eat? 0x7d r.val = none)
    (hmembers : Finds (readMembers r.val) ms rest) (ih : StableMembers r.val) : Stable bs := by
  refine .of_finds (finds_object hnext hopen hmembers) fun hintact _ more => ?_
  have hmember : next? r.val ≠ none := next?_ne_none_of_membersIntact (hmembers.1 ▸ hintact)
  exact finds_object (next?_append hnext more) (eat?_append_eq_none hopen hmember more)
    (ih ms rest hmembers hintact more)

theorem stable_text {s : Left r.val} (hnext : next? bs = some (0x22, r))
    (hpieces : pieces? [] r.val = some (ps, s)) : Stable bs :=
  .of_finds (finds_text hnext hpieces) fun _ _ more =>
    finds_text (next?_append hnext more) (pieces?_append hpieces more)

theorem stable_scalar {s : Left (b :: r.val)} (hnext : next? bs = some (b, r))
    (hlist : (b == 0x5b) = false) (hobject : (b == 0x7b) = false) (htext : (b == 0x22) = false)
    (hscalar : scalar? (b :: r.val) = some (d, s)) : Stable bs :=
  .of_finds (finds_scalar hnext hlist hobject htext hscalar) fun _ hend more =>
    finds_scalar (next?_append hnext more) hlist hobject htext (scalar?_append hscalar hend more)

end Values

section Items

variable {s : Shorter rest}

theorem stableItems_open (h : Finds (read bs) d rest)
    (hnext : ∀ b s, next? rest = some (b, s) → b ≠ 0x2c ∧ b ≠ 0x5d) : StableItems bs :=
  .of_finds (finds_openItems h hnext) fun hintact => absurd hintact (not_allIntact_open d)

theorem stableItems_last (h : Finds (read bs) d rest) (hclose : next? rest = some (0x5d, s))
    (ih : Stable bs) : StableItems bs := by
  refine .of_finds (finds_lastItem h hclose) fun hintact more => ?_
  rw [allIntact, Bool.and_eq_true] at hintact
  exact finds_lastItem (ih.finds h hintact.1 hclose more) (next?_append hclose more)

theorem stableItems_more (h : Finds (read bs) d rest) (hcomma : next? rest = some (0x2c, s))
    (hitems : Finds (readItems s.val) ds rest') (ih : Stable bs) (ihs : StableItems s.val) :
    StableItems bs := by
  refine .of_finds (finds_items h hcomma hitems) fun hintact more => ?_
  rw [allIntact, Bool.and_eq_true] at hintact
  exact finds_items (ih.finds h hintact.1 hcomma more) (next?_append hcomma more)
    (ihs ds rest' hitems hintact.2 more)

end Items

section Members

variable {r₁ : Shorter bs} {r₂ : Left r₁.val} {r₃ : Shorter r₂.val} {s : Shorter rest}

theorem stableMembers_broken (name : Option String)
    (h : (readMembers bs).1 = [(name, .broken)]) : StableMembers bs := by
  intro ms rest hfinds hintact
  rw [← hfinds.1, h] at hintact
  cases hintact

theorem stableMembers_open (hopen : eat? 0x22 bs = some r₁)
    (hname : pieces? [] r₁.val = some (ps, r₂)) (hcolon : eat? 0x3a r₂.val = some r₃)
    (h : Finds (read r₃.val) d rest)
    (hnext : ∀ b s, next? rest = some (b, s) → b ≠ 0x2c ∧ b ≠ 0x7d) : StableMembers bs :=
  .of_finds (finds_openMembers hopen hname hcolon h hnext) fun hintact =>
    absurd hintact (not_membersIntact_open (spell? ps) d)

theorem stableMembers_last (hopen : eat? 0x22 bs = some r₁)
    (hname : pieces? [] r₁.val = some (ps, r₂)) (hcolon : eat? 0x3a r₂.val = some r₃)
    (h : Finds (read r₃.val) d rest) (hclose : next? rest = some (0x7d, s))
    (ih : Stable r₃.val) : StableMembers bs := by
  refine .of_finds (finds_lastMember hopen hname hcolon h hclose) fun hintact more => ?_
  rw [membersIntact, Bool.and_eq_true] at hintact
  exact finds_lastMember (eat?_append hopen more) (pieces?_append hname more)
    (eat?_append hcolon more) (ih.finds h hintact.1 hclose more) (next?_append hclose more)

theorem stableMembers_more (hopen : eat? 0x22 bs = some r₁)
    (hname : pieces? [] r₁.val = some (ps, r₂)) (hcolon : eat? 0x3a r₂.val = some r₃)
    (h : Finds (read r₃.val) d rest) (hcomma : next? rest = some (0x2c, s))
    (hmembers : Finds (readMembers s.val) ms rest') (ih : Stable r₃.val)
    (ihs : StableMembers s.val) : StableMembers bs := by
  refine .of_finds (finds_members hopen hname hcolon h hcomma hmembers) fun hintact more => ?_
  rw [membersIntact, Bool.and_eq_true] at hintact
  exact finds_members (eat?_append hopen more) (pieces?_append hname more)
    (eat?_append hcolon more) (ih.finds h hintact.1 hcomma more) (next?_append hcomma more)
    (ihs ms rest' hmembers hintact.2 more)

end Members

/-- **What follows does not matter**, by induction along the reading. -/
theorem stable_all : (∀ bs, Stable bs) ∧ (∀ bs, StableMembers bs) ∧ ∀ bs, StableItems bs := by
  apply Document.read.mutual_induct Stable StableMembers StableItems
  -- values
  case case1 =>
    intro bs hnext
    refine stable_broken ?_
    rw [read, hnext]
    rfl
  case case2 =>
    intro bs b r hnext _ hb s hclose
    obtain rfl := eq_of_beq hb
    exact stable_emptyList hnext hclose
  case case3 =>
    intro bs b r hnext _ hb hopen ds s hitems ih
    obtain rfl := eq_of_beq hb
    exact stable_list hnext hopen (.of_eq hitems) ih
  case case4 =>
    intro bs b r hnext _ _ hb s hclose
    obtain rfl := eq_of_beq hb
    exact stable_emptyObject hnext hclose
  case case5 =>
    intro bs b r hnext _ _ hb hopen ms s hmembers ih
    obtain rfl := eq_of_beq hb
    exact stable_object hnext hopen (.of_eq hmembers) ih
  case case6 =>
    intro bs b r hnext _ hlist hobject htext hpieces
    refine stable_broken ?_
    rw [read, hnext]
    simp only [hlist, hobject, htext, if_true, hpieces]
    rfl
  case case7 =>
    intro bs b r hnext _ _ _ hb ps s hpieces
    obtain rfl := eq_of_beq hb
    exact stable_text hnext hpieces
  case case8 =>
    intro bs b r hnext _ hlist hobject htext hscalar
    refine stable_broken ?_
    rw [read, hnext]
    simp only [hlist, hobject, htext, hscalar]
    rfl
  case case9 =>
    intro bs b r hnext _ hlist hobject htext d s hscalar
    rw [Bool.not_eq_true] at hlist hobject htext
    exact stable_scalar hnext hlist hobject htext hscalar
  -- members
  case case10 =>
    intro bs hopen
    refine stableMembers_broken none ?_
    rw [readMembers, hopen]
  case case11 =>
    intro bs r₁ hopen hname
    refine stableMembers_broken none ?_
    rw [readMembers, hopen]
    simp only [hname]
  case case12 =>
    intro bs r₁ hopen ps r₂ hname hcolon
    refine stableMembers_broken (spell? ps) ?_
    rw [readMembers, hopen]
    simp only [hname, hcolon]
  case case13 =>
    intro bs r₁ hopen ps r₂ hname r₃ hcolon _ _ _ d r₄ h _ hnext _
    exact stableMembers_open hopen hname hcolon (.of_eq h) (by simp [hnext])
  case case14 =>
    intro bs r₁ hopen ps r₂ hname r₃ hcolon _ _ _ d r₄ h _ b r₅ hnext _ hb ms s hmembers ih ihs
    obtain rfl := eq_of_beq hb
    exact stableMembers_more hopen hname hcolon (.of_eq h) hnext (.of_eq hmembers) ih ihs
  case case15 =>
    intro bs r₁ hopen ps r₂ hname r₃ hcolon _ _ _ d r₄ h _ b r₅ hnext _ _ hb ih
    obtain rfl := eq_of_beq hb
    exact stableMembers_last hopen hname hcolon (.of_eq h) hnext ih
  case case16 =>
    intro bs r₁ hopen ps r₂ hname r₃ hcolon _ _ _ d r₄ h _ b r₅ hnext _ hcomma hclose _
    exact stableMembers_open hopen hname hcolon (.of_eq h) (by simp_all)
  -- items
  case case17 =>
    intro bs d r h _ hnext _
    exact stableItems_open (.of_eq h) (by simp [hnext])
  case case18 =>
    intro bs d r h _ b s hnext _ hb ds t hitems ih ihs
    obtain rfl := eq_of_beq hb
    exact stableItems_more (.of_eq h) hnext (.of_eq hitems) ih ihs
  case case19 =>
    intro bs d r h _ b s hnext _ _ hb ih
    obtain rfl := eq_of_beq hb
    exact stableItems_last (.of_eq h) hnext ih
  case case20 =>
    intro bs d r h _ b s hnext _ hcomma hclose _
    exact stableItems_open (.of_eq h) (by simp_all)

/-- **A whole text with more behind it than blanks is no JSON.** -/
theorem ofBytes_append {more : List UInt8} (h : (ofBytes bs).intact = true)
    (hnumber : ∀ n, ofBytes bs ≠ .number n) (hmore : ∃ b ∈ more, isSpace b = false) :
    ofBytes (bs ++ more) = .broken := by
  obtain ⟨hend, hread⟩ : next? (read bs).2.val = none ∧ ofBytes bs = (read bs).1 := by
    unfold ofBytes at h ⊢
    cases hend : next? (read bs).2.val with
    | none => simp [hend]
    | some p => simp [hend, intact] at h
  rw [hread] at h hnumber
  have hfinds := stable_all.1 bs _ _ ⟨rfl, rfl⟩ h (fun _ => hnumber) more
  have hnext : next? (read (bs ++ more)).2.val ≠ none := by
    rw [hfinds.2, ne_eq, next?_eq_none]
    obtain ⟨b, hb, hspace⟩ := hmore
    intro hall
    have htrue := hall b (List.mem_append_right _ hb)
    rw [hspace] at htrue
    cases htrue
  exact if_neg fun hnone => hnext (Option.isNone_iff_eq_none.1 hnone)

end Document

end Tabular.Json
