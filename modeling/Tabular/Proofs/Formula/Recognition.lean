import Tabular.Proofs.Formula.Reading

/-!
# The reader recognises the grammar

* `Reads.derives`: what the reader of a level takes derives the tree that it gives. Each level
  is `Faithful` if all levels are on shorter lists, and the next tighter level on the same one.
* `Derives.reads`: on what derives a tree, followed by a rest at which the level stops, the
  reader gives this tree and leaves the rest.
* `parse_recognises`: **the formulas that the reader accepts are those of the grammar**, and the
  grammar gives every list of tokens at most one tree.
-/

namespace Tabular.Formula

variable {l : Level} {t : Tier} {ts rest : List Lexeme} {u v w : List Token} {a b c e : Formula}
  {args : List Formula}

/-- The tokens of some lexemes. -/
def tokens (ts : List Lexeme) : List Token := ts.map (·.token)

@[simp] theorem tokens_nil : tokens [] = [] := rfl

@[simp] theorem tokens_cons (x : Lexeme) : tokens (x :: ts) = x.token :: tokens ts := rfl

@[simp] theorem tokens_append (ts₁ ts₂ : List Lexeme) :
    tokens (ts₁ ++ ts₂) = tokens ts₁ ++ tokens ts₂ :=
  List.map_append

/-! ## Soundness -/

/-- What the reader of a level takes from the front of a list derives the tree that it gives. -/
def Faithful (l : Level) (ts : List Lexeme) : Prop :=
  ∀ e rest, Reads (read l ts) e rest → ∃ us, ts = us ++ rest ∧ Derives l (tokens us) e

/-- All levels are faithful on the lists shorter than a length. -/
def FaithfulBelow (n : Nat) : Prop :=
  ∀ l ts, ts.length < n → Faithful l ts

theorem FaithfulBelow.mono {n m : Nat} (h : FaithfulBelow n) (hm : m ≤ n) : FaithfulBelow m :=
  fun l ts hts => h l ts (Nat.lt_of_lt_of_le hts hm)

theorem derivesAll_of_reads {n : Nat} (hn : FaithfulBelow n) {ts : List Lexeme}
    (hts : ts.length < n) {args : List Formula} (h : Reads (readSeparated ts) args rest) :
    ∃ us q, ts = us ++ ⟨.symbol .closing, q⟩ :: rest ∧ DerivesAll (tokens us) args := by
  obtain ⟨a, r, ha, hr⟩ := reads_separated.1 h
  have hlt := ha.shorter
  obtain ⟨us, hus, hu⟩ := hn _ _ hts _ _ ha
  rcases hr with ⟨q, rfl, rfl⟩ | ⟨p, r₁, as, rfl, has, rfl⟩
  · exact ⟨us, q, hus, .one hu⟩
  · have hr₁ : r₁.length < ts.length := Nat.lt_of_succ_lt hlt
    obtain ⟨vs, q, rfl, hv⟩ := derivesAll_of_reads hn (Nat.lt_trans hr₁ hts) has
    exact ⟨us ++ ⟨.symbol .comma, p⟩ :: vs, q, by simp [hus], by simpa using .more hu hv⟩
termination_by ts.length
decreasing_by exact hr₁

theorem faithful_primary (hn : FaithfulBelow ts.length) : Faithful .primary ts := by
  intro e rest h
  rcases reads_primary.1 h with
    ⟨x, p⟩ | ⟨s, p⟩ | ⟨name, p⟩ | @⟨p, q, r, _, _, h⟩ | @⟨name, p, q, r, _, f, args, hf, h, hk⟩
  · exact ⟨[⟨.number x, p⟩], rfl, .number x⟩
  · exact ⟨[⟨.text s, p⟩], rfl, .text s⟩
  · exact ⟨[⟨.column name, p⟩], rfl, .column name⟩
  · obtain ⟨us, rfl, hu⟩ := hn _ _ (by simp) _ _ h
    refine ⟨⟨.symbol .opening, p⟩ :: (us ++ [⟨.symbol .closing, q⟩]), by simp, ?_⟩
    simpa using Derives.parens hu
  · rcases reads_arguments.1 h with ⟨-, -, rfl⟩ | ⟨-, h⟩
    · -- no function takes an empty list of arguments
      rw [List.length_nil, Func.admits_zero] at hk
      cases hk
    · obtain ⟨us, o, rfl, hu⟩ := derivesAll_of_reads hn (by simp only [List.length_cons]; omega) h
      refine ⟨⟨.word name, p⟩ :: ⟨.symbol .opening, q⟩ :: (us ++ [⟨.symbol .closing, o⟩]),
        by simp, ?_⟩
      simpa using Derives.call hf hu hk

theorem faithful_power (hn : FaithfulBelow ts.length) : Faithful .power ts := by
  intro e rest h
  obtain ⟨a, r, ha, hr⟩ := reads_power.1 h
  have hlt := ha.shorter
  obtain ⟨us, hus, hu⟩ := faithful_primary hn _ _ ha
  rcases hr with ⟨-, rfl, rfl⟩ | ⟨s, p, r₁, b, rfl, hs, hb, rfl⟩
  · exact ⟨us, hus, .base hu⟩
  · rw [List.length_cons] at hlt
    obtain ⟨vs, rfl, hv⟩ := hn _ _ (by omega) _ _ hb
    exact ⟨us ++ ⟨.symbol s, p⟩ :: vs, by simp [hus], by simpa using hu.power hs hv⟩

theorem faithful_unary (hn : FaithfulBelow ts.length) : Faithful .unary ts := by
  intro e rest h
  rcases reads_unary.1 h with ⟨-, h⟩ | ⟨s, p, op, r, a, rfl, hs, ha, rfl⟩
  · obtain ⟨us, rfl, hu⟩ := faithful_power hn _ _ h
    exact ⟨us, rfl, .unsigned hu⟩
  · obtain ⟨us, rfl, hu⟩ := hn _ _ (by simp) _ _ ha
    exact ⟨⟨.symbol s, p⟩ :: us, rfl, .sign hs hu⟩

theorem derives_of_reads_more {n : Nat} (hn : FaithfulBelow n) {ts : List Lexeme}
    (hts : ts.length ≤ n) {u : List Token} {a : Formula} (ha : Derives (.tier t) u a)
    (h : Reads (readMore t a ts) e rest) :
    ∃ us, ts = us ++ rest ∧ Derives (.tier t) (u ++ tokens us) e := by
  rcases reads_more.1 h with ⟨-, rfl, rfl⟩ | ⟨s, p, op, r, b, r₁, rfl, hs, hb, hr⟩
  · exact ⟨[], rfl, by simpa using ha⟩
  · have hr₁ : r₁.length < r.length := hb.shorter
    obtain ⟨vs, hvs, hv⟩ := hn _ _ (Nat.lt_of_succ_le hts) _ _ hb
    -- the chain so far and the operand make up the chain to go on from
    obtain ⟨us, rfl, hu⟩ :=
      derives_of_reads_more hn (Nat.le_of_lt (Nat.lt_trans hr₁ hts)) (ha.chain hs hv) hr
    exact ⟨⟨.symbol s, p⟩ :: (vs ++ us), by simp [hvs], by simpa using hu⟩
termination_by ts.length
decreasing_by
  simp_all only [List.length_cons]
  omega

theorem faithful_chain (hn : FaithfulBelow ts.length) (ho : Faithful (operandLevel t) ts) :
    Faithful (.tier t) ts := by
  intro e rest h
  obtain ⟨a, r, ha, hr⟩ := reads_tier.1 h
  have hlt := ha.shorter
  obtain ⟨us, hus, hu⟩ := ho _ _ ha
  obtain ⟨vs, rfl, hv⟩ := derives_of_reads_more hn (Nat.le_of_lt hlt) hu.operand hr
  exact ⟨us ++ vs, by simp [hus], by simpa using hv⟩

theorem faithful_tier (hn : FaithfulBelow ts.length) : ∀ t, Faithful (.tier t) ts
  | .product => faithful_chain hn (faithful_unary hn)
  | .sum => faithful_chain hn (faithful_tier hn .product)
  | .comparison => faithful_chain hn (faithful_tier hn .sum)
  | .conjunction => faithful_chain hn (faithful_tier hn .comparison)
  | .disjunction => faithful_chain hn (faithful_tier hn .conjunction)
termination_by t => t.rank
decreasing_by all_goals decide

theorem faithful_ternary (hn : FaithfulBelow ts.length) : Faithful .ternary ts := by
  intro e rest h
  obtain ⟨c, r, hc, hr⟩ := reads_ternary.1 h
  have hlt := hc.shorter
  obtain ⟨us, hus, hu⟩ := faithful_tier hn _ _ _ hc
  rcases hr with ⟨-, rfl, rfl⟩ | ⟨p, r₁, a, q, r₂, b, rfl, ha, hb, rfl⟩
  · exact ⟨us, hus, .disjunction hu⟩
  · have hlt' := ha.shorter
    rw [List.length_cons] at hlt hlt'
    obtain ⟨vs, rfl, hv⟩ := hn _ _ (by omega) _ _ ha
    obtain ⟨ws, rfl, hw⟩ := hn _ _ (by omega) _ _ hb
    refine ⟨us ++ ⟨.symbol .question, p⟩ :: (vs ++ ⟨.symbol .colon, q⟩ :: ws), by simp [hus], ?_⟩
    simpa using hu.choice hv hw

theorem faithfulBelow (n : Nat) : FaithfulBelow n := by
  induction n with
  | zero => intro l ts h; cases h
  | succ n ih =>
    intro l ts hts
    have hn : FaithfulBelow ts.length := ih.mono (Nat.le_of_lt_succ hts)
    cases l with
    | ternary => exact faithful_ternary hn
    | tier t => exact faithful_tier hn t
    | unary => exact faithful_unary hn
    | power => exact faithful_power hn
    | primary => exact faithful_primary hn

/-- What the reader of a level takes derives the tree that it gives. -/
theorem Reads.derives (h : Reads (read l ts) e rest) :
    ∃ us, ts = us ++ rest ∧ Derives l (tokens us) e :=
  faithfulBelow _ _ _ (Nat.lt_succ_self _) _ _ h

/-! ## Completeness -/

/-- No symbol of the level stands in front, so a phrase of the level ends here. -/
def Stops (l : Level) (rest : List Lexeme) : Prop :=
  ¬ Starts (fun s => reach s ≤ l.depth) rest

theorem Stops.mono {l' : Level} (h : Stops l rest) (hl : l'.depth ≤ l.depth) : Stops l' rest :=
  fun ⟨s, p, r, hr, hs⟩ => h ⟨s, p, r, hr, Nat.le_trans hs hl⟩

theorem Stops.not_starts {P : Symbol → Prop} (h : Stops l rest)
    (hP : ∀ s, P s → reach s ≤ l.depth) : ¬ Starts P rest :=
  fun ⟨s, p, r, hr, hs⟩ => h ⟨s, p, r, hr, hP s hs⟩

theorem stops_cons {s : Symbol} {p : Nat} (h : l.depth < reach s) :
    Stops l (⟨.symbol s, p⟩ :: rest) := by
  rintro ⟨s', p', r, hr, hs⟩
  cases hr
  omega

theorem stops_nil : Stops l [] := fun ⟨_, _, _, h, _⟩ => by cases h

/-- No symbol reaches as far as the unary formulas only. -/
theorem Stops.unary (h : Stops .power rest) : Stops .unary rest := by
  rintro ⟨s, p, r, hr, hs⟩
  refine h ⟨s, p, r, hr, ?_⟩
  cases s <;> revert hs <;> decide

/-- After a phrase that derives `a` the reader of the level goes on to `e`. Only a chain goes
on; every other level stops. -/
def Resumes : Level → Formula → List Lexeme → Formula → List Lexeme → Prop
  | .tier t, a, ts, e, rest => Stops (operandLevel t) ts ∧ Reads (readMore t a ts) e rest
  | l, a, ts, e, rest => Stops l ts ∧ a = e ∧ ts = rest

theorem Stops.resumes (h : Stops l rest) : Resumes l e rest e rest := by
  cases l with
  | tier t =>
    refine ⟨h.mono (by rw [← depth_operandLevel]; omega), reads_more.2 (.inl ⟨?_, rfl, rfl⟩)⟩
    exact h.not_starts fun s ⟨op, hs⟩ => Nat.le_of_eq hs.reach_eq
  | ternary | unary | power | primary => exact ⟨h, rfl, rfl⟩

/-- Lexemes that begin as a phrase of the level start with none of the symbols that such a
phrase never has in front. -/
theorem not_starts_append {P : Symbol → Prop}
    (h : ∃ k v, tokens ts = k :: v ∧ ∀ s, k = .symbol s → Opens l s)
    (hP : ∀ s, P s → ¬ Opens l s) : ¬ Starts P (ts ++ rest) := by
  obtain ⟨k, v, hk, hv⟩ := h
  rintro ⟨s, p, r, hr, hs⟩
  cases ts with
  | nil => cases hk
  | cons x ts =>
    cases hr
    cases hk
    exact hP s hs (hv s rfl)

/-! The lexemes of a compound phrase are those of its parts. -/

theorem tokens_eq_cons {k : Token} :
    tokens ts = k :: u ↔ ∃ p r, ts = ⟨k, p⟩ :: r ∧ tokens r = u := by
  constructor
  · intro h
    obtain ⟨⟨k, p⟩, r, rfl, rfl, hr⟩ := List.map_eq_cons_iff.1 h
    exact ⟨p, r, rfl, hr⟩
  · rintro ⟨p, r, rfl, rfl⟩
    rfl

theorem tokens_eq_singleton {k : Token} : tokens ts = [k] ↔ ∃ p, ts = [⟨k, p⟩] := by
  constructor
  · intro h
    obtain ⟨p, r, rfl, hr⟩ := tokens_eq_cons.1 h
    exact ⟨p, by rw [List.map_eq_nil_iff.1 hr]⟩
  · rintro ⟨p, rfl⟩
    rfl

theorem tokens_eq_append :
    tokens ts = u ++ v ↔ ∃ ts₁ ts₂, ts = ts₁ ++ ts₂ ∧ tokens ts₁ = u ∧ tokens ts₂ = v :=
  List.map_eq_append_iff

mutual

/-- **What derives a tree is read as this tree**, if the level can go on from there to `e'`. -/
theorem Derives.reads {l : Level} {u : List Token} {e e' : Formula} {ts rest rest' : List Lexeme}
    (h : Derives l u e) (hts : tokens ts = u) (hr : Resumes l e rest e' rest') :
    Reads (read l (ts ++ rest)) e' rest' := by
  match h with
  -- by induction on the derivation; `Resumes` speaks of what follows, so that the chain to which
  -- an operand belongs can be longer than the phrase at hand
  | .disjunction h =>
    obtain ⟨hs, rfl, rfl⟩ := hr
    refine reads_ternary.2 ⟨_, _, h.reads hts (hs.mono (by decide)).resumes, .inl ⟨?_, rfl, rfl⟩⟩
    exact hs.not_starts fun s hs => by rw [hs]; decide
  | .choice hc ha hb =>
    obtain ⟨hs, rfl, rfl⟩ := hr
    obtain ⟨us, ts₁, rfl, hus, h₁⟩ := tokens_eq_append.1 hts
    obtain ⟨p, ts₂, rfl, h₂⟩ := tokens_eq_cons.1 h₁
    obtain ⟨vs, ts₃, rfl, hvs, h₃⟩ := tokens_eq_append.1 h₂
    obtain ⟨q, ws, rfl, hws⟩ := tokens_eq_cons.1 h₃
    rw [List.append_assoc, List.cons_append, List.append_assoc, List.cons_append]
    refine reads_ternary.2 ⟨_, _, hc.reads hus (stops_cons (by decide)).resumes, .inr ?_⟩
    exact ⟨p, _, _, q, _, _, rfl, ha.reads hvs (stops_cons (by decide)).resumes,
      hb.reads hws hs.resumes, rfl⟩
  | .operand h =>
    obtain ⟨hs, hr⟩ := hr
    exact reads_tier.2 ⟨_, _, h.reads hts hs.resumes, hr⟩
  | .chain ha hop hb =>
    obtain ⟨hs, hr⟩ := hr
    obtain ⟨us, ts₁, rfl, hus, h₁⟩ := tokens_eq_append.1 hts
    obtain ⟨p, vs, rfl, hvs⟩ := tokens_eq_cons.1 h₁
    rw [List.append_assoc, List.cons_append]
    -- from the left operand the reader goes on with this operator
    refine ha.reads hus ⟨stops_cons ?_, reads_more.2 (.inr ?_)⟩
    · rw [hop.reach_eq, ← depth_operandLevel]
      exact Nat.lt_succ_self _
    · exact ⟨_, p, _, _, _, _, rfl, hop, hb.reads hvs hs.resumes, hr⟩
  | .sign hop h =>
    obtain ⟨hs, rfl, rfl⟩ := hr
    obtain ⟨p, us, rfl, hus⟩ := tokens_eq_cons.1 hts
    exact reads_unary.2 (.inr ⟨_, p, _, _, _, rfl, hop, h.reads hus hs.resumes, rfl⟩)
  | .unsigned h =>
    obtain ⟨hs, rfl, rfl⟩ := hr
    refine reads_unary.2 (.inl ⟨?_, h.reads hts (hs.mono (by decide)).resumes⟩)
    -- a power begins with no sign
    refine not_starts_append (hts ▸ h.front) ?_
    rintro s ⟨op, hop⟩ (rfl | ⟨h₂, -⟩)
    · cases hop
    · exact absurd h₂ (by decide)
  | .base h =>
    obtain ⟨hs, rfl, rfl⟩ := hr
    refine reads_power.2 ⟨_, _, h.reads hts (hs.mono (by decide)).resumes, .inl ⟨?_, rfl, rfl⟩⟩
    exact hs.not_starts fun s hs => Nat.le_of_eq hs.reach_eq
  | .power ha hop hb =>
    obtain ⟨hs, rfl, rfl⟩ := hr
    obtain ⟨us, ts₁, rfl, hus, h₁⟩ := tokens_eq_append.1 hts
    obtain ⟨p, vs, rfl, hvs⟩ := tokens_eq_cons.1 h₁
    rw [List.append_assoc, List.cons_append]
    refine reads_power.2 ⟨_, _, ha.reads hus (stops_cons ?_).resumes, .inr ?_⟩
    · rw [hop.reach_eq]
      decide
    · exact ⟨_, p, _, _, rfl, hop, hb.reads hvs hs.unary.resumes, rfl⟩
  | .number x =>
    obtain ⟨hs, rfl, rfl⟩ := hr
    obtain ⟨p, rfl⟩ := tokens_eq_singleton.1 hts
    exact reads_primary.2 (.number x p _)
  | .text s =>
    obtain ⟨hs, rfl, rfl⟩ := hr
    obtain ⟨p, rfl⟩ := tokens_eq_singleton.1 hts
    exact reads_primary.2 (.text s p _)
  | .column name =>
    obtain ⟨hs, rfl, rfl⟩ := hr
    obtain ⟨p, rfl⟩ := tokens_eq_singleton.1 hts
    exact reads_primary.2 (.column name p _)
  | .parens h =>
    obtain ⟨hs, rfl, rfl⟩ := hr
    obtain ⟨p, ts₁, rfl, h₁⟩ := tokens_eq_cons.1 hts
    obtain ⟨us, ts₂, rfl, hus, h₂⟩ := tokens_eq_append.1 h₁
    obtain ⟨q, rfl⟩ := tokens_eq_singleton.1 h₂
    rw [List.cons_append, List.append_assoc]
    exact reads_primary.2 (.parens (h.reads hus (stops_cons (by decide)).resumes))
  | .call hf h hn =>
    obtain ⟨hs, rfl, rfl⟩ := hr
    obtain ⟨p, ts₁, rfl, h₁⟩ := tokens_eq_cons.1 hts
    obtain ⟨q, ts₂, rfl, h₂⟩ := tokens_eq_cons.1 h₁
    obtain ⟨us, ts₃, rfl, hus, h₃⟩ := tokens_eq_append.1 h₂
    obtain ⟨o, rfl⟩ := tokens_eq_singleton.1 h₃
    rw [List.cons_append, List.cons_append, List.append_assoc]
    refine reads_primary.2 (.call hf (reads_arguments.2 (.inr ⟨?_, h.reads hus⟩)) hn)
    -- what closes the call is not in front of the arguments
    refine not_starts_append (hus ▸ h.front) ?_
    rintro s rfl (hs | ⟨-, op, hop⟩)
    · cases hs
    · cases hop

theorem DerivesAll.reads {u : List Token} {args : List Formula} {ts rest : List Lexeme} {q : Nat}
    (h : DerivesAll u args) (hts : tokens ts = u) :
    Reads (readSeparated (ts ++ ⟨.symbol .closing, q⟩ :: rest)) args rest := by
  match h with
  | .one h =>
    refine reads_separated.2 ⟨_, _, h.reads hts (stops_cons (by decide)).resumes, .inl ?_⟩
    exact ⟨q, rfl, rfl⟩
  | .more h hs =>
    obtain ⟨us, ts₁, rfl, hus, h₁⟩ := tokens_eq_append.1 hts
    obtain ⟨p, vs, rfl, hvs⟩ := tokens_eq_cons.1 h₁
    rw [List.append_assoc, List.cons_append]
    refine reads_separated.2 ⟨_, _, h.reads hus (stops_cons (by decide)).resumes, .inr ?_⟩
    exact ⟨p, _, _, rfl, hs.reads hvs, rfl⟩

end

/-! ## Whole lists -/

theorem parse_eq_ok_iff_reads : parse ts = .ok e ↔ Reads (read .ternary ts) e [] := by
  cases ts with
  | nil =>
    constructor
    · nofun
    · intro h
      exact absurd h.shorter (Nat.lt_irrefl _)
  | cons x ts =>
    rw [parse]
    constructor
    · intro h
      obtain ⟨⟨e', r, hr⟩, hx, h⟩ := bind_eq_ok.1 h
      dsimp only at h
      split at h
      · rename_i hnil
        cases h
        obtain rfl := List.isEmpty_iff.1 hnil
        exact ⟨hr, hx⟩
      · cases h
    · rintro ⟨hr, hx⟩
      exact bind_eq_ok.2 ⟨_, hx, rfl⟩

theorem Derives.reads_all (h : Derives l (tokens ts) e) : Reads (read l ts) e [] := by
  have := h.reads rfl stops_nil.resumes
  rwa [List.append_nil] at this

/-- The reader accepts a list of lexemes as a formula exactly if the grammar does. -/
theorem parse_eq_ok : parse ts = .ok e ↔ Derives .ternary (tokens ts) e := by
  rw [parse_eq_ok_iff_reads]
  constructor
  · intro h
    obtain ⟨us, rfl, hu⟩ := h.derives
    rwa [List.append_nil]
  · exact Derives.reads_all

/-- The grammar is unambiguous at every level. -/
theorem Derives.unique (ha : Derives l u a) (hb : Derives l u b) : a = b := by
  obtain ⟨ts, rfl⟩ : ∃ ts, tokens ts = u := ⟨u.map (⟨·, 0⟩), by simp [tokens, Function.comp_def]⟩
  exact (ha.reads_all.unique hb.reads_all).1

/-- A phrase of any level is a formula. -/
theorem Derives.formula : ∀ {l}, Derives l u e → Derives .ternary u e
  | .ternary, h => h
  | .tier .disjunction, h => h.disjunction
  | .tier .conjunction, h => Derives.formula (.operand (t := .disjunction) h)
  | .tier .comparison, h => Derives.formula (.operand (t := .conjunction) h)
  | .tier .sum, h => Derives.formula (.operand (t := .comparison) h)
  | .tier .product, h => Derives.formula (.operand (t := .sum) h)
  | .unary, h => Derives.formula (.operand (t := .product) h)
  | .power, h => h.unsigned.formula
  | .primary, h => h.base.formula
termination_by l => 8 - l.depth
decreasing_by all_goals decide

end Tabular.Formula
