import Tabular.Proofs.Formula.Grammar
import Tabular.Proofs.Refusal

/-!
# What the reader takes at each level

For every level of the grammar: when its reader succeeds, with which tree and with which rest.
The proofs about the reader use these equivalences and open none of its functions.

* `Reads` forgets the proof that comes with a rest.
* `read` is the reader of a level.
* `reads_ternary`, `reads_tier`, `reads_more`, `reads_unary`, `reads_power`, `reads_primary`,
  `reads_arguments` and `reads_separated`: one equivalence for each reader.
-/

namespace Tabular.Formula

variable {α β : Type} {ts rest : List Lexeme}

/-! ## Symbols in front -/

/-- A symbol with a property stands in front. -/
def Starts (P : Symbol → Prop) (ts : List Lexeme) : Prop :=
  ∃ s p r, ts = ⟨.symbol s, p⟩ :: r ∧ P s

theorem front?_cons {f : Symbol → Option α} {s : Symbol} {p : Nat} :
    front? f (⟨.symbol s, p⟩ :: ts) = (f s).map fun a => (a, ⟨ts, Nat.lt_succ_self _⟩) := rfl

theorem front?_eq_some {f : Symbol → Option α} {a : α} {r : List Lexeme}
    {h : r.length < ts.length} :
    front? f ts = some (a, ⟨r, h⟩) ↔ ∃ s p, ts = ⟨.symbol s, p⟩ :: r ∧ f s = some a := by
  constructor
  · intro he
    unfold front? at he
    split at he
    · rename_i s p l
      obtain ⟨b, hb, he⟩ := Option.map_eq_some_iff.1 he
      cases he
      exact ⟨s, p, rfl, hb⟩
    · cases he
  · rintro ⟨s, p, rfl, hf⟩
    rw [front?_cons, hf, Option.map_some]

theorem front?_eq_none {f : Symbol → Option α} :
    front? f ts = none ↔ ¬ Starts (fun s => ∃ a, f s = some a) ts := by
  constructor
  · rintro h ⟨s, p, r, rfl, a, ha⟩
    simp [front?_cons, ha] at h
  · intro h
    cases hf : front? f ts with
    | none => rfl
    | some x =>
      obtain ⟨a, r, hr⟩ := x
      obtain ⟨s, p, ht, ha⟩ := front?_eq_some.1 hf
      exact absurd ⟨s, p, r, ht, a, ha⟩ h

theorem eat?_cons {s t : Symbol} {p : Nat} :
    eat? s (⟨.symbol t, p⟩ :: ts) = if t = s then some ⟨ts, Nat.lt_succ_self _⟩ else none := rfl

theorem eat?_eq_some {s : Symbol} {r : List Lexeme} {h : r.length < ts.length} :
    eat? s ts = some ⟨r, h⟩ ↔ ∃ p, ts = ⟨.symbol s, p⟩ :: r := by
  constructor
  · intro he
    unfold eat? at he
    split at he
    · rename_i t p l
      split at he
      · rename_i hts
        cases he
        exact ⟨p, by rw [hts]⟩
      · cases he
    · cases he
  · rintro ⟨p, rfl⟩
    rw [eat?_cons, if_pos rfl]

theorem eat?_eq_none {s : Symbol} : eat? s ts = none ↔ ¬ Starts (· = s) ts := by
  constructor
  · rintro h ⟨_, p, r, rfl, rfl⟩
    simp [eat?_cons] at h
  · intro h
    cases he : eat? s ts with
    | none => rfl
    | some x =>
      obtain ⟨r, hr⟩ := x
      obtain ⟨p, ht⟩ := eat?_eq_some.1 he
      exact absurd ⟨s, p, r, ht, rfl⟩ h

theorem expect_eq_ok {s : Symbol} {r : List Lexeme} {h : r.length < ts.length} :
    expect s ts = .ok ⟨r, h⟩ ↔ ∃ p, ts = ⟨.symbol s, p⟩ :: r := by
  rw [← eat?_eq_some (h := h)]
  unfold expect
  split
  · rename_i x hx
    rw [hx, Except.ok.injEq, Option.some.injEq]
  · rename_i hx
    simp [hx]

/-! ## Readings without proofs -/

/-- A reader gives a value and leaves the rest. -/
def Reads {P : List Lexeme → Prop} (x : Except FormulaError (α × { rest : List Lexeme // P rest }))
    (a : α) (rest : List Lexeme) : Prop :=
  ∃ h : P rest, x = .ok (a, ⟨rest, h⟩)

theorem Reads.shorter {x : Reading α ts} {a : α} (h : Reads x a rest) : rest.length < ts.length :=
  h.1

theorem Reads.unique {P : List Lexeme → Prop}
    {x : Except FormulaError (α × { rest : List Lexeme // P rest })} {a b : α}
    {r s : List Lexeme} (ha : Reads x a r) (hb : Reads x b s) : a = b ∧ r = s := by
  obtain ⟨_, rfl⟩ := ha
  obtain ⟨_, h⟩ := hb
  cases h
  exact ⟨rfl, rfl⟩

theorem reads_ok {P : List Lexeme → Prop} {a b : α} {r : { rest : List Lexeme // P rest }} :
    Reads (.ok (a, r)) b rest ↔ b = a ∧ rest = r.val := by
  constructor
  · rintro ⟨_, h⟩
    cases h
    exact ⟨rfl, rfl⟩
  · rintro ⟨rfl, rfl⟩
    exact ⟨r.2, rfl⟩

theorem reads_error {P : List Lexeme → Prop} {e : FormulaError} {a : α} :
    ¬ Reads (P := P) (.error e) a rest :=
  fun ⟨_, h⟩ => by cases h

theorem reads_bind {P Q : List Lexeme → Prop}
    {x : Except FormulaError (α × { rest : List Lexeme // P rest })}
    {f : α × { rest : List Lexeme // P rest } →
      Except FormulaError (β × { rest : List Lexeme // Q rest })} {b : β} :
    Reads (x >>= f) b rest ↔ ∃ a r, ∃ h : P r, Reads x a r ∧ Reads (f (a, ⟨r, h⟩)) b rest := by
  constructor
  · rintro ⟨hq, h⟩
    obtain ⟨⟨a, r, hr⟩, hx, hf⟩ := bind_eq_ok.1 h
    exact ⟨a, r, hr, ⟨hr, hx⟩, hq, hf⟩
  · rintro ⟨a, r, h, ⟨_, hx⟩, hq, hf⟩
    exact ⟨hq, bind_eq_ok.2 ⟨_, hx, hf⟩⟩

theorem reads_expect {P : List Lexeme → Prop} {s : Symbol}
    {f : Shorter ts → Except FormulaError (α × { rest : List Lexeme // P rest })} {a : α} :
    Reads (expect s ts >>= f) a rest ↔
      ∃ p r, ∃ h : r.length < ts.length, ts = ⟨.symbol s, p⟩ :: r ∧ Reads (f ⟨r, h⟩) a rest := by
  constructor
  · rintro ⟨hp, h⟩
    obtain ⟨⟨r, hr⟩, hx, hf⟩ := bind_eq_ok.1 h
    obtain ⟨p, ht⟩ := expect_eq_ok.1 hx
    exact ⟨p, r, hr, ht, hp, hf⟩
  · rintro ⟨p, r, h, ht, hp, hf⟩
    exact ⟨hp, bind_eq_ok.2 ⟨⟨r, h⟩, expect_eq_ok.2 ⟨p, ht⟩, hf⟩⟩

/-- The reader of a level. -/
def read : (l : Level) → (ts : List Lexeme) → Reading Formula ts
  | .ternary, ts => readTernary ts
  | .tier t, ts => readTier t ts
  | .unary, ts => readUnary ts
  | .power, ts => readPower ts
  | .primary, ts => readPrimary ts

variable {a e : Formula}

/-! ## One equivalence for each reader -/

theorem reads_ternary :
    Reads (read .ternary ts) e rest ↔ ∃ c r, Reads (read (.tier .disjunction) ts) c r ∧
      (¬ Starts (· = .question) r ∧ e = c ∧ rest = r ∨
        ∃ p r₁ a q r₂ b, r = ⟨.symbol .question, p⟩ :: r₁ ∧
          Reads (read .ternary r₁) a (⟨.symbol .colon, q⟩ :: r₂) ∧
          Reads (read .ternary r₂) b rest ∧ e = .ternary c a b) := by
  simp only [read]
  rw [readTernary, reads_bind]
  constructor
  · rintro ⟨c, r, hr, hc, h⟩
    refine ⟨c, r, hc, ?_⟩
    dsimp only at h
    split at h
    · rename_i hq
      exact .inl ⟨eat?_eq_none.1 hq, reads_ok.1 h⟩
    · rename_i r₁ hq
      obtain ⟨r₁, hr₁⟩ := r₁
      obtain ⟨p, rfl⟩ := eat?_eq_some.1 hq
      obtain ⟨a, r₂, hr₂, ha, h⟩ := reads_bind.1 h
      obtain ⟨q, r₃, hr₃, rfl, h⟩ := reads_expect.1 h
      obtain ⟨b, r₄, hr₄, hb, h⟩ := reads_bind.1 h
      obtain ⟨rfl, rfl⟩ := reads_ok.1 h
      exact .inr ⟨p, r₁, a, q, r₃, b, rfl, ha, hb, rfl⟩
  · rintro ⟨c, r, hc, h⟩
    refine ⟨c, r, hc.1, hc, ?_⟩
    dsimp only
    rcases h with ⟨hq, rfl, rfl⟩ | ⟨p, r₁, a, q, r₂, b, rfl, ha, hb, rfl⟩
    · rw [eat?_eq_none.2 hq]
      exact reads_ok.2 ⟨rfl, rfl⟩
    · rw [eat?_cons, if_pos rfl]
      refine reads_bind.2 ⟨a, _, ha.1, ha, ?_⟩
      refine reads_expect.2 ⟨q, r₂, by simp, rfl, ?_⟩
      exact reads_bind.2 ⟨b, rest, hb.1, hb, reads_ok.2 ⟨rfl, rfl⟩⟩

theorem readOperand_eq (t : Tier) (ts : List Lexeme) :
    readOperand t ts = read (operandLevel t) ts := by
  rw [readOperand]
  split
  · rename_i u h
    cases t <;> cases h <;> rfl
  · rename_i h
    cases t <;> cases h
    rfl

theorem reads_tier {t : Tier} :
    Reads (read (.tier t) ts) e rest ↔
      ∃ a r, Reads (read (operandLevel t) ts) a r ∧ Reads (readMore t a r) e rest := by
  simp only [read]
  rw [readTier, reads_bind]
  simp only [readOperand_eq]
  constructor
  · rintro ⟨a, r, hr, ha, h⟩
    obtain ⟨e', s, hs, he, h⟩ := reads_bind.1 h
    obtain ⟨rfl, rfl⟩ := reads_ok.1 h
    exact ⟨a, r, ha, he⟩
  · rintro ⟨a, r, ha, h⟩
    refine ⟨a, r, ha.1, ha, ?_⟩
    exact reads_bind.2 ⟨e, rest, h.1, h, reads_ok.2 ⟨rfl, rfl⟩⟩

theorem reads_more {t : Tier} :
    Reads (readMore t a ts) e rest ↔
      (¬ Starts (fun s => ∃ op, Chains t s op) ts ∧ e = a ∧ rest = ts) ∨
      ∃ s p op r b r₁, ts = ⟨.symbol s, p⟩ :: r ∧ Chains t s op ∧
        Reads (read (operandLevel t) r) b r₁ ∧
        Reads (readMore t (.binary op a b) r₁) e rest := by
  rw [readMore]
  constructor
  · intro h
    split at h
    · rename_i hf
      refine .inl ⟨?_, reads_ok.1 h⟩
      simpa only [operator?_eq_some] using front?_eq_none.1 hf
    · rename_i op r hf
      obtain ⟨r, hr⟩ := r
      obtain ⟨s, p, rfl, hop⟩ := front?_eq_some.1 hf
      obtain ⟨b, r₁, hr₁, hb, h⟩ := reads_bind.1 h
      obtain ⟨e', r₂, hr₂, he, h⟩ := reads_bind.1 h
      obtain ⟨rfl, rfl⟩ := reads_ok.1 h
      rw [readOperand_eq] at hb
      exact .inr ⟨s, p, op, r, b, r₁, rfl, operator?_eq_some.1 hop, hb, he⟩
  · rintro (⟨hf, rfl, rfl⟩ | ⟨s, p, op, r, b, r₁, rfl, hop, hb, h⟩)
    · rw [front?_eq_none.2 (by simpa only [operator?_eq_some] using hf)]
      exact reads_ok.2 ⟨rfl, rfl⟩
    · rw [front?_cons, operator?_eq_some.2 hop]
      dsimp only [Option.map_some]
      refine reads_bind.2 ⟨b, r₁, hb.1, ?_, ?_⟩
      · rwa [readOperand_eq]
      · exact reads_bind.2 ⟨e, rest, h.1, h, reads_ok.2 ⟨rfl, rfl⟩⟩

theorem reads_unary :
    Reads (read .unary ts) e rest ↔
      (¬ Starts (fun s => ∃ op, Signs s op) ts ∧ Reads (read .power ts) e rest) ∨
      ∃ s p op r a, ts = ⟨.symbol s, p⟩ :: r ∧ Signs s op ∧
        Reads (read .unary r) a rest ∧ e = .unary op a := by
  simp only [read]
  rw [readUnary]
  constructor
  · intro h
    split at h
    · rename_i hf
      refine .inl ⟨?_, h⟩
      simpa only [ofSymbol?_eq_some] using front?_eq_none.1 hf
    · rename_i op r hf
      obtain ⟨r, hr⟩ := r
      obtain ⟨s, p, rfl, hop⟩ := front?_eq_some.1 hf
      obtain ⟨a, r₁, hr₁, ha, h⟩ := reads_bind.1 h
      obtain ⟨rfl, rfl⟩ := reads_ok.1 h
      exact .inr ⟨s, p, op, r, a, rfl, ofSymbol?_eq_some.1 hop, ha, rfl⟩
  · rintro (⟨hf, h⟩ | ⟨s, p, op, r, a, rfl, hop, ha, rfl⟩)
    · rw [front?_eq_none.2 (by simpa only [ofSymbol?_eq_some] using hf)]
      exact h
    · rw [front?_cons, ofSymbol?_eq_some.2 hop]
      dsimp only [Option.map_some]
      exact reads_bind.2 ⟨a, rest, ha.1, ha, reads_ok.2 ⟨rfl, rfl⟩⟩

theorem reads_power :
    Reads (read .power ts) e rest ↔ ∃ a r, Reads (read .primary ts) a r ∧
      (¬ Starts Raises r ∧ e = a ∧ rest = r ∨
        ∃ s p r₁ b, r = ⟨.symbol s, p⟩ :: r₁ ∧ Raises s ∧
          Reads (read .unary r₁) b rest ∧ e = .binary .pow a b) := by
  simp only [read]
  rw [readPower, reads_bind]
  constructor
  · rintro ⟨a, r, hr, ha, h⟩
    refine ⟨a, r, ha, ?_⟩
    dsimp only at h
    split at h
    · rename_i hf
      refine .inl ⟨?_, reads_ok.1 h⟩
      simpa only [isPower?_eq_some, exists_const] using front?_eq_none.1 hf
    · rename_i u r₁ hf
      obtain ⟨r₁, hr₁⟩ := r₁
      obtain ⟨s, p, rfl, hs⟩ := front?_eq_some.1 hf
      obtain ⟨b, r₂, hr₂, hb, h⟩ := reads_bind.1 h
      obtain ⟨rfl, rfl⟩ := reads_ok.1 h
      exact .inr ⟨s, p, r₁, b, rfl, isPower?_eq_some.1 hs, hb, rfl⟩
  · rintro ⟨a, r, ha, h⟩
    refine ⟨a, r, ha.1, ha, ?_⟩
    dsimp only
    rcases h with ⟨hf, rfl, rfl⟩ | ⟨s, p, r₁, b, rfl, hs, hb, rfl⟩
    · rw [front?_eq_none.2 (by simpa only [isPower?_eq_some, exists_const] using hf)]
      exact reads_ok.2 ⟨rfl, rfl⟩
    · rw [front?_cons, (isPower?_eq_some (u := ())).2 hs]
      dsimp only [Option.map_some]
      exact reads_bind.2 ⟨b, rest, hb.1, hb, reads_ok.2 ⟨rfl, rfl⟩⟩

/-- The five shapes of a primary formula in front of a rest. -/
inductive ReadsPrimary : List Lexeme → Formula → List Lexeme → Prop where
  | number (x : Float) (p : Nat) (r : List Lexeme) :
      ReadsPrimary (⟨.number x, p⟩ :: r) (.number x) r
  | text (s : String) (p : Nat) (r : List Lexeme) : ReadsPrimary (⟨.text s, p⟩ :: r) (.text s) r
  | column (name : String) (p : Nat) (r : List Lexeme) :
      ReadsPrimary (⟨.column name, p⟩ :: r) (.column name) r
  | parens {p q : Nat} {r s : List Lexeme} {e : Formula}
      (h : Reads (read .ternary r) e (⟨.symbol .closing, q⟩ :: s)) :
      ReadsPrimary (⟨.symbol .opening, p⟩ :: r) e s
  | call {name : String} {p q : Nat} {r s : List Lexeme} {f : Func} {args : List Formula}
      (hf : Func.ofName? name = some f) (h : Reads (readArguments r) args s)
      (hn : f.admits args.length = true) :
      ReadsPrimary (⟨.word name, p⟩ :: ⟨.symbol .opening, q⟩ :: r) (.call f args) s

theorem reads_primary : Reads (read .primary ts) e rest ↔ ReadsPrimary ts e rest := by
  simp only [read]
  constructor
  · intro h
    rw [readPrimary.eq_def] at h
    split at h
    · exact absurd h reads_error
    · obtain ⟨rfl, rfl⟩ := reads_ok.1 h
      exact .number ..
    · obtain ⟨rfl, rfl⟩ := reads_ok.1 h
      exact .text ..
    · obtain ⟨rfl, rfl⟩ := reads_ok.1 h
      exact .column ..
    · split at h
      · exact absurd h reads_error
      · rename_i r hr
        obtain ⟨r, hr'⟩ := r
        obtain ⟨q, rfl⟩ := eat?_eq_some.1 hr
        split at h
        · exact absurd h reads_error
        · rename_i f hf
          obtain ⟨args, s, hs, ha, h⟩ := reads_bind.1 h
          dsimp only at h
          split at h
          · rename_i hn
            obtain ⟨rfl, rfl⟩ := reads_ok.1 h
            exact .call hf ha hn
          · exact absurd h reads_error
    · split at h
      · rename_i hs
        obtain ⟨a, r, hr, ha, h⟩ := reads_bind.1 h
        obtain ⟨q, r₁, hr₁, rfl, h⟩ := reads_expect.1 h
        obtain ⟨rfl, rfl⟩ := reads_ok.1 h
        rw [hs]
        exact .parens ha
      · exact absurd h reads_error
  · rintro (⟨x, p⟩ | ⟨s, p⟩ | ⟨name, p⟩ | h | ⟨hf, h, hn⟩)
    · rw [readPrimary]
      exact reads_ok.2 ⟨rfl, rfl⟩
    · rw [readPrimary]
      exact reads_ok.2 ⟨rfl, rfl⟩
    · rw [readPrimary]
      exact reads_ok.2 ⟨rfl, rfl⟩
    · rw [readPrimary, if_pos rfl]
      refine reads_bind.2 ⟨e, _, h.1, h, ?_⟩
      exact reads_expect.2 ⟨_, rest, by simp, rfl, reads_ok.2 ⟨rfl, rfl⟩⟩
    · rw [readPrimary, eat?_cons, if_pos rfl, hf]
      refine reads_bind.2 ⟨_, rest, h.1, h, ?_⟩
      dsimp only
      rw [if_pos hn]
      exact reads_ok.2 ⟨rfl, rfl⟩

variable {args : List Formula}

theorem reads_arguments :
    Reads (readArguments ts) args rest ↔
      (∃ p, ts = ⟨.symbol .closing, p⟩ :: rest ∧ args = []) ∨
        ¬ Starts (· = .closing) ts ∧ Reads (readSeparated ts) args rest := by
  rw [readArguments]
  constructor
  · intro h
    split at h
    · rename_i r hr
      obtain ⟨r, hr'⟩ := r
      obtain ⟨p, rfl⟩ := eat?_eq_some.1 hr
      obtain ⟨rfl, rfl⟩ := reads_ok.1 h
      exact .inl ⟨p, rfl, rfl⟩
    · rename_i hr
      exact .inr ⟨eat?_eq_none.1 hr, h⟩
  · rintro (⟨p, rfl, rfl⟩ | ⟨hc, h⟩)
    · rw [eat?_cons, if_pos rfl]
      exact reads_ok.2 ⟨rfl, rfl⟩
    · rw [eat?_eq_none.2 hc]
      exact h

theorem reads_separated :
    Reads (readSeparated ts) args rest ↔ ∃ a r, Reads (read .ternary ts) a r ∧
      ((∃ p, r = ⟨.symbol .closing, p⟩ :: rest ∧ args = [a]) ∨
        ∃ p r₁ as, r = ⟨.symbol .comma, p⟩ :: r₁ ∧
          Reads (readSeparated r₁) as rest ∧ args = a :: as) := by
  simp only [read]
  rw [readSeparated, reads_bind]
  constructor
  · rintro ⟨a, r, hr, ha, h⟩
    refine ⟨a, r, ha, ?_⟩
    dsimp only at h
    split at h
    · rename_i r₁ hq
      obtain ⟨r₁, hr₁⟩ := r₁
      obtain ⟨p, rfl⟩ := eat?_eq_some.1 hq
      obtain ⟨as, s, hs, has, h⟩ := reads_bind.1 h
      obtain ⟨rfl, rfl⟩ := reads_ok.1 h
      exact .inr ⟨p, r₁, as, rfl, has, rfl⟩
    · obtain ⟨p, r₁, hr₁, rfl, h⟩ := reads_expect.1 h
      obtain ⟨rfl, rfl⟩ := reads_ok.1 h
      exact .inl ⟨p, rfl, rfl⟩
  · rintro ⟨a, r, ha, h⟩
    refine ⟨a, r, ha.1, ha, ?_⟩
    dsimp only
    rcases h with ⟨p, rfl, rfl⟩ | ⟨p, r₁, as, rfl, has, rfl⟩
    · rw [eat?_cons, if_neg (by decide)]
      exact reads_expect.2 ⟨p, rest, by simp, rfl, reads_ok.2 ⟨rfl, rfl⟩⟩
    · rw [eat?_cons, if_pos rfl]
      exact reads_bind.2 ⟨as, rest, has.1, has, reads_ok.2 ⟨rfl, rfl⟩⟩

end Tabular.Formula
