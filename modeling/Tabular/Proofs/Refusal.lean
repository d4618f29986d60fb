import Mathlib.Data.List.Forall2

/-!
# Computations that may be refused

A chain of computations gives a result when all of them do, and is refused with the first
refusal.

* `bind_eq_ok` and `bind_eq_error` take a chain apart, `map_eq_ok` and `map_eq_error` a
  result that is only wrapped.
* `mapM_eq_ok`: a list of computations gives the list of their results.
* `RefusedOnly P`: whatever a computation is refused with has the property `P`.
* `Checked`: computations that may also go wrong, at an access to what is not there.
  `Checked.safe` are those that do not.
* `EndsAlike` compares two computations, and `EndsAlike.bind`, `EndsAlike.bind_right` and
  `EndsAlike.mapM` their chains and lists.
-/

namespace Tabular

variable {ε α β : Type}

theorem bind_eq_ok {x : Except ε α} {f : α → Except ε β} {b : β} :
    (x >>= f) = .ok b ↔ ∃ a, x = .ok a ∧ f a = .ok b := by
  cases x <;> simp [bind, Except.bind]

theorem bind_eq_error {x : Except ε α} {f : α → Except ε β} {e : ε} :
    (x >>= f) = .error e ↔ x = .error e ∨ ∃ a, x = .ok a ∧ f a = .error e := by
  cases x <;> simp [bind, Except.bind]

theorem pure_eq_ok {a b : α} : (pure a : Except ε α) = .ok b ↔ a = b := by
  simp [pure, Except.pure]

theorem map_eq_ok {x : Except ε α} {f : α → β} {b : β} :
    x.map f = .ok b ↔ ∃ a, x = .ok a ∧ f a = b := by
  cases x <;> simp [Except.map]

theorem toOption_eq_some {x : Except ε α} {a : α} : x.toOption = some a ↔ x = .ok a := by
  cases x <;> simp [Except.toOption]

theorem map_eq_error {x : Except ε α} {f : α → β} {e : ε} :
    x.map f = .error e ↔ x = .error e := by
  cases x <;> simp [Except.map]

/-- A list of computations gives the list of their results. -/
theorem mapM_eq_ok {f : α → Except ε β} {l : List α} {l' : List β} :
    l.mapM f = .ok l' ↔ List.Forall₂ (fun a b => f a = .ok b) l l' := by
  induction l generalizing l' with
  | nil => rw [List.mapM_nil, pure_eq_ok, List.forall₂_nil_left_iff, eq_comm]
  | cons a l ih =>
    rw [List.mapM_cons, bind_eq_ok, List.forall₂_cons_left_iff]
    simp only [bind_eq_ok, pure_eq_ok, ih]
    constructor
    · rintro ⟨b, hb, bs, hbs, rfl⟩
      exact ⟨b, bs, hb, hbs, rfl⟩
    · rintro ⟨b, bs, hb, hbs, rfl⟩
      exact ⟨b, hb, bs, hbs, rfl⟩

/-! ## What computations are refused with -/

/-- Whatever a computation is refused with has the property. -/
def RefusedOnly (P : ε → Prop) (x : Except ε α) : Prop := ∀ e, x = .error e → P e

namespace RefusedOnly

variable {P : ε → Prop} {x : Except ε α}

theorem ok (a : α) : RefusedOnly P (.ok a) := nofun

theorem error {e : ε} (h : P e) : RefusedOnly P (.error e : Except ε α) := by
  rintro _ ⟨⟩
  exact h

theorem bind {f : α → Except ε β} (hx : RefusedOnly P x) (hf : ∀ a, RefusedOnly P (f a)) :
    RefusedOnly P (x >>= f) := by
  intro e h
  rcases bind_eq_error.1 h with h | ⟨a, -, h⟩
  · exact hx e h
  · exact hf a e h

theorem map {f : α → β} (hx : RefusedOnly P x) : RefusedOnly P (x.map f) :=
  fun e h => hx e (map_eq_error.1 h)

end RefusedOnly

/-! ## Computations that may go wrong -/

/-- **A computation that may be refused, and that may go wrong**: after an access to what is not
there it has no end at all. -/
abbrev Checked (ε α : Type) := ExceptT ε Option α

namespace Checked

/-- A computation that does not go wrong. -/
def safe (x : Except ε α) : Checked ε α := ExceptT.mk (some x)

/-- An access, which goes wrong where there is nothing. -/
def access (x : Option α) : Checked ε α := ExceptT.lift x

theorem access_bind {x : Option α} {a : α} (h : x = some a) (f : α → Checked ε β) :
    (access x >>= f) = f a := by
  subst h
  rfl

/-- A chain is safe when its parts are. -/
theorem safe_bind {x : Except ε α} {f : α → Checked ε β} {g : α → Except ε β}
    (h : ∀ a, x = .ok a → f a = safe (g a)) : (safe x >>= f) = safe (x >>= g) := by
  cases x with
  | ok a => exact h a rfl
  | error e => rfl

end Checked

/-! ## Computations that end alike -/

/-- **Two computations end alike**: both are refused for the same cause, or their results are
related. -/
inductive EndsAlike {ε α β : Type} (R : α → β → Prop) : Except ε α → Except ε β → Prop where
  | ok {a : α} {b : β} (h : R a b) : EndsAlike R (.ok a) (.ok b)
  | error (e : ε) : EndsAlike R (.error e) (.error e)

namespace EndsAlike

variable {γ δ : Type} {R : α → β → Prop} {S : γ → δ → Prop}

theorem bind {x : Except ε α} {y : Except ε β} {f : α → Except ε γ} {g : β → Except ε δ}
    (h : EndsAlike R x y) (hfg : ∀ a b, R a b → EndsAlike S (f a) (g b)) :
    EndsAlike S (x >>= f) (y >>= g) := by
  cases h with
  | ok h => exact hfg _ _ h
  | error e => exact .error e

/-- What follows one computation. -/
theorem bind_right (x : Except ε α) {f : α → Except ε γ} {g : α → Except ε δ}
    (hfg : ∀ a, EndsAlike S (f a) (g a)) : EndsAlike S (x >>= f) (x >>= g) := by
  cases x with
  | ok a => exact hfg a
  | error e => exact .error e

/-- What gives the same in related cases. -/
theorem bind_eq {x : Except ε α} {y : Except ε β} {f : α → Except ε γ} {g : β → Except ε γ}
    (h : EndsAlike R x y) (hfg : ∀ a b, R a b → f a = g b) : (x >>= f) = (y >>= g) := by
  cases h with
  | ok h => exact hfg _ _ h
  | error e => rfl

/-- Lists of computations that end alike. -/
theorem mapM {f : α → Except ε γ} {g : β → Except ε δ} {l : List α} {l' : List β}
    (h : List.Forall₂ R l l') (hfg : ∀ a b, R a b → EndsAlike S (f a) (g b)) :
    EndsAlike (List.Forall₂ S) (l.mapM f) (l'.mapM g) := by
  induction h with
  | nil => exact .ok .nil
  | cons h _ ih =>
    rw [List.mapM_cons, List.mapM_cons]
    refine (hfg _ _ h).bind ?_
    intro c d hcd
    refine ih.bind ?_
    intro cs ds hcds
    exact .ok (.cons hcd hcds)

end EndsAlike

end Tabular
