import Tabular.Json.Decode
import Tabular.Proofs.Refusal

/-!
# What a record is read from

A reader of a record looks at every member of its document, also at those that it passes over. So
what it reads is whole.

* `Document.intact_of_value`: a document with a plain value is intact.
* `Decoder.Careful` says of a decoder that it takes nothing from a document that breaks,
  `Record.Careful` of a record that its fields are filled by such decoders.
* `Record.intact_of_decode`: **a record is read from an intact document, and from no number.**
-/

namespace Tabular.Json

/-! ## Values -/

namespace Document

mutual

/-- A document with a plain value is intact. -/
theorem intact_of_value {depth : Nat} {d : Document} {j : Json} (h : d.value depth = .ok j) :
    d.intact = true := by
  cases d with
  | null | bool | number | text => rfl
  | list items =>
    rw [value] at h
    split at h
    · cases h
    obtain ⟨js, hitems, -⟩ := map_eq_ok.1 h
    exact allIntact_of_values hitems
  | object ms =>
    rw [value] at h
    split at h
    · cases h
    obtain ⟨js, hmembers, -⟩ := map_eq_ok.1 h
    exact membersIntact_of_values hmembers
  | broken =>
    rw [value] at h
    cases h

theorem allIntact_of_values {depth : Nat} {ds : List Document} {js : List Json}
    (h : values depth ds = .ok js) : allIntact ds = true := by
  match ds with
  | [] => rfl
  | d :: ds =>
    rw [values] at h
    obtain ⟨j, hd, h⟩ := bind_eq_ok.1 h
    obtain ⟨js, hds, -⟩ := bind_eq_ok.1 h
    rw [allIntact, intact_of_value hd, allIntact_of_values hds, Bool.true_and]

theorem membersIntact_of_values {depth : Nat} {ms : List (Option String × Document)}
    {js : List (String × Json)} (h : memberValues depth ms = .ok js) :
    membersIntact ms = true := by
  match ms with
  | [] => rfl
  | (none, d) :: ms =>
    rw [memberValues] at h
    cases h
  | (some name, d) :: ms =>
    rw [memberValues] at h
    obtain ⟨j, hd, h⟩ := bind_eq_ok.1 h
    obtain ⟨js, hms, -⟩ := bind_eq_ok.1 h
    rw [membersIntact, intact_of_value hd, membersIntact_of_values hms, Bool.true_and]

end

end Document

/-! ## Decoders -/

/-- A decoder that takes nothing from a document that breaks. -/
def Decoder.Careful {α : Type} (f : Decoder α) : Prop :=
  ∀ d a, f d = .ok a → d.intact = true

namespace Decoder

variable {α : Type}

theorem careful_value (depth : Nat) : Careful fun d => d.value depth :=
  fun _ _ h => Document.intact_of_value h

theorem careful_string : Careful string := by
  intro d a h
  cases d with
  | text => rfl
  | null | bool | number | list | object | broken => cases h

theorem Careful.nullable {f : Decoder α} (hf : Careful f) : Careful f.nullable := by
  intro d a h
  unfold Decoder.nullable at h
  split at h
  · rfl
  · obtain ⟨b, hb, -⟩ := map_eq_ok.1 h
    exact hf _ b hb

theorem careful_variant (f : String → Option α) : Careful (variant f) := by
  intro d a h
  unfold variant at h
  split at h
  · rfl
  · -- a name with a null member
    split at h
    · cases h
    · rfl
    · cases h
    · cases h
  · cases h
  · cases h

theorem Careful.fill {f : Decoder α} (hf : Careful f) (slot : Option α) :
    Careful (Json.fill slot f) := by
  intro d a h
  unfold Json.fill at h
  split at h
  · cases h
  · obtain ⟨b, hb, -⟩ := map_eq_ok.1 h
    exact hf d b hb

end Decoder

/-! ## Records -/

/-- A record whose fields are filled from nothing that breaks. -/
def Record.Careful {σ α : Type} (r : Record σ α) : Prop :=
  ∀ s name, Decoder.Careful (r.store s name)

namespace Record

variable {σ α : Type} {r : Record σ α} {s s' : σ}

theorem membersIntact_of_members (hr : r.Careful) {ms : List (Option String × Document)}
    (h : r.members s ms = .ok s') : Document.membersIntact ms = true := by
  fun_induction r.members s ms with
  | case1 => rfl
  | case2 => cases h
  | case3 s name d ms _ t hstore ih =>
    rw [Document.membersIntact, hr s name d t hstore, ih h, Bool.true_and]
  | case4 => cases h
  | case5 s name d ms _ hd ih => rw [Document.membersIntact, hd, ih h, Bool.true_and]
  | case6 => cases h

theorem allIntact_of_items (hr : r.Careful) {needed : Nat} {names : List String}
    {ds : List Document} (h : r.items s needed names ds = .ok s') :
    Document.allIntact ds = true := by
  fun_induction r.items s needed names ds with
  | case1 => rfl
  | case2 => cases h
  | case3 => rfl
  | case4 => rfl
  | case5 s needed name names d ds t hstore ih =>
    rw [Document.allIntact, hr s name d t hstore, ih h, Bool.true_and]
  | case6 => cases h

/-- **A record is read from an intact document, and from no number.** -/
theorem intact_of_decode (hr : r.Careful) {d : Document} {a : α} (h : r.decode d = .ok a) :
    d.intact = true ∧ ∀ n, d ≠ .number n := by
  unfold decode at h
  split at h
  · obtain ⟨s, hmembers, -⟩ := bind_eq_ok.1 h
    exact ⟨membersIntact_of_members hr hmembers, nofun⟩
  · obtain ⟨s, hitems, -⟩ := bind_eq_ok.1 h
    exact ⟨allIntact_of_items hr hitems, nofun⟩
  · cases h

end Record

end Tabular.Json
