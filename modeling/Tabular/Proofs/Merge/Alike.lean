import Tabular.Proofs.Alike
import Tabular.Proofs.Merge.Join
import Tabular.Proofs.Refusal

/-!
# Merges of tables that are alike

A merge reads the cells of the master rows, but of the using rows it reads which cells they store.

* `Index.of_same` and `Index.match?_same`: using rows that store the same are found alike.
* `mergeRow_alike`: and laid over master rows that are alike.
* `Accounts.alike`: the balances of the account stay as they are.
* `merge_alike`: **masters that are alike give merges that are alike**, with the same account.
-/

namespace Tabular

/-! ## The index -/

namespace Index

/-- The same keys in the same order, whose rows store the same. -/
def Same : Index → Index → Prop := List.Forall₂ fun e e' => e.1 = e'.1 ∧ e.2.Same e'.2

variable {index index' : Index} {k : Key} {r r' : Row}

theorem store_same (h : index.Same index') (hr : r.Same r') :
    (store k r index).Same (store k r' index') := by
  induction h with
  | nil => exact .cons ⟨rfl, hr⟩ .nil
  | @cons e e' index index' he hrest ih =>
    unfold store
    rw [he.1]
    split
    · exact .cons ⟨rfl, hr⟩ hrest
    · exact .cons he ih

theorem step_same (h : index.Same index') (hr : r.Same r') (column : String) :
    (step column index r).Same (step column index' r') := by
  unfold step Row.key?
  rw [hr.alike column]
  cases (r'.cell column).key? with
  | none => exact h
  | some k => exact store_same h hr

/-- Rows that store the same have indices that do. -/
theorem of_same {rows rows' : List Row} (h : List.Forall₂ Row.Same rows rows') (column : String) :
    (of column rows).Same (of column rows') := by
  -- from any two indices on, since the rows are stored one after another
  have hfold {i i' : Index} (hi : i.Same i') :
      (rows.foldl (step column) i).Same (rows'.foldl (step column) i') := by
    induction h generalizing i i' with
    | nil => exact hi
    | cons hr _ ih => exact ih (step_same hi hr column)
  exact hfold .nil

theorem lookup_same (h : index.Same index') (k : Key) :
    Option.Rel Row.Same (index.lookup k) (index'.lookup k) := by
  induction h with
  | nil => exact .none
  | @cons e e' index index' he _ ih =>
    obtain ⟨key, r⟩ := e
    obtain ⟨key', r'⟩ := e'
    obtain ⟨rfl, hr⟩ := he
    rw [lookup_cons, lookup_cons]
    split
    · exact .some hr
    · exact ih

/-- Masters that are alike find using rows that store the same. -/
theorem match?_same (h : index.Same index') (column : String) (hr : r.Alike r') :
    Option.Rel Row.Same (index.match? column r) (index'.match? column r') := by
  unfold match? Row.key?
  rw [hr column]
  cases (r'.cell column).key? with
  | none => exact .none
  | some k => exact lookup_same h k

end Index

/-! ## Rows and tables -/

/-- Of two rows laid over each other the upper one may only store the same. -/
theorem joinRow_alike {r r' u u' : Row} (hr : r.Alike r') (hu : u.Same u') (column : String) :
    (joinRow column r u).Alike (joinRow column r' u') := by
  intro name
  have hname := hr name
  unfold Row.cell at hname ⊢
  rw [get?_joinRow, get?_joinRow, hr column, hu name]
  split
  · rfl
  · cases u'.get? name with
    | none => exact hname
    | some c => rfl

theorem mergeRow_alike {index index' : Index} {r r' : Row} (h : index.Same index')
    (hr : r.Alike r') (column : String) :
    (mergeRow index column r).Alike (mergeRow index' column r') := by
  have hmatch := Index.match?_same h column hr
  unfold mergeRow
  generalize index.match? column r = x, index'.match? column r' = y at hmatch ⊢
  cases hmatch with
  | none => exact hr
  | some hu => exact joinRow_alike hr hu column

/-- **Merges that are alike**: the same columns and account, and rows that are alike. -/
structure Merged.Alike (m m' : Merged) : Prop where
  columns : m'.columns = m.columns
  report : m'.report = m.report
  rows : List.Forall₂ Row.Alike m.rows m'.rows

/-- Masters that are alike have the same account. -/
theorem Accounts.alike {masters masters' usings usings' : List Row} {column : String}
    {report : MergeReport} (hm : List.Forall₂ Row.Alike masters masters')
    (hu : List.Forall₂ Row.Same usings usings') (h : Accounts column masters usings report) :
    Accounts column masters' usings' report := by
  have hindex := Index.of_same hu column
  have hkey {r r' : Row} (h : r.Alike r') : r.key? column = r'.key? column :=
    congrArg Cell.key? (h column)
  have hsought : masters.filterMap (·.key? column) = masters'.filterMap (·.key? column) :=
    filterMap_eq_of_rel hm fun _ _ => hkey
  refine ⟨h.matched.trans ?_, h.masterOnly.trans hm.length_eq, h.usingOnly.trans ?_, ?_⟩
  · exact countP_eq_of_rel hm fun _ _ hr => isSome_eq_of_rel (Index.match?_same hindex column hr)
  · rw [hsought]
    exact countP_eq_of_rel hindex fun e e' he => by rw [he.1]
  · rw [← hindex.length_eq, h.usingDuplicates]
    exact congrArg _ (filterMap_eq_of_rel hu fun _ _ hr => hkey hr.alike)

/-- **Masters that are alike give merges that are alike**, when the using rows store the same. -/
theorem merge_alike {masters masters' usings usings' : List Row}
    (hm : List.Forall₂ Row.Alike masters masters') (hu : List.Forall₂ Row.Same usings usings')
    (masterColumns usingColumns : List String) (column : String) :
    EndsAlike Merged.Alike (merge masters masterColumns usings usingColumns column)
      (merge masters' masterColumns usings' usingColumns column) := by
  cases h : merge masters masterColumns usings usingColumns column with
  | ok m =>
    obtain ⟨hmaster, husing, hrows, hcolumns, hreport⟩ := merge_eq_ok.1 h
    have h' : merge masters' masterColumns usings' usingColumns column =
        .ok ⟨masters'.map (mergeRow (.of column usings') column), m.columns, m.report⟩ :=
      merge_eq_ok.2 ⟨hmaster, husing, rfl, hcolumns, hreport.alike hm hu⟩
    rw [h']
    refine .ok ⟨rfl, rfl, ?_⟩
    rw [hrows, List.forall₂_map_left_iff, List.forall₂_map_right_iff]
    exact hm.imp fun _ _ hr => mergeRow_alike (Index.of_same hu column) hr column
  | error e =>
    -- a refusal depends on the columns alone
    have h' : merge masters' masterColumns usings' usingColumns column = .error e := by
      unfold merge at h ⊢
      split at h
      · rename_i hmaster
        rwa [if_pos hmaster]
      rename_i hmaster
      split at h
      · rename_i husing
        rwa [if_neg hmaster, if_pos husing]
      · cases h
    rw [h']
    exact .error e

end Tabular
