import Tabular.Proofs.Split
import Tabular.Service.Routes

/-!
# Paths of requests

The target of a request is a path, and behind it comes nothing, a query or a fragment.

* `path_ofString_eq_iff`: which targets have a path.
* `Resource.path` writes the path of a resource, and `Resource.of?_eq_some` says that it is read so.
* `Leads` says which targets lead to a resource, and `leads_iff` that they are read so.
-/

namespace Tabular.Service

variable {target s : String} {ps : List String} {res : Resource}

/-! ## Targets -/

/-- The character ends a path: what it starts is a query or a fragment. -/
def endsPath (c : Char) : Bool := c == '?' || c == '#'

/-- The path of a target is what stands before its query and its fragment. -/
theorem path_ofString (target : String) :
    (Target.ofString target).path = .ofList (target.toList.takeWhile (!endsPath ·)) := by
  have hends : target.toList.takeWhile (!endsPath ·) =
      (target.toList.takeWhile (· != '#')).takeWhile (!(· == '?') ·) := by
    rw [List.takeWhile_takeWhile]
    refine congrArg (List.takeWhile · _) (funext fun c => ?_)
    rw [Bool.eq_iff_iff]
    simp [endsPath]
  rw [hends, ← getD_fst_splitFirst?]
  unfold Target.ofString
  dsimp only
  cases splitFirst? (· == '?') (target.toList.takeWhile (· != '#')) <;> rfl

/-- **A target has a path** exactly if it starts with it, and behind it comes nothing, a query or a
fragment. -/
theorem path_ofString_eq_iff : (Target.ofString target).path = s ↔
    (∀ c ∈ s.toList, endsPath c = false) ∧
      ∃ rest, target = s ++ rest ∧ ∀ c ∈ rest.toList.head?, endsPath c = true := by
  rw [path_ofString]
  constructor
  · rintro rfl
    refine ⟨fun c hc => ?_, .ofList (target.toList.dropWhile (!endsPath ·)), ?_, fun c hc => ?_⟩
    · have := List.mem_takeWhile_imp (String.toList_ofList ▸ hc)
      simpa using this
    · rw [← String.ofList_append, List.takeWhile_append_dropWhile, String.ofList_toList]
    · rw [String.toList_ofList] at hc
      have := List.head?_dropWhile_not (!endsPath ·) target.toList
      rw [hc] at this
      simpa using this
  · rintro ⟨hpath, rest, rfl, hrest⟩
    have hstop : rest.toList.takeWhile (!endsPath ·) = [] := by
      cases h : rest.toList with
      | nil => rfl
      | cons c cs => rw [List.takeWhile_cons_of_neg (by simp [hrest c (by simp [h])])]
    rw [String.toList_append, List.takeWhile_append_of_pos fun c hc => by simp [hpath c hc], hstop,
      List.append_nil, String.ofList_toList]

/-! ## Resources -/

/-- The parts of a path stand behind its slashes and have none. -/
theorem segments_eq_iff (hne : ps ≠ []) : segments s = ps ↔
    s.toList = '/' :: List.intercalate ['/'] (ps.map String.toList) ∧
      ∀ part ∈ ps, '/' ∉ part.toList := by
  unfold segments
  constructor
  · intro h
    split at h
    · rename_i rest hs
      subst h
      refine ⟨?_, ?_⟩
      · rw [hs, List.map_map]
        simp [Function.comp_def, intercalate_splitAll]
      · rw [List.forall_mem_map]
        intro part hpart
        rw [String.toList_ofList]
        exact not_mem_of_mem_splitAll hpart
    · exact absurd h.symm hne
  · rintro ⟨hs, hparts⟩
    rw [hs]
    show (splitAll (· == '/') _).map String.ofList = ps
    rw [splitAll_intercalate (by simpa using hne) (by simpa using hparts)]
    simp

/-- The path of a resource. -/
def Resource.path : Resource → String
  | .health => "/health"
  | .datasets => "/datasets"
  | .dataset name => "/datasets/" ++ name
  | .activeSheet name => "/datasets/" ++ name ++ "/sheet"
  | .console => "/console"
  | .groundTruth => "/ground-truth"
  | .reply => "/reasoning/reply"

/-- The parts of the path of a resource. -/
def Resource.parts : Resource → List String
  | .health => ["health"]
  | .datasets => ["datasets"]
  | .dataset name => ["datasets", name]
  | .activeSheet name => ["datasets", name, "sheet"]
  | .console => ["console"]
  | .groundTruth => ["ground-truth"]
  | .reply => ["reasoning", "reply"]

/-- What stands for a dataset in the path of a resource is not empty and has no slash. -/
def Resource.Named : Resource → Prop
  | .dataset name | .activeSheet name => name ≠ "" ∧ '/' ∉ name.toList
  | _ => True

theorem Resource.toList_path (res : Resource) :
    res.path.toList = '/' :: List.intercalate ['/'] (res.parts.map String.toList) := by
  cases res <;> simp [Resource.path, Resource.parts, List.intercalate]

/-- **The path of a resource is read as the resource.** -/
theorem Resource.of?_eq_some : Resource.of? s = some res ↔ s = res.path ∧ res.Named := by
  have hpath (h : segments s = res.parts) (hne : res.parts ≠ []) : s = res.path := by
    rw [← String.toList_inj, res.toList_path]
    exact ((segments_eq_iff hne).1 h).1
  constructor
  · intro h
    unfold Resource.of? at h
    split at h
    case h_3 name hs | h_4 name hs =>
      split at h
      · cases h
      · rename_i hname
        cases h
        have hslash := ((segments_eq_iff (List.cons_ne_nil _ _)).1 hs).2 name (by simp)
        exact ⟨hpath hs (List.cons_ne_nil _ _), by simpa using hname, hslash⟩
    all_goals
      cases h
      try exact ⟨hpath (by assumption) (List.cons_ne_nil _ _), trivial⟩
  · rintro ⟨rfl, hname⟩
    have hs : segments res.path = res.parts := by
      refine (segments_eq_iff ?_).2 ⟨res.toList_path, ?_⟩
      · cases res <;> exact List.cons_ne_nil _ _
      · cases res <;> simp_all [Resource.parts, Resource.Named]
    unfold Resource.of?
    cases res <;> rw [hs] <;> simp_all [Resource.parts, Resource.Named]

/-! ## Targets of resources -/

/-- **A target leads to a resource**: it starts with the path of the resource, and behind that comes
nothing, a query or a fragment. -/
structure Leads (target : String) (res : Resource) : Prop where
  named : res.Named
  plain : ∀ c ∈ res.path.toList, endsPath c = false
  target_eq : ∃ rest, target = res.path ++ rest ∧ ∀ c ∈ rest.toList.head?, endsPath c = true

/-- **A target is read as the resource that it leads to.** -/
theorem leads_iff : Leads target res ↔ Resource.of? (Target.ofString target).path = some res := by
  rw [Resource.of?_eq_some, path_ofString_eq_iff]
  constructor
  · intro h
    exact ⟨⟨h.plain, h.target_eq⟩, h.named⟩
  · rintro ⟨⟨hplain, htarget⟩, hnamed⟩
    exact ⟨hnamed, hplain, htarget⟩

instance : Decidable (Leads target res) := decidable_of_iff _ leads_iff.symm

end Tabular.Service
