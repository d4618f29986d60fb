import Tabular.Proofs.Service.Paths

/-!
# The routes

Which method and which path ask for which action, said without the routing table.

* `Action.method` and `Action.resource` write a route.
* `Routed req a`: the request asks for the action by its route.
* `answer_of_refused`, `answer_of_performed` and `answer_of_not_routed`: **a request that asks for
  an action is answered with what comes of it, and any other one is answered at once.**
-/

namespace Tabular.Service

/-! ## How a route is written -/

/-- The method of an action. -/
def Action.method : Action → String
  | .health | .listDatasets => "GET"
  | .upload _ | .console | .groundTruth | .reply => "POST"
  | .setSheet _ => "PUT"
  | .clear | .remove _ => "DELETE"

/-- The resource of an action. -/
def Action.resource : Action → Resource
  | .health => .health
  | .listDatasets | .clear => .datasets
  | .upload name | .remove name => .dataset name
  | .setSheet name => .activeSheet name
  | .console => .console
  | .groundTruth => .groundTruth
  | .reply => .reply

/-- **A request asks for an action**: it has its method, and its target leads to its resource. The
head of a resource is asked for like the resource. -/
structure Routed (req : Request) (a : Action) : Prop where
  method : req.method = a.method ∨ req.method = "HEAD" ∧ a.method = "GET"
  leads : Leads req.target a.resource

instance {req : Request} {a : Action} : Decidable (Routed req a) :=
  decidable_of_iff ((req.method = a.method ∨ req.method = "HEAD" ∧ a.method = "GET") ∧
    Leads req.target a.resource) ⟨fun h => ⟨h.1, h.2⟩, fun h => ⟨h.method, h.leads⟩⟩

/-! ## The routing table -/

variable {opener : Opener} {limit : Nat} {settings : Settings} {w w' : Workbench} {req : Request}
  {a : Action} {r : Response}

theorem Action.of?_eq_some {m : String} {res : Resource} :
    Action.of? m res = some a ↔ m = a.method ∧ res = a.resource := by
  constructor
  · intro h
    unfold Action.of? at h
    split at h <;> (repeat' split at h) <;> cases h <;> exact ⟨by assumption, rfl⟩
  · rintro ⟨rfl, rfl⟩
    cases a <;> simp [Action.of?, Action.method, Action.resource]

/-- The methods that are taken for the one of a resource. -/
theorem method_eq_iff {m : String} :
    (if m == "HEAD" then "GET" else m) = a.method ↔
      m = a.method ∨ m = "HEAD" ∧ a.method = "GET" := by
  have hne : a.method ≠ "HEAD" := by cases a <;> simp [Action.method]
  by_cases hm : m = "HEAD"
  · subst hm
    simp [hne.symm, eq_comm]
  · simp [hm]

theorem routed_iff : Routed req a ↔ ∃ res,
    Resource.of? (Target.ofString req.target).path = some res ∧
      Action.of? (if req.method == "HEAD" then "GET" else req.method) res = some a := by
  simp only [← leads_iff, Action.of?_eq_some, method_eq_iff]
  constructor
  · intro h
    exact ⟨_, h.leads, h.method, rfl⟩
  · rintro ⟨_, hleads, hmethod, rfl⟩
    exact ⟨hmethod, hleads⟩

/-- A request asks for one action at most. -/
theorem Routed.unique {b : Action} (ha : Routed req a) (hb : Routed req b) : a = b := by
  obtain ⟨res, hres, ha⟩ := routed_iff.1 ha
  obtain ⟨res', hres', hb⟩ := routed_iff.1 hb
  obtain rfl : res = res' := Option.some.inj (hres.symm.trans hres')
  exact Option.some.inj (ha.symm.trans hb)

theorem Routed.method_ne_options (h : Routed req a) : req.method ≠ "OPTIONS" := by
  have hne : a.method ≠ "OPTIONS" := by cases a <;> simp [Action.method]
  rcases h.method with hm | ⟨hm, -⟩
  · rwa [hm]
  · rw [hm]
    decide

/-! ## Answers -/

/-- A request whose action is refused is answered with the refusal, and nothing changes. -/
theorem answer_of_refused (h : Routed req a)
    (hp : perform opener limit settings w req a = .error r) :
    answer opener limit settings w req = (w, r) := by
  obtain ⟨res, hres, ha⟩ := routed_iff.1 h
  unfold answer
  rw [if_neg h.method_ne_options]
  simp only [hres, ha, hp]

/-- A request whose action is performed is answered with what comes of it, less the body of the
answer where only its head is asked for. -/
theorem answer_of_performed (h : Routed req a)
    (hp : perform opener limit settings w req a = .ok (w', r)) :
    answer opener limit settings w req = (w', if req.method == "HEAD" then headOf r else r) := by
  obtain ⟨res, hres, ha⟩ := routed_iff.1 h
  unfold answer
  rw [if_neg h.method_ne_options]
  simp only [hres, ha, hp]

/-- A request that asks for no action is answered at once: with nothing for the question for
options, else with the status of an unknown path or method. -/
theorem answer_of_not_routed (h : ∀ a, ¬ Routed req a) :
    (answer opener limit settings w req).1 = w ∧
      (req.method = "OPTIONS" ∧ (answer opener limit settings w req).2.status = 200 ∨
        (∀ res, ¬ Leads req.target res) ∧ (answer opener limit settings w req).2.status = 404 ∨
        (∃ res, Leads req.target res) ∧ (answer opener limit settings w req).2.status = 405) := by
  unfold answer
  split
  · rename_i hm
    exact ⟨rfl, .inl ⟨hm, rfl⟩⟩
  split
  · rename_i hres
    refine ⟨rfl, .inr (.inl ⟨fun res hleads => ?_, rfl⟩)⟩
    rw [leads_iff.1 hleads] at hres
    cases hres
  rename_i res hres
  dsimp only
  split
  · exact ⟨rfl, .inr (.inr ⟨⟨res, leads_iff.2 hres⟩, rfl⟩)⟩
  · rename_i a ha
    exact absurd (routed_iff.2 ⟨res, hres, ha⟩) (h a)

end Tabular.Service
