import Mathlib.Data.List.Nodup
import RpcGateway.Config.Problems

/-!
# Accepted services

A configuration without problems has services that can be told apart by their names, each with
routes that can be told apart by method and path, and the service that knows users is one of them.
Each check is an equivalence, so that what has been accepted is all that is known.
-/

namespace RpcGateway.Config

theorem problemIf_eq_nil_iff {bad : Bool} {field message : String} :
    problemIf bad field message = [] ↔ bad = false := by
  cases bad <;> simp [problemIf]

/-- A route that can be mounted as far as one can tell from itself. -/
structure Route.WellFormed (r : Route) : Prop where
  method : isMethod r.method = true
  path : startsWithSlash r.path = true
  operation : r.operation ≠ ""

/-- A service that has a name fit for paths, and routes that differ in method or path. -/
structure Service.WellFormed (s : Service) : Prop where
  name : s.name ≠ ""
  segment : '/' ∉ s.name.toList
  address : isHostPort s.address = true
  routes : ∀ r ∈ s.routes, r.WellFormed
  keys : (s.routes.map Route.key).Nodup

theorem routeProblems_eq_nil_iff {field : String} {earlier : List (String × String)} {r : Route} :
    routeProblems field earlier r = [] ↔ r.WellFormed ∧ r.key ∉ earlier := by
  have hformed : r.WellFormed ↔
      isMethod r.method = true ∧ startsWithSlash r.path = true ∧ r.operation ≠ "" :=
    ⟨fun h ↦ ⟨h.method, h.path, h.operation⟩, fun h ↦ ⟨h.1, h.2.1, h.2.2⟩⟩
  simp [routeProblems, problemIf_eq_nil_iff, hformed, and_assoc]

/-- Keys are distinct, and none is among earlier ones, if each is compared with those before it. -/
theorem nodup_cons_and_new_iff {α κ : Type} {key : α → κ} {earlier : List κ} {a : α} {as : List α} :
    ((a :: as).map key).Nodup ∧ (∀ b ∈ a :: as, key b ∉ earlier) ↔
      key a ∉ earlier ∧ (as.map key).Nodup ∧ ∀ b ∈ as, key b ∉ key a :: earlier := by
  have hdifferent : key a ∉ as.map key ↔ ∀ b ∈ as, key b ≠ key a := by
    rw [List.mem_map, not_exists]
    exact forall_congr' fun b ↦ not_and
  rw [List.map_cons, List.nodup_cons, hdifferent, List.forall_mem_cons]
  simp only [List.mem_cons, not_or]
  constructor
  · rintro ⟨⟨hother, hnodup⟩, hnew, hnews⟩
    exact ⟨hnew, hnodup, fun b hb ↦ ⟨hother b hb, hnews b hb⟩⟩
  · rintro ⟨hnew, hnodup, hboth⟩
    exact ⟨⟨fun b hb ↦ (hboth b hb).1, hnodup⟩, hnew, fun b hb ↦ (hboth b hb).2⟩

/-- The routes that have been seen are those that no later one may repeat. -/
theorem routesProblems_eq_nil_iff {service j : Nat} {earlier : List (String × String)}
    {rs : List Route} : routesProblems service j earlier rs = [] ↔
      (∀ r ∈ rs, r.WellFormed) ∧ (rs.map Route.key).Nodup ∧ ∀ r ∈ rs, r.key ∉ earlier := by
  induction rs generalizing j earlier with
  | nil => simp [routesProblems]
  | cons r rs ih =>
    rw [routesProblems, List.append_eq_nil_iff, routeProblems_eq_nil_iff, ih,
      List.forall_mem_cons, nodup_cons_and_new_iff]
    tauto

theorem serviceProblems_eq_nil_iff {i : Nat} {earlier : List String} {s : Service} :
    serviceProblems i earlier s = [] ↔ s.WellFormed ∧ s.name ∉ earlier := by
  have hformed : s.WellFormed ↔ s.name ≠ "" ∧ '/' ∉ s.name.toList ∧ isHostPort s.address = true ∧
      (∀ r ∈ s.routes, r.WellFormed) ∧ (s.routes.map Route.key).Nodup :=
    ⟨fun h ↦ ⟨h.name, h.segment, h.address, h.routes, h.keys⟩,
      fun h ↦ ⟨h.1, h.2.1, h.2.2.1, h.2.2.2.1, h.2.2.2.2⟩⟩
  simp only [serviceProblems, List.append_eq_nil_iff, problemIf_eq_nil_iff,
    routesProblems_eq_nil_iff, hformed, List.contains_eq_mem, decide_eq_false_iff_not,
    Bool.or_eq_false_iff, beq_eq_false_iff_ne, Bool.not_eq_false', List.not_mem_nil,
    not_false_eq_true, implies_true, and_true]
  tauto

theorem servicesProblems_eq_nil_iff {i : Nat} {earlier : List String} {ss : List Service} :
    servicesProblems i earlier ss = [] ↔
      (∀ s ∈ ss, s.WellFormed) ∧ (ss.map Service.name).Nodup ∧ ∀ s ∈ ss, s.name ∉ earlier := by
  induction ss generalizing i earlier with
  | nil => simp [servicesProblems]
  | cons s ss ih =>
    rw [servicesProblems, List.append_eq_nil_iff, serviceProblems_eq_nil_iff, ih,
      List.forall_mem_cons, nodup_cons_and_new_iff]
    tauto

/-! ## Accepted configurations -/

theorem problems_eq_nil_of_accepted {c : Config} (h : c.accepted = true) : c.problems = [] :=
  List.isEmpty_iff.mp h

theorem services_of_accepted {c : Config} (h : c.accepted = true) :
    (∀ s ∈ c.services, s.WellFormed) ∧ (c.services.map Service.name).Nodup := by
  have hnone := problems_eq_nil_of_accepted h
  simp only [problems, List.append_eq_nil_iff] at hnone
  have hservices := servicesProblems_eq_nil_iff.mp hnone.1.2
  exact ⟨hservices.1, hservices.2.1⟩

/-- The service that is asked for users is configured if it is asked at all. -/
theorem mem_of_accepted {c : Config} (h : c.accepted = true) (hauth : c.auth.enabled = true) :
    c.auth.service ∈ c.services.map Service.name := by
  have hnone := problems_eq_nil_of_accepted h
  simp only [problems, List.append_eq_nil_iff] at hnone
  have hauthProblems := hnone.2
  rw [authProblems, if_pos hauth] at hauthProblems
  simp only [List.append_eq_nil_iff, problemIf_eq_nil_iff, Bool.not_eq_false', List.any_eq_true,
    beq_iff_eq] at hauthProblems
  exact List.mem_map.mpr hauthProblems.1.1

end RpcGateway.Config
