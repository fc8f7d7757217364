import Mathlib.Data.List.Nodup
import RpcGateway.Gateway.Pipeline
import RpcGateway.Proofs.Config.Defaults
import RpcGateway.Proofs.Routing.Mountings
import RpcGateway.Proofs.Routing.Patterns

/-!
# Which configurations start

An accepted configuration has no two routes for one method and path, and that is all it takes for
them to come to a table of paths. A gateway needs more: each path has to be a pattern, no two paths
may conflict, and so many requests have to be let in at once as can be counted. Paths without
parameters are patterns that conflict with no others, so between them acceptance is enough.
-/

namespace RpcGateway

open Calls Http

namespace Gateway

/-- A path at which a configuration has a route. -/
def Mounted (c : Config) (path : String) : Prop :=
  ∃ s ∈ c.services, ∃ r ∈ s.routes,
    Text.upper r.method ∈ Endpoint.supportedMethods ∧ path ∈ RouteTable.fullPaths s.name r.path

/-- Paths that do not stand in each other's way. -/
def Apart (path path' : String) : Prop :=
  ∀ p ∈ PathPattern.parse? path.toList, ∀ q ∈ PathPattern.parse? path'.toList,
    p.conflicts q = false

instance : Std.Symm Apart where
  symm _ _ h q hq p hp := (PathPattern.conflicts_comm q p).trans (h p hp q hq)

/-- What it takes to start, beside acceptance. -/
structure Startable (c : Config) : Prop where
  permits : c.server.maxConcurrentRequests.toNat ≤ maxPermits
  patterns : ∀ path, Mounted c path → (PathPattern.parse? path.toList).isSome
  apart : ∀ path path', Mounted c path → Mounted c path' → path ≠ path' → Apart path path'

namespace RouteTable

variable {services : List Service} {withMetrics : Bool} {path : String}

theorem conflictFree_iff (ps : List PathPattern) :
    conflictFree ps = true ↔ ps.Pairwise fun p q ↦ p.conflicts q = false := by
  induction ps with
  | nil => simp [conflictFree]
  | cons p ps ih => simp [conflictFree, ih]

/-- An entry of a table under the pattern of its path. -/
def patterned? (e : String × Endpoint) : Option (PathPattern × Endpoint) :=
  (PathPattern.parse? e.1.toList).map fun p ↦ (p, e.2)

/-- A table has its entries under their patterns, and no two of these conflict. -/
theorem build?_eq_some_iff {t : RouteTable} : build? services withMetrics = some t ↔
    ∃ backend, backendRoutes? services = some backend ∧
      (ownRoutes withMetrics ++ backend).map patterned? = t.routes.map some ∧
      (t.routes.map Prod.fst).Pairwise fun p q ↦ p.conflicts q = false := by
  unfold build?
  simp only [Option.bind_eq_bind, Option.bind_eq_some_iff, mapM_eq_some_iff, ← conflictFree_iff]
  refine exists_congr fun backend ↦ and_congr_right fun _ ↦ ?_
  constructor
  · rintro ⟨routes, hroutes, hfree⟩
    split at hfree
    · rename_i hpairwise
      cases hfree
      exact ⟨hroutes, hpairwise⟩
    · cases hfree
  · rintro ⟨hroutes, hfree⟩
    exact ⟨t.routes, hroutes, if_pos hfree⟩

theorem apart_iff {e e' : String × Endpoint} : Apart e.1 e'.1 ↔
    ∀ a ∈ patterned? e, ∀ b ∈ patterned? e', a.1.conflicts b.1 = false := by
  simp [Apart, patterned?]

theorem patterns_apart_iff {entries : List (String × Endpoint)}
    {routes : List (PathPattern × Endpoint)} (h : entries.map patterned? = routes.map some) :
    (routes.map Prod.fst).Pairwise (fun p q ↦ p.conflicts q = false) ↔
      (entries.map Prod.fst).Pairwise Apart := by
  let Free (x y : Option (PathPattern × Endpoint)) : Prop :=
    ∀ a ∈ x, ∀ b ∈ y, a.1.conflicts b.1 = false
  calc
    _ ↔ (routes.map some).Pairwise Free := by
      rw [List.pairwise_map, List.pairwise_map]
      simp only [Free, Option.mem_some_iff, forall_eq']
    _ ↔ (entries.map patterned?).Pairwise Free := by rw [h]
    _ ↔ _ := by simp only [Free, List.pairwise_map, apart_iff]

/-- A table can be built if each path is a pattern and no two paths conflict. -/
theorem build?_isSome_iff : (build? services withMetrics).isSome ↔
    ∃ backend, backendRoutes? services = some backend ∧
      (∀ path ∈ (ownRoutes withMetrics ++ backend).map Prod.fst,
        (PathPattern.parse? path.toList).isSome) ∧
      ((ownRoutes withMetrics ++ backend).map Prod.fst).Pairwise Apart := by
  have hparsed (entries : List (String × Endpoint)) : (entries.mapM patterned?).isSome ↔
      ∀ path ∈ entries.map Prod.fst, (PathPattern.parse? path.toList).isSome := by
    simp only [mapM_isSome_iff, List.forall_mem_map, patterned?, Option.isSome_map]
  simp only [Option.isSome_iff_exists (x := build? services withMetrics), build?_eq_some_iff]
  constructor
  · rintro ⟨t, backend, hbackend, hroutes, hfree⟩
    refine ⟨backend, hbackend, (hparsed _).mp ?_, (patterns_apart_iff hroutes).mp hfree⟩
    rw [mapM_eq_some_iff.mpr hroutes]
    rfl
  · rintro ⟨backend, hbackend, hpatterns, hapart⟩
    obtain ⟨routes, hroutes⟩ := Option.isSome_iff_exists.mp ((hparsed _).mpr hpatterns)
    have hroutes := mapM_eq_some_iff.mp hroutes
    exact ⟨⟨routes⟩, backend, hbackend, hroutes, (patterns_apart_iff hroutes).mpr hapart⟩

/-! ## The routes of the gateway itself -/

/-- A path of a service begins like no path of the gateway itself. -/
theorem exists_of_mem_fullPaths {service route : String}
    (h : path ∈ fullPaths service route) : ∃ r, path.toList = '/' :: 'a' :: r := by
  rw [fullPaths_eq, List.mem_map] at h
  obtain ⟨q, -, rfl⟩ := h
  exact ⟨['p', 'i', '/'] ++ service.toList ++ q.toList, by simp [mount]⟩

theorem exists_of_parse? {r : List Char} {p : PathPattern}
    (h : PathPattern.parse? ('/' :: 'a' :: r) = some p) :
    ∃ q, p = .literal '/' :: .literal 'a' :: q := by
  have hpieces := PathPattern.pieces?_of_parse? h
  rw [PathPattern.pieces?_cons (by decide) (by decide),
    PathPattern.pieces?_cons (by decide) (by decide), Option.map_map] at hpieces
  obtain ⟨q, -, rfl⟩ := Option.map_eq_some_iff.mp hpieces
  exact ⟨q, rfl⟩

theorem own_cases (h : path ∈ (ownRoutes withMetrics).map Prod.fst) :
    path = "/" ∨ path = "/metrics" := by
  cases withMetrics with
  | true => simpa [ownRoutes] using h
  | false => exact .inl (by simpa [ownRoutes] using h)

theorem parse?_own (h : path ∈ (ownRoutes withMetrics).map Prod.fst) :
    (PathPattern.parse? path.toList).isSome := by
  obtain rfl | rfl := own_cases h
  · rfl
  · rfl

theorem apart_own (withMetrics : Bool) : ((ownRoutes withMetrics).map Prod.fst).Pairwise Apart := by
  have hapart : Apart "/" "/metrics" := by
    rintro p ⟨⟩ q ⟨⟩
    rfl
  cases withMetrics with
  | true => exact List.pairwise_pair.mpr hapart
  | false => exact List.pairwise_singleton Apart "/"

theorem apart_of_own {own : String} (hown : own ∈ (ownRoutes withMetrics).map Prod.fst)
    {r : List Char} (hpath : path.toList = '/' :: 'a' :: r) : Apart own path := by
  intro p hp q hq
  rw [hpath] at hq
  obtain ⟨q, rfl⟩ := exists_of_parse? hq
  obtain rfl | rfl := own_cases hown
  · cases hp
    rfl
  · cases hp
    rfl

/-- Services that can be mounted side by side make a table if their paths are patterns that do not
conflict with each other. -/
theorem build?_isSome_iff_of_mountable (h : Mountable services) (withMetrics : Bool) :
    (build? services withMetrics).isSome ↔
      (∀ path ∈ (mountings services).map Mounting.path,
        (PathPattern.parse? path.toList).isSome) ∧
      ∀ path ∈ (mountings services).map Mounting.path,
        ∀ path' ∈ (mountings services).map Mounting.path, path ≠ path' → Apart path path' := by
  obtain ⟨backend, hbackend, hnodup, hpaths, -⟩ := exists_backendRoutes h
  simp only [build?_isSome_iff, hbackend, Option.some.injEq, exists_eq_left', List.map_append,
    List.forall_mem_append, List.pairwise_append, ← hpaths]
  constructor
  · rintro ⟨⟨-, hparsed⟩, -, hapart, -⟩
    exact ⟨hparsed, fun path hpath path' hpath' hne ↦ hapart.forall hpath hpath' hne⟩
  · rintro ⟨hparsed, hapart⟩
    refine ⟨⟨fun _ ↦ parse?_own, hparsed⟩, apart_own withMetrics, ?_, fun own hown path hpath ↦ ?_⟩
    · exact hnodup.imp_of_mem fun hpath hpath' hne ↦ hapart _ hpath _ hpath' hne
    · obtain ⟨m, hm, rfl⟩ := List.mem_map.mp ((hpaths path).mp hpath)
      obtain ⟨s, -, r, -, hmounting⟩ := mem_mountings_iff.mp hm
      obtain ⟨-, hfull, -⟩ := mem_routeMountings_iff.mp hmounting
      obtain ⟨rest, hrest⟩ := exists_of_mem_fullPaths hfull
      exact apart_of_own hown hrest

end RouteTable

/-! ## The gateway -/

theorem mounted_iff {c : Config} (h : c.accepted = true) (start : Time) {path : String} :
    path ∈ (RouteTable.mountings (Registry.ofConfig c start).services).map Mounting.path ↔
      Mounted c path := by
  rw [Registry.services_ofConfig start (Config.services_of_accepted h).2, List.mem_map]
  simp only [RouteTable.mem_mountings_iff, RouteTable.mem_routeMountings_iff, List.mem_map,
    exists_exists_and_eq_and, Service.ofConfig]
  constructor
  · rintro ⟨m, ⟨s, hs, r, hr, hsupported, hpath, -⟩, rfl⟩
    exact ⟨s, hs, r, hr, hsupported, hpath⟩
  · rintro ⟨s, hs, r, hr, hsupported, hpath⟩
    exact ⟨⟨path, _, _⟩, ⟨s, hs, r, hr, hsupported, hpath, rfl, rfl⟩, rfl⟩

/-- Whether an accepted configuration starts: its limit on requests can be counted, its paths are
patterns, and no two of them conflict. Nothing else is asked of what has been accepted. -/
theorem starts_iff_of_accepted {c : Config} (h : c.accepted = true) (start : Time)
    (recording : Bool) (ids : Http.RequestId.Source) :
    (build? c (Registry.ofConfig c start).services recording ids).isSome ↔ Startable c := by
  have htable := RouteTable.build?_isSome_iff_of_mountable (mountable_of_accepted h start)
    c.observability.metricsEnabled
  simp only [mounted_iff h start] at htable
  unfold build?
  split
  · rename_i hmany
    constructor
    · nofun
    · exact fun hs ↦ absurd hmany (Nat.not_lt.mpr hs.permits)
  · rename_i hfew
    rw [Option.isSome_map, htable]
    constructor
    · rintro ⟨hpatterns, hapart⟩
      exact ⟨Nat.not_lt.mp hfew, hpatterns, fun path path' hpath ↦ hapart path hpath path'⟩
    · exact fun hs ↦ ⟨hs.patterns, fun path hpath path' ↦ hs.apart path path' hpath⟩

/-- A gateway before orders, with so many requests at once. -/
def ordersBehind (routes : List Config.Route) (most : UInt64) : Config where
  server := { maxConcurrentRequests := most }
  auth := { enabled := false }
  services := [{ name := "orders", address := "127.0.0.1:50052", routes }]

/-- A parameter beside literal text, and one of the same name in the same place. -/
theorem orders_start :
    let c := ordersBehind [⟨"GET", "/\x7bid\x7d", "OrderInfo"⟩,
      ⟨"DELETE", "/\x7bid\x7d", "DelOrder"⟩, ⟨"GET", "/all", "Orders"⟩] 1000
    c.accepted = true ∧ Startable c ∧
      (build? c (Registry.ofConfig c 0).services true .counted).isSome := by
  intro c
  have haccepted : c.accepted = true := by decide +kernel
  have hbuilt : (build? c (Registry.ofConfig c 0).services true .counted).isSome := by
    decide +kernel
  exact ⟨haccepted, (starts_iff_of_accepted haccepted 0 true .counted).mp hbuilt, hbuilt⟩

/-- A parameter with two names, a brace that is not closed, and more requests than can be counted:
all three are accepted. -/
theorem accepted_but_not_started :
    [ordersBehind [⟨"GET", "/\x7bid\x7d", "OrderInfo"⟩, ⟨"DELETE", "/\x7borderID\x7d", "DelOrder"⟩]
        1000,
      ordersBehind [⟨"GET", "/\x7bid", "OrderInfo"⟩] 1000,
      ordersBehind [⟨"GET", "/\x7bid\x7d", "OrderInfo"⟩] (.ofNat (maxPermits + 1))].all
        (fun c ↦ c.accepted &&
          (build? c (Registry.ofConfig c 0).services true .counted).isNone) = true := by
  decide +kernel

end Gateway

end RpcGateway
