import Mathlib.Data.List.Pairwise
import RpcGateway.Proofs.Config.Acceptance
import RpcGateway.Proofs.Routing.Tables

/-!
# Where services are mounted

The names of services are single segments, so services of different names have no path in common.
Routes of one service that differ in method or path are told apart too, the root of the service with
its two paths among them. Hence the routes of an accepted configuration make a table.
-/

namespace RpcGateway

open Calls

/-! ## The services of a configuration -/

/-- A service as the registry has it at first. -/
def Calls.Service.ofConfig (c : Config) (now : Time) (s : Config.Service) : Service where
  name := s.name
  breaker := Breaker.new c.circuitBreaker now
  routes := s.routes

/-- A service takes the place of none that has another name. -/
theorem Calls.Registry.services_register {r : Registry} {s : Service}
    (hnew : s.name ∉ r.services.map Service.name) :
    (r.register s).services = r.services ++ [s] := by
  have hkept : r.services.filter (fun t ↦ t.name ≠ s.name) = r.services := by
    rw [List.filter_eq_self]
    intro t ht
    exact decide_eq_true fun hsame ↦ hnew (hsame ▸ List.mem_map_of_mem ht)
  exact congrArg (· ++ [s]) hkept

/-- The registry has one service for each that is configured, in their order. -/
theorem Calls.Registry.services_ofConfig {c : Config} (now : Time)
    (hnames : (c.services.map Config.Service.name).Nodup) :
    (Registry.ofConfig c now).services = c.services.map (Service.ofConfig c now) := by
  suffices ∀ (r : Registry) (ss : List Config.Service),
      (r.services.map Service.name ++ ss.map Config.Service.name).Nodup →
        (ss.foldl (fun r s ↦ r.register (Service.ofConfig c now s)) r).services =
          r.services ++ ss.map (Service.ofConfig c now) from this {} c.services hnames
  intro r ss hnodup
  induction ss generalizing r with
  | nil => simp
  | cons s ss ih =>
    rw [List.map_cons, List.nodup_append_comm, List.cons_append, List.nodup_cons,
      List.mem_append, not_or] at hnodup
    have hregistered := Registry.services_register (s := Service.ofConfig c now s) hnodup.1.2
    rw [List.foldl_cons, ih, hregistered, List.append_assoc]
    · rfl
    · rw [hregistered, List.map_append, List.append_assoc, List.nodup_append_comm]
      simpa [List.nodup_append_comm, Service.ofConfig] using hnodup

namespace Gateway

/-- Services whose routes can be mounted side by side. -/
structure Mountable (services : List Service) : Prop where
  names : (services.map Service.name).Nodup
  segments : ∀ s ∈ services, '/' ∉ s.name.toList
  paths : ∀ s ∈ services, ∀ r ∈ s.routes, Config.startsWithSlash r.path = true
  keys : ∀ s ∈ services, (s.routes.map Config.Route.key).Nodup

theorem mountable_of_accepted {c : Config} (h : c.accepted = true) (now : Time) :
    Mountable (Registry.ofConfig c now).services := by
  obtain ⟨hformed, hnames⟩ := Config.services_of_accepted h
  rw [Registry.services_ofConfig now hnames]
  refine ⟨?_, ?_, ?_, ?_⟩
  · rw [List.map_map]
    exact hnames
  · exact List.forall_mem_map.mpr fun s hs ↦ (hformed s hs).segment
  · exact List.forall_mem_map.mpr fun s hs r hr ↦ ((hformed s hs).routes r hr).path
  · exact List.forall_mem_map.mpr fun s hs ↦ (hformed s hs).keys

namespace RouteTable

/-! ## Paths -/

/-- What a route adds to the path of its service. -/
def subpaths (path : String) : List String := if path = "/" then ["", "/"] else [path]

theorem fullPaths_eq (service path : String) :
    fullPaths service path = (subpaths path).map (mount service ++ ·) := by
  unfold fullPaths subpaths
  split <;> simp

/-- Of two texts without slashes, each with something behind it that begins with a slash if there is
anything, one can tell where they end. -/
theorem eq_of_append_eq_append {a b x y : List Char} (ha : '/' ∉ a) (hb : '/' ∉ b)
    (hx : ∀ c ∈ x.head?, c = '/') (hy : ∀ c ∈ y.head?, c = '/') (h : a ++ x = b ++ y) :
    a = b ∧ x = y := by
  induction a generalizing b with
  | nil =>
    cases b with
    | nil => exact ⟨rfl, h⟩
    | cons d b =>
      have hslash : d = '/' := hx d (by rw [← List.nil_append x, h]; rfl)
      exact absurd List.mem_cons_self (hslash ▸ hb)
  | cons c a ih =>
    cases b with
    | nil =>
      have hslash : c = '/' := hy c (by rw [← List.nil_append y, ← h]; rfl)
      exact absurd List.mem_cons_self (hslash ▸ ha)
    | cons d b =>
      obtain ⟨rfl, hrest⟩ := List.cons.inj h
      obtain ⟨rfl, hsame⟩ := ih (List.not_mem_of_not_mem_cons ha) (List.not_mem_of_not_mem_cons hb)
        hrest
      exact ⟨rfl, hsame⟩

theorem mem_subpaths_iff {path q : String} :
    q ∈ subpaths path ↔ q = path ∨ (path = "/" ∧ q = "") := by
  unfold subpaths
  split
  · rename_i hroot
    subst hroot
    simp [or_comm]
  · rename_i hother
    simp [hother]

theorem head?_of_mem_subpaths {path q : String} (h : Config.startsWithSlash path = true)
    (hq : q ∈ subpaths path) : ∀ c ∈ q.toList.head?, c = '/' := by
  obtain rfl | ⟨-, rfl⟩ := mem_subpaths_iff.mp hq
  · rw [eq_of_beq h]
    rintro c ⟨⟩
    rfl
  · nofun

theorem eq_of_mem_subpaths {path path' q : String} (h : Config.startsWithSlash path = true)
    (h' : Config.startsWithSlash path' = true) (hq : q ∈ subpaths path) (hq' : q ∈ subpaths path') :
    path = path' := by
  have hempty : Config.startsWithSlash "" = false := by decide
  obtain rfl | ⟨rfl, rfl⟩ := mem_subpaths_iff.mp hq
  · obtain rfl | ⟨-, rfl⟩ := mem_subpaths_iff.mp hq'
    · rfl
    · exact absurd (h.symm.trans hempty) nofun
  · obtain rfl | ⟨rfl, -⟩ := mem_subpaths_iff.mp hq'
    · exact absurd (h'.symm.trans hempty) nofun
    · rfl

/-- A path belongs to one route of one service. -/
theorem eq_of_mem_fullPaths {service service' path path' p : String}
    (hs : '/' ∉ service.toList) (hs' : '/' ∉ service'.toList)
    (h : Config.startsWithSlash path = true) (h' : Config.startsWithSlash path' = true)
    (hp : p ∈ fullPaths service path) (hp' : p ∈ fullPaths service' path') :
    service = service' ∧ path = path' := by
  rw [fullPaths_eq, List.mem_map] at hp hp'
  obtain ⟨q, hq, rfl⟩ := hp
  obtain ⟨q', hq', hsame⟩ := hp'
  have hlists : service.toList ++ q.toList = service'.toList ++ q'.toList := by
    simpa [mount] using congrArg String.toList hsame.symm
  obtain ⟨hname, hrest⟩ := eq_of_append_eq_append hs hs' (head?_of_mem_subpaths h hq)
    (head?_of_mem_subpaths h' hq') hlists
  refine ⟨String.toList_injective hname, eq_of_mem_subpaths h h' hq ?_⟩
  rwa [String.toList_injective hrest]

theorem nodup_fullPaths (service path : String) : (fullPaths service path).Nodup := by
  rw [fullPaths_eq]
  refine List.Nodup.map (fun p q hsame ↦ ?_) ?_
  · have hlists := congrArg String.toList hsame
    simp only [String.toList_append, List.append_cancel_left_eq] at hlists
    exact String.toList_injective hlists
  · unfold subpaths
    split <;> simp

/-! ## Mountings -/

theorem mem_routeMountings_iff {service : String} {r : Config.Route} {m : Mounting} :
    m ∈ routeMountings service r ↔ Text.upper r.method ∈ Endpoint.supportedMethods ∧
      m.path ∈ fullPaths service r.path ∧ m.method = Text.upper r.method ∧
        m.handler = .forward service r.operation := by
  unfold routeMountings
  dsimp only
  split
  · rename_i hsupported
    have hmem : Text.upper r.method ∈ Endpoint.supportedMethods :=
      List.contains_iff_mem.mp hsupported
    rw [List.mem_map]
    constructor
    · rintro ⟨p, hp, rfl⟩
      exact ⟨hmem, hp, rfl, rfl⟩
    · rintro ⟨-, hpath, hmethod, hhandler⟩
      exact ⟨m.path, hpath, by rw [← hmethod, ← hhandler]⟩
  · rename_i hnot
    have hmem : Text.upper r.method ∉ Endpoint.supportedMethods := fun hmem ↦
      hnot (List.contains_iff_mem.mpr hmem)
    simp [hmem]

theorem mem_serviceMountings_iff {s : Service} {m : Mounting} :
    m ∈ serviceMountings s ↔ ∃ r ∈ s.routes, m ∈ routeMountings s.name r :=
  List.mem_flatMap

theorem mem_mountings_iff {services : List Service} {m : Mounting} :
    m ∈ mountings services ↔ ∃ s ∈ services, ∃ r ∈ s.routes, m ∈ routeMountings s.name r := by
  simp only [mountings, List.mem_flatMap, mem_serviceMountings_iff]

theorem nodup_routeMountings (service : String) (r : Config.Route) :
    ((routeMountings service r).map Mounting.key).Nodup := by
  unfold routeMountings
  dsimp only
  split
  · rw [List.map_map]
    exact (nodup_fullPaths service r.path).map fun p q hsame ↦ congrArg Prod.fst hsame
  · exact List.nodup_nil

/-- Mountings that share path and method come from routes that share path and method, of one
service. -/
theorem eq_of_key_eq {services : List Service} (h : Mountable services) {s s' : Service}
    (hs : s ∈ services) (hs' : s' ∈ services) {r r' : Config.Route} (hr : r ∈ s.routes)
    (hr' : r' ∈ s'.routes) {m m' : Mounting} (hm : m ∈ routeMountings s.name r)
    (hm' : m' ∈ routeMountings s'.name r') (hkey : m.key = m'.key) :
    s.name = s'.name ∧ r.key = r'.key := by
  obtain ⟨-, hpath, hmethod, -⟩ := mem_routeMountings_iff.mp hm
  obtain ⟨-, hpath', hmethod', -⟩ := mem_routeMountings_iff.mp hm'
  obtain ⟨hsamePath, hsameMethod⟩ := Prod.mk.inj hkey
  rw [← hsamePath] at hpath'
  obtain ⟨hname, hroute⟩ := eq_of_mem_fullPaths (h.segments s hs) (h.segments s' hs')
    (h.paths s hs r hr) (h.paths s' hs' r' hr') hpath hpath'
  refine ⟨hname, Prod.ext ?_ hroute⟩
  calc
    Text.upper r.method = m.method := hmethod.symm
    _ = m'.method := hsameMethod
    _ = Text.upper r'.method := hmethod'

/-- No two mountings of services are for one path and method. -/
theorem nodup_mountings {services : List Service} (h : Mountable services) :
    ((mountings services).map Mounting.key).Nodup := by
  have hservice (s : Service) (hs : s ∈ services) :
      ((serviceMountings s).map Mounting.key).Nodup := by
    rw [serviceMountings, List.map_flatMap, List.nodup_flatMap]
    refine ⟨fun r _ ↦ nodup_routeMountings s.name r, ?_⟩
    refine (List.pairwise_map.mp (h.keys s hs)).imp_of_mem fun {r r'} hr hr' hne ↦ ?_
    rintro key hkey hkey'
    obtain ⟨m, hm, rfl⟩ := List.mem_map.mp hkey
    obtain ⟨m', hm', hsame⟩ := List.mem_map.mp hkey'
    exact hne (eq_of_key_eq h hs hs hr hr' hm hm' hsame.symm).2
  rw [mountings, List.map_flatMap, List.nodup_flatMap]
  refine ⟨hservice, ?_⟩
  refine (List.pairwise_map.mp h.names).imp_of_mem fun {s s'} hs hs' hne ↦ ?_
  rintro key hkey hkey'
  obtain ⟨m, hm, rfl⟩ := List.mem_map.mp hkey
  obtain ⟨m', hm', hsame⟩ := List.mem_map.mp hkey'
  obtain ⟨r, hr, hm⟩ := mem_serviceMountings_iff.mp hm
  obtain ⟨r', hr', hm'⟩ := mem_serviceMountings_iff.mp hm'
  exact hne (eq_of_key_eq h hs hs' hr hr' hm hm' hsame.symm).1

/-- The handlers of services that can be mounted side by side: each at its path for its method, and
no others. -/
theorem exists_backendRoutes {services : List Service} (h : Mountable services) :
    ∃ table, backendRoutes? services = some table ∧ (table.map Prod.fst).Nodup ∧
      (∀ path, path ∈ table.map Prod.fst ↔ path ∈ (mountings services).map Mounting.path) ∧
      ∀ path method handler, handlerAt? table path method = some handler ↔
        ⟨path, method, handler⟩ ∈ mountings services := by
  have hsome : (mountAll? [] (mountings services)).isSome :=
    mountAll?_isSome_iff.mpr ⟨nodup_mountings h, fun _ _ ↦ rfl⟩
  obtain ⟨table, htable⟩ := Option.isSome_iff_exists.mp hsome
  refine ⟨table, (backendRoutes?_eq services).trans htable, ?_, fun path ↦ ?_,
    fun path method handler ↦ ?_⟩
  · exact nodup_paths_of_mountAll? htable List.nodup_nil
  · simpa using mem_paths_of_mountAll? htable
  · simpa [handlerAt?] using handlerAt?_eq_some_iff_of_mountAll? htable

end RouteTable

end Gateway

end RpcGateway
