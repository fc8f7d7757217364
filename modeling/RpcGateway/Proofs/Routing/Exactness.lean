import Mathlib.Data.List.Nodup
import RpcGateway.Proofs.Routing.Mountings

/-!
# The table of a registry

A registry has one service of a name, and goes through its services in an order of its own. A path
belongs to one service, so the table does not show that order: a path has the handlers of the routes
that its service has there. It has them in the order of these routes, which is what is left of the
order of the routes, and which a client sees when the methods of the path are listed.
-/

namespace RpcGateway

open Calls

/-! ## Registries -/

/-- Only one service of a name stays. -/
theorem Calls.Registry.nodup_names_register {r : Registry} (h : r.names.Nodup) (s : Service) :
    (r.register s).names.Nodup := by
  have hothers : ∀ name ∈ (r.services.filter fun t ↦ t.name ≠ s.name).map Service.name,
      name ≠ s.name := by
    rintro name hname
    obtain ⟨t, ht, rfl⟩ := List.mem_map.mp hname
    exact of_decide_eq_true (List.mem_filter.mp ht).2
  have hkept : ((r.services.filter fun t ↦ t.name ≠ s.name).map Service.name).Nodup :=
    List.Nodup.sublist (List.filter_sublist.map _) h
  simp only [names, register, List.map_append, List.map_cons, List.map_nil]
  exact hkept.append (List.nodup_singleton _)
    (List.disjoint_singleton.mpr fun hmem ↦ hothers _ hmem rfl)

theorem Calls.Registry.nodup_names_foldl_register {r : Registry} (h : r.names.Nodup)
    (registered : List Service) : (registered.foldl register r).names.Nodup := by
  induction registered generalizing r with
  | nil => exact h
  | cons s registered ih => exact ih (nodup_names_register h s)

namespace Gateway

/-- The same services in whatever order, each with the same routes in whatever order. -/
structure Reordered (services services' : List Service) : Prop where
  names : (services.map Service.name).Perm (services'.map Service.name)
  routes : ∀ s ∈ services, ∀ t ∈ services', s.name = t.name → s.routes.Perm t.routes

namespace Reordered

variable {services services' : List Service}

theorem symm (h : Reordered services services') : Reordered services' services :=
  ⟨h.names.symm, fun s hs t ht hname ↦ (h.routes t ht s hs hname.symm).symm⟩

theorem exists_service (h : Reordered services services') {s : Service} (hs : s ∈ services) :
    ∃ t ∈ services', s.name = t.name ∧ s.routes.Perm t.routes := by
  obtain ⟨t, ht, hname⟩ := List.mem_map.mp (h.names.mem_iff.mp (List.mem_map_of_mem hs))
  exact ⟨t, ht, hname.symm, h.routes s hs t ht hname.symm⟩

theorem mountable (h : Reordered services services') (hmountable : Mountable services) :
    Mountable services' where
  names := h.names.nodup_iff.mp hmountable.names
  segments := by
    intro t ht
    obtain ⟨s, hs, hname, -⟩ := h.symm.exists_service ht
    exact hname ▸ hmountable.segments s hs
  paths := by
    intro t ht r hr
    obtain ⟨s, hs, -, hroutes⟩ := h.symm.exists_service ht
    exact hmountable.paths s hs r (hroutes.mem_iff.mp hr)
  keys := by
    intro t ht
    obtain ⟨s, hs, -, hroutes⟩ := h.symm.exists_service ht
    exact (hroutes.map _).nodup_iff.mpr (hmountable.keys s hs)

theorem mem_mountings (h : Reordered services services') {m : Mounting}
    (hm : m ∈ RouteTable.mountings services) : m ∈ RouteTable.mountings services' := by
  obtain ⟨s, hs, r, hr, hm⟩ := RouteTable.mem_mountings_iff.mp hm
  obtain ⟨t, ht, hname, hroutes⟩ := h.exists_service hs
  exact RouteTable.mem_mountings_iff.mpr ⟨t, ht, r, hroutes.mem_iff.mp hr, hname ▸ hm⟩

theorem mem_mountings_iff (h : Reordered services services') {m : Mounting} :
    m ∈ RouteTable.mountings services ↔ m ∈ RouteTable.mountings services' :=
  ⟨h.mem_mountings, h.symm.mem_mountings⟩

end Reordered

/-- Services are the same in another order if no two share a name. -/
theorem Mountable.reordered {services services' : List Service} (h : Mountable services)
    (hperm : services.Perm services') : Reordered services services' where
  names := hperm.map _
  routes := by
    intro s hs t ht hname
    rw [List.inj_on_of_nodup_map h.names hs (hperm.mem_iff.mpr ht) hname]

namespace RouteTable

variable {table table' : List (String × Endpoint)} {ms : List Mounting} {path method : String}
  {h : Handler} {services services' : List Service}

/-! ## Endpoints -/

/-- The handlers of a path, none if the table does not have it. -/
def endpointAt (table : List (String × Endpoint)) (path : String) : Endpoint :=
  ((table.find? fun e ↦ e.1 = path).map Prod.snd).getD []

theorem endpointAt_cons_self (e : Endpoint) (table : List (String × Endpoint)) :
    endpointAt ((path, e) :: table) path = e := by
  simp [endpointAt]

theorem endpointAt_cons_of_ne {p : String} (hne : p ≠ path) (e : Endpoint)
    (table : List (String × Endpoint)) :
    endpointAt ((p, e) :: table) path = endpointAt table path := by
  simp [endpointAt, hne]

/-- A path of a table without repeated paths has one endpoint. -/
theorem mem_iff_endpointAt (hnodup : (table.map Prod.fst).Nodup) {e : Endpoint} :
    (path, e) ∈ table ↔ path ∈ table.map Prod.fst ∧ e = endpointAt table path := by
  induction table with
  | nil => simp
  | cons entry table ih =>
    obtain ⟨p, e'⟩ := entry
    rw [List.map_cons, List.nodup_cons] at hnodup
    rw [List.mem_cons, ih hnodup.2, List.map_cons, List.mem_cons, Prod.mk.injEq]
    by_cases hp : p = path
    · subst hp
      simp [endpointAt_cons_self, hnodup.1]
    · rw [endpointAt_cons_of_ne hp]
      simp [Ne.symm hp]

/-- What has been added stands last at its path. -/
theorem endpointAt_of_add? (hadd : add? table path method h = some table') (p : String) :
    endpointAt table' p = endpointAt table p ++ if path = p then [(method, h)] else [] := by
  induction table generalizing table' with
  | nil =>
    cases hadd
    by_cases hp : path = p
    · subst hp
      rw [endpointAt_cons_self, if_pos rfl]
      rfl
    · rw [endpointAt_cons_of_ne hp, if_neg hp, List.append_nil]
  | cons entry table ih =>
    obtain ⟨q, e⟩ := entry
    unfold add? at hadd
    by_cases hq : q = path
    · subst hq
      rw [if_pos rfl] at hadd
      split at hadd
      · cases hadd
      cases hadd
      by_cases hp : q = p
      · subst hp
        rw [endpointAt_cons_self, endpointAt_cons_self, if_pos rfl]
      · rw [endpointAt_cons_of_ne hp, endpointAt_cons_of_ne hp, if_neg hp, List.append_nil]
    · rw [if_neg hq] at hadd
      obtain ⟨rest, hrest, rfl⟩ := Option.map_eq_some_iff.mp hadd
      by_cases hp : q = p
      · subst hp
        rw [endpointAt_cons_self, endpointAt_cons_self, if_neg (Ne.symm hq), List.append_nil]
      · rw [endpointAt_cons_of_ne hp, endpointAt_cons_of_ne hp, ih hrest]

/-- What is mounted at a path, in its order. -/
def handlersAt (path : String) (ms : List Mounting) : Endpoint :=
  (ms.filter fun m ↦ m.path = path).map fun m ↦ (m.method, m.handler)

theorem handlersAt_cons (m : Mounting) (ms : List Mounting) : handlersAt path (m :: ms) =
    (if m.path = path then [(m.method, m.handler)] else []) ++ handlersAt path ms := by
  unfold handlersAt
  by_cases hpath : m.path = path <;> simp [hpath]

theorem handlersAt_flatMap {α : Type} (f : α → List Mounting) (as : List α) :
    handlersAt path (as.flatMap f) = as.flatMap fun a ↦ handlersAt path (f a) := by
  unfold handlersAt
  rw [List.filter_flatMap, List.map_flatMap]

theorem endpointAt_of_mountAll? (hall : mountAll? table ms = some table') :
    endpointAt table' path = endpointAt table path ++ handlersAt path ms := by
  induction ms generalizing table with
  | nil =>
    cases hall
    exact (List.append_nil _).symm
  | cons m ms ih =>
    rw [mountAll?_cons] at hall
    obtain ⟨middle, hadd, hrest⟩ := Option.bind_eq_some_iff.mp hall
    rw [ih hrest, endpointAt_of_add? hadd, handlersAt_cons, List.append_assoc]

/-- A table has the paths of what has been mounted, each with what has been mounted there. -/
theorem mem_iff_of_mountAll? (hall : mountAll? [] ms = some table) {e : Endpoint} :
    (path, e) ∈ table ↔ path ∈ ms.map Mounting.path ∧ e = handlersAt path ms := by
  rw [mem_iff_endpointAt (nodup_paths_of_mountAll? hall List.nodup_nil),
    mem_paths_of_mountAll? hall, endpointAt_of_mountAll? hall]
  simp [endpointAt]

/-! ## Entries -/

/-- The handlers of a table, each with its path and its method. -/
def entries (table : List (String × Endpoint)) : List Mounting :=
  table.flatMap fun e ↦ e.2.map fun h ↦ ⟨e.1, h.1, h.2⟩

theorem entries_cons (e : String × Endpoint) (table : List (String × Endpoint)) :
    entries (e :: table) = (e.2.map fun h ↦ ⟨e.1, h.1, h.2⟩) ++ entries table :=
  List.flatMap_cons

theorem entries_of_add? (hadd : add? table path method h = some table') :
    (entries table').Perm (⟨path, method, h⟩ :: entries table) := by
  induction table generalizing table' with
  | nil =>
    cases hadd
    exact List.Perm.refl _
  | cons entry table ih =>
    obtain ⟨p, e⟩ := entry
    unfold add? at hadd
    by_cases hp : p = path
    · subst hp
      rw [if_pos rfl] at hadd
      split at hadd
      · cases hadd
      cases hadd
      rw [entries_cons, entries_cons, List.map_append, List.append_assoc]
      exact List.perm_middle
    · rw [if_neg hp] at hadd
      obtain ⟨rest, hrest, rfl⟩ := Option.map_eq_some_iff.mp hadd
      rw [entries_cons, entries_cons]
      exact ((ih hrest).append_left _).trans List.perm_middle

/-- A table has each mounting once, and nothing else. -/
theorem entries_of_mountAll? (hall : mountAll? table ms = some table') :
    (entries table').Perm (entries table ++ ms) := by
  induction ms generalizing table with
  | nil =>
    cases hall
    rw [List.append_nil]
  | cons m ms ih =>
    rw [mountAll?_cons] at hall
    obtain ⟨middle, hadd, hrest⟩ := Option.bind_eq_some_iff.mp hall
    exact (ih hrest).trans (((entries_of_add? hadd).append_right ms).trans List.perm_middle.symm)

/-! ## The paths of a service -/

/-- What a service has at one of the paths of its routes, in the order of the routes. -/
def serviceEndpoint (s : Service) (path : String) : Endpoint :=
  (s.routes.filter fun r ↦ r.path = path ∧ Text.upper r.method ∈ Endpoint.supportedMethods).map
    fun r ↦ (Text.upper r.method, .forward s.name r.operation)

theorem serviceEndpoint_perm {s t : Service} (hname : s.name = t.name)
    (hroutes : s.routes.Perm t.routes) :
    (serviceEndpoint s path).Perm (serviceEndpoint t path) := by
  unfold serviceEndpoint
  rw [hname]
  exact (hroutes.filter _).map _

theorem handlersAt_eq_nil (hnone : ∀ m ∈ ms, m.path ≠ path) : handlersAt path ms = [] := by
  unfold handlersAt
  rw [List.filter_eq_nil_iff.mpr fun m hm ↦ by simpa using hnone m hm, List.map_nil]

/-- A route stands once at each of its paths if it has a method that a route may have. -/
theorem handlersAt_routeMountings {service : String} {r : Config.Route}
    (hpath : path ∈ fullPaths service r.path) : handlersAt path (routeMountings service r) =
      if Text.upper r.method ∈ Endpoint.supportedMethods then
        [(Text.upper r.method, .forward service r.operation)]
      else [] := by
  have honce : (fullPaths service r.path).filter (fun p ↦ p = path) = [path] := by
    rw [List.filter_eq, List.count_eq_one_of_mem (nodup_fullPaths service r.path) hpath]
    rfl
  unfold routeMountings
  simp only [List.contains_iff_mem]
  split
  · simp only [handlersAt, List.filter_map, Function.comp_def, honce, List.map_cons, List.map_nil]
  · rfl

theorem handlersAt_serviceMountings {s : Service} {route : String} (hsegment : '/' ∉ s.name.toList)
    (hroutes : ∀ r ∈ s.routes, Config.startsWithSlash r.path = true)
    (hroute : Config.startsWithSlash route = true) (hpath : path ∈ fullPaths s.name route) :
    handlersAt path (serviceMountings s) = serviceEndpoint s route := by
  unfold serviceMountings serviceEndpoint
  rw [handlersAt_flatMap]
  generalize s.routes = routes at hroutes ⊢
  induction routes with
  | nil => rfl
  | cons r rs ih =>
    rw [List.forall_mem_cons] at hroutes
    rw [List.flatMap_cons, ih hroutes.2]
    by_cases hsame : r.path = route
    · rw [handlersAt_routeMountings (hsame ▸ hpath)]
      by_cases hmethod : Text.upper r.method ∈ Endpoint.supportedMethods <;> simp [hsame, hmethod]
    · -- A route with another path has none of its mountings here.
      rw [handlersAt_eq_nil, List.nil_append, List.filter_cons_of_neg]
      · simp [hsame]
      · intro m hm hmpath
        have hother := (mem_routeMountings_iff.mp hm).2.1
        rw [hmpath] at hother
        exact hsame (eq_of_mem_fullPaths hsegment hsegment hroutes.1 hroute hother hpath).2

/-- A path has what the one service has there of whose routes it is a path. -/
theorem handlersAt_mountings (h : Mountable services) {s : Service} (hs : s ∈ services)
    {r : Config.Route} (hr : r ∈ s.routes) (hpath : path ∈ fullPaths s.name r.path) :
    handlersAt path (mountings services) = serviceEndpoint s r.path := by
  have hothers : ∀ t ∈ services, t ≠ s → handlersAt path (serviceMountings t) = [] := by
    intro t ht hne
    refine handlersAt_eq_nil fun m hm hmpath ↦ hne ?_
    obtain ⟨q, hq, hm⟩ := mem_serviceMountings_iff.mp hm
    have hother := (mem_routeMountings_iff.mp hm).2.1
    rw [hmpath] at hother
    exact List.inj_on_of_nodup_map h.names ht hs (eq_of_mem_fullPaths (h.segments t ht)
      (h.segments s hs) (h.paths t ht q hq) (h.paths s hs r hr) hother hpath).1
  have hnodup : services.Nodup := h.names.of_map
  rw [mountings, handlersAt_flatMap,
    ← handlersAt_serviceMountings (h.segments s hs) (h.paths s hs) (h.paths s hs r hr) hpath]
  -- The service is listed once, and those around it mount nothing at the path.
  obtain ⟨before, after, rfl⟩ := List.append_of_mem hs
  rw [List.nodup_middle, List.nodup_cons, List.mem_append, not_or] at hnodup
  have hbefore : before.flatMap (fun t ↦ handlersAt path (serviceMountings t)) = [] :=
    List.flatMap_eq_nil_iff.mpr fun t ht ↦
      hothers t (List.mem_append_left _ ht) (ne_of_mem_of_not_mem ht hnodup.1.1)
  have hafter : after.flatMap (fun t ↦ handlersAt path (serviceMountings t)) = [] :=
    List.flatMap_eq_nil_iff.mpr fun t ht ↦
      hothers t (List.mem_append_right _ (List.mem_cons_of_mem _ ht))
        (ne_of_mem_of_not_mem ht hnodup.1.2)
  rw [List.flatMap_append, List.flatMap_cons, hbefore, hafter, List.nil_append, List.append_nil]

/-- The paths of a table are those of the routes of its services, each with what its service has
there. -/
theorem mem_iff_of_backendRoutes? (h : Mountable services)
    (htable : backendRoutes? services = some table) {e : Endpoint} :
    (path, e) ∈ table ↔ ∃ s ∈ services, ∃ r ∈ s.routes,
      Text.upper r.method ∈ Endpoint.supportedMethods ∧ path ∈ fullPaths s.name r.path ∧
        e = serviceEndpoint s r.path := by
  rw [backendRoutes?_eq] at htable
  rw [mem_iff_of_mountAll? htable, List.mem_map]
  constructor
  · rintro ⟨⟨m, hm, rfl⟩, rfl⟩
    obtain ⟨s, hs, r, hr, hm⟩ := mem_mountings_iff.mp hm
    obtain ⟨hmethod, hpath, -⟩ := mem_routeMountings_iff.mp hm
    exact ⟨s, hs, r, hr, hmethod, hpath, handlersAt_mountings h hs hr hpath⟩
  · rintro ⟨s, hs, r, hr, hmethod, hpath, rfl⟩
    refine ⟨⟨⟨path, Text.upper r.method, .forward s.name r.operation⟩, ?_, rfl⟩,
      (handlersAt_mountings h hs hr hpath).symm⟩
    refine mem_mountings_iff.mpr ⟨s, hs, r, hr, ?_⟩
    exact mem_routeMountings_iff.mpr ⟨hmethod, hpath, rfl, rfl⟩

/-! ## Other orders -/

/-- The order of the services is not seen in their table. -/
theorem backendRoutes?_perm (h : Mountable services) (hperm : services.Perm services')
    (htable : backendRoutes? services = some table) :
    ∃ table', backendRoutes? services' = some table' ∧ table.Perm table' := by
  have h' : Mountable services' := (h.reordered hperm).mountable h
  obtain ⟨table', htable', hnodup', -⟩ := exists_backendRoutes h'
  have hnodup : (table.map Prod.fst).Nodup :=
    nodup_paths_of_mountAll? ((backendRoutes?_eq services).symm.trans htable) List.nodup_nil
  refine ⟨table', htable', (List.perm_ext_iff_of_nodup hnodup.of_map hnodup'.of_map).mpr ?_⟩
  rintro ⟨path, e⟩
  rw [mem_iff_of_backendRoutes? h htable, mem_iff_of_backendRoutes? h' htable']
  exact exists_congr fun s ↦ and_congr_left' hperm.mem_iff

/-- The order of the routes is seen only in the order of the handlers of one path. -/
theorem backendRoutes?_reordered (h : Mountable services) (hsame : Reordered services services')
    (htable : backendRoutes? services = some table) :
    ∃ table', backendRoutes? services' = some table' ∧
      (table.map Prod.fst).Perm (table'.map Prod.fst) ∧
      (∀ path method, handlerAt? table path method = handlerAt? table' path method) ∧
      ∀ path e, (path, e) ∈ table → ∃ e', (path, e') ∈ table' ∧ e.Perm e' := by
  have h' : Mountable services' := hsame.mountable h
  obtain ⟨table₁, htable₁, hnodup, hpaths, hhandlers⟩ := exists_backendRoutes h
  obtain ⟨table', htable', hnodup', hpaths', hhandlers'⟩ := exists_backendRoutes h'
  obtain rfl := Option.some_inj.mp (htable.symm.trans htable₁)
  refine ⟨table', htable', ?_, fun path method ↦ ?_, fun path e he ↦ ?_⟩
  · refine (List.perm_ext_iff_of_nodup hnodup hnodup').mpr fun path ↦ ?_
    rw [hpaths, hpaths', List.mem_map, List.mem_map]
    exact exists_congr fun m ↦ and_congr_left' hsame.mem_mountings_iff
  · refine Option.ext fun handler ↦ ?_
    rw [hhandlers, hhandlers', hsame.mem_mountings_iff]
  · obtain ⟨s, hs, r, hr, hmethod, hpath, rfl⟩ := (mem_iff_of_backendRoutes? h htable).mp he
    obtain ⟨t, ht, hname, hroutes⟩ := hsame.exists_service hs
    refine ⟨serviceEndpoint t r.path, ?_, serviceEndpoint_perm hname hroutes⟩
    exact (mem_iff_of_backendRoutes? h' htable').mpr
      ⟨t, ht, r, hroutes.mem_iff.mp hr, hmethod, hname ▸ hpath, rfl⟩

/-- The table of a registry, in whatever order it goes through its services, has a handler for each
route with a method that a route may have, at each path of the route, under its method in capitals,
and nothing else. No path belongs to two services. Another order of the services makes no
difference; another order of the routes of a service makes one only for the order in which a path
has its methods, which is that of the routes. -/
theorem table_exact {registered services : List Service}
    (hregistry : services.Perm (registered.foldl Registry.register {}).services)
    (hsegments : ∀ s ∈ services, '/' ∉ s.name.toList)
    (hpaths : ∀ s ∈ services, ∀ r ∈ s.routes, Config.startsWithSlash r.path = true)
    (hkeys : ∀ s ∈ services, (s.routes.map Config.Route.key).Nodup) :
    ∃ table, backendRoutes? services = some table ∧ (table.map Prod.fst).Nodup ∧
      ((entries table).map Mounting.key).Nodup ∧
      (∀ path method handler, ⟨path, method, handler⟩ ∈ entries table ↔
        ∃ s ∈ services, ∃ r ∈ s.routes, Text.upper r.method ∈ Endpoint.supportedMethods ∧
          path ∈ fullPaths s.name r.path ∧ method = Text.upper r.method ∧
            handler = .forward s.name r.operation) ∧
      (∀ path e, (path, e) ∈ table ↔
        ∃ s ∈ services, ∃ r ∈ s.routes, Text.upper r.method ∈ Endpoint.supportedMethods ∧
          path ∈ fullPaths s.name r.path ∧ e = serviceEndpoint s r.path) ∧
      (∀ s ∈ services, ∀ t ∈ services, s.name ≠ t.name → ∀ r ∈ s.routes, ∀ q ∈ t.routes,
        (fullPaths s.name r.path).Disjoint (fullPaths t.name q.path)) ∧
      (∀ services', services.Perm services' →
        ∃ table', backendRoutes? services' = some table' ∧ table.Perm table') ∧
      ∀ services', Reordered services services' →
        ∃ table', backendRoutes? services' = some table' ∧
          (table.map Prod.fst).Perm (table'.map Prod.fst) ∧
          (∀ path method, handlerAt? table path method = handlerAt? table' path method) ∧
          ∀ path e, (path, e) ∈ table → ∃ e', (path, e') ∈ table' ∧ e.Perm e' := by
  have hnames : (services.map Service.name).Nodup :=
    (hregistry.map _).nodup_iff.mpr
      (Registry.nodup_names_foldl_register (r := {}) List.nodup_nil registered)
  have h : Mountable services := ⟨hnames, hsegments, hpaths, hkeys⟩
  obtain ⟨table, htable, hnodup, -⟩ := exists_backendRoutes h
  have hentries : (entries table).Perm (mountings services) :=
    entries_of_mountAll? ((backendRoutes?_eq services).symm.trans htable)
  refine ⟨table, htable, hnodup, ?_, fun path method handler ↦ ?_, fun path e ↦ ?_,
    fun s hs t ht hne r hr q hq path hpath hpath' ↦ ?_,
    fun services' hperm ↦ backendRoutes?_perm h hperm htable,
    fun services' hsame ↦ backendRoutes?_reordered h hsame htable⟩
  · exact (hentries.map _).nodup_iff.mpr (nodup_mountings h)
  · simp only [hentries.mem_iff, mem_mountings_iff, mem_routeMountings_iff]
  · exact mem_iff_of_backendRoutes? h htable
  · exact hne (eq_of_mem_fullPaths (hsegments s hs) (hsegments t ht) (hpaths s hs r hr)
      (hpaths t ht q hq) hpath hpath').1

/-- The services of a registry that has just one, with such routes. -/
def itemsWith (routes : List Config.Route) : List Service :=
  (Registry.register {} { name := "items", breaker := Breaker.new {} 0, routes }).services

/-- A route to the root, one with a method that no route may have, and another service, which the
registry happens to come to first. -/
theorem items_and_users_table :
    let items := itemsWith [⟨"get", "/", "ListItems"⟩, ⟨"PURGE", "/", "PurgeItems"⟩]
    let users := [⟨"users", Breaker.new {} 0, .echoing, [⟨"GET", "/me", "Me"⟩]⟩]
    let services := ((items ++ users).foldl Registry.register {}).services.reverse
    ∃ table, backendRoutes? services = some table ∧
      ⟨"/api/items/", "GET", .forward "items" "ListItems"⟩ ∈ entries table ∧
      ⟨"/api/users/me", "GET", .forward "users" "Me"⟩ ∈ entries table ∧
      ∀ path handler, ⟨path, "PURGE", handler⟩ ∉ entries table := by
  intro items users services
  obtain ⟨table, htable, -, -, hentries, -⟩ := table_exact (List.reverse_perm _)
    (show ∀ s ∈ services, '/' ∉ s.name.toList by decide +kernel) (by decide +kernel)
    (by decide +kernel)
  refine ⟨table, htable, ?_, ?_, fun path handler hmem ↦ ?_⟩
  · rw [hentries]
    decide +kernel
  · rw [hentries]
    decide +kernel
  · obtain ⟨s, -, r, -, hmethod, -, hpurge, -⟩ := (hentries _ _ _).mp hmem
    rw [← hpurge] at hmethod
    exact absurd hmethod (by decide)

/-- The routes of a service in two orders: the methods of their path are listed in two orders. -/
theorem methods_follow_routes :
    let first := itemsWith [⟨"GET", "/all", "ListItems"⟩, ⟨"POST", "/all", "AddItem"⟩]
    let second := itemsWith [⟨"POST", "/all", "AddItem"⟩, ⟨"GET", "/all", "ListItems"⟩]
    Mountable first ∧ Reordered first second ∧
      (backendRoutes? first).map (List.map fun e ↦ (e.1, e.2.allowed)) =
        some [("/api/items/all", ["GET", "HEAD", "POST"])] ∧
      (backendRoutes? second).map (List.map fun e ↦ (e.1, e.2.allowed)) =
        some [("/api/items/all", ["POST", "GET", "HEAD"])] := by
  intro first second
  have hmountable : Mountable first :=
    ⟨by decide +kernel, by decide +kernel, by decide +kernel, by decide +kernel⟩
  have hreordered : Reordered first second := by
    refine ⟨List.Perm.refl _, fun s hs t ht _ ↦ ?_⟩
    obtain rfl := List.mem_singleton.mp hs
    obtain rfl := List.mem_singleton.mp ht
    exact List.Perm.swap _ _ _
  exact ⟨hmountable, hreordered, by decide +kernel, by decide +kernel⟩

end RouteTable

end Gateway

end RpcGateway
