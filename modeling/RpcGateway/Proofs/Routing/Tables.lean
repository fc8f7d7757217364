import Mathlib.Data.List.Nodup
import RpcGateway.Gateway.RouteTable

/-!
# What a route table holds

The routes of all services come to a list of mountings: a handler at a path for a method. They make
a table exactly if no two of them have path and method in common, and then the table has these
handlers and no others, whatever their order.
-/

namespace RpcGateway.Gateway

open Http Calls

/-- A handler at a path, for a method. -/
structure Mounting where
  path : String
  method : String
  handler : Handler
deriving DecidableEq

/-- What no two mountings may have in common. -/
def Mounting.key (m : Mounting) : String × String := (m.path, m.method)

namespace Endpoint

variable {method : String} {h : Handler}

theorem own?_append (e : Endpoint) (method' : String) :
    own? (e ++ [(method, h)]) method' =
      (own? e method').or (if method = method' then some h else none) := by
  unfold own?
  rw [List.find?_append, List.find?_singleton]
  cases List.find? (fun h ↦ h.1 = method') e with
  | some _ => rfl
  | none => by_cases hsame : method = method' <;> simp [hsame]

end Endpoint

namespace RouteTable

variable {table table' : List (String × Endpoint)} {ms : List Mounting} {path method : String}
  {h : Handler}

/-- The handler of a path for a method. -/
def handlerAt? (table : List (String × Endpoint)) (path method : String) : Option Handler :=
  ((table.find? fun e ↦ e.1 = path).map Prod.snd).bind (Endpoint.own? · method)

/-! ## One handler more -/

theorem handlerAt?_cons_self (e : Endpoint) (table : List (String × Endpoint)) :
    handlerAt? ((path, e) :: table) path method = e.own? method := by
  simp [handlerAt?]

theorem handlerAt?_cons_of_ne {p : String} (hne : p ≠ path) (e : Endpoint)
    (table : List (String × Endpoint)) :
    handlerAt? ((p, e) :: table) path method = handlerAt? table path method := by
  simp [handlerAt?, hne]

/-- A handler can be added if its path has none yet for its method. -/
theorem add?_eq_none_iff :
    add? table path method h = none ↔ handlerAt? table path method ≠ none := by
  induction table with
  | nil => simp [add?, handlerAt?]
  | cons entry table ih =>
    obtain ⟨p, e⟩ := entry
    unfold add?
    by_cases hp : p = path
    · subst hp
      rw [if_pos rfl, handlerAt?_cons_self]
      cases Endpoint.own? e method <;> simp
    · rw [if_neg hp, Option.map_eq_none_iff, ih, handlerAt?_cons_of_ne hp]

theorem handlerAt?_eq_none_of_add? (hadd : add? table path method h = some table') :
    handlerAt? table path method = none := by
  by_contra htaken
  rw [add?_eq_none_iff.mpr htaken] at hadd
  cases hadd

/-- What has been added is there, and all else is as before. -/
theorem handlerAt?_of_add? (hadd : add? table path method h = some table')
    (path' method' : String) : handlerAt? table' path' method' =
      if path = path' ∧ method = method' then some h else handlerAt? table path' method' := by
  induction table generalizing table' with
  | nil =>
    cases hadd
    by_cases hpath : path = path'
    · subst hpath
      rw [handlerAt?_cons_self]
      by_cases hmethod : method = method' <;> simp [Endpoint.own?, handlerAt?, hmethod]
    · rw [handlerAt?_cons_of_ne hpath, if_neg fun hboth ↦ hpath hboth.1]
  | cons entry table ih =>
    obtain ⟨p, e⟩ := entry
    unfold add? at hadd
    by_cases hp : p = path
    · subst hp
      rw [if_pos rfl] at hadd
      split at hadd
      · cases hadd
      rename_i hfree
      cases hadd
      by_cases hpath : p = path'
      · subst hpath
        rw [handlerAt?_cons_self, handlerAt?_cons_self, Endpoint.own?_append]
        by_cases hmethod : method = method'
        · subst hmethod
          simp [Option.not_isSome_iff_eq_none.mp hfree]
        · simp [hmethod]
      · rw [handlerAt?_cons_of_ne hpath, handlerAt?_cons_of_ne hpath,
          if_neg fun hboth ↦ hpath hboth.1]
    · rw [if_neg hp] at hadd
      obtain ⟨rest, hrest, rfl⟩ := Option.map_eq_some_iff.mp hadd
      by_cases hpath : p = path'
      · subst hpath
        rw [handlerAt?_cons_self, handlerAt?_cons_self, if_neg fun hboth ↦ hp hboth.1.symm]
      · rw [handlerAt?_cons_of_ne hpath, handlerAt?_cons_of_ne hpath, ih hrest]

/-- A path stands in a table once, where it was added first. -/
theorem paths_of_add? (hadd : add? table path method h = some table') :
    table'.map Prod.fst =
      if path ∈ table.map Prod.fst then table.map Prod.fst else table.map Prod.fst ++ [path] := by
  induction table generalizing table' with
  | nil =>
    cases hadd
    rfl
  | cons entry table ih =>
    obtain ⟨p, e⟩ := entry
    unfold add? at hadd
    by_cases hp : p = path
    · subst hp
      rw [if_pos rfl] at hadd
      split at hadd
      · cases hadd
      · cases hadd
        simp
    · rw [if_neg hp] at hadd
      obtain ⟨rest, hrest, rfl⟩ := Option.map_eq_some_iff.mp hadd
      rw [List.map_cons, ih hrest]
      have hne : path ≠ p := fun hsame ↦ hp hsame.symm
      by_cases hmem : path ∈ table.map Prod.fst
      · simp [hmem]
      · simp [hmem, hne]

/-! ## All mountings -/

def mountAll? (table : List (String × Endpoint)) (ms : List Mounting) :
    Option (List (String × Endpoint)) :=
  ms.foldlM (fun table m ↦ add? table m.path m.method m.handler) table

theorem mountAll?_cons (m : Mounting) : mountAll? table (m :: ms) =
    (add? table m.path m.method m.handler).bind fun table ↦ mountAll? table ms := rfl

theorem mountAll?_append (ms ms' : List Mounting) : mountAll? table (ms ++ ms') =
    (mountAll? table ms).bind fun table ↦ mountAll? table ms' :=
  List.foldlM_append

/-- Mountings make a table if no two of them are for one path and method, and none is taken. -/
theorem mountAll?_isSome_iff : (mountAll? table ms).isSome ↔
    (ms.map Mounting.key).Nodup ∧ ∀ m ∈ ms, handlerAt? table m.path m.method = none := by
  induction ms generalizing table with
  | nil => simp [mountAll?]
  | cons m ms ih =>
    rw [mountAll?_cons, List.map_cons, List.nodup_cons, List.forall_mem_cons]
    cases hadd : add? table m.path m.method m.handler with
    | none =>
      have htaken := add?_eq_none_iff.mp hadd
      simp [htaken]
    | some table' =>
      have hfree := handlerAt?_eq_none_of_add? hadd
      have hothers (m' : Mounting) : handlerAt? table' m'.path m'.method = none ↔
          m'.key ≠ m.key ∧ handlerAt? table m'.path m'.method = none := by
        rw [handlerAt?_of_add? hadd]
        by_cases hsame : m.path = m'.path ∧ m.method = m'.method
        · simp [Mounting.key, hsame]
        · have hne : m'.key ≠ m.key := fun hkey ↦
            hsame ⟨congrArg Prod.fst hkey.symm, congrArg Prod.snd hkey.symm⟩
          rw [if_neg hsame]
          exact (and_iff_right hne).symm
      have hnew : (∀ m' ∈ ms, m'.key ≠ m.key) ↔ m.key ∉ ms.map Mounting.key := by
        rw [List.mem_map, not_exists]
        exact forall_congr' fun m' ↦ not_and.symm
      rw [Option.bind_some, ih, forall₂_congr fun m' _ ↦ hothers m', forall₂_and, hnew]
      tauto

/-- A table of mountings has these handlers and no others. -/
theorem handlerAt?_eq_some_iff_of_mountAll? (hall : mountAll? table ms = some table') :
    handlerAt? table' path method = some h ↔
      handlerAt? table path method = some h ∨ ⟨path, method, h⟩ ∈ ms := by
  induction ms generalizing table with
  | nil =>
    cases hall
    simp
  | cons m ms ih =>
    rw [mountAll?_cons] at hall
    obtain ⟨middle, hadd, hrest⟩ := Option.bind_eq_some_iff.mp hall
    have hfree := handlerAt?_eq_none_of_add? hadd
    rw [ih hrest, handlerAt?_of_add? hadd, List.mem_cons]
    obtain ⟨p, method', h'⟩ := m
    by_cases hsame : p = path ∧ method' = method
    · obtain ⟨rfl, rfl⟩ := hsame
      simp only [hfree, and_self, ↓reduceIte, Option.some.injEq, Mounting.mk.injEq, true_and]
      simp [eq_comm]
    · have hne : (⟨path, method, h⟩ : Mounting) ≠ ⟨p, method', h'⟩ := by
        rintro ⟨⟩
        exact hsame ⟨rfl, rfl⟩
      simp [hsame, hne]

theorem mem_paths_of_mountAll? (hall : mountAll? table ms = some table') :
    path ∈ table'.map Prod.fst ↔ path ∈ table.map Prod.fst ∨ path ∈ ms.map Mounting.path := by
  induction ms generalizing table with
  | nil =>
    cases hall
    simp
  | cons m ms ih =>
    rw [mountAll?_cons] at hall
    obtain ⟨middle, hadd, hrest⟩ := Option.bind_eq_some_iff.mp hall
    rw [ih hrest, paths_of_add? hadd]
    split
    · rename_i hmem
      constructor
      · rintro (hold | hlater)
        · exact .inl hold
        · exact .inr (List.mem_cons_of_mem _ hlater)
      · rintro (hold | hnew)
        · exact .inl hold
        · obtain rfl | hlater := List.mem_cons.mp hnew
          · exact .inl hmem
          · exact .inr hlater
    · rw [List.mem_append, List.mem_singleton, List.map_cons, List.mem_cons, or_assoc]

theorem nodup_paths_of_mountAll? (hall : mountAll? table ms = some table')
    (hnodup : (table.map Prod.fst).Nodup) : (table'.map Prod.fst).Nodup := by
  induction ms generalizing table with
  | nil =>
    cases hall
    exact hnodup
  | cons m ms ih =>
    rw [mountAll?_cons] at hall
    obtain ⟨middle, hadd, hrest⟩ := Option.bind_eq_some_iff.mp hall
    refine ih hrest ?_
    rw [paths_of_add? hadd]
    split
    · exact hnodup
    · rename_i hnew
      exact hnodup.append (List.nodup_singleton _) (List.disjoint_singleton.mpr hnew)

/-- A path of a table has one endpoint, which has its handlers. -/
theorem handlerAt?_of_mem (hnodup : (table.map Prod.fst).Nodup) {e : Endpoint}
    (hmem : (path, e) ∈ table) : handlerAt? table path method = e.own? method := by
  induction table with
  | nil => cases hmem
  | cons entry table ih =>
    rw [List.map_cons, List.nodup_cons] at hnodup
    obtain rfl | hmem := List.mem_cons.mp hmem
    · exact handlerAt?_cons_self e table
    · have hne : entry.1 ≠ path := by
        rintro rfl
        exact hnodup.1 (List.mem_map.mpr ⟨_, hmem, rfl⟩)
      rw [handlerAt?_cons_of_ne hne, ih hnodup.2 hmem]

/-! ## The mountings of services -/

/-- The mountings of a route; there are none if its method is none that a route may have. -/
def routeMountings (service : String) (r : Config.Route) : List Mounting :=
  let method := Text.upper r.method
  if Endpoint.supportedMethods.contains method then
    (fullPaths service r.path).map fun path ↦ ⟨path, method, .forward service r.operation⟩
  else []

def serviceMountings (s : Service) : List Mounting := s.routes.flatMap (routeMountings s.name)

def mountings (services : List Service) : List Mounting := services.flatMap serviceMountings

theorem addAll?_eq (paths : List String) : addAll? table paths method h =
    mountAll? table (paths.map fun path ↦ ⟨path, method, h⟩) := by
  induction paths generalizing table with
  | nil => rfl
  | cons p paths ih =>
    rw [addAll?, List.map_cons, mountAll?_cons]
    exact congrArg _ (funext fun table ↦ ih)

theorem addRoute?_eq (service : String) (r : Config.Route) :
    addRoute? service table r = mountAll? table (routeMountings service r) := by
  unfold addRoute? routeMountings
  dsimp only
  split
  · exact addAll?_eq _
  · rfl

theorem addService?_eq (s : Service) :
    addService? table s = mountAll? table (serviceMountings s) := by
  unfold addService? serviceMountings
  induction s.routes generalizing table with
  | nil => rfl
  | cons r rs ih =>
    rw [List.foldlM_cons, List.flatMap_cons, mountAll?_append, addRoute?_eq]
    exact congrArg _ (funext fun table ↦ ih)

/-- The handlers of the services are their mountings, one after the other. -/
theorem backendRoutes?_eq (services : List Service) :
    backendRoutes? services = mountAll? [] (mountings services) := by
  unfold backendRoutes? mountings
  generalize ([] : List (String × Endpoint)) = table
  induction services generalizing table with
  | nil => rfl
  | cons s ss ih =>
    rw [List.foldlM_cons, List.flatMap_cons, mountAll?_append, addService?_eq]
    exact congrArg _ (funext ih)

end RouteTable

end RpcGateway.Gateway
