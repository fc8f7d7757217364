import RpcGateway.Proofs.Config.Defaults

/-!
# Configurations that are written and read

A configuration is read again from its written form. Where fields are left out of that form, at any
depth, it is read with the defaults of what has been left out and all else as it was, unless a
service or a route that stays has lost a field which it needs: then nothing is read.
-/

namespace RpcGateway.Config

open Json

variable {d : Dialect} {gone : Places}

/-! ## Routes -/

namespace Route

/-- A route has lost a field. It needs all of them. -/
def Lacks (gone : Places) : Prop :=
  ∃ name ∈ ["method", "path", "operation"], gone.hasField name = true

/-- A route lacks something just when one of its three fields is missing. -/
theorem lacks_iff : Lacks gone ↔ gone.hasField "method" = true ∨ gone.hasField "path" = true ∨
    gone.hasField "operation" = true := by
  simp [Lacks]

theorem decode?_without (r : Route) : decode? d (r.json.without gone) =
    if gone.hasField "method" || gone.hasField "path" || gone.hasField "operation" then none
    else some r := by
  rw [decode?, json, members?_bind,
    required?_remaining rfl (string?_without _), required?_remaining rfl (string?_without _),
    required?_remaining rfl (string?_without _)]
  cases gone.hasField "method" <;> cases gone.hasField "path" <;>
    cases gone.hasField "operation" <;> rfl

theorem decode?_eq_some (r : Route) (h : ¬ Lacks gone) :
    decode? d (r.json.without gone) = some r := by
  rw [lacks_iff, not_or, not_or] at h
  rw [decode?_without, if_neg (by simpa [and_assoc] using h)]

theorem decode?_eq_none (r : Route) (h : Lacks gone) : decode? d (r.json.without gone) = none := by
  rw [decode?_without, if_pos (by simpa [or_assoc] using lacks_iff.mp h)]

end Route

/-! ## Lists of services and routes -/

section List

variable {α : Type} {json : α → Value} {decode : Value → Option α} {after : Nat → α → α}
  {as : List α}

/-- A list is read if each of its elements is. -/
theorem list?_eq_some
    (h : ∀ i a, as[i]? = some a →
      decode ((json a).without (gone.behind (.element i))) = some (after i a)) :
    list? decode ((Value.array (as.map json)).without gone) = some (as.mapIdx after) := by
  rw [Value.without_array, list?, mapM_eq_some_iff]
  apply List.ext_getElem
  · simp
  · intro i hi _
    simp only [List.length_map, List.length_mapIdx] at hi
    simpa using h i as[i] (List.getElem?_eq_getElem hi)

/-- One element that cannot be read spoils a list. -/
theorem list?_eq_none {i : Nat} {a : α} (hi : as[i]? = some a)
    (h : decode ((json a).without (gone.behind (.element i))) = none) :
    list? decode ((Value.array (as.map json)).without gone) = none := by
  rw [Value.without_array, list?, ← Option.not_isSome_iff_eq_none, mapM_isSome_iff]
  obtain ⟨hlt, rfl⟩ := List.getElem?_eq_some_iff.mp hi
  intro hall
  have hsome := hall ((json as[i]).without (gone.behind (.element i)))
    (List.mem_mapIdx.mpr ⟨i, by simpa using hlt, by simp⟩)
  rw [h] at hsome
  cases hsome

end List

/-! ## Services -/

namespace Service

/-- A service has lost a field that it needs, or it keeps its routes and one of them has. -/
inductive Lacks (gone : Places) (s : Service) : Prop
  | own (name : String) (hname : name ∈ ["name", "address"]) (hgone : gone.hasField name = true)
  | route (j : Nat) (r : Route) (hroute : s.routes[j]? = some r)
      (hkept : gone.hasField "routes" = false)
      (hlacks : Route.Lacks ((gone.behind (.field "routes")).behind (.element j)))

/-- The service without routes, if they are left out. -/
def defaulted (gone : Places) (s : Service) : Service :=
  { s with routes := gone.settle "routes" [] s.routes }

theorem decode?_without (s : Service) : decode? d (s.json.without gone) =
    if gone.hasField "name" || gone.hasField "address" then none
    else ((remaining gone s.json).optional? "routes" (list? (Route.decode? d)) []).map
      fun routes ↦ { s with routes } := by
  rw [decode?, json, members?_bind,
    required?_remaining rfl (string?_without _), required?_remaining rfl (string?_without _)]
  cases gone.hasField "name" <;> cases gone.hasField "address"
  · exact (Option.map_eq_bind ..).symm
  all_goals rfl

theorem decode?_eq_some (s : Service) (h : ¬ s.Lacks gone) :
    decode? d (s.json.without gone) = some (s.defaulted gone) := by
  have hname : gone.hasField "name" = false :=
    Bool.eq_false_iff.mpr fun hgone ↦ h (.own "name" (by simp) hgone)
  have haddress : gone.hasField "address" = false :=
    Bool.eq_false_iff.mpr fun hgone ↦ h (.own "address" (by simp) hgone)
  have hroutes : gone.hasField "routes" = false →
      list? (Route.decode? d) ((Value.array (s.routes.map Route.json)).without
        (gone.behind (.field "routes"))) = some s.routes := by
    intro hkept
    have hsame : s.routes.mapIdx (fun _ r ↦ r) = s.routes := List.ext_getElem (by simp) (by simp)
    rw [list?_eq_some fun j r hr ↦ r.decode?_eq_some fun hlacks ↦
      h (.route j r hr hkept hlacks), hsame]
  rw [decode?_without, hname, haddress, optional?_settle rfl hroutes]
  rfl

theorem decode?_eq_none (s : Service) (h : s.Lacks gone) :
    decode? d (s.json.without gone) = none := by
  rw [decode?_without]
  cases h with
  | own name hname hgone =>
    obtain rfl | rfl := by simpa using hname
    · rw [hgone, Bool.true_or, if_pos rfl]
    · rw [hgone, Bool.or_true, if_pos rfl]
  | route j r hroute hkept hlacks =>
    rw [optional?_of_kept rfl hkept, list?_eq_none hroute (r.decode?_eq_none hlacks)]
    split <;> rfl

end Service

/-! ## Configurations -/

/-- A service that stays has lost a field that it or one of its routes needs. -/
inductive Lacks (gone : Places) (c : Config) : Prop
  | service (i : Nat) (s : Service) (hservice : c.services[i]? = some s)
      (hkept : gone.hasField "services" = false)
      (hlacks : s.Lacks ((gone.behind (.field "services")).behind (.element i)))

/-- The configuration with the default of each section and setting that is left out. -/
def defaulted (gone : Places) (c : Config) : Config where
  listener := gone.settle "listener" {} (c.listener.defaulted (gone.behind (.field "listener")))
  timeouts := gone.settle "timeouts" {} (c.timeouts.defaulted (gone.behind (.field "timeouts")))
  server := gone.settle "server" {} (c.server.defaulted (gone.behind (.field "server")))
  cors := gone.settle "cors" {} (c.cors.defaulted (gone.behind (.field "cors")))
  rateLimit := gone.settle "rate_limit" {}
    (c.rateLimit.defaulted (gone.behind (.field "rate_limit")))
  circuitBreaker := gone.settle "circuit_breaker" {}
    (c.circuitBreaker.defaulted (gone.behind (.field "circuit_breaker")))
  retries := gone.settle "retries" {} (c.retries.defaulted (gone.behind (.field "retries")))
  auth := gone.settle "auth" {} (c.auth.defaulted (gone.behind (.field "auth")))
  observability := gone.settle "observability" {}
    (c.observability.defaulted (gone.behind (.field "observability")))
  security := gone.settle "security" {} (c.security.defaulted (gone.behind (.field "security")))
  services := gone.settle "services" defaultServices (c.services.mapIdx fun i s ↦
    s.defaulted ((gone.behind (.field "services")).behind (.element i)))
  shutdown := gone.settle "shutdown" {} (c.shutdown.defaulted (gone.behind (.field "shutdown")))

/-- Only the services can be in the way of reading a configuration again. -/
theorem decode?_without (c : Config) : decode? d (c.json.without gone) =
    ((remaining gone c.json).optional? "services" (list? (Service.decode? d))
      defaultServices).map fun services ↦ { c.defaulted gone with services } := by
  rw [decode?, json, members?_bind,
    optional?_remaining rfl (Listener.decode?_without _),
    optional?_remaining rfl (Timeouts.decode?_without _),
    optional?_remaining rfl (Server.decode?_without _),
    optional?_remaining rfl (Cors.decode?_without _),
    optional?_remaining rfl (RateLimit.decode?_without _),
    optional?_remaining rfl (CircuitBreaker.decode?_without _),
    optional?_remaining rfl (Retries.decode?_without _),
    optional?_remaining rfl (Auth.decode?_without _),
    optional?_remaining rfl (Observability.decode?_without _),
    optional?_remaining rfl (Security.decode?_without _),
    optional?_remaining rfl (Shutdown.decode?_without _)]
  exact (Option.map_eq_bind ..).symm

theorem decode?_eq_some (c : Config) (h : ¬ c.Lacks gone) :
    decode? d (c.json.without gone) = some (c.defaulted gone) := by
  have hservices : gone.hasField "services" = false →
      list? (Service.decode? d) ((Value.array (c.services.map Service.json)).without
        (gone.behind (.field "services"))) = some (c.services.mapIdx fun i s ↦
          s.defaulted ((gone.behind (.field "services")).behind (.element i))) :=
    fun hkept ↦ list?_eq_some fun i s hs ↦ s.decode?_eq_some fun hlacks ↦
      h (.service i s hs hkept hlacks)
  rw [decode?_without, optional?_settle rfl hservices]
  rfl

theorem decode?_eq_none (c : Config) (h : c.Lacks gone) :
    decode? d (c.json.without gone) = none := by
  -- one service that cannot be read is enough: no list of services comes of the others
  obtain ⟨i, s, hservice, hkept, hlacks⟩ := h
  rw [decode?_without, optional?_of_kept rfl hkept,
    list?_eq_none hservice (s.decode?_eq_none hlacks), Option.map_none]

/-- A configuration that is all there lacks nothing. -/
theorem not_lacks_none (c : Config) : ¬ c.Lacks .none := by
  rintro ⟨i, s, -, -, hlacks⟩
  cases hlacks with
  | own name hname hgone => cases hgone
  | route j r hroute hkept hlacks =>
    obtain ⟨name, -, hgone⟩ := hlacks
    cases hgone

/-- Nothing is replaced where nothing is missing. -/
theorem defaulted_none (c : Config) : c.defaulted .none = c := by
  have hservices : (c.services.mapIdx fun i s ↦
      s.defaulted ((Places.none.behind (.field "services")).behind (.element i))) = c.services :=
    List.ext_getElem (by simp) fun i hi _ ↦ by
      rw [List.getElem_mapIdx]
      rfl
  rw [defaulted, hservices]
  rfl

/-- A configuration is read from its written form, and from what is left of that when any fields are
left out of it: each of those then has its default and all else is as it was. Only a field that a
service or a route needs cannot be left out of one that stays. -/
theorem omissions_take_defaults (c : Config) (d : Dialect) :
    decode? d c.json = some c ∧
      (∀ gone : Places, ¬ c.Lacks gone →
        decode? d (c.json.without gone) = some (c.defaulted gone)) ∧
      ∀ gone : Places, c.Lacks gone → decode? d (c.json.without gone) = none := by
  refine ⟨?_, fun _ ↦ c.decode?_eq_some, fun _ ↦ c.decode?_eq_none⟩
  have hwhole := c.decode?_eq_some (d := d) c.not_lacks_none
  rwa [Value.without_none, defaulted_none] at hwhole

/-- A section, a setting of another and the routes of a service are left out; the path of a route
cannot be. -/
theorem users_lose_their_routes :
    let users : Service :=
      ⟨"users", "127.0.0.1:50051", [⟨"GET", "/me", "GetMe"⟩, ⟨"PUT", "/me", "SetMe"⟩]⟩
    let c : Config :=
      { timeouts := ⟨1, 2, 3⟩, retries := ⟨7, 9⟩, auth := { enabled := false },
        services := [users] }
    let routes : Place := [.field "services", .element 0, .field "routes"]
    let optional : Places := fun p ↦
      p ∈ [[.field "timeouts"], [.field "retries", .field "max_retries"], routes]
    let needed : Places := fun p ↦ p = routes ++ [.element 1, .field "path"]
    (¬ c.Lacks optional ∧ decode? .json (c.json.without optional) = some
        { retries := ⟨3, 9⟩, auth := { enabled := false },
          services := [⟨"users", "127.0.0.1:50051", []⟩] }) ∧
      c.Lacks needed ∧ decode? .json (c.json.without needed) = none := by
  intro users c routes optional needed
  obtain ⟨-, htaken, hlost⟩ := omissions_take_defaults c .json
  have hkept : ¬ c.Lacks optional := by
    rintro ⟨_ | i, s, hservice, -, hlacks⟩
    · cases hlacks with
      | own name hname hgone =>
        obtain rfl | rfl := by simpa using hname
        · cases hgone
        · cases hgone
      | route j r hroute hkept hlacks => cases hkept
    · cases hservice
  have hlacks : c.Lacks needed :=
    .service 0 users rfl rfl (.route 1 ⟨"PUT", "/me", "SetMe"⟩ rfl rfl ⟨"path", by simp, rfl⟩)
  exact ⟨⟨hkept, htaken optional hkept⟩, hlacks, hlost needed hlacks⟩

end RpcGateway.Config
