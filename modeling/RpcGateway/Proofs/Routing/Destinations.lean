import RpcGateway.Proofs.Routing.Starting

/-!
# Where requests go

A request that fills the path of a configured route, with the method of this route, goes to the
service and the operation of this route and to no other. Conversely what a request is forwarded to
has been configured, under a path that the request matches.
-/

namespace RpcGateway

open Calls Http Json Activity

namespace Gateway

namespace Endpoint

theorem handler?_of_own? {e : Endpoint} {method : String} {h : Handler}
    (hown : e.own? method = some h) : e.handler? method = some h := by
  rw [handler?, hown]

/-- Only the question without a body is answered by the handler of another method. -/
theorem own?_of_handler? {e : Endpoint} {method : String} {h : Handler}
    (hhandler : e.handler? method = some h) :
    e.own? method = some h ∨ (method = "HEAD" ∧ e.own? "GET" = some h) := by
  unfold handler? at hhandler
  split at hhandler
  · rename_i hown
    cases hhandler
    exact .inl hown
  · split at hhandler
    · rename_i hhead
      exact .inr ⟨hhead, hhandler⟩
    · cases hhandler

end Endpoint

namespace RouteTable

variable {services : List Service} {withMetrics : Bool} {t : RouteTable}

theorem mem_routes_iff {entries : List (String × Endpoint)}
    (h : entries.map patterned? = t.routes.map some) {p : PathPattern} {e : Endpoint} :
    (p, e) ∈ t.routes ↔
      ∃ path, (path, e) ∈ entries ∧ PathPattern.parse? path.toList = some p := by
  have hsome : (p, e) ∈ t.routes ↔ some (p, e) ∈ entries.map patterned? := by
    rw [h, List.mem_map]
    exact ⟨fun hmem ↦ ⟨_, hmem, rfl⟩, fun ⟨_, hmem, hsame⟩ ↦ Option.some.inj hsame ▸ hmem⟩
  rw [hsome, List.mem_map]
  constructor
  · rintro ⟨⟨path, e'⟩, hmem, hsame⟩
    obtain ⟨q, hq, hpair⟩ := Option.map_eq_some_iff.mp hsame
    cases hpair
    exact ⟨path, hmem, hq⟩
  · rintro ⟨path, hmem, hparsed⟩
    exact ⟨(path, e), hmem, by rw [patterned?, hparsed]; rfl⟩

theorem exists_of_handlerAt? {table : List (String × Endpoint)} {path method : String}
    {h : Handler} (hat : handlerAt? table path method = some h) :
    ∃ e, (path, e) ∈ table ∧ e.own? method = some h := by
  obtain ⟨e, hfound, hown⟩ := Option.bind_eq_some_iff.mp hat
  obtain ⟨⟨path', e'⟩, hfind, rfl⟩ := Option.map_eq_some_iff.mp hfound
  obtain rfl : path' = path := by simpa using List.find?_some hfind
  exact ⟨e', List.mem_of_find?_eq_some hfind, hown⟩

theorem own?_ownRoutes {path method service operation : String} {e : Endpoint}
    (hmem : (path, e) ∈ ownRoutes withMetrics) :
    e.own? method ≠ some (.forward service operation) := by
  have hboth : e = [("GET", .root)] ∨ e = [("GET", .metrics)] := by
    unfold ownRoutes at hmem
    obtain hroot | hmetrics := List.mem_cons.mp hmem
    · exact .inl (congrArg Prod.snd hroot)
    · cases withMetrics with
      | true => exact .inr (congrArg Prod.snd (List.mem_singleton.mp hmetrics))
      | false => cases hmetrics
  obtain rfl | rfl := hboth <;> by_cases hget : "GET" = method <;> simp [Endpoint.own?, hget]

/-- What the services have mounted is in the table. -/
theorem exists_route_of_mem (hservices : Mountable services)
    (hbuilt : build? services withMetrics = some t) {m : Mounting} (hm : m ∈ mountings services) :
    ∃ p e, PathPattern.parse? m.path.toList = some p ∧ (p, e) ∈ t.routes ∧
      e.own? m.method = some m.handler := by
  obtain ⟨table, htable, -, -, hhandlers⟩ := exists_backendRoutes hservices
  obtain ⟨backend, hbackend, hroutes, -⟩ := build?_eq_some_iff.mp hbuilt
  obtain rfl := Option.some.inj (htable.symm.trans hbackend)
  obtain ⟨e, he, hown⟩ := exists_of_handlerAt? ((hhandlers m.path m.method m.handler).mpr hm)
  have hpatterned : patterned? (m.path, e) ∈ t.routes.map some :=
    hroutes ▸ List.mem_map_of_mem (List.mem_append_right _ he)
  obtain ⟨⟨p, e⟩, hroute, hsame⟩ := List.mem_map.mp hpatterned
  obtain ⟨p, hparsed, hpair⟩ := Option.map_eq_some_iff.mp hsame.symm
  cases hpair
  exact ⟨p, e, hparsed, hroute, hown⟩

/-- Operations are in the table only if a service has mounted them. -/
theorem exists_mounting_of_mem (hservices : Mountable services)
    (hbuilt : build? services withMetrics = some t) {p : PathPattern} {e : Endpoint}
    (hmem : (p, e) ∈ t.routes) {method service operation : String}
    (hown : e.own? method = some (.forward service operation)) :
    ∃ path, PathPattern.parse? path.toList = some p ∧
      ⟨path, method, .forward service operation⟩ ∈ mountings services := by
  obtain ⟨table, htable, hnodup, -, hhandlers⟩ := exists_backendRoutes hservices
  obtain ⟨backend, hbackend, hroutes, -⟩ := build?_eq_some_iff.mp hbuilt
  obtain rfl := Option.some.inj (htable.symm.trans hbackend)
  obtain ⟨path, hentry, hparsed⟩ := (mem_routes_iff hroutes).mp hmem
  obtain howned | hbackend := List.mem_append.mp hentry
  · exact absurd hown (own?_ownRoutes howned)
  · refine ⟨path, hparsed, (hhandlers path method _).mp ?_⟩
    rw [handlerAt?_of_mem hnodup hbackend, hown]

end RouteTable

/-! ## Destinations -/

variable {c : Config} {services : List Service} {recording : Bool} {ids : Http.RequestId.Source}
  {g : Gateway} {r : Request}

theorem parts_of_build? (h : build? c services recording ids = some g) :
    RouteTable.build? services c.observability.metricsEnabled = some g.routes ∧ g.config = c := by
  unfold build? at h
  split at h
  · cases h
  · obtain ⟨t, htable, rfl⟩ := Option.map_eq_some_iff.mp h
    exact ⟨htable, rfl⟩

/-- A request that fills a path at which there is a handler for its method goes to this handler. -/
theorem destination_of_fills (hservices : Mountable services)
    (hbuilt : build? c services recording ids = some g) {m : Mounting}
    (hm : m ∈ RouteTable.mountings services) :
    ∃ p, PathPattern.parse? m.path.toList = some p ∧
      ∀ (r : Request), r.method = m.method → ∀ captures,
        PathPattern.Fills (g.routes.routes.map Prod.fst) p r.path.toList captures →
          g.destination r = .handler m.handler captures := by
  obtain ⟨htable, -⟩ := parts_of_build? hbuilt
  obtain ⟨p, e, hparsed, hroute, hown⟩ := RouteTable.exists_route_of_mem hservices htable hm
  obtain ⟨-, -, -, hfree⟩ := RouteTable.build?_eq_some_iff.mp htable
  refine ⟨p, hparsed, fun r hmethod captures hfills ↦ ?_⟩
  have hfound : g.routes.find? r.path = some (e, captures) :=
    PathPattern.find?_of_fills hroute hfree hfills
  simp only [destination, hfound, hmethod, Endpoint.handler?_of_own? hown]

/-- A request is forwarded only to what a service has mounted at a path that the request matches. -/
theorem exists_mounting_of_destination (hservices : Mountable services)
    (hbuilt : build? c services recording ids = some g) {service operation : String}
    {captures : PathPattern.Captures}
    (hdestination : g.destination r = .handler (.forward service operation) captures) :
    ∃ path method p, ⟨path, method, .forward service operation⟩ ∈ RouteTable.mountings services ∧
      (r.method = method ∨ (r.method = "HEAD" ∧ method = "GET")) ∧
      PathPattern.parse? path.toList = some p ∧ PathPattern.Matches p r.path.toList := by
  obtain ⟨htable, -⟩ := parts_of_build? hbuilt
  unfold destination at hdestination
  split at hdestination
  · cases hdestination
  · rename_i e captures hfound
    split at hdestination
    · rename_i h hhandler
      cases hdestination
      obtain ⟨k, hk, rfl, hmatches⟩ := PathPattern.exists_matches_of_search hfound
      obtain ⟨⟨p, e⟩, hroute, rfl⟩ := List.mem_map.mp hk
      obtain hown | ⟨hhead, hown⟩ := Endpoint.own?_of_handler? hhandler
      · obtain ⟨path, hparsed, hmem⟩ :=
          RouteTable.exists_mounting_of_mem hservices htable hroute hown
        exact ⟨path, _, p, hmem, .inl rfl, hparsed, hmatches⟩
      · obtain ⟨path, hparsed, hmem⟩ :=
          RouteTable.exists_mounting_of_mem hservices htable hroute hown
        exact ⟨path, _, p, hmem, .inr ⟨hhead, rfl⟩, hparsed, hmatches⟩
    · cases hdestination

/-! ## What is forwarded -/

/-- What a request has to hand on: parameters that are texts, and a body that comes in time for its
reader, is not too long and can be read. -/
structure Carries (r : Request) (limit : Nat) (captures : PathPattern.Captures)
    (params : List (String × String)) (payload : Value) (ms : Nat) : Prop where
  params : Forward.decodeParams (captures.filter fun c ↦ !Forward.isReserved c.1) = .ok params
  delay : r.body.delay = some ms
  length : r.body.octets.length ≤ min limit Forward.extractorLimit
  payload : Forward.payload? r.body.octets = some payload

/-- The response to what a call has come to. -/
def Forward.outcome (secureCookies : Bool) (ctx : Context) : Except Fault Value → Response
  | .ok reply => respond secureCookies ctx reply
  | .error f => .ofFault f (some ctx.requestId)

theorem Forward.run_of_carries {limit ms : Nat} {captures : PathPattern.Captures}
    {params : List (String × String)} {payload : Value}
    (h : Carries r limit captures params payload ms) (call : Caller) (secureCookies : Bool)
    (service operation : String) (ctx : Context) :
    run call secureCookies service operation limit ctx captures r.body =
      (sleep ms).bind fun _ ↦
        (onRegistry (call service ctx.deadline (rpcRequest ctx operation params payload))).map
          (outcome secureCookies ctx) := by
  unfold run
  rw [h.params]
  dsimp only
  rw [h.delay]
  dsimp only
  rw [if_neg (Nat.not_lt.mpr h.length)]
  unfold withBody
  rw [h.payload]
  rfl

/-- Every route of an accepted configuration whose method can be mounted is served. Its path is a
pattern, and a request that fills it goes to its service and operation, where parameters take what
they are filled with. Unless its handler refuses it for what it holds, the request is forwarded. -/
theorem routes_are_served {start : Time} (haccepted : c.accepted = true)
    (hbuilt : build? c (Registry.ofConfig c start).services recording ids = some g)
    {s : Config.Service} (hs : s ∈ c.services) {route : Config.Route} (hroute : route ∈ s.routes)
    (hsupported : Text.upper route.method ∈ Endpoint.supportedMethods) {path : String}
    (hpath : path ∈ RouteTable.fullPaths s.name route.path) :
    ∃ p, PathPattern.parse? path.toList = some p ∧
      ∀ (r : Request) (captures : PathPattern.Captures), r.method = Text.upper route.method →
        PathPattern.Fills (g.routes.routes.map Prod.fst) p r.path.toList captures →
        g.destination r = .handler (.forward s.name route.operation) captures ∧
          ∀ limit ctx, (∀ params payload ms, Carries r limit captures params payload ms →
            g.handle r limit ctx = (sleep ms).bind fun _ ↦
              (Forward.onRegistry (Registry.call g.policy s.name ctx.deadline
                (Forward.rpcRequest ctx route.operation params payload))).map
                  (Forward.outcome g.config.security.secureCookies ctx)) := by
  have hmounting : (⟨path, Text.upper route.method, .forward s.name route.operation⟩ : Mounting) ∈
      RouteTable.mountings (Registry.ofConfig c start).services := by
    rw [Registry.services_ofConfig start (Config.services_of_accepted haccepted).2,
      RouteTable.mem_mountings_iff]
    exact ⟨_, List.mem_map_of_mem hs, route, hroute,
      RouteTable.mem_routeMountings_iff.mpr ⟨hsupported, hpath, rfl, rfl⟩⟩
  obtain ⟨p, hparsed, hfills⟩ :=
    destination_of_fills (mountable_of_accepted haccepted start) hbuilt hmounting
  refine ⟨p, hparsed, fun r captures hmethod hfilled ↦ ?_⟩
  have hdestination := hfills r hmethod captures hfilled
  refine ⟨hdestination, fun limit ctx params payload ms hcarries ↦ ?_⟩
  rw [handle, handleBy, hdestination]
  exact Forward.run_of_carries hcarries _ _ _ _ _

/-- Orders by number, and by a version that begins with a letter. -/
def numberedOrders : Config :=
  ordersBehind [⟨"GET", "/\x7bid\x7d", "OrderInfo"⟩, ⟨"GET", "/v\x7bversion\x7d", "Orders"⟩,
    ⟨"POST", "/", "AddOrder"⟩] 1000

/-- A number begins with no such letter, so it is taken for a number. -/
theorem order_is_forwarded :
    let r : Request := { method := "GET", path := "/api/orders/42" }
    numberedOrders.accepted = true ∧
      ∃ g, build? numberedOrders (Registry.ofConfig numberedOrders 0).services true .counted =
          some g ∧
        g.destination r = .handler (.forward "orders" "OrderInfo") [("id", "42")] ∧
        ∀ ctx, g.handle r 0 ctx = (sleep 0).bind fun _ ↦
          (Forward.onRegistry (Registry.call g.policy "orders" ctx.deadline
            (Forward.rpcRequest ctx "OrderInfo" [("id", "42")] .null))).map
              (Forward.outcome false ctx) := by
  intro r
  have haccepted : numberedOrders.accepted = true := by decide +kernel
  have hothers :
      (build? numberedOrders (Registry.ofConfig numberedOrders 0).services true .counted).map
        (fun g ↦ PathPattern.behind "/api/orders/".toList (g.routes.routes.map Prod.fst)) =
        some [[.param "id".toList], [.literal 'v', .param "version".toList], []] := by
    decide +kernel
  obtain ⟨g, hg, hothers⟩ := Option.map_eq_some_iff.mp hothers
  have hservice : numberedOrders.services[0] ∈ numberedOrders.services := List.getElem_mem _
  have hroute : (⟨"GET", "/\x7bid\x7d", "OrderInfo"⟩ : Config.Route) ∈
      numberedOrders.services[0].routes := List.mem_cons_self
  have hpath : "/api/orders/\x7bid\x7d" ∈ RouteTable.fullPaths "orders" "/\x7bid\x7d" := by decide
  obtain ⟨p, hparsed, hserved⟩ :=
    routes_are_served haccepted hg hservice hroute (by decide) hpath
  have hp : PathPattern.parse? "/api/orders/\x7bid\x7d".toList =
      some ("/api/orders/".toList.map .literal ++ [.param "id".toList]) := by decide +kernel
  obtain rfl := Option.some.inj (hparsed.symm.trans hp)
  have hfills : PathPattern.Fills (g.routes.routes.map Prod.fst)
      ("/api/orders/".toList.map .literal ++ [.param "id".toList])
      ("/api/orders/".toList ++ ("42".toList ++ [])) [("id", "42")] := by
    refine .literals "/api/orders/".toList (.param "id".toList ?_ ?_ ?_ ?_ .nil)
    · decide
    · decide
    · nofun
    · rw [hothers]
      refine PathPattern.fresh_of_absent (by decide) (by nofun) (by decide) ?_
      intro q hq hbegins _ hmatches
      have hversion : q = [.literal 'v', .param "version".toList] := by
        clear hmatches
        revert q
        decide
      rw [hversion] at hmatches
      cases hmatches
  have htext : "/api/orders/".toList ++ ("42".toList ++ []) = r.path.toList := by decide
  rw [htext] at hfills
  obtain ⟨hdestination, hforwarded⟩ := hserved r [("id", "42")] (by decide) hfills
  refine ⟨haccepted, g, hg, hdestination, fun ctx ↦ ?_⟩
  obtain ⟨-, hconfig⟩ := parts_of_build? hg
  have hcarries : Carries r 0 [("id", "42")] [("id", "42")] .null 0 :=
    ⟨by decide +kernel, rfl, Nat.zero_le _, rfl⟩
  have hcall := hforwarded 0 ctx [("id", "42")] .null 0 hcarries
  rwa [hconfig] at hcall

/-- The operations that a request has called when it has been handled. -/
def called (c : Config) (r : Request) : Option (List String) :=
  (build? c (Registry.ofConfig c 0).services true .counted).map fun g ↦
    let ctx : Context := { requestId := "r1", deadline := ⟨30000⟩, sessionKey := none }
    let state : State := { registry := Registry.ofConfig c 0 }
    ((g.handle r 1000 ctx).run 0 state).2.1.registry.calls.map fun call ↦ call.2.operation

/-- Orders by number, by what follows two letters, under a method of their own, and under a name
with a brace. -/
def letteredOrders : Config :=
  ordersBehind [⟨"GET", "/\x7bid\x7d", "OrderInfo"⟩, ⟨"GET", "/ab\x7bid\x7d", "Archived"⟩,
    ⟨"PURGE", "/all", "Purge"⟩, ⟨"GET", "/\x7b\x7ball", "Named"⟩, ⟨"POST", "/", "AddOrder"⟩] 1000

/-- A longer beginning goes first, a method of its own is not mounted, a doubled brace is not two,
and what cannot be read is not forwarded. -/
theorem routes_not_served :
    letteredOrders.accepted = true ∧
      called letteredOrders { method := "GET", path := "/api/orders/42" } = some ["OrderInfo"] ∧
      called letteredOrders { method := "GET", path := "/api/orders/abc" } = some ["Archived"] ∧
      called letteredOrders { method := "PURGE", path := "/api/orders/all" } = some [] ∧
      called letteredOrders { method := "GET", path := "/api/orders/\x7b\x7ball" } =
        some ["OrderInfo"] ∧
      called letteredOrders { method := "GET", path := "/api/orders/%FF" } = some [] ∧
      called letteredOrders
        { method := "POST", path := "/api/orders", body := { octets := Utf8.encode "no" } } =
        some [] := by
  decide +kernel

end Gateway

end RpcGateway
