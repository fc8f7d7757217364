import RpcGateway.Gateway.Forward
import RpcGateway.Http.ContentCoding
import RpcGateway.Http.Cors
import RpcGateway.Number.Word

/-!
# The pipeline

A request passes through the stages of the gateway in a fixed order: the limit on its body, the
rate limit of its client, cross-origin rules, compression, its identifier and deadline, the cap on
requests in flight, recovery from breakdowns, authentication, metrics, and the handler of its
route. Each stage is an activity around the next one. The services are called in one way throughout,
that of the registry.
-/

namespace RpcGateway

open Gateway Http Json Calls Access Measurement

structure Gateway where
  config : Config
  routes : RouteTable
  policy : RetryPolicy
  /-- The services that labels may name. -/
  services : List String
  /-- Whether metrics are recorded and shown. -/
  recording : Bool
  /-- Where the identifiers come from of requests that bring none. -/
  ids : RequestId.Source

namespace Gateway

/-- The most requests that can be let in at once. -/
def maxPermits : Nat := Word.max64 / 8

/-- A gateway over the given services, if their routes and the limits make one. -/
def build? (config : Config) (services : List Service) (recording : Bool)
    (ids : RequestId.Source) : Option Gateway :=
  if maxPermits < config.server.maxConcurrentRequests.toNat then none
  else (RouteTable.build? services config.observability.metricsEnabled).map fun routes ↦
    { config, routes, policy := RetryPolicy.ofConfig config.retries,
      services := services.map Service.name, recording, ids }

abbrev Stage := Activity State Response

/-! ### Handlers -/

/-- The metrics text; showing it settles the durations. -/
def showMetrics (g : Gateway) : Stage :=
  if g.recording then
    (Activity.modifyGet fun _ (s : State) ↦
      let m := s.metrics.settled
      (m.text s.registry, { s with metrics := m })).map fun text ↦
        .text 200 "text/plain; version=0.0.4" text
  else .done (.notFound none)

def methodNotAllowed : Response := ⟨405, [], []⟩

/-- What a request has come to: a handler, a path without one for the method, or no path at all. -/
inductive Destination where
  | handler (h : Handler) (captures : PathPattern.Captures)
  | wrongMethod
  | nowhere

def destination (g : Gateway) (r : Request) : Destination :=
  match g.routes.find? r.path with
  | none => .nowhere
  | some (e, captures) =>
    match e.handler? r.method with
    | some h => .handler h captures
    | none => .wrongMethod

def handleBy (call : Caller) (g : Gateway) (r : Request) (limit : Nat) (ctx : Context) : Stage :=
  match g.destination r with
  | .nowhere => .done (.notFound (some ctx.requestId))
  | .wrongMethod => .done methodNotAllowed
  | .handler .root _ => .done (.plain 200 "root")
  | .handler .metrics _ => g.showMetrics
  | .handler (.forward service operation) captures =>
    Forward.run call g.config.security.secureCookies service operation limit ctx captures r.body

def handle (g : Gateway) : Request → Nat → Context → Stage := handleBy (Registry.call g.policy) g

/-! ### Stages, from the inside out -/

/-- Whether a response opens a tunnel. -/
def opensTunnel (r : Request) (response : Response) : Bool :=
  r.method = "CONNECT" && 200 ≤ response.status && response.status < 300

/-- What opens a tunnel has no body, whatever its handler has written. -/
def tunnelled (r : Request) (next : Stage) : Stage :=
  next.map fun response ↦
    if opensTunnel r response then { response with body := [] } else response

/-- Counts the request under its labels. -/
def metered (g : Gateway) (r : Request) (next : Stage) : Stage :=
  let labels := Labels.derive g.services r.method r.path
  .act (fun _ s ↦ { s with metrics := s.metrics.start labels }) fun begun _ ↦
    next.ending fun now s ↦ { s with metrics := s.metrics.finish labels (now - begun) }

/-- Finds out who is asking, unless the path is public. -/
def authenticatedBy (call : Caller) (g : Gateway) (r : Request) (ctx : Context)
    (next : Context → Stage) : Stage :=
  if !g.config.auth.enabled || isPublic g.config.auth.publicRoutes r.path then next ctx
  else match credentials r.headers ctx.sessionKey with
    | .error f => .done (.ofFault f (some ctx.requestId))
    | .ok c =>
      let a := Authenticator.ofConfig g.config.auth
      (Forward.onRegistry (a.resolve call c ctx.requestId ctx.deadline)).bind fun
        | .ok identity => next { ctx with identity := some identity }
        | .error f => .done (.ofFault f (some ctx.requestId))

def authenticated (g : Gateway) : Request → Context → (Context → Stage) → Stage :=
  authenticatedBy (Registry.call g.policy) g

def brokenDown : Response := .ofFault (.internal "handler panicked") none

/-- Answers in place of what breaks down. -/
def caught (next : Stage) : Stage := Activity.recovering (.done brokenDown) next

def takePermit (max : Nat) (_ : Time) (s : State) : Bool × State :=
  if s.inFlight < max then (true, { s with inFlight := s.inFlight + 1 }) else (false, s)

def givePermit (_ : Time) (s : State) : State := { s with inFlight := s.inFlight - 1 }

/-- Lets no more than so many requests in, each for so long. -/
def throttled (g : Gateway) (ctx : Context) (next : Stage) : Stage :=
  (Activity.modifyGet (takePermit g.config.server.maxConcurrentRequests.toNat)).bind fun
    | false => .done (.ofFault .overloaded (some ctx.requestId))
    | true => .act Activity.keep fun now _ ↦
      let limit := now + g.config.server.responseTimeoutSecs.toNat * 1000
      ((next.within limit).ending givePermit).map fun
        | some r => r
        | none => .ofFault .deadlineExceeded (some ctx.requestId)

/-- The identifier that came with the request, or else a fresh one. -/
def takeId (g : Gateway) (h : Headers) (_ : Time) (s : State) : String × State :=
  match RequestId.ofHeaders? h with
  | some id => (id, s)
  | none => (g.ids.fresh s.nextId, { s with nextId := s.nextId + 1 })

/-- Gives the request its identifier and its deadline, and the response the identifier. -/
def identified (g : Gateway) (r : Request) (next : Context → Stage) : Stage :=
  (Activity.modifyGet (g.takeId r.headers)).bind fun id ↦
    .act Activity.keep fun now _ ↦
      match Deadline.after? now (g.config.timeouts.requestSecs.toNat * 1000) with
      | none => .panic
      | some deadline =>
        let ctx : Context :=
          { requestId := id
            deadline
            sessionKey := Cookie.value? r.headers Cookie.sessionName }
        (next ctx).map fun response ↦ response.withRequestId id

def compressed (r : Request) (next : Stage) : Stage := next.map (ContentCoding.apply r.headers)

/-- Answers a browser's questions and marks all other responses. -/
def crossOrigin (g : Gateway) (r : Request) (next : Stage) : Stage :=
  if !g.config.cors.enabled then next
  else if r.method = "OPTIONS" then .done ⟨200, Cors.preflight g.config.cors r.headers, []⟩
  else next.map fun response ↦
    { response with headers := Cors.mark g.config.cors r.headers response.headers }

def setStore (c : CounterStore) (s : State) : State := { s with store := c }

/-- What a client is known by: its address without the port. -/
def clientKey (r : Request) : String :=
  match r.client with
  | some a => a.ip.text
  | none => "unknown"

def countStoreError (_ : Time) (s : State) : State :=
  { s with metrics := { s.metrics with storeErrors := s.metrics.storeErrors + 1 } }

def denied (g : Gateway) : Stage :=
  (Activity.modifyGet fun _ (s : State) ↦
    (g.ids.fresh s.nextId,
      { s with
        nextId := s.nextId + 1
        metrics := { s.metrics with rateLimited := s.metrics.rateLimited + 1 } })).map fun id ↦
          .ofFault .rateLimited (some id)

/-- Stops clients that have made all their requests. -/
def rateLimited (g : Gateway) (r : Request) (next : Stage) : Stage :=
  if !g.config.rateLimit.enabled then next
  else
    let l := RateLimiter.ofConfig g.config.rateLimit
    ((l.count (clientKey r)).onPart State.store setStore).bind fun verdict ↦
      let noted : Stage → Stage := fun after ↦ match verdict with
        | .counted _ => after
        | _ => .act countStoreError fun _ _ ↦ after
      noted (if l.allows verdict then next else g.denied)

/-- The length that a request claims for its body. -/
def claimedLength? (h : Headers) : Option Nat :=
  ((h.get? Response.contentLength).bind Headers.text?).bind (Text.unsigned? Word.max64)

def lengthExceeded : Response := .plain 413 "length limit exceeded"

/-- Refuses bodies that claim to be too long; others are bounded by what they claim. -/
def bounded (g : Gateway) (r : Request) (next : Nat → Stage) : Stage :=
  let max := g.config.security.maxBodySize.toNat
  match claimedLength? r.headers with
  | none => next max
  | some n => if max < n then .done lengthExceeded else next n

/-- All stages around the handler. -/
def stagesBy (call : Caller) (g : Gateway) (r : Request) : Stage :=
  g.bounded r fun limit ↦
    g.rateLimited r <| g.crossOrigin r <| compressed r <| g.identified r fun ctx ↦
      g.throttled ctx <| caught <| authenticatedBy call g r ctx fun ctx ↦
        g.metered r <| tunnelled r <| handleBy call g r limit ctx

def stages (g : Gateway) : Request → Stage := stagesBy (Registry.call g.policy) g

/-! ### The response on its way out -/

def withAllowed (allow : List String) (r : Response) : Response :=
  if allow.isEmpty || r.headers.contains "allow" then r
  else { r with headers := r.headers.add "allow" (Utf8.encode (String.intercalate "," allow)) }

def withLength (r : Response) : Response :=
  if r.headers.contains Response.contentLength || !ContentCoding.hasLength r then r
  else
    { r with
      headers := r.headers.add Response.contentLength (Utf8.encode (toString r.body.length)) }

/-- Completes the header fields, except of what opens a tunnel, and drops the body where none is
wanted. -/
def completed (r : Request) (allow : List String) (response : Response) : Response :=
  if opensTunnel r response then response
  else
    let response := withLength (withAllowed allow response)
    if r.method = "HEAD" then { response with body := [] } else response

/-- The methods to be told when a path has no handler for the one asked for. -/
def allowedFor (g : Gateway) (r : Request) : List String :=
  match g.routes.find? r.path, g.destination r with
  | some (e, _), .wrongMethod => e.allowed
  | _, _ => []

def sealed (g : Gateway) (r : Request) (response : Response) : Response :=
  completed r (g.allowedFor r) response

/-- The whole way of a request through the gateway. -/
def serveBy (call : Caller) (g : Gateway) (r : Request) : Stage :=
  (stagesBy call g r).map (g.sealed r)

def serve (g : Gateway) : Request → Stage := serveBy (Registry.call g.policy) g

end Gateway

end RpcGateway
