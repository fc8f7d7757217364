import RpcGateway.Config.Sections
import RpcGateway.Http.Header
import RpcGateway.Net.SocketAddress
import RpcGateway.Number.Word
import RpcGateway.Text.Capital

/-!
# Problems of a configuration

The problems of a configuration, each under the name of the setting at fault. Every section is
judged by itself and no problem hides another; a configuration without problems is accepted.
-/

namespace RpcGateway.Config

structure Problem where
  field : String
  message : String
deriving DecidableEq, Repr

namespace Problem

def text (p : Problem) : String := p.field ++ ": " ++ p.message

/-- All problems in one sentence. -/
def summary (ps : List Problem) : String :=
  "Validation failed: " ++ String.intercalate ", " (ps.map text)

end Problem

def problemIf (bad : Bool) (field message : String) : List Problem :=
  if bad then [⟨field, message⟩] else []

def positive (field : String) (n : Nat) : List Problem :=
  problemIf (n == 0) field "must be greater than 0"

/-- The problems of each element of a list, in order, by its place. -/
def problemsFrom (place : Nat) (check : Nat → α → List Problem) : List α → List Problem
  | [] => []
  | a :: r => check place a ++ problemsFrom (place + 1) check r

def isMethod (m : String) : Bool := Http.isToken (Utf8.encode (Text.upper m))

def listenerProblems (c : Listener) : List Problem :=
  problemIf (Net.SocketAddress.parse? c.bindAddress).isNone "listener.bind_address"
    ("'" ++ c.bindAddress ++ "' is not a socket address")

def timeoutProblems (c : Timeouts) : List Problem :=
  positive "timeouts.connect_secs" c.connectSecs.toNat ++
    positive "timeouts.request_secs" c.requestSecs.toNat

def serverProblems (c : Server) (t : Timeouts) : List Problem :=
  positive "server.max_concurrent_requests" c.maxConcurrentRequests.toNat ++
    problemIf (c.compressionLevel < 1 || 9 < c.compressionLevel) "server.compression_level"
      "must be between 1 and 9" ++
    problemIf (c.responseTimeoutSecs < t.requestSecs) "server.response_timeout_secs"
      "must not be shorter than timeouts.request_secs"

def originProblems (i : Nat) (origin : String) : List Problem :=
  problemIf (origin != "*" && (Http.Headers.value? origin).isNone) s!"cors.allowed_origins[{i}]"
    ("invalid origin '" ++ origin ++ "'")

def methodProblems (i : Nat) (method : String) : List Problem :=
  problemIf (method != "*" && !isMethod method) s!"cors.allowed_methods[{i}]"
    ("invalid method '" ++ method ++ "'")

def corsProblems (c : Cors) : List Problem :=
  if c.enabled then
    problemsFrom 0 originProblems c.allowedOrigins ++ problemsFrom 0 methodProblems c.allowedMethods
  else []

def rateLimitProblems (c : RateLimit) : List Problem :=
  if c.enabled then
    positive "rate_limit.max_requests" c.maxRequests.toNat ++
      positive "rate_limit.window_secs" c.windowSecs.toNat ++
      positive "rate_limit.store_timeout_ms" c.storeTimeoutMs.toNat ++
      problemIf (c.store == .redis &&
          !("redis://".toList.isPrefixOf c.redisUrl.toList ||
            "rediss://".toList.isPrefixOf c.redisUrl.toList))
        "rate_limit.redis_url" "must start with redis:// or rediss://"
  else []

def circuitBreakerProblems (c : CircuitBreaker) : List Problem :=
  positive "circuit_breaker.failure_threshold" c.failureThreshold.toNat ++
    positive "circuit_breaker.open_timeout_ms" c.openTimeoutMs.toNat ++
    positive "circuit_breaker.half_open_max_requests" c.halfOpenMaxRequests.toNat

def retryProblems (c : Retries) : List Problem := positive "retries.max_retries" c.maxRetries.toNat

def logLevels : List String := ["trace", "debug", "info", "warn", "error"]

def observabilityProblems (c : Observability) : List Problem :=
  problemIf (!logLevels.contains (Text.lower c.logLevel)) "observability.log_level"
    ("unknown level '" ++ c.logLevel ++ "'")

def securityProblems (c : Security) : List Problem :=
  positive "security.max_body_size" c.maxBodySize.toNat

def shutdownProblems (c : Shutdown) : List Problem :=
  positive "shutdown.timeout_secs" c.timeoutSecs.toNat

/-- A host and a port with a colon between. -/
def isHostPort (address : String) : Bool :=
  match Text.splitLast? ':' address.toList with
  | some (host, port) => !host.isEmpty && (Text.unsigned? Word.max16 port).isSome
  | none => false

def startsWithSlash (s : String) : Bool := s.toList.head? == some '/'

/-- What two routes of one service may not share. -/
def Route.key (r : Route) : String × String := (Text.upper r.method, r.path)

def routeProblems (field : String) (earlier : List (String × String)) (r : Route) : List Problem :=
  problemIf (!isMethod r.method) (field ++ ".method") ("invalid method '" ++ r.method ++ "'") ++
    problemIf (!startsWithSlash r.path) (field ++ ".path") "must start with '/'" ++
    problemIf (r.operation == "") (field ++ ".operation") "must not be empty" ++
    problemIf (earlier.contains r.key) field ("duplicate route " ++ r.method ++ " " ++ r.path)

def routesProblems (service : Nat) (j : Nat) (earlier : List (String × String)) :
    List Route → List Problem
  | [] => []
  | r :: rest =>
    routeProblems s!"services[{service}].routes[{j}]" earlier r ++
      routesProblems service (j + 1) (r.key :: earlier) rest

def serviceProblems (i : Nat) (earlier : List String) (s : Service) : List Problem :=
  problemIf (earlier.contains s.name) s!"services[{i}].name"
      ("duplicate service '" ++ s.name ++ "'") ++
    problemIf (s.name == "" || s.name.toList.contains '/') s!"services[{i}].name"
      "must be a non-empty path segment" ++
    problemIf (!isHostPort s.address) s!"services[{i}].address"
      ("'" ++ s.address ++ "' is not host:port") ++
    routesProblems i 0 [] s.routes

def servicesProblems (i : Nat) (earlier : List String) : List Service → List Problem
  | [] => []
  | s :: rest => serviceProblems i earlier s ++ servicesProblems (i + 1) (s.name :: earlier) rest

def publicRouteProblems (i : Nat) (route : String) : List Problem :=
  problemIf (!startsWithSlash route) s!"auth.public_routes[{i}]" "must start with '/'"

def authProblems (c : Auth) (services : List Service) : List Problem :=
  if c.enabled then
    problemIf (!services.any fun s ↦ s.name == c.service) "auth.service"
        ("service '" ++ c.service ++ "' is not configured") ++
      problemIf (c.operation == "") "auth.operation" "must not be empty" ++
      problemsFrom 0 publicRouteProblems c.publicRoutes
  else []

/-- Every problem of a configuration, section by section. -/
def problems (c : Config) : List Problem :=
  listenerProblems c.listener ++ timeoutProblems c.timeouts ++
    serverProblems c.server c.timeouts ++ corsProblems c.cors ++ rateLimitProblems c.rateLimit ++
    circuitBreakerProblems c.circuitBreaker ++ retryProblems c.retries ++
    observabilityProblems c.observability ++ securityProblems c.security ++
    shutdownProblems c.shutdown ++ servicesProblems 0 [] c.services ++
    authProblems c.auth c.services

def accepted (c : Config) : Bool := c.problems.isEmpty

end RpcGateway.Config
