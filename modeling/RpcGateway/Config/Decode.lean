import RpcGateway.Config.Sections
import RpcGateway.Json.Value
import RpcGateway.Number.Word

/-!
# Configuration as data

A configuration is written as an object of its sections. It is read from such an object, in which a
setting that is left out has its default and unknown names are passed over, or from an array of the
settings in their order. The two file formats differ in what they make of an array that is too long
and in how a bare choice may carry a payload; `Dialect` holds that difference.
-/

namespace RpcGateway.Config

open Json

structure Dialect where
  /-- Whether an array may have more elements than there are settings. -/
  extraElements : Bool
  /-- The payloads that a choice without data may carry. -/
  emptyPayload : Value → Bool

def isNull : Value → Bool
  | .null => true
  | _ => false

def isEmptyContainer : Value → Bool
  | .array [] => true
  | .object [] => true
  | _ => false

def Dialect.json : Dialect := ⟨false, isNull⟩

def Dialect.toml : Dialect := ⟨true, isEmptyContainer⟩

abbrev Members := String → Option Value

/-- The settings with the given names, by name or by position. -/
def members? (d : Dialect) (names : List String) : Value → Option Members
  | .object fields => some fun n ↦ (Value.object fields).get? n
  | .array elements =>
    if d.extraElements || elements.length ≤ names.length then
      some fun n ↦ elements[names.idxOf n]?
    else none
  | _ => none

def Members.required? (m : Members) (name : String) (decode : Value → Option α) : Option α :=
  (m name).bind decode

def Members.optional? (m : Members) (name : String) (decode : Value → Option α) (absent : α) :
    Option α :=
  match m name with
  | some v => decode v
  | none => some absent

/-- An integer from 0 to `max`. -/
def natural? (max : Nat) : Value → Option Nat
  | .number (.int n) => if 0 ≤ n ∧ n ≤ max then some n.toNat else none
  | _ => none

def u32? (v : Value) : Option UInt32 := (natural? Word.max32 v).map UInt32.ofNat

def u64? (v : Value) : Option UInt64 := (natural? Word.max64 v).map UInt64.ofNat

def bool? : Value → Option Bool
  | .bool b => some b
  | _ => none

def list? (decode : Value → Option α) : Value → Option (List α)
  | .array elements => elements.mapM decode
  | _ => none

def strings? : Value → Option (List String) := list? Value.string?

namespace Listener

def decode? (d : Dialect) (v : Value) : Option Listener := do
  let m ← members? d ["bind_address"] v
  let bindAddress ← m.optional? "bind_address" Value.string? ({} : Listener).bindAddress
  return { bindAddress }

def json (c : Listener) : Value := record [("bind_address", .string c.bindAddress)]

end Listener

namespace Timeouts

def decode? (d : Dialect) (v : Value) : Option Timeouts := do
  let m ← members? d ["connect_secs", "request_secs", "idle_secs"] v
  let connectSecs ← m.optional? "connect_secs" u64? ({} : Timeouts).connectSecs
  let requestSecs ← m.optional? "request_secs" u64? ({} : Timeouts).requestSecs
  let idleSecs ← m.optional? "idle_secs" u64? ({} : Timeouts).idleSecs
  return { connectSecs, requestSecs, idleSecs }

def json (c : Timeouts) : Value :=
  record [("connect_secs", .nat c.connectSecs.toNat), ("request_secs", .nat c.requestSecs.toNat),
    ("idle_secs", .nat c.idleSecs.toNat)]

end Timeouts

namespace Server

def decode? (d : Dialect) (v : Value) : Option Server := do
  let m ← members? d ["max_concurrent_requests", "compression_level", "response_timeout_secs"] v
  let maxConcurrentRequests ←
    m.optional? "max_concurrent_requests" u64? ({} : Server).maxConcurrentRequests
  let compressionLevel ← m.optional? "compression_level" u32? ({} : Server).compressionLevel
  let responseTimeoutSecs ←
    m.optional? "response_timeout_secs" u64? ({} : Server).responseTimeoutSecs
  return { maxConcurrentRequests, compressionLevel, responseTimeoutSecs }

def json (c : Server) : Value :=
  record [("max_concurrent_requests", .nat c.maxConcurrentRequests.toNat),
    ("compression_level", .nat c.compressionLevel.toNat),
    ("response_timeout_secs", .nat c.responseTimeoutSecs.toNat)]

end Server

namespace Cors

def decode? (d : Dialect) (v : Value) : Option Cors := do
  let m ← members? d
    ["enabled", "allowed_origins", "allowed_methods", "allow_credentials", "max_age_secs"] v
  let enabled ← m.optional? "enabled" bool? ({} : Cors).enabled
  let allowedOrigins ← m.optional? "allowed_origins" strings? ({} : Cors).allowedOrigins
  let allowedMethods ← m.optional? "allowed_methods" strings? ({} : Cors).allowedMethods
  let allowCredentials ← m.optional? "allow_credentials" bool? ({} : Cors).allowCredentials
  let maxAgeSecs ← m.optional? "max_age_secs" u64? ({} : Cors).maxAgeSecs
  return { enabled, allowedOrigins, allowedMethods, allowCredentials, maxAgeSecs }

def json (c : Cors) : Value :=
  record [("enabled", .bool c.enabled), ("allowed_origins", .strings c.allowedOrigins),
    ("allowed_methods", .strings c.allowedMethods), ("allow_credentials", .bool c.allowCredentials),
    ("max_age_secs", .nat c.maxAgeSecs.toNat)]

end Cors

namespace StoreKind

def name : StoreKind → String
  | memory => "memory"
  | redis => "redis"

def ofName? (s : String) : Option StoreKind := [memory, redis].find? fun k ↦ k.name = s

def decode? (d : Dialect) : Value → Option StoreKind
  | .string s => ofName? s
  | .object [(s, payload)] => if d.emptyPayload payload then ofName? s else none
  | _ => none

end StoreKind

namespace RateLimit

def decode? (d : Dialect) (v : Value) : Option RateLimit := do
  let m ← members? d
    ["enabled", "max_requests", "window_secs", "store", "redis_url", "store_timeout_ms"] v
  let enabled ← m.optional? "enabled" bool? ({} : RateLimit).enabled
  let maxRequests ← m.optional? "max_requests" u64? ({} : RateLimit).maxRequests
  let windowSecs ← m.optional? "window_secs" u64? ({} : RateLimit).windowSecs
  let store ← m.optional? "store" (StoreKind.decode? d) ({} : RateLimit).store
  let redisUrl ← m.optional? "redis_url" Value.string? ({} : RateLimit).redisUrl
  let storeTimeoutMs ← m.optional? "store_timeout_ms" u64? ({} : RateLimit).storeTimeoutMs
  return { enabled, maxRequests, windowSecs, store, redisUrl, storeTimeoutMs }

def json (c : RateLimit) : Value :=
  record [("enabled", .bool c.enabled), ("max_requests", .nat c.maxRequests.toNat),
    ("window_secs", .nat c.windowSecs.toNat), ("store", .string c.store.name),
    ("redis_url", .string c.redisUrl), ("store_timeout_ms", .nat c.storeTimeoutMs.toNat)]

end RateLimit

namespace CircuitBreaker

def decode? (d : Dialect) (v : Value) : Option CircuitBreaker := do
  let m ← members? d
    ["failure_threshold", "open_timeout_ms", "half_open_max_requests", "rolling_interval_ms"] v
  let failureThreshold ← m.optional? "failure_threshold" u32? ({} : CircuitBreaker).failureThreshold
  let openTimeoutMs ← m.optional? "open_timeout_ms" u64? ({} : CircuitBreaker).openTimeoutMs
  let halfOpenMaxRequests ←
    m.optional? "half_open_max_requests" u32? ({} : CircuitBreaker).halfOpenMaxRequests
  let rollingIntervalMs ←
    m.optional? "rolling_interval_ms" u64? ({} : CircuitBreaker).rollingIntervalMs
  return { failureThreshold, openTimeoutMs, halfOpenMaxRequests, rollingIntervalMs }

def json (c : CircuitBreaker) : Value :=
  record [("failure_threshold", .nat c.failureThreshold.toNat),
    ("open_timeout_ms", .nat c.openTimeoutMs.toNat),
    ("half_open_max_requests", .nat c.halfOpenMaxRequests.toNat),
    ("rolling_interval_ms", .nat c.rollingIntervalMs.toNat)]

end CircuitBreaker

namespace Retries

def decode? (d : Dialect) (v : Value) : Option Retries := do
  let m ← members? d ["max_retries", "base_delay_ms"] v
  let maxRetries ← m.optional? "max_retries" u32? ({} : Retries).maxRetries
  let baseDelayMs ← m.optional? "base_delay_ms" u64? ({} : Retries).baseDelayMs
  return { maxRetries, baseDelayMs }

def json (c : Retries) : Value :=
  record [("max_retries", .nat c.maxRetries.toNat), ("base_delay_ms", .nat c.baseDelayMs.toNat)]

end Retries

namespace Auth

def decode? (d : Dialect) (v : Value) : Option Auth := do
  let m ← members? d ["enabled", "service", "operation", "public_routes"] v
  let enabled ← m.optional? "enabled" bool? ({} : Auth).enabled
  let service ← m.optional? "service" Value.string? ({} : Auth).service
  let operation ← m.optional? "operation" Value.string? ({} : Auth).operation
  let publicRoutes ← m.optional? "public_routes" strings? ({} : Auth).publicRoutes
  return { enabled, service, operation, publicRoutes }

def json (c : Auth) : Value :=
  record [("enabled", .bool c.enabled), ("service", .string c.service),
    ("operation", .string c.operation), ("public_routes", .strings c.publicRoutes)]

end Auth

namespace Observability

def decode? (d : Dialect) (v : Value) : Option Observability := do
  let m ← members? d ["log_level", "metrics_enabled"] v
  let logLevel ← m.optional? "log_level" Value.string? ({} : Observability).logLevel
  let metricsEnabled ← m.optional? "metrics_enabled" bool? ({} : Observability).metricsEnabled
  return { logLevel, metricsEnabled }

def json (c : Observability) : Value :=
  record [("log_level", .string c.logLevel), ("metrics_enabled", .bool c.metricsEnabled)]

end Observability

namespace Security

def decode? (d : Dialect) (v : Value) : Option Security := do
  let m ← members? d ["max_body_size", "secure_cookies"] v
  let maxBodySize ← m.optional? "max_body_size" u64? ({} : Security).maxBodySize
  let secureCookies ← m.optional? "secure_cookies" bool? ({} : Security).secureCookies
  return { maxBodySize, secureCookies }

def json (c : Security) : Value :=
  record [("max_body_size", .nat c.maxBodySize.toNat), ("secure_cookies", .bool c.secureCookies)]

end Security

namespace Route

def decode? (d : Dialect) (v : Value) : Option Route := do
  let m ← members? d ["method", "path", "operation"] v
  let method ← m.required? "method" Value.string?
  let path ← m.required? "path" Value.string?
  let operation ← m.required? "operation" Value.string?
  return { method, path, operation }

def json (c : Route) : Value :=
  record [("method", .string c.method), ("path", .string c.path),
    ("operation", .string c.operation)]

end Route

namespace Service

def decode? (d : Dialect) (v : Value) : Option Service := do
  let m ← members? d ["name", "address", "routes"] v
  let name ← m.required? "name" Value.string?
  let address ← m.required? "address" Value.string?
  let routes ← m.optional? "routes" (list? (Route.decode? d)) []
  return { name, address, routes }

def json (c : Service) : Value :=
  record [("name", .string c.name), ("address", .string c.address),
    ("routes", .array (c.routes.map Route.json))]

end Service

namespace Shutdown

def decode? (d : Dialect) (v : Value) : Option Shutdown := do
  let m ← members? d ["timeout_secs"] v
  let timeoutSecs ← m.optional? "timeout_secs" u64? ({} : Shutdown).timeoutSecs
  return { timeoutSecs }

def json (c : Shutdown) : Value := record [("timeout_secs", .nat c.timeoutSecs.toNat)]

end Shutdown

def sectionNames : List String :=
  ["listener", "timeouts", "server", "cors", "rate_limit", "circuit_breaker", "retries", "auth",
    "observability", "security", "services", "shutdown"]

def decode? (d : Dialect) (v : Value) : Option Config := do
  let m ← members? d sectionNames v
  let listener ← m.optional? "listener" (Listener.decode? d) {}
  let timeouts ← m.optional? "timeouts" (Timeouts.decode? d) {}
  let server ← m.optional? "server" (Server.decode? d) {}
  let cors ← m.optional? "cors" (Cors.decode? d) {}
  let rateLimit ← m.optional? "rate_limit" (RateLimit.decode? d) {}
  let circuitBreaker ← m.optional? "circuit_breaker" (CircuitBreaker.decode? d) {}
  let retries ← m.optional? "retries" (Retries.decode? d) {}
  let auth ← m.optional? "auth" (Auth.decode? d) {}
  let observability ← m.optional? "observability" (Observability.decode? d) {}
  let security ← m.optional? "security" (Security.decode? d) {}
  let services ← m.optional? "services" (list? (Service.decode? d)) defaultServices
  let shutdown ← m.optional? "shutdown" (Shutdown.decode? d) {}
  return { listener, timeouts, server, cors, rateLimit, circuitBreaker, retries, auth,
           observability, security, services, shutdown }

def json (c : Config) : Value :=
  record [("listener", c.listener.json), ("timeouts", c.timeouts.json), ("server", c.server.json),
    ("cors", c.cors.json), ("rate_limit", c.rateLimit.json),
    ("circuit_breaker", c.circuitBreaker.json), ("retries", c.retries.json), ("auth", c.auth.json),
    ("observability", c.observability.json), ("security", c.security.json),
    ("services", .array (c.services.map Service.json)), ("shutdown", c.shutdown.json)]

end RpcGateway.Config
