import RpcGateway.Config.Decode
import RpcGateway.Proofs.Json.Omissions

/-!
# Settings that are left out

A section of a configuration is read from its written form, from which any settings may be left out.
What comes of it is the section with the default for each setting that is left out, and with every
other setting as it was. Each section has its own settings and defaults; that one setting is read
apart from all others is the same argument for all of them.
-/

namespace RpcGateway

open Json

/-- The default of a field that is left out, or else its value. -/
def Json.Places.settle (gone : Places) (name : String) (absent value : α) : α :=
  if gone.hasField name then absent else value

/-- All results of a list are there, or there is none. -/
theorem mapM_eq_some_iff {α β : Type} {f : α → Option β} {l : List α} {l' : List β} :
    l.mapM f = some l' ↔ l.map f = l'.map some := by
  induction l generalizing l' with
  | nil => cases l' <;> simp
  | cons a l ih =>
    cases l' with
    | nil => simp [List.mapM_cons, Option.bind_eq_some_iff]
    | cons b l' =>
      simp only [List.mapM_cons, List.map_cons, List.cons.injEq, ← ih]
      cases f a <;> cases l.mapM f <;> simp

theorem mapM_isSome_iff {α β : Type} {f : α → Option β} {l : List α} :
    (l.mapM f).isSome ↔ ∀ a ∈ l, (f a).isSome := by
  induction l with
  | nil => simp
  | cons a l ih =>
    rw [List.forall_mem_cons, ← ih, List.mapM_cons]
    cases f a <;> cases l.mapM f <;> simp

namespace Config

variable {d : Dialect} {gone : Places} {v w : Value} {name : String}

/-! ## One setting -/

/-- The settings of a value from which some are left out. -/
def remaining (gone : Places) (v : Value) : Members := (v.without gone).get?

/-- A section is read from the members that are left. -/
theorem members?_bind (names : List String) (fields : List (String × Value))
    (f : Members → Option β) : members? d names ((record fields).without gone) >>= f =
      f (remaining gone (record fields)) := rfl

/-- A member is left if its field is, without what is missing behind it. -/
theorem remaining_eq (hget : v.get? name = some w) :
    remaining gone v name =
      if gone.hasField name then none else some (w.without (gone.behind (.field name))) := by
  rw [remaining, Value.get?_without, hget, Option.map_some]

variable {decode : Value → Option α} {a absent : α}

/-- A field that is there is decoded. -/
theorem optional?_of_kept (hget : v.get? name = some w) (hkept : gone.hasField name = false) :
    (remaining gone v).optional? name decode absent =
      decode (w.without (gone.behind (.field name))) := by
  rw [Members.optional?, remaining_eq hget, hkept]
  rfl

/-- A setting with a default has its default just if it is left out. Whether it can be read matters
only if it is not. -/
theorem optional?_settle (hget : v.get? name = some w)
    (hdecode : gone.hasField name = false →
      decode (w.without (gone.behind (.field name))) = some a) :
    (remaining gone v).optional? name decode absent = some (gone.settle name absent a) := by
  rw [Places.settle]
  cases hgone : gone.hasField name with
  | true => rw [Members.optional?, remaining_eq hget, if_pos hgone, if_pos rfl]
  | false => exact (optional?_of_kept hget hgone).trans (hdecode hgone)

/-- The same where the value can be decoded whether the field is there or not. -/
theorem optional?_remaining (hget : v.get? name = some w)
    (hdecode : decode (w.without (gone.behind (.field name))) = some a) :
    (remaining gone v).optional? name decode absent = some (gone.settle name absent a) :=
  optional?_settle hget fun _ ↦ hdecode

/-- A setting without a default is missed just if it is left out. -/
theorem required?_remaining (hget : v.get? name = some w)
    (hdecode : decode (w.without (gone.behind (.field name))) = some a) :
    (remaining gone v).required? name decode = if gone.hasField name then none else some a := by
  rw [Members.required?, remaining_eq hget]
  cases gone.hasField name with
  | true => rfl
  | false => exact hdecode

/-- A number of 64 bits is read back. -/
theorem u64?_nat (n : UInt64) : u64? (.nat n.toNat) = some n := by
  have hle : (n.toNat : Int) ≤ Word.max64 := by
    have hlt := n.toNat_lt
    unfold Word.max64
    omega
  simp [u64?, natural?, Value.nat, hle]

theorem u32?_nat (n : UInt32) : u32? (.nat n.toNat) = some n := by
  have hle : (n.toNat : Int) ≤ Word.max32 := by
    have hlt := n.toNat_lt
    unfold Word.max32
    omega
  simp [u32?, natural?, Value.nat, hle]

theorem bool?_without (b : Bool) : bool? ((Value.bool b).without gone) = some b := rfl

theorem string?_without (s : String) : ((Value.string s).without gone).string? = some s := rfl

/-- Texts in a list can lose nothing: a place behind one of them is not reached. -/
theorem strings?_without (xs : List String) :
    strings? ((Value.strings xs).without gone) = some xs := by
  rw [Value.without_strings, Value.strings, strings?, list?, mapM_eq_some_iff, List.map_map]
  rfl

/-! ## The sections -/

namespace Listener

/-- The section with defaults for the settings that are left out. -/
def defaulted (gone : Places) (c : Listener) : Listener where
  bindAddress := gone.settle "bind_address" ({} : Listener).bindAddress c.bindAddress

theorem decode?_without (c : Listener) :
    decode? d (c.json.without gone) = some (c.defaulted gone) := by
  -- the `rfl` looks the setting up in the written section, here and in those below
  rw [decode?, json, members?_bind, optional?_remaining rfl (string?_without _)]
  rfl

end Listener

namespace Timeouts

def defaulted (gone : Places) (c : Timeouts) : Timeouts where
  connectSecs := gone.settle "connect_secs" ({} : Timeouts).connectSecs c.connectSecs
  requestSecs := gone.settle "request_secs" ({} : Timeouts).requestSecs c.requestSecs
  idleSecs := gone.settle "idle_secs" ({} : Timeouts).idleSecs c.idleSecs

theorem decode?_without (c : Timeouts) :
    decode? d (c.json.without gone) = some (c.defaulted gone) := by
  rw [decode?, json, members?_bind,
    optional?_remaining rfl (u64?_nat _), optional?_remaining rfl (u64?_nat _),
    optional?_remaining rfl (u64?_nat _)]
  rfl

end Timeouts

namespace Server

def defaulted (gone : Places) (c : Server) : Server where
  maxConcurrentRequests := gone.settle "max_concurrent_requests"
    ({} : Server).maxConcurrentRequests c.maxConcurrentRequests
  compressionLevel := gone.settle "compression_level" ({} : Server).compressionLevel
    c.compressionLevel
  responseTimeoutSecs := gone.settle "response_timeout_secs" ({} : Server).responseTimeoutSecs
    c.responseTimeoutSecs

theorem decode?_without (c : Server) :
    decode? d (c.json.without gone) = some (c.defaulted gone) := by
  rw [decode?, json, members?_bind,
    optional?_remaining rfl (u64?_nat _), optional?_remaining rfl (u32?_nat _),
    optional?_remaining rfl (u64?_nat _)]
  rfl

end Server

namespace Cors

def defaulted (gone : Places) (c : Cors) : Cors where
  enabled := gone.settle "enabled" ({} : Cors).enabled c.enabled
  allowedOrigins := gone.settle "allowed_origins" ({} : Cors).allowedOrigins c.allowedOrigins
  allowedMethods := gone.settle "allowed_methods" ({} : Cors).allowedMethods c.allowedMethods
  allowCredentials := gone.settle "allow_credentials" ({} : Cors).allowCredentials
    c.allowCredentials
  maxAgeSecs := gone.settle "max_age_secs" ({} : Cors).maxAgeSecs c.maxAgeSecs

theorem decode?_without (c : Cors) :
    decode? d (c.json.without gone) = some (c.defaulted gone) := by
  rw [decode?, json, members?_bind,
    optional?_remaining rfl (bool?_without _), optional?_remaining rfl (strings?_without _),
    optional?_remaining rfl (strings?_without _), optional?_remaining rfl (bool?_without _),
    optional?_remaining rfl (u64?_nat _)]
  rfl

end Cors

/-- Nothing can be missing from the name of a store. -/
theorem StoreKind.decode?_without (k : StoreKind) :
    decode? d ((Value.string k.name).without gone) = some k := by
  cases k <;> rfl

namespace RateLimit

def defaulted (gone : Places) (c : RateLimit) : RateLimit where
  enabled := gone.settle "enabled" ({} : RateLimit).enabled c.enabled
  maxRequests := gone.settle "max_requests" ({} : RateLimit).maxRequests c.maxRequests
  windowSecs := gone.settle "window_secs" ({} : RateLimit).windowSecs c.windowSecs
  store := gone.settle "store" ({} : RateLimit).store c.store
  redisUrl := gone.settle "redis_url" ({} : RateLimit).redisUrl c.redisUrl
  storeTimeoutMs := gone.settle "store_timeout_ms" ({} : RateLimit).storeTimeoutMs c.storeTimeoutMs

theorem decode?_without (c : RateLimit) :
    decode? d (c.json.without gone) = some (c.defaulted gone) := by
  rw [decode?, json, members?_bind,
    optional?_remaining rfl (bool?_without _), optional?_remaining rfl (u64?_nat _),
    optional?_remaining rfl (u64?_nat _), optional?_remaining rfl (StoreKind.decode?_without _),
    optional?_remaining rfl (string?_without _), optional?_remaining rfl (u64?_nat _)]
  rfl

end RateLimit

namespace CircuitBreaker

def defaulted (gone : Places) (c : CircuitBreaker) : CircuitBreaker where
  failureThreshold := gone.settle "failure_threshold" ({} : CircuitBreaker).failureThreshold
    c.failureThreshold
  openTimeoutMs := gone.settle "open_timeout_ms" ({} : CircuitBreaker).openTimeoutMs
    c.openTimeoutMs
  halfOpenMaxRequests := gone.settle "half_open_max_requests"
    ({} : CircuitBreaker).halfOpenMaxRequests c.halfOpenMaxRequests
  rollingIntervalMs := gone.settle "rolling_interval_ms" ({} : CircuitBreaker).rollingIntervalMs
    c.rollingIntervalMs

theorem decode?_without (c : CircuitBreaker) :
    decode? d (c.json.without gone) = some (c.defaulted gone) := by
  rw [decode?, json, members?_bind,
    optional?_remaining rfl (u32?_nat _), optional?_remaining rfl (u64?_nat _),
    optional?_remaining rfl (u32?_nat _), optional?_remaining rfl (u64?_nat _)]
  rfl

end CircuitBreaker

namespace Retries

def defaulted (gone : Places) (c : Retries) : Retries where
  maxRetries := gone.settle "max_retries" ({} : Retries).maxRetries c.maxRetries
  baseDelayMs := gone.settle "base_delay_ms" ({} : Retries).baseDelayMs c.baseDelayMs

theorem decode?_without (c : Retries) :
    decode? d (c.json.without gone) = some (c.defaulted gone) := by
  rw [decode?, json, members?_bind,
    optional?_remaining rfl (u32?_nat _), optional?_remaining rfl (u64?_nat _)]
  rfl

end Retries

namespace Auth

def defaulted (gone : Places) (c : Auth) : Auth where
  enabled := gone.settle "enabled" ({} : Auth).enabled c.enabled
  service := gone.settle "service" ({} : Auth).service c.service
  operation := gone.settle "operation" ({} : Auth).operation c.operation
  publicRoutes := gone.settle "public_routes" ({} : Auth).publicRoutes c.publicRoutes

theorem decode?_without (c : Auth) :
    decode? d (c.json.without gone) = some (c.defaulted gone) := by
  rw [decode?, json, members?_bind,
    optional?_remaining rfl (bool?_without _), optional?_remaining rfl (string?_without _),
    optional?_remaining rfl (string?_without _), optional?_remaining rfl (strings?_without _)]
  rfl

end Auth

namespace Observability

def defaulted (gone : Places) (c : Observability) : Observability where
  logLevel := gone.settle "log_level" ({} : Observability).logLevel c.logLevel
  metricsEnabled := gone.settle "metrics_enabled" ({} : Observability).metricsEnabled
    c.metricsEnabled

theorem decode?_without (c : Observability) :
    decode? d (c.json.without gone) = some (c.defaulted gone) := by
  rw [decode?, json, members?_bind,
    optional?_remaining rfl (string?_without _), optional?_remaining rfl (bool?_without _)]
  rfl

end Observability

namespace Security

def defaulted (gone : Places) (c : Security) : Security where
  maxBodySize := gone.settle "max_body_size" ({} : Security).maxBodySize c.maxBodySize
  secureCookies := gone.settle "secure_cookies" ({} : Security).secureCookies c.secureCookies

theorem decode?_without (c : Security) :
    decode? d (c.json.without gone) = some (c.defaulted gone) := by
  rw [decode?, json, members?_bind,
    optional?_remaining rfl (u64?_nat _), optional?_remaining rfl (bool?_without _)]
  rfl

end Security

namespace Shutdown

def defaulted (gone : Places) (c : Shutdown) : Shutdown where
  timeoutSecs := gone.settle "timeout_secs" ({} : Shutdown).timeoutSecs c.timeoutSecs

theorem decode?_without (c : Shutdown) :
    decode? d (c.json.without gone) = some (c.defaulted gone) := by
  rw [decode?, json, members?_bind,
    optional?_remaining rfl (u64?_nat _)]
  rfl

end Shutdown

end Config

end RpcGateway
