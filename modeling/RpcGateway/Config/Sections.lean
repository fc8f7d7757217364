/-!
# Configuration

What an operator can set, section by section, with the value that each setting has when it is left
out. Numbers are words of 32 or 64 bits. The routes of the two services of the default configuration
are part of it.
-/

namespace RpcGateway.Config

structure Listener where
  bindAddress : String := "0.0.0.0:8080"
deriving DecidableEq, Repr

structure Timeouts where
  connectSecs : UInt64 := 5
  requestSecs : UInt64 := 30
  idleSecs : UInt64 := 60
deriving DecidableEq, Repr

structure Server where
  maxConcurrentRequests : UInt64 := 10
  compressionLevel : UInt32 := 5
  responseTimeoutSecs : UInt64 := 60
deriving DecidableEq, Repr

structure Cors where
  enabled : Bool := true
  allowedOrigins : List String := ["*"]
  allowedMethods : List String := ["*"]
  allowCredentials : Bool := true
  maxAgeSecs : UInt64 := 3600
deriving DecidableEq, Repr

inductive StoreKind where
  | memory
  | redis
deriving DecidableEq, Repr

structure RateLimit where
  enabled : Bool := true
  maxRequests : UInt64 := 50
  windowSecs : UInt64 := 60
  store : StoreKind := .memory
  redisUrl : String := "redis://127.0.0.1:6379"
  storeTimeoutMs : UInt64 := 250
deriving DecidableEq, Repr

structure CircuitBreaker where
  failureThreshold : UInt32 := 6
  openTimeoutMs : UInt64 := 300000
  halfOpenMaxRequests : UInt32 := 5
  rollingIntervalMs : UInt64 := 60000
deriving DecidableEq, Repr

structure Retries where
  maxRetries : UInt32 := 3
  baseDelayMs : UInt64 := 1000
deriving DecidableEq, Repr

structure Auth where
  enabled : Bool := true
  service : String := "users"
  operation : String := "ExtJWTData"
  publicRoutes : List String := ["/api/users/reg", "/api/users/log", "/metrics", "/"]
deriving DecidableEq, Repr

structure Observability where
  logLevel : String := "info"
  metricsEnabled : Bool := true
deriving DecidableEq, Repr

structure Security where
  maxBodySize : UInt64 := 2097152
  secureCookies : Bool := false
deriving DecidableEq, Repr

structure Route where
  method : String
  path : String
  operation : String
deriving DecidableEq, Repr

structure Service where
  name : String
  address : String
  routes : List Route := []
deriving DecidableEq, Repr

structure Shutdown where
  timeoutSecs : UInt64 := 10
deriving DecidableEq, Repr

def defaultServices : List Service :=
  [{ name := "users"
     address := "127.0.0.1:50051"
     routes :=
      [⟨"POST", "/reg", "RegUser"⟩, ⟨"POST", "/log", "LogUser"⟩,
        ⟨"DELETE", "/del/\x7bdelUserId\x7d", "DelUser"⟩,
        ⟨"GET", "/extUserId/\x7btoken\x7d", "ExtUserId"⟩] },
    { name := "orders"
      address := "127.0.0.1:50052"
      routes :=
      [⟨"POST", "/", "AddOrder"⟩, ⟨"GET", "/\x7borderID\x7d", "OrderInfo"⟩,
        ⟨"DELETE", "/del/\x7borderID\x7d", "DelOrder"⟩] }]

end RpcGateway.Config

namespace RpcGateway

open Config in
structure Config where
  listener : Listener := {}
  timeouts : Timeouts := {}
  server : Server := {}
  cors : Cors := {}
  rateLimit : RateLimit := {}
  circuitBreaker : CircuitBreaker := {}
  retries : Retries := {}
  auth : Auth := {}
  observability : Observability := {}
  security : Security := {}
  services : List Service := defaultServices
  shutdown : Shutdown := {}
deriving DecidableEq, Repr

/-- The first service of a name. -/
def Config.service? (c : Config) (name : String) : Option Config.Service :=
  c.services.find? fun s ↦ s.name = name

end RpcGateway
