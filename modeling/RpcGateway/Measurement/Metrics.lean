import RpcGateway.Calls.Registry
import RpcGateway.Measurement.Labels
import RpcGateway.Number.Shortest

/-!
# Metrics

What the gateway counts: requests by their labels, how long they took, how many are under way, and
what breakers, retries and rate limits did. The text lists each family that has samples, with a
blank line after it. Labels that are written alike are one sample.

Durations are summed as doubles, where the order matters. Those since the last rendering are kept
in blocks; at a rendering each block is summed by itself and added to the total, the last block
first.
-/

namespace RpcGateway.Measurement

open Calls (Tally Registry)

/-- Labels as they are written. -/
abbrev Written := List String

/-- The durations that have been taken into the totals of one sample. -/
structure Durations where
  count : Nat := 0
  /-- How many of them each bucket holds. -/
  buckets : List Nat := [0, 0, 0, 0, 0]
  sum : Binary64 := Binary64.zero false

structure Metrics where
  services : Tally := []
  operations : List (Labels × Nat) := []
  /-- The durations in milliseconds since the last rendering, in blocks. The last block comes first,
  and in each block the last duration. -/
  fresh : List (Labels × List (List Nat)) := []
  durations : List (Written × Durations) := []
  active : List (String × Int) := []
  rateLimited : Nat := 0
  storeErrors : Nat := 0

namespace Metrics

/-- Changes the value of a key, which is `absent` if there is none. -/
def alter [DecidableEq κ] (absent : β) (change : β → β) (key : κ) : List (κ × β) → List (κ × β)
  | [] => [(key, change absent)]
  | (k, v) :: r => if k = key then (k, change v) :: r else (k, v) :: alter absent change key r

/-- A request has begun. -/
def start (l : Labels) (m : Metrics) : Metrics :=
  { m with
    services := m.services.add l.service 1
    operations := alter 0 (· + 1) l m.operations
    active := alter 0 (· + 1) l.service m.active }

/-- How many durations a block holds. -/
def blockSize : Nat := 64

/-- Puts a duration into the last block, or into a new one if that is full. -/
def record (ms : Nat) : List (List Nat) → List (List Nat)
  | [] => [[ms]]
  | block :: r => if block.length < blockSize then (ms :: block) :: r else [ms] :: block :: r

/-- A request that began `ms` ago is over. -/
def finish (l : Labels) (ms : Nat) (m : Metrics) : Metrics :=
  { m with
    fresh := alter [] (record ms) l m.fresh
    active := alter 0 (· - 1) l.service m.active }

def bounds : List (Nat × String) :=
  [(100, "0.1"), (500, "0.5"), (1000, "1"), (2000, "2"), (5000, "5")]

def plus (x y : Binary64) : Binary64 := (x.addMagnitudes? y).getD x

/-- A duration in seconds. -/
def seconds (ms : Nat) : Binary64 :=
  let whole := (Binary64.ofNat? (ms / 1000)).getD (Binary64.zero false)
  let part := (Binary64.ofRatio? false (ms % 1000) 1000).getD (Binary64.zero false)
  plus whole part

/-- The totals with a block taken in. -/
def Durations.addBlock (d : Durations) (block : List Nat) : Durations where
  count := d.count + block.length
  buckets := (d.buckets.zip bounds).map fun b ↦ b.1 + (block.filter fun ms ↦ ms ≤ b.2.1).length
  sum := plus d.sum (block.reverse.foldl (fun s ms ↦ plus s (seconds ms)) (Binary64.zero false))

/-- The shortest decimal without an exponent. -/
def decimalText (x : Binary64) : String :=
  let d := x.shortest
  let digits := Nat.toDigits 10 d.digits
  if 0 ≤ d.exponent then String.ofList (digits ++ List.replicate d.exponent.toNat '0')
  else
    let places := (-d.exponent).toNat
    let padded := List.replicate (places + 1 - digits.length) '0' ++ digits
    let whole := padded.length - places
    String.ofList (padded.take whole ++ '.' :: padded.drop whole)

/-- Backslashes, quotes and line feeds are escaped. A backslash that stands before a quote or before
another backslash counts as an escape already; `held` tells of one whose part is still open. -/
def escape (held : Bool) : List Char → List Char
  | [] => slashes held
  | c :: r =>
    if c = '\n' then '\x5c' :: 'n' :: escape held r
    else if c = '\x22' then '\x5c' :: '\x22' :: escape false r
    else if c = '\x5c' then slashes held ++ escape (!held) r
    else slashes held ++ c :: escape false r
where
  slashes (held : Bool) : List Char := if held then ['\x5c', '\x5c'] else []

def labelText (label : String × String) : String :=
  label.1 ++ "=\x22" ++ String.ofList (escape false label.2.toList) ++ "\x22"

def writtenService (service : String) : Written := [labelText ("service", service)]

def written (l : Labels) : Written :=
  writtenService l.service ++ [labelText ("operation", l.operation)]

/-- The metrics with the fresh durations taken into the totals. -/
def settled (m : Metrics) : Metrics :=
  { m with
    fresh := []
    durations := m.fresh.foldl
      (fun totals e ↦ alter {} (fun d ↦ e.2.foldl Durations.addBlock d) (written e.1) totals)
      m.durations }

def line (name : String) (labels : Written) (value : String) : String :=
  if labels.isEmpty then name ++ " " ++ value ++ "\n"
  else name ++ "\x7b" ++ String.intercalate "," labels ++ "\x7d " ++ value ++ "\n"

/-- One family of samples; without samples there is nothing. -/
def family (name kind help : String) (samples : List String) : String :=
  if samples.isEmpty then ""
  else
    "# HELP " ++ name ++ " " ++ help ++ "\n# TYPE " ++ name ++ " " ++ kind ++ "\n" ++
      String.join samples ++ "\n"

/-- Of the samples with the same labels the last one stands. -/
def lastOfEach : List (Written × String) → List (Written × String)
  | [] => []
  | s :: r => if r.any fun t ↦ t.1 = s.1 then lastOfEach r else s :: lastOfEach r

def lines (name : String) (samples : List (Written × String)) : List String :=
  (lastOfEach samples).map fun s ↦ line name s.1 s.2

def byService (name : String) (t : Tally) : List String :=
  lines name (t.map fun e ↦ (writtenService e.1, toString e.2))

def total (name : String) (n : Nat) : List String :=
  if n = 0 then [] else [line name [] (toString n)]

def durationName : String := "gateway_operation_duration_seconds"

def durationLines (e : Written × Durations) : List String :=
  (e.2.buckets.zip bounds).map (fun b ↦
      line (durationName ++ "_bucket") (e.1 ++ [labelText ("le", b.2.2)]) (toString b.1)) ++
    [line (durationName ++ "_bucket") (e.1 ++ [labelText ("le", "+Inf")]) (toString e.2.count),
      line (durationName ++ "_sum") e.1 (decimalText e.2.sum),
      line (durationName ++ "_count") e.1 (toString e.2.count)]

/-- The text of metrics whose durations are settled. -/
def text (m : Metrics) (r : Registry) : String :=
  family "gateway_service_operations_total" "counter" "Requests handled per service"
      (byService "gateway_service_operations_total" m.services) ++
    family "gateway_operations_total" "counter" "Requests handled per service and operation"
      (lines "gateway_operations_total"
        (m.operations.map fun e ↦ (written e.1, toString e.2))) ++
    family "gateway_circuit_breaker_rejections_total" "counter"
      "Calls rejected by an open circuit breaker"
      (byService "gateway_circuit_breaker_rejections_total" r.rejections) ++
    family "gateway_backend_retries_total" "counter" "Backend call retries"
      (byService "gateway_backend_retries_total" r.retries) ++
    family "gateway_rate_limited_total" "counter" "Requests denied by the rate limiter"
      (total "gateway_rate_limited_total" m.rateLimited) ++
    family "gateway_rate_limit_store_errors_total" "counter"
      "Rate limit store failures (request allowed)"
      (total "gateway_rate_limit_store_errors_total" m.storeErrors) ++
    family "gateway_active_operations" "gauge" "Requests currently in flight"
      (lines "gateway_active_operations"
        (m.active.map fun e ↦ (writtenService e.1, toString e.2))) ++
    family "gateway_circuit_breaker_state" "gauge"
      "Circuit breaker state (0=closed, 1=half-open, 2=open)"
      (lines "gateway_circuit_breaker_state"
        (r.services.map fun s ↦
          (writtenService s.name, toString s.breaker.published.gauge.gauge))) ++
    family durationName "histogram" "Request duration in seconds"
      (m.durations.flatMap durationLines)

end Metrics

end RpcGateway.Measurement
