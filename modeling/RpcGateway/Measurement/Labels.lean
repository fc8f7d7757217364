import RpcGateway.Text.Pieces

/-!
# Metric labels

A request is counted under a service and an operation, which are read off its method and the
non-empty segments of its path. Long segments count as identifiers, and only the first segments
after the service are kept. Paths that lead to no known service share one label.
-/

namespace RpcGateway.Measurement

structure Labels where
  service : String
  operation : String
deriving DecidableEq, Repr

namespace Labels

/-- Segments of this many octets or more are identifiers. -/
def identifierLength : Nat := 32

/-- How many segments after the service are kept. -/
def maxDepth : Nat := 2

def unknown : Labels := ⟨"unknown", "other"⟩

/-- The first segments that need not be a service. -/
def topLevel : List String := ["metrics"]

def segments (path : String) : List String :=
  ((Text.splitOn '/' path.toList).filter fun s ↦ !s.isEmpty).map String.ofList

def segmentLabel (s : String) : String :=
  if identifierLength ≤ s.utf8ByteSize then "by_id" else s

def methodLabel (method : String) : String :=
  if method = "GET" ∨ method = "HEAD" then "root" else Text.lower method

/-- The label of the segments after the service. -/
def operationLabel (method : String) (rest : List String) : String :=
  if rest.isEmpty then methodLabel method
  else
    String.intercalate "_"
      ((rest.take maxDepth).map segmentLabel ++ if maxDepth < rest.length then ["etc"] else [])

/-- The labels of a path whose first segments are taken at their word. -/
def ofSegments (method : String) : List String → Labels
  | [] => ⟨"root", operationLabel method []⟩
  | ["api"] => ⟨"api", "api"⟩
  | "api" :: service :: rest => ⟨service, operationLabel method rest⟩
  | first :: rest => ⟨first, operationLabel method rest⟩

def ofPath (method path : String) : Labels := ofSegments method (segments path)

/-- The labels of a path given the services there are. -/
def derive (services : List String) (method path : String) : Labels :=
  match segments path with
  | "api" :: service :: _ =>
    if services.contains service then ofPath method path else unknown
  | ["api"] => ofPath method path
  | [] => ofPath method path
  | first :: _ => if topLevel.contains first then ofPath method path else unknown

end Labels

end RpcGateway.Measurement
