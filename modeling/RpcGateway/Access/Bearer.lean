import RpcGateway.Gateway.Fault
import RpcGateway.Http.Header

/-!
# Bearer tokens

The token of an authorization header: the word `Bearer`, one blank, and a token without blanks.
-/

namespace RpcGateway.Access

open Http

def scheme : List Char := ['B', 'e', 'a', 'r', 'e', 'r']

def tokenOf? (header : List Char) : Option (List Char) :=
  match Text.splitOnce? ' ' header with
  | some (s, token) => if s = scheme ∧ token ≠ [] ∧ ' ' ∉ token then some token else none
  | none => none

/-- The token of the first authorization header. -/
def bearerToken (h : Headers) : Except Fault String :=
  match h.get? "authorization" with
  | none => .error (.unauthenticated "authorization header required")
  | some value =>
    match (Headers.text? value).bind tokenOf? with
    | some token => .ok (String.ofList token)
    | none => .error (.unauthenticated "invalid authorization format")

end RpcGateway.Access
