import RpcGateway.Http.Response

/-!
# Content coding

Whether a response is compressed. Of the codings that a client accepts the one with the highest
weight is taken, and compression rather than none if both have the same; bodies below `minSize`
stay as they are. A compressed body has no length that could be told in advance. Bodies are kept
as they are before compression.
-/

namespace RpcGateway.Http.ContentCoding

inductive Coding where
  | identity
  | gzip
deriving DecidableEq, Repr

def minSize : Nat := 32

def isBlank (c : Char) : Bool := c == ' ' || c == '\t'

def coding? (s : List Char) : Option Coding :=
  let name := String.ofList (s.map Char.toLower)
  if name = "gzip" ∨ name = "x-gzip" then some .gzip
  else if name = "identity" then some .identity
  else none

/-- Up to three decimals, in thousandths. -/
def decimals? (factor value : Nat) : List Char → Option Nat
  | [] => if value ≤ 1000 then some value else none
  | c :: r =>
    if Text.isDigit c && 0 < factor then
      decimals? (factor / 10) (value + factor * Text.hexValue c) r
    else none

/-- A weight between zero and one, in thousandths. -/
def weight? : List Char → Option Nat
  | q :: '=' :: d :: r =>
    if q = 'q' ∨ q = 'Q' then
      let whole := if d = '0' then some 0 else if d = '1' then some 1000 else none
      match whole, r with
      | some n, [] => some n
      | some n, '.' :: r => decimals? 100 n r
      | _, _ => none
    else none
  | _ => none

/-- One coding that a client names, with its weight. -/
def preference? (s : List Char) : Option (Coding × Nat) :=
  match Text.splitOnce? ';' s with
  | none => (coding? (Text.trim isBlank s)).map fun c ↦ (c, 1000)
  | some (name, weight) => do
    let c ← coding? (Text.trim isBlank name)
    let w ← weight? (Text.trim isBlank weight)
    return (c, w)

def preferences (request : Headers) : List (Coding × Nat) :=
  ((request.all "accept-encoding").filterMap Headers.text?).flatMap fun s ↦
    (Text.splitOn ',' s).filterMap preference?

def heaviest (ps : List (Coding × Nat)) (c : Coding) : Nat :=
  ((ps.filter fun p ↦ p.1 = c).map Prod.snd).foldl max 0

/-- The coding that a client likes best. -/
def preferred (request : Headers) : Coding :=
  let ps := preferences request
  let gzip := heaviest ps .gzip
  if 0 < gzip ∧ heaviest ps .identity ≤ gzip then .gzip else .identity

/-- Whether one text stands somewhere in another, in any case. -/
def mentions (word : List Char) : List Char → Bool
  | [] => word.isEmpty
  | c :: r => word.isPrefixOf ((c :: r).map Char.toLower) || mentions word r

def variesByCoding (h : Headers) : Bool :=
  (h.all "vary").any fun v ↦
    mentions "accept-encoding".toList (v.map fun b ↦ Char.ofNat b.toNat)

/-- The response as the client gets it. -/
def apply (request : Headers) (r : Response) : Response :=
  if r.body.length < minSize || r.headers.contains "content-encoding" ||
      r.headers.contains "content-range" then r
  else
    let h := if variesByCoding r.headers then r.headers
      else r.headers.add "vary" (Utf8.encode "accept-encoding")
    match preferred request with
    | .identity => { r with headers := h }
    | .gzip =>
      { r with
        headers := ((h.remove "accept-ranges").remove Response.contentLength).set "content-encoding"
          (Utf8.encode "gzip") }

/-- Whether the length of the body is known when the response is sent. -/
def hasLength (r : Response) : Bool := !r.headers.contains "content-encoding"

end RpcGateway.Http.ContentCoding
