import RpcGateway.Http.Header

/-!
# Request targets

A request target is a path with an optional query, an absolute URI, or an authority alone. All that
matters of it is whether it may be sent at all and which path it names; a fragment is cut off.
-/

namespace RpcGateway.Http

inductive UriError where
  | empty
  | tooLong
  | schemeTooLong
  | invalidChar
  | invalidAuthority
  | invalidFormat
deriving DecidableEq, Repr

namespace UriError

def message : UriError → String
  | empty => "empty string"
  | tooLong => "uri too long"
  | schemeTooLong => "scheme too long"
  | invalidChar => "invalid uri character"
  | invalidAuthority => "invalid authority"
  | invalidFormat => "invalid format"

end UriError

namespace Uri

def maxLength : Nat := 65534

def maxSchemeLength : Nat := 64

def maxColons : Nat := 8

def isAlphanumeric (b : UInt8) : Bool :=
  (0x30 ≤ b && b ≤ 0x39) || (0x41 ≤ b && b ≤ 0x5A) || (0x61 ≤ b && b ≤ 0x7A)

def isSchemeChar (b : UInt8) : Bool :=
  isAlphanumeric b || b == 0x2B || b == 0x2D || b == 0x2E || b == 0x7E

def authorityMarks : Bytes :=
  [0x21, 0x24, 0x26, 0x27, 0x28, 0x29, 0x2A, 0x2B, 0x2C, 0x2D, 0x2E, 0x3B, 0x3D, 0x5F, 0x7E]

/-- The octets of an authority, brackets, colons and the like apart. -/
def isAuthorityChar (b : UInt8) : Bool := isAlphanumeric b || authorityMarks.contains b

def isPathChar (b : UInt8) : Bool :=
  b == 0x21 || b == 0x22 || (0x24 ≤ b && b ≤ 0x3B) || b == 0x3D || (0x40 ≤ b && b ≤ 0x5F) ||
    (0x61 ≤ b && b ≤ 0x7E) || 0x80 ≤ b

def isQueryChar (b : UInt8) : Bool :=
  b == 0x21 || (0x24 ≤ b && b ≤ 0x3B) || b == 0x3D || (0x3F ≤ b && b ≤ 0x7E) || 0x80 ≤ b

/-- What has been seen of an authority. -/
structure AuthorityScan where
  colons : Nat := 0
  opened : Bool := false
  closed : Bool := false
  percent : Bool := false
  endsInAt : Bool := false

/-- The length of the authority in front of a path, a query or a fragment. -/
def authority (s : AuthorityScan) (length : Nat) : Bytes → Except UriError Nat
  | [] => finish s length
  | b :: r =>
    if b = 0x2F ∨ b = 0x3F ∨ b = 0x23 then finish s length
    else if b = 0x3A then
      if maxColons ≤ s.colons then .error .invalidAuthority
      else authority { s with colons := s.colons + 1, endsInAt := false } (length + 1) r
    else if b = 0x5B then
      if s.percent || s.opened then .error .invalidAuthority
      else authority { s with opened := true, endsInAt := false } (length + 1) r
    else if b = 0x5D then
      if !s.opened || s.closed then .error .invalidAuthority
      else
        authority { s with closed := true, colons := 0, percent := false, endsInAt := false }
          (length + 1) r
    else if b = 0x40 then
      authority { s with colons := 0, percent := false, endsInAt := true } (length + 1) r
    else if b = 0x25 then authority { s with percent := true, endsInAt := false } (length + 1) r
    else if isAuthorityChar b then authority { s with endsInAt := false } (length + 1) r
    else .error .invalidChar
where
  finish (s : AuthorityScan) (length : Nat) : Except UriError Nat :=
    if s.opened != s.closed || 1 < s.colons || s.endsInAt || s.percent then
      .error .invalidAuthority
    else .ok length

def query : Bytes → Except UriError Unit
  | [] => .ok ()
  | b :: r => if b = 0x23 then .ok () else if isQueryChar b then query r else .error .invalidChar

/-- The path in front of a query or a fragment, last octet first. -/
def path (read : Bytes) : Bytes → Except UriError Bytes
  | [] => .ok read
  | b :: r =>
    if b = 0x3F then (query r).map fun _ ↦ read
    else if b = 0x23 then .ok read
    else if isPathChar b then path (b :: read) r
    else .error .invalidChar

def pathText (s : Bytes) : Except UriError String :=
  match path [] s with
  | .error e => .error e
  | .ok read =>
    match Utf8.decode? read.reverse with
    | some t => .ok t
    | none => .error .invalidChar

/-- The length of a scheme, the colon and the slashes after it apart. -/
def scheme (length : Nat) : Bytes → Except UriError (Option Nat)
  | [] => .ok none
  | b :: r =>
    if b = 0x3A then
      if r.take 2 = [0x2F, 0x2F] then
        if maxSchemeLength < length then .error .schemeTooLong else .ok (some length)
      else .ok none
    else if isSchemeChar b then scheme (length + 1) r
    else .ok none

/-- The path that a target with a scheme, or an authority alone, names. -/
def absolutePath (s : Bytes) : Except UriError String :=
  match if s.length ≤ 3 then .ok none else scheme 0 s with
  | .error e => .error e
  | .ok none =>
    match authority {} 0 s with
    | .error e => .error e
    | .ok n => if n = s.length then .ok "" else .error .invalidFormat
  | .ok (some n) =>
    let s := s.drop (n + 3)
    match authority {} 0 s with
    | .error e => .error e
    | .ok n =>
      if n = 0 then .error .invalidFormat
      else (pathText (s.drop n)).map fun p ↦ if p = "" then "/" else p

/-- The path that a request target names. -/
def parse (s : Bytes) : Except UriError String :=
  if maxLength < s.length then .error .tooLong
  else match s with
    | [] => .error .empty
    | [0x2A] => .ok "*"
    | [b] =>
      if b = 0x2F then .ok "/"
      else match authority {} 0 s with
        | .error e => .error e
        | .ok n => if n = 1 then .ok "" else .error .invalidChar
    | 0x2F :: _ => pathText s
    | _ => absolutePath s

end Uri

end RpcGateway.Http
