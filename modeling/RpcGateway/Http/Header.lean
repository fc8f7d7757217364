import RpcGateway.Text.Pieces
import RpcGateway.Text.Utf8

/-!
# Header fields

A header is a list of fields in the order they were added; names are tokens in lower case and values
are octets without controls. A value is text when all of it is visible ASCII, blanks and tabs.
-/

namespace RpcGateway.Http

/-- The marks that a token may have beside letters and digits. -/
def tokenMarks : Bytes :=
  [0x21, 0x23, 0x24, 0x25, 0x26, 0x27, 0x2A, 0x2B, 0x2D, 0x2E, 0x5E, 0x5F, 0x60, 0x7C, 0x7E]

def isTokenChar (b : UInt8) : Bool :=
  (0x30 ≤ b && b ≤ 0x39) || (0x41 ≤ b && b ≤ 0x5A) || (0x61 ≤ b && b ≤ 0x7A) ||
    tokenMarks.contains b

def isToken (s : Bytes) : Bool := !s.isEmpty && s.all isTokenChar

abbrev Headers := List (String × Bytes)

namespace Headers

def maxNameLength : Nat := 65535

/-- The name of a field, in lower case. -/
def name? (s : Bytes) : Option String :=
  if isToken s && s.length ≤ maxNameLength then
    (Utf8.decode? s).map Text.lower
  else none

def isValueByte (b : UInt8) : Bool := b == 0x09 || (0x20 ≤ b && b != 0x7F)

/-- The octets that a field value may have. -/
def isValue (s : Bytes) : Bool := s.all isValueByte

/-- A text as a field value. -/
def value? (s : String) : Option Bytes :=
  let b := Utf8.encode s
  if isValue b then some b else none

def isTextByte (b : UInt8) : Bool := b == 0x09 || (0x20 ≤ b && b < 0x7F)

/-- The characters of a value that is text. -/
def text? (s : Bytes) : Option (List Char) :=
  if s.all isTextByte then some (s.map fun b ↦ Char.ofNat b.toNat) else none

def all (h : Headers) (name : String) : List Bytes := (h.filter fun f ↦ f.1 = name).map Prod.snd

/-- The first value of a field. -/
def get? (h : Headers) (name : String) : Option Bytes := (h.find? fun f ↦ f.1 = name).map Prod.snd

def contains (h : Headers) (name : String) : Bool := (get? h name).isSome

def add (h : Headers) (name : String) (value : Bytes) : Headers := h ++ [(name, value)]

def remove (h : Headers) (name : String) : Headers := h.filter fun f ↦ f.1 ≠ name

/-- Makes the value the only one of its field. -/
def set (h : Headers) (name : String) (value : Bytes) : Headers := add (remove h name) name value

end Headers

end RpcGateway.Http
