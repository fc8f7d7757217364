import RpcGateway.Json.Token

/-!
# Quoted text

Between the quotes of a JSON string every octet stands for itself, except that a quote, a backslash
and the controls are written with a backslash. Reading also accepts code units in hexadecimal, where
a high and a low surrogate together make one character and neither may stand alone.
-/

namespace RpcGateway.Json.Quoted

def hexDigit (n : Nat) : UInt8 := if n < 10 then UInt8.ofNat (0x30 + n) else UInt8.ofNat (0x57 + n)

/-- The written form of one octet of the text. -/
def escape (b : UInt8) : Bytes :=
  if b = 0x22 then [0x5C, 0x22]
  else if b = 0x5C then [0x5C, 0x5C]
  else if b = 0x08 then [0x5C, 0x62]
  else if b = 0x0C then [0x5C, 0x66]
  else if b = 0x0A then [0x5C, 0x6E]
  else if b = 0x0D then [0x5C, 0x72]
  else if b = 0x09 then [0x5C, 0x74]
  else if b < 0x20 then [0x5C, 0x75, 0x30, 0x30, hexDigit (b.toNat / 16), hexDigit (b.toNat % 16)]
  else [b]

def encode (s : String) : Bytes := (Utf8.encode s).flatMap escape

def hexValue (b : UInt8) : Nat :=
  if b < 0x3A then b.toNat - 0x30 else if b < 0x47 then b.toNat - 0x37 else b.toNat - 0x57

/-- The octet that a backslash and `b` stand for. -/
def shortEscape (b : UInt8) : UInt8 :=
  if b = 0x62 then 0x08
  else if b = 0x66 then 0x0C
  else if b = 0x6E then 0x0A
  else if b = 0x72 then 0x0D
  else if b = 0x74 then 0x09
  else b

/-- Where reading stands between the quotes; a code unit is held while its digits are read, and a
high surrogate until the low one has come. -/
inductive Mode where
  | plain
  | backslash (high : Option Nat)
  | unit (high : Option Nat) (value : Nat) (missing : Nat)
  | wantsLow (high : Nat)

structure Reading where
  octets : Bytes := []
  mode : Mode := .plain

def Reading.char (r : Reading) (n : Nat) : Reading :=
  ⟨(String.utf8EncodeChar (Char.ofNat n)).reverse ++ r.octets, .plain⟩

/-- One code unit of four digits. -/
def Reading.codeUnit? (r : Reading) (high : Option Nat) (value : Nat) : Option Reading :=
  match high with
  | some h =>
    if 0xDC00 ≤ value ∧ value ≤ 0xDFFF then
      some (r.char (0x10000 + (h - 0xD800) * 0x400 + (value - 0xDC00)))
    else none
  | none =>
    if 0xDC00 ≤ value ∧ value ≤ 0xDFFF then none
    else if 0xD800 ≤ value ∧ value ≤ 0xDBFF then some { r with mode := .wantsLow value }
    else some (r.char value)

def Reading.step? (r : Reading) (b : UInt8) : Option Reading :=
  match r.mode with
  | .plain =>
    if b = 0x5C then some { r with mode := .backslash none }
    else if b < 0x20 ∨ b = 0x22 then none
    else some { r with octets := b :: r.octets }
  | .wantsLow high => if b = 0x5C then some { r with mode := .backslash (some high) } else none
  | .backslash high =>
    if b = 0x75 then some { r with mode := .unit high 0 4 }
    else if high.isNone ∧ Token.isShortEscape b then some ⟨shortEscape b :: r.octets, .plain⟩
    else none
  | .unit high value missing =>
    if Token.isHexDigit b then
      let value := value * 16 + hexValue b
      if missing ≤ 1 then r.codeUnit? high value
      else some { r with mode := .unit high value (missing - 1) }
    else none

def Reading.run? : Reading → Bytes → Option Reading
  | r, [] => some r
  | r, b :: rest =>
    match r.step? b with
    | some r => run? r rest
    | none => none

def Reading.finish? (r : Reading) : Option String :=
  match r.mode with
  | .plain => Utf8.decode? r.octets.reverse
  | _ => none

/-- The text between the quotes, if every escape in it stands for a character and its octets are
UTF-8. -/
def decode? (content : Bytes) : Option String := (Reading.run? {} content).bind Reading.finish?

end RpcGateway.Json.Quoted
