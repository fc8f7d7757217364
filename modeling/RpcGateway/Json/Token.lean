import RpcGateway.Text.Utf8

/-!
# JSON tokens

A JSON text is cut into tokens by one pass over its octets. A string token keeps its octets as
written, escapes included, and a number token its digits; what they mean is decided where a value is
wanted, because a value that nobody wants need not have a meaning.
-/

namespace RpcGateway.Json

inductive Token where
  | beginArray
  | endArray
  | beginObject
  | endObject
  | colon
  | comma
  | null
  | true
  | false
  | number (lexeme : Bytes)
  | string (content : Bytes)
deriving DecidableEq, Repr

namespace Token

def isBlank (b : UInt8) : Bool := b == 0x20 || b == 0x09 || b == 0x0A || b == 0x0D

def isDigit (b : UInt8) : Bool := 0x30 ≤ b && b ≤ 0x39

def isNumeric (b : UInt8) : Bool :=
  isDigit b || b == 0x2B || b == 0x2D || b == 0x2E || b == 0x45 || b == 0x65

def isLetter (b : UInt8) : Bool := 0x61 ≤ b && b ≤ 0x7A

def isHexDigit (b : UInt8) : Bool :=
  isDigit b || (0x41 ≤ b && b ≤ 0x46) || (0x61 ≤ b && b ≤ 0x66)

/-- The octets that may follow a backslash, the one of a code unit apart. -/
def isShortEscape (b : UInt8) : Bool :=
  b == 0x22 || b == 0x5C || b == 0x2F || b == 0x62 || b == 0x66 || b == 0x6E || b == 0x72 ||
    b == 0x74

def punctuation? (b : UInt8) : Option Token :=
  if b = 0x5B then some beginArray
  else if b = 0x5D then some endArray
  else if b = 0x7B then some beginObject
  else if b = 0x7D then some endObject
  else if b = 0x3A then some colon
  else if b = 0x2C then some comma
  else none

def word? (w : Bytes) : Option Token :=
  if w = [0x6E, 0x75, 0x6C, 0x6C] then some null
  else if w = [0x74, 0x72, 0x75, 0x65] then some true
  else if w = [0x66, 0x61, 0x6C, 0x73, 0x65] then some false
  else none

/-- The exponent part of a number, its letter read. -/
def isExponent (s : Bytes) : Bool :=
  let digits := match s with
    | b :: r => if b == 0x2B || b == 0x2D then r else s
    | [] => []
  !digits.isEmpty && digits.all isDigit

/-- What follows the integer part of a number. -/
def isFractionAndExponent (s : Bytes) : Bool :=
  match s with
  | [] => Bool.true
  | b :: r =>
    if b == 0x2E then
      let rest := r.dropWhile isDigit
      (match r with | c :: _ => isDigit c | [] => Bool.false) &&
        (match rest with
          | [] => Bool.true
          | c :: e => (c == 0x45 || c == 0x65) && isExponent e)
    else (b == 0x45 || b == 0x65) && isExponent r

def isNumber (s : Bytes) : Bool :=
  let magnitude := match s with
    | b :: r => if b == 0x2D then r else s
    | [] => []
  match magnitude with
  | [] => Bool.false
  | b :: r =>
    if b == 0x30 then isFractionAndExponent r
    else isDigit b && isFractionAndExponent (r.dropWhile isDigit)

/-- Where a pass over the octets stands; octets of an unfinished token are held last first. -/
inductive Mode where
  | between
  | inWord (read : Bytes)
  | inNumber (read : Bytes)
  | inString (read : Bytes)
  | afterBackslash (read : Bytes)
  | inCodeUnit (read : Bytes) (missing : Nat)

structure Scan where
  tokens : List Token := []
  mode : Mode := .between

/-- One octet that belongs to no token yet. -/
def Scan.begin? (tokens : List Token) (b : UInt8) : Option Scan :=
  if isBlank b then some ⟨tokens, .between⟩
  else if b = 0x22 then some ⟨tokens, .inString []⟩
  else if isDigit b || b == 0x2D then some ⟨tokens, .inNumber [b]⟩
  else if isLetter b then some ⟨tokens, .inWord [b]⟩
  else (punctuation? b).map fun t ↦ ⟨t :: tokens, .between⟩

def Scan.step? (s : Scan) (b : UInt8) : Option Scan :=
  match s.mode with
  | .between => begin? s.tokens b
  | .inWord read =>
    if isLetter b then some ⟨s.tokens, .inWord (b :: read)⟩
    else (word? read.reverse).bind fun t ↦ begin? (t :: s.tokens) b
  | .inNumber read =>
    if isNumeric b then some ⟨s.tokens, .inNumber (b :: read)⟩
    else if isNumber read.reverse then begin? (number read.reverse :: s.tokens) b
    else none
  | .inString read =>
    if b = 0x22 then some ⟨string read.reverse :: s.tokens, .between⟩
    else if b = 0x5C then some ⟨s.tokens, .afterBackslash (b :: read)⟩
    else if b < 0x20 then none
    else some ⟨s.tokens, .inString (b :: read)⟩
  | .afterBackslash read =>
    if b = 0x75 then some ⟨s.tokens, .inCodeUnit (b :: read) 4⟩
    else if isShortEscape b then some ⟨s.tokens, .inString (b :: read)⟩
    else none
  | .inCodeUnit read missing =>
    if isHexDigit b then
      if missing ≤ 1 then some ⟨s.tokens, .inString (b :: read)⟩
      else some ⟨s.tokens, .inCodeUnit (b :: read) (missing - 1)⟩
    else none

def Scan.finish? (s : Scan) : Option (List Token) :=
  match s.mode with
  | .between => some s.tokens.reverse
  | .inWord read => (word? read.reverse).map fun t ↦ (t :: s.tokens).reverse
  | .inNumber read =>
    if isNumber read.reverse then some (number read.reverse :: s.tokens).reverse else none
  | _ => none

def Scan.run? : Scan → Bytes → Option Scan
  | s, [] => some s
  | s, b :: r =>
    match s.step? b with
    | some s => run? s r
    | none => none

def scan? (text : Bytes) : Option (List Token) := (Scan.run? {} text).bind Scan.finish?

def text : Token → Bytes
  | beginArray => [0x5B]
  | endArray => [0x5D]
  | beginObject => [0x7B]
  | endObject => [0x7D]
  | colon => [0x3A]
  | comma => [0x2C]
  | null => [0x6E, 0x75, 0x6C, 0x6C]
  | true => [0x74, 0x72, 0x75, 0x65]
  | false => [0x66, 0x61, 0x6C, 0x73, 0x65]
  | number lexeme => lexeme
  | string content => 0x22 :: content ++ [0x22]

end Token

end RpcGateway.Json
