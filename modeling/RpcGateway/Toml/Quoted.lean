import RpcGateway.Text.Pieces

/-!
# TOML strings

A string stands between quotes, where a backslash escapes, or between apostrophes, where nothing
does. Three of either let it run over lines: a line break right after them is dropped, every other
one is read as a line feed, a backslash at the end of a line takes the break and the blanks after
it away, and up to two quotes may stand before the closing three.

Each reader returns the characters, last first, and what follows the string.
-/

namespace RpcGateway.Toml

def isBlank (c : Char) : Bool := c == ' ' || c == '\t'

def skipBlanks (s : List Char) : List Char := s.dropWhile isBlank

/-- Anything but a control; a tab is no control here. -/
def isPrintable (c : Char) : Bool := c == '\t' || (0x20 ≤ c.toNat && c.toNat != 0x7F)

def shortEscape? (c : Char) : Option Char :=
  match c with
  | 'b' => some '\x08'
  | 't' => some '\t'
  | 'n' => some '\n'
  | 'f' => some '\x0c'
  | 'r' => some '\r'
  | '\x22' => some '\x22'
  | '\x5c' => some '\x5c'
  | _ => none

/-- The character of a code point in hexadecimal; surrogates are no characters. -/
def codePoint? (digits : List Char) : Option Char :=
  let n := Text.ofDigits 16 digits
  if digits.all Text.isHexDigit && (n < 0xD800 || (0xDFFF < n && n < 0x110000)) then
    some (Char.ofNat n)
  else none

/-- The rest of a string on one line that may have escapes. -/
def basic? (read : List Char) : List Char → Option (List Char × List Char)
  | [] => none
  | '\x22' :: r => some (read, r)
  | '\x5c' :: 'u' :: a :: b :: c :: d :: r =>
    match codePoint? [a, b, c, d] with
    | some x => basic? (x :: read) r
    | none => none
  | '\x5c' :: 'U' :: a :: b :: c :: d :: e :: f :: g :: h :: r =>
    match codePoint? [a, b, c, d, e, f, g, h] with
    | some x => basic? (x :: read) r
    | none => none
  | '\x5c' :: c :: r =>
    match shortEscape? c with
    | some x => basic? (x :: read) r
    | none => none
  | c :: r => if isPrintable c then basic? (c :: read) r else none

/-- The rest of a string on one line that stands for itself. -/
def literal? (read : List Char) : List Char → Option (List Char × List Char)
  | [] => none
  | c :: r =>
    if c = '\x27' then some (read, r)
    else if isPrintable c then literal? (c :: read) r
    else none

/-- What a backslash at the end of a line takes away: the blanks before the break, the break, and
the blanks and breaks after it. -/
inductive Joint where
  | none
  | beforeBreak
  | afterBreak

def quotes (n : Nat) : List Char := List.replicate n '\x22'

/-- The rest of a string over lines that may have escapes; `held` quotes have just been read. -/
def basicLines? (read : List Char) (joint : Joint) (held : Nat) :
    List Char → Option (List Char × List Char)
  | [] => if 3 ≤ held then some (quotes (held - 3) ++ read, []) else none
  | c :: r =>
    match joint with
    | .beforeBreak =>
      if isBlank c then basicLines? read .beforeBreak 0 r
      else if c = '\n' then basicLines? read .afterBreak 0 r
      else if c = '\r' ∧ r.head? = some '\n' then basicLines? read .beforeBreak 0 r
      else none
    | _ =>
      let after := match joint with
        | .afterBreak => true
        | _ => false
      if after && (isBlank c || c == '\n') then basicLines? read .afterBreak 0 r
      else if c = '\r' then
        if 3 ≤ held then some (quotes (held - 3) ++ read, c :: r)
        else if r.head? = some '\n' then
          basicLines? (quotes held ++ read) (if after then .afterBreak else .none) 0 r
        else none
      else if c = '\x22' then
        if held = 5 then some (quotes 2 ++ read, c :: r) else basicLines? read .none (held + 1) r
      else if 3 ≤ held then some (quotes (held - 3) ++ read, c :: r)
      else
        let read := quotes held ++ read
        if c = '\n' then basicLines? ('\n' :: read) .none 0 r
        else if c = '\x5c' then
          match r with
          | 'u' :: a :: b :: c :: d :: r =>
            match codePoint? [a, b, c, d] with
            | some x => basicLines? (x :: read) .none 0 r
            | none => none
          | 'U' :: a :: b :: c :: d :: e :: f :: g :: h :: r =>
            match codePoint? [a, b, c, d, e, f, g, h] with
            | some x => basicLines? (x :: read) .none 0 r
            | none => none
          | c :: r =>
            match shortEscape? c with
            | some x => basicLines? (x :: read) .none 0 r
            | none =>
              if isBlank c then basicLines? read .beforeBreak 0 r
              else if c = '\n' then basicLines? read .afterBreak 0 r
              else if c = '\r' ∧ r.head? = some '\n' then basicLines? read .beforeBreak 0 r
              else none
          | [] => none
        else if isPrintable c then basicLines? (c :: read) .none 0 r
        else none

/-- The rest of a string over lines that stands for itself; `held` apostrophes have just been
read. -/
def literalLines? (read : List Char) (held : Nat) : List Char → Option (List Char × List Char)
  | [] => if 3 ≤ held then some (List.replicate (held - 3) '\x27' ++ read, []) else none
  | c :: r =>
    if c = '\x27' then
      if held = 5 then some ('\x27' :: '\x27' :: read, c :: r) else literalLines? read (held + 1) r
    else if 3 ≤ held then some (List.replicate (held - 3) '\x27' ++ read, c :: r)
    else
      let read := List.replicate held '\x27' ++ read
      if c = '\r' then
        if r.head? = some '\n' then literalLines? read 0 r else none
      else if c = '\n' || isPrintable c then literalLines? (c :: read) 0 r
      else none

def dropBreak : List Char → List Char
  | '\n' :: r => r
  | '\r' :: '\n' :: r => r
  | s => s

def asText (p : List Char × List Char) : String × List Char := (String.ofList p.1.reverse, p.2)

/-- A string on one line, as keys may have it. -/
def lineString? : List Char → Option (String × List Char)
  | '\x22' :: r => (basic? [] r).map asText
  | '\x27' :: r => (literal? [] r).map asText
  | _ => none

def string? : List Char → Option (String × List Char)
  | '\x22' :: '\x22' :: '\x22' :: r => (basicLines? [] .none 0 (dropBreak r)).map asText
  | '\x27' :: '\x27' :: '\x27' :: r => (literalLines? [] 0 (dropBreak r)).map asText
  | s => lineString? s

end RpcGateway.Toml
