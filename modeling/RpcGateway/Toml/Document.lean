import RpcGateway.Toml.Scalar
import RpcGateway.Toml.Table

/-!
# TOML documents

A document is a sequence of lines: key and value, the header of a table, or the header of an
element of an array of tables, with blanks and comments between. Arrays may run over lines, tables
in braces may not. `read?` gives the document as one object.
-/

namespace RpcGateway.Toml

open Json

/-- Arrays and tables in braces nest less deep than this, and keys have fewer parts. -/
def depthLimit : Nat := 80

def isBareKey (c : Char) : Bool := c.isAlphanum || c == '-' || c == '_'

def keyPart? (s : List Char) : Option (String × List Char) :=
  match s with
  | '\x22' :: _ => lineString? s
  | '\x27' :: _ => lineString? s
  | _ =>
    let k := s.takeWhile isBareKey
    if k.isEmpty then none else some (String.ofList k, s.dropWhile isBareKey)

/-- The parts of a dotted key, with blanks around each. -/
def keyParts? : Nat → List Char → Option (List String × List Char)
  | 0, _ => none
  | fuel + 1, s => do
    let (k, s) ← keyPart? (skipBlanks s)
    match skipBlanks s with
    | '.' :: r =>
      let (ks, r) ← keyParts? fuel r
      return (k :: ks, r)
    | r => return ([k], r)

def key? (s : List Char) : Option (List String × List Char) := keyParts? (depthLimit - 1) s

def dropComment (s : List Char) : List Char :=
  match s with
  | '#' :: r => r.dropWhile isPrintable
  | _ => s

def lineBreak? : List Char → Option (List Char)
  | '\n' :: r => some r
  | '\r' :: '\n' :: r => some r
  | _ => none

/-- Blanks, comments and line breaks. -/
def skipLines : Nat → List Char → List Char
  | 0, s => s
  | fuel + 1, s =>
    let s := skipBlanks s
    match lineBreak? (dropComment s) with
    | some r => skipLines fuel r
    | none => s

/-- The end of a line: blanks, a comment, and a line break or the end of the document. -/
def endOfLine? (s : List Char) : Option (List Char) :=
  match dropComment (skipBlanks s) with
  | [] => some []
  | r => lineBreak? r

mutual

/-- A value; `depth` arrays and tables in braces are open. -/
def value? : Nat → Nat → List Char → Option (Node × List Char)
  | 0, _, _ => none
  | fuel + 1, depth, s =>
    match s with
    | '[' :: r =>
      if depthLimit ≤ depth + 1 then none
      else (elements? fuel (depth + 1) [] r).map fun p ↦ (.value (.array p.1), p.2)
    | '\x7b' :: r =>
      if depthLimit ≤ depth + 1 then none
      else match skipBlanks r with
        | '\x7d' :: r => some (.value (.object []), r)
        | r =>
          (pairs? fuel (depth + 1) [] r).map fun p ↦
            (.value (Node.toValue (.table .header p.1)), p.2)
    | _ => (scalar? s).map fun p ↦ (.value p.1, p.2)

/-- The elements of an array after its bracket or a comma, with the ones before, last first. -/
def elements? : Nat → Nat → List Value → List Char → Option (List Value × List Char)
  | 0, _, _, _ => none
  | fuel + 1, depth, before, s =>
    match skipLines s.length s with
    | ']' :: r => some (before.reverse, r)
    | s => do
      let (n, s) ← value? fuel depth s
      match skipLines s.length s with
      | ',' :: r => elements? fuel depth (n.toValue :: before) r
      | ']' :: r => return ((n.toValue :: before).reverse, r)
      | _ => none

/-- The pairs of a table in braces after its brace or a comma, added to those before. -/
def pairs? : Nat → Nat → Entries → List Char → Option (Entries × List Char)
  | 0, _, _, _ => none
  | fuel + 1, depth, before, s => do
    let (parts, s) ← key? s
    match s with
    | '=' :: s =>
      let (v, s) ← value? fuel depth (skipBlanks s)
      let entries ← Node.assign? parts.dropLast (parts.getLastD "") v .header before
      match skipBlanks s with
      | ',' :: r => pairs? fuel depth entries r
      | '\x7d' :: r => return (entries, r)
      | _ => none
    | _ => none

end

/-- The tables so far and the path of the one that keys go to. -/
structure Document where
  root : Entries := []
  path : List String := []

def Document.modify? (d : Document) (change : Origin → Entries → Option Entries) :
    Option Document :=
  (Node.modifyAt? false change d.path .header d.root).map fun root ↦ { d with root }

/-- One line that is not blank, up to its end. -/
def Document.line? (d : Document) (s : List Char) : Option (Document × List Char) :=
  match s with
  | '[' :: '[' :: r => do
    let (parts, r) ← key? r
    match r with
    | ']' :: ']' :: r =>
      let root ←
        Node.modifyAt? false (Node.openElement? (parts.getLastD "")) parts.dropLast .header d.root
      return (⟨root, parts⟩, r)
    | _ => none
  | '[' :: r => do
    let (parts, r) ← key? r
    match r with
    | ']' :: r =>
      let root ←
        Node.modifyAt? false (Node.openTable? (parts.getLastD "")) parts.dropLast .header d.root
      return (⟨root, parts⟩, r)
    | _ => none
  | _ => do
    let (parts, r) ← key? s
    match r with
    | '=' :: r =>
      let (v, r) ← value? (2 * r.length + 2) 0 (skipBlanks r)
      let d ← d.modify? (Node.assign? parts.dropLast (parts.getLastD "") v)
      return (d, r)
    | _ => none

/-- The lines of a document; each takes a character at least. -/
def Document.lines? : Nat → Document → List Char → Option Document
  | 0, d, s => if s.isEmpty then some d else none
  | fuel + 1, d, s =>
    match skipLines s.length s with
    | [] => some d
    | s =>
      match endOfLine? s with
      | some [] => some d
      | _ => do
        let (d, r) ← d.line? s
        let r ← endOfLine? r
        lines? fuel d r

def dropMark : List Char → List Char
  | '\uFEFF' :: r => r
  | s => s

/-- A document as an object. -/
def read? (text : String) : Option Value :=
  let s := dropMark text.toList
  (Document.lines? s.length {} s).map fun d ↦ Node.toValue (.table .header d.root)

end RpcGateway.Toml
