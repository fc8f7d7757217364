import RpcGateway.Json.Value

/-!
# TOML tables

A document grows a tree of tables. A table is defined once: by its header, by the dotted keys that
lead through it, or as a value in braces. Headers may fill in a table that was only passed through
by an earlier header, and they reach into the last element of an array of tables; all else is a
duplicate.
-/

namespace RpcGateway.Toml

open Json

/-- How a table came to be. `implicit` tables have only been passed through. -/
structure Origin where
  implicit : Bool
  dotted : Bool
deriving DecidableEq, Repr

def Origin.header : Origin := ⟨false, false⟩

inductive Node where
  | value (v : Value)
  | table (origin : Origin) (entries : List (String × Node))
  | tables (elements : List (List (String × Node)))
deriving Inhabited

abbrev Entries := List (String × Node)

namespace Node

def find? (entries : Entries) (key : String) : Option Node :=
  (entries.find? fun e ↦ e.1 = key).map Prod.snd

def put (entries : Entries) (key : String) (n : Node) : Entries :=
  match entries with
  | [] => [(key, n)]
  | (k, m) :: r => if k = key then (key, n) :: r else (k, m) :: put r key n

/-- Changes the table at the end of a path, making the tables on the way. The change sees how that
table came to be. -/
def modifyAt? (dotted : Bool) (change : Origin → Entries → Option Entries) :
    List String → Origin → Entries → Option Entries
  | [], origin, entries => change origin entries
  | key :: path, _, entries =>
    match find? entries key with
    | none =>
      (modifyAt? dotted change path ⟨true, dotted⟩ []).map fun es ↦
        put entries key (.table ⟨true, dotted⟩ es)
    | some (.value _) => none
    | some (.table origin es) =>
      if dotted && !origin.implicit then none
      else (modifyAt? dotted change path origin es).map fun es ↦ put entries key (.table origin es)
    | some (.tables elements) =>
      match elements.reverse with
      | [] => none
      | last :: before =>
        (modifyAt? dotted change path .header last).map fun es ↦
          put entries key (.tables (es :: before).reverse)

/-- Sets a value, once. A dotted key may only add to a table that dotted keys made. -/
def setOnce? (key : String) (path : List String) (n : Node) (origin : Origin) (entries : Entries) :
    Option Entries :=
  if origin.dotted == path.isEmpty then none
  else match find? entries key with
    | some _ => none
    | none => some (put entries key n)

/-- The value of a key, its dots resolved, in the table with the given entries. -/
def assign? (path : List String) (key : String) (n : Node) (origin : Origin) (entries : Entries) :
    Option Entries :=
  modifyAt? true (setOnce? key path n) path origin entries

/-- The header of a table. -/
def openTable? (key : String) (_ : Origin) (entries : Entries) : Option Entries :=
  match find? entries key with
  | none => some (put entries key (.table .header []))
  | some (.table origin es) =>
    if origin.implicit && !origin.dotted then some (put entries key (.table .header es)) else none
  | some _ => none

/-- The header of an element of an array of tables. -/
def openElement? (key : String) (_ : Origin) (entries : Entries) : Option Entries :=
  match find? entries key with
  | none => some (put entries key (.tables [[]]))
  | some (.tables elements) => some (put entries key (.tables (elements ++ [[]])))
  | some _ => none

mutual

def toValue : Node → Value
  | .value v => v
  | .table _ entries => Value.ofFields (fieldsOf entries)
  | .tables elements => .array (elementsOf elements)

def fieldsOf : List (String × Node) → List (String × Value)
  | [] => []
  | (key, n) :: r => (key, toValue n) :: fieldsOf r

def elementsOf : List (List (String × Node)) → List Value
  | [] => []
  | entries :: r => Value.ofFields (fieldsOf entries) :: elementsOf r

end

end Node

end RpcGateway.Toml
