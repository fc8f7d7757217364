import Mathlib.Data.List.Basic
import RpcGateway.Json.Value

/-!
# Objects with fields left out

A part of a value stands at a place: the steps that lead to it, by the name of a field or the number
of an element. For any choice of places, `without` leaves out the fields that stand there, at every
depth; elements of arrays stay. What is read of a field is then nothing, if its place is chosen, and
otherwise what was there, without what is left out inside it.
-/

namespace RpcGateway.Json

/-- A step into a value. -/
inductive Step where
  | field (name : String)
  | element (index : Nat)
deriving DecidableEq, Repr

abbrev Place := List Step

/-- A choice of places. -/
abbrev Places := Place → Bool

namespace Places

/-- Nothing is missing. -/
def none : Places := fun _ ↦ false

/-- The chosen places behind a step, seen from there. -/
def behind (gone : Places) (s : Step) : Places := fun p ↦ gone (s :: p)

def hasField (gone : Places) (name : String) : Bool := gone [.field name]

end Places

namespace Value

mutual

/-- The value without the fields at the chosen places. -/
def without (gone : Places) : Value → Value
  | null => null
  | bool b => bool b
  | number n => number n
  | string s => string s
  | array elements => array (elementsWithout gone 0 elements)
  | object fields => object (fieldsWithout gone fields)

/-- The elements of an array from an index on. -/
def elementsWithout (gone : Places) (index : Nat) : List Value → List Value
  | [] => []
  | v :: r => without (gone.behind (.element index)) v :: elementsWithout gone (index + 1) r

/-- The fields that are left, each without what is missing behind it. -/
def fieldsWithout (gone : Places) : List (String × Value) → List (String × Value)
  | [] => []
  | (name, v) :: r =>
    if gone.hasField name then fieldsWithout gone r
    else (name, without (gone.behind (.field name)) v) :: fieldsWithout gone r

end

variable {gone : Places} {name : String} {fields : List (String × Value)}

@[simp] theorem without_string (s : String) : (string s).without gone = string s := rfl

/-- No element is missing, but parts of elements may be. -/
theorem elementsWithout_eq (index : Nat) (elements : List Value) :
    elementsWithout gone index elements =
      elements.mapIdx fun i v ↦ v.without (gone.behind (.element (index + i))) := by
  induction elements generalizing index with
  | nil => rfl
  | cons v r ih =>
    rw [elementsWithout, ih, List.mapIdx_cons]
    simp only [Nat.add_assoc, Nat.add_zero, Nat.add_comm 1]

theorem without_array (elements : List Value) :
    (array elements).without gone =
      array (elements.mapIdx fun i v ↦ v.without (gone.behind (.element i))) := by
  rw [without, elementsWithout_eq]
  simp only [Nat.zero_add]

@[simp] theorem without_strings (xs : List String) : (strings xs).without gone = strings xs := by
  rw [strings, without_array]
  congr 1
  apply List.ext_getElem
  · simp
  · simp

/-- A field is found if it is not missing, without what is missing behind it. -/
theorem get?_object_without (fields : List (String × Value)) :
    ((object fields).without gone).get? name =
      if gone.hasField name then Option.none
      else ((object fields).get? name).map (without (gone.behind (.field name))) := by
  rw [without]
  unfold get?
  dsimp only
  induction fields with
  | nil => simp [fieldsWithout]
  | cons f r ih =>
    obtain ⟨n, v⟩ := f
    rw [fieldsWithout]
    by_cases hn : n = name
    · subst hn
      by_cases hgone : gone.hasField n = true
      · rw [if_pos hgone, ih, if_pos hgone, if_pos hgone]
      · rw [if_neg hgone, if_neg hgone]
        simp
    · by_cases hgone : gone.hasField n = true
      · rw [if_pos hgone, ih, List.find?_cons_of_neg (by simpa using hn)]
      · rw [if_neg hgone, List.find?_cons_of_neg (by simpa using hn), ih,
          List.find?_cons_of_neg (by simpa using hn)]

/-- What is read of a field when fields are left out. -/
theorem get?_without (v : Value) :
    (v.without gone).get? name =
      if gone.hasField name then Option.none
      else (v.get? name).map (without (gone.behind (.field name))) := by
  cases v with
  | object fields => exact get?_object_without fields
  | _ => split <;> rfl

mutual

/-- A value from which nothing is missing is itself. -/
theorem without_none : ∀ v : Value, v.without .none = v
  | null => rfl
  | bool _ => rfl
  | number _ => rfl
  | string _ => rfl
  | array elements => congrArg array (elementsWithout_none 0 elements)
  | object fields => congrArg object (fieldsWithout_none fields)

theorem elementsWithout_none (index : Nat) :
    ∀ elements : List Value, elementsWithout .none index elements = elements
  | [] => rfl
  | v :: r => congrArg₂ List.cons (without_none v) (elementsWithout_none (index + 1) r)

theorem fieldsWithout_none : ∀ fields : List (String × Value), fieldsWithout .none fields = fields
  | [] => rfl
  | (name, v) :: r =>
    congrArg₂ List.cons (congrArg (Prod.mk name) (without_none v)) (fieldsWithout_none r)

end

end Value

end RpcGateway.Json
