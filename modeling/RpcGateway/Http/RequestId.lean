import RpcGateway.Http.Header

/-!
# Request identifiers

The identifier that ties together a request, its response and its backend calls. An identifier that
comes in is kept if it is short and plain; otherwise the gateway takes a fresh one, a UUID from a
source of its own. How the source makes them is left open; one that counts is given, which does not
repeat itself before it has used all digits.
-/

namespace RpcGateway.Http.RequestId

def headerName : String := "x-request-id"

def maxLength : Nat := 128

def isPlain (c : Char) : Bool :=
  c.isAlphanum || c == '-' || c == '_' || c == '.'

def wellFormed (s : List Char) : Bool := !s.isEmpty && s.length ≤ maxLength && s.all isPlain

def parse? (s : String) : Option String := if wellFormed s.toList then some s else none

/-- The identifier that came with a request. -/
def ofHeaders? (h : Headers) : Option String :=
  ((h.get? headerName).bind Headers.text?).bind fun s ↦ parse? (String.ofList s)

/-! ### Fresh identifiers -/

/-- A digit of a hexadecimal number, in lower case. -/
def IsHexDigit (c : Char) : Prop := c ∈ "0123456789abcdef".toList

/-- A UUID of version 4: groups of 8, 4, 4, 4 and 12 hexadecimal digits, of which the third begins
with the version, and the fourth with one of the four digits of its variant. -/
def IsUuid (id : String) : Prop :=
  ∃ a b c d e : List Char, ∃ variant ∈ "89ab".toList,
    id.toList = a ++ '-' :: b ++ '-' :: '4' :: c ++ '-' :: variant :: d ++ '-' :: e ∧
      a.length = 8 ∧ b.length = 4 ∧ c.length = 3 ∧ d.length = 3 ∧ e.length = 12 ∧
      ∀ s ∈ [a, b, c, d, e], ∀ x ∈ s, IsHexDigit x

/-- Where fresh identifiers come from. -/
structure Source where
  /-- The identifier that is had after so many others. -/
  fresh : Nat → String
  isUuid_fresh (n : Nat) : IsUuid (fresh n)

/-- The digit for a number below 16. -/
def hexDigit (n : Nat) : Char := if n < 10 then Char.ofNat (0x30 + n) else Char.ofNat (0x57 + n)

/-- The `width` low hexadecimal digits of a number. -/
def hex (n : Nat) : Nat → List Char
  | 0 => []
  | width + 1 => hex (n / 16) width ++ [hexDigit (n % 16)]

theorem length_hex (n width : Nat) : (hex n width).length = width := by
  induction width generalizing n with
  | zero => rfl
  | succ width ih => rw [hex, List.length_append, ih, List.length_singleton]

theorem isHexDigit_hex (n width : Nat) : ∀ c ∈ hex n width, IsHexDigit c := by
  have hdigit : ∀ d : Fin 16, IsHexDigit (hexDigit d) := by
    unfold IsHexDigit
    decide
  induction width generalizing n with
  | zero => nofun
  | succ width ih =>
    rw [hex, List.forall_mem_append, List.forall_mem_singleton]
    exact ⟨ih (n / 16), hdigit ⟨n % 16, Nat.mod_lt n (by decide)⟩⟩

/-- Thirty hexadecimal digits, written as a UUID of version 4. -/
def uuid (digits : List Char) : String :=
  String.ofList (digits.take 8 ++ ['-'] ++ (digits.drop 8).take 4 ++ ['-', '4'] ++
    (digits.drop 12).take 3 ++ ['-', '8'] ++ (digits.drop 15).take 3 ++ ['-'] ++ digits.drop 18)

theorem isUuid_uuid {digits : List Char} (hlength : digits.length = 30)
    (hdigits : ∀ c ∈ digits, IsHexDigit c) : IsUuid (uuid digits) := by
  have htake (k m : Nat) (hkm : k + m ≤ 30) : ((digits.drop k).take m).length = m := by
    rw [List.length_take, List.length_drop, hlength]
    omega
  refine ⟨digits.take 8, (digits.drop 8).take 4, (digits.drop 12).take 3, (digits.drop 15).take 3,
    digits.drop 18, '8', by decide, ?_, htake 0 8 (by decide), htake 8 4 (by decide),
    htake 12 3 (by decide), htake 15 3 (by decide), ?_, ?_⟩
  · simp [uuid]
  · rw [List.length_drop, hlength]
  · simp only [List.forall_mem_cons]
    refine ⟨?_, ?_, ?_, ?_, ?_, nofun⟩
    · exact fun x hx ↦ hdigits x (List.mem_of_mem_take hx)
    · exact fun x hx ↦ hdigits x (List.mem_of_mem_drop (List.mem_of_mem_take hx))
    · exact fun x hx ↦ hdigits x (List.mem_of_mem_drop (List.mem_of_mem_take hx))
    · exact fun x hx ↦ hdigits x (List.mem_of_mem_drop (List.mem_of_mem_take hx))
    · exact fun x hx ↦ hdigits x (List.mem_of_mem_drop hx)

/-- Identifiers that are counted. -/
def Source.counted : Source where
  fresh n := uuid (hex n 30)
  isUuid_fresh n := isUuid_uuid (length_hex n 30) (isHexDigit_hex n 30)

end RpcGateway.Http.RequestId
