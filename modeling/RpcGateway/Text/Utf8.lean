/-!
# UTF-8 text

Byte strings are lists of octets. A text and its octets determine each other: `decode?` accepts
exactly the octets that `encode` writes. `lossy` reads any octets and puts one replacement
character for each longest prefix that no character starts with.
-/

namespace RpcGateway

abbrev Bytes := List UInt8

namespace Utf8

def encode (s : String) : Bytes := s.toByteArray.data.toList

def decode? (b : Bytes) : Option String := String.fromUTF8? ⟨b.toArray⟩

@[simp] theorem decode?_encode (s : String) : decode? (encode s) = some s := by
  have h : (⟨(encode s).toArray⟩ : ByteArray) = s.toByteArray := by simp [encode]
  simp only [decode?, String.fromUTF8?, h]
  rw [dif_pos s.isValidUTF8]
  rfl

/-- A character whose first octets have been read. -/
structure Pending where
  value : Nat
  missing : Nat
  low : UInt8
  high : UInt8

/-- What the first octet of a character leaves to be read, for the characters of several octets. -/
def Pending.first? (b : UInt8) : Option Pending :=
  if 0xC2 ≤ b ∧ b ≤ 0xDF then some ⟨b.toNat % 32, 1, 0x80, 0xBF⟩
  else if b = 0xE0 then some ⟨0, 2, 0xA0, 0xBF⟩
  else if b = 0xED then some ⟨13, 2, 0x80, 0x9F⟩
  else if 0xE1 ≤ b ∧ b ≤ 0xEF then some ⟨b.toNat % 16, 2, 0x80, 0xBF⟩
  else if b = 0xF0 then some ⟨0, 3, 0x90, 0xBF⟩
  else if 0xF1 ≤ b ∧ b ≤ 0xF3 then some ⟨b.toNat % 8, 3, 0x80, 0xBF⟩
  else if b = 0xF4 then some ⟨4, 3, 0x80, 0x8F⟩
  else none

def replacement : Char := Char.ofNat 0xFFFD

/-- The characters read so far, last first, and the one in progress. -/
structure Reading where
  done : List Char := []
  pending : Option Pending := none

def Reading.start (done : List Char) (b : UInt8) : Reading :=
  if b < 0x80 then ⟨Char.ofNat b.toNat :: done, none⟩
  else match Pending.first? b with
    | some p => ⟨done, some p⟩
    | none => ⟨replacement :: done, none⟩

def Reading.step (r : Reading) (b : UInt8) : Reading :=
  match r.pending with
  | none => Reading.start r.done b
  | some p =>
    if p.low ≤ b ∧ b ≤ p.high then
      let value := p.value * 64 + b.toNat % 64
      if p.missing = 1 then ⟨Char.ofNat value :: r.done, none⟩
      else ⟨r.done, some ⟨value, p.missing - 1, 0x80, 0xBF⟩⟩
    else Reading.start (replacement :: r.done) b

def Reading.finish (r : Reading) : String :=
  String.ofList (if r.pending.isSome then replacement :: r.done else r.done).reverse

def lossy (b : Bytes) : String :=
  match decode? b with
  | some s => s
  | none => (b.foldl Reading.step {}).finish

end Utf8

end RpcGateway
