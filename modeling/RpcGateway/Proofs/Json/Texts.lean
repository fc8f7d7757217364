import Mathlib.Tactic.IntervalCases
import RpcGateway.Json.Value

/-!
# Reading what has been written

A text between quotes is read as it was written, whatever characters it has: the scan keeps it as
one token, and its escapes stand for the octets that were escaped.
-/

namespace RpcGateway.Json

variable {b : UInt8} {rest : Bytes}

/-- The controls are the first 32 octets. -/
theorem forall_control {motive : UInt8 → Prop} (h : ∀ n, n < 32 → motive (UInt8.ofNat n))
    (b : UInt8) (hb : b < 0x20) : motive b := by
  have hn := h b.toNat (UInt8.lt_iff_toNat_lt.mp hb)
  rwa [UInt8.ofNat_toNat] at hn

/-! ## Quoted text -/

namespace Quoted

variable {octets : Bytes}

theorem escape_of_plain (hcontrol : ¬ b < 0x20) (hquote : b ≠ 0x22) (hslash : b ≠ 0x5C) :
    escape b = [b] := by
  have hne (c : UInt8) (hc : c < 0x20) : b ≠ c := by
    rintro rfl
    exact hcontrol hc
  simp [escape, hcontrol, hquote, hslash, hne 0x08 (by decide), hne 0x09 (by decide),
    hne 0x0A (by decide), hne 0x0C (by decide), hne 0x0D (by decide)]

/-- The written form of an octet is read as that octet. -/
theorem run?_escape (b : UInt8) :
    Reading.run? ⟨octets, .plain⟩ (escape b ++ rest) =
      Reading.run? ⟨b :: octets, .plain⟩ rest := by
  by_cases hcontrol : b < 0x20
  · revert b
    apply forall_control
    intro n hn
    interval_cases n <;> rfl
  by_cases hquote : b = 0x22
  · subst hquote
    rfl
  by_cases hslash : b = 0x5C
  · subst hslash
    rfl
  rw [escape_of_plain hcontrol hquote hslash]
  simp [Reading.run?, Reading.step?, hquote, hslash, hcontrol]

theorem run?_flatMap_escape (text : Bytes) :
    Reading.run? ⟨octets, .plain⟩ (text.flatMap escape) =
      some ⟨text.reverse ++ octets, .plain⟩ := by
  induction text generalizing octets with
  | nil => rfl
  | cons b text ih =>
    rw [List.flatMap_cons, run?_escape, ih, List.reverse_cons, List.append_assoc]
    rfl

/-- What has been written between quotes is read again. -/
theorem decode?_encode (s : String) : decode? (encode s) = some s := by
  unfold decode? encode
  rw [run?_flatMap_escape, Option.bind_some, List.append_nil]
  unfold Reading.finish?
  rw [List.reverse_reverse, Utf8.decode?_encode]

end Quoted

/-! ## Tokens -/

namespace Token

variable {tokens : List Token} {read : Bytes}

/-- The written form of an octet is passed over as a whole. -/
theorem run?_escape (b : UInt8) :
    Scan.run? ⟨tokens, .inString read⟩ (Quoted.escape b ++ rest) =
      Scan.run? ⟨tokens, .inString ((Quoted.escape b).reverse ++ read)⟩ rest := by
  by_cases hcontrol : b < 0x20
  · revert b
    apply forall_control
    intro n hn
    interval_cases n <;> rfl
  by_cases hquote : b = 0x22
  · subst hquote
    rfl
  by_cases hslash : b = 0x5C
  · subst hslash
    rfl
  rw [Quoted.escape_of_plain hcontrol hquote hslash]
  simp [Scan.run?, Scan.step?, hquote, hslash, hcontrol]

theorem run?_flatMap_escape (text : Bytes) :
    Scan.run? ⟨tokens, .inString read⟩ (text.flatMap Quoted.escape ++ rest) =
      Scan.run? ⟨tokens, .inString ((text.flatMap Quoted.escape).reverse ++ read)⟩ rest := by
  induction text generalizing read with
  | nil => rfl
  | cons b text ih =>
    rw [List.flatMap_cons, List.append_assoc, run?_escape, ih, List.reverse_append,
      List.append_assoc]

/-- A bracket, a colon or a comma is a token by itself. -/
theorem run?_mark (t : Token)
    (ht : t ∈ [beginArray, endArray, beginObject, endObject, colon, comma]) :
    Scan.run? ⟨tokens, .between⟩ (text t ++ rest) = Scan.run? ⟨t :: tokens, .between⟩ rest := by
  simp only [List.mem_cons, List.not_mem_nil, or_false] at ht
  obtain rfl | rfl | rfl | rfl | rfl | rfl := ht <;> rfl

/-- A text that has been written is one token. -/
theorem run?_string (s : String) :
    Scan.run? ⟨tokens, .between⟩ (text (.string (Quoted.encode s)) ++ rest) =
      Scan.run? ⟨.string (Quoted.encode s) :: tokens, .between⟩ rest := by
  have hopened : Scan.run? ⟨tokens, .between⟩ (text (.string (Quoted.encode s)) ++ rest) =
      Scan.run? ⟨tokens, .inString []⟩ (Quoted.encode s ++ (0x22 :: rest)) := by
    simp [text, Scan.run?, Scan.step?, Scan.begin?, isBlank]
  rw [hopened, Quoted.encode, run?_flatMap_escape, List.append_nil]
  simp [Scan.run?, Scan.step?]

/-- So is a null, if no letter follows it. -/
theorem run?_null (hb : isLetter b = Bool.false) :
    Scan.run? ⟨tokens, .between⟩ (text .null ++ b :: rest) =
      Scan.run? ⟨.null :: tokens, .between⟩ (b :: rest) := by
  have hread : Scan.run? ⟨tokens, .between⟩ (text .null ++ b :: rest) =
      Scan.run? ⟨tokens, .inWord [0x6C, 0x6C, 0x75, 0x6E]⟩ (b :: rest) := rfl
  rw [hread]
  unfold Scan.run?
  simp only [Scan.step?, hb]
  rfl

end Token

end RpcGateway.Json
