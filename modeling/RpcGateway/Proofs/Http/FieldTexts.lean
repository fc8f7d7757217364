import Mathlib.Data.List.Basic
import RpcGateway.Proofs.Http.Identifiers

/-!
# Texts as field values

A text that is sent as a field value is read as text by the other side just if all its characters
are visible ASCII, spaces or tabs. An ASCII character is one octet, the same in every text, and the
octets of all other characters are beyond ASCII. So a separator or a blank stands in the octets just
where it stands in the text.
-/

namespace RpcGateway

open Http.RequestId (octet)

/-- An ASCII character is written as its own octet, any other one in octets beyond ASCII. -/
theorem Utf8.encodeChar_cases (c : Char) :
    c.toNat < 128 ∧ String.utf8EncodeChar c = [octet c] ∨
      128 ≤ c.toNat ∧ ∀ b ∈ String.utf8EncodeChar c, 128 ≤ b.toNat := by
  unfold String.utf8EncodeChar
  dsimp only
  obtain hascii | hbeyond := Nat.lt_or_ge c.toNat 128
  · have hle : c.val.toNat ≤ 127 := Nat.le_of_lt_succ hascii
    exact .inl ⟨hascii, if_pos hle⟩
  · have hnot : ¬ c.val.toNat ≤ 127 := Nat.not_le_of_lt hbeyond
    refine .inr ⟨hbeyond, ?_⟩
    rw [if_neg hnot]
    split
    · simp only [List.mem_cons, List.not_mem_nil, or_false, forall_eq_or_imp, forall_eq,
        UInt8.toNat_ofNat']
      omega
    · split
      · simp only [List.mem_cons, List.not_mem_nil, or_false, forall_eq_or_imp, forall_eq,
          UInt8.toNat_ofNat']
        omega
      · simp only [List.mem_cons, List.not_mem_nil, or_false, forall_eq_or_imp, forall_eq,
          UInt8.toNat_ofNat']
        omega

theorem Utf8.encodeChar_ne_nil (c : Char) : String.utf8EncodeChar c ≠ [] := by
  apply List.ne_nil_of_length_pos
  rw [String.length_utf8EncodeChar]
  exact c.utf8Size_pos

theorem Utf8.encode_eq (s : String) : encode s = s.toList.flatMap String.utf8EncodeChar := by
  rw [← encode_ofList, String.ofList_toList]

/-- An ASCII character stands in a text just if its octet stands in the octets. -/
theorem Utf8.octet_mem_encode_iff {a : Char} (ha : a.toNat < 128) {s : String} :
    octet a ∈ encode s ↔ a ∈ s.toList := by
  have hoctet : (octet a).toNat = a.toNat := by
    simp only [octet, UInt8.toNat_ofNat']
    omega
  rw [encode_eq, List.mem_flatMap]
  constructor
  · rintro ⟨c, hc, hmem⟩
    obtain ⟨hascii, hencode⟩ | ⟨-, hhigh⟩ := encodeChar_cases c
    · rw [hencode, List.mem_singleton] at hmem
      have hsame : a = c := by
        apply Char.toNat_inj.mp
        have hnat := congrArg UInt8.toNat hmem
        simp only [octet, UInt8.toNat_ofNat'] at hnat
        omega
      exact hsame ▸ hc
    · have hle := hhigh _ hmem
      omega
  · intro hmem
    refine ⟨a, hmem, ?_⟩
    obtain ⟨-, hencode⟩ | ⟨hbeyond, -⟩ := encodeChar_cases a
    · rw [hencode]
      exact List.mem_singleton_self _
    · omega

namespace Http.Headers

theorem eq_encode_of_value? {s : String} {v : Bytes} (h : value? s = some v) :
    v = Utf8.encode s := by
  unfold value? at h
  dsimp only at h
  split at h
  · cases h
    rfl
  · cases h

/-- The characters that a field value may have which is text. -/
def isTextChar (c : Char) : Bool := c == '\t' || (' ' ≤ c && c ≤ '~')

theorem isTextByte_octet {c : Char} (h : c.toNat < 128) :
    isTextByte (octet c) = isTextChar c ∧ Char.ofNat (octet c).toNat = c := by
  refine Utf8.forall_ascii ?_ h
  decide +kernel

theorem isTextChar_eq_false {c : Char} (h : 128 ≤ c.toNat) : isTextChar c = false := by
  have htab : c ≠ '\t' := by
    rintro rfl
    exact absurd h (by decide)
  have hlast : ¬ c ≤ '~' := fun hle ↦
    absurd (Nat.le_trans h (UInt32.le_iff_toNat_le.mp hle)) (by decide)
  simp [isTextChar, htab, hlast]

theorem isTextByte_eq_false {b : UInt8} (h : 128 ≤ b.toNat) : isTextByte b = false := by
  have htab : b ≠ 0x09 := by
    rintro rfl
    exact absurd h (by decide)
  have hlast : ¬ b < 0x7F := fun hlt ↦
    absurd (Nat.lt_of_le_of_lt h (UInt8.lt_iff_toNat_lt.mp hlt)) (by decide)
  simp [isTextByte, htab, hlast]

theorem all_isTextByte_encodeChar (c : Char) :
    (String.utf8EncodeChar c).all isTextByte = isTextChar c := by
  obtain ⟨hascii, hencode⟩ | ⟨hbeyond, hhigh⟩ := Utf8.encodeChar_cases c
  · rw [hencode, List.all_cons, List.all_nil, Bool.and_true, (isTextByte_octet hascii).1]
  · obtain ⟨b, hb⟩ := List.exists_mem_of_ne_nil _ (Utf8.encodeChar_ne_nil c)
    rw [isTextChar_eq_false hbeyond, List.all_eq_false]
    exact ⟨b, hb, by simp [isTextByte_eq_false (hhigh b hb)]⟩

/-- What is read of a text that is sent as a field value: the text, if it is visible ASCII. -/
theorem text?_encode (s : String) :
    text? (Utf8.encode s) = if s.toList.all isTextChar then some s.toList else none := by
  have hall : (Utf8.encode s).all isTextByte = s.toList.all isTextChar := by
    rw [Utf8.encode_eq, List.all_flatMap]
    simp only [all_isTextByte_encodeChar]
  rw [text?, hall]
  by_cases htext : s.toList.all isTextChar = true
  · rw [if_pos htext, if_pos htext, Utf8.encode_eq, List.map_flatMap]
    congr 1
    rw [List.all_eq_true] at htext
    calc
      _ = s.toList.flatMap fun c ↦ [c] := by
        apply List.flatMap_congr
        intro c hc
        obtain ⟨hascii, hencode⟩ | ⟨hbeyond, -⟩ := Utf8.encodeChar_cases c
        · rw [hencode, List.map_singleton, (isTextByte_octet hascii).2]
        · exact absurd (htext c hc) (by simp [isTextChar_eq_false hbeyond])
      _ = s.toList := List.flatMap_singleton' _
  · rw [if_neg htext, if_neg htext]

theorem encode_of_isTextByte {b : UInt8} (h : isTextByte b = true) :
    String.utf8EncodeChar (Char.ofNat b.toNat) = [b] := by
  revert h
  refine Utf8.forall_octet ?_ b
  decide +kernel

/-- What is read of a field value determines its octets. -/
theorem eq_encode_of_text? {v : Bytes} {cs : List Char} (h : text? v = some cs) :
    v = Utf8.encode (String.ofList cs) := by
  unfold text? at h
  obtain ⟨htext, hcs⟩ := Option.ite_none_right_eq_some.mp h
  cases hcs
  rw [List.all_eq_true] at htext
  rw [Utf8.encode_ofList, List.flatMap_map]
  calc
    v = v.flatMap fun b ↦ [b] := (List.flatMap_singleton' v).symm
    _ = _ := List.flatMap_congr fun b hb ↦ (encode_of_isTextByte (htext b hb)).symm

/-- The text that is read of a field value, if it is visible ASCII. -/
theorem text?_eq_some_iff {v : Bytes} {cs : List Char} :
    text? v = some cs ↔ v = Utf8.encode (String.ofList cs) ∧ ∀ c ∈ cs, isTextChar c = true := by
  constructor
  · intro h
    have hencode := eq_encode_of_text? h
    rw [hencode, text?_encode, String.toList_ofList] at h
    exact ⟨hencode, List.all_eq_true.mp (Option.ite_none_right_eq_some.mp h).1⟩
  · rintro ⟨rfl, htext⟩
    rw [text?_encode, String.toList_ofList, if_pos (List.all_eq_true.mpr htext)]

end Http.Headers

end RpcGateway
