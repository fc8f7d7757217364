import Mathlib.Algebra.Group.Nat.Defs
import Mathlib.Data.Set.Function
import Mathlib.Order.Interval.Set.Defs
import RpcGateway.Http.RequestId

/-!
# Identifiers of requests

An identifier that comes in is adopted just if it has 1 to 128 octets, each an ASCII letter or
digit, a hyphen, a dot or an underscore. A fresh identifier is a UUID, and so it is one of these;
whoever gets an identifier of the gateway in a header adopts it.
-/

namespace RpcGateway

theorem Utf8.encode_append (a b : String) : encode (a ++ b) = encode a ++ encode b := by
  simp [encode]

theorem Utf8.encode_ofList (cs : List Char) :
    encode (String.ofList cs) = cs.flatMap String.utf8EncodeChar := by
  simp [encode, List.utf8Encode]

/-- What is to hold of all ASCII characters can be decided. -/
@[elab_as_elim]
theorem Utf8.forall_ascii {motive : Char → Prop} (h : ∀ n : Fin 128, motive (Char.ofNat n))
    {c : Char} (hc : c.toNat < 128) : motive c := by
  have hp := h ⟨c.toNat, hc⟩
  dsimp only at hp
  rwa [Char.ofNat_toNat] at hp

@[elab_as_elim]
theorem Utf8.forall_octet {motive : UInt8 → Prop} (h : ∀ n : Fin 256, motive (UInt8.ofNat n))
    (b : UInt8) : motive b := by
  have hp := h ⟨b.toNat, b.toNat_lt⟩
  dsimp only at hp
  rwa [UInt8.ofNat_toNat] at hp

namespace Http

/-! ## Identifiers that are adopted -/

namespace RequestId

/-- The octets that an identifier may have: those of ASCII letters and digits, the hyphen, the dot
and the underscore. -/
def IsPlainOctet (b : UInt8) : Prop :=
  (0x30 ≤ b ∧ b ≤ 0x39) ∨ (0x41 ≤ b ∧ b ≤ 0x5A) ∨ (0x61 ≤ b ∧ b ≤ 0x7A) ∨
    b = 0x2D ∨ b = 0x2E ∨ b = 0x5F

instance (b : UInt8) : Decidable (IsPlainOctet b) :=
  inferInstanceAs (Decidable ((0x30 ≤ b ∧ b ≤ 0x39) ∨ (0x41 ≤ b ∧ b ≤ 0x5A) ∨
    (0x61 ≤ b ∧ b ≤ 0x7A) ∨ b = 0x2D ∨ b = 0x2E ∨ b = 0x5F))

/-- A value that is taken over as an identifier. -/
structure Adoptable (v : Bytes) : Prop where
  nonempty : 1 ≤ v.length
  short : v.length ≤ 128
  plain : ∀ b ∈ v, IsPlainOctet b

/-- The octet of a plain character. -/
def octet (c : Char) : UInt8 := UInt8.ofNat c.toNat

theorem toNat_lt_of_isPlain {c : Char} (h : isPlain c = true) : c.toNat < 128 := by
  have hbound (last : Char) (hlast : last.toNat < 128) (hle : c.val ≤ last.val) :
      c.toNat < 128 := Nat.lt_of_le_of_lt (UInt32.le_iff_toNat_le.mp hle) hlast
  unfold isPlain at h
  simp only [Bool.or_eq_true, beq_iff_eq] at h
  obtain ((halphanum | rfl) | rfl) | rfl := h
  · obtain halpha | hdigit := Bool.or_eq_true_iff.mp halphanum
    · obtain hupper | hlower := Bool.or_eq_true_iff.mp halpha
      · exact hbound 'Z' (by decide) (of_decide_eq_true hupper).2
      · exact hbound 'z' (by decide) (of_decide_eq_true (Bool.and_eq_true_iff.mp hlower).2)
    · exact hbound '9' (by decide) (of_decide_eq_true (Bool.and_eq_true_iff.mp hdigit).2)
  · decide
  · decide
  · decide

/-- A plain character is written as one plain octet, which is read as that character. -/
theorem octet_of_isPlain {c : Char} (h : isPlain c = true) :
    IsPlainOctet (octet c) ∧ String.utf8EncodeChar c = [octet c] ∧
      Char.ofNat (octet c).toNat = c := by
  have hascii := toNat_lt_of_isPlain h
  revert h
  refine Utf8.forall_ascii ?_ hascii
  decide +kernel

/-- A plain octet is text, and stands for a plain character. -/
theorem isPlain_of_octet {b : UInt8} (h : IsPlainOctet b) :
    Headers.isTextByte b = true ∧ isPlain (Char.ofNat b.toNat) = true ∧
      octet (Char.ofNat b.toNat) = b := by
  revert h
  refine Utf8.forall_octet ?_ b
  decide +kernel

/-- A plain character that a text octet stands for is written as that octet. -/
theorem isPlainOctet_of_isPlain {b : UInt8} (htext : Headers.isTextByte b = true)
    (hplain : isPlain (Char.ofNat b.toNat) = true) :
    IsPlainOctet b ∧ octet (Char.ofNat b.toNat) = b := by
  revert htext hplain
  refine Utf8.forall_octet ?_ b
  decide +kernel

theorem encode_of_plain {cs : List Char} (h : ∀ c ∈ cs, isPlain c = true) :
    Utf8.encode (String.ofList cs) = cs.map octet := by
  rw [Utf8.encode_ofList]
  induction cs with
  | nil => rfl
  | cons c cs ih =>
    rw [List.forall_mem_cons] at h
    rw [List.flatMap_cons, (octet_of_isPlain h.1).2.1, ih h.2]
    rfl

theorem wellFormed_iff {cs : List Char} :
    wellFormed cs = true ↔ cs ≠ [] ∧ cs.length ≤ 128 ∧ ∀ c ∈ cs, isPlain c = true := by
  simp only [wellFormed, Bool.and_eq_true, Bool.not_eq_true', List.isEmpty_eq_false_iff,
    decide_eq_true_eq, List.all_eq_true, and_assoc]
  rfl

/-- The octets of an identifier are adoptable. -/
theorem adoptable_encode {id : String} (h : wellFormed id.toList = true) :
    Adoptable (Utf8.encode id) := by
  obtain ⟨hnonempty, hshort, hplain⟩ := wellFormed_iff.mp h
  have hencode := encode_of_plain hplain
  rw [String.ofList_toList] at hencode
  rw [hencode]
  refine ⟨?_, ?_, ?_⟩
  · rw [List.length_map]
    exact List.length_pos_iff.mpr hnonempty
  · rwa [List.length_map]
  · rw [List.forall_mem_map]
    exact fun c hc ↦ (octet_of_isPlain (hplain c hc)).1

/-- What is adoptable is the identifier of its characters. -/
theorem parse?_of_adoptable {v : Bytes} (h : Adoptable v) :
    ∃ id, (Headers.text? v).bind (fun s ↦ parse? (String.ofList s)) = some id ∧
      Utf8.encode id = v := by
  have hplain : ∀ c ∈ v.map (fun b ↦ Char.ofNat b.toNat), isPlain c = true := by
    rw [List.forall_mem_map]
    exact fun b hb ↦ (isPlain_of_octet (h.plain b hb)).2.1
  have htext : v.all Headers.isTextByte = true := by
    rw [List.all_eq_true]
    exact fun b hb ↦ (isPlain_of_octet (h.plain b hb)).1
  have hformed : wellFormed (v.map fun b ↦ Char.ofNat b.toNat) = true := by
    rw [wellFormed_iff, List.length_map]
    refine ⟨?_, h.short, hplain⟩
    rw [ne_eq, List.map_eq_nil_iff]
    exact List.ne_nil_of_length_pos h.nonempty
  refine ⟨String.ofList (v.map fun b ↦ Char.ofNat b.toNat), ?_, ?_⟩
  · simp [Headers.text?, htext, parse?, hformed]
  · rw [encode_of_plain hplain, List.map_map]
    calc
      v.map (octet ∘ fun b ↦ Char.ofNat b.toNat) = v.map id :=
        List.map_congr_left fun b hb ↦ (isPlain_of_octet (h.plain b hb)).2.2
      _ = v := List.map_id v

/-- A value whose characters are an identifier is adoptable. -/
theorem adoptable_of_text? {v : Bytes} {cs : List Char} (htext : Headers.text? v = some cs)
    (hformed : wellFormed cs = true) : Adoptable v ∧ Utf8.encode (String.ofList cs) = v := by
  unfold Headers.text? at htext
  split at htext
  · rename_i hall
    cases htext
    rw [List.all_eq_true] at hall
    obtain ⟨hnonempty, hshort, hplain⟩ := wellFormed_iff.mp hformed
    rw [List.length_map] at hshort
    have hoctets : ∀ b ∈ v, IsPlainOctet b ∧ octet (Char.ofNat b.toNat) = b := fun b hb ↦
      isPlainOctet_of_isPlain (hall b hb) (hplain _ (List.mem_map_of_mem hb))
    refine ⟨⟨?_, hshort, fun b hb ↦ (hoctets b hb).1⟩, ?_⟩
    · exact List.length_pos_iff.mpr (mt (congrArg _) hnonempty)
    · rw [encode_of_plain hplain, List.map_map]
      calc
        v.map (octet ∘ fun b ↦ Char.ofNat b.toNat) = v.map id :=
          List.map_congr_left fun b hb ↦ (hoctets b hb).2
        _ = v := List.map_id v
  · cases htext

theorem wellFormed_of_parse? {s id : String} (h : parse? s = some id) :
    s = id ∧ wellFormed id.toList = true := by
  unfold parse? at h
  split at h
  · cases h
    exact ⟨rfl, ‹_›⟩
  · cases h

/-- An identifier comes in just with an adoptable value, which is its octets. -/
theorem ofHeaders?_eq_some_iff {h : Headers} {id : String} :
    ofHeaders? h = some id ↔
      ∃ v, h.get? headerName = some v ∧ Adoptable v ∧ Utf8.encode id = v := by
  unfold ofHeaders?
  constructor
  · intro hid
    obtain ⟨cs, hcs, hparsed⟩ := Option.bind_eq_some_iff.mp hid
    obtain ⟨v, hv, htext⟩ := Option.bind_eq_some_iff.mp hcs
    obtain ⟨rfl, hformed⟩ := wellFormed_of_parse? hparsed
    rw [String.toList_ofList] at hformed
    refine ⟨v, hv, ?_⟩
    exact adoptable_of_text? htext hformed
  · rintro ⟨v, hv, hadoptable, rfl⟩
    obtain ⟨id', hid', hencode⟩ := parse?_of_adoptable hadoptable
    have hsame : id' = id := by
      have hdecoded := congrArg Utf8.decode? hencode
      simpa using hdecoded
    rw [hv, Option.bind_some, hid', hsame]

/-! ## Fresh identifiers -/

/-- A UUID is well formed. -/
theorem wellFormed_of_isUuid {id : String} (h : IsUuid id) : wellFormed id.toList = true := by
  obtain ⟨a, b, c, d, e, variant, hvariant, hid, ha, hb, hc, hd, he, hdigits⟩ := h
  have hhex : ∀ x, IsHexDigit x → isPlain x = true := List.all_eq_true.mp (by decide)
  have hvariants : ∀ x ∈ "89ab".toList, isPlain x = true := List.all_eq_true.mp (by decide)
  simp only [List.forall_mem_cons] at hdigits
  obtain ⟨hda, hdb, hdc, hdd, hde, -⟩ := hdigits
  rw [wellFormed_iff, hid]
  refine ⟨by simp, ?_, ?_⟩
  · simp [ha, hb, hc, hd, he]
  · have hmark : isPlain '-' = true := by decide
    have hversion : isPlain '4' = true := by decide
    simp only [List.append_assoc, List.cons_append, List.forall_mem_append, List.forall_mem_cons]
    exact ⟨fun x hx ↦ hhex x (hda x hx), hmark, fun x hx ↦ hhex x (hdb x hx), hmark, hversion,
      fun x hx ↦ hhex x (hdc x hx), hmark, hvariants variant hvariant,
      fun x hx ↦ hhex x (hdd x hx), hmark, fun x hx ↦ hhex x (hde x hx)⟩

theorem Source.wellFormed_fresh (ids : Source) (n : Nat) : wellFormed (ids.fresh n).toList = true :=
  wellFormed_of_isUuid (ids.isUuid_fresh n)

theorem hexDigit_injOn : Set.InjOn hexDigit (Set.Iio 16) := by
  have hdigits : ∀ d e : Fin 16, hexDigit d = hexDigit e → d = e := by decide
  exact fun d hd e he h ↦ congrArg Fin.val (hdigits ⟨d, hd⟩ ⟨e, he⟩ h)

/-- Numbers without more digits than are written can be told apart. -/
theorem hex_injOn (width : Nat) : Set.InjOn (hex · width) (Set.Iio (16 ^ width)) := by
  induction width with
  | zero =>
    intro n hn m hm _
    exact (Nat.lt_one_iff.mp hn).trans (Nat.lt_one_iff.mp hm).symm
  | succ width ih =>
    intro n hn m hm h
    have hshort {k : Nat} (hk : k < 16 ^ (width + 1)) : k / 16 < 16 ^ width :=
      Nat.div_lt_of_lt_mul (Nat.pow_succ' ▸ hk)
    have hlow {k : Nat} : k % 16 < 16 := Nat.mod_lt k (by decide)
    obtain ⟨hhigh, hlast⟩ := List.append_inj' h rfl
    have hdiv : n / 16 = m / 16 := ih (hshort hn) (hshort hm) hhigh
    have hmod : n % 16 = m % 16 := hexDigit_injOn hlow hlow (List.singleton_inj.mp hlast)
    omega

/-- A UUID tells its digits. -/
theorem uuid_injOn : Set.InjOn uuid { digits | digits.length = 30 } := by
  -- What is left of the text without its hyphens, its version and its variant.
  let read (text : List Char) : List Char :=
    text.take 8 ++ ((text.drop 9).take 4 ++ ((text.drop 15).take 3 ++
      ((text.drop 20).take 3 ++ text.drop 24)))
  have hread : ∀ digits : List Char, digits.length = 30 → read (uuid digits).toList = digits := by
    intro digits hlength
    have hgroup (k m : Nat) :
        (digits.drop k).take m ++ digits.drop (k + m) = digits.drop k := by
      rw [← List.drop_drop]
      exact List.take_append_drop m (digits.drop k)
    calc
      read (uuid digits).toList = digits.take 8 ++ ((digits.drop 8).take 4 ++
          ((digits.drop 12).take 3 ++ ((digits.drop 15).take 3 ++ digits.drop 18))) := by
        simp [read, uuid, List.drop_append, hlength, List.drop_take]
      _ = digits := by rw [hgroup 15 3, hgroup 12 3, hgroup 8 4, List.take_append_drop]
  intro digits hdigits digits' hdigits' h
  calc
    digits = read (uuid digits).toList := (hread digits hdigits).symm
    _ = read (uuid digits').toList := by rw [h]
    _ = digits' := hread digits' hdigits'

/-- Counted identifiers do not come again before all digits have been used. -/
theorem Source.injOn_fresh_counted : Set.InjOn Source.counted.fresh (Set.Iio (16 ^ 30)) := by
  intro n hn m hm h
  exact hex_injOn 30 hn hm (uuid_injOn (length_hex n 30) (length_hex m 30) h)

/-- An identifier that is well formed can stand in a header. -/
theorem value?_of_wellFormed {id : String} (h : wellFormed id.toList = true) :
    Headers.value? id = some (Utf8.encode id) := by
  have hvalue (b : UInt8) : IsPlainOctet b → Headers.isValueByte b = true := by
    refine Utf8.forall_octet ?_ b
    decide +kernel
  have hall : Headers.isValue (Utf8.encode id) = true := by
    rw [Headers.isValue, List.all_eq_true]
    exact fun b hb ↦ hvalue b ((adoptable_encode h).plain b hb)
  rw [Headers.value?, if_pos hall]

/-- A header whose first identifier is well formed has it adopted. -/
theorem ofHeaders?_of_get? {h : Headers} {id : String} (hformed : wellFormed id.toList = true)
    (hid : h.get? headerName = some (Utf8.encode id)) : ofHeaders? h = some id :=
  ofHeaders?_eq_some_iff.mpr ⟨_, hid, adoptable_encode hformed, rfl⟩

theorem wellFormed_of_ofHeaders? {h : Headers} {id : String} (hid : ofHeaders? h = some id) :
    wellFormed id.toList = true := by
  unfold ofHeaders? at hid
  obtain ⟨cs, -, hparsed⟩ := Option.bind_eq_some_iff.mp hid
  exact (wellFormed_of_parse? hparsed).2

end RequestId

end Http

end RpcGateway
