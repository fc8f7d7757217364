import RpcGateway.Http.Cookie
import RpcGateway.Proofs.Http.FieldTexts
import RpcGateway.Proofs.Text.Cutting

/-!
# Cookies over several headers

Cookie headers that are text are read as one: a semicolon and a blank between two of them change
nothing, because the blank is trimmed from the piece behind it. The first piece with the name of a
cookie decides, even if its value is empty and a later piece has one that is not.
-/

namespace RpcGateway.Http.Cookie

variable {h joined : Headers} {values : List String} {name : String}

/-- The pieces of cookie headers, in the order of the headers. -/
def pieces (values : List String) : List (List Char) :=
  values.flatMap fun v ↦ Text.splitOn ';' v.toList

/-- A piece that gives a value to a name: trimmed, it is the name, the first equals sign, and the
value. -/
structure Assigns (name : String) (piece value : List Char) : Prop where
  trimmed : Text.trim isBlank piece = name.toList ++ '=' :: value
  first : '=' ∉ name.toList

/-- The value that the first piece with the name gives to it. -/
def FirstAssigned (name : String) (pieces : List (List Char)) (value : List Char) : Prop :=
  ∃ before piece after, pieces = before ++ piece :: after ∧
    (∀ p ∈ before, ∀ v, ¬ Assigns name p v) ∧ Assigns name piece value

def Unassigned (name : String) (pieces : List (List Char)) : Prop :=
  ∀ p ∈ pieces, ∀ v, ¬ Assigns name p v

/-- What is left of a value when the double quotes around it are removed. -/
structure Unquoted (value kept : List Char) : Prop where
  around : ∃ m n, value = List.replicate m '\x22' ++ kept ++ List.replicate n '\x22'
  bare : kept.head? ≠ some '\x22' ∧ kept.getLast? ≠ some '\x22'

theorem unquoted_unquote (value : List Char) : Unquoted value (unquote value) := by
  obtain ⟨front, back, hvalue, hfront, hback⟩ := Text.exists_append_trim (· == '\x22') value
  refine ⟨⟨front.length, back.length, ?_⟩, fun h ↦ ?_, fun h ↦ ?_⟩
  · rw [← List.eq_replicate_of_mem fun a ha ↦ beq_iff_eq.mp (hfront a ha),
      ← List.eq_replicate_of_mem fun a ha ↦ beq_iff_eq.mp (hback a ha)]
    exact hvalue
  · exact absurd (Text.eq_false_of_head?_trim h) (by decide)
  · exact absurd (Text.eq_false_of_getLast?_trim h) (by decide)

/-! ## One header for several -/

theorem pairs_append (s t : List Char) : pairs (s ++ ';' :: t) = pairs s ++ pairs t := by
  rw [pairs, Text.splitOn_append, List.filterMap_append]
  rfl

theorem pairs_blank (s : List Char) : pairs (' ' :: s) = pairs s := by
  have hblank : ' ' ≠ ';' := by decide
  obtain ⟨piece, others, hs, hcons⟩ := Text.splitOn_cons_of_ne hblank s
  have hpair : pair? (' ' :: piece) = pair? piece := by rw [pair?, Text.trim_cons rfl, pair?]
  rw [pairs, hcons, pairs, hs, List.filterMap_cons, List.filterMap_cons, hpair]

theorem pairs_intercalate (values : List String) :
    pairs ("; ".intercalate values).toList = values.flatMap fun v ↦ pairs v.toList := by
  induction values with
  | nil => rfl
  | cons v values ih =>
    cases values with
    | nil => rw [String.intercalate_singleton, List.flatMap_singleton]
    | cons v' values =>
      have hmark : ("; ".intercalate (v :: v' :: values)).toList =
          v.toList ++ ';' :: ' ' :: ("; ".intercalate (v' :: values)).toList := by
        rw [String.intercalate_cons_cons]
        simp
      rw [hmark, pairs_append, pairs_blank, ih]
      rfl

/-- The texts of cookie headers that are all text. -/
theorem texts_of_all (htext : ∀ v ∈ values, ∀ c ∈ v.toList, Headers.isTextChar c = true)
    (hall : h.all "cookie" = values.map Utf8.encode) :
    (h.all "cookie").filterMap Headers.text? = values.map String.toList := by
  rw [hall, List.filterMap_map, ← List.filterMap_eq_map]
  refine List.filterMap_congr fun v hv ↦ ?_
  rw [Function.comp_apply, Headers.text?_encode, if_pos (List.all_eq_true.mpr (htext v hv))]
  rfl

/-! ## The first piece with the name -/

theorem assigns_iff {piece value : List Char} :
    Assigns name piece value ↔ pair? piece = some (name.toList, value) := by
  rw [pair?, Text.splitOnce?_eq_some_iff]
  exact ⟨fun h ↦ ⟨h.trimmed, h.first⟩, fun h ↦ ⟨h.1, h.2⟩⟩

/-- A piece is a pair with the name just if it gives a value to it. -/
theorem any_pair?_iff {piece : List Char} :
    ((pair? piece).any fun p ↦ p.1 = name.toList) = true ↔ ∃ value, Assigns name piece value := by
  simp only [assigns_iff]
  cases pair? piece with
  | none => simp
  | some p => exact ⟨fun hp ↦ ⟨p.2, by rw [← of_decide_eq_true hp]⟩, fun ⟨_, hp⟩ ↦ by simp_all⟩

theorem flatMap_pairs (values : List String) :
    (values.map String.toList).flatMap pairs = (pieces values).filterMap pair? := by
  rw [pieces, List.filterMap_flatMap, List.flatMap_map]
  rfl

theorem find?_of_firstAssigned {ps : List (List Char)} {value : List Char}
    (hfirst : FirstAssigned name ps value) :
    (ps.filterMap pair?).find? (fun p ↦ p.1 = name.toList) = some (name.toList, value) := by
  obtain ⟨before, piece, after, rfl, hbefore, hassigns⟩ := hfirst
  have hpiece : (before ++ piece :: after).find?
      (fun q ↦ (pair? q).any fun p ↦ p.1 = name.toList) = some piece := by
    rw [List.find?_eq_some_iff_append]
    refine ⟨any_pair?_iff.mpr ⟨value, hassigns⟩, before, after, rfl, fun q hq ↦ ?_⟩
    rw [Bool.not_eq_true', ← Bool.not_eq_true, any_pair?_iff]
    exact fun ⟨v, hv⟩ ↦ hbefore q hq v hv
  rw [List.find?_filterMap, hpiece, Option.bind_some, assigns_iff.mp hassigns]

theorem find?_of_unassigned {ps : List (List Char)} (hnone : Unassigned name ps) :
    (ps.filterMap pair?).find? (fun p ↦ p.1 = name.toList) = none := by
  rw [List.find?_filterMap, List.find?_eq_none.mpr, Option.bind_none]
  intro q hq
  rw [any_pair?_iff]
  exact fun ⟨v, hv⟩ ↦ hnone q hq v hv

/-- Cookie headers that are all text say the same as one header of all of them, with a semicolon and
a blank between any two. The first piece with the name of a cookie decides its value: the value is
what the piece says without the quotes around it, and there is none if that is empty, whatever the
pieces behind it say. Without such a piece there is none. -/
theorem split_headers_agree (name : String)
    (htext : ∀ v ∈ values, ∀ c ∈ v.toList, Headers.isTextChar c = true)
    (hall : h.all "cookie" = values.map Utf8.encode)
    (hjoined : joined.all "cookie" = [Utf8.encode ("; ".intercalate values)]) :
    value? h name = value? joined name ∧
      (∀ value, FirstAssigned name (pieces values) value → ∃ kept, Unquoted value kept ∧
        value? h name = if kept = [] then none else some (String.ofList kept)) ∧
      (Unassigned name (pieces values) → value? h name = none) := by
  have hmark : ∀ c ∈ "; ".toList, Headers.isTextChar c = true := List.all_eq_true.mp rfl
  have hmarked : ∀ v ∈ ["; ".intercalate values], ∀ c ∈ v.toList,
      Headers.isTextChar c = true := by
    intro v hv c hc
    rw [List.mem_singleton.mp hv] at hc
    obtain hc | ⟨v', hv', hc⟩ := Text.mem_intercalate hc
    · exact hmark c hc
    · exact htext v' hv' c hc
  have htexts := texts_of_all htext hall
  have hpairs : ((h.all "cookie").filterMap Headers.text?).flatMap pairs =
      (pieces values).filterMap pair? := by rw [htexts, flatMap_pairs]
  refine ⟨?_, fun value hfirst ↦ ⟨unquote value, unquoted_unquote value, ?_⟩, fun hnone ↦ ?_⟩
  · rw [value?, value?, htexts, texts_of_all hmarked hjoined, valueIn?, valueIn?,
      List.map_singleton, List.flatMap_singleton, pairs_intercalate, List.flatMap_map]
  · rw [value?, valueIn?, hpairs, find?_of_firstAssigned hfirst]
    change Option.map _ (if (unquote value).isEmpty then none else some (unquote value)) = _
    cases unquote value with
    | nil => rfl
    | cons c cs => rfl
  · rw [value?, valueIn?, hpairs, find?_of_unassigned hnone]
    rfl

/-- A blank before an equals sign belongs to the name, quotes around a value do not belong to it,
and of two values in two headers the first one counts. -/
theorem first_of_two_headers_decides :
    let values := ["a=1;  id =2", "\tid=\x22x=1\x22; id=late", "id=other"]
    let h : Headers := values.map fun v ↦ ("cookie", Utf8.encode v)
    let joined : Headers :=
      [("cookie", Utf8.encode "a=1;  id =2; \tid=\x22x=1\x22; id=late; id=other")]
    (∀ v ∈ values, ∀ c ∈ v.toList, Headers.isTextChar c = true) ∧
      h.all "cookie" = values.map Utf8.encode ∧
      joined.all "cookie" = [Utf8.encode ("; ".intercalate values)] ∧
      FirstAssigned "id" (pieces values) "\x22x=1\x22".toList ∧
      (∃ kept, Unquoted "\x22x=1\x22".toList kept ∧
        value? h "id" = if kept = [] then none else some (String.ofList kept)) ∧
      value? h "id" = some "x=1" ∧ value? joined "id" = some "x=1" := by
  intro values h joined
  have hall : values.all (fun v ↦ v.toList.all Headers.isTextChar) = true := rfl
  have htext : ∀ v ∈ values, ∀ c ∈ v.toList, Headers.isTextChar c = true := fun v hv ↦
    List.all_eq_true.mp (List.all_eq_true.mp hall v hv)
  have hjoined : joined.all "cookie" = [Utf8.encode ("; ".intercalate values)] := by
    decide +kernel
  have hfirst : FirstAssigned "id" (pieces values) "\x22x=1\x22".toList := by
    refine ⟨["a=1".toList, "  id =2".toList], "\tid=\x22x=1\x22".toList,
      [" id=late".toList, "id=other".toList], by decide +kernel, ?_, by decide, by decide⟩
    rintro p hp v hassigns
    obtain rfl | rfl := by simpa using hp
    · cases (assigns_iff.mp hassigns)
    · cases (assigns_iff.mp hassigns)
  have hheaders : h.all "cookie" = values.map Utf8.encode := rfl
  obtain ⟨hsame, hdecides, -⟩ := split_headers_agree "id" htext hheaders hjoined
  have hvalue : value? h "id" = some "x=1" := by decide +kernel
  exact ⟨htext, hheaders, hjoined, hfirst, hdecides _ hfirst, hvalue, hsame ▸ hvalue⟩

end RpcGateway.Http.Cookie
