import Mathlib.Data.List.DropRight
import RpcGateway.Text.Pieces

/-!
# Cutting and trimming

Cutting a text at a separator is the library's `splitOn`. It leaves one piece, the text itself, just
if the separator does not occur. Cutting it once leaves what stands before the first separator and
what stands behind it. Trimming leaves a text as it is just if neither its first nor its last
character is to be trimmed.
-/

namespace RpcGateway.Text

variable {α : Type} {p : α → Bool} {s t : List α}

section Cutting

variable [DecidableEq α] {separator : α}

theorem splitOn_eq (separator : α) (s : List α) : splitOn separator s = s.splitOn separator := by
  induction s with
  | nil => rfl
  | cons a s ih =>
    rw [splitOn, List.splitOn_cons_eq_if_modifyHead, ih]
    by_cases ha : a = separator
    · simp [ha]
    · obtain ⟨piece, pieces, hpieces⟩ :=
        List.exists_cons_of_ne_nil (List.splitOn_ne_nil separator s)
      simp [ha, hpieces]

theorem splitOn_append (separator : α) (s t : List α) :
    splitOn separator (s ++ separator :: t) = splitOn separator s ++ splitOn separator t := by
  simp only [splitOn_eq, List.splitOn_append_cons_self]

/-- A character that is no separator begins the first piece. -/
theorem splitOn_cons_of_ne {a : α} (ha : a ≠ separator) (s : List α) :
    ∃ piece pieces, splitOn separator s = piece :: pieces ∧
      splitOn separator (a :: s) = (a :: piece) :: pieces := by
  obtain ⟨piece, pieces, hpieces⟩ := List.exists_cons_of_ne_nil (List.splitOn_ne_nil separator s)
  rw [← splitOn_eq] at hpieces
  exact ⟨piece, pieces, hpieces, by rw [splitOn, if_neg ha, hpieces]⟩

theorem splitOn_of_not_mem (h : separator ∉ s) : splitOn separator s = [s] := by
  rw [splitOn_eq, List.splitOn_eq_singleton h]

theorem splitOn_ne_nil (separator : α) (s : List α) : splitOn separator s ≠ [] := by
  rw [splitOn_eq]
  exact List.splitOn_ne_nil separator s

/-- No piece holds a separator. -/
theorem not_mem_of_mem_splitOn {piece : List α} (h : piece ∈ splitOn separator s) :
    separator ∉ piece := by
  induction s generalizing piece with
  | nil =>
    rw [List.mem_singleton.mp h]
    exact List.not_mem_nil
  | cons a s ih =>
    obtain ⟨first, pieces, hpieces⟩ := List.exists_cons_of_ne_nil (splitOn_ne_nil separator s)
    rw [splitOn] at h
    by_cases ha : a = separator
    · rw [if_pos ha] at h
      obtain rfl | h := List.mem_cons.mp h
      · exact List.not_mem_nil
      · exact ih h
    · rw [if_neg ha, hpieces] at h
      rw [hpieces] at ih
      obtain rfl | h := List.mem_cons.mp h
      · exact List.not_mem_cons_of_ne_of_not_mem (Ne.symm ha) (ih List.mem_cons_self)
      · exact ih (List.mem_cons_of_mem _ h)

/-- A text with a separator has at least two pieces. -/
theorem two_le_length_splitOn (h : separator ∈ s) : 2 ≤ (splitOn separator s).length := by
  obtain ⟨a, b, rfl⟩ := List.append_of_mem h
  rw [splitOn_append, List.length_append]
  exact Nat.add_le_add (List.length_pos_iff.mpr (splitOn_ne_nil _ _))
    (List.length_pos_iff.mpr (splitOn_ne_nil _ _))

/-- The first piece reaches to the first separator. -/
theorem splitOn_eq_cons (separator : α) (s : List α) :
    ∃ pieces, splitOn separator s = s.takeWhile (· ≠ separator) :: pieces := by
  induction s with
  | nil => exact ⟨[], rfl⟩
  | cons a s ih =>
    obtain ⟨pieces, hpieces⟩ := ih
    by_cases ha : a = separator
    · exact ⟨splitOn separator s, by simp [splitOn, ha]⟩
    · exact ⟨pieces, by simp [splitOn, ha, hpieces]⟩

/-- What is cut off once stands before the first separator. -/
theorem splitOnce?_append (h : separator ∉ s) (t : List α) :
    splitOnce? separator (s ++ separator :: t) = some (s, t) := by
  induction s with
  | nil => simp [splitOnce?]
  | cons a s ih =>
    rw [List.mem_cons, not_or] at h
    simp [splitOnce?, Ne.symm h.1, ih h.2]

theorem splitOnce?_eq_some_iff {first second : List α} :
    splitOnce? separator s = some (first, second) ↔
      s = first ++ separator :: second ∧ separator ∉ first := by
  constructor
  · intro h
    induction s generalizing first with
    | nil => cases h
    | cons a s ih =>
      unfold splitOnce? at h
      split at h
      · rename_i heq
        cases h
        exact ⟨by rw [heq, List.nil_append], List.not_mem_nil⟩
      · rename_i hne
        obtain ⟨⟨rest, _⟩, hrest, hfirst⟩ := Option.map_eq_some_iff.mp h
        cases hfirst
        obtain ⟨hsame, hnot⟩ := ih hrest
        exact ⟨by rw [hsame, List.cons_append],
          List.not_mem_cons_of_ne_of_not_mem (Ne.symm hne) hnot⟩
  · rintro ⟨rfl, hnot⟩
    exact splitOnce?_append hnot second

end Cutting

theorem trimEnd_eq (p : α → Bool) (s : List α) : trimEnd p s = s.rdropWhile p := rfl

theorem trimEnd_eq_self_iff : trimEnd p s = s ↔ ∀ a, s.getLast? = some a → p a = false := by
  rw [trimEnd_eq, List.rdropWhile_eq_self_iff]
  cases s with
  | nil => simp
  | cons a s => simp [List.getLast?_eq_some_getLast]

theorem trimStart_eq_self_iff : trimStart p s = s ↔ ∀ a, s.head? = some a → p a = false := by
  rw [trimStart, List.dropWhile_eq_self_iff]
  cases s with
  | nil => simp
  | cons a s => simp

theorem trimEnd_isPrefix (p : α → Bool) (s : List α) : trimEnd p s <+: s :=
  List.rdropWhile_prefix p s

theorem trimStart_isSuffix (p : α → Bool) (s : List α) : trimStart p s <:+ s :=
  List.dropWhile_suffix p

/-- Trimming takes nothing from a text just if there is nothing at either end to be trimmed. -/
theorem trim_eq_self_iff : trim p s = s ↔
    (∀ a, s.head? = some a → p a = false) ∧ ∀ a, s.getLast? = some a → p a = false := by
  rw [← trimStart_eq_self_iff, ← trimEnd_eq_self_iff, trim]
  constructor
  · intro h
    have hle := (trimEnd_isPrefix p (trimStart p s)).length_le
    rw [h] at hle
    have hstart := (trimStart_isSuffix p s).eq_of_length_le hle
    rw [hstart] at h
    exact ⟨hstart, h⟩
  · rintro ⟨hstart, hend⟩
    rw [hstart, hend]

theorem length_trim_le (p : α → Bool) (s : List α) : (trim p s).length ≤ s.length :=
  Nat.le_trans (trimEnd_isPrefix p _).length_le (trimStart_isSuffix p s).length_le

/-- Nothing before a character that stays is trimmed at the end. -/
theorem trimEnd_append {a : α} (ha : p a = false) (s t : List α) :
    trimEnd p (s ++ a :: t) = s ++ a :: trimEnd p t := by
  rw [trimEnd_eq, trimEnd_eq]
  induction t using List.reverseRecOn with
  | nil => exact List.rdropWhile_concat_neg p s a (by simp [ha])
  | append_singleton t c ih =>
    have happend : s ++ a :: (t ++ [c]) = (s ++ a :: t) ++ [c] := by simp
    rw [happend, List.rdropWhile_concat, List.rdropWhile_concat]
    split
    · exact ih
    · exact happend.symm

theorem trim_cons_append {a b : α} (ha : p a = false) (hb : p b = false) (s t : List α) :
    trim p (a :: s ++ b :: t) = a :: s ++ b :: trimEnd p t := by
  have hstart : trimStart p (a :: s ++ b :: t) = a :: s ++ b :: t := by simp [trimStart, ha]
  rw [trim, hstart, trimEnd_append hb]

theorem trim_cons {a : α} (ha : p a = true) (s : List α) : trim p (a :: s) = trim p s := by
  simp [trim, trimStart, ha]

/-- Trimming takes away nothing but what is to be trimmed at either end. -/
theorem exists_append_trim (p : α → Bool) (s : List α) :
    ∃ front back, s = front ++ trim p s ++ back ∧ (∀ a ∈ front, p a = true) ∧
      ∀ a ∈ back, p a = true := by
  refine ⟨s.takeWhile p, (trimStart p s).rtakeWhile p, ?_, fun a ha ↦ List.mem_takeWhile_imp ha,
    fun a ha ↦ List.mem_rtakeWhile_imp ha⟩
  rw [trim, trimEnd_eq, List.append_assoc, List.rdropWhile_append_rtakeWhile, trimStart,
    List.takeWhile_append_dropWhile]

theorem eq_false_of_getLast?_trim {a : α} (h : (trim p s).getLast? = some a) : p a = false :=
  trimEnd_eq_self_iff.mp (List.rdropWhile_idempotent p (trimStart p s)) a h

theorem eq_false_of_head?_trim {a : α} (h : (trim p s).head? = some a) : p a = false := by
  obtain ⟨back, hback⟩ := trimEnd_isPrefix p (trimStart p s)
  refine trimStart_eq_self_iff.mp (List.dropWhile_idempotent p s) a ?_
  rw [← trimStart, ← hback, List.head?_append, ← trim, h, Option.some_or]

/-- A text that is joined holds what its parts hold, and what stands between them. -/
theorem mem_intercalate {c : Char} {separator : String} {parts : List String}
    (h : c ∈ (separator.intercalate parts).toList) :
    c ∈ separator.toList ∨ ∃ t ∈ parts, c ∈ t.toList := by
  induction parts with
  | nil => simp at h
  | cons t parts ih =>
    cases parts with
    | nil =>
      rw [String.intercalate_singleton] at h
      exact .inr ⟨t, List.mem_singleton_self t, h⟩
    | cons t' parts =>
      rw [String.intercalate_cons_cons] at h
      simp only [String.toList_append, List.mem_append] at h
      obtain (h | h) | h := h
      · exact .inr ⟨t, List.mem_cons_self, h⟩
      · exact .inl h
      · obtain hmark | ⟨t'', hmem, hc⟩ := ih h
        · exact .inl hmark
        · exact .inr ⟨t'', List.mem_cons_of_mem t hmem, hc⟩

end RpcGateway.Text
