import Mathlib.Data.List.Pairwise
import RpcGateway.Http.PathPattern

/-!
# Which pattern a path matches

A path may match several patterns, and the search takes the one that goes on with literal text
wherever it can. A pattern is reached by the paths that fill its parameters, if no pattern that has
literal text in the place of a parameter matches as well: the text that stands for the parameter is
not that literal text, nor does it begin with it before a parameter of the other pattern.
-/

namespace RpcGateway.Http.PathPattern

variable {ρ : Type} {p q : PathPattern} {ps : List PathPattern} {path v tail : List Char} {c : Char}
  {fuel : Nat} {cs : List (Candidate ρ)} {k : Candidate ρ} {target : ρ} {captures : Captures}

/-! ## Conflicts -/

theorem conflicts_comm (p q : PathPattern) : p.conflicts q = q.conflicts p := by
  induction p generalizing q with
  | nil =>
    cases q with
    | nil => rfl
    | cons y q => cases y <;> rfl
  | cons x p ih =>
    cases q with
    | nil => cases x <;> rfl
    | cons y q =>
      cases x with
      | literal c =>
        cases y with
        | literal d => rw [conflicts, conflicts, ih, BEq.comm]
        | _ => rfl
      | param name =>
        cases y with
        | param name' => exact ih q
        | _ => rfl
      | rest name => cases y <;> rfl

/-! ## Patterns that are read -/

theorem pieces?_of_parse? (h : parse? path = some p) : pieces? none (unescape path) = some p := by
  unfold parse? at h
  split at h
  · cases h
  split at h
  · rename_i hpieces
    split at h
    · cases h
    · cases h
      exact hpieces
  · cases h

theorem unescape_cons (hopen : c ≠ '\x7b') (hclose : c ≠ '\x7d') (r : List Char) :
    unescape (c :: r) = (c, false) :: unescape r := by
  rw [unescape]
  · rintro r ⟨⟩
    exact absurd rfl hopen
  · rintro r ⟨⟩
    exact absurd rfl hclose

/-- What is no brace stands for itself. -/
theorem pieces?_cons (hopen : c ≠ '\x7b') (hclose : c ≠ '\x7d') (r : List Char) :
    pieces? none (unescape (c :: r)) = (pieces? none (unescape r)).map (.literal c :: ·) := by
  rw [unescape_cons hopen hclose, pieces?]
  simp [hopen, hclose]

/-! ## Paths that match -/

/-- What the search may take a path for. -/
inductive Matches : PathPattern → List Char → Prop where
  | nil : Matches [] []
  | literal {p : PathPattern} {path : List Char} (c : Char) (rest : Matches p path) :
      Matches (.literal c :: p) (c :: path)
  | param {p : PathPattern} {path : List Char} (name : List Char) (nonempty : path ≠ [])
      (rest : Matches p (path.dropWhile (· != '/'))) : Matches (.param name :: p) path
  | rest {p : PathPattern} {path : List Char} (name : List Char) (nonempty : path ≠ []) :
      Matches (.rest name :: p) path

theorem mem_afterLiteral_iff {k' : Candidate ρ} : k' ∈ afterLiteral c cs ↔
    ∃ k ∈ cs, ∃ left, k.left = .literal c :: left ∧ k' = { k with left } := by
  unfold afterLiteral
  rw [List.mem_filterMap]
  refine exists_congr fun k ↦ and_congr_right fun _ ↦ ?_
  constructor
  · intro h
    split at h
    · rename_i left hleft
      split at h
      · rename_i hsame
        subst hsame
        cases h
        exact ⟨left, hleft, rfl⟩
      · cases h
    · cases h
  · rintro ⟨left, hleft, rfl⟩
    simp [hleft]

/-- A candidate of which a parameter has taken a segment, and what is left of it then. -/
def Candidate.taking (k : Candidate ρ) (name segment : List Char) (left : PathPattern) :
    Candidate ρ :=
  { k with
    left
    captured := k.captured ++ [(String.ofList name, String.ofList segment)] }

theorem mem_afterParam_iff {segment : List Char} {k' : Candidate ρ} :
    k' ∈ afterParam segment cs ↔
      ∃ k ∈ cs, ∃ name left, k.left = .param name :: left ∧ k' = k.taking name segment left := by
  unfold afterParam
  rw [List.mem_filterMap]
  refine exists_congr fun k ↦ and_congr_right fun _ ↦ ?_
  constructor
  · intro h
    split at h
    · rename_i name left hleft
      cases h
      exact ⟨name, left, hleft, rfl⟩
    · cases h
  · rintro ⟨name, left, hleft, rfl⟩
    simp [hleft, Candidate.taking]

theorem exists_of_complete? (h : complete? cs = some (target, captures)) :
    ∃ k ∈ cs, k.left = [] ∧ k.target = target ∧ k.captured = captures := by
  obtain ⟨k, hk, hsame⟩ := Option.map_eq_some_iff.mp h
  obtain ⟨rfl, rfl⟩ := Prod.mk.inj hsame
  exact ⟨k, List.mem_of_find?_eq_some hk,
    List.isEmpty_iff.mp (List.find?_some (p := fun k : Candidate ρ ↦ k.left.isEmpty) hk), rfl, rfl⟩

theorem exists_of_takeRest? (h : takeRest? path cs = some (target, captures)) :
    ∃ k ∈ cs, ∃ name left, k.left = .rest name :: left ∧ k.target = target ∧
      captures = k.captured ++ [(String.ofList name, String.ofList path)] := by
  obtain ⟨k, hk, hsome⟩ := List.exists_of_findSome?_eq_some h
  split at hsome
  · rename_i name left hleft
    cases hsome
    exact ⟨k, hk, name, left, hleft, rfl, rfl⟩
  · cases hsome

/-- What is found for a path is the target of a pattern that the path matches. -/
theorem exists_matches_of_search (h : search fuel cs path = some (target, captures)) :
    ∃ k ∈ cs, k.target = target ∧ Matches k.left path := by
  induction fuel generalizing cs path with
  | zero =>
    cases path with
    | nil =>
      obtain ⟨k, hk, hleft, htarget, -⟩ := exists_of_complete? h
      exact ⟨k, hk, htarget, hleft ▸ .nil⟩
    | cons c path => cases h
  | succ fuel ih =>
    cases path with
    | nil =>
      obtain ⟨k, hk, hleft, htarget, -⟩ := exists_of_complete? h
      exact ⟨k, hk, htarget, hleft ▸ .nil⟩
    | cons c path =>
      rw [search] at h
      split at h
      · cases h
      simp only [Option.or_eq_some_iff] at h
      obtain (hliteral | ⟨-, hparam⟩) | ⟨-, hrest⟩ := h
      · obtain ⟨k', hk', htarget, hmatches⟩ := ih hliteral
        obtain ⟨k, hk, left, hleft, rfl⟩ := mem_afterLiteral_iff.mp hk'
        exact ⟨k, hk, htarget, hleft ▸ .literal c hmatches⟩
      · obtain ⟨k', hk', htarget, hmatches⟩ := ih hparam
        obtain ⟨k, hk, name, left, hleft, rfl⟩ := mem_afterParam_iff.mp hk'
        exact ⟨k, hk, htarget, hleft ▸ .param name (List.cons_ne_nil c path) hmatches⟩
      · obtain ⟨k, hk, name, left, hleft, htarget, -⟩ := exists_of_takeRest? hrest
        exact ⟨k, hk, htarget, hleft ▸ .rest name (List.cons_ne_nil c path)⟩

/-! ## Texts that stand for parameters -/

/-- The first segment of a pattern. -/
def segment (p : PathPattern) : PathPattern := p.takeWhile (· != .literal '/')

def isLiteral : PathPiece → Bool
  | .literal _ => true
  | _ => false

/-- Whether a pattern goes on with literal text. -/
def beginsLiteral (p : PathPattern) : Bool := p.head?.any isLiteral

/-- No pattern that goes on with literal text matches where a text stands for a parameter. -/
def Fresh (ps : List PathPattern) (v tail : List Char) : Prop :=
  ∀ q ∈ ps, beginsLiteral q = true → ¬ Matches q (v ++ tail)

theorem segment_literal (hc : c ≠ '/') (p : PathPattern) :
    segment (.literal c :: p) = .literal c :: segment p := by
  simp [segment, hc]

/-- A segment of literal text matches nothing but this text. -/
theorem segment_eq_of_matches (h : Matches q (v ++ tail)) (hv : '/' ∉ v)
    (htail : ∀ d ∈ tail.head?, d = '/') (hall : (segment q).all isLiteral = true) :
    segment q = v.map .literal := by
  induction v generalizing q with
  | nil =>
    cases h with
    | nil => rfl
    | literal d _ =>
      obtain rfl : d = '/' := htail d rfl
      rfl
    | param name _ _ => simp [segment, isLiteral] at hall
    | rest name _ => simp [segment, isLiteral] at hall
  | cons c v ih =>
    rw [List.mem_cons, not_or] at hv
    cases h with
    | literal _ hrest =>
      rw [segment_literal (Ne.symm hv.1)] at hall ⊢
      rw [List.all_cons, Bool.and_eq_true] at hall
      exact congrArg (.literal c :: ·) (ih hrest hv.2 hall.2)
    | param name _ _ => simp [segment, isLiteral] at hall
    | rest name _ => simp [segment, isLiteral] at hall

/-- A text is fresh if it is the segment of no pattern, and no pattern matches that has a beginning
of this text before a parameter of its own. -/
theorem fresh_of_absent (hv : '/' ∉ v) (htail : ∀ d ∈ tail.head?, d = '/')
    (habsent : ∀ q ∈ ps, segment q ≠ v.map .literal)
    (hmixed : ∀ q ∈ ps, beginsLiteral q = true → (segment q).all isLiteral = false →
      ¬ Matches q (v ++ tail)) : Fresh ps v tail := by
  intro q hq hbegins hmatches
  cases hall : (segment q).all isLiteral with
  | true => exact habsent q hq (segment_eq_of_matches hmatches hv htail hall)
  | false => exact hmixed q hq hbegins hall hmatches

/-! ## Paths that fill a pattern -/

/-- What is left of the patterns that go on with such a piece, whatever a parameter is called. -/
def onward (piece : PathPiece) (ps : List PathPattern) : List PathPattern :=
  ps.filterMap fun p ↦ match p, piece with
    | .literal c :: left, .literal d => if d = c then some left else none
    | .param _ :: left, .param _ => some left
    | _, _ => none

/-- A path with a fresh text for each parameter of a pattern, and what the parameters take. A text
is fresh among the patterns that have gone on like this one so far. -/
inductive Fills : List PathPattern → PathPattern → List Char → Captures → Prop where
  | nil {ps : List PathPattern} : Fills ps [] [] []
  | literal {ps : List PathPattern} {p : PathPattern} {path : List Char} {captures : Captures}
      {c : Char} (rest : Fills (onward (.literal c) ps) p path captures) :
      Fills ps (.literal c :: p) (c :: path) captures
  | param {ps : List PathPattern} {p : PathPattern} {v tail : List Char} {captures : Captures}
      (name : List Char) (nonempty : v ≠ []) (segment : '/' ∉ v)
      (more : ∀ d ∈ tail.head?, d = '/') (fresh : Fresh ps v tail)
      (rest : Fills (onward (.param name) ps) p tail captures) :
      Fills ps (.param name :: p) (v ++ tail) ((String.ofList name, String.ofList v) :: captures)
  | rest {ps : List PathPattern} {p : PathPattern} {v tail : List Char} (name : List Char)
      (nonempty : v ≠ []) (segment : '/' ∉ v) (more : ∀ d ∈ tail.head?, d = '/')
      (fresh : Fresh ps v tail) :
      Fills ps (.rest name :: p) (v ++ tail) [(String.ofList name, String.ofList (v ++ tail))]

/-- What is left of the patterns that begin with literal text. -/
def behind (s : List Char) (ps : List PathPattern) : List PathPattern :=
  s.foldl (fun ps c ↦ onward (.literal c) ps) ps

/-- Literal text is filled by itself. -/
theorem Fills.literals (s : List Char) (h : Fills (behind s ps) p path captures) :
    Fills ps (s.map .literal ++ p) (s ++ path) captures := by
  induction s generalizing ps with
  | nil => exact h
  | cons c s ih => exact .literal (ih h)

/-! ## The search -/

theorem map_left_afterLiteral (c : Char) (cs : List (Candidate ρ)) :
    (afterLiteral c cs).map Candidate.left = onward (.literal c) (cs.map Candidate.left) := by
  rw [afterLiteral, onward, List.map_filterMap, List.filterMap_map]
  congr 1
  funext k
  obtain ⟨left, captured, target⟩ := k
  cases left with
  | nil => rfl
  | cons piece left =>
    cases piece with
    | literal d => by_cases hsame : c = d <;> simp [hsame]
    | _ => rfl

theorem map_left_afterParam (v name : List Char) (cs : List (Candidate ρ)) :
    (afterParam v cs).map Candidate.left = onward (.param name) (cs.map Candidate.left) := by
  rw [afterParam, onward, List.map_filterMap, List.filterMap_map]
  congr 1
  funext k
  obtain ⟨left, captured, target⟩ := k
  cases left with
  | nil => rfl
  | cons piece left => cases piece <;> rfl

/-- The candidates among which one is to be reached: it conflicts with no other. -/
structure Ahead (cs : List (Candidate ρ)) (k : Candidate ρ) : Prop where
  mem : k ∈ cs
  alone : ∀ k' ∈ cs, k' = k ∨ k.left.conflicts k'.left = false

namespace Ahead

theorem literal (h : Ahead cs k) (hleft : k.left = .literal c :: p) :
    Ahead (afterLiteral c cs) { k with left := p } where
  mem := mem_afterLiteral_iff.mpr ⟨k, h.mem, p, hleft, rfl⟩
  alone := by
    intro k' hk'
    obtain ⟨k', hk, left, hleft', rfl⟩ := mem_afterLiteral_iff.mp hk'
    obtain rfl | hfree := h.alone k' hk
    · cases hleft.symm.trans hleft'
      exact .inl rfl
    · rw [hleft, hleft', conflicts, beq_self_eq_true, Bool.true_and] at hfree
      exact .inr hfree

theorem param (h : Ahead cs k) {name : List Char} (hleft : k.left = .param name :: p) :
    Ahead (afterParam v cs) (k.taking name v p) where
  mem := mem_afterParam_iff.mpr ⟨k, h.mem, name, p, hleft, rfl⟩
  alone := by
    intro k' hk'
    obtain ⟨k', hk, name', left, hleft', rfl⟩ := mem_afterParam_iff.mp hk'
    obtain rfl | hfree := h.alone k' hk
    · cases hleft.symm.trans hleft'
      exact .inl rfl
    · rw [hleft, hleft', conflicts] at hfree
      exact .inr hfree

/-- Of the candidates that conflict with the one to be reached there is no other. -/
theorem eq_of_conflicts (h : Ahead cs k) {k' : Candidate ρ} (hk' : k' ∈ cs)
    (hconflict : k.left.conflicts k'.left = true) : k' = k := by
  obtain hsame | hfree := h.alone k' hk'
  · exact hsame
  · rw [hfree] at hconflict
    cases hconflict

theorem complete?_eq (h : Ahead cs k) (hleft : k.left = []) :
    complete? cs = some (k.target, k.captured) := by
  have hsome : (cs.find? fun k ↦ k.left.isEmpty).isSome := by
    rw [List.find?_isSome]
    exact ⟨k, h.mem, List.isEmpty_iff.mpr hleft⟩
  obtain ⟨k', hk'⟩ := Option.isSome_iff_exists.mp hsome
  have hempty : k'.left = [] :=
    List.isEmpty_iff.mp (List.find?_some (p := fun k : Candidate ρ ↦ k.left.isEmpty) hk')
  have hconflict : k.left.conflicts k'.left = true := by
    rw [hleft, hempty]
    rfl
  rw [complete?, hk', h.eq_of_conflicts (List.mem_of_find?_eq_some hk') hconflict]
  rfl

theorem takeRest?_eq (h : Ahead cs k) {name : List Char} (hleft : k.left = .rest name :: p) :
    takeRest? path cs =
      some (k.target, k.captured ++ [(String.ofList name, String.ofList path)]) := by
  have hsome : (takeRest? path cs).isSome := by
    rw [takeRest?, List.findSome?_isSome_iff]
    exact ⟨k, h.mem, by simp [hleft]⟩
  obtain ⟨⟨target, captures⟩, hfound⟩ := Option.isSome_iff_exists.mp hsome
  obtain ⟨k', hk', name', left, hleft', rfl, rfl⟩ := exists_of_takeRest? hfound
  have hconflict : k.left.conflicts k'.left = true := by
    rw [hleft, hleft']
    rfl
  obtain rfl := h.eq_of_conflicts hk' hconflict
  cases hleft.symm.trans hleft'
  exact hfound

theorem afterParam_eq_nil (h : Ahead cs k) {name : List Char} (hleft : k.left = .rest name :: p) :
    afterParam v cs = [] := by
  rw [List.eq_nil_iff_forall_not_mem]
  intro k' hk'
  obtain ⟨k', hk, name', left, hleft', rfl⟩ := mem_afterParam_iff.mp hk'
  have hconflict : k.left.conflicts k'.left = true := by
    rw [hleft, hleft']
    rfl
  obtain rfl := h.eq_of_conflicts hk hconflict
  cases hleft.symm.trans hleft'

end Ahead

theorem search_nil (fuel : Nat) (cs : List (Candidate ρ)) : search fuel cs [] = complete? cs := by
  cases fuel <;> rfl

theorem search_none (fuel : Nat) (path : List Char) :
    search fuel ([] : List (Candidate ρ)) path = none := by
  cases path with
  | nil => rw [search_nil]; rfl
  | cons c path => cases fuel <;> rfl

theorem search_of_literal {found : ρ × Captures} (hmem : k ∈ cs)
    (h : search fuel (afterLiteral c cs) path = some found) :
    search (fuel + 1) cs (c :: path) = some found := by
  have hsome : cs.isEmpty = false := List.isEmpty_eq_false_iff.mpr (List.ne_nil_of_mem hmem)
  simp [search, hsome, h]

theorem takeWhile_append (hv : '/' ∉ v) (htail : ∀ d ∈ tail.head?, d = '/') :
    (v ++ tail).takeWhile (· != '/') = v ∧ (v ++ tail).dropWhile (· != '/') = tail := by
  induction v with
  | nil =>
    cases tail with
    | nil => exact ⟨rfl, rfl⟩
    | cons d tail =>
      obtain rfl : d = '/' := htail d rfl
      exact ⟨rfl, rfl⟩
  | cons c v ih =>
    have hc : (c != '/') = true := bne_iff_ne.mpr fun hslash ↦ hv (hslash ▸ List.mem_cons_self)
    obtain ⟨htake, hdrop⟩ := ih (List.not_mem_of_not_mem_cons hv)
    simp [hc, htake, hdrop]

/-- Where a fresh text stands for a parameter, parameters are tried next, and then the rest. -/
theorem search_of_fresh (hmem : k ∈ cs) (hnonempty : v ≠ []) (hv : '/' ∉ v)
    (htail : ∀ d ∈ tail.head?, d = '/') (hfresh : Fresh (cs.map Candidate.left) v tail) :
    search (fuel + 1) cs (v ++ tail) =
      (search fuel (afterParam v cs) tail).or (takeRest? (v ++ tail) cs) := by
  obtain ⟨htake, hdrop⟩ := takeWhile_append hv htail
  have hsome : cs.isEmpty = false := List.isEmpty_eq_false_iff.mpr (List.ne_nil_of_mem hmem)
  cases v with
  | nil => exact absurd rfl hnonempty
  | cons c v =>
    have hliteral : search fuel (afterLiteral c cs) (v ++ tail) = none := by
      rw [Option.eq_none_iff_forall_ne_some]
      rintro ⟨target, captures⟩ hfound
      obtain ⟨k', hk', -, hmatches⟩ := exists_matches_of_search hfound
      obtain ⟨k', hk, left, hleft, rfl⟩ := mem_afterLiteral_iff.mp hk'
      refine hfresh k'.left (List.mem_map_of_mem hk) ?_ ?_
      · rw [hleft]
        rfl
      · rw [hleft]
        exact .literal c hmatches
    rw [List.cons_append] at htake hdrop ⊢
    simp only [search, hsome, hliteral, htake, hdrop, Option.none_or]
    rfl

/-- Among patterns without conflicts, each is reached by the paths that fill it. -/
theorem search_of_fills (h : Fills ps p path captures) (hps : cs.map Candidate.left = ps)
    (hahead : Ahead cs k) (hleft : k.left = p) (hfuel : p.length ≤ fuel) :
    search fuel cs path = some (k.target, k.captured ++ captures) := by
  induction h generalizing cs k fuel with
  | nil => rw [search_nil, hahead.complete?_eq hleft, List.append_nil]
  | @literal ps p path captures c rest ih =>
    cases fuel with
    | zero => cases hfuel
    | succ fuel =>
      have hnext := ih ((map_left_afterLiteral c cs).trans (hps ▸ rfl)) (hahead.literal hleft) rfl
        (Nat.le_of_succ_le_succ hfuel)
      exact search_of_literal hahead.mem hnext
  | @param ps p v tail captures name nonempty segment more fresh rest ih =>
    cases fuel with
    | zero => cases hfuel
    | succ fuel =>
      have hnext := ih ((map_left_afterParam v name cs).trans (hps ▸ rfl)) (hahead.param hleft) rfl
        (Nat.le_of_succ_le_succ hfuel)
      rw [search_of_fresh hahead.mem nonempty segment more (hps ▸ fresh), hnext]
      simp [Candidate.taking]
  | rest name nonempty segment more fresh =>
    cases fuel with
    | zero => cases hfuel
    | succ fuel =>
      rw [search_of_fresh hahead.mem nonempty segment more (hps ▸ fresh),
        hahead.afterParam_eq_nil hleft, search_none, Option.none_or, hahead.takeRest?_eq hleft]

theorem le_foldl_max {n a : Nat} {l : List Nat} (h : n ≤ a ∨ n ∈ l) : n ≤ l.foldl max a := by
  induction l generalizing a with
  | nil => simpa using h
  | cons m l ih =>
    refine ih ?_
    obtain hle | hmem := h
    · exact .inl (Nat.le_trans hle (Nat.le_max_left a m))
    · obtain rfl | hmem := List.mem_cons.mp hmem
      · exact .inl (Nat.le_max_right a n)
      · exact .inr hmem

/-- A pattern of a table is found for each path that fills it, if no two of the table conflict. -/
theorem find?_of_fills {table : List (PathPattern × ρ)} (hmem : (p, target) ∈ table)
    (hfree : (table.map Prod.fst).Pairwise fun p q ↦ p.conflicts q = false)
    (h : Fills (table.map Prod.fst) p path captures) :
    find? table path = some (target, captures) := by
  let candidate (e : PathPattern × ρ) : Candidate ρ := { left := e.1, target := e.2 }
  have hleft : (table.map candidate).map Candidate.left = table.map Prod.fst := List.map_map
  have hfuel : p.length ≤ (table.map fun e ↦ e.1.length).foldl max 0 :=
    le_foldl_max (.inr (List.mem_map.mpr ⟨_, hmem, rfl⟩))
  have hahead : Ahead (table.map candidate) (candidate (p, target)) := by
    refine ⟨List.mem_map_of_mem hmem, List.forall_mem_map.mpr fun e he ↦ ?_⟩
    have : Std.Symm fun e e' : PathPattern × ρ ↦ e.1.conflicts e'.1 = false :=
      ⟨fun e e' hfree ↦ (conflicts_comm e'.1 e.1).trans hfree⟩
    obtain rfl | hne := eq_or_ne e (p, target)
    · exact .inl rfl
    · exact .inr ((List.pairwise_map.mp hfree).forall hmem he hne.symm)
  exact search_of_fills h hleft hahead rfl hfuel

end RpcGateway.Http.PathPattern
