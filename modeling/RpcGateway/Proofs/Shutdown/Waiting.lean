import Mathlib.Data.List.Perm.Basic
import RpcGateway.Proofs.Activity.History
import RpcGateway.Shutdown.Coordinator

/-!
# Waiting for closes

The coordinator waits for one close after the other. What comes of it does not depend on their
order, but for the order of what it writes down: it is done at the last of their ends if it can
notice all of them by the deadline, and otherwise at the deadline, and it has noticed those ends
that it can by then. The closes that it waits for are in the order of their ends, so that the first
one that it cannot notice has none after it that it could.
-/

namespace RpcGateway.Shutdown

variable {deadline now start : Time} {c c' : Close} {cs cs' : List Close} {rs rs' : List Resource}

theorem Resource.delay_le (r : Resource) : r.delay ≤ 1 := by
  unfold delay
  split
  · exact Nat.le_refl 1
  · exact Nat.zero_le 1

namespace Close

/-- A later turn is not at an earlier instant. -/
theorem le_of_turns {a b i j : Nat} (h : 2 * a + i ≤ 2 * b + j) (hj : j ≤ 1) : a ≤ b := by omega

theorem before_trans (a b c : Close) (hab : a.before b = true) (hbc : b.before c = true) :
    a.before c = true := by
  unfold before at *
  grind

theorem before_total (a b : Close) : (a.before b || b.before a) = true := by
  unfold before
  grind

theorem endingBy_eq_some_iff {e : Time × Bool} :
    c.endingBy deadline = some e ↔
      c.ending = some e ∧ 2 * e.1 + c.resource.delay ≤ 2 * deadline := by
  simp [endingBy, Option.filter_eq_some_iff]

theorem le_of_endingBy {e : Time × Bool} (h : c.endingBy deadline = some e) : e.1 ≤ deadline :=
  le_of_turns (j := 0) (endingBy_eq_some_iff.mp h).2 (Nat.zero_le 1)

/-- Ends are noticed in the order in which they come. -/
theorem le_of_before {e e' : Time × Bool} (h : c.before c' = true) (he : c.ending = some e)
    (he' : c'.ending = some e') : e.1 ≤ e'.1 := by
  simp only [before, noticed, he, he', Option.map_some, decide_eq_true_eq] at h
  exact le_of_turns h c'.resource.delay_le

/-- After an end that is not noticed by the deadline no other is. -/
theorem endingBy_eq_none_of_before (h : c.before c' = true) (hnone : c.endingBy deadline = none) :
    c'.endingBy deadline = none := by
  by_contra hsome
  obtain ⟨e', he'⟩ := Option.ne_none_iff_exists'.mp hsome
  obtain ⟨hending', hle'⟩ := endingBy_eq_some_iff.mp he'
  cases hending : c.ending with
  | none => simp [before, noticed, hending, hending'] at h
  | some e =>
    simp only [before, noticed, hending, hending', Option.map_some, decide_eq_true_eq] at h
    have hsome : c.endingBy deadline = some e :=
      endingBy_eq_some_iff.mpr ⟨hending, Nat.le_trans h hle'⟩
    rw [hnone] at hsome
    cases hsome

end Close

theorem Resource.le_of_ending {r : Resource} {signalled : Time} {e : Time × Bool}
    (h : r.ending signalled start = some e) : start ≤ e.1 := by
  unfold ending at h
  split at h
  · cases h
    exact Nat.le_add_right ..
  · cases h
  · cases h
    exact Nat.le_refl _
  · cases h
    exact Nat.le_max_left ..
  · cases h

theorem perm_closes (signalled start : Time) (rs : List Resource) :
    (closes signalled start rs).Perm (rs.map fun r ↦ r.close signalled start) :=
  List.mergeSort_perm _ _

theorem pairwise_closes (signalled start : Time) (rs : List Resource) :
    (closes signalled start rs).Pairwise fun c c' ↦ c.before c' = true :=
  List.pairwise_mergeSort Close.before_trans Close.before_total _

/-! ## What is noticed by the deadline -/

/-- What is written down of the ends that are noticed by the deadline. -/
def endings (deadline : Time) (cs : List Close) : List (Time × Event) :=
  cs.filterMap fun c ↦ (c.endingBy deadline).map fun e ↦ (e.1, .ended c.resource e.2)

def failures (deadline : Time) (cs : List Close) : List String :=
  cs.filterMap fun c ↦ match c.endingBy deadline with
    | some (_, false) => some c.resource.name
    | _ => none

/-- The names that are left. -/
def leftOf (deadline : Time) (pending : List String) (cs : List Close) : List String :=
  pending.filter fun n ↦ ∀ c ∈ cs, (c.endingBy deadline).isSome → n ≠ c.resource.name

/-- The last of the ends. -/
def lastEnd (deadline start : Time) (cs : List Close) : Time :=
  (cs.filterMap (·.endingBy deadline)).foldl (fun t e ↦ max t e.1) start

theorem endings_cons_of_some {e : Time × Bool} (h : c.endingBy deadline = some e) :
    endings deadline (c :: cs) = (e.1, .ended c.resource e.2) :: endings deadline cs :=
  List.filterMap_cons_some (by rw [h]; rfl)

theorem failures_cons_of_some {e : Time × Bool} (h : c.endingBy deadline = some e) :
    failures deadline (c :: cs) =
      (if e.2 then [] else [c.resource.name]) ++ failures deadline cs := by
  obtain ⟨finish, ok⟩ := e
  cases ok with
  | true => exact List.filterMap_cons_none (by rw [h])
  | false => exact List.filterMap_cons_some (by rw [h])

theorem leftOf_cons_of_some {e : Time × Bool} (h : c.endingBy deadline = some e)
    (pending : List String) :
    leftOf deadline pending (c :: cs) =
      leftOf deadline (pending.filter fun n ↦ n ≠ c.resource.name) cs := by
  unfold leftOf
  rw [List.filter_filter]
  apply List.filter_congr
  intro n _
  simp [h, Bool.and_comm]

theorem lastEnd_cons_of_some {e : Time × Bool} (h : c.endingBy deadline = some e)
    (hle : start ≤ e.1) : lastEnd deadline start (c :: cs) = lastEnd deadline e.1 cs := by
  unfold lastEnd
  rw [List.filterMap_cons_some h, List.foldl_cons, Nat.max_eq_right hle]

/-- If none of them is noticed, nothing is written down and all are left. -/
theorem endings_eq_nil (h : ∀ c ∈ cs, c.endingBy deadline = none) : endings deadline cs = [] :=
  List.filterMap_eq_nil_iff.mpr fun c hc ↦ by rw [h c hc]; rfl

theorem leftOf_eq_self (h : ∀ c ∈ cs, c.endingBy deadline = none) (pending : List String) :
    leftOf deadline pending cs = pending := by
  apply List.filter_eq_self.mpr
  intro n _
  simp +contextual [h]

namespace Coordinator

theorem note_nil (k : Coordinator) : k.note [] = k := by
  unfold note
  rw [List.append_nil]

theorem note_note (l l' : List (Time × Event)) (k : Coordinator) :
    (k.note l).note l' = k.note (l ++ l') := by
  unfold note
  rw [List.append_assoc]

/-- One end is noticed, and the wait goes on. -/
theorem run_awaitAll_cons_of_some {e : Time × Bool} (h : c.endingBy deadline = some e)
    (hle : now ≤ e.1) (pending failed : List String) (k : Coordinator) :
    (awaitAll deadline pending failed (c :: cs)).run now k =
      (awaitAll deadline (pending.filter fun n ↦ n ≠ c.resource.name)
        (if e.2 then failed else failed ++ [c.resource.name]) cs).run e.1
          (k.note [(e.1, .ended c.resource e.2)]) := by
  rw [awaitAll, h]
  simp only [Activity.sleepUntil, Activity.bind, Activity.run, Nat.max_eq_right hle]

/-- No end is noticed any more, and the wait is given up. -/
theorem run_awaitAll_cons_of_none (h : c.endingBy deadline = none) (hdue : now ≤ deadline)
    (pending failed : List String) (k : Coordinator) :
    (awaitAll deadline pending failed (c :: cs)).run now k =
      (deadline, k, .done (.error pending)) := by
  rw [awaitAll, h]
  simp only [Activity.sleepUntil, Activity.bind, Activity.run, Nat.max_eq_right hdue]

theorem run_awaitAll (hsorted : cs.Pairwise fun c c' ↦ c.before c' = true)
    (hfrom : ∀ c ∈ cs, ∀ e, c.ending = some e → now ≤ e.1) (hdue : now ≤ deadline)
    (pending failed : List String) (k : Coordinator) :
    (awaitAll deadline pending failed cs).run now k =
      if ∀ c ∈ cs, (c.endingBy deadline).isSome then
        (lastEnd deadline now cs, k.note (endings deadline cs),
          .done (.ok (failed ++ failures deadline cs)))
      else
        (deadline, k.note (endings deadline cs), .done (.error (leftOf deadline pending cs))) := by
  induction cs generalizing now pending failed k with
  | nil =>
    rw [if_pos (by simp)]
    simp [awaitAll, Activity.run, lastEnd, endings, failures, note_nil]
  | cons c cs ih =>
    rw [List.pairwise_cons] at hsorted
    cases hending : c.endingBy deadline with
    | none =>
      have hnone : ∀ c' ∈ c :: cs, c'.endingBy deadline = none := by
        rw [List.forall_mem_cons]
        exact ⟨hending, fun c' hc' ↦ Close.endingBy_eq_none_of_before (hsorted.1 c' hc') hending⟩
      rw [run_awaitAll_cons_of_none hending hdue, endings_eq_nil hnone, leftOf_eq_self hnone,
        note_nil, if_neg (by simp [hending])]
    | some e =>
      have hends := (Close.endingBy_eq_some_iff.mp hending).1
      have hle : now ≤ e.1 := hfrom c List.mem_cons_self e hends
      have hrest : ∀ c' ∈ cs, ∀ e', c'.ending = some e' → e.1 ≤ e'.1 :=
        fun c' hc' e' he' ↦ Close.le_of_before (hsorted.1 c' hc') hends he'
      have hsome : (∀ c' ∈ c :: cs, (c'.endingBy deadline).isSome) ↔
          ∀ c' ∈ cs, (c'.endingBy deadline).isSome := by simp [hending]
      have hfailed : (if e.2 then failed else failed ++ [c.resource.name]) =
          failed ++ if e.2 then [] else [c.resource.name] := by
        split
        · rw [List.append_nil]
        · rfl
      rw [run_awaitAll_cons_of_some hending hle,
        ih hsorted.2 hrest (Close.le_of_endingBy hending), note_note, endings_cons_of_some hending,
        failures_cons_of_some hending, leftOf_cons_of_some hending,
        lastEnd_cons_of_some hending hle]
      simp only [hsome, hfailed, List.singleton_append, List.append_assoc]

end Coordinator

/-! ## A phase -/

variable {signalled : Time}

/-- Whether the ends of all closes are noticed by the deadline. -/
def AllEnd (deadline signalled start : Time) (rs : List Resource) : Prop :=
  ∀ r ∈ rs, ((r.close signalled start).endingBy deadline).isSome

instance (rs : List Resource) : Decidable (AllEnd deadline signalled start rs) :=
  inferInstanceAs (Decidable (∀ _ ∈ _, _))

theorem forall_mem_closes {rs : List Resource} :
    (∀ c ∈ closes signalled start rs, (c.endingBy deadline).isSome) ↔
      AllEnd deadline signalled start rs := by
  simp only [(perm_closes signalled start rs).mem_iff, List.forall_mem_map, AllEnd]

/-- The beginnings of the closes of a phase, and then their ends. -/
def phaseJournal (deadline signalled start : Time) (rs : List Resource) : List (Time × Event) :=
  rs.map (fun r ↦ (start, .began r)) ++ endings deadline (closes signalled start rs)

/-- When a phase is over, if it is by the deadline. -/
def phaseEnd (deadline signalled start : Time) (rs : List Resource) : Time :=
  lastEnd deadline start (closes signalled start rs)

def phaseFailures (deadline signalled start : Time) (rs : List Resource) : List String :=
  failures deadline (closes signalled start rs)

/-- The names that are pending at the deadline. -/
def phasePending (deadline signalled start : Time) (rs : List Resource) : List String :=
  leftOf deadline (nameSet rs) (closes signalled start rs)

namespace Coordinator

/-- A coordinator that has sent the signal and then gone through a phase. -/
def after (deadline signalled start : Time) (rs : List Resource) (k : Coordinator) : Coordinator :=
  (k.begin rs start).note (endings deadline (closes signalled start rs))

theorem journal_after (k : Coordinator) :
    (k.after deadline signalled start rs).journal =
      k.journal ++ phaseJournal deadline signalled start rs :=
  List.append_assoc ..

theorem run_closeAll {k : Coordinator} (hsignalled : k.signalledAt = some signalled)
    (hdue : now ≤ deadline) (rs : List Resource) :
    (closeAll deadline rs).run now k =
      if AllEnd deadline signalled now rs then
        (phaseEnd deadline signalled now rs, k.after deadline signalled now rs,
          .done (.ok (phaseFailures deadline signalled now rs)))
      else
        (deadline, k.after deadline signalled now rs,
          .done (.error (phasePending deadline signalled now rs))) := by
  have hfrom : ∀ c ∈ closes signalled now rs, ∀ e, c.ending = some e → now ≤ e.1 := by
    intro c hc e he
    obtain ⟨r, -, rfl⟩ := List.mem_map.mp ((perm_closes signalled now rs).mem_iff.mp hc)
    exact Resource.le_of_ending he
  have hrun := run_awaitAll (pairwise_closes signalled now rs) hfrom hdue (nameSet rs) []
    (k.begin rs now)
  simp only [forall_mem_closes] at hrun
  rw [closeAll, Activity.run, hsignalled]
  exact hrun

end Coordinator

end RpcGateway.Shutdown
