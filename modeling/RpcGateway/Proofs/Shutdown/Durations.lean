import Mathlib
import RpcGateway.Proofs.Shutdown.Phases

/-!
# How long a shutdown takes

A close goes on for a time of its own, or for ever. A phase takes as long as the longest of its
closes, and a shutdown as long as one phase after the other, but no longer than it may. What has
not ended by then is named, and everything that is released with it if that was not begun.

The end of a server is noticed after the instant at which it comes. So a server is over in time only
if its task ends before the deadline; any other close may end just then.
-/

namespace RpcGateway.Shutdown

variable {deadline signalled start mid t : Time} {r : Resource} {rs : List Resource}

namespace Resource

/-- How long a close goes on that begins at `start`. -/
def duration (signalled start : Time) (r : Resource) : ℕ∞ :=
  match r.ending signalled start with
  | some e => (e.1 - start : Nat)
  | none => ⊤

/-- Whether a close ends with an error. -/
def fails (r : Resource) : Bool :=
  match r.kind with
  | .plain _ (.lasting _ ok) => !ok
  | .server (.lasting _ ok) false => !ok
  | _ => false

theorem ending_snd {e : Time × Bool} (h : r.ending signalled start = some e) :
    e.2 = !r.fails := by
  match r, h with
  | ⟨_, .plain _ (.lasting _ ok)⟩, h =>
    cases h
    exact (Bool.not_not ok).symm
  | ⟨_, .plain _ .endless⟩, h => cases h
  | ⟨_, .server (.lasting _ ok) false⟩, h =>
    cases h
    exact (Bool.not_not ok).symm
  | ⟨_, .server (.lasting _ _) true⟩, h =>
    cases h
    rfl
  | ⟨_, .server .endless false⟩, h => cases h
  | ⟨_, .server .endless true⟩, h =>
    cases h
    rfl

/-- What is released takes its time whenever it begins. -/
theorem duration_of_release (h : r.phase = .release) (signalled start mid : Time) :
    r.duration signalled mid = r.duration signalled start := by
  unfold phase at h
  unfold duration ending
  split at h
  · rename_i closing hkind
    cases closing with
    | lasting ms ok => simp [hkind]
    | endless => simp [hkind]
  · cases h

theorem delay_of_release (h : r.phase = .release) : r.delay = 0 := by
  unfold phase at h
  unfold delay
  split at h
  · rename_i hkind
    rw [hkind]
  · cases h

/-- An end is noticed by the deadline if the close lasts no longer than to it, a server a little
less. -/
theorem isSome_endingBy_iff : ((r.close signalled start).endingBy deadline).isSome ↔
    start + (r.duration signalled start + r.delay) ≤ deadline := by
  simp only [Option.isSome_iff_exists, Close.endingBy_eq_some_iff, close, duration]
  cases hending : r.ending signalled start with
  | none => simp
  | some e =>
    have hle : start ≤ e.1 := le_of_ending hending
    have hdelay : r.delay ≤ 1 := r.delay_le
    simp only [Option.some.injEq, exists_eq_left']
    norm_cast
    unfold Time at *
    omega

end Resource

/-! ## The longest of some closes -/

/-- The longest time that one of the closes goes on; none take no time. -/
noncomputable def longest (signalled start : Time) (rs : List Resource) : ℕ∞ :=
  (rs.map (Resource.duration signalled start)).foldr max 0

theorem add_longest_le_iff {a b : ℕ∞} : a + longest signalled start rs ≤ b ↔
    a ≤ b ∧ ∀ r ∈ rs, a + r.duration signalled start ≤ b := by
  induction rs with
  | nil => simp [longest]
  | cons r rs ih =>
    have hcons : longest signalled start (r :: rs) =
        max (r.duration signalled start) (longest signalled start rs) := rfl
    rw [hcons, ← max_add_add_left, max_le_iff, ih, List.forall_mem_cons]
    exact and_left_comm

theorem duration_le_longest (hr : r ∈ rs) :
    r.duration signalled start ≤ longest signalled start rs := by
  have h : 0 + longest signalled start rs ≤ longest signalled start rs := (zero_add _).le
  simpa using (add_longest_le_iff.mp h).2 r hr

theorem phaseEnd_le_iff : phaseEnd deadline signalled start rs ≤ t ↔
    start ≤ t ∧ ∀ r ∈ rs, ∀ e, (r.close signalled start).endingBy deadline = some e → e.1 ≤ t := by
  unfold phaseEnd
  rw [lastEnd_le_iff]
  simp only [(perm_closes signalled start rs).mem_iff, List.forall_mem_map]

/-- A phase that is over in time has taken as long as the longest of its closes. -/
theorem phaseEnd_eq (hall : AllEnd deadline signalled start rs) :
    (phaseEnd deadline signalled start rs : ℕ∞) = start + longest signalled start rs := by
  apply eq_of_forall_ge_iff
  intro b
  cases b using ENat.recTopCoe with
  | top => simp
  | coe n =>
    rw [Nat.cast_le, phaseEnd_le_iff, add_longest_le_iff, Nat.cast_le]
    apply and_congr_right
    intro _
    apply forall₂_congr
    intro r hr
    obtain ⟨e, he⟩ := Option.isSome_iff_exists.mp (hall r hr)
    have hending : r.ending signalled start = some e := (Close.endingBy_eq_some_iff.mp he).1
    have hle : start ≤ e.1 := Resource.le_of_ending hending
    simp only [he, Option.some.injEq, forall_eq', Resource.duration, hending]
    norm_cast
    unfold Time at *
    omega

/-! ## The names of some resources -/

/-- The names of some resources in order, as often as there are resources of the name. -/
structure Lists (names : List String) (rs : List Resource) : Prop where
  sorted : names.Pairwise fun a b ↦ a ≤ b
  names : names.Perm (rs.map Resource.name)

/-- The resources whose closes have not been seen to end by the deadline. -/
def overdue (deadline signalled start : Time) (rs : List Resource) : List Resource :=
  rs.filter fun r ↦ ((r.close signalled start).endingBy deadline).isNone

/-- If no two resources of a phase have one name, those are pending that have not ended. -/
theorem lists_phasePending (hnames : (rs.map Resource.name).Nodup) :
    Lists (phasePending deadline signalled start rs) (overdue deadline signalled start rs) := by
  refine ⟨(pairwise_namesSorted _).filter _, ?_⟩
  have hset : (nameSet rs).Perm (rs.map Resource.name) := by
    apply (perm_namesSorted _).trans
    rw [List.perm_ext_iff_of_nodup (nodup_eraseDups _) hnames]
    exact fun _ ↦ List.mem_eraseDups
  apply (hset.filter _).trans
  rw [List.filter_map]
  apply List.Perm.map
  apply List.Perm.of_eq
  apply List.filter_congr
  intro r hr
  rw [Bool.eq_iff_iff]
  simp only [Function.comp_apply, decide_eq_true_eq, (perm_closes signalled start rs).mem_iff,
    List.forall_mem_map, Option.isNone_iff_eq_none]
  constructor
  · intro h
    exact Option.not_isSome_iff_eq_none.mp fun hsome ↦ h r hr hsome rfl
  · intro hnone r' hr' hsome hname
    have hsame : r = r' := List.inj_on_of_nodup_map hnames hr hr' hname
    rw [← hsame, hnone] at hsome
    cases hsome

/-- If a phase is over in time, those have failed whose closes end with an error. -/
theorem phaseFailures_perm (hall : AllEnd deadline signalled start rs) :
    (phaseFailures deadline signalled start rs).Perm
      ((rs.filter Resource.fails).map Resource.name) := by
  apply (failures_perm (perm_closes signalled start rs)).trans
  apply List.Perm.of_eq
  unfold failures
  rw [List.filterMap_map, ← List.filterMap_eq_filter, List.map_filterMap]
  apply List.filterMap_congr
  intro r hr
  obtain ⟨e, he⟩ := Option.isSome_iff_exists.mp (hall r hr)
  have hfails : e.2 = !r.fails := Resource.ending_snd (Close.endingBy_eq_some_iff.mp he).1
  obtain ⟨finish, ok⟩ := e
  cases ok with
  | true => simp_all [Option.guard]
  | false => simp_all [Option.guard, Resource.close]

/-! ## A whole shutdown -/

variable {timeout : Nat} {drains releases : List Resource} {elapsed : ℕ∞}

/-- Whether a close that begins some time after the shutdown is overdue. -/
theorem isNone_endingBy_iff (hmid : (mid : ℕ∞) = start + elapsed) :
    ((r.close signalled mid).endingBy (start + timeout)).isNone ↔
      timeout < elapsed + (r.duration signalled mid + r.delay) := by
  have hcast : ((start + timeout : Time) : ℕ∞) = start + timeout := Nat.cast_add start timeout
  rw [← Option.not_isSome, Bool.not_eq_true', ← Bool.not_eq_true, Resource.isSome_endingBy_iff,
    hmid, add_assoc, hcast, ENat.add_le_add_iff_left (ENat.natCast_ne_top start), not_le]

theorem allEnd_iff_overdue_eq_nil :
    AllEnd deadline signalled start rs ↔ overdue deadline signalled start rs = [] := by
  simp [AllEnd, overdue, List.filter_eq_nil_iff, Option.isSome_iff_ne_none]

theorem overdue_at_start : overdue (start + timeout) signalled start rs =
    rs.filter fun r ↦ (timeout : ℕ∞) < r.duration signalled start + r.delay := by
  have hstart : (start : ℕ∞) = start + 0 := (add_zero (start : ℕ∞)).symm
  apply List.filter_congr
  intro r _
  rw [Bool.eq_iff_iff, decide_eq_true_eq, isNone_endingBy_iff hstart, zero_add]

theorem overdue_releases (hmid : (mid : ℕ∞) = start + elapsed)
    (hreleases : ∀ r ∈ rs, r.phase = .release) : overdue (start + timeout) signalled mid rs =
      rs.filter fun r ↦ (timeout : ℕ∞) < elapsed + r.duration signalled start := by
  apply List.filter_congr
  intro r hr
  have hphase : r.phase = .release := hreleases r hr
  rw [Bool.eq_iff_iff, decide_eq_true_eq, isNone_endingBy_iff hmid,
    Resource.delay_of_release hphase, Resource.duration_of_release hphase signalled start mid,
    Nat.cast_zero, add_zero]

theorem allEnd_iff_late_eq_nil : AllEnd (start + timeout) signalled start rs ↔
    (rs.filter fun r ↦ (timeout : ℕ∞) < r.duration signalled start + r.delay) = [] := by
  rw [allEnd_iff_overdue_eq_nil, overdue_at_start]

/-- Releases are over in time if there was time for the longest of them. -/
theorem overdue_releases_eq_nil_iff (hle : elapsed ≤ timeout) :
    (rs.filter fun r ↦ (timeout : ℕ∞) < elapsed + r.duration signalled start) = [] ↔
      elapsed + longest signalled start rs ≤ timeout := by
  rw [add_longest_le_iff]
  simp [List.filter_eq_nil_iff, hle]

theorem longest_le_of_not_late
    (h : (rs.filter fun r ↦ (timeout : ℕ∞) < r.duration signalled start + r.delay) = []) :
    longest signalled start rs ≤ timeout := by
  rw [← zero_add (longest signalled start rs), add_longest_le_iff]
  refine ⟨zero_le, fun r hr ↦ ?_⟩
  rw [List.filter_eq_nil_iff] at h
  have hnot := h r hr
  simp only [decide_eq_true_eq, not_lt] at hnot
  calc
    0 + r.duration signalled start ≤ r.duration signalled start + r.delay := by
      rw [zero_add]
      exact le_self_add
    _ ≤ timeout := hnot

theorem le_longest_of_late
    (h : (rs.filter fun r ↦ (timeout : ℕ∞) < r.duration signalled start + r.delay) ≠ []) :
    timeout ≤ longest signalled start rs := by
  obtain ⟨r, hr⟩ := List.exists_mem_of_ne_nil _ h
  rw [List.mem_filter, decide_eq_true_eq] at hr
  have hdelay : (r.delay : ℕ∞) ≤ 1 := mod_cast r.delay_le
  have hlt : (timeout : ℕ∞) < longest signalled start rs + 1 := by
    calc
      (timeout : ℕ∞) < r.duration signalled start + r.delay := hr.2
      _ ≤ longest signalled start rs + 1 := add_le_add (duration_le_longest hr.1) hdelay
  exact ENat.natCast_lt_add_one_iff.mp hlt

theorem longest_of_releases (hreleases : ∀ r ∈ rs, r.phase = .release) :
    longest signalled mid rs = longest signalled start rs := by
  unfold longest
  congr 1
  apply List.map_congr_left
  intro r hr
  exact Resource.duration_of_release (hreleases r hr) signalled start mid

variable {drains releases : List Resource}

/-- If the drains are not over in time, they are named as far as they are not, and all releases. -/
theorem shutdownResult_of_late (hnames : (drains.map Resource.name).Nodup)
    (hlate : ¬ AllEnd deadline signalled start drains) :
    ∃ pending, shutdownResult deadline signalled start drains releases =
        (deadline, .error (.deadlineExceeded pending)) ∧
      Lists pending (overdue deadline signalled start drains ++ releases) := by
  refine ⟨_, if_neg hlate, pairwise_namesSorted _, (perm_namesSorted _).trans ?_⟩
  rw [List.map_append]
  exact (lists_phasePending hnames).names.append_right _

/-- If the releases are not over in time, they are named as far as they are not. -/
theorem shutdownResult_of_unreleased (hnames : (releases.map Resource.name).Nodup)
    (hdrains : AllEnd deadline signalled start drains)
    (hreleases :
      ¬ AllEnd deadline signalled (phaseEnd deadline signalled start drains) releases) :
    ∃ pending, shutdownResult deadline signalled start drains releases =
        (deadline, .error (.deadlineExceeded pending)) ∧
      Lists pending
        (overdue deadline signalled (phaseEnd deadline signalled start drains) releases) := by
  refine ⟨_, ?_, lists_phasePending hnames⟩
  rw [shutdownResult, if_pos hdrains, releaseResult, if_neg hreleases]

/-- If both are over in time, those are named that failed. -/
theorem shutdownResult_of_over (hdrains : AllEnd deadline signalled start drains)
    (hreleases : AllEnd deadline signalled (phaseEnd deadline signalled start drains) releases)
    (hperm : (drains ++ releases).Perm rs) :
    (rs.filter Resource.fails = [] →
        (shutdownResult deadline signalled start drains releases).2 = .ok ()) ∧
      (rs.filter Resource.fails ≠ [] →
        ∃ names, (shutdownResult deadline signalled start drains releases).2 =
            .error (.closeFailed names) ∧ Lists names (rs.filter Resource.fails)) := by
  have hfailed : (phaseFailures deadline signalled start drains ++
      phaseFailures deadline signalled (phaseEnd deadline signalled start drains) releases).Perm
        ((rs.filter Resource.fails).map Resource.name) := by
    apply ((phaseFailures_perm hdrains).append (phaseFailures_perm hreleases)).trans
    rw [← List.map_append, ← List.filter_append]
    exact (hperm.filter _).map _
  rw [shutdownResult, if_pos hdrains, releaseResult, if_pos hreleases]
  refine ⟨fun hnone ↦ ?_, fun hsome ↦ ?_⟩
  · rw [hnone] at hfailed
    exact if_pos (List.isEmpty_iff.mpr hfailed.eq_nil)
  · refine ⟨_, if_neg fun hempty ↦ hsome ?_, pairwise_namesSorted _,
      (perm_namesSorted _).trans hfailed⟩
    rw [List.isEmpty_iff.mp hempty] at hfailed
    exact List.map_eq_nil_iff.mp hfailed.nil_eq.symm

/-- Releases that begin after the drains are over in time if there was time for both. -/
theorem allEnd_releases_iff (hdrains : AllEnd (start + timeout) signalled start drains)
    (hreleases : ∀ r ∈ releases, r.phase = .release) :
    AllEnd (start + timeout) signalled (phaseEnd (start + timeout) signalled start drains)
        releases ↔
      longest signalled start drains + longest signalled start releases ≤ timeout := by
  rw [allEnd_iff_overdue_eq_nil, overdue_releases (phaseEnd_eq hdrains) hreleases]
  apply overdue_releases_eq_nil_iff
  exact longest_le_of_not_late (allEnd_iff_late_eq_nil.mp hdrains)

/-- A shutdown takes as long as one phase after the other, but no longer than it may. -/
theorem shutdownResult_fst (hreleases : ∀ r ∈ releases, r.phase = .release) :
    ((shutdownResult (start + timeout) signalled start drains releases).1 : ℕ∞) =
      start + min (timeout : ℕ∞)
        (longest signalled start drains + longest signalled start releases) := by
  have hdeadline : ((start + timeout : Time) : ℕ∞) = start + timeout := Nat.cast_add start timeout
  by_cases hdrains : AllEnd (start + timeout) signalled start drains
  · have hfits := allEnd_releases_iff hdrains hreleases
    rw [shutdownResult, if_pos hdrains, releaseResult]
    split
    · rename_i hall
      calc
        _ = start + longest signalled start drains + longest signalled start releases := by
          rw [phaseEnd_eq hall, phaseEnd_eq hdrains, longest_of_releases hreleases]
        _ = _ := by rw [min_eq_right (hfits.mp hall), add_assoc]
    · rename_i hunreleased
      rw [min_eq_left (not_le.mp (mt hfits.mpr hunreleased)).le]
      exact hdeadline
  · have hlong : (timeout : ℕ∞) ≤ longest signalled start drains :=
      le_longest_of_late (mt allEnd_iff_late_eq_nil.mpr hdrains)
    rw [shutdownResult, if_neg hdrains, min_eq_left (hlong.trans le_self_add)]
    exact hdeadline

namespace Coordinator

theorem drains_append_releases_perm (k : Coordinator) :
    (k.drains ++ k.releases).Perm k.resources := by
  have hrest : k.releases = k.resources.filter fun r ↦ !decide (r.phase = .drain) := by
    apply List.filter_congr
    intro r _
    cases r.phase <;> rfl
  unfold drains
  rw [hrest]
  exact List.filter_append_perm _ _

/-- A shutdown whose deadline the clock cannot name does nothing. Any other takes as long as the
longest drain and then the longest release, and no longer than it may. A drain is late if it lasts
longer than that, or as long in the case of a server. If there are such, they are named and with
them all that is released; if there are none, but not enough time for the longest release, those are
named that it was too short for. Otherwise all closes have ended, and those are named that failed.
The names are in order. -/
theorem shutdown_takes_as_long_as_its_closes (k : Coordinator) (start : Time) (timeout : Nat)
    (hnames : k.names.Nodup) :
    let duration := Resource.duration (k.signalledAt.getD start) start
    let drainTime := longest (k.signalledAt.getD start) start k.drains
    let releaseTime := longest (k.signalledAt.getD start) start k.releases
    let late := k.drains.filter fun r ↦ (timeout : ℕ∞) < duration r + r.delay
    let unreleased := k.releases.filter fun r ↦ (timeout : ℕ∞) < drainTime + duration r
    let failed := k.resources.filter Resource.fails
    let run := (shutdown timeout).run start k
    (clockEnd ≤ start + timeout → run = (start, k, .panicked)) ∧
    (start + timeout < clockEnd →
      (run.1 : ℕ∞) = start + min (timeout : ℕ∞) (drainTime + releaseTime) ∧
      (timeout < drainTime → late ≠ []) ∧ (drainTime < timeout → late = []) ∧
      (late ≠ [] → ∃ pending, run.2.2 = .done (.error (.deadlineExceeded pending)) ∧
        Lists pending (late ++ k.releases)) ∧
      (late = [] → timeout < drainTime + releaseTime →
        ∃ pending, run.2.2 = .done (.error (.deadlineExceeded pending)) ∧
          Lists pending unreleased) ∧
      (late = [] → drainTime + releaseTime ≤ timeout →
        (failed = [] → run.2.2 = .done (.ok ())) ∧
        (failed ≠ [] → ∃ names, run.2.2 = .done (.error (.closeFailed names)) ∧
          Lists names failed))) := by
  intro duration drainTime releaseTime late unreleased failed run
  have hrun : run = _ := run_shutdown k start timeout
  constructor
  · intro hbeyond
    rw [hrun, if_pos hbeyond]
  intro hclock
  rw [if_neg (Nat.not_le.mpr hclock)] at hrun
  have hreleases := phase_of_mem_releases (k := k)
  have hdrainNames : (k.drains.map Resource.name).Nodup :=
    hnames.sublist (List.filter_sublist.map _)
  have hreleaseNames : (k.releases.map Resource.name).Nodup :=
    hnames.sublist (List.filter_sublist.map _)
  have htime : (run.1 : ℕ∞) = start + min (timeout : ℕ∞) (drainTime + releaseTime) := by
    rw [hrun]
    exact shutdownResult_fst hreleases
  have hnotLate : timeout < drainTime → late ≠ [] :=
    fun hlt hnone ↦ not_le.mpr hlt (longest_le_of_not_late hnone)
  have hinTime : drainTime < timeout → late = [] := by
    intro hlt
    by_contra hsome
    exact not_le.mpr hlt (le_longest_of_late hsome)
  by_cases hnone : late = []
  · have hall := allEnd_iff_late_eq_nil.mpr hnone
    have hfits := allEnd_releases_iff hall hreleases
    refine ⟨htime, hnotLate, hinTime, fun hsome ↦ absurd hnone hsome, fun _ hlong ↦ ?_,
      fun _ hfit ↦ ?_⟩
    · obtain ⟨pending, hresult, hlists⟩ :=
        shutdownResult_of_unreleased hreleaseNames hall (mt hfits.mp (not_le.mpr hlong))
      rw [overdue_releases (phaseEnd_eq hall) hreleases] at hlists
      rw [hrun, hresult]
      exact ⟨pending, rfl, hlists⟩
    · obtain ⟨hok, hfails⟩ :=
        shutdownResult_of_over hall (hfits.mpr hfit) (drains_append_releases_perm k)
      rw [hrun]
      refine ⟨fun hnothing ↦ congrArg Outcome.done (hok hnothing), fun hsome ↦ ?_⟩
      obtain ⟨names, hresult, hlists⟩ := hfails hsome
      exact ⟨names, congrArg Outcome.done hresult, hlists⟩
  · obtain ⟨pending, hresult, hlists⟩ :=
      shutdownResult_of_late hdrainNames (mt allEnd_iff_late_eq_nil.mp hnone)
    rw [overdue_at_start] at hlists
    refine ⟨htime, hnotLate, hinTime, fun _ ↦ ⟨pending, ?_, hlists⟩,
      fun hno ↦ absurd hno hnone, fun hno ↦ absurd hno hnone⟩
    rw [hrun, hresult]

/-- A job drains, which leaves enough time to close the store but not the backend. -/
theorem backend_pending_after_drain :
    let backend : Resource := ⟨"backend:orders", .plain .release (.lasting 500 true)⟩
    let job : Resource := ⟨"jobs", .plain .drain (.lasting 300 true)⟩
    let store : Resource := ⟨"rate_limit_store", .plain .release (.lasting 100 false)⟩
    let k : Coordinator := { resources := [backend, job, store] }
    let run := (shutdown 500).run 0 k
    k.names.Nodup ∧ 0 + 500 < clockEnd ∧ (run.1 : ℕ∞) = 500 ∧
      ∃ pending, run.2.2 = .done (.error (.deadlineExceeded pending)) ∧
        Lists pending [backend] := by
  intro backend job store k run
  have hnames : k.names.Nodup := by decide
  have hclock : 0 + 500 < clockEnd := by decide
  have hbackend : backend.duration 0 0 = (500 : Nat) := rfl
  have hjob : job.duration 0 0 = (300 : Nat) := rfl
  have hstore : store.duration 0 0 = (100 : Nat) := rfl
  have hdrains : k.drains = [job] := rfl
  have hreleases : k.releases = [backend, store] := rfl
  have hdrainTime : longest 0 0 k.drains = (300 : Nat) := by
    simp [hdrains, longest, hjob]
  have hreleaseTime : longest 0 0 k.releases = (500 : Nat) := by
    rw [hreleases]
    norm_num [longest, hbackend, hstore]
  have hlate :
      (k.drains.filter fun r ↦ ((500 : Nat) : ℕ∞) < r.duration 0 0 + r.delay) = [] := by
    rw [hdrains]
    norm_num [hjob, job, Resource.delay]
  have hunreleased :
      (k.releases.filter fun r ↦ ((500 : Nat) : ℕ∞) < longest 0 0 k.drains + r.duration 0 0) =
        [backend] := by
    rw [hdrainTime, hreleases]
    norm_num [hbackend, hstore]
  have hlong : ((500 : Nat) : ℕ∞) < longest 0 0 k.drains + longest 0 0 k.releases := by
    rw [hdrainTime, hreleaseTime]
    norm_num
  obtain ⟨htime, -, -, -, hcut, -⟩ :=
    (shutdown_takes_as_long_as_its_closes k 0 500 hnames).2 hclock
  obtain ⟨pending, hresult, hlists⟩ := hcut hlate hlong
  refine ⟨hnames, hclock, htime.trans ?_, pending, hresult, hunreleased ▸ hlists⟩
  exact (zero_add _).trans (min_eq_left hlong.le)

/-- A server whose task ends just at the deadline is not over in time. -/
theorem server_ending_at_deadline_is_late :
    ¬ ∀ (k : Coordinator) (start : Time) (timeout : Nat),
      let signalled := k.signalledAt.getD start
      k.names.Nodup → start + timeout < clockEnd →
        longest signalled start k.drains + longest signalled start k.releases ≤ timeout →
        k.resources.filter Resource.fails = [] →
        ((shutdown timeout).run start k).2.2 = .done (.ok ()) := by
  intro h
  let k : Coordinator := { resources := [⟨"http_server", .server (.lasting 100 true) false⟩] }
  have htime : longest 0 0 k.drains + longest 0 0 k.releases ≤ (100 : Nat) := by
    simp [longest, k, drains, releases, Resource.phase, Resource.duration, Resource.ending]
  have hok := h k 0 100 (by decide) (by decide) htime (by decide)
  have hlate : ((shutdown 100).run 0 k).2.2 =
      .done (.error (.deadlineExceeded ["http_server"])) := by cbv
  rw [hlate] at hok
  cases hok

end Coordinator

end RpcGateway.Shutdown
