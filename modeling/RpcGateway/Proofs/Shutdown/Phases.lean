import RpcGateway.Proofs.Activity.Progress
import RpcGateway.Proofs.Shutdown.Waiting

/-!
# Drains before releases

A shutdown sends the signal and closes what drains. It goes on to what is released when all of that
has ended, at the last of the ends, and not at all if the deadline comes first. The journal of a
phase is the beginnings of its closes, all at one instant, and then their ends. What comes of a
phase does not depend on the order in which its resources were registered; only the journal is
written in another order. The signal is sent before the first close begins, also where others act
on the coordinator in between: whoever has subscribed and is up to date gets a message by it.
-/

namespace RpcGateway.Shutdown

variable {deadline signalled start : Time} {cs cs' : List Close} {names names' : List String}
  {rs rs' drains drains' releases releases' : List Resource}

/-! ## The order of the closes -/

theorem endings_perm (h : cs.Perm cs') : (endings deadline cs).Perm (endings deadline cs') :=
  h.filterMap _

theorem failures_perm (h : cs.Perm cs') : (failures deadline cs).Perm (failures deadline cs') :=
  h.filterMap _

theorem leftOf_eq_of_perm (h : cs.Perm cs') (pending : List String) :
    leftOf deadline pending cs = leftOf deadline pending cs' := by
  unfold leftOf
  simp only [h.mem_iff]

theorem lastEnd_eq_of_perm (h : cs.Perm cs') :
    lastEnd deadline start cs = lastEnd deadline start cs' := by
  apply (h.filterMap _).foldl_eq'
  intro e _ e' _ t
  exact Nat.max_right_comm t e.1 e'.1

theorem lastEnd_le_iff {t : Time} : lastEnd deadline start cs ≤ t ↔
    start ≤ t ∧ ∀ c ∈ cs, ∀ e, c.endingBy deadline = some e → e.1 ≤ t := by
  unfold lastEnd
  induction cs generalizing start with
  | nil => simp
  | cons c cs ih =>
    rw [List.forall_mem_cons]
    cases hending : c.endingBy deadline with
    | none =>
      rw [List.filterMap_cons_none hending, ih]
      simp
    | some e =>
      rw [List.filterMap_cons_some hending, List.foldl_cons, ih, Nat.max_le, and_assoc]
      simp

theorem lastEnd_le (hdue : start ≤ deadline) (cs : List Close) :
    lastEnd deadline start cs ≤ deadline :=
  lastEnd_le_iff.mpr ⟨hdue, fun _ _ _ hending ↦ Close.le_of_endingBy hending⟩

theorem perm_namesSorted (names : List String) : (namesSorted names).Perm names :=
  List.mergeSort_perm _ _

theorem pairwise_namesSorted (names : List String) :
    (namesSorted names).Pairwise fun a b ↦ a ≤ b := by
  have htrans (a b c : String) (hab : decide (a ≤ b) = true) (hbc : decide (b ≤ c) = true) :
      decide (a ≤ c) = true :=
    decide_eq_true (String.le_trans (of_decide_eq_true hab) (of_decide_eq_true hbc))
  have htotal (a b : String) : (decide (a ≤ b) || decide (b ≤ a)) = true := by
    simpa using String.le_total a b
  exact (List.pairwise_mergeSort htrans htotal names).imp fun h ↦ of_decide_eq_true h

theorem namesSorted_eq_of_perm (h : names.Perm names') :
    namesSorted names = namesSorted names' := by
  have hperm : (namesSorted names).Perm (namesSorted names') :=
    ((perm_namesSorted names).trans h).trans (perm_namesSorted names').symm
  apply hperm.eq_of_pairwise _ (pairwise_namesSorted names) (pairwise_namesSorted names')
  exact fun a b _ _ hab hba ↦ String.le_antisymm hab hba

theorem nodup_eraseDups (names : List String) : names.eraseDups.Nodup := by
  match names with
  | [] => exact List.nodup_nil
  | name :: names =>
    rw [List.eraseDups_cons, List.nodup_cons]
    refine ⟨?_, nodup_eraseDups _⟩
    rw [List.mem_eraseDups]
    simp
termination_by names.length
decreasing_by exact Nat.lt_succ_of_le (List.length_filter_le _ _)

theorem nameSet_eq_of_perm (h : rs.Perm rs') : nameSet rs = nameSet rs' := by
  apply namesSorted_eq_of_perm
  rw [List.perm_ext_iff_of_nodup (nodup_eraseDups _) (nodup_eraseDups _)]
  intro name
  simp only [List.mem_eraseDups, (h.map _).mem_iff]

theorem closes_perm (h : rs.Perm rs') :
    (closes signalled start rs).Perm (closes signalled start rs') :=
  ((perm_closes signalled start rs).trans (h.map _)).trans (perm_closes signalled start rs').symm

/-! ## A whole shutdown -/

/-- The journal of a shutdown. -/
def shutdownJournal (deadline signalled start : Time) (drains releases : List Resource) :
    List (Time × Event) :=
  (start, .signalled) :: phaseJournal deadline signalled start drains ++
    if AllEnd deadline signalled start drains then
      phaseJournal deadline signalled (phaseEnd deadline signalled start drains) releases
    else []

/-- When releasing is over, and what the shutdown says then. -/
def releaseResult (deadline signalled start : Time) (rs : List Resource) (failed : List String) :
    Time × Except ShutdownError Unit :=
  if AllEnd deadline signalled start rs then
    let failed := failed ++ phaseFailures deadline signalled start rs
    (phaseEnd deadline signalled start rs,
      if failed.isEmpty then .ok () else .error (.closeFailed (namesSorted failed)))
  else (deadline, .error (.deadlineExceeded (phasePending deadline signalled start rs)))

/-- When a shutdown is over, and what it says. -/
def shutdownResult (deadline signalled start : Time) (drains releases : List Resource) :
    Time × Except ShutdownError Unit :=
  if AllEnd deadline signalled start drains then
    releaseResult deadline signalled (phaseEnd deadline signalled start drains) releases
      (phaseFailures deadline signalled start drains)
  else
    (deadline, .error (.deadlineExceeded (namesSorted
      (phasePending deadline signalled start drains ++ releases.map Resource.name))))

namespace Coordinator

variable {k : Coordinator}

theorem run_release (hsignalled : k.signalledAt = some signalled) (hdue : start ≤ deadline)
    (rs : List Resource) (failed : List String) :
    (release deadline rs failed).run start k =
      ((releaseResult deadline signalled start rs failed).1, k.after deadline signalled start rs,
        .done (releaseResult deadline signalled start rs failed).2) := by
  rw [release, Activity.run_bind, run_closeAll hsignalled hdue, releaseResult]
  by_cases hall : AllEnd deadline signalled start rs
  · rw [if_pos hall, if_pos hall]
    rfl
  · rw [if_neg hall, if_neg hall]
    rfl

/-- The coordinator after both phases, or after the first one if that is not over in time. -/
def afterBoth (deadline signalled start : Time) (drains releases : List Resource)
    (k : Coordinator) : Coordinator :=
  if AllEnd deadline signalled start drains then
    (k.after deadline signalled start drains).after deadline signalled
      (phaseEnd deadline signalled start drains) releases
  else k.after deadline signalled start drains

theorem run_drain (hsignalled : k.signalledAt = some signalled) (hdue : start ≤ deadline)
    (drains releases : List Resource) :
    (drain deadline drains releases).run start k =
      ((shutdownResult deadline signalled start drains releases).1,
        k.afterBoth deadline signalled start drains releases,
        .done (shutdownResult deadline signalled start drains releases).2) := by
  rw [drain, Activity.run_bind, run_closeAll hsignalled hdue, shutdownResult, afterBoth]
  by_cases hall : AllEnd deadline signalled start drains
  · rw [if_pos hall, if_pos hall, if_pos hall]
    have hafter : (k.after deadline signalled start drains).signalledAt = some signalled :=
      hsignalled
    exact run_release hafter (lastEnd_le hdue _) releases _
  · rw [if_neg hall, if_neg hall, if_neg hall]
    rfl

/-- A shutdown whose deadline the clock cannot name does nothing. Any other sends the signal, and
does what can be done by the deadline. -/
theorem run_shutdown (k : Coordinator) (start : Time) (timeout : Nat) :
    let deadline := start + timeout
    let signalled := k.signalledAt.getD start
    (shutdown timeout).run start k =
      if clockEnd ≤ deadline then (start, k, .panicked)
      else
        ((shutdownResult deadline signalled start k.drains k.releases).1,
          (k.trigger start).afterBoth deadline signalled start k.drains k.releases,
          .done (shutdownResult deadline signalled start k.drains k.releases).2) := by
  intro deadline signalled
  simp only [shutdown, Activity.run, Activity.keep]
  by_cases hbeyond : clockEnd ≤ deadline
  · rw [if_pos hbeyond, if_pos hbeyond]
    rfl
  · rw [if_neg hbeyond, if_neg hbeyond]
    exact run_drain rfl (Nat.le_add_right ..) k.drains k.releases

theorem journal_afterBoth (k : Coordinator) (start : Time) (drains releases : List Resource) :
    ((k.trigger start).afterBoth deadline signalled start drains releases).journal =
      k.journal ++ shutdownJournal deadline signalled start drains releases := by
  unfold afterBoth shutdownJournal
  by_cases hall : AllEnd deadline signalled start drains
  · rw [if_pos hall, if_pos hall, journal_after, journal_after]
    simp [trigger, note]
  · rw [if_neg hall, if_neg hall, journal_after]
    simp [trigger, note]

end Coordinator

/-! ## What a journal says -/

variable {phase : Phase} {journal : List (Time × Event)} {r : Resource} {t : Time} {ok : Bool}

def Event.begun? (phase : Phase) : Event → Option Resource
  | .began r => if r.phase = phase then some r else none
  | _ => none

def Event.ended? (phase : Phase) : Event → Option Resource
  | .ended r _ => if r.phase = phase then some r else none
  | _ => none

/-- The resources of a phase whose closes have begun. -/
def begunIn (phase : Phase) (journal : List (Time × Event)) : List Resource :=
  journal.filterMap fun e ↦ e.2.begun? phase

/-- The resources of a phase whose closes have ended. -/
def endedIn (phase : Phase) (journal : List (Time × Event)) : List Resource :=
  journal.filterMap fun e ↦ e.2.ended? phase

theorem mem_begunIn :
    r ∈ begunIn phase journal ↔ r.phase = phase ∧ ∃ t, (t, .began r) ∈ journal := by
  unfold begunIn
  rw [List.mem_filterMap]
  constructor
  · rintro ⟨⟨t, e⟩, hmem, he⟩
    cases e with
    | began r' =>
      obtain ⟨hphase, heq⟩ := Option.ite_none_right_eq_some.mp he
      cases heq
      exact ⟨hphase, t, hmem⟩
    | signalled => cases he
    | ended r' ok => cases he
  · rintro ⟨hphase, t, hmem⟩
    exact ⟨_, hmem, if_pos hphase⟩

theorem mem_endedIn :
    r ∈ endedIn phase journal ↔ r.phase = phase ∧ ∃ t ok, (t, .ended r ok) ∈ journal := by
  unfold endedIn
  rw [List.mem_filterMap]
  constructor
  · rintro ⟨⟨t, e⟩, hmem, he⟩
    cases e with
    | ended r' ok =>
      obtain ⟨hphase, heq⟩ := Option.ite_none_right_eq_some.mp he
      cases heq
      exact ⟨hphase, t, ok, hmem⟩
    | signalled => cases he
    | began r' => cases he
  · rintro ⟨hphase, t, ok, hmem⟩
    exact ⟨_, hmem, if_pos hphase⟩

theorem mem_endings {x : Time × Event} :
    x ∈ endings deadline (closes signalled start rs) ↔
      ∃ r ∈ rs, ∃ e, (r.close signalled start).endingBy deadline = some e ∧
        x = (e.1, .ended r e.2) := by
  simp only [endings, List.mem_filterMap, (perm_closes signalled start rs).mem_iff, List.mem_map,
    exists_exists_and_eq_and, Option.map_eq_some_iff, eq_comm (a := x)]
  rfl

theorem began_mem_phaseJournal :
    (t, .began r) ∈ phaseJournal deadline signalled start rs ↔ t = start ∧ r ∈ rs := by
  rw [phaseJournal, List.mem_append, mem_endings]
  constructor
  · rintro (hbegan | ⟨r', -, e, -, he⟩)
    · obtain ⟨r', hr', heq⟩ := List.mem_map.mp hbegan
      cases heq
      exact ⟨rfl, hr'⟩
    · cases he
  · rintro ⟨rfl, hr⟩
    exact .inl (List.mem_map.mpr ⟨r, hr, rfl⟩)

theorem ended_mem_phaseJournal :
    (t, .ended r ok) ∈ phaseJournal deadline signalled start rs ↔
      r ∈ rs ∧ (r.close signalled start).endingBy deadline = some (t, ok) := by
  rw [phaseJournal, List.mem_append, mem_endings]
  constructor
  · rintro (hbegan | ⟨r', hr', e, he, heq⟩)
    · obtain ⟨r', -, heq⟩ := List.mem_map.mp hbegan
      cases heq
    · cases heq
      exact ⟨hr', he⟩
  · rintro ⟨hr, he⟩
    exact .inr ⟨r, hr, _, he, rfl⟩

theorem begunIn_phaseJournal (hphase : ∀ r ∈ rs, r.phase = phase) :
    begunIn phase (phaseJournal deadline signalled start rs) = rs := by
  have hnone :
      (endings deadline (closes signalled start rs)).filterMap (·.2.begun? phase) = [] := by
    apply List.filterMap_eq_nil_iff.mpr
    intro x hx
    obtain ⟨r, -, e, -, rfl⟩ := mem_endings.mp hx
    rfl
  rw [begunIn, phaseJournal, List.filterMap_append, hnone, List.append_nil, List.filterMap_map]
  calc
    _ = rs.filterMap some := List.filterMap_congr fun r hr ↦ if_pos (hphase r hr)
    _ = rs := List.filterMap_some

theorem begunIn_phaseJournal_of_ne (hphase : ∀ r ∈ rs, r.phase ≠ phase) :
    begunIn phase (phaseJournal deadline signalled start rs) = [] := by
  rw [List.eq_nil_iff_forall_not_mem]
  intro r hr
  obtain ⟨hr', t, hmem⟩ := mem_begunIn.mp hr
  exact hphase r (began_mem_phaseJournal.mp hmem).2 hr'

/-- If a phase is over in time, all its closes have ended. -/
theorem endedIn_phaseJournal (hphase : ∀ r ∈ rs, r.phase = phase)
    (hall : AllEnd deadline signalled start rs) :
    (endedIn phase (phaseJournal deadline signalled start rs)).Perm rs := by
  have hbegan : (rs.map fun r ↦ (start, Event.began r)).filterMap (·.2.ended? phase) = [] := by
    apply List.filterMap_eq_nil_iff.mpr
    intro x hx
    obtain ⟨r, -, rfl⟩ := List.mem_map.mp hx
    rfl
  rw [endedIn, phaseJournal, List.filterMap_append, hbegan, List.nil_append, endings,
    List.filterMap_filterMap]
  refine ((perm_closes signalled start rs).filterMap _).trans (.of_eq ?_)
  rw [List.filterMap_map]
  calc
    _ = rs.filterMap some := by
      apply List.filterMap_congr
      intro r hr
      obtain ⟨e, he⟩ := Option.isSome_iff_exists.mp (hall r hr)
      simp only [Function.comp_apply, he]
      exact if_pos (hphase r hr)
    _ = rs := List.filterMap_some

theorem phaseJournal_perm (h : rs.Perm rs') :
    (phaseJournal deadline signalled start rs).Perm (phaseJournal deadline signalled start rs') :=
  (h.map _).append (endings_perm (closes_perm h))

/-! ## Both phases -/

theorem allEnd_iff_of_perm (h : rs.Perm rs') :
    AllEnd deadline signalled start rs ↔ AllEnd deadline signalled start rs' := by
  simp only [AllEnd, h.mem_iff]

theorem phaseEnd_eq_of_perm (h : rs.Perm rs') :
    phaseEnd deadline signalled start rs = phaseEnd deadline signalled start rs' :=
  lastEnd_eq_of_perm (closes_perm h)

theorem phasePending_eq_of_perm (h : rs.Perm rs') :
    phasePending deadline signalled start rs = phasePending deadline signalled start rs' := by
  rw [phasePending, phasePending, nameSet_eq_of_perm h, leftOf_eq_of_perm (closes_perm h)]

theorem shutdownJournal_perm (hdrains : drains.Perm drains') (hreleases : releases.Perm releases') :
    (shutdownJournal deadline signalled start drains releases).Perm
      (shutdownJournal deadline signalled start drains' releases') := by
  unfold shutdownJournal
  simp only [allEnd_iff_of_perm hdrains, phaseEnd_eq_of_perm hdrains]
  refine ((phaseJournal_perm hdrains).cons _).append ?_
  split
  · exact phaseJournal_perm hreleases
  · exact .nil

theorem shutdownResult_eq_of_perm (hdrains : drains.Perm drains')
    (hreleases : releases.Perm releases') :
    shutdownResult deadline signalled start drains releases =
      shutdownResult deadline signalled start drains' releases' := by
  have hfailed (mid : Time) : (phaseFailures deadline signalled start drains ++
      phaseFailures deadline signalled mid releases).Perm
        (phaseFailures deadline signalled start drains' ++
          phaseFailures deadline signalled mid releases') :=
    (failures_perm (closes_perm hdrains)).append (failures_perm (closes_perm hreleases))
  have hpending : namesSorted (phasePending deadline signalled start drains ++
      releases.map Resource.name) =
        namesSorted (phasePending deadline signalled start drains' ++
          releases'.map Resource.name) := by
    apply namesSorted_eq_of_perm
    rw [phasePending_eq_of_perm hdrains]
    exact (hreleases.map _).append_left _
  unfold shutdownResult releaseResult
  simp only [allEnd_iff_of_perm hdrains, phaseEnd_eq_of_perm hdrains, hpending,
    allEnd_iff_of_perm hreleases, phaseEnd_eq_of_perm hreleases,
    phasePending_eq_of_perm hreleases, (hfailed _).isEmpty_eq, namesSorted_eq_of_perm (hfailed _)]

/-! ## The order of a shutdown -/

/-- What comes before an entry of the second part of a list is the first part and more. -/
theorem exists_of_append_cons {α : Type} {x : α} {before after first second : List α}
    (h : first ++ second = before ++ x :: after) (hx : x ∉ first) :
    ∃ between, before = first ++ between ∧ second = between ++ x :: after := by
  obtain ⟨between, hbefore, hsecond⟩ | ⟨between, hfirst, hafter⟩ := List.append_eq_append_iff.mp h
  · exact ⟨between, hbefore, hsecond⟩
  · cases between with
    | nil =>
      rw [List.append_nil] at hfirst
      exact ⟨[], by rw [hfirst, List.append_nil], hafter.symm⟩
    | cons y between =>
      rw [List.cons_append, List.cons.injEq] at hafter
      rw [hfirst, hafter.1] at hx
      exact absurd (by simp) hx

variable (hdrains : ∀ r ∈ drains, r.phase = .drain) (hreleases : ∀ r ∈ releases, r.phase = .release)

include hreleases in
/-- Drains begin at once. -/
theorem drain_begins_at_start
    (h : (t, .began r) ∈ shutdownJournal deadline signalled start drains releases)
    (hphase : r.phase = .drain) : t = start := by
  rw [shutdownJournal, List.mem_append, List.mem_cons] at h
  obtain (h | h) | h := h
  · cases h
  · exact (began_mem_phaseJournal.mp h).1
  · split at h
    · exact absurd (hphase.symm.trans (hreleases r (began_mem_phaseJournal.mp h).2)) nofun
    · cases h

include hdrains in
/-- A release that begins does so after all drains are over. -/
theorem release_begins_after_drains
    (h : (t, .began r) ∈ shutdownJournal deadline signalled start drains releases)
    (hphase : r.phase = .release) :
    AllEnd deadline signalled start drains ∧ t = phaseEnd deadline signalled start drains := by
  rw [shutdownJournal, List.mem_append, List.mem_cons] at h
  obtain (h | h) | h := h
  · cases h
  · exact absurd (hphase.symm.trans (hdrains r (began_mem_phaseJournal.mp h).2)) nofun
  · split at h
    · rename_i hall
      exact ⟨hall, (began_mem_phaseJournal.mp h).1⟩
    · cases h

/-- The signal is sent first. -/
theorem signalled_before_begin {before after : List (Time × Event)}
    (h : shutdownJournal deadline signalled start drains releases =
      before ++ (t, .began r) :: after) : (start, .signalled) ∈ before := by
  cases before with
  | nil => cases (List.cons.inj h).1
  | cons e before =>
    rw [← (List.cons.inj h).1]
    exact List.mem_cons_self

theorem not_allEnd (hr : r ∈ rs) (hnone : (r.close signalled start).endingBy deadline = none) :
    ¬ AllEnd deadline signalled start rs := by
  intro hall
  have hsome := hall r hr
  rw [hnone] at hsome
  cases hsome

include hdrains hreleases in
/-- All drains have ended when a release begins, and the last of them just then. -/
theorem endedIn_before_release {before after : List (Time × Event)}
    (h : shutdownJournal deadline signalled start drains releases =
      before ++ (t, .began r) :: after) (hphase : r.phase = .release) :
    (endedIn .drain before).Perm drains ∧ t = phaseEnd deadline signalled start drains := by
  have hmem : (t, .began r) ∈ shutdownJournal deadline signalled start drains releases := by
    rw [h]
    simp
  obtain ⟨hall, hmid⟩ := release_begins_after_drains hdrains hmem hphase
  refine ⟨?_, hmid⟩
  have hfirst :
      (t, .began r) ∉ (start, .signalled) :: phaseJournal deadline signalled start drains := by
    rw [List.mem_cons, not_or]
    refine ⟨nofun, fun hmem ↦ ?_⟩
    exact absurd (hphase.symm.trans (hdrains r (began_mem_phaseJournal.mp hmem).2)) nofun
  rw [shutdownJournal, if_pos hall] at h
  obtain ⟨between, rfl, hsecond⟩ := exists_of_append_cons h hfirst
  have hnone : endedIn .drain between = [] := by
    rw [List.eq_nil_iff_forall_not_mem]
    intro r' hr'
    obtain ⟨hdrain, t', ok', hmem'⟩ := mem_endedIn.mp hr'
    have hmem : (t', .ended r' ok') ∈ phaseJournal deadline signalled
        (phaseEnd deadline signalled start drains) releases := by
      rw [hsecond]
      exact List.mem_append_left _ hmem'
    exact absurd (hdrain.symm.trans (hreleases r' (ended_mem_phaseJournal.mp hmem).1)) nofun
  have hsplit : endedIn .drain ((start, .signalled) ::
      phaseJournal deadline signalled start drains ++ between) =
        endedIn .drain (phaseJournal deadline signalled start drains) ++ endedIn .drain between :=
    List.filterMap_append
  rw [hsplit, hnone, List.append_nil]
  exact endedIn_phaseJournal hdrains hall

include hreleases in
/-- A drain ends when its close does. -/
theorem drain_ends_as_it_does
    (h : (t, .ended r ok) ∈ shutdownJournal deadline signalled start drains releases)
    (hphase : r.phase = .drain) :
    (r.close signalled start).endingBy deadline = some (t, ok) := by
  rw [shutdownJournal, List.mem_append, List.mem_cons] at h
  obtain (h | h) | h := h
  · cases h
  · exact (ended_mem_phaseJournal.mp h).2
  · split at h
    · exact absurd (hphase.symm.trans (hreleases r (ended_mem_phaseJournal.mp h).1)) nofun
    · cases h

theorem begunIn_shutdownJournal (phase : Phase) :
    begunIn phase (shutdownJournal deadline signalled start drains releases) =
      begunIn phase (phaseJournal deadline signalled start drains) ++
        if AllEnd deadline signalled start drains then
          begunIn phase (phaseJournal deadline signalled (phaseEnd deadline signalled start drains)
            releases)
        else [] := by
  unfold shutdownJournal begunIn
  rw [List.filterMap_append]
  split
  · rfl
  · rfl

include hdrains hreleases in
theorem begunIn_drain_shutdownJournal :
    begunIn .drain (shutdownJournal deadline signalled start drains releases) = drains := by
  have hother : ∀ r ∈ releases, r.phase ≠ .drain := fun r hr ↦ by simp [hreleases r hr]
  rw [begunIn_shutdownJournal, begunIn_phaseJournal hdrains, begunIn_phaseJournal_of_ne hother,
    ite_self, List.append_nil]

include hdrains hreleases in
theorem begunIn_release_shutdownJournal :
    begunIn .release (shutdownJournal deadline signalled start drains releases) =
      if AllEnd deadline signalled start drains then releases else [] := by
  have hother : ∀ r ∈ drains, r.phase ≠ .release := fun r hr ↦ by simp [hdrains r hr]
  rw [begunIn_shutdownJournal, begunIn_phaseJournal hreleases, begunIn_phaseJournal_of_ne hother,
    List.nil_append]

/-! ## The signal -/

namespace Broadcast

variable {b : Broadcast} {id : String}

/-- A listener that has got all messages so far. -/
def Awaits (b : Broadcast) (id : String) : Prop :=
  (b.listeners.find? fun l ↦ l.1 = id) = some (id, b.sent)

/-- Whoever subscribes awaits the next message. -/
theorem awaits_subscribe (b : Broadcast) (id : String) : (b.subscribe id).Awaits id := by
  have hnone : ((b.drop id).listeners.find? fun l ↦ l.1 = id) = none := by
    rw [List.find?_eq_none]
    intro l hl
    simpa using (List.mem_filter.mp hl).2
  unfold Awaits subscribe
  dsimp only at hnone ⊢
  rw [List.find?_append, hnone]
  simp

/-- Whoever awaits the signal gets it. -/
theorem receive_trigger (h : b.Awaits id) : (b.trigger.receive id).1 = .message := by
  have hlisteners : b.listeners.isEmpty = false := by
    cases hb : b.listeners with
    | nil => simp [Awaits, hb] at h
    | cons => rfl
  have htrigger : b.trigger = { b with sent := b.sent + 1 } := by
    rw [trigger, hlisteners]
    rfl
  unfold Awaits at h
  rw [htrigger, receive]
  dsimp only
  rw [h]
  dsimp only
  rw [if_neg (Nat.not_succ_le_self _), if_pos rfl]

end Broadcast

/-- A change of a coordinator that begins closes. -/
def BeginsClose (d : Deed Coordinator) : Prop :=
  ∃ entries t r, d.after.journal = d.before.journal ++ entries ∧ (t, .began r) ∈ entries

/-- A change of a coordinator that sends the signal: all that await it get a message by it, and so
does whoever has just subscribed. -/
structure Signals (d : Deed Coordinator) : Prop where
  sent : d.after.signal = d.before.signal.trigger
  received : ∀ id, d.before.signal.Awaits id → (d.after.signal.receive id).1 = .message
  subscribed : ∀ (b : Broadcast) (id : String), d.before.signal = b.subscribe id →
    (d.after.signal.receive id).1 = .message

theorem signals_trigger (now : Time) (k : Coordinator) : Signals ⟨now, k, k.trigger now⟩ where
  sent := rfl
  received _ := Broadcast.receive_trigger
  subscribed b id hsubscribed :=
    Broadcast.receive_trigger (hsubscribed ▸ Broadcast.awaits_subscribe b id)

theorem not_beginsClose_of_entries {d : Deed Coordinator} {entries : List (Time × Event)}
    (h : d.after.journal = d.before.journal ++ entries) (hnone : ∀ t r, (t, .began r) ∉ entries) :
    ¬ BeginsClose d := by
  rintro ⟨entries', t, r, hsame, hmem⟩
  rw [← List.append_cancel_left (h.symm.trans hsame)] at hmem
  exact hnone t r hmem

namespace Coordinator

/-- A shutdown that comes to more than a look at the clock sends the signal next. -/
theorem cases_of_proceeds_shutdown {timeout : Nat} {ds : List (Deed Coordinator)}
    {result : Option (Except ShutdownError Unit)}
    (h : (shutdown timeout).Proceeds start ds result) :
    (∀ d ∈ ds, d.Idle) ∨
      ∃ s k rest, ds = ⟨start, s, s⟩ :: ⟨start, k, k.trigger start⟩ :: rest := by
  obtain ⟨rfl, -⟩ | ⟨s, ds, rfl, hrest⟩ := h.of_act
  · exact .inl nofun
  have hlooked : ∀ d ∈ [(⟨start, s, Activity.keep start s⟩ : Deed Coordinator)], d.Idle :=
    List.forall_mem_singleton.mpr rfl
  split at hrest
  · cases hrest
    exact .inl hlooked
  · obtain ⟨rfl, -⟩ | ⟨k, rest, rfl, -⟩ := hrest.of_act
    · exact .inl hlooked
    · exact .inr ⟨s, k, rest, rfl⟩

/-- Whatever others do to the coordinator in between, a shutdown sends the signal before it begins
to close anything. -/
theorem exists_signals_before {timeout : Nat} {before after : List (Deed Coordinator)}
    {d : Deed Coordinator} {result : Option (Except ShutdownError Unit)}
    (h : (shutdown timeout).Proceeds start (before ++ d :: after) result)
    (hbegins : BeginsClose d) : ∃ e ∈ before, e.instant = start ∧ Signals e := by
  obtain hidle | ⟨s, k, rest, hds⟩ := cases_of_proceeds_shutdown h
  · have hsame : d.after = d.before := hidle d (by simp)
    exact absurd hbegins (not_beginsClose_of_entries (by rw [hsame, List.append_nil]) (by simp))
  cases before with
  | nil =>
    cases (List.cons.inj hds).1
    exact absurd hbegins (not_beginsClose_of_entries (List.append_nil _).symm (by simp))
  | cons first before =>
    cases before with
    | nil =>
      cases (List.cons.inj (List.cons.inj hds).2).1
      exact absurd hbegins (not_beginsClose_of_entries rfl (by simp))
    | cons second before =>
      obtain ⟨rfl, -⟩ := List.cons.inj (List.cons.inj hds).2
      exact ⟨_, by simp, rfl, signals_trigger start k⟩

/-- What a shutdown adds to the journal. -/
def entries (start : Time) (timeout : Nat) (k : Coordinator) : List (Time × Event) :=
  if clockEnd ≤ start + timeout then []
  else shutdownJournal (start + timeout) (k.signalledAt.getD start) start k.drains k.releases

theorem journal_shutdown (k : Coordinator) (start : Time) (timeout : Nat) :
    ((shutdown timeout).run start k).2.1.journal = k.journal ++ k.entries start timeout := by
  rw [run_shutdown, entries]
  by_cases hbeyond : clockEnd ≤ start + timeout
  · rw [if_pos hbeyond, if_pos hbeyond, List.append_nil]
  · rw [if_neg hbeyond, if_neg hbeyond]
    exact journal_afterBoth k start k.drains k.releases

theorem phase_of_mem_drains {k : Coordinator} : ∀ r ∈ k.drains, r.phase = .drain :=
  fun _ hr ↦ of_decide_eq_true (List.mem_filter.mp hr).2

theorem phase_of_mem_releases {k : Coordinator} : ∀ r ∈ k.releases, r.phase = .release :=
  fun _ hr ↦ of_decide_eq_true (List.mem_filter.mp hr).2

/-- The order in which resources were registered makes no difference to a shutdown, but for the
order of the entries. -/
theorem run_shutdown_of_perm {k k' : Coordinator} (h : k'.resources.Perm k.resources)
    (hsignalled : k'.signalledAt = k.signalledAt) (start : Time) (timeout : Nat) :
    ((shutdown timeout).run start k').1 = ((shutdown timeout).run start k).1 ∧
      ((shutdown timeout).run start k').2.2 = ((shutdown timeout).run start k).2.2 ∧
      (k'.entries start timeout).Perm (k.entries start timeout) := by
  have hdrains : k'.drains.Perm k.drains := h.filter _
  have hreleases : k'.releases.Perm k.releases := h.filter _
  rw [run_shutdown, run_shutdown, entries, entries, hsignalled]
  by_cases hbeyond : clockEnd ≤ start + timeout
  · rw [if_pos hbeyond, if_pos hbeyond, if_pos hbeyond, if_pos hbeyond]
    exact ⟨rfl, rfl, .nil⟩
  · rw [if_neg hbeyond, if_neg hbeyond, if_neg hbeyond, if_neg hbeyond,
      shutdownResult_eq_of_perm hdrains hreleases]
    exact ⟨rfl, rfl, shutdownJournal_perm hdrains hreleases⟩

/-- The signal of a coordinator that is left alone: it is sent once, unless the clock cannot name
the deadline. -/
theorem signal_shutdown (k : Coordinator) (start : Time) (timeout : Nat) :
    ((shutdown timeout).run start k).2.1.signal =
      if clockEnd ≤ start + timeout then k.signal else k.signal.trigger := by
  have hafter : ((k.trigger start).afterBoth (start + timeout) (k.signalledAt.getD start) start
      k.drains k.releases).signal = k.signal.trigger := by
    unfold afterBoth
    split
    · rfl
    · rfl
  rw [run_shutdown]
  split
  · rfl
  · exact hafter

/-- The order of a shutdown. The signal is sent before any close begins, whatever others do in
between: all who have subscribed and are up to date get a message by it. The rest goes by what a
shutdown that is left alone adds to the journal. All drains begin when the shutdown does. A release
begins when all drains have ended, as they do by themselves, and all of them begin at one instant,
that of the last end; none does if some drain does not end by the deadline. The order in which
resources were registered makes no difference, but for the order of the entries. -/
theorem releases_follow_drains (k : Coordinator) (start : Time) (timeout : Nat) :
    let deadline := start + timeout
    let signalled := k.signalledAt.getD start
    let run := (shutdown timeout).run start k
    (∀ before d after result,
        (shutdown timeout).Proceeds start (before ++ d :: after) result → BeginsClose d →
          ∃ e ∈ before, e.instant = start ∧ Signals e) ∧
      run.2.1.signal = (if clockEnd ≤ deadline then k.signal else k.signal.trigger) ∧
      ∃ journal, run.2.1.journal = k.journal ++ journal ∧
      (∀ before t r after, journal = before ++ (t, .began r) :: after →
        (start, .signalled) ∈ before) ∧
      (∀ t r, (t, .began r) ∈ journal → r.phase = .drain → t = start) ∧
      (∀ before t r after, journal = before ++ (t, .began r) :: after → r.phase = .release →
        (endedIn .drain before).Perm k.drains ∧
          t = phaseEnd deadline signalled start k.drains) ∧
      (∀ t r ok, (t, .ended r ok) ∈ journal → r.phase = .drain →
        (r.close signalled start).endingBy deadline = some (t, ok)) ∧
      ((∃ r ∈ k.drains, (r.close signalled start).endingBy deadline = none) →
        begunIn .release journal = []) ∧
      (deadline < clockEnd → begunIn .drain journal = k.drains ∧
        ((∀ r ∈ k.drains, ((r.close signalled start).endingBy deadline).isSome) →
          begunIn .release journal = k.releases)) ∧
      ∀ k' : Coordinator, k'.resources.Perm k.resources → k'.signalledAt = k.signalledAt →
        let run' := (shutdown timeout).run start k'
        run'.1 = run.1 ∧ run'.2.2 = run.2.2 ∧
          ∃ journal', run'.2.1.journal = k'.journal ++ journal' ∧ journal'.Perm journal := by
  intro deadline signalled run
  refine ⟨fun before d after result ↦ exists_signals_before, signal_shutdown k start timeout,
    k.entries start timeout, journal_shutdown k start timeout, ?_⟩
  have hperm (k' : Coordinator) (h : k'.resources.Perm k.resources)
      (hsignalled : k'.signalledAt = k.signalledAt) :
      let run' := (shutdown timeout).run start k'
      run'.1 = run.1 ∧ run'.2.2 = run.2.2 ∧ ∃ journal',
        run'.2.1.journal = k'.journal ++ journal' ∧ journal'.Perm (k.entries start timeout) := by
    obtain ⟨hfinish, hresult, hentries⟩ := run_shutdown_of_perm h hsignalled start timeout
    exact ⟨hfinish, hresult, _, journal_shutdown k' start timeout, hentries⟩
  have hdrains := phase_of_mem_drains (k := k)
  have hreleases := phase_of_mem_releases (k := k)
  -- If the clock cannot name the deadline, the shutdown breaks down before it does anything.
  by_cases hbeyond : clockEnd ≤ deadline
  · have hnone : k.entries start timeout = [] := if_pos hbeyond
    rw [hnone] at hperm ⊢
    refine ⟨?_, nofun, ?_, nofun, fun _ ↦ rfl, fun hreach ↦ absurd hreach (Nat.not_lt.mpr hbeyond),
      hperm⟩
    · intro before t r after h
      simp at h
    · intro before t r after h
      simp at h
  have hsome : k.entries start timeout =
      shutdownJournal deadline signalled start k.drains k.releases := if_neg hbeyond
  rw [hsome] at hperm ⊢
  refine ⟨?_, ?_, ?_, ?_, ?_, ?_, hperm⟩
  · exact fun before t r after h ↦ signalled_before_begin h
  · exact fun t r h hphase ↦ drain_begins_at_start hreleases h hphase
  · exact fun before t r after h hphase ↦ endedIn_before_release hdrains hreleases h hphase
  · exact fun t r ok h hphase ↦ drain_ends_as_it_does hreleases h hphase
  · rintro ⟨r, hr, hnone⟩
    rw [begunIn_release_shutdownJournal hdrains hreleases, if_neg (not_allEnd hr hnone)]
  · intro _
    refine ⟨begunIn_drain_shutdownJournal hdrains hreleases, fun hall ↦ ?_⟩
    exact (begunIn_release_shutdownJournal hdrains hreleases).trans (if_pos hall)

end Coordinator

end RpcGateway.Shutdown
