import RpcGateway.Proofs.Shutdown.Durations

/-!
# What a shutdown reports as pending

What is pending is kept as a set of names, from which the name of each close that ends is taken out.
So a name is reported if resources of one phase have it and none of them has ended. A resource that
has not ended goes unreported if another of its phase and its name has; no resource does if names
are not shared. A shutdown that reports nothing has closed everything without an error.
-/

namespace RpcGateway.Shutdown

variable {deadline signalled start t : Time} {r : Resource} {rs drains releases : List Resource}
  {pending : List String} {name : String} {cs : List Close} {ok : Bool}

/-- Whether the close of a resource has ended by what a journal says. -/
def EndedBy (journal : List (Time × Event)) (r : Resource) : Prop :=
  ∃ t ok, (t, .ended r ok) ∈ journal

theorem mem_leftOf : name ∈ leftOf deadline pending cs ↔
    name ∈ pending ∧ ∀ c ∈ cs, (c.endingBy deadline).isSome → c.resource.name ≠ name := by
  unfold leftOf
  rw [List.mem_filter, decide_eq_true_eq]
  simp only [ne_comm]

theorem mem_nameSet : name ∈ nameSet rs ↔ ∃ r ∈ rs, r.name = name := by
  unfold nameSet
  rw [(perm_namesSorted _).mem_iff, List.mem_eraseDups, List.mem_map]

theorem mem_phasePending : name ∈ phasePending deadline signalled start rs ↔
    (∃ r ∈ rs, r.name = name) ∧
      ∀ r ∈ rs, ((r.close signalled start).endingBy deadline).isSome → r.name ≠ name := by
  unfold phasePending
  rw [mem_leftOf, mem_nameSet]
  simp only [(perm_closes signalled start rs).mem_iff, List.forall_mem_map]
  rfl

theorem endedBy_phaseJournal : EndedBy (phaseJournal deadline signalled start rs) r ↔
    r ∈ rs ∧ ((r.close signalled start).endingBy deadline).isSome := by
  unfold EndedBy
  simp only [ended_mem_phaseJournal, exists_and_left, Option.isSome_iff_exists, Prod.exists]

theorem ended_mem_shutdownJournal :
    (t, .ended r ok) ∈ shutdownJournal deadline signalled start drains releases ↔
      (t, .ended r ok) ∈ phaseJournal deadline signalled start drains ∨
        AllEnd deadline signalled start drains ∧
          (t, .ended r ok) ∈ phaseJournal deadline signalled
            (phaseEnd deadline signalled start drains) releases := by
  unfold shutdownJournal
  rw [List.mem_append, List.mem_cons]
  by_cases hall : AllEnd deadline signalled start drains
  · simp [hall]
  · simp [hall]

theorem endedBy_shutdownJournal :
    EndedBy (shutdownJournal deadline signalled start drains releases) r ↔
      EndedBy (phaseJournal deadline signalled start drains) r ∨
        AllEnd deadline signalled start drains ∧
          EndedBy (phaseJournal deadline signalled (phaseEnd deadline signalled start drains)
            releases) r := by
  unfold EndedBy
  simp only [ended_mem_shutdownJournal, exists_or, exists_and_left]

/-- An end that is written down comes by the deadline, and is as the close says. -/
theorem of_ended_mem_shutdownJournal
    (h : (t, .ended r ok) ∈ shutdownJournal deadline signalled start drains releases) :
    t ≤ deadline ∧ ok = !r.fails := by
  have hends {mid : Time} (he : (r.close signalled mid).endingBy deadline = some (t, ok)) :
      t ≤ deadline ∧ ok = !r.fails :=
    ⟨Close.le_of_endingBy he, Resource.ending_snd (Close.endingBy_eq_some_iff.mp he).1⟩
  obtain h | ⟨-, h⟩ := ended_mem_shutdownJournal.mp h
  · exact hends (ended_mem_phaseJournal.mp h).2
  · exact hends (ended_mem_phaseJournal.mp h).2

/-- What is reported if the deadline has come, by the phase that was under way. -/
theorem pending_cases
    (h : (shutdownResult deadline signalled start drains releases).2 =
      .error (.deadlineExceeded pending)) :
    (¬ AllEnd deadline signalled start drains ∧
        pending = namesSorted (phasePending deadline signalled start drains ++
          releases.map Resource.name)) ∨
      (AllEnd deadline signalled start drains ∧
        pending =
          phasePending deadline signalled (phaseEnd deadline signalled start drains) releases) := by
  unfold shutdownResult at h
  by_cases hdrains : AllEnd deadline signalled start drains
  · rw [if_pos hdrains] at h
    unfold releaseResult at h
    by_cases hreleases :
        AllEnd deadline signalled (phaseEnd deadline signalled start drains) releases
    · rw [if_pos hreleases] at h
      dsimp only at h
      split at h <;> cases h
    · rw [if_neg hreleases] at h
      cases h
      exact .inr ⟨hdrains, rfl⟩
  · rw [if_neg hdrains] at h
    cases h
    exact .inl ⟨hdrains, rfl⟩

/-- If all is well, all has ended, and nothing has failed. -/
theorem shutdownResult_eq_ok
    (h : (shutdownResult deadline signalled start drains releases).2 = .ok ()) :
    AllEnd deadline signalled start drains ∧
      AllEnd deadline signalled (phaseEnd deadline signalled start drains) releases ∧
      ∀ r ∈ drains ++ releases, r.fails = false := by
  unfold shutdownResult at h
  by_cases hdrains : AllEnd deadline signalled start drains
  · rw [if_pos hdrains] at h
    unfold releaseResult at h
    by_cases hreleases :
        AllEnd deadline signalled (phaseEnd deadline signalled start drains) releases
    · rw [if_pos hreleases] at h
      dsimp only at h
      split at h
      · rename_i hnone
        have hfailed := (phaseFailures_perm hdrains).append (phaseFailures_perm hreleases)
        rw [List.isEmpty_iff.mp hnone, ← List.map_append, ← List.filter_append] at hfailed
        have hfilter := List.map_eq_nil_iff.mp hfailed.nil_eq.symm
        refine ⟨hdrains, hreleases, fun r hr ↦ ?_⟩
        exact Bool.eq_false_of_not_eq_true (List.filter_eq_nil_iff.mp hfilter r hr)
      · cases h
    · rw [if_neg hreleases] at h
      cases h
  · rw [if_neg hdrains] at h
    cases h

/-! ## Names that are left -/

variable {journal : List (Time × Event)}

/-- Whether some of the resources have a name and none of these has ended. -/
def LeftIn (journal : List (Time × Event)) (rs : List Resource) (name : String) : Prop :=
  (∃ r ∈ rs, r.name = name) ∧ ∀ r ∈ rs, r.name = name → ¬ EndedBy journal r

theorem leftIn_iff_mem_phasePending
    (h : ∀ r ∈ rs, EndedBy journal r ↔ ((r.close signalled start).endingBy deadline).isSome) :
    LeftIn journal rs name ↔ name ∈ phasePending deadline signalled start rs := by
  rw [LeftIn, mem_phasePending]
  apply and_congr_right
  intro _
  apply forall₂_congr
  intro r hr
  rw [h r hr]
  exact imp_not_comm

theorem leftIn_iff_of_none (h : ∀ r ∈ rs, ¬ EndedBy journal r) :
    LeftIn journal rs name ↔ ∃ r ∈ rs, r.name = name :=
  and_iff_left fun r hr _ ↦ h r hr

theorem not_leftIn_of_all (h : ∀ r ∈ rs, EndedBy journal r) : ¬ LeftIn journal rs name := by
  rintro ⟨⟨r, hr, hname⟩, hnone⟩
  exact hnone r hr hname (h r hr)

theorem exists_endedBy_of_not_leftIn (hr : r ∈ rs) (h : ¬ LeftIn journal rs r.name) :
    ∃ r' ∈ rs, r'.name = r.name ∧ EndedBy journal r' := by
  by_contra hnone
  refine h ⟨⟨r, hr, rfl⟩, fun r' hr' hname hended ↦ hnone ⟨r', hr', hname, hended⟩⟩

section

variable (hdrains : ∀ r ∈ drains, r.phase = .drain) (hreleases : ∀ r ∈ releases, r.phase = .release)

include hreleases in
theorem endedBy_of_drain (hr : r.phase = .drain) :
    EndedBy (shutdownJournal deadline signalled start drains releases) r ↔
      r ∈ drains ∧ ((r.close signalled start).endingBy deadline).isSome := by
  rw [endedBy_shutdownJournal, endedBy_phaseJournal, endedBy_phaseJournal]
  apply or_iff_left
  rintro ⟨-, hmem, -⟩
  exact absurd (hr.symm.trans (hreleases r hmem)) nofun

include hdrains in
theorem endedBy_of_release (hr : r.phase = .release) :
    EndedBy (shutdownJournal deadline signalled start drains releases) r ↔
      AllEnd deadline signalled start drains ∧ r ∈ releases ∧
        ((r.close signalled (phaseEnd deadline signalled start drains)).endingBy
          deadline).isSome := by
  rw [endedBy_shutdownJournal, endedBy_phaseJournal, endedBy_phaseJournal]
  apply or_iff_right
  rintro ⟨hmem, -⟩
  exact absurd (hr.symm.trans (hdrains r hmem)) nofun

include hdrains hreleases in
/-- A name is reported if it is left in one of the phases. -/
theorem mem_pending_iff
    (h : (shutdownResult deadline signalled start drains releases).2 =
      .error (.deadlineExceeded pending)) :
    let journal := shutdownJournal deadline signalled start drains releases
    name ∈ pending ↔ LeftIn journal drains name ∨ LeftIn journal releases name := by
  intro journal
  have hdrain (r : Resource) (hr : r ∈ drains) : EndedBy journal r ↔
      ((r.close signalled start).endingBy deadline).isSome :=
    (endedBy_of_drain hreleases (hdrains r hr)).trans (and_iff_right hr)
  obtain ⟨hlate, rfl⟩ | ⟨hall, rfl⟩ := pending_cases h
  · have hnone (r : Resource) (hr : r ∈ releases) : ¬ EndedBy journal r := by
      rw [endedBy_of_release hdrains (hreleases r hr)]
      exact fun hended ↦ hlate hended.1
    rw [(perm_namesSorted _).mem_iff, List.mem_append, List.mem_map,
      leftIn_iff_mem_phasePending hdrain, leftIn_iff_of_none hnone]
  · have hrelease (r : Resource) (hr : r ∈ releases) : EndedBy journal r ↔
        ((r.close signalled (phaseEnd deadline signalled start drains)).endingBy
          deadline).isSome := by
      rw [endedBy_of_release hdrains (hreleases r hr), and_iff_right hall, and_iff_right hr]
    have hover : ¬ LeftIn _ drains name :=
      not_leftIn_of_all fun r hr ↦ (hdrain r hr).mpr (hall r hr)
    rw [or_iff_right hover, leftIn_iff_mem_phasePending hrelease]

end

namespace Coordinator

variable {k : Coordinator}

theorem mem_resources_iff : r ∈ k.resources ↔ r ∈ k.drains ∨ r ∈ k.releases := by
  rw [← (drains_append_releases_perm k).mem_iff, List.mem_append]

theorem result_shutdown {timeout : Nat} {result : Except ShutdownError Unit}
    (h : ((shutdown timeout).run start k).2.2 = .done result) :
    (shutdownResult (start + timeout) (k.signalledAt.getD start) start k.drains k.releases).2 =
        result ∧
      k.entries start timeout =
        shutdownJournal (start + timeout) (k.signalledAt.getD start) start k.drains k.releases := by
  rw [run_shutdown] at h
  by_cases hbeyond : clockEnd ≤ start + timeout
  · rw [if_pos hbeyond] at h
    cases h
  · rw [if_neg hbeyond] at h
    exact ⟨Outcome.done.inj h, if_neg hbeyond⟩

/-- By what a shutdown adds to the journal: if it has come to its deadline, a name is reported just
if some resources of one phase have it and none of these has ended. So a resource that is not named
has ended, or another one of its phase has that has the same name. If a shutdown says that all is
well, then each close has ended by the deadline, and none with an error. -/
theorem unended_is_named_unless_namesake_ended (k : Coordinator) (start : Time) (timeout : Nat) :
    let run := (shutdown timeout).run start k
    ∃ journal, run.2.1.journal = k.journal ++ journal ∧
      (∀ pending, run.2.2 = .done (.error (.deadlineExceeded pending)) →
        (∀ name, name ∈ pending ↔ LeftIn journal k.drains name ∨ LeftIn journal k.releases name) ∧
        ∀ r ∈ k.resources, r.name ∉ pending →
          ∃ r' ∈ k.resources, r'.phase = r.phase ∧ r'.name = r.name ∧ EndedBy journal r') ∧
      (run.2.2 = .done (.ok ()) → ∀ r ∈ k.resources,
        (∃ t ≤ start + timeout, (t, .ended r true) ∈ journal) ∧
          ∀ t, (t, .ended r false) ∉ journal) := by
  intro run
  have hdrains := phase_of_mem_drains (k := k)
  have hreleases := phase_of_mem_releases (k := k)
  refine ⟨k.entries start timeout, journal_shutdown k start timeout, fun pending h ↦ ?_, fun h ↦ ?_⟩
  · obtain ⟨hresult, hentries⟩ := result_shutdown h
    rw [hentries]
    have hiff (name : String) : name ∈ pending ↔
        LeftIn _ k.drains name ∨ LeftIn _ k.releases name :=
      mem_pending_iff hdrains hreleases hresult
    refine ⟨hiff, fun r hr hunnamed ↦ ?_⟩
    rw [hiff, not_or] at hunnamed
    obtain hr | hr := mem_resources_iff.mp hr
    · obtain ⟨r', hr', hname, hended⟩ := exists_endedBy_of_not_leftIn hr hunnamed.1
      have hphase : r'.phase = r.phase := (hdrains r' hr').trans (hdrains r hr).symm
      exact ⟨r', mem_resources_iff.mpr (.inl hr'), hphase, hname, hended⟩
    · obtain ⟨r', hr', hname, hended⟩ := exists_endedBy_of_not_leftIn hr hunnamed.2
      have hphase : r'.phase = r.phase := (hreleases r' hr').trans (hreleases r hr).symm
      exact ⟨r', mem_resources_iff.mpr (.inr hr'), hphase, hname, hended⟩
  · obtain ⟨hresult, hentries⟩ := result_shutdown h
    rw [hentries]
    obtain ⟨hallDrains, hallReleases, hwell⟩ := shutdownResult_eq_ok hresult
    intro r hr
    have hfails : r.fails = false :=
      hwell r (List.mem_append.mpr (mem_resources_iff.mp hr))
    have hended : EndedBy (shutdownJournal (start + timeout) (k.signalledAt.getD start) start
        k.drains k.releases) r := by
      obtain hr | hr := mem_resources_iff.mp hr
      · exact (endedBy_of_drain hreleases (hdrains r hr)).mpr ⟨hr, hallDrains r hr⟩
      · exact (endedBy_of_release hdrains (hreleases r hr)).mpr ⟨hallDrains, hr, hallReleases r hr⟩
    obtain ⟨t, ok, hmem⟩ := hended
    obtain ⟨hle, hok⟩ := of_ended_mem_shutdownJournal hmem
    rw [hfails, Bool.not_false] at hok
    refine ⟨⟨t, hle, hok ▸ hmem⟩, fun t' hmem' ↦ ?_⟩
    have hfailed := (of_ended_mem_shutdownJournal hmem').2
    rw [hfails] at hfailed
    cases hfailed

/-- A resource whose close has not ended can go unreported: another one of its name is closed at
once, and takes the name away. -/
theorem unended_unnamed_beside_namesake :
    ¬ ∀ (k : Coordinator) (start : Time) (timeout : Nat) (pending : List String),
      let run := (shutdown timeout).run start k
      run.2.2 = .done (.error (.deadlineExceeded pending)) →
        ∀ r ∈ k.resources, ¬ EndedBy run.2.1.journal r → r.name ∈ pending := by
  intro h
  let quick : Resource := ⟨"a", .plain .release (.lasting 0 true)⟩
  let endless : Resource := ⟨"a", .plain .release .endless⟩
  let k : Coordinator := { resources := [quick, endless] }
  have hresult : ((shutdown 100).run 0 k).2.2 = .done (.error (.deadlineExceeded [])) := by cbv
  have hjournal : ((shutdown 100).run 0 k).2.1.journal =
      [(0, .signalled), (0, .began quick), (0, .began endless), (0, .ended quick true)] := by cbv
  have hunended : ¬ EndedBy ((shutdown 100).run 0 k).2.1.journal endless := by
    rw [hjournal]
    simp [EndedBy, quick, endless]
  have hnamed := h k 0 100 [] hresult endless (by decide) hunended
  cases hnamed

end Coordinator

end RpcGateway.Shutdown
