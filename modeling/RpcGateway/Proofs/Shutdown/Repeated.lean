import RpcGateway.Proofs.Shutdown.Durations

/-!
# Shutdowns one after the other

A shutdown takes over the tasks of the servers, and waits for their ends as long as it may. One that
gives up on a task has taken it over all the same, so that no later shutdown waits for that task
again. Releases therefore never begin while the task of a server runs, unless an earlier shutdown
has given up on it; and after one has, a later one releases everything at once, if there are only
servers to be drained.
-/

namespace RpcGateway.Shutdown

variable {deadline signalled start now mid t t' : Time} {timeout : Nat} {r s : Resource}
  {drains releases : List Resource} {k : Coordinator} {task : Closing} {e : Time × Bool}

namespace Resource

/-- Whether the task of a server still runs at an instant after the signal. -/
def RunsAt (signalled t : Time) (r : Resource) : Prop :=
  match r.kind with
  | .server (.lasting ms _) _ => t < signalled + ms
  | .server .endless _ => True
  | .plain _ _ => False

theorem RunsAt.mono (h : r.RunsAt signalled t') (hle : t ≤ t') : r.RunsAt signalled t := by
  match r, h with
  | ⟨_, .server (.lasting _ _) _⟩, h => exact Nat.lt_of_le_of_lt hle h
  | ⟨_, .server .endless _⟩, h => exact h

/-- A server that has not been taken over ends with its task. -/
theorem not_runsAt_of_ending (hkind : r.kind = .server task false)
    (h : r.ending signalled start = some e) : ¬ r.RunsAt signalled e.1 := by
  match r, hkind, h with
  | ⟨_, .server (.lasting ms ok) false⟩, _, h =>
    cases h
    exact Nat.not_lt.mpr (Nat.le_max_right start (signalled + ms))
  | ⟨_, .server .endless false⟩, _, h => cases h

@[simp]
theorem phase_afterClose (r : Resource) : r.afterClose.phase = r.phase := by
  obtain ⟨name, kind⟩ := r
  cases kind <;> rfl

@[simp]
theorem afterClose_afterClose (r : Resource) : r.afterClose.afterClose = r.afterClose := by
  obtain ⟨name, kind⟩ := r
  cases kind <;> rfl

/-- Only what drains is changed by a close. -/
theorem afterClose_of_release (h : r.phase = .release) : r.afterClose = r := by
  obtain ⟨name, kind⟩ := r
  cases kind with
  | plain phase closing => rfl
  | server task taken => cases h

def isServer (r : Resource) : Bool :=
  match r.kind with
  | .server _ _ => true
  | .plain _ _ => false

theorem afterClose_of_not_server (h : r.isServer = false) : r.afterClose = r := by
  obtain ⟨name, kind⟩ := r
  cases kind with
  | plain phase closing => rfl
  | server task taken => cases h

/-- There is nothing to wait for in a server that has been taken over. -/
theorem endingBy_afterClose_of_server (h : r.isServer) (hdue : start ≤ deadline) :
    (r.afterClose.close signalled start).endingBy deadline = some (start, true) := by
  obtain ⟨name, kind⟩ := r
  cases kind with
  | plain phase closing => cases h
  | server task taken =>
    apply Close.endingBy_eq_some_iff.mpr
    exact ⟨rfl, Nat.mul_le_mul_left 2 hdue⟩

end Resource

theorem phaseEnd_nil : phaseEnd deadline signalled start [] = start := by
  simp [phaseEnd, closes, lastEnd]

/-! ## What a shutdown leaves

A server that has been taken over ends when its close begins, so that a phase goes as if the server
were not there.
-/

/-- An end that a shutdown has seen is not after the shutdown. -/
theorem le_shutdownResult (hr : r ∈ drains)
    (h : (r.close signalled start).endingBy deadline = some e) :
    e.1 ≤ (shutdownResult deadline signalled start drains releases).1 := by
  unfold shutdownResult
  by_cases hdrains : AllEnd deadline signalled start drains
  · rw [if_pos hdrains]
    have hmid : phaseEnd deadline signalled start drains ≤ deadline :=
      lastEnd_le (Nat.le_trans (Resource.le_of_ending (Close.endingBy_eq_some_iff.mp h).1)
        (Close.le_of_endingBy h)) _
    apply Nat.le_trans ((phaseEnd_le_iff.mp (Nat.le_refl _)).2 r hr e h)
    unfold releaseResult
    split
    · exact (phaseEnd_le_iff.mp (Nat.le_refl _)).1
    · exact hmid
  · rw [if_neg hdrains]
    exact Close.le_of_endingBy h

/-- When a release begins, and whether it does. -/
theorem began_release_iff (hdrains : ∀ r ∈ drains, r.phase = .drain)
    (hreleases : ∀ r ∈ releases, r.phase = .release) (hphase : r.phase = .release) :
    (t, .began r) ∈ shutdownJournal deadline signalled start drains releases ↔
      r ∈ releases ∧ AllEnd deadline signalled start drains ∧
        t = phaseEnd deadline signalled start drains := by
  constructor
  · intro h
    obtain ⟨hall, hmid⟩ := release_begins_after_drains hdrains h hphase
    have hbegun : r ∈ begunIn .release _ := mem_begunIn.mpr ⟨hphase, t, h⟩
    rw [begunIn_release_shutdownJournal hdrains hreleases, if_pos hall] at hbegun
    exact ⟨hbegun, hall, hmid⟩
  · rintro ⟨hr, hall, rfl⟩
    rw [shutdownJournal, if_pos hall]
    exact List.mem_append_right _ (began_mem_phaseJournal.mpr ⟨rfl, hr⟩)

theorem forall_mem_map_afterClose {p : Option (Time × Bool) → Prop} (hdue : start ≤ deadline)
    (hp : p (some (start, true))) :
    (∀ r ∈ drains.map Resource.afterClose, p ((r.close signalled start).endingBy deadline)) ↔
      ∀ r ∈ drains.filter fun r ↦ !r.isServer, p ((r.close signalled start).endingBy deadline) := by
  rw [List.forall_mem_map]
  simp only [List.mem_filter, and_imp]
  apply forall₂_congr
  intro r _
  cases hserver : r.isServer with
  | true =>
    rw [Resource.endingBy_afterClose_of_server hserver hdue]
    exact iff_of_true hp nofun
  | false =>
    rw [Resource.afterClose_of_not_server hserver]
    simp

theorem allEnd_map_afterClose (hdue : start ≤ deadline) :
    AllEnd deadline signalled start (drains.map Resource.afterClose) ↔
      AllEnd deadline signalled start (drains.filter fun r ↦ !r.isServer) :=
  forall_mem_map_afterClose (p := fun e ↦ e.isSome) hdue rfl

theorem phaseEnd_map_afterClose (hdue : start ≤ deadline) :
    phaseEnd deadline signalled start (drains.map Resource.afterClose) =
      phaseEnd deadline signalled start (drains.filter fun r ↦ !r.isServer) := by
  apply eq_of_forall_ge_iff
  intro u
  rw [phaseEnd_le_iff, phaseEnd_le_iff]
  apply and_congr_right
  intro hu
  apply forall_mem_map_afterClose (p := fun ending ↦ ∀ e, ending = some e → e.1 ≤ u) hdue
  rintro e ⟨⟩
  exact hu

namespace Coordinator

/-- What drains besides the servers. -/
def jobs (k : Coordinator) : List Resource := k.drains.filter fun r ↦ !r.isServer

theorem resources_begin_drains (k : Coordinator) (now : Time) :
    (k.begin k.drains now).resources = k.resources.map Resource.afterClose := by
  apply List.map_congr_left
  intro r hr
  by_cases hphase : r.phase = .drain
  · exact if_pos (List.mem_filter.mpr ⟨hr, decide_eq_true hphase⟩)
  · have hrelease : r.phase = .release := by
      cases h : r.phase with
      | drain => exact absurd h hphase
      | release => rfl
    rw [Resource.afterClose_of_release hrelease, ite_self]

theorem resources_begin_releases {rs : List Resource} (h : ∀ r ∈ rs, r.phase = .release)
    (now : Time) : (k.begin rs now).resources = k.resources := by
  calc
    _ = k.resources.map id := by
      apply List.map_congr_left
      intro r _
      by_cases hr : r ∈ rs
      · rw [if_pos hr, Resource.afterClose_of_release (h r hr), id]
      · exact if_neg hr
    _ = k.resources := List.map_id _

/-- A shutdown that begins takes over all servers. -/
theorem resources_shutdown (hclock : now + timeout < clockEnd) :
    ((shutdown timeout).run now k).2.1.resources = k.resources.map Resource.afterClose := by
  rw [run_shutdown, if_neg (Nat.not_le.mpr hclock)]
  have hdrained : ((k.trigger now).after (now + timeout) (k.signalledAt.getD now) now
      k.drains).resources = k.resources.map Resource.afterClose :=
    resources_begin_drains (k.trigger now) now
  dsimp only [afterBoth]
  split
  · have hreleases := phase_of_mem_releases (k := k)
    apply Eq.trans _ hdrained
    apply resources_begin_releases hreleases
    exact phaseEnd (now + timeout) (k.signalledAt.getD now) now k.drains
  · exact hdrained

theorem signalledAt_shutdown (hclock : now + timeout < clockEnd) :
    ((shutdown timeout).run now k).2.1.signalledAt = some (k.signalledAt.getD now) := by
  rw [run_shutdown, if_neg (Nat.not_le.mpr hclock)]
  dsimp only [afterBoth]
  split <;> rfl

end Coordinator

/-! ## Histories -/

/-- What happens to a coordinator: time passes, or it is shut down. -/
inductive Step where
  | pause (ms : Nat)
  | shutdown (timeout : Nat)

/-- A coordinator at an instant. -/
structure Moment where
  now : Time
  coordinator : Coordinator

namespace Moment

def step (m : Moment) : Step → Moment
  | .pause ms => { m with now := m.now + ms }
  | .shutdown timeout =>
    let run := (Coordinator.shutdown timeout).run m.now m.coordinator
    ⟨run.1, run.2.1⟩

def run (m : Moment) (steps : List Step) : Moment := steps.foldl step m

/-- When the signal to stop goes out, if it has not already. -/
def sent (m : Moment) : Time := m.coordinator.signalledAt.getD m.now

variable {m : Moment} {steps : List Step}

theorem step_shutdown (m : Moment) (timeout : Nat) : m.step (.shutdown timeout) =
    ⟨((Coordinator.shutdown timeout).run m.now m.coordinator).1,
      ((Coordinator.shutdown timeout).run m.now m.coordinator).2.1⟩ :=
  rfl

theorem step_shutdown_of_beyond (hbeyond : clockEnd ≤ m.now + timeout) :
    m.step (.shutdown timeout) = m := by
  rw [step_shutdown, Coordinator.run_shutdown, if_pos hbeyond]

/-- A shutdown is not over before any end that it waits for. -/
theorem le_now_step (hclock : m.now + timeout < clockEnd) (hs : s ∈ m.coordinator.drains)
    (h : (s.close m.sent m.now).endingBy (m.now + timeout) = some e) :
    e.1 ≤ (m.step (.shutdown timeout)).now := by
  rw [step_shutdown, Coordinator.run_shutdown, if_neg (Nat.not_le.mpr hclock)]
  exact le_shutdownResult hs h

/-- A shutdown gives up at its deadline. -/
theorem now_step_of_left (hclock : m.now + timeout < clockEnd) (hs : s ∈ m.coordinator.drains)
    (h : (s.close m.sent m.now).endingBy (m.now + timeout) = none) :
    (m.step (.shutdown timeout)).now = m.now + timeout := by
  rw [step_shutdown, Coordinator.run_shutdown, if_neg (Nat.not_le.mpr hclock)]
  exact congrArg Prod.fst (if_neg (not_allEnd hs h))

theorem run_append (m : Moment) (before after : List Step) :
    m.run (before ++ after) = (m.run before).run after :=
  List.foldl_append

theorem run_concat (m : Moment) (steps : List Step) (step : Step) :
    m.run (steps ++ [step]) = (m.run steps).step step :=
  m.run_append steps [step]

/-- Whether some shutdown of a history has begun, and left the task of a server running when its
deadline came. -/
def GaveUp (m : Moment) (steps : List Step) (s : Resource) : Prop :=
  ∃ before timeout after, steps = before ++ .shutdown timeout :: after ∧
    let m' := m.run before
    s ∈ m'.coordinator.resources ∧ m'.now + timeout < clockEnd ∧
      (s.close m'.sent m'.now).endingBy (m'.now + timeout) = none

theorem GaveUp.concat (h : m.GaveUp steps s) (step : Step) : m.GaveUp (steps ++ [step]) s := by
  obtain ⟨before, timeout, after, rfl, hgave⟩ := h
  exact ⟨before, timeout, after ++ [step], List.append_assoc .., hgave⟩

/-! ### Servers whose tasks still run -/

theorem mem_drains_of_server (hmem : s ∈ k.resources) (hkind : s.kind = .server task false) :
    s ∈ k.drains := by
  have hphase : s.phase = .drain := by
    rw [Resource.phase, hkind]
  exact List.mem_filter.mpr ⟨hmem, decide_eq_true hphase⟩

/-- How a server stands that has not been taken over at the beginning: it has not been yet, or its
task has ended, or some shutdown has given up on it. -/
inductive Stands (m : Moment) (steps : List Step) (s : Resource) : Prop where
  | untaken (mem : s ∈ (m.run steps).coordinator.resources)
  | ended {signalled : Time} (sent : (m.run steps).coordinator.signalledAt = some signalled)
      (past : ¬ s.RunsAt signalled (m.run steps).now)
  | givenUp (gave : m.GaveUp steps s)

theorem Stands.pause (h : m.Stands steps s) (ms : Nat) : m.Stands (steps ++ [.pause ms]) s := by
  have hrun : m.run (steps ++ [.pause ms]) = { m.run steps with now := (m.run steps).now + ms } :=
    m.run_concat steps (.pause ms)
  cases h with
  | untaken mem =>
    apply Stands.untaken
    rwa [hrun]
  | ended sent past =>
    apply Stands.ended
    · rwa [hrun]
    · rw [hrun]
      exact fun hruns ↦ past (hruns.mono (Nat.le_add_right _ ms))
  | givenUp gave => exact .givenUp (gave.concat _)

/-- A shutdown takes a server over, and waits for the end of its task or gives up on it. -/
theorem Stands.shutdown (hkind : s.kind = .server task false) (h : m.Stands steps s)
    (timeout : Nat) : m.Stands (steps ++ [.shutdown timeout]) s := by
  have hrun : m.run (steps ++ [.shutdown timeout]) = (m.run steps).step (.shutdown timeout) :=
    m.run_concat steps (.shutdown timeout)
  -- A shutdown whose deadline the clock cannot name takes nothing over.
  by_cases hbeyond : clockEnd ≤ (m.run steps).now + timeout
  · rw [step_shutdown_of_beyond hbeyond] at hrun
    cases h with
    | untaken mem => exact .untaken (by rwa [hrun])
    | ended sent past => exact .ended (by rwa [hrun]) (by rwa [hrun])
    | givenUp gave => exact .givenUp (gave.concat _)
  have hclock : (m.run steps).now + timeout < clockEnd := Nat.not_le.mp hbeyond
  have hsent : ((m.run steps).step (.shutdown timeout)).coordinator.signalledAt =
      some (m.run steps).sent := Coordinator.signalledAt_shutdown hclock
  cases h with
  | untaken mem =>
    cases hending : (s.close (m.run steps).sent (m.run steps).now).endingBy
        ((m.run steps).now + timeout) with
    | none => exact .givenUp ⟨steps, timeout, [], rfl, mem, hclock, hending⟩
    | some e =>
      have hover : ¬ s.RunsAt (m.run steps).sent e.1 :=
        Resource.not_runsAt_of_ending hkind (Close.endingBy_eq_some_iff.mp hending).1
      have hle : e.1 ≤ ((m.run steps).step (.shutdown timeout)).now :=
        le_now_step hclock (mem_drains_of_server mem hkind) hending
      rw [← hrun] at hsent hle
      exact .ended hsent fun hruns ↦ hover (hruns.mono hle)
  | @ended signalled sent past =>
    have hsame : (m.run steps).sent = signalled := by
      unfold Moment.sent
      rw [sent, Option.getD_some]
    have hle : (m.run steps).now ≤ ((m.run steps).step (.shutdown timeout)).now :=
      Activity.le_run ..
    rw [← hrun, hsame] at hsent
    rw [← hrun] at hle
    exact .ended hsent fun hruns ↦ past (hruns.mono hle)
  | givenUp gave => exact .givenUp (gave.concat _)

theorem stands_run (hmem : s ∈ m.coordinator.resources) (hkind : s.kind = .server task false)
    (steps : List Step) : m.Stands steps s := by
  induction steps using List.reverseRecOn with
  | nil => exact .untaken hmem
  | append_singleton steps step ih =>
    cases step with
    | pause ms => exact ih.pause ms
    | shutdown timeout => exact ih.shutdown hkind timeout

/-- If a release begins while the task of a server runs, that server has been given up on. -/
theorem gaveUp_of_began (hmem : s ∈ m.coordinator.resources) (hkind : s.kind = .server task false)
    (hbegan : (t, .began r) ∈ (m.run steps).coordinator.entries (m.run steps).now timeout)
    (hphase : r.phase = .release) (hruns : s.RunsAt (m.run steps).sent t) :
    m.GaveUp steps s := by
  have hclock : ¬ clockEnd ≤ (m.run steps).now + timeout := by
    intro hbeyond
    rw [Coordinator.entries, if_pos hbeyond] at hbegan
    cases hbegan
  rw [Coordinator.entries, if_neg hclock] at hbegan
  obtain ⟨hall, hmid⟩ :=
    release_begins_after_drains Coordinator.phase_of_mem_drains hbegan hphase
  have hlate := phaseEnd_le_iff.mp hmid.ge
  cases stands_run hmem hkind steps with
  | untaken mem =>
    have hdrain : s ∈ (m.run steps).coordinator.drains := mem_drains_of_server mem hkind
    obtain ⟨e, he⟩ := Option.isSome_iff_exists.mp (hall s hdrain)
    have hover : ¬ s.RunsAt (m.run steps).sent e.1 :=
      Resource.not_runsAt_of_ending hkind (Close.endingBy_eq_some_iff.mp he).1
    exact absurd (hruns.mono (hlate.2 s hdrain e he)) hover
  | ended sent past =>
    unfold Moment.sent at hruns
    rw [sent, Option.getD_some] at hruns
    exact absurd (hruns.mono hlate.1) past
  | givenUp gave => exact gave

/-! ### Servers that have been taken over -/

theorem map_afterClose_map (rs : List Resource) :
    (rs.map Resource.afterClose).map Resource.afterClose = rs.map Resource.afterClose := by
  rw [List.map_map]
  exact List.map_congr_left fun r _ ↦ r.afterClose_afterClose

/-- Closes change resources only by taking servers over, at once or never. -/
theorem resources_step (m : Moment) (step : Step) :
    (m.step step).coordinator.resources = m.coordinator.resources ∨
      (m.step step).coordinator.resources = m.coordinator.resources.map Resource.afterClose := by
  cases step with
  | pause ms => exact .inl rfl
  | shutdown timeout =>
    by_cases hbeyond : clockEnd ≤ m.now + timeout
    · rw [step_shutdown_of_beyond hbeyond]
      exact .inl rfl
    · exact .inr (Coordinator.resources_shutdown (Nat.not_le.mp hbeyond))

theorem resources_run (m : Moment) (steps : List Step) :
    (m.run steps).coordinator.resources = m.coordinator.resources ∨
      (m.run steps).coordinator.resources = m.coordinator.resources.map Resource.afterClose := by
  induction steps using List.reverseRecOn with
  | nil => exact .inl rfl
  | append_singleton steps step ih =>
    rw [run_concat]
    cases resources_step (m.run steps) step with
    | inl hsame => rwa [hsame]
    | inr hafter =>
      rw [hafter]
      cases ih with
      | inl hsame => exact .inr (congrArg _ hsame)
      | inr htaken =>
        rw [htaken, map_afterClose_map]
        exact .inr rfl

/-- Once a shutdown has given up, all servers are taken over. -/
theorem GaveUp.resources_run (h : m.GaveUp steps s) :
    (m.run steps).coordinator.resources = m.coordinator.resources.map Resource.afterClose := by
  obtain ⟨before, timeout, after, rfl, -, hclock, -⟩ := h
  have hafter : ((m.run before).step (.shutdown timeout)).coordinator.resources =
      m.coordinator.resources.map Resource.afterClose := by
    rw [step_shutdown]
    apply (Coordinator.resources_shutdown hclock).trans
    cases m.resources_run before with
    | inl hsame => rw [hsame]
    | inr htaken => rw [htaken, map_afterClose_map]
  have hrun : m.run (before ++ .shutdown timeout :: after) =
      ((m.run before).step (.shutdown timeout)).run after :=
    m.run_append before (.shutdown timeout :: after)
  rw [hrun]
  cases Moment.resources_run ((m.run before).step (.shutdown timeout)) after with
  | inl hsame => rw [hsame, hafter]
  | inr htaken => rw [htaken, hafter, map_afterClose_map]

/-- Once a shutdown has given up, the servers are as good as closed for all that follow. -/
theorem GaveUp.began_iff (h : m.GaveUp steps s) (hphase : r.phase = .release)
    (hclock : (m.run steps).now + timeout < clockEnd) :
    let m' := m.run steps
    (t, .began r) ∈ m'.coordinator.entries m'.now timeout ↔ r ∈ m.coordinator.releases ∧
      AllEnd (m'.now + timeout) m'.sent m'.now m.coordinator.jobs ∧
        t = phaseEnd (m'.now + timeout) m'.sent m'.now m.coordinator.jobs := by
  intro m'
  have hdue : m'.now ≤ m'.now + timeout := Nat.le_add_right ..
  have hfilter (phase : Phase) : m'.coordinator.resources.filter (·.phase = phase) =
      (m.coordinator.resources.filter (·.phase = phase)).map Resource.afterClose := by
    rw [h.resources_run, List.filter_map]
    congr 1
    exact List.filter_congr fun r _ ↦ by simp
  have hdrains : m'.coordinator.drains = m.coordinator.drains.map Resource.afterClose :=
    hfilter .drain
  have hreleases : m'.coordinator.releases = m.coordinator.releases := by
    apply (hfilter .release).trans
    apply (List.map_congr_left _).trans (List.map_id _)
    exact fun r hr ↦ Resource.afterClose_of_release (Coordinator.phase_of_mem_releases r hr)
  rw [Coordinator.entries, if_neg (Nat.not_le.mpr hclock),
    began_release_iff Coordinator.phase_of_mem_drains Coordinator.phase_of_mem_releases hphase,
    hreleases, hdrains, allEnd_map_afterClose hdue, phaseEnd_map_afterClose hdue]
  rfl

/-- As long as no shutdown has given up on the task of a server, no release begins while that task
runs. Once one has, a shutdown drains what is left besides the servers, and then releases all
resources, whether those tasks run or not. -/
theorem releases_wait_until_given_up (m : Moment) (steps : List Step) (timeout : Nat)
    (s : Resource) (task : Closing) (hmem : s ∈ m.coordinator.resources)
    (hkind : s.kind = .server task false) :
    let m' := m.run steps
    let deadline := m'.now + timeout
    (¬ m.GaveUp steps s → ∀ t r, (t, .began r) ∈ m'.coordinator.entries m'.now timeout →
      r.phase = .release → ¬ s.RunsAt m'.sent t) ∧
    (m.GaveUp steps s → deadline < clockEnd → ∀ t r, r.phase = .release →
      ((t, .began r) ∈ m'.coordinator.entries m'.now timeout ↔ r ∈ m.coordinator.releases ∧
        AllEnd deadline m'.sent m'.now m.coordinator.jobs ∧
          t = phaseEnd deadline m'.sent m'.now m.coordinator.jobs)) := by
  intro m' deadline
  constructor
  · intro hnot t r hbegan hphase hruns
    exact hnot (gaveUp_of_began hmem hkind hbegan hphase hruns)
  · intro hgave hclock t r hphase
    exact hgave.began_iff hphase hclock

/-- A server that needs longer than the first shutdown may take: a second one releases its backend
at once. -/
theorem backend_released_by_second_shutdown :
    let server : Resource := ⟨"http_server", .server (.lasting 250 true) false⟩
    let backend : Resource := ⟨"backend:orders", .plain .release (.lasting 0 true)⟩
    let m : Moment := ⟨0, { resources := [server, backend] }⟩
    let m' := m.run [.shutdown 100]
    server ∈ m.coordinator.resources ∧ server.kind = .server (.lasting 250 true) false ∧
      (¬ m.GaveUp [] server ∧
        ∀ t, (t, .began backend) ∈ m.coordinator.entries 0 300 → ¬ server.RunsAt 0 t) ∧
      m.GaveUp [.shutdown 100] server ∧ m'.now + 100 < clockEnd ∧ backend.phase = .release ∧
        (100, .began backend) ∈ m'.coordinator.entries m'.now 100 := by
  intro server backend m m'
  have hmem : server ∈ m.coordinator.resources := List.mem_cons_self
  have hnot : ¬ m.GaveUp [] server := by
    rintro ⟨before, timeout, after, hnil, -⟩
    simp at hnil
  have hgave : m.GaveUp [.shutdown 100] server := ⟨[], 100, [], rfl, hmem, by decide, rfl⟩
  have hnow : m'.now = 100 := now_step_of_left (by decide) (mem_drains_of_server hmem rfl) rfl
  have hclock : m'.now + 100 < clockEnd := by
    rw [hnow]
    decide
  have hfirst := (releases_wait_until_given_up m [] 300 server (.lasting 250 true) hmem rfl).1 hnot
  have hsecond :=
    (releases_wait_until_given_up m [.shutdown 100] 100 server (.lasting 250 true) hmem rfl).2 hgave
      hclock 100 backend rfl
  refine ⟨hmem, rfl, ⟨hnot, fun t hbegan ↦ hfirst t backend hbegan rfl⟩, hgave, hclock, rfl, ?_⟩
  apply hsecond.mpr
  exact ⟨List.mem_cons_self, nofun, hnow.symm.trans phaseEnd_nil.symm⟩

/-- A server that never ends: the second shutdown releases its backend all the same. -/
theorem backend_released_while_server_runs :
    ¬ ∀ (m : Moment) (steps : List Step) (timeout : Nat) (s : Resource) (task : Closing),
      s ∈ m.coordinator.resources → s.kind = .server task false →
        let m' := m.run steps
        ∀ t r, (t, .began r) ∈ m'.coordinator.entries m'.now timeout → r.phase = .release →
          ¬ s.RunsAt m'.sent t := by
  intro h
  let server : Resource := ⟨"http_server", .server .endless false⟩
  let backend : Resource := ⟨"backend:orders", .plain .release (.lasting 0 true)⟩
  let m : Moment := ⟨0, { resources := [server, backend] }⟩
  let m' := m.run [.shutdown 100]
  have hmem : server ∈ m.coordinator.resources := List.mem_cons_self
  have hnow : m'.now = 100 := now_step_of_left (by decide) (mem_drains_of_server hmem rfl) rfl
  have hgave : m.GaveUp [.shutdown 100] server := ⟨[], 100, [], rfl, hmem, by decide, rfl⟩
  have hclock : m'.now + 100 < clockEnd := by
    rw [hnow]
    decide
  have hbegan : (100, .began backend) ∈ m'.coordinator.entries m'.now 100 :=
    (hgave.began_iff rfl hclock).mpr ⟨List.mem_cons_self, nofun, hnow.symm.trans phaseEnd_nil.symm⟩
  exact h m [.shutdown 100] 100 server .endless hmem rfl 100 backend hbegan rfl trivial

end Moment

end RpcGateway.Shutdown
