import RpcGateway.Proofs.Access.Lives

/-!
# Counters without an expiry

A store that does an increment and its expiry at once gives a counter its expiry where it creates
it, and nowhere else. So an increment in a window leaves a counter without an expiry as it has found
it: one that was created by a plain increment, or by one that broke down because the clock does not
get to the end of its window. Such a counter is never created anew. It counts on through all
increments, in windows or not, until somebody asks for its expiry or closes the store.
-/

namespace RpcGateway.Access

variable {m : CounterMap} {now : Time} {key : String} {n : Nat}

def Request.increments (key : String) : Request → Bool
  | .increment name => name = key
  | .window name _ => name = key
  | _ => false

namespace CounterMap

theorem getElem?_sweep_of_endless (h : m.counters[key]? = some ⟨n, none⟩) (now : Time) :
    (m.sweep now).counters[key]? = some ⟨n, none⟩ := by
  simp [sweep, h, Counter.isExpired]

theorem getElem?_maybeSweep_of_endless (h : m.counters[key]? = some ⟨n, none⟩) (now : Time) :
    (m.maybeSweep now).counters[key]? = some ⟨n, none⟩ := by
  unfold maybeSweep
  split
  · exact h
  · exact getElem?_sweep_of_endless h now

/-- An increment counts a counter without an expiry on, and does not give it one. -/
theorem getElem?_bump_of_endless (h : m.counters[key]? = some ⟨n, none⟩) (hn : n ≠ 0) (now : Time)
    (name : String) (window : Option Nat) :
    (m.bump now name window).2.counters[key]? =
      some ⟨n + if name = key then 1 else 0, none⟩ := by
  rw [getElem?_bump]
  by_cases hname : name = key
  · have hcurrent : m.current now name = ⟨n, none⟩ := by
      rw [current_eq, hname, h]
      rfl
    rw [if_pos hname.symm, if_pos hname, bumped, hcurrent, if_neg hn]
  · rw [if_neg (Ne.symm hname), if_neg hname]
    exact getElem?_maybeSweep_of_endless h now

theorem getElem?_expireAfter_of_ne {name : String} (hname : key ≠ name) (m : CounterMap)
    (now : Time) (window : Option Nat) :
    (m.expireAfter now name window).counters[key]? = m.counters[key]? := by
  cases window with
  | none => rfl
  | some window => rw [expireAfter, getElem?_expireIfUnset, if_neg hname]

end CounterMap

namespace Serving

variable {s : Serving}

/-- Nothing but a close, or an expiry asked for by itself, ends the counting. -/
theorem getElem?_step_of_endless (hs : s.Sound) (hatomic : s.store.atomic = true)
    (hreliable : s.store.Reliable) {r : Request} (hclose : r ≠ .close)
    (hexpire : ∀ ttl, r ≠ .expire key ttl)
    (h : s.store.map.counters[key]? = some ⟨n, none⟩) :
    (s.step r).store.map.counters[key]? =
      some ⟨n + if r.increments key then 1 else 0, none⟩ := by
  have hn : n ≠ 0 := hs.positive key _ h
  cases r with
  | advance ms => exact h
  | sweep => exact CounterMap.getElem?_sweep_of_endless h s.now
  | close => exact absurd rfl hclose
  | increment name =>
    rw [step_increment hs.prompt, hreliable.1]
    simpa [Request.increments, CounterMap.increment] using
      CounterMap.getElem?_bump_of_endless h hn s.now name none
  | expire name ttl =>
    have hname : key ≠ name := by
      rintro rfl
      exact hexpire ttl rfl
    rw [step_expire, hreliable.2]
    exact (CounterMap.getElem?_expireAfter_of_ne hname _ _ _).trans h
  | window name window =>
    rw [step_window_of_atomic hatomic]
    simpa [Request.increments] using CounterMap.getElem?_bump_of_endless h hn s.now name _

theorem answers_window_of_endless (hs : s.Sound) (hatomic : s.store.atomic = true)
    (h : s.store.map.counters[key]? = some ⟨n, none⟩) (window : Nat) :
    (s.step (.window key window)).answers = .counted (n + 1) :: s.answers := by
  have hcurrent : s.store.map.current s.now key = ⟨n, none⟩ := by
    rw [CounterMap.current_eq, h]
    rfl
  rw [step_window_of_atomic hatomic, servedAtOnce, hcurrent,
    if_neg fun hopens ↦ hs.positive key _ h hopens.2]
  rfl

theorem getElem?_run_of_endless (hs : s.Sound) (hatomic : s.store.atomic = true)
    (hreliable : s.store.Reliable) {rs : List Request} (hclose : .close ∉ rs)
    (hexpire : ∀ ttl, .expire key ttl ∉ rs)
    (h : s.store.map.counters[key]? = some ⟨n, none⟩) :
    (s.run rs).store.map.counters[key]? = some ⟨n + rs.countP (·.increments key), none⟩ := by
  induction rs generalizing s n with
  | nil => exact h
  | cons r rs ih =>
    have hsetup := step_setup hs.prompt r
    have hstep := getElem?_step_of_endless hs hatomic hreliable (r := r)
      (fun hr ↦ hclose (hr ▸ List.mem_cons_self))
      (fun ttl hr ↦ hexpire ttl (hr ▸ List.mem_cons_self)) h
    have hrest := ih (hs.step r) (hsetup.atomic.trans hatomic) (hsetup.reliable hreliable)
      (fun hr ↦ hclose (List.mem_cons_of_mem r hr))
      (fun ttl hr ↦ hexpire ttl (List.mem_cons_of_mem r hr)) hstep
    rw [List.countP_cons, Nat.add_comm (rs.countP _), ← Nat.add_assoc]
    exact hrest

theorem counts_servedAtOnce (s : Serving) (key : String) (window : Nat) :
    (s.servedAtOnce key window).counts = true := by
  unfold servedAtOnce
  split
  · rfl
  · rfl

/-- The counter that an increment in a window leaves is as its life says. -/
theorem Sound.tally_windowAtOnce (h : s.Sound) (hatomic : s.store.atomic = true) (key : String)
    (window : Nat) :
    tally true (life true key (s.step (.window key window)).log) =
      s.store.map.bumped s.now key (CounterStore.nameable s.now window) := by
  have hlives := h.lives key
  rw [hatomic] at hlives
  rw [step_window_of_atomic hatomic]
  calc
    _ = (s.servedAtOnce key window).leaves true key (s.current key) := by
      rw [tally_life_of_counts rfl rfl (s.counts_servedAtOnce key window), hlives]
      rfl
    _ = _ := h.leaves_windowAtOnce key window

/-- After an increment in a window, a store that does both at once has a counter of the key, which
has counted the increments of its life. It has no expiry if and only if none of the requests in its
life has given it one: if it was not created by an increment in a window that came back, and no
expiry asked for by itself went through. If it has one, nothing is left of it from then on. If it
has none, it is there for good, and counts all increments of the key. -/
theorem expiry_after_window (start : Time) (rs : List Request) (key : String) (window : Nat) :
    let s := (atOnce start).run rs
    let s' := s.step (.window key window)
    let c := tally true (life true key s'.log)
    s'.store.map.counters[key]? = some c ∧
      s'.answers.head? = some (if clockEnd ≤ s.now + window ∧ (s.current key).count = 0
        then .brokeDown else .counted c.count) ∧
      (c.expiresAt = none ↔ ∀ e ∈ life true key s'.log, e.grants true = false) ∧
      (∀ due t, c.expiresAt = some due → due ≤ t → s'.store.map.current t key = ⟨0, none⟩) ∧
      (c.expiresAt = none → ∀ rs', .close ∉ rs' → (∀ ttl, .expire key ttl ∉ rs') →
        (s'.run rs').store.map.counters[key]? =
          some ⟨c.count + rs'.countP (·.increments key), none⟩) := by
  intro s s' c
  have hprompt : (atOnce start).store.Prompt := fun _ ↦ rfl
  have hsound : s.Sound := (sound_new rfl hprompt start).run rs
  have hsetup : s.store.SetUpLike (atOnce start).store := run_setup hprompt rs
  have htally : c = s.store.map.bumped s.now key (CounterStore.nameable s.now window) :=
    hsound.tally_windowAtOnce hsetup.atomic key window
  have hstep : s' = _ := step_window_of_atomic hsetup.atomic key window
  have hfound : s'.store.map.counters[key]? = some c := by
    rw [hstep, htally, CounterMap.getElem?_bump, if_pos rfl]
  refine ⟨hfound, ?_, expiry_eq_none_iff, ?_, ?_⟩
  · rw [hstep, htally]
    rfl
  · intro due t hdue hle
    have hexpired : c.isExpired t = true := by
      unfold Counter.isExpired
      rw [hdue]
      exact decide_eq_true hle
    rw [CounterMap.current_eq, hfound]
    exact Counter.left_of_isExpired hexpired
  · intro hnone rs' hclose hexpire
    have hsetup' : s'.store.SetUpLike s.store := step_setup hsound.prompt _
    have hreliable : (atOnce start).store.Reliable := ⟨fun _ ↦ rfl, fun _ ↦ rfl⟩
    have hendless : c = ⟨c.count, none⟩ := by rw [← hnone]
    exact getElem?_run_of_endless (hsound.step _) (hsetup'.atomic.trans hsetup.atomic)
      (hsetup'.reliable (hsetup.reliable hreliable)) hclose hexpire (hendless ▸ hfound)

/-- The counter of a plain increment has no expiry after an increment in a window has come back, and
when the window is over the next one still counts on. -/
theorem endless_after_window :
    let s := (atOnce 0).run [.increment "k", .window "k" 10]
    s.answers = [.counted 2, .counted 1] ∧
      s.store.map.counters["k"]? = some ⟨2, none⟩ ∧
      (s.run [.advance 10, .window "k" 10]).answers.head? = some (.counted 3) := by
  intro s
  have hprompt : (atOnce 0).store.Prompt := fun _ ↦ rfl
  have hnew : (atOnce 0).Sound := sound_new rfl hprompt 0
  have hfirst : ((atOnce 0).step (.increment "k")).store.map.counters["k"]? = some ⟨1, none⟩ := by
    rw [step_increment hprompt]
    simp [CounterMap.increment, CounterMap.getElem?_bump, CounterMap.bumped, CounterMap.current,
      atOnce]
  have hanswer : ((atOnce 0).step (.increment "k")).answers = [.counted 1] := by
    rw [step_increment hprompt]
    simp [answers, CounterMap.current, atOnce]
  have hsound : s.Sound := hnew.run _
  have hsetup : s.store.SetUpLike (atOnce 0).store := run_setup hprompt _
  have hatomic := (step_setup hprompt (.increment "k")).atomic
  have hsecond : s.store.map.counters["k"]? = some ⟨2, none⟩ :=
    getElem?_step_of_endless (r := .window "k" 10) (hnew.step _) hatomic
      ⟨fun _ ↦ rfl, fun _ ↦ rfl⟩ (by simp) (by simp) hfirst
  refine ⟨?_, hsecond, ?_⟩
  · have hcounted :=
      answers_window_of_endless (hnew.step (.increment "k")) hatomic hfirst 10
    rwa [hanswer] at hcounted
  · have hcounted := answers_window_of_endless (hsound.advance 10) hsetup.atomic hsecond 10
    exact congrArg List.head? hcounted

end Serving

end RpcGateway.Access
