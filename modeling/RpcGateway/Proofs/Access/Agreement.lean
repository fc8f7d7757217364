import RpcGateway.Proofs.Access.Serving

/-!
# Counting at once and in turn

A store that gives a counter its expiry as it creates it, and one that increments and then asks for
an expiry each time, do the same as long as every counter has an expiry: then there is nothing to
ask for but at the creation. So they agree where counters are only made by increments in a window.
Two maps are compared key by key. Their sizes are the same then, and with them what leads to a
sweep.
-/

namespace RpcGateway.Access

variable {m m' : CounterMap} {now : Time}

namespace CounterMap

/-- The same counters, and the same size for the next sweep. -/
structure Same (m m' : CounterMap) : Prop where
  getElem? : ∀ key : String, m.counters[key]? = m'.counters[key]?
  sweepAt : m.sweepAt = m'.sweepAt

theorem Same.refl (m : CounterMap) : m.Same m := ⟨fun _ ↦ rfl, rfl⟩

theorem Same.equiv (h : m.Same m') : m.counters.Equiv m'.counters :=
  .of_forall_getElem?_eq h.getElem?

theorem Same.sweep (h : m.Same m') (now : Time) : (m.sweep now).Same (m'.sweep now) := by
  have hfilter : (m.sweep now).counters.Equiv (m'.sweep now).counters := h.equiv.filter _
  refine ⟨fun key ↦ hfilter.getElem?_eq, ?_⟩
  exact congrArg (fun n ↦ max sweepThreshold (n * 2)) hfilter.size_eq

theorem Same.maybeSweep (h : m.Same m') (now : Time) :
    (m.maybeSweep now).Same (m'.maybeSweep now) := by
  unfold CounterMap.maybeSweep
  rw [h.equiv.size_eq, h.sweepAt]
  split
  · exact h
  · exact h.sweep now

theorem Same.current (h : m.Same m') (now : Time) (key : String) :
    m.current now key = m'.current now key := by
  unfold CounterMap.current
  rw [h.getElem?]

theorem Same.bumped (h : m.Same m') (now : Time) (key : String) (window : Option Nat) :
    m.bumped now key window = m'.bumped now key window := by
  unfold CounterMap.bumped
  rw [h.current now key]

theorem Same.expireAfter (h : m.Same m') (now : Time) (key : String) (window : Option Nat) :
    (m.expireAfter now key window).Same (m'.expireAfter now key window) := by
  cases window with
  | none => exact h
  | some window =>
    refine ⟨fun name ↦ ?_, ?_⟩
    · simp only [CounterMap.expireAfter, getElem?_expireIfUnset, h.getElem?]
    · simp only [CounterMap.expireAfter, sweepAt_expireIfUnset, h.sweepAt]

/-- Every counter has counted something and has an expiry. -/
def Lasting (m : CounterMap) : Prop := m.All fun c ↦ c.count ≠ 0 ∧ c.expiresAt ≠ none

theorem Lasting.expiresAt_current (h : m.Lasting) {key : String}
    (hcount : (m.current now key).count ≠ 0) : (m.current now key).expiresAt ≠ none := by
  unfold CounterMap.current at hcount ⊢
  cases hfound : m.counters[key]? with
  | none => simp [hfound] at hcount
  | some c =>
    have hlasts := (h key c hfound).2
    by_cases hexpired : c.isExpired now = true
    · simp [hfound, hexpired] at hcount
    · simpa [hexpired] using hlasts

/-- A counter that goes on has its expiry already, and one that is created gets the same. -/
theorem Lasting.expiring_bumped (h : m.Lasting) (key : String) (window : Nat) :
    Counter.expiring (now + window) (m.bumped now key none) = m.bumped now key (some window) := by
  unfold CounterMap.bumped Counter.expiring
  by_cases hcount : (m.current now key).count = 0
  · simp [hcount]
  · obtain ⟨due, hdue⟩ := Option.ne_none_iff_exists'.mp (h.expiresAt_current hcount)
    simp [hcount, hdue]

theorem Lasting.bump (h : m.Lasting) {key : String} {window : Option Nat}
    (hlasts : (m.bumped now key window).expiresAt ≠ none) : (m.bump now key window).2.Lasting :=
  All.bump h ⟨Nat.succ_ne_zero _, hlasts⟩

/-- An increment in a window is an increment with an expiry after it. -/
theorem Same.bump (h : m.Same m') (hlasts : m'.Lasting) (now : Time) (key : String)
    (window : Option Nat) :
    (m.bump now key window).2.Same ((m'.increment now key).2.expireAfter now key window) := by
  have hswept := h.maybeSweep now
  cases window with
  | none =>
    refine ⟨fun name ↦ ?_, hswept.sweepAt⟩
    simp only [CounterMap.expireAfter, increment, getElem?_bump, h.bumped, hswept.getElem?]
  | some window =>
    refine ⟨fun name ↦ ?_, ?_⟩
    · simp only [CounterMap.expireAfter, increment, getElem?_expireIfUnset, getElem?_bump,
        h.bumped, hswept.getElem?]
      by_cases hname : name = key
      · simp [hname, hlasts.expiring_bumped]
      · simp [hname]
    · simp only [CounterMap.expireAfter, increment, sweepAt_expireIfUnset]
      exact hswept.sweepAt

theorem Same.lasting (h : m.Same m') (hlasts : m.Lasting) : m'.Lasting := by
  intro key c hfound
  rw [← h.getElem?] at hfound
  exact hlasts key c hfound

theorem Lasting.expireAfter (h : m.Lasting) (now : Time) (key : String) (window : Option Nat) :
    (m.expireAfter now key window).Lasting :=
  All.expireAfter h (fun _ _ hc ↦ ⟨hc.1, nofun⟩) now key window

end CounterMap

/-! ## Two stores side by side -/

namespace Serving

variable {s s' : Serving}

/-- Two stores at one instant, of which the first does both at once and the second one after the
other, and which have answered alike. -/
structure Agrees (s s' : Serving) : Prop where
  atomic : s.store.atomic = true
  turns : s'.store.atomic = false
  prompt : s'.store.Prompt
  reliable : s.store.Reliable
  reliable' : s'.store.Reliable
  closeFails : s.store.closeFails = s'.store.closeFails
  now : s.now = s'.now
  answers : s.answers = s'.answers
  same : s.store.map.Same s'.store.map
  /-- Only a breakdown leaves a counter without an expiry. -/
  lasting : (∀ e ∈ s'.log, e.answer ≠ .brokeDown) → s'.store.map.Lasting

theorem Agrees.window (h : s.Agrees s') (hback : ∀ e ∈ s'.log, e.answer ≠ .brokeDown)
    (key : String) (window : Nat) :
    (s.step (.window key window)).Agrees (s'.step (.window key window)) := by
  have hlasting := h.lasting hback
  have hcurrent := h.same.current s'.now key
  -- Without a breakdown before, the counters without an expiry are the new ones.
  have hbreaks : s'.store.breaks s'.now key window ↔
      clockEnd ≤ s'.now + window ∧ (s'.store.map.current s'.now key).count = 0 := by
    unfold CounterStore.breaks CounterMap.bumped
    rw [h.reliable'.tries]
    by_cases hcount : (s'.store.map.current s'.now key).count = 0
    · simp [hcount]
    · simp [hcount, hlasting.expiresAt_current hcount]
  have hgrant : s'.store.grant s'.now window = CounterStore.nameable s'.now window := by
    unfold CounterStore.grant
    rw [h.reliable'.tries]
    rfl
  rw [step_window_of_atomic h.atomic, servedAtOnce, step_window_of_counts h.turns h.prompt
    (h.reliable'.1 _), h.now, hcurrent, hgrant]
  simp only [hbreaks]
  refine { h with
    now := rfl
    answers := congrArg (_ :: ·) h.answers
    same := h.same.bump hlasting s'.now key _
    lasting := fun hback' ↦ (CounterMap.Same.refl _).bump hlasting s'.now key _ |>.lasting ?_ }
  have hopens : ¬ (clockEnd ≤ s'.now + window ∧ (s'.store.map.current s'.now key).count = 0) := by
    intro hbeyond
    exact hback' _ List.mem_cons_self (if_pos hbeyond)
  apply hlasting.bump
  unfold CounterMap.bumped
  by_cases hcount : (s'.store.map.current s'.now key).count = 0
  · have hreach : ¬ clockEnd ≤ s'.now + window := fun hbeyond ↦ hopens ⟨hbeyond, hcount⟩
    simp [hcount, CounterStore.nameable, hreach]
  · simp [hcount, hlasting.expiresAt_current hcount]

theorem Agrees.expire (h : s.Agrees s') (key : String) (ttl : Nat) :
    (s.step (.expire key ttl)).Agrees (s'.step (.expire key ttl)) := by
  have hbeyond : CounterStore.expiryBeyondClock key ttl s'.now s.store =
      CounterStore.expiryBeyondClock key ttl s'.now s'.store := by
    unfold CounterStore.expiryBeyondClock
    rw [h.reliable.2, h.reliable'.2, h.same.getElem?]
  rw [step_expire, step_expire, h.now, hbeyond, h.reliable.2, h.reliable'.2]
  exact { h with
    now := rfl
    answers := congrArg (_ :: ·) h.answers
    same := h.same.expireAfter s'.now key _
    lasting := fun hback ↦ (h.lasting fun e he ↦ hback e (List.mem_cons_of_mem _ he)).expireAfter
      s'.now key _ }

theorem Agrees.close (h : s.Agrees s') : (s.step .close).Agrees (s'.step .close) := by
  have hbefore (e : Served) (hback : ∀ e' ∈ e :: s'.log, e'.answer ≠ .brokeDown) :
      s'.store.map.Lasting := h.lasting fun e' he ↦ hback e' (List.mem_cons_of_mem _ he)
  rw [step_close, step_close, h.now]
  by_cases hfails : s'.store.closeFails = true
  · have hfails' := h.closeFails.trans hfails
    rw [if_pos hfails', if_pos hfails', if_pos hfails, if_pos hfails]
    exact { h with
      now := rfl
      answers := congrArg (_ :: ·) h.answers
      lasting := hbefore _ }
  · have hfails' : ¬ s.store.closeFails = true := h.closeFails ▸ hfails
    rw [if_neg hfails', if_neg hfails', if_neg hfails, if_neg hfails]
    exact { h with
      now := rfl
      answers := congrArg (_ :: ·) h.answers
      same := ⟨fun key ↦ rfl, h.same.sweepAt⟩
      lasting := fun _ ↦ CounterMap.all_close _ }

/-- No request but an increment without a window sets the two apart, as long as none before it has
broken down. -/
theorem Agrees.step (h : s.Agrees s') {r : Request} (hwindow : ∀ key, r ≠ .increment key)
    (hback : ∀ e ∈ (s'.step r).log.tail, e.answer ≠ .brokeDown) :
    (s.step r).Agrees (s'.step r) := by
  cases r with
  | advance ms => exact { h with now := congrArg (· + ms) h.now }
  | sweep =>
    have hsame := h.same.sweep s.now
    unfold Serving.step
    rw [h.now] at hsame ⊢
    exact { h with
      now := rfl
      same := hsame
      lasting := fun hback ↦ CounterMap.All.sweep (h.lasting hback) s'.now }
  | close => exact h.close
  | increment key => exact absurd rfl (hwindow key)
  | expire key ttl => exact h.expire key ttl
  | window key window => exact h.window hback key window

theorem mem_tail_step {e : Served} (he : e ∈ s.log.tail) (r : Request) :
    e ∈ (s.step r).log.tail := by
  cases r with
  | advance ms => exact he
  | sweep => exact he
  | close => exact List.mem_of_mem_tail he
  | increment key => exact List.mem_of_mem_tail he
  | expire key ttl => exact List.mem_of_mem_tail he
  | window key window => exact List.mem_of_mem_tail he

theorem mem_tail_run {e : Served} (he : e ∈ s.log.tail) (rs : List Request) :
    e ∈ (s.run rs).log.tail := by
  induction rs generalizing s with
  | nil => exact he
  | cons r rs ih => exact ih (mem_tail_step he r)

theorem Agrees.run (h : s.Agrees s') {rs : List Request} (hwindows : ∀ key, .increment key ∉ rs)
    (hback : ∀ e ∈ (s'.run rs).log.tail, e.answer ≠ .brokeDown) :
    (s.run rs).Agrees (s'.run rs) := by
  induction rs generalizing s s' with
  | nil => exact h
  | cons r rs ih =>
    apply ih (h.step ?_ fun e he ↦ hback e (mem_tail_run he rs)) ?_ hback
    · rintro key rfl
      exact hwindows key List.mem_cons_self
    · intro key hmem
      exact hwindows key (List.mem_cons_of_mem r hmem)

theorem agrees_new (start : Time) : (atOnce start).Agrees (inTurn start) where
  atomic := rfl
  turns := rfl
  prompt _ := rfl
  reliable := ⟨fun _ ↦ rfl, fun _ ↦ rfl⟩
  reliable' := ⟨fun _ ↦ rfl, fun _ ↦ rfl⟩
  closeFails := rfl
  now := rfl
  answers := rfl
  same := .refl _
  lasting _ key c hfound := by simp [inTurn] at hfound

/-- Where counters are made by increments in a window alone, and no primitive fails, a store gives
the same answers and keeps the same counters, with the same expiries and the same size for the next
sweep, whether it does an increment and its expiry at once or in turn. The last request may be one
that breaks down because the clock does not get to its expiry: it breaks down for both, and leaves
the same. -/
theorem at_once_agrees_with_in_turn (start : Time) (rs : List Request)
    (hwindows : ∀ key, .increment key ∉ rs)
    (hback : ∀ e ∈ ((inTurn start).run rs).log.tail, e.answer ≠ .brokeDown) :
    let s := (atOnce start).run rs
    let s' := (inTurn start).run rs
    s.now = s'.now ∧ s.answers = s'.answers ∧
      (∀ key : String, s.store.map.counters[key]? = s'.store.map.counters[key]?) ∧
      s.store.map.sweepAt = s'.store.map.sweepAt := by
  have hagrees := (agrees_new start).run hwindows hback
  exact ⟨hagrees.now, hagrees.answers, hagrees.same.getElem?, hagrees.same.sweepAt⟩

/-- A counter that has expired is created once more, with the other window, either way. -/
theorem agrees_when_created_anew :
    let rs : List Request := [.window "a" 10, .advance 10, .window "a" 5]
    (∀ e ∈ ((inTurn 0).run rs).log.tail, e.answer ≠ .brokeDown) ∧
      ((atOnce 0).run rs).answers = ((inTurn 0).run rs).answers ∧
      ((atOnce 0).run rs).store.map.counters["a"]? =
        ((inTurn 0).run rs).store.map.counters["a"]? := by
  intro rs
  have hback : ∀ e ∈ ((inTurn 0).run rs).log.tail, e.answer ≠ .brokeDown := by
    have hreach : ¬ (inTurn 0).store.breaks (inTurn 0).now "a" 10 := fun hbreaks ↦
      absurd hbreaks.2.1 (by decide)
    have hlog := congrArg log (step_window_of_counts (s := inTurn 0) rfl (fun _ ↦ rfl) rfl "a" 10)
    rw [if_neg hreach] at hlog
    have htail : ((inTurn 0).run rs).log.tail = ((inTurn 0).step (.window "a" 10)).log := rfl
    rw [htail, hlog]
    intro e he
    cases List.mem_singleton.mp he
    nofun
  have hagrees := at_once_agrees_with_in_turn 0 rs (by simp [rs]) hback
  exact ⟨hback, hagrees.2.1, hagrees.2.2.1 "a"⟩

end Serving

end RpcGateway.Access
