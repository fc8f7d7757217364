import RpcGateway.Access.CounterStore

/-!
# What an increment finds and leaves

Of a counter that has expired nothing is left, whether it is still in the map or has been swept. So
a map is seen through what an increment would find of each key, now or later: sweeps do not change
this, and an increment changes it for its own key alone. Where the end of a new window cannot be
named by the clock, the increment breaks down after it has counted, and leaves a counter without an
expiry.
-/

namespace RpcGateway.Access

variable {m : CounterMap} {now t : Time} {key : String}

namespace Counter

theorem isExpired_mono {c : Counter} (h : c.isExpired now = true) (hle : now ≤ t) :
    c.isExpired t = true := by
  unfold isExpired at *
  split at h
  · rw [decide_eq_true_eq] at *
    exact Nat.le_trans h hle
  · cases h

/-- What is left of a counter at an instant. -/
def left (c : Counter) (t : Time) : Counter := if c.isExpired t then ⟨0, none⟩ else c

theorem left_of_isExpired {c : Counter} (h : c.isExpired t = true) : c.left t = ⟨0, none⟩ :=
  if_pos h

theorem left_of_not_isExpired {c : Counter} (h : ¬ c.isExpired t = true) : c.left t = c := if_neg h

theorem left_left (hle : now ≤ t) (c : Counter) : (c.left now).left t = c.left t := by
  by_cases hexpired : c.isExpired now = true
  · rw [left_of_isExpired hexpired, left_of_isExpired (isExpired_mono hexpired hle)]
    rfl
  · rw [left_of_not_isExpired hexpired]

theorem expiresAt_ne_none {c : Counter} (h : c.isExpired t = true) : c.expiresAt ≠ none := by
  intro hnone
  simp [isExpired, hnone] at h

/-- The counter with an expiry, its own if it has one. -/
def expiring (t : Time) (c : Counter) : Counter := ⟨c.count, some (c.expiresAt.getD t)⟩

end Counter

namespace CounterMap

theorem current_eq (m : CounterMap) (t : Time) (key : String) :
    m.current t key = (m.counters[key]?.map fun c ↦ c.left t).getD ⟨0, none⟩ := by
  unfold current Counter.left
  cases m.counters[key]? with
  | none => rfl
  | some c => rfl

theorem current_later (m : CounterMap) (hle : now ≤ t) (key : String) :
    m.current t key = (m.current now key).left t := by
  rw [current_eq, current_eq]
  cases m.counters[key]? with
  | none => rfl
  | some c => exact (Counter.left_left hle c).symm

/-- What an increment would find has not expired. -/
theorem not_isExpired_current (m : CounterMap) (now : Time) (key : String) :
    ¬ (m.current now key).isExpired now = true := by
  intro hexpired
  have hnothing : m.current now key = ⟨0, none⟩ :=
    (m.current_later (Nat.le_refl now) key).trans (Counter.left_of_isExpired hexpired)
  rw [hnothing] at hexpired
  cases hexpired

/-- A sweep drops nothing that an increment would find. -/
theorem current_sweep (m : CounterMap) (hle : now ≤ t) (key : String) :
    (m.sweep now).current t key = m.current t key := by
  rw [current_eq, current_eq]
  simp only [sweep, Std.HashMap.getElem?_filter']
  cases m.counters[key]? with
  | none => rfl
  | some c =>
    rw [Option.filter_some]
    by_cases hexpired : c.isExpired now = true
    · have hlater := Counter.isExpired_mono hexpired hle
      simp [hexpired, Counter.left, hlater]
    · simp [hexpired]

theorem current_maybeSweep (m : CounterMap) (hle : now ≤ t) (key : String) :
    (m.maybeSweep now).current t key = m.current t key := by
  unfold maybeSweep
  split
  · rfl
  · exact m.current_sweep hle key

/-- The counter that an increment leaves. -/
def bumped (m : CounterMap) (now : Time) (key : String) (window : Option Nat) : Counter :=
  ⟨(m.current now key).count + 1,
    if (m.current now key).count = 0 then window.map (now + ·) else (m.current now key).expiresAt⟩

theorem bump_fst (m : CounterMap) (now : Time) (key : String) (window : Option Nat) :
    (m.bump now key window).1 = (m.current now key).count + 1 := by
  simp only [bump, m.current_maybeSweep (Nat.le_refl now)]

/-- A counter that goes on is not given another window. -/
theorem bump_eq_bump (h : (m.current now key).count ≠ 0) (window window' : Option Nat) :
    m.bump now key window = m.bump now key window' := by
  simp only [bump, m.current_maybeSweep (Nat.le_refl now), if_neg h]

/-- An increment writes its own key, and leaves of the others what its sweep leaves. -/
theorem getElem?_bump (m : CounterMap) (now : Time) (key : String) (window : Option Nat)
    (name : String) :
    (m.bump now key window).2.counters[name]? =
      if name = key then some (m.bumped now key window)
      else (m.maybeSweep now).counters[name]? := by
  simp only [bump, bumped, m.current_maybeSweep (Nat.le_refl now), Std.HashMap.getElem?_insert]
  by_cases hname : name = key
  · simp [hname]
  · simp [hname, Ne.symm hname]

/-- An increment changes its own key alone, whatever it sweeps on the way. -/
theorem current_bump (m : CounterMap) (hle : now ≤ t) (key : String) (window : Option Nat)
    (name : String) :
    (m.bump now key window).2.current t name =
      if name = key then (m.bumped now key window).left t else m.current t name := by
  have hswept := m.current_maybeSweep hle name
  rw [current_eq] at hswept ⊢
  rw [getElem?_bump]
  by_cases hname : name = key
  · rw [if_pos hname, if_pos hname]
    rfl
  · rw [if_neg hname, if_neg hname]
    exact hswept

/-- An expiry is given to the counter that is in the map, if there is one, and to no other. -/
theorem getElem?_expireIfUnset (m : CounterMap) (now : Time) (key : String) (ttl : Nat)
    (name : String) :
    (m.expireIfUnset now key ttl).counters[name]? =
      if name = key then m.counters[name]?.map (Counter.expiring (now + ttl))
      else m.counters[name]? := by
  by_cases hname : name = key
  · subst hname
    rw [if_pos rfl, expireIfUnset]
    cases hfound : m.counters[name]? with
    | none => exact hfound
    | some c =>
      obtain ⟨count, expiresAt⟩ := c
      cases expiresAt with
      | none => simp [Counter.expiring]
      | some due => exact hfound
  · rw [if_neg hname, expireIfUnset]
    split
    · rw [Std.HashMap.getElem?_insert, if_neg (by simpa using Ne.symm hname)]
    · rfl

theorem sweepAt_expireIfUnset (m : CounterMap) (now : Time) (key : String) (ttl : Nat) :
    (m.expireIfUnset now key ttl).sweepAt = m.sweepAt := by
  unfold expireIfUnset
  split
  · rfl
  · rfl

/-- An expiry moves nothing if there is no counter that waits for one. -/
theorem expireIfUnset_eq_self (h : (m.counters[key]?.any fun c ↦ c.expiresAt.isNone) = false)
    (now : Time) (ttl : Nat) : m.expireIfUnset now key ttl = m := by
  unfold expireIfUnset
  split
  · rename_i hfound
    rw [hfound] at h
    cases h
  · rfl

theorem expiresAt_current_ne_none (h : (m.counters[key]?.any fun c ↦ c.expiresAt.isNone) = false)
    (hcount : (m.current now key).count ≠ 0) : (m.current now key).expiresAt ≠ none := by
  rw [current_eq] at hcount ⊢
  cases hfound : m.counters[key]? with
  | none => exact absurd (by rw [hfound]; rfl) hcount
  | some c =>
    by_cases hexpired : c.isExpired now = true
    · exact absurd (by rw [hfound]; exact congrArg _ (Counter.left_of_isExpired hexpired)) hcount
    · rw [Option.map_some, Option.getD_some, Counter.left_of_not_isExpired hexpired]
      simpa [hfound, ← Option.isSome_iff_ne_none] using h

/-- The map after an expiry at the end of a window, if there is a window. -/
def expireAfter (m : CounterMap) (now : Time) (key : String) : Option Nat → CounterMap
  | none => m
  | some window => m.expireIfUnset now key window

/-! ### What holds of all counters -/

/-- What is said of a counter holds of all counters of a map. -/
def All (p : Counter → Prop) (m : CounterMap) : Prop :=
  ∀ (key : String) c, m.counters[key]? = some c → p c

variable {p : Counter → Prop}

theorem All.sweep (h : m.All p) (now : Time) : (m.sweep now).All p := by
  intro key c hfound
  simp only [CounterMap.sweep, Std.HashMap.getElem?_filter', Option.filter_eq_some_iff] at hfound
  exact h key c hfound.1

theorem All.maybeSweep (h : m.All p) (now : Time) : (m.maybeSweep now).All p := by
  unfold CounterMap.maybeSweep
  split
  · exact h
  · exact h.sweep now

theorem All.bump (h : m.All p) {window : Option Nat} (hbumped : p (m.bumped now key window)) :
    (m.bump now key window).2.All p := by
  intro name c hfound
  rw [getElem?_bump] at hfound
  by_cases hname : name = key
  · rw [if_pos hname] at hfound
    cases hfound
    exact hbumped
  · rw [if_neg hname] at hfound
    exact h.maybeSweep now name c hfound

theorem All.expireAfter (h : m.All p) (hexpiring : ∀ c t, p c → p (Counter.expiring t c))
    (now : Time) (key : String) (window : Option Nat) : (m.expireAfter now key window).All p := by
  cases window with
  | none => exact h
  | some window =>
    intro name c hfound
    rw [CounterMap.expireAfter, getElem?_expireIfUnset] at hfound
    by_cases hname : name = key
    · rw [if_pos hname] at hfound
      obtain ⟨c, hc, rfl⟩ := Option.map_eq_some_iff.mp hfound
      exact hexpiring c _ (h name c hc)
    · rw [if_neg hname] at hfound
      exact h name c hfound

theorem all_close (m : CounterMap) : m.close.All p := by
  intro key c hfound
  simp [close] at hfound

/-- Where every counter has counted something, nothing counted means that there is no counter. -/
theorem All.current_eq (h : m.All (·.count ≠ 0)) (hcount : (m.current now key).count = 0) :
    m.current now key = ⟨0, none⟩ := by
  rw [CounterMap.current_eq] at hcount ⊢
  cases hfound : m.counters[key]? with
  | none => rfl
  | some c =>
    by_cases hexpired : c.isExpired now = true
    · exact Counter.left_of_isExpired hexpired
    · rw [hfound, Option.map_some, Option.getD_some,
        Counter.left_of_not_isExpired hexpired] at hcount
      exact absurd hcount (h key c hfound)

theorem All.bumped_none (h : m.All (·.count ≠ 0)) (now : Time) (key : String) :
    m.bumped now key none =
      ⟨(m.current now key).count + 1, (m.current now key).expiresAt⟩ := by
  unfold bumped
  by_cases hcount : (m.current now key).count = 0
  · rw [h.current_eq hcount]
    rfl
  · rw [if_neg hcount]

/-- An expiry is given to the counter that an increment would find, unless it has one. -/
theorem All.current_expireAfter (h : m.All (·.count ≠ 0)) (hle : now ≤ t) (key : String)
    (window : Option Nat) (name : String) :
    (m.expireAfter now key window).current t name =
      if name = key then
        (if (m.current now key).count = 0 then ⟨0, none⟩ else
          ⟨(m.current now key).count,
            (m.current now key).expiresAt.or (window.map (now + ·))⟩ : Counter).left t
      else m.current t name := by
  by_cases hname : name = key
  · subst hname
    rw [if_pos rfl]
    cases window with
    | none =>
      rw [CounterMap.expireAfter, m.current_later hle, Option.map_none, Option.or_none]
      by_cases hcount : (m.current now name).count = 0
      · rw [if_pos hcount, h.current_eq hcount]
      · rw [if_neg hcount]
    | some window =>
      rw [CounterMap.current_eq, m.current_eq, CounterMap.expireAfter, getElem?_expireIfUnset,
        if_pos rfl]
      cases hfound : m.counters[name]? with
      | none => rfl
      | some c =>
        simp only [Option.map_some, Option.getD_some]
        by_cases hexpired : c.isExpired now = true
        · obtain ⟨count, expiresAt⟩ := c
          obtain ⟨due, rfl⟩ := Option.ne_none_iff_exists'.mp (Counter.expiresAt_ne_none hexpired)
          rw [Counter.left_of_isExpired hexpired, if_pos rfl]
          exact Counter.left_of_isExpired (Counter.isExpired_mono hexpired hle)
        · rw [Counter.left_of_not_isExpired hexpired, if_neg (h name c hfound)]
          obtain ⟨count, expiresAt⟩ := c
          cases expiresAt with
          | none => rfl
          | some due => rfl
  · rw [if_neg hname]
    cases window with
    | none => rfl
    | some window =>
      rw [CounterMap.current_eq, m.current_eq, CounterMap.expireAfter, getElem?_expireIfUnset,
        if_neg hname]

/-- An increment and then an expiry. -/
theorem All.current_increment_expireAfter (h : m.All (·.count ≠ 0)) (hle : now ≤ t) (key : String)
    (window : Option Nat) (name : String) :
    ((m.increment now key).2.expireAfter now key window).current t name =
      if name = key then
        (⟨(m.current now key).count + 1,
          (m.current now key).expiresAt.or (window.map (now + ·))⟩ : Counter).left t
      else m.current t name := by
  have hpositive : (m.increment now key).2.All (·.count ≠ 0) := h.bump (Nat.succ_ne_zero _)
  have hcurrent : (m.increment now key).2.current now key =
      ⟨(m.current now key).count + 1, (m.current now key).expiresAt⟩ := by
    rw [increment, m.current_bump (Nat.le_refl now), if_pos rfl, h.bumped_none]
    by_cases hcount : (m.current now key).count = 0
    · rw [h.current_eq hcount]
      rfl
    · exact Counter.left_of_not_isExpired (m.not_isExpired_current now key)
  rw [hpositive.current_expireAfter hle]
  by_cases hname : name = key
  · rw [if_pos hname, if_pos hname, hcurrent, if_neg (Nat.succ_ne_zero _)]
  · rw [if_neg hname, if_neg hname]
    exact (m.current_bump hle key none name).trans (if_neg hname)

end CounterMap

namespace CounterStore

variable {s : CounterStore}

/-- The window of a counter, if the clock gets to its end. -/
def nameable (now : Time) (window : Nat) : Option Nat :=
  if clockEnd ≤ now + window then none else some window

/-- An increment in a window, of a store that does both in one step, takes no time. -/
theorem run_incrementInWindow (hatomic : s.atomic = true) (key : String) (window : Nat) :
    (incrementInWindow key window).run now s =
      (now, { s with map := (s.map.bump now key (nameable now window)).2 },
        if clockEnd ≤ now + window ∧ (s.map.current now key).count = 0 then .panicked
        else .done (.ok ((s.map.current now key).count + 1))) := by
  simp only [incrementInWindow, Activity.run, Activity.keep, if_pos hatomic, incrementAtOnce]
  by_cases hopens : clockEnd ≤ now + window ∧ (s.map.current now key).count = 0
  · rw [if_pos hopens, if_pos hopens, nameable, if_pos hopens.1]
    rfl
  · have hsame : s.map.incrementInWindow now key window =
        s.map.bump now key (nameable now window) := by
      unfold CounterMap.incrementInWindow nameable
      split
      · rename_i hbeyond
        exact CounterMap.bump_eq_bump (fun hzero ↦ hopens ⟨hbeyond, hzero⟩) _ _
      · rfl
    rw [if_neg hopens, if_neg hopens]
    simp only [Activity.modifyGet, Activity.run, hsame, CounterMap.bump_fst]

end CounterStore

end RpcGateway.Access
