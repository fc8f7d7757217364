import RpcGateway.Proofs.Access.Lives

/-!
# Sweeps

A map of counters is swept when it has outgrown twice the size that its last sweep has left, which
the increment that finds it so does before it writes its own counter. So a map is never larger than
what that sweep has left and the keys that were created since, and of the counters that a sweep has
to look at, at least half have been created since the last one. A sweep drops what has expired and
nothing else does but closing. Hence a counter that has not expired is in the map, as its life says.
-/

namespace RpcGateway.Access

variable {m : CounterMap} {now : Time} {key : String}

namespace CounterMap

theorem maybeSweep_of_le (h : m.size ≤ m.sweepAt) (now : Time) : m.maybeSweep now = m := if_pos h

/-- The mark of the claim does not outlast the sweep. -/
theorem maybeSweep_of_lt (h : m.sweepAt < m.size) (now : Time) : m.maybeSweep now = m.sweep now :=
  if_neg (Nat.not_le.mpr h)

theorem sweepAt_sweep (m : CounterMap) (now : Time) :
    (m.sweep now).sweepAt = max sweepThreshold (2 * (m.sweep now).size) :=
  congrArg (max sweepThreshold) (Nat.mul_comm _ 2)

/-- A sweep removes the counters that have expired and no others. -/
theorem getElem?_sweep_eq_some_iff {c : Counter} : (m.sweep now).counters[key]? = some c ↔
    m.counters[key]? = some c ∧ ¬ c.isExpired now = true := by
  simp [sweep, Option.filter_eq_some_iff]

theorem bump_snd (m : CounterMap) (now : Time) (key : String) (window : Option Nat) :
    (m.bump now key window).2 = { m.maybeSweep now with
      counters := (m.maybeSweep now).counters.insert key (m.bumped now key window) } := by
  simp only [bump, bumped, m.current_maybeSweep (Nat.le_refl now)]

/-- An expiry creates no counter. -/
theorem size_expireIfUnset (m : CounterMap) (now : Time) (key : String) (ttl : Nat) :
    (m.expireIfUnset now key ttl).size = m.size := by
  unfold expireIfUnset size
  split
  · rename_i hfound
    have hmem : key ∈ m.counters := Std.HashMap.mem_iff_isSome_getElem?.mpr (by rw [hfound]; rfl)
    rw [Std.HashMap.size_insert, if_pos hmem]
  · rfl

theorem size_expireAfter (m : CounterMap) (now : Time) (key : String) (window : Option Nat) :
    (m.expireAfter now key window).size = m.size := by
  cases window with
  | none => rfl
  | some window => exact m.size_expireIfUnset now key window

theorem sweepAt_expireAfter (m : CounterMap) (now : Time) (key : String) (window : Option Nat) :
    (m.expireAfter now key window).sweepAt = m.sweepAt := by
  cases window with
  | none => rfl
  | some window => exact m.sweepAt_expireIfUnset now key window

end CounterMap

/-! ## Growth between sweeps -/

/-- How a map has grown: to what size its last sweep has brought it, if there was one, and how many
keys have been created since. -/
structure Growth where
  left? : Option Nat := none
  created : Nat := 0
deriving DecidableEq

namespace Growth

variable {g : Growth}

def left (g : Growth) : Nat := g.left?.getD 0

/-- By a sweep that leaves a map. -/
def swept (m : CounterMap) : Growth := ⟨some m.size, 0⟩

/-- By the counter of a key that is written into a map. -/
def written (g : Growth) (m : CounterMap) (key : String) : Growth :=
  if key ∈ m.counters then g else { g with created := g.created + 1 }

/-- By an increment, which may sweep first. -/
def incremented (g : Growth) (m : CounterMap) (now : Time) (key : String) : Growth :=
  if m.sweepAt < m.size then (swept (m.sweep now)).written (m.sweep now) key else g.written m key

def after (g : Growth) (m : CounterMap) (now : Time) : Request → Growth
  | .sweep => swept (m.sweep now)
  | .increment key => g.incremented m now key
  | .window key _ => g.incremented m now key
  | _ => g

theorem left_written (g : Growth) (m : CounterMap) (key : String) :
    (g.written m key).left = g.left := by
  unfold written
  split
  · rfl
  · rfl

/-- The trigger of a map goes by what its last sweep has left, and its size does not leave the
trigger behind. -/
structure Paces (g : Growth) (m : CounterMap) : Prop where
  sweepAt : m.sweepAt = max CounterMap.sweepThreshold (2 * g.left)
  size_le : m.size ≤ g.left + g.created
  bounded : m.size ≤ m.sweepAt + 1

theorem paces_empty : Paces {} {} where
  sweepAt := rfl
  size_le := Nat.le_refl 0
  bounded := Nat.zero_le _

theorem paces_sweep (m : CounterMap) (now : Time) : (swept (m.sweep now)).Paces (m.sweep now) where
  sweepAt := m.sweepAt_sweep now
  size_le := Nat.le_refl _
  bounded := by
    rw [m.sweepAt_sweep]
    omega

theorem Paces.close (h : g.Paces m) : g.Paces m.close where
  sweepAt := h.sweepAt
  size_le := Nat.zero_le _
  bounded := Nat.zero_le _

theorem Paces.expireAfter (h : g.Paces m) (now : Time) (key : String) (window : Option Nat) :
    g.Paces (m.expireAfter now key window) where
  sweepAt := (m.sweepAt_expireAfter now key window).trans h.sweepAt
  size_le := by
    rw [m.size_expireAfter]
    exact h.size_le
  bounded := by
    rw [m.size_expireAfter, m.sweepAt_expireAfter]
    exact h.bounded

/-- There is room for one counter more in a map that need not be swept. -/
theorem Paces.insert (h : g.Paces m) (hroom : m.size ≤ m.sweepAt) (key : String) (c : Counter) :
    (g.written m key).Paces { m with counters := m.counters.insert key c } where
  sweepAt := by
    rw [left_written]
    exact h.sweepAt
  size_le := by
    have hsize := h.size_le
    rw [left_written, CounterMap.size, Std.HashMap.size_insert, written]
    unfold CounterMap.size at hsize
    split
    · exact hsize
    · exact Nat.succ_le_succ hsize
  bounded := Nat.le_trans Std.HashMap.size_insert_le (Nat.succ_le_succ hroom)

theorem Paces.bump (h : g.Paces m) (now : Time) (key : String) (window : Option Nat) :
    (g.incremented m now key).Paces (m.bump now key window).2 := by
  rw [m.bump_snd, incremented]
  by_cases hgrown : m.sweepAt < m.size
  · rw [if_pos hgrown, CounterMap.maybeSweep_of_lt hgrown]
    apply (paces_sweep m now).insert
    rw [m.sweepAt_sweep]
    omega
  · have hroom := Nat.not_lt.mp hgrown
    rw [if_neg hgrown, CounterMap.maybeSweep_of_le hroom]
    exact h.insert hroom key _

/-- Half of the counters that a due sweep looks at have been created since the last one. -/
theorem Paces.half_created (h : g.Paces m) (hgrown : m.sweepAt < m.size) :
    (m.size - 1) / 2 < g.created := by
  have htrigger := h.sweepAt
  have hsize := h.size_le
  omega

end Growth

/-! ## A store in memory -/

def Request.key? : Request → Option String
  | .increment key => some key
  | .expire key _ => some key
  | .window key _ => some key
  | _ => none

/-- Whether a request sweeps a map, be it on the way to something else. -/
def Request.Sweeps (m : CounterMap) : Request → Prop
  | .sweep => True
  | .increment _ => m.sweepAt < m.size
  | .window _ _ => m.sweepAt < m.size
  | _ => False

/-- What becomes of a map by a request to a store that does both at once. -/
def Request.onMap (m : CounterMap) (now : Time) : Request → CounterMap
  | .advance _ => m
  | .sweep => m.sweep now
  | .close => m.close
  | .increment key => (m.bump now key none).2
  | .expire key ttl => m.expireAfter now key (CounterStore.nameable now ttl)
  | .window key ms => (m.bump now key (CounterStore.nameable now ms)).2

theorem Growth.Paces.after {g : Growth} (h : g.Paces m) (now : Time) (r : Request) :
    (g.after m now r).Paces (r.onMap m now) := by
  cases r with
  | advance ms => exact h
  | sweep => exact paces_sweep m now
  | close => exact h.close
  | increment key => exact h.bump now key none
  | expire key ttl => exact h.expireAfter now key _
  | window key window => exact h.bump now key _

/-- What a request that sweeps leaves of the keys that it is not for. -/
theorem Request.getElem?_onMap_eq_some_iff {r : Request} (hsweeps : r.Sweeps m) {name : String}
    (hname : r.key? ≠ some name) {c : Counter} : (r.onMap m now).counters[name]? = some c ↔
      m.counters[name]? = some c ∧ ¬ c.isExpired now = true := by
  have hbump (key : String) (hgrown : m.sweepAt < m.size) (hne : some key ≠ some name)
      (window : Option Nat) : (m.bump now key window).2.counters[name]? = some c ↔
        m.counters[name]? = some c ∧ ¬ c.isExpired now = true := by
    rw [CounterMap.getElem?_bump, if_neg fun hsame ↦ hne (congrArg some hsame.symm),
      CounterMap.maybeSweep_of_lt hgrown]
    exact CounterMap.getElem?_sweep_eq_some_iff
  cases r with
  | sweep => exact CounterMap.getElem?_sweep_eq_some_iff
  | increment key => exact hbump key hsweeps hname none
  | window key window => exact hbump key hsweeps hname _
  | advance ms => cases hsweeps
  | close => cases hsweeps
  | expire key ttl => cases hsweeps

/-- A counter has a life just if it was incremented since the store was closed last. -/
theorem life_ne_nil_iff {atomic : Bool} {log : List Served} : life atomic key log ≠ [] ↔
    ∃ e ∈ log.takeWhile (!·.closes), e.key? = some key ∧ e.counts = true := by
  induction log with
  | nil => simp [life]
  | cons e log ih =>
    rw [life]
    by_cases hcloses : e.closes = true
    · simp [hcloses]
    rw [if_neg hcloses, List.takeWhile_cons_of_pos (by simpa using hcloses)]
    simp only [List.mem_cons, exists_eq_or_imp, ← ih]
    by_cases hkey : e.key? = some key
    · rw [if_neg (not_not_intro hkey)]
      by_cases hcounts : e.counts = true
      · rw [if_pos hcounts]
        refine iff_of_true ?_ (.inl ⟨hkey, hcounts⟩)
        split <;> exact List.cons_ne_nil _ _
      · rw [if_neg hcounts]
        by_cases hempty : life atomic key log = []
        · simp [hempty, hcounts]
        · simp [hempty]
    · simp [hkey]

namespace Serving

variable {s : Serving}

/-- A store in memory does both at once, takes no time and never fails. -/
structure InMemory (s : Serving) : Prop where
  atomic : s.store.atomic = true
  prompt : s.store.Prompt
  reliable : s.store.Reliable
  closes : s.store.closeFails = false

theorem InMemory.map_step (h : s.InMemory) (r : Request) :
    (s.step r).store.map = r.onMap s.store.map s.now := by
  cases r with
  | advance ms => rfl
  | sweep => rfl
  | close =>
    rw [step_close]
    exact if_neg (by simp [h.closes])
  | increment key =>
    rw [step_increment h.prompt]
    exact if_neg (by simp [h.reliable.1])
  | expire key ttl =>
    rw [step_expire]
    exact if_neg (by simp [h.reliable.2])
  | window key window => rw [step_window_of_atomic h.atomic]; rfl

theorem InMemory.step (h : s.InMemory) (r : Request) : (s.step r).InMemory := by
  have hsetup := step_setup h.prompt r
  refine ⟨hsetup.atomic.trans h.atomic, hsetup.prompt h.prompt, hsetup.reliable h.reliable, ?_⟩
  cases r with
  | advance ms => exact h.closes
  | sweep => exact h.closes
  | close => rw [step_close]; exact h.closes
  | increment key => rw [step_increment h.prompt]; exact h.closes
  | expire key ttl => rw [step_expire]; exact h.closes
  | window key window => rw [step_window_of_atomic h.atomic]; exact h.closes

/-- How the map of a store grows over requests. -/
def growth (s : Serving) (g : Growth) : List Request → Growth
  | [] => g
  | r :: rs => (s.step r).growth (g.after s.store.map s.now r) rs

theorem InMemory.run (h : s.InMemory) {g : Growth} (hpaces : g.Paces s.store.map)
    (rs : List Request) : (s.run rs).InMemory ∧ (s.growth g rs).Paces (s.run rs).store.map := by
  induction rs generalizing s g with
  | nil => exact ⟨h, hpaces⟩
  | cons r rs ih =>
    apply ih (h.step r)
    rw [h.map_step]
    exact hpaces.after s.now r

theorem inMemory_atOnce (start : Time) : (atOnce start).InMemory where
  atomic := rfl
  prompt _ := rfl
  reliable := ⟨fun _ ↦ rfl, fun _ ↦ rfl⟩
  closes := rfl

/-- A counter that has been incremented and has not expired is in the map. -/
theorem Sound.getElem?_of_life (h : s.Sound) (hlife : life s.store.atomic key s.log ≠ [])
    (hlive : ¬ (tally s.store.atomic (life s.store.atomic key s.log)).isExpired s.now = true) :
    s.store.map.counters[key]? =
      some (tally s.store.atomic (life s.store.atomic key s.log)) := by
  have hcurrent := (h.lives key).trans (Counter.left_of_not_isExpired hlive)
  have hcount := count_tally_ne_zero hlife
  rw [← hcurrent] at hcount ⊢
  rw [current, CounterMap.current_eq] at hcount ⊢
  cases hfound : s.store.map.counters[key]? with
  | none => simp [hfound] at hcount
  | some c =>
    by_cases hexpired : c.isExpired s.now = true
    · simp [hfound, Counter.left_of_isExpired hexpired] at hcount
    · simp [Counter.left_of_not_isExpired hexpired]

/-- The map of a store in memory after any requests. Its trigger is twice what its last sweep has
left, or the least one there is, and not the mark of a sweep that is under way. It is larger than
its trigger by one counter at most. The counters that have been incremented since the last closing
are in it with their counts and expiries, unless they have expired. A sweep, asked for or due,
removes just the counters that have expired, and if it is due, half of the counters that it looks at
have been created since the last one. -/
theorem map_stays_bounded (start : Time) (rs : List Request) :
    let s := (atOnce start).run rs
    let g := (atOnce start).growth {} rs
    let m := s.store.map
    (m.sweepAt = match g.left? with
      | none => 10000
      | some n => max 10000 (2 * n)) ∧
      m.sweepAt ≠ Word.max64 ∧
      m.size ≤ m.sweepAt + 1 ∧
      (∀ key, let c := tally true (life true key s.log)
        (∃ e ∈ s.log.takeWhile (!·.closes), e.key? = some key ∧ e.counts = true) →
          ¬ c.isExpired s.now = true → m.counters[key]? = some c) ∧
      (∀ r : Request, r.Sweeps m → ∀ name c, r.key? ≠ some name →
        ((s.step r).store.map.counters[name]? = some c ↔
          m.counters[name]? = some c ∧ ¬ c.isExpired s.now = true)) ∧
      ∀ r : Request, r.Sweeps m → r ≠ .sweep → (m.size - 1) / 2 < g.created := by
  intro s g m
  have hmemory := inMemory_atOnce start
  obtain ⟨hrun, hpaces⟩ : s.InMemory ∧ g.Paces m := hmemory.run Growth.paces_empty rs
  have hsound : s.Sound := (sound_new rfl hmemory.prompt start).run rs
  have htrigger : m.sweepAt = max 10000 (2 * g.left) := hpaces.sweepAt
  refine ⟨?_, ?_, hpaces.bounded, ?_, ?_, ?_⟩
  · rw [htrigger, Growth.left]
    cases g.left? with
    | none => rfl
    | some n => rfl
  · -- Triggers are even, and the mark is odd.
    rw [htrigger, Word.max64]
    omega
  · intro key c hincremented hlive
    have hkept (hlife : life s.store.atomic key s.log ≠ []) := hsound.getElem?_of_life hlife
    rw [hrun.atomic] at hkept
    exact hkept (life_ne_nil_iff.mpr hincremented) hlive
  · intro r hsweeps name c hname
    rw [hrun.map_step]
    exact Request.getElem?_onMap_eq_some_iff hsweeps hname
  · intro r hsweeps hdue
    have hgrown : m.sweepAt < m.size := by
      cases r with
      | sweep => exact absurd rfl hdue
      | increment key => exact hsweeps
      | window key window => exact hsweeps
      | advance ms => cases hsweeps
      | close => cases hsweeps
      | expire key ttl => cases hsweeps
    exact hpaces.half_created hgrown

end Serving

end RpcGateway.Access
