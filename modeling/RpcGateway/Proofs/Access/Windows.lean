import Mathlib.Data.List.Basic
import RpcGateway.Proofs.Access.Counters

/-!
# Counting in windows

The windows of a key are read off the list of all increments made so far: an increment that finds a
window of its key open joins it, and any other one opens a window, which lasts as long as that
increment asks for. Nothing else is looked at, neither other keys nor sweeps. A store follows these
windows: what it would find of a key at any later instant is the size of the window that is open
then, and so each count that it returns is one more than the number of increments in the window.
-/

namespace RpcGateway.Access

variable {α : Type}

/-- An increment as it was asked for, and what came back, if anything did. -/
structure Increment (α : Type) where
  key : String
  window : Nat
  instant : Time
  result : Option α
deriving DecidableEq

/-- The increments of a key that are counted together: the one that opened the window and those that
found it open, the last one first. -/
structure Window (α : Type) where
  opener : Increment α
  later : List (Increment α) := []

namespace Window

def all (w : Window α) : List (Increment α) := w.later ++ [w.opener]

def size (w : Window α) : Nat := w.later.length + 1

def ends (w : Window α) : Time := w.opener.instant + w.opener.window

/-- An end that the clock cannot name is never reached. -/
def IsOpen (w : Window α) (t : Time) : Prop := t < w.ends ∨ clockEnd ≤ w.ends

instance (w : Window α) (t : Time) : Decidable (w.IsOpen t) :=
  inferInstanceAs (Decidable (_ ∨ _))

theorem not_isOpen_iff (w : Window α) (t : Time) :
    ¬ w.IsOpen t ↔ w.ends ≤ t ∧ w.ends < clockEnd := by
  unfold IsOpen
  rw [not_or, Nat.not_lt, Nat.not_le]

/-- The counter that goes with a window. -/
def counter (w : Window α) : Counter :=
  ⟨w.size, if clockEnd ≤ w.ends then none else some w.ends⟩

theorem isExpired_counter_iff (w : Window α) (t : Time) :
    w.counter.isExpired t = true ↔ ¬ w.IsOpen t := by
  unfold counter Counter.isExpired IsOpen
  dsimp only
  by_cases hbeyond : clockEnd ≤ w.ends
  · simp [hbeyond]
  · simp [hbeyond]

theorem left_counter (w : Window α) (t : Time) :
    w.counter.left t = if w.IsOpen t then w.counter else ⟨0, none⟩ := by
  unfold Counter.left
  by_cases hopen : w.IsOpen t
  · rw [if_neg fun hexpired ↦ (w.isExpired_counter_iff t).mp hexpired hopen, if_pos hopen]
  · rw [if_pos ((w.isExpired_counter_iff t).mpr hopen), if_neg hopen]

/-- One more increment of a key whose windows so far, the last one first, are given. -/
def joined (i : Increment α) : List (Window α) → List (Window α)
  | [] => [⟨i, []⟩]
  | w :: ws =>
    if w.IsOpen i.instant then { w with later := i :: w.later } :: ws else ⟨i, []⟩ :: w :: ws

end Window

/-- The windows of a key, the last one first, by the increments made so far, the last one first. -/
def windows (key : String) : List (Increment α) → List (Window α)
  | [] => []
  | i :: earlier =>
    if i.key = key then Window.joined i (windows key earlier) else windows key earlier

/-- How many increments are in the window that a key has open at an instant. -/
def counted (key : String) (t : Time) (log : List (Increment α)) : Nat :=
  match windows key log with
  | [] => 0
  | w :: _ => if w.IsOpen t then w.size else 0

/-- Every increment came back with an answer to its place in its window, unless the clock could not
get to the end of the window that it had to open. -/
def Answered (answer : Nat → α) (log : List (Increment α)) : Prop :=
  ∀ later i earlier, log = later ++ i :: earlier → i.result =
    if clockEnd ≤ i.instant + i.window ∧ counted i.key i.instant earlier = 0 then none
    else some (answer (counted i.key i.instant earlier + 1))

theorem answered_nil (answer : Nat → α) : Answered answer [] := by
  intro later i earlier hlog
  simp at hlog

theorem Answered.cons {answer : Nat → α} {log : List (Increment α)} {i : Increment α}
    (h : Answered answer log) (hresult : i.result =
      if clockEnd ≤ i.instant + i.window ∧ counted i.key i.instant log = 0 then none
      else some (answer (counted i.key i.instant log + 1))) :
    Answered answer (i :: log) := by
  intro later j earlier hlog
  cases later with
  | nil =>
    injection hlog with hhead htail
    subst hhead htail
    exact hresult
  | cons k later =>
    injection hlog with hhead htail
    exact h later j earlier htail

/-! ## Windows apart -/

section

variable {key : String} {log : List (Increment α)}

theorem windows_filter (key : String) (log : List (Increment α)) :
    windows key (log.filter (·.key = key)) = windows key log := by
  induction log with
  | nil => rfl
  | cons i log ih =>
    rw [windows]
    by_cases hkey : i.key = key
    · rw [List.filter_cons_of_pos (by simpa using hkey), windows, if_pos hkey, if_pos hkey, ih]
    · rw [List.filter_cons_of_neg (by simpa using hkey), if_neg hkey, ih]

/-- The number in a window depends on the increments of its key alone. -/
theorem counted_filter (key : String) (t : Time) (log : List (Increment α)) :
    counted key t (log.filter (·.key = key)) = counted key t log := by
  unfold counted
  rw [windows_filter]

theorem Window.flatMap_joined (i : Increment α) (ws : List (Window α)) :
    (joined i ws).flatMap all = i :: ws.flatMap all := by
  cases ws with
  | nil => rfl
  | cons w ws =>
    rw [joined]
    by_cases hopen : w.IsOpen i.instant
    · rw [if_pos hopen]
      rfl
    · rw [if_neg hopen]
      rfl

/-- Every increment of a key is in one of its windows, in the order in which they came. -/
theorem flatMap_windows (key : String) (log : List (Increment α)) :
    (windows key log).flatMap Window.all = log.filter (·.key = key) := by
  induction log with
  | nil => rfl
  | cons i log ih =>
    rw [windows]
    by_cases hkey : i.key = key
    · rw [if_pos hkey, List.filter_cons_of_pos (by simpa using hkey), Window.flatMap_joined, ih]
    · rw [if_neg hkey, List.filter_cons_of_neg (by simpa using hkey), ih]

theorem mem_of_windows {w : Window α} {i : Increment α} (hw : w ∈ windows key log)
    (hi : i ∈ w.all) : i ∈ log ∧ i.key = key := by
  have hflat : i ∈ (windows key log).flatMap Window.all := List.mem_flatMap_of_mem hw hi
  rw [flatMap_windows] at hflat
  simpa using List.mem_filter.mp hflat

/-- A window is opened when the one before it has ended. -/
theorem isChain_windows (key : String) (log : List (Increment α)) :
    (windows key log).IsChain fun newer older ↦ ¬ older.IsOpen newer.opener.instant := by
  induction log with
  | nil => exact .nil
  | cons i log ih =>
    rw [windows]
    split
    · generalize windows key log = ws at ih ⊢
      cases ws with
      | nil => exact .singleton _
      | cons w ws =>
        rw [Window.joined]
        by_cases hopen : w.IsOpen i.instant
        · rw [if_pos hopen]
          cases ih with
          | singleton => exact .singleton _
          | cons_cons hhead htail => exact .cons_cons hhead htail
        · rw [if_neg hopen]
          exact ih.cons_cons hopen
    · exact ih

/-- What holds of a window when it is opened, and is kept by each increment that joins it, holds of
all windows. -/
theorem forall_windows {P : Window α → Prop}
    (hopens : ∀ later i earlier, log = later ++ i :: earlier → i.key = key →
      counted key i.instant earlier = 0 → P ⟨i, []⟩)
    (hjoins : ∀ later i earlier w, log = later ++ i :: earlier → i.key = key →
      counted key i.instant earlier = w.size → w ∈ windows key earlier → w.IsOpen i.instant →
        P w → P { w with later := i :: w.later }) :
    ∀ w ∈ windows key log, P w := by
  induction log with
  | nil =>
    intro w hw
    cases hw
  | cons i log ih =>
    -- The premises speak of every place in the log, so they hold of the log before the last
    -- increment.
    have hbefore : ∀ w ∈ windows key log, P w :=
      ih (fun later j earlier hlog ↦ hopens (i :: later) j earlier (congrArg (i :: ·) hlog))
        fun later j earlier w hlog ↦ hjoins (i :: later) j earlier w (congrArg (i :: ·) hlog)
    rw [windows]
    split
    · rename_i hkey
      have hopened := hopens [] i log rfl hkey
      have hjoined := hjoins [] i log
      unfold counted at hopened hjoined
      generalize windows key log = ws at hbefore hopened hjoined ⊢
      cases ws with
      | nil => exact List.forall_mem_singleton.mpr (hopened rfl)
      | cons w ws =>
        rw [Window.joined]
        by_cases hopen : w.IsOpen i.instant
        · rw [if_pos hopen]
          have hhead := hjoined w rfl hkey (if_pos hopen) List.mem_cons_self hopen
            (hbefore w List.mem_cons_self)
          exact List.forall_mem_cons.mpr
            ⟨hhead, fun v hv ↦ hbefore v (List.mem_cons_of_mem w hv)⟩
        · rw [if_neg hopen]
          exact List.forall_mem_cons.mpr ⟨hopened (if_neg hopen), hbefore⟩
    · exact hbefore

/-- Only the increments that find a window open join it. -/
theorem isOpen_of_mem_later {w : Window α} {i : Increment α} (hw : w ∈ windows key log)
    (hi : i ∈ w.later) : w.IsOpen i.instant := by
  have hall : ∀ w ∈ windows key log, ∀ i ∈ w.later, w.IsOpen i.instant := by
    apply forall_windows
    · intro later i earlier hlog hkey hnone j hj
      cases hj
    · intro later i earlier w hlog hkey hcounted hmem hopen ih
      exact List.forall_mem_cons.mpr ⟨hopen, ih⟩
  exact hall w hw i hi

/-- A window is not older than its first increment, if the clock does not go back. -/
theorem opener_le_of_mem_all {w : Window α} {i : Increment α}
    (hlog : log.Pairwise fun later earlier ↦ earlier.instant ≤ later.instant)
    (hw : w ∈ windows key log) (hi : i ∈ w.all) : w.opener.instant ≤ i.instant := by
  have hall : ∀ w ∈ windows key log, ∀ i ∈ w.all, w.opener.instant ≤ i.instant := by
    apply forall_windows
    · intro later i earlier _ _ _
      exact List.forall_mem_singleton.mpr (Nat.le_refl _)
    · intro later i earlier w hsplit hkey hcounted hmem hopen ih
      have hopener : w.opener ∈ w.all := List.mem_append_right _ (List.mem_singleton_self _)
      have hearlier := (mem_of_windows hmem hopener).1
      rw [hsplit] at hlog
      have hle := (List.pairwise_cons.mp (List.pairwise_append.mp hlog).2.1).1 w.opener hearlier
      exact List.forall_mem_cons.mpr ⟨hle, ih⟩
  exact hall w hw i hi

/-- The answers in a window are those to the numbers from one on. -/
theorem Answered.results {answer : Nat → α} (h : Answered answer log) {w : Window α}
    (hw : w ∈ windows key log) :
    w.opener.result = (if clockEnd ≤ w.ends then none else some (answer 1)) ∧
      w.later.reverse.map (·.result) =
        (List.range' 2 w.later.length).map fun n ↦ some (answer n) := by
  revert w
  apply forall_windows
  · intro later i earlier hlog hkey hnone
    have hresult := h later i earlier hlog
    rw [hkey, hnone] at hresult
    exact ⟨hresult.trans (if_congr (and_iff_left rfl) rfl rfl), rfl⟩
  · intro later i earlier w hlog hkey hcounted hmem hopen ih
    have hresult := h later i earlier hlog
    rw [hkey, hcounted, if_neg fun hbeyond ↦ Nat.succ_ne_zero _ hbeyond.2] at hresult
    refine ⟨ih.1, ?_⟩
    rw [List.reverse_cons, List.map_append, ih.2, List.length_cons, List.range'_concat,
      List.map_append, List.map_singleton, List.map_singleton, hresult, Window.size, Nat.one_mul]
    have hplace : w.later.length + 1 + 1 = 2 + w.later.length := Nat.add_comm _ 2
    rw [hplace]

end

/-! ## The counter of a key -/

/-- What a store finds of a key at an instant, by the windows of the key. -/
def counterOf (ws : List (Window α)) (t : Time) : Counter :=
  match ws with
  | [] => ⟨0, none⟩
  | w :: _ => w.counter.left t

theorem count_counterOf (key : String) (t : Time) (log : List (Increment α)) :
    (counterOf (windows key log) t).count = counted key t log := by
  unfold counterOf counted
  cases windows key log with
  | nil => rfl
  | cons w ws =>
    dsimp only
    rw [w.left_counter]
    split <;> rfl

variable {m : CounterMap} {now t : Time} {rename : String → String} {log : List (Increment α)}

/-- An increment leaves the counter of the window that it has joined or opened. -/
theorem left_bumped {name : String} {i : Increment α} {ws : List (Window α)}
    (hcurrent : m.current i.instant name = counterOf ws i.instant) (t : Time) :
    (m.bumped i.instant name (CounterStore.nameable i.instant i.window)).left t =
      counterOf (Window.joined i ws) t := by
  have hopener (hzero : m.current i.instant name = ⟨0, none⟩) :
      m.bumped i.instant name (CounterStore.nameable i.instant i.window) =
        (⟨i, []⟩ : Window α).counter := by
    unfold CounterMap.bumped CounterStore.nameable Window.counter
    rw [hzero]
    by_cases hbeyond : clockEnd ≤ i.instant + i.window
    · simp [Window.ends, Window.size, hbeyond]
    · simp [Window.ends, Window.size, hbeyond]
  cases ws with
  | nil => exact congrArg (Counter.left · t) (hopener hcurrent)
  | cons w ws =>
    have hleft : m.current i.instant name = w.counter.left i.instant := hcurrent
    rw [w.left_counter] at hleft
    rw [Window.joined]
    by_cases hopen : w.IsOpen i.instant
    · rw [if_pos hopen] at hleft ⊢
      have hcount : w.counter.count ≠ 0 := Nat.succ_ne_zero _
      unfold CounterMap.bumped
      rw [hleft, if_neg hcount]
      rfl
    · rw [if_neg hopen] at hleft ⊢
      exact congrArg (Counter.left · t) (hopener hleft)

/-- The map is at every later instant what the windows of the keys say. -/
def Follows (rename : String → String) (m : CounterMap) (now : Time) (log : List (Increment α)) :
    Prop :=
  ∀ key t, now ≤ t → m.current t (rename key) = counterOf (windows key log) t

theorem follows_empty (rename : String → String) (now : Time) :
    Follows rename {} now ([] : List (Increment α)) := by
  intro key t _
  simp [CounterMap.current, counterOf, windows]

theorem Follows.count_eq (h : Follows rename m now log) (key : String) :
    (m.current now (rename key)).count = counted key now log := by
  rw [← count_counterOf, h key now (Nat.le_refl now)]

theorem Follows.later (h : Follows rename m now log) (hle : now ≤ t) : Follows rename m t log :=
  fun key _ ht ↦ h key _ (Nat.le_trans hle ht)

theorem Follows.sweep (h : Follows rename m now log) : Follows rename (m.sweep now) now log := by
  intro key t hle
  rw [m.current_sweep hle]
  exact h key t hle

theorem Follows.increment (h : Follows rename m now log) (hrename : Function.Injective rename)
    (key : String) (window : Nat) (result : Option α) :
    Follows rename (m.bump now (rename key) (CounterStore.nameable now window)).2 now
      (⟨key, window, now, result⟩ :: log) := by
  intro name t hle
  rw [m.current_bump hle, windows]
  by_cases hname : name = key
  · subst hname
    rw [if_pos rfl, if_pos rfl]
    exact left_bumped (i := ⟨name, window, now, result⟩) (h name now (Nat.le_refl now)) t
  · rw [if_neg (hrename.ne hname), if_neg (Ne.symm hname)]
    exact h name t hle

/-! ## A run of a store -/

/-- What came back from an increment. -/
def returned : Outcome (Except StoreError Nat) → Option Nat
  | .done (.ok n) => some n
  | _ => none

/-- A store at an instant, with the increments made so far, the last one first. -/
structure Counting where
  now : Time
  store : CounterStore := {}
  log : List (Increment Nat) := []

namespace Counting

inductive Event where
  | advance (ms : Nat)
  | sweep
  | increment (key : String) (window : Nat)
deriving DecidableEq

variable {s s' : Counting} {key : String}

/-- Whether an event is an increment of a key, or time passing. -/
def Event.concerns (key : String) : Event → Bool
  | advance _ => true
  | sweep => false
  | increment name _ => name = key

theorem Event.concerns_increment {name : String} {window : Nat} :
    (increment name window).concerns key = true ↔ name = key := decide_eq_true_iff

def new (start : Time) : Counting where
  now := start

def step (s : Counting) : Event → Counting
  | .advance ms => { s with now := s.now + ms }
  | .sweep => { s with store := { s.store with map := s.store.map.sweep s.now } }
  | .increment key window =>
    let (now, store, outcome) := (CounterStore.incrementInWindow key window).run s.now s.store
    ⟨now, store, ⟨key, window, s.now, returned outcome⟩ :: s.log⟩

def run (s : Counting) (events : List Event) : Counting := events.foldl step s

/-- A store that follows the windows and has told what they say. -/
structure Sound (s : Counting) : Prop where
  atomic : s.store.atomic = true
  follows : Follows id s.store.map s.now s.log
  answered : Answered id s.log

/-- The number that an increment gets. -/
def place (s : Counting) (key : String) (window : Nat) : Option Nat :=
  if clockEnd ≤ s.now + window ∧ counted key s.now s.log = 0 then none
  else some (counted key s.now s.log + 1)

theorem Sound.step_increment (h : s.Sound) (key : String) (window : Nat) :
    s.step (.increment key window) =
      ⟨s.now, { s.store with
        map := (s.store.map.bump s.now key (CounterStore.nameable s.now window)).2 },
        ⟨key, window, s.now, s.place key window⟩ :: s.log⟩ := by
  have hcount : (s.store.map.current s.now key).count = counted key s.now s.log :=
    h.follows.count_eq key
  simp only [step, CounterStore.run_incrementInWindow h.atomic, hcount, place]
  split <;> rfl

theorem Sound.now_increment (h : s.Sound) (key : String) (window : Nat) :
    (s.step (.increment key window)).now = s.now := by
  rw [h.step_increment]

theorem Sound.log_increment (h : s.Sound) (key : String) (window : Nat) :
    (s.step (.increment key window)).log = ⟨key, window, s.now, s.place key window⟩ :: s.log := by
  rw [h.step_increment]

theorem Sound.step (h : s.Sound) (e : Event) : (s.step e).Sound := by
  cases e with
  | advance ms => exact ⟨h.atomic, h.follows.later (Nat.le_add_right _ _), h.answered⟩
  | sweep => exact ⟨h.atomic, h.follows.sweep, h.answered⟩
  | increment key window =>
    rw [h.step_increment]
    exact ⟨h.atomic, h.follows.increment Function.injective_id key window _, h.answered.cons rfl⟩

theorem sound_new (start : Time) : (new start).Sound where
  atomic := rfl
  follows := follows_empty id start
  answered := answered_nil id

theorem Sound.run (h : s.Sound) (events : List Event) : (s.run events).Sound := by
  induction events generalizing s with
  | nil => exact h
  | cons e events ih => exact ih (h.step e)

/-- Two stores at one instant of which the second has counted the increments of the key alone. -/
structure Projects (key : String) (s s' : Counting) : Prop where
  sound : s.Sound
  sound' : s'.Sound
  now : s'.now = s.now
  log : s'.log = s.log.filter (·.key = key)

theorem Projects.place_eq (h : Projects key s s') (window : Nat) :
    s'.place key window = s.place key window := by
  unfold place
  rw [h.now, h.log, counted_filter]

theorem Projects.step (h : Projects key s s') (e : Event) :
    Projects key (s.step e) (if e.concerns key then s'.step e else s') := by
  cases e with
  | advance ms =>
    exact ⟨h.sound.step (.advance ms), h.sound'.step (.advance ms), congrArg (· + ms) h.now, h.log⟩
  | sweep => exact ⟨h.sound.step .sweep, h.sound', h.now, h.log⟩
  | increment name window =>
    have hsound := h.sound.step (.increment name window)
    by_cases hname : name = key
    · have hsound' := h.sound'.step (.increment name window)
      subst hname
      rw [if_pos (Event.concerns_increment.mpr rfl)]
      apply mk hsound hsound'
      · rw [h.sound.now_increment, h.sound'.now_increment, h.now]
      · rw [h.sound.log_increment, h.sound'.log_increment, h.place_eq, h.now, h.log]
        exact (List.filter_cons_of_pos (by simp)).symm
    · rw [if_neg fun hconcerns ↦ hname (Event.concerns_increment.mp hconcerns)]
      apply mk hsound h.sound'
      · rw [h.sound.now_increment, h.now]
      · rw [h.sound.log_increment, h.log]
        exact (List.filter_cons_of_neg (by simpa using hname)).symm

theorem Projects.run (h : Projects key s s') (events : List Event) :
    Projects key (s.run events) (s'.run (events.filter (·.concerns key))) := by
  induction events generalizing s s' with
  | nil => exact h
  | cons e events ih =>
    have hstep := ih (h.step e)
    rw [List.filter_cons]
    split at hstep
    · rename_i hconcerns
      rw [if_pos hconcerns]
      exact hstep
    · rename_i hconcerns
      rw [if_neg hconcerns]
      exact hstep

/-- Each increment that comes back tells its place in the window that its key has open, the first
one of a window being the one that opens it; only an increment that has to open a window to whose
end the clock does not get does not come back. What comes back for a key is the same without the
increments of other keys and without the sweeps. -/
theorem counts_in_windows (start : Time) (events : List Event) :
    let s := (new start).run events
    (∀ later i earlier, s.log = later ++ i :: earlier → i.result =
      if clockEnd ≤ i.instant + i.window ∧ counted i.key i.instant earlier = 0 then none
      else some (counted i.key i.instant earlier + 1)) ∧
    ∀ key, s.log.filter (·.key = key) =
      ((new start).run (events.filter (·.concerns key))).log := by
  have hsound := sound_new start
  constructor
  · exact (hsound.run events).answered
  · intro key
    have hprojects : Projects key (new start) (new start) := ⟨hsound, hsound, rfl, rfl⟩
    exact (hprojects.run events).log.symm

end Counting

end RpcGateway.Access
