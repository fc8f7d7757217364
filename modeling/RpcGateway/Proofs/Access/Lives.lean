import RpcGateway.Proofs.Access.Serving

/-!
# The life of a counter

A counter lives from the increment that creates it until it has expired or the store is closed. Its
life is read off the log of all requests: it is made of the requests for its key since it was
created. It has counted the increments among them, and it expires at the end that the first of them
has given it, if one of them has; the others do not move that. A store lives by its log: at every
later instant an increment finds the counter of a key as the life of the counter says, and what it
answers is one more than that.

What gives a counter an expiry depends on the store. A store that does both at once does it where an
increment in a window creates the counter, and nowhere else. A store that does the one after the
other does it where an expiry that an increment has asked for goes through.
-/

namespace RpcGateway.Access

variable {atomic : Bool} {e : Served} {l log : List Served} {key : String} {m m' : CounterMap}
  {now t : Time}

namespace Served

def key? (e : Served) : Option String :=
  match e.request with
  | .increment key => some key
  | .expire key _ => some key
  | .window key _ => some key
  | _ => none

/-- Whether a counter has been counted up, also if nothing came back. -/
def counts (e : Served) : Bool :=
  match e.request, e.answer with
  | .increment _, .counted _ => true
  | .window _ _, .counted _ => true
  | .window _ _, .brokeDown => true
  | _, _ => false

def closes (e : Served) : Bool := e.request = .close && e.answer = .done

/-- The end of the time that a counter is to live, where one is asked for. -/
def ends (e : Served) : Time :=
  match e.request with
  | .expire _ ttl => e.instant + ttl
  | .window _ window => e.instant + window
  | _ => e.instant

/-- Whether a counter that has no expiry gets one. -/
def grants (atomic : Bool) (e : Served) : Bool :=
  match e.request, e.answer with
  | .expire _ _, .done => true
  | .window _ _, .counted n => if atomic then n == 1 else e.expiries.contains true
  | _, _ => false

/-- The expiry of a counter after a request. -/
def expiring (atomic : Bool) (e : Served) (due : Option Time) : Option Time :=
  due.or (if e.grants atomic then some e.ends else none)

/-- What a request leaves of the counter of a key as it has found it. -/
def leaves (atomic : Bool) (key : String) (e : Served) (c : Counter) : Counter :=
  if e.closes then ⟨0, none⟩
  else if e.key? ≠ some key then c
  else if e.counts then ⟨c.count + 1, e.expiring atomic c.expiresAt⟩
  else if c.count = 0 then c
  else ⟨c.count, e.expiring atomic c.expiresAt⟩

theorem expiring_of_grants (h : e.grants atomic = true) (due : Option Time) :
    e.expiring atomic due = due.or (some e.ends) := by
  rw [expiring, if_pos h]

theorem expiring_of_not_grants (h : e.grants atomic = false) (due : Option Time) :
    e.expiring atomic due = due := by
  rw [expiring, if_neg (by simp [h]), Option.or_none]

theorem expiring_of_ne_none {due : Option Time} (h : due ≠ none) : e.expiring atomic due = due := by
  obtain ⟨due, rfl⟩ := Option.ne_none_iff_exists'.mp h
  rfl

theorem closes_eq_false (h : e.key? = some key) : e.closes = false := by
  unfold key? at h
  unfold closes
  split at h
  · rename_i hrequest
    simp [hrequest]
  · rename_i hrequest
    simp [hrequest]
  · rename_i hrequest
    simp [hrequest]
  · cases h

theorem leaves_of_counts (hkey : e.key? = some key) (hcounts : e.counts = true) (c : Counter) :
    e.leaves atomic key c = ⟨c.count + 1, e.expiring atomic c.expiresAt⟩ := by
  simp [leaves, hkey, hcounts, closes_eq_false hkey]

theorem leaves_of_not_counts (hkey : e.key? = some key) (hcounts : e.counts = false)
    (c : Counter) :
    e.leaves atomic key c =
      if c.count = 0 then c else ⟨c.count, e.expiring atomic c.expiresAt⟩ := by
  simp [leaves, hkey, hcounts, closes_eq_false hkey]

/-- A request of a key that neither counts nor gives an expiry leaves every counter as it is. -/
theorem leaves_eq_self (hcloses : e.closes = false) (hcounts : e.counts = false)
    (hgrants : e.grants atomic = false) (key : String) (c : Counter) :
    e.leaves atomic key c = c := by
  simp [leaves, expiring, hcloses, hcounts, hgrants]

theorem expiresAt_leaves (hcloses : e.closes = false) {c : Counter} {due : Time}
    (h : c.expiresAt = some due) : (e.leaves atomic key c).expiresAt = some due := by
  have hexpiring : e.expiring atomic (some due) = some due := expiring_of_ne_none nofun
  unfold leaves
  rw [if_neg (by simp [hcloses]), h, hexpiring]
  split
  · exact h
  · split
    · rfl
    · split
      · exact h
      · rfl

end Served

/-- When a counter with a life, the last request first, expires. -/
def expiry (atomic : Bool) (l : List Served) : Option Time :=
  (l.filter (·.grants atomic)).getLast?.map Served.ends

/-- What has been counted in a life, and when that expires. -/
def tally (atomic : Bool) (l : List Served) : Counter := ⟨l.countP Served.counts, expiry atomic l⟩

/-- The requests for a key since its counter was created, by the log, the last request first. -/
def life (atomic : Bool) (key : String) : List Served → List Served
  | [] => []
  | e :: earlier =>
    let l := life atomic key earlier
    if e.closes then []
    else if e.key? ≠ some key then l
    else if e.counts then if (tally atomic l).isExpired e.instant then [e] else e :: l
    else if l.isEmpty then [] else e :: l

theorem expiry_cons (atomic : Bool) (e : Served) (l : List Served) :
    expiry atomic (e :: l) = e.expiring atomic (expiry atomic l) := by
  unfold expiry Served.expiring
  by_cases hgrants : e.grants atomic = true
  · rw [List.filter_cons_of_pos hgrants, List.getLast?_cons, if_pos hgrants]
    cases (l.filter (·.grants atomic)).getLast? with
    | none => rfl
    | some first => rfl
  · rw [List.filter_cons_of_neg hgrants, if_neg hgrants, Option.or_none]

theorem expiry_eq_none_iff {l : List Served} :
    expiry atomic l = none ↔ ∀ e ∈ l, e.grants atomic = false := by
  simp [expiry]

theorem tally_cons_of_counts (hcounts : e.counts = true) (l : List Served) :
    tally atomic (e :: l) =
      ⟨(tally atomic l).count + 1, e.expiring atomic (tally atomic l).expiresAt⟩ := by
  unfold tally
  rw [List.countP_cons_of_pos hcounts, expiry_cons]

theorem tally_cons_of_not_counts (hcounts : e.counts = false) (l : List Served) :
    tally atomic (e :: l) =
      ⟨(tally atomic l).count, e.expiring atomic (tally atomic l).expiresAt⟩ := by
  unfold tally
  rw [List.countP_cons_of_neg (by simp [hcounts]), expiry_cons]

theorem life_sublist (atomic : Bool) (key : String) (log : List Served) :
    (life atomic key log).Sublist log := by
  induction log with
  | nil => exact List.nil_sublist []
  | cons e log ih =>
    rw [life]
    split
    · exact List.nil_sublist _
    split
    · exact ih.cons e
    split
    · split
      · exact (List.nil_sublist log).cons_cons e
      · exact ih.cons_cons e
    · split
      · exact List.nil_sublist _
      · exact ih.cons_cons e

theorem count_tally_le (atomic : Bool) (key : String) (log : List Served) :
    (tally atomic (life atomic key log)).count ≤ log.length :=
  Nat.le_trans List.countP_le_length (life_sublist atomic key log).length_le

/-- A life begins with an increment. -/
theorem count_tally_ne_zero (h : life atomic key log ≠ []) :
    (tally atomic (life atomic key log)).count ≠ 0 := by
  induction log with
  | nil => exact absurd rfl h
  | cons e log ih =>
    rw [life] at h ⊢
    by_cases hcloses : e.closes = true
    · exact absurd (if_pos hcloses) h
    rw [if_neg hcloses] at h ⊢
    by_cases hkey : e.key? ≠ some key
    · rw [if_pos hkey] at h ⊢
      exact ih h
    rw [if_neg hkey] at h ⊢
    by_cases hcounts : e.counts = true
    · rw [if_pos hcounts]
      split
      · rw [tally_cons_of_counts hcounts]
        exact Nat.succ_ne_zero _
      · rw [tally_cons_of_counts hcounts]
        exact Nat.succ_ne_zero _
    · rw [if_neg hcounts] at h ⊢
      by_cases hempty : (life atomic key log).isEmpty = true
      · exact absurd (if_pos hempty) h
      · rw [if_neg hempty, tally_cons_of_not_counts (by simpa using hcounts)]
        exact ih (by simpa using hempty)

/-- A counter that is created or goes on is left as its life says. -/
theorem tally_life_of_counts (hcloses : e.closes = false) (hkey : e.key? = some key)
    (hcounts : e.counts = true) (log : List Served) :
    tally atomic (life atomic key (e :: log)) =
      e.leaves atomic key ((tally atomic (life atomic key log)).left e.instant) := by
  rw [life, Served.leaves]
  simp only [hcloses, hkey, hcounts, Bool.false_eq_true, ne_eq, not_true_eq_false, if_false,
    if_true]
  unfold Counter.left
  split
  · exact tally_cons_of_counts hcounts []
  · exact tally_cons_of_counts hcounts _

/-- What is left of a counter follows from what was left of it before the last request. -/
theorem left_tally_life (e : Served) (log : List Served) (hle : e.instant ≤ t) :
    (tally atomic (life atomic key (e :: log))).left t =
      (e.leaves atomic key ((tally atomic (life atomic key log)).left e.instant)).left t := by
  by_cases hcloses : e.closes = true
  · simp only [life, Served.leaves, if_pos hcloses]
    rfl
  by_cases hkey : e.key? ≠ some key
  · simp only [life, Served.leaves, if_neg hcloses, if_pos hkey]
    exact (Counter.left_left hle _).symm
  by_cases hcounts : e.counts = true
  · rw [tally_life_of_counts (by simpa using hcloses) (by simpa using hkey) hcounts]
  simp only [life, Served.leaves, if_neg hcloses, if_neg hkey, if_neg hcounts]
  by_cases hempty : (life atomic key log).isEmpty = true
  · rw [List.isEmpty_iff.mp hempty]
    rfl
  -- What has expired stays so until it is created anew, and an expiry that it is given is too late.
  have hcount := count_tally_ne_zero (List.isEmpty_eq_false_iff.mp (by simpa using hempty))
  rw [if_neg hempty, tally_cons_of_not_counts (by simpa using hcounts)]
  by_cases hexpired : (tally atomic (life atomic key log)).isExpired e.instant = true
  · rw [Counter.left_of_isExpired hexpired,
      Served.expiring_of_ne_none (Counter.expiresAt_ne_none hexpired)]
    exact Counter.left_of_isExpired (Counter.isExpired_mono hexpired hle)
  · rw [Counter.left_of_not_isExpired hexpired, if_neg hcount]

/-! ## The counters of a store -/

namespace Serving

variable {s : Serving}

/-- What an increment would find of a key. -/
def current (s : Serving) (key : String) : Counter := s.store.map.current s.now key

/-- A store whose increments take no time, and whose counters are as their lives say. -/
structure Sound (s : Serving) : Prop where
  prompt : s.store.Prompt
  positive : s.store.map.All (·.count ≠ 0)
  lives : ∀ key, s.current key =
    (tally s.store.atomic (life s.store.atomic key s.log)).left s.now

/-- A request that is logged, and leaves the counters as it says. -/
theorem Sound.logged (h : s.Sound) {store : CounterStore} {e : Served}
    (hatomic : store.atomic = s.store.atomic) (hdelay : store.delay = s.store.delay)
    (hinstant : e.instant = s.now) (hpositive : store.map.All (·.count ≠ 0))
    (hleaves : ∀ key, store.map.current s.now key =
      (e.leaves s.store.atomic key (s.current key)).left s.now) :
    Sound ⟨s.now, store, e :: s.log⟩ where
  prompt := by
    unfold CounterStore.Prompt
    rw [hdelay]
    exact h.prompt
  positive := hpositive
  lives key := by
    rw [hatomic, left_tally_life e s.log (Nat.le_of_eq hinstant), hinstant, ← h.lives key]
    exact hleaves key

/-- A request that is logged, and leaves every counter as it is. -/
theorem Sound.unchanged (h : s.Sound) {store : CounterStore} {e : Served}
    (hatomic : store.atomic = s.store.atomic) (hdelay : store.delay = s.store.delay)
    (hmap : store.map = s.store.map) (hinstant : e.instant = s.now) (hcloses : e.closes = false)
    (hcounts : e.counts = false) (hgrants : e.grants s.store.atomic = false) :
    Sound ⟨s.now, store, e :: s.log⟩ := by
  refine h.logged hatomic hdelay hinstant (by rw [hmap]; exact h.positive) fun key ↦ ?_
  rw [hmap, Served.leaves_eq_self hcloses hcounts hgrants]
  exact s.store.map.current_later (Nat.le_refl s.now) key

/-- A request for a key that is logged, and leaves its counter as it says and no other changed. -/
theorem Sound.loggedFor (h : s.Sound) {store : CounterStore} {e : Served}
    (hkey : e.key? = some key) (hatomic : store.atomic = s.store.atomic)
    (hdelay : store.delay = s.store.delay) (hinstant : e.instant = s.now)
    (hpositive : store.map.All (·.count ≠ 0))
    (hleaves : ∀ name, store.map.current s.now name =
      if name = key then (e.leaves s.store.atomic key (s.store.map.current s.now key)).left s.now
      else s.store.map.current s.now name) :
    Sound ⟨s.now, store, e :: s.log⟩ := by
  refine h.logged hatomic hdelay hinstant hpositive fun name ↦ ?_
  rw [hleaves]
  by_cases hname : name = key
  · rw [if_pos hname, hname]
    rfl
  · have hother : e.key? ≠ some name := by simpa [hkey] using Ne.symm hname
    rw [if_neg hname, Served.leaves, if_neg (by simp [Served.closes_eq_false hkey]), if_pos hother]
    exact s.store.map.current_later (Nat.le_refl s.now) name

theorem Sound.advance (h : s.Sound) (ms : Nat) : (s.step (.advance ms)).Sound where
  prompt := h.prompt
  positive := h.positive
  lives key := by
    have hle : s.now ≤ s.now + ms := Nat.le_add_right ..
    calc
      _ = (s.current key).left (s.now + ms) := s.store.map.current_later hle key
      _ = _ := by rw [h.lives key, Counter.left_left hle]; rfl

theorem Sound.sweep (h : s.Sound) : (s.step .sweep).Sound where
  prompt := h.prompt
  positive := h.positive.sweep s.now
  lives key := (s.store.map.current_sweep (Nat.le_refl s.now) key).trans (h.lives key)

theorem Sound.close (h : s.Sound) : (s.step .close).Sound := by
  rw [step_close]
  by_cases hfails : s.store.closeFails = true
  · rw [if_pos hfails, if_pos hfails]
    exact h.unchanged rfl rfl rfl rfl rfl rfl rfl
  · rw [if_neg hfails, if_neg hfails]
    refine h.logged rfl rfl rfl (CounterMap.all_close _) fun key ↦ ?_
    simp only [CounterMap.current, CounterMap.close, Std.HashMap.getElem?_empty]
    rfl

theorem Sound.increment (h : s.Sound) (key : String) : (s.step (.increment key)).Sound := by
  rw [step_increment h.prompt]
  by_cases hfails : s.store.incrementFails s.store.incrementsEnded = true
  · rw [if_pos hfails, if_pos hfails]
    exact h.unchanged rfl rfl rfl rfl rfl rfl rfl
  · rw [if_neg hfails, if_neg hfails]
    refine h.loggedFor rfl rfl rfl rfl (h.positive.bump (Nat.succ_ne_zero _)) fun name ↦ ?_
    rw [CounterMap.increment, s.store.map.current_bump (Nat.le_refl s.now), h.positive.bumped_none,
      Served.leaves_of_counts rfl rfl, Served.expiring_of_not_grants rfl]

/-- If the clock does not get to the end of a window, it matters only to a counter that has an
expiry already. -/
theorem or_nameable {now : Time} {window : Nat} {due : Option Time}
    (h : clockEnd ≤ now + window → due ≠ none) :
    due.or ((CounterStore.nameable now window).map (now + ·)) = due.or (some (now + window)) := by
  unfold CounterStore.nameable
  by_cases hbeyond : clockEnd ≤ now + window
  · obtain ⟨due, rfl⟩ := Option.ne_none_iff_exists'.mp (h hbeyond)
    rfl
  · rw [if_neg hbeyond]
    rfl

theorem Sound.expire (h : s.Sound) (key : String) (ttl : Nat) :
    (s.step (.expire key ttl)).Sound := by
  rw [step_expire]
  by_cases hfails : s.store.expiryFails s.store.expiryCalls = true
  · have hbeyond : ¬ CounterStore.expiryBeyondClock key ttl s.now s.store = true := by
      simp [CounterStore.expiryBeyondClock, hfails]
    rw [if_neg hbeyond, if_pos hfails, if_pos hfails]
    exact h.unchanged rfl rfl rfl rfl rfl rfl rfl
  rw [if_neg hfails, if_neg hfails]
  by_cases hbreaks : CounterStore.expiryBeyondClock key ttl s.now s.store = true
  · have hbeyond : clockEnd ≤ s.now + ttl := by
      simp only [CounterStore.expiryBeyondClock, Bool.and_eq_true, decide_eq_true_eq] at hbreaks
      exact hbreaks.1.1
    rw [if_pos hbreaks, CounterStore.nameable, if_pos hbeyond]
    exact h.unchanged rfl rfl rfl rfl rfl rfl rfl
  · rw [if_neg hbreaks]
    refine h.loggedFor rfl rfl rfl rfl (h.positive.expireAfter (fun _ _ hc ↦ hc) _ _ _)
      fun name ↦ ?_
    have hgiven (hcount : (s.store.map.current s.now key).count ≠ 0)
        (hbeyond : clockEnd ≤ s.now + ttl) : (s.store.map.current s.now key).expiresAt ≠ none := by
      apply CounterMap.expiresAt_current_ne_none _ hcount
      simpa [CounterStore.expiryBeyondClock, hbeyond, hfails] using hbreaks
    rw [h.positive.current_expireAfter (Nat.le_refl s.now), Served.leaves_of_not_counts rfl rfl,
      Served.expiring_of_grants rfl]
    by_cases hcount : (s.store.map.current s.now key).count = 0
    · rw [if_pos hcount, if_pos hcount, h.positive.current_eq hcount]
    · rw [if_neg hcount, if_neg hcount, or_nameable (hgiven hcount)]
      rfl

/-- Both at once: the end of the window is for a counter that is created. -/
theorem Sound.leaves_windowAtOnce (h : s.Sound) (key : String) (window : Nat) :
    (s.servedAtOnce key window).leaves true key (s.store.map.current s.now key) =
      s.store.map.bumped s.now key (CounterStore.nameable s.now window) := by
  unfold servedAtOnce CounterMap.bumped CounterStore.nameable
  by_cases hcount : (s.store.map.current s.now key).count = 0
  · rw [h.positive.current_eq hcount]
    by_cases hbeyond : clockEnd ≤ s.now + window
    · rw [if_pos ⟨hbeyond, rfl⟩, if_pos hbeyond, Served.leaves_of_counts rfl rfl]
      rfl
    · rw [if_neg fun hopens ↦ hbeyond hopens.1, if_neg hbeyond, Served.leaves_of_counts rfl rfl]
      rfl
  · have hgrants : (Served.mk (.window key window) s.now
        (.counted ((s.store.map.current s.now key).count + 1)) []).grants true = false := by
      simp [Served.grants, hcount]
    rw [if_neg fun hopens ↦ hcount hopens.2, if_neg hcount, Served.leaves_of_counts rfl rfl,
      Served.expiring_of_not_grants hgrants]

theorem Sound.windowAtOnce (h : s.Sound) (hatomic : s.store.atomic = true) (key : String)
    (window : Nat) : (s.step (.window key window)).Sound := by
  rw [step_window_of_atomic hatomic]
  refine h.loggedFor rfl rfl rfl rfl (h.positive.bump (Nat.succ_ne_zero _)) fun name ↦ ?_
  rw [s.store.map.current_bump (Nat.le_refl s.now), hatomic, h.leaves_windowAtOnce]

/-- In turn: the end of the window is for a counter that has none, if an expiry goes through. -/
theorem leaves_windowInTurn (s : Serving) (key : String) (window : Nat) (c : Counter) :
    (Served.mk (.window key window) s.now
      (if true ∈ s.store.tries ∧ clockEnd ≤ s.now + window ∧ c.expiresAt = none then .brokeDown
        else .counted (c.count + 1)) s.store.tries).leaves false key c =
      ⟨c.count + 1, c.expiresAt.or ((s.store.grant s.now window).map (s.now + ·))⟩ := by
  unfold CounterStore.grant
  by_cases htries : true ∈ s.store.tries
  · rw [if_pos htries]
    by_cases hbreaks : clockEnd ≤ s.now + window ∧ c.expiresAt = none
    · rw [if_pos ⟨htries, hbreaks⟩, CounterStore.nameable, if_pos hbreaks.1,
        Served.leaves_of_counts rfl rfl, Served.expiring_of_not_grants rfl, Option.map_none,
        Option.or_none]
    · have hgrants : (Served.mk (.window key window) s.now (.counted (c.count + 1))
          s.store.tries).grants false = true := by
        simpa [Served.grants] using htries
      rw [if_neg fun h ↦ hbreaks h.2, Served.leaves_of_counts rfl rfl,
        Served.expiring_of_grants hgrants, or_nameable fun hbeyond hnone ↦ hbreaks ⟨hbeyond, hnone⟩]
      rfl
  · have hgrants : (Served.mk (.window key window) s.now (.counted (c.count + 1))
        s.store.tries).grants false = false := by
      simpa [Served.grants] using htries
    rw [if_neg htries, if_neg fun h ↦ htries h.1, Served.leaves_of_counts rfl rfl,
      Served.expiring_of_not_grants hgrants, Option.map_none, Option.or_none]

theorem Sound.windowInTurn (h : s.Sound) (hturns : s.store.atomic = false) (key : String)
    (window : Nat) : (s.step (.window key window)).Sound := by
  by_cases hfails : s.store.incrementFails s.store.incrementsEnded = true
  · rw [step_window_of_fails hturns h.prompt hfails]
    exact h.unchanged rfl rfl rfl rfl rfl rfl rfl
  rw [step_window_of_counts hturns h.prompt (by simpa using hfails)]
  refine h.loggedFor rfl rfl rfl rfl (CounterMap.All.expireAfter
    (h.positive.bump (Nat.succ_ne_zero _)) (fun _ _ hc ↦ hc) _ _ _) fun name ↦ ?_
  simp only [CounterStore.breaks, h.positive.bumped_none]
  rw [h.positive.current_increment_expireAfter (Nat.le_refl s.now), hturns, leaves_windowInTurn]

theorem Sound.step (h : s.Sound) (r : Request) : (s.step r).Sound := by
  cases r with
  | advance ms => exact h.advance ms
  | sweep => exact h.sweep
  | close => exact h.close
  | increment key => exact h.increment key
  | expire key ttl => exact h.expire key ttl
  | window key window =>
    cases hatomic : s.store.atomic with
    | true => exact h.windowAtOnce hatomic key window
    | false => exact h.windowInTurn hatomic key window

theorem Sound.run (h : s.Sound) (rs : List Request) : (s.run rs).Sound := by
  induction rs generalizing s with
  | nil => exact h
  | cons r rs ih => exact ih (h.step r)

/-- A new store has no counters, and nothing has been asked of it. -/
theorem sound_new {store : CounterStore} (hmap : store.map = {}) (hprompt : store.Prompt)
    (start : Time) : Sound ⟨start, store, []⟩ where
  prompt := hprompt
  positive key c hfound := by simp [hmap] at hfound
  lives key := by
    simp only [current, CounterMap.current, hmap, Std.HashMap.getElem?_empty]
    rfl

/-! ### Counts fit their words -/

theorem length_log_run_le (hprompt : s.store.Prompt) (rs : List Request) :
    (s.run rs).log.length ≤ s.log.length + rs.length := by
  induction rs generalizing s with
  | nil => exact Nat.le_refl _
  | cons r rs ih =>
    obtain ⟨hsetup, hlog⟩ := step_cases hprompt r
    have hstep : (s.step r).log.length ≤ s.log.length + 1 := by
      obtain ⟨-, hlog⟩ | ⟨e, hlog, -⟩ := hlog
      · rw [hlog]
        exact Nat.le_succ _
      · rw [hlog]
        exact Nat.le_refl _
    calc
      ((s.step r).run rs).log.length ≤ (s.step r).log.length + rs.length :=
        ih (hsetup.prompt hprompt)
      _ ≤ s.log.length + (rs.length + 1) := by omega

/-- A count is no larger than the number of requests. -/
theorem Sound.count_le (h : s.Sound) (key : String) : (s.current key).count ≤ s.log.length := by
  rw [h.lives key, Counter.left]
  split
  · exact Nat.zero_le _
  · exact count_tally_le _ _ _

/-- Counts are kept in words. What the next increment makes of any counter is the count of a word as
long as a word can count the requests: no sum is cut off, and none begins anew at zero. -/
theorem count_fits_word {store : CounterStore} (hmap : store.map = {}) (hprompt : store.Prompt)
    (start : Time) {rs : List Request} (hfew : rs.length < Word.max64) (key : String) :
    (((⟨start, store, []⟩ : Serving).run rs).current key).count + 1 ≤ Word.max64 := by
  have hcount := ((sound_new hmap hprompt start).run rs).count_le key
  have hlog := length_log_run_le (s := ⟨start, store, []⟩) hprompt rs
  rw [List.length_nil] at hlog
  omega

/-! ### Expiries stay -/

/-- An expiry is not moved until it is over. -/
theorem Sound.expiresAt_step (h : s.Sound) {r : Request} (hclose : r ≠ .close) {due : Time}
    (hdue : (s.current key).expiresAt = some due) (hbefore : (s.step r).now < due) :
    ((s.step r).current key).expiresAt = some due := by
  have hleft {c : Counter} (hc : c.expiresAt = some due) :
      (c.left (s.step r).now).expiresAt = some due := by
    have hopen : ¬ c.isExpired (s.step r).now = true := by
      simpa [Counter.isExpired, hc] using hbefore
    rw [Counter.left_of_not_isExpired hopen, hc]
  have hlives := (h.step r).lives key
  rw [(step_setup h.prompt r).atomic] at hlives
  rw [hlives]
  obtain ⟨hle, hlog⟩ | ⟨e, hlog, hinstant, hnow, hr⟩ := (step_cases h.prompt r).2
  · rw [hlog, ← Counter.left_left hle, ← h.lives key]
    exact hleft hdue
  · rw [hlog, left_tally_life e s.log (Nat.le_of_eq (hinstant.trans hnow.symm)), hinstant,
      ← h.lives key]
    have hcloses : e.closes = false := by simp [Served.closes, hr, hclose]
    exact hleft (Served.expiresAt_leaves hcloses hdue)

theorem Sound.expiresAt_run (h : s.Sound) {rs : List Request} (hclose : .close ∉ rs) {due : Time}
    (hdue : (s.current key).expiresAt = some due) (hbefore : (s.run rs).now < due) :
    ((s.run rs).current key).expiresAt = some due := by
  induction rs generalizing s with
  | nil => exact hdue
  | cons r rs ih =>
    have hstep : (s.step r).now < due := Nat.lt_of_le_of_lt (le_run (h.step r).prompt rs) hbefore
    apply ih (h.step r) (fun hr ↦ hclose (List.mem_cons_of_mem r hr)) _ hbefore
    exact h.expiresAt_step (fun hr ↦ hclose (hr ▸ List.mem_cons_self)) hdue hstep

end Serving

end RpcGateway.Access
