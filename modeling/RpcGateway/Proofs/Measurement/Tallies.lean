import RpcGateway.Measurement.Metrics

/-!
# What the metrics add up to

A table of the metrics has one entry for each key, which a change alters or appends. So the value of
a key and the sum over any keys are known after each change. The beginning of a request raises its
two counters and its gauge by one; its end lowers the gauge and records one duration. At a rendering
no duration is lost: what a sample then counts is what was recorded under labels that are written
like it.
-/

namespace RpcGateway.Measurement

open Calls (Tally)

namespace Metrics

section Tables

variable {κ β : Type} [DecidableEq κ] {absent : β} {change : β → β} {key key' : κ}
  {table : List (κ × β)}

/-- The value of a key. -/
def valueOf (absent : β) (key : κ) : List (κ × β) → β
  | [] => absent
  | (k, v) :: r => if k = key then v else valueOf absent key r

/-- What the values of the keys of a kind add up to. -/
def sumOver (P : κ → Prop) [DecidablePred P] (size : β → Nat) : List (κ × β) → Nat
  | [] => 0
  | (k, v) :: r => (if P k then size v else 0) + sumOver P size r

/-- A change under one key is seen under that key only. -/
theorem valueOf_alter (absent : β) (change : β → β) (key key' : κ) (table : List (κ × β)) :
    valueOf absent key' (alter absent change key table) =
      if key = key' then change (valueOf absent key' table) else valueOf absent key' table := by
  induction table with
  | nil => rfl
  | cons e r ih =>
    obtain ⟨k, v⟩ := e
    unfold alter
    split
    · rename_i hkey
      subst hkey
      by_cases hsame : k = key'
      · simp [valueOf, hsame]
      · simp [valueOf, hsame]
    · rename_i hkey
      by_cases hsame : k = key'
      · have hne : key ≠ key' := fun heq ↦ hkey (hsame.trans heq.symm)
        simp [valueOf, hsame, hne]
      · simp only [valueOf, if_neg hsame, ih]

/-- A sum over some keys grows if the changed key is one of them. -/
theorem sumOver_alter {P : κ → Prop} [DecidablePred P] {size : β → Nat} {n : Nat}
    (hchange : ∀ v, size (change v) = size v + n) (habsent : size absent = 0) (key : κ)
    (table : List (κ × β)) :
    sumOver P size (alter absent change key table) =
      sumOver P size table + if P key then n else 0 := by
  induction table with
  | nil => simp [alter, sumOver, hchange, habsent]
  | cons e r ih =>
    obtain ⟨k, v⟩ := e
    unfold alter
    split
    · rename_i hkey
      subst hkey
      simp only [sumOver, hchange]
      split
      · omega
      · omega
    · simp only [sumOver, ih]
      omega

/-- A key that is not there yet comes last. -/
theorem keys_alter (absent : β) (change : β → β) (key : κ) (table : List (κ × β)) :
    (alter absent change key table).map Prod.fst =
      if key ∈ table.map Prod.fst then table.map Prod.fst else table.map Prod.fst ++ [key] := by
  induction table with
  | nil => rfl
  | cons e r ih =>
    obtain ⟨k, v⟩ := e
    unfold alter
    split
    · rename_i hkey
      simp [hkey]
    · rename_i hkey
      rw [List.map_cons, ih]
      have hne : key ≠ k := Ne.symm hkey
      by_cases hmem : key ∈ r.map Prod.fst
      · simp only [List.map_cons, List.mem_cons, hmem, or_true, if_true]
      · simp only [List.map_cons, List.mem_cons, hmem, hne, or_false, if_false, List.cons_append]

/-- Each key keeps one entry. -/
theorem nodup_alter (h : (table.map Prod.fst).Nodup) :
    ((alter absent change key table).map Prod.fst).Nodup := by
  rw [keys_alter]
  split
  · exact h
  · rename_i hnew
    refine List.nodup_append.mpr ⟨h, List.pairwise_singleton _ _, fun k hk k' hk' ↦ ?_⟩
    rw [List.mem_singleton.mp hk']
    exact fun heq ↦ hnew (heq ▸ hk)

theorem add_eq_alter (t : Tally) (name : String) (n : Nat) :
    t.add name n = alter 0 (· + n) name t := by
  induction t with
  | nil => simp [Tally.add, alter]
  | cons e r ih =>
    unfold Tally.add alter
    rw [ih]

end Tables

/-! ## Readings -/

variable {m m' : Metrics} {l l' : Labels} {ms : Nat}

/-- The gauge of requests under way for a service. -/
def activeOf (m : Metrics) (service : String) : Int := valueOf 0 service m.active

/-- The counter of a service. -/
def handledBy (m : Metrics) (service : String) : Nat := valueOf 0 service m.services

/-- The counter of a pair of labels. -/
def handledAs (m : Metrics) (l : Labels) : Nat := valueOf 0 l m.operations

/-- The sum of the counters of all pairs of a kind. -/
def handledOver (m : Metrics) (P : Labels → Prop) [DecidablePred P] : Nat :=
  sumOver P id m.operations

def durationsIn (blocks : List (List Nat)) : Nat := blocks.flatten.length

/-- The durations of a pair since the last rendering. -/
def freshOf (m : Metrics) (l : Labels) : Nat := durationsIn (valueOf [] l m.fresh)

/-- How many durations the sample with these labels counts, if it is rendered now. -/
def samplesOf (m : Metrics) (w : Written) : Nat :=
  (valueOf {} w m.durations).count + sumOver (written · = w) durationsIn m.fresh

/-! ## The beginning of a request -/

/-- A request that begins is active under its service. -/
theorem activeOf_start (l : Labels) (m : Metrics) (service : String) :
    (m.start l).activeOf service = m.activeOf service + if l.service = service then 1 else 0 := by
  rw [activeOf, start, valueOf_alter]
  split
  · rfl
  · exact (Int.add_zero _).symm

/-- It is counted under its service at once. -/
theorem handledBy_start (l : Labels) (m : Metrics) (service : String) :
    (m.start l).handledBy service =
      m.handledBy service + if l.service = service then 1 else 0 := by
  rw [handledBy, start, add_eq_alter, valueOf_alter]
  split
  · rfl
  · rfl

theorem handledAs_start (l l' : Labels) (m : Metrics) :
    (m.start l).handledAs l' = m.handledAs l' + if l = l' then 1 else 0 := by
  rw [handledAs, start, valueOf_alter]
  split
  · rfl
  · rfl

theorem handledOver_start (l : Labels) (m : Metrics) (P : Labels → Prop) [DecidablePred P] :
    (m.start l).handledOver P = m.handledOver P + if P l then 1 else 0 := by
  have hone (n : Nat) : id (n + 1) = id n + 1 := rfl
  exact sumOver_alter hone rfl l m.operations

/-! ## Its end -/

theorem durationsIn_record (ms : Nat) (blocks : List (List Nat)) :
    durationsIn (record ms blocks) = durationsIn blocks + 1 := by
  cases blocks with
  | nil => rfl
  | cons block r =>
    by_cases hroom : block.length < blockSize
    · simp only [record, if_pos hroom, durationsIn, List.flatten_cons, List.length_append,
        List.length_cons]
      omega
    · simp only [record, if_neg hroom, durationsIn, List.flatten_cons, List.length_append,
        List.length_singleton]
      omega

/-- A request that ends is no longer active. -/
theorem activeOf_finish (l : Labels) (ms : Nat) (m : Metrics) (service : String) :
    (m.finish l ms).activeOf service =
      m.activeOf service - if l.service = service then 1 else 0 := by
  rw [activeOf, finish, valueOf_alter]
  split
  · rfl
  · exact (Int.sub_zero _).symm

/-- It leaves a duration under its labels. -/
theorem freshOf_finish (l l' : Labels) (ms : Nat) (m : Metrics) :
    (m.finish l ms).freshOf l' = m.freshOf l' + if l = l' then 1 else 0 := by
  rw [freshOf, finish, valueOf_alter]
  split
  · exact durationsIn_record ms _
  · rfl

/-- Durations are written with the labels that they are shown under. -/
theorem samplesOf_finish (l : Labels) (ms : Nat) (m : Metrics) (w : Written) :
    (m.finish l ms).samplesOf w = m.samplesOf w + if written l = w then 1 else 0 := by
  have hfresh : sumOver (written · = w) durationsIn (alter [] (record ms) l m.fresh) =
      sumOver (written · = w) durationsIn m.fresh + if written l = w then 1 else 0 :=
    sumOver_alter (durationsIn_record ms) rfl l m.fresh
  rw [samplesOf, finish, hfresh, ← Nat.add_assoc]
  rfl

/-! ## Renderings -/

theorem count_addBlocks (d : Durations) (blocks : List (List Nat)) :
    (blocks.foldl Durations.addBlock d).count = d.count + durationsIn blocks := by
  induction blocks generalizing d with
  | nil => rfl
  | cons block r ih =>
    rw [List.foldl_cons, ih]
    simp only [Durations.addBlock, durationsIn, List.flatten_cons, List.length_append]
    omega

/-- A rendering takes all durations into the totals. -/
theorem samplesOf_settled (m : Metrics) (w : Written) : m.settled.samplesOf w = m.samplesOf w := by
  have htaken (fresh : List (Labels × List (List Nat))) (totals : List (Written × Durations)) :
      (valueOf {} w (fresh.foldl (fun totals e ↦
        alter {} (fun d ↦ e.2.foldl Durations.addBlock d) (written e.1) totals) totals)).count =
      (valueOf {} w totals).count + sumOver (written · = w) durationsIn fresh := by
    induction fresh generalizing totals with
    | nil => rfl
    | cons e r ih =>
      rw [List.foldl_cons, ih, valueOf_alter, sumOver]
      split
      · rw [count_addBlocks]
        omega
      · omega
  simp only [samplesOf, settled, htaken]
  rfl

/-- Neither a beginning nor an end has been counted, but there may have been a rendering. -/
structure SameBooks (m m' : Metrics) : Prop where
  services : m'.services = m.services
  operations : m'.operations = m.operations
  active : m'.active = m.active
  durations : m'.fresh = m.fresh ∧ m'.durations = m.durations ∨
    m'.fresh = [] ∧ m'.durations = m.settled.durations

theorem SameBooks.refl (m : Metrics) : m.SameBooks m := ⟨rfl, rfl, rfl, .inl ⟨rfl, rfl⟩⟩

/-- What keeps the books keeps every count of durations. -/
theorem SameBooks.samplesOf_eq (h : m.SameBooks m') (w : Written) :
    m'.samplesOf w = m.samplesOf w := by
  obtain ⟨hfresh, hdurations⟩ | ⟨hfresh, hdurations⟩ := h.durations
  · rw [samplesOf, hfresh, hdurations, ← samplesOf]
  · rw [← samplesOf_settled m, samplesOf, hfresh, hdurations]
    rfl

/-- What is recorded is not taken back. -/
theorem SameBooks.freshOf_le (h : m.SameBooks m') (l : Labels) : m'.freshOf l ≤ m.freshOf l := by
  obtain ⟨hfresh, -⟩ | ⟨hfresh, -⟩ := h.durations
  · rw [freshOf, hfresh]
    exact Nat.le_refl _
  · rw [freshOf, hfresh]
    exact Nat.zero_le _

end Metrics

end RpcGateway.Measurement
