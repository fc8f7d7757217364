import RpcGateway.Activity.Pool
import RpcGateway.Proofs.Activity.Crowds

/-!
# Pools as crowds

A pool settles which of its members goes on next, and lets it go on until it waits or ends. That is
one of the ways in which the members of a crowd may go on. So a pool comes to nothing that a crowd
of the same activities does not come to, and what holds in all crowds holds in pools.
-/

namespace RpcGateway

variable {σ α ι : Type} {start : ι → Activity σ α}

open Activity

/-- What is settled stands in front of no change. -/
theorem Activity.rests_settle (t : Activity σ α) (ended : Nat) (now : Time) (s : σ) :
    (t.settle ended now s).rest.rests = true := by
  induction t generalizing ended s with
  | done a => rfl
  | panic => rfl
  | act change next ih => exact ih now s ended (change now s)
  | wait wake age drop next ih =>
    cases wake with
    | none => rfl
    | some wake =>
      unfold Activity.settle
      split
      · exact ih (ended + 1) s
      · rfl

namespace Crowd

variable {c c' c'' : Crowd σ α} {place : Nat} {t : Activity σ α}

/-- Some events lead from one crowd to another. -/
def Reaches (start : ι → Activity σ α) (c c' : Crowd σ α) : Prop :=
  ∃ events, c.run start events = c'

theorem Reaches.refl (c : Crowd σ α) : c.Reaches start c := ⟨[], rfl⟩

theorem Reaches.trans (h : c.Reaches start c') (h' : c'.Reaches start c'') :
    c.Reaches start c'' := by
  obtain ⟨before, rfl⟩ := h
  obtain ⟨after, rfl⟩ := h'
  exact ⟨before ++ after, List.foldl_append⟩

theorem Reaches.step (e : Event ι) (h : (c.step start e).Reaches start c') :
    c.Reaches start c' := by
  obtain ⟨events, rfl⟩ := h
  exact ⟨e :: events, rfl⟩

theorem reaches_later {now : Time} (h : c.now ≤ now) : c.Reaches start { c with now } := by
  refine .step (.passes (now - c.now)) ?_
  rw [step, Nat.add_sub_cancel' h]
  exact .refl _

/-- The crowd with another activity at a place, and another state. -/
def put (c : Crowd σ α) (place : Nat) (t : Activity σ α) (s : σ) : Crowd σ α :=
  { c with state := s, members := c.members.set place t }

theorem resume_put (h : place < c.members.length) (t : Activity σ α) (s : σ) :
    (c.put place t s).resume place = c.put place (t.goOn c.now s).1 (t.goOn c.now s).2 := by
  simp only [resume, put, List.getElem?_set_self h, List.set_set]

theorem put_self (h : c.members[place]? = some t) : c.put place t c.state = c := by
  obtain ⟨hlt, hget⟩ := List.getElem?_eq_some_iff.mp h
  rw [put, ← hget, List.set_getElem_self]

/-- A member can go on until it is settled. -/
theorem reaches_settle (h : place < c.members.length) (t : Activity σ α) (ended : Nat) (s : σ) :
    (c.put place t s).Reaches start
      (c.put place (t.settle ended c.now s).rest (t.settle ended c.now s).state) := by
  induction t generalizing ended s with
  | done a => exact .refl _
  | panic => exact .refl _
  | act change next ih =>
    refine .step (.goes place) ?_
    rw [step, resume_put h]
    exact ih c.now s ended (change c.now s)
  | wait wake age drop next ih =>
    cases wake with
    | none => exact .refl _
    | some wake =>
      unfold Activity.settle
      split
      · rename_i hdue
        refine .step (.goes place) ?_
        rw [step, resume_put h, goOn_wait_of_due hdue]
        exact ih (ended + 1) s
      · exact .refl _

end Crowd

/-! ## Pools -/

namespace Pool

variable {p : Pool σ α} {t : Activity σ α} {name : String}

/-- The activities of a pool. -/
def crowd (p : Pool σ α) : Crowd σ α := ⟨p.now, p.state, p.members.map Member.activity⟩

theorem reaches_resume (p : Pool σ α) (place : Nat) (instant : Time) :
    p.crowd.Reaches start (p.resume place instant).crowd := by
  unfold resume
  cases hplace : p.members[place]? with
  | none => exact .refl _
  | some m =>
    let c : Crowd σ α := { p.crowd with now := max p.now instant }
    have hmember : c.members[place]? = some m.activity := by
      simp only [c, crowd, List.getElem?_map, hplace, Option.map_some]
    have hput := Crowd.put_self hmember
    refine (Crowd.reaches_later (Nat.le_max_left p.now instant)).trans ?_
    change c.Reaches start _
    rw [← hput]
    simp only [crowd, List.map_set]
    exact Crowd.reaches_settle (List.getElem?_eq_some_iff.mp hmember).1 m.activity 0 c.state

theorem reaches_runUntil (stop : Pool σ α → Bool) (limit : Time) (fuel : Nat) (p : Pool σ α) :
    p.crowd.Reaches start (runUntil stop limit fuel p).crowd := by
  induction fuel generalizing p with
  | zero => exact .refl _
  | succ fuel ih =>
    unfold runUntil
    split
    · exact .refl _
    · split
      · exact .refl _
      · exact (p.reaches_resume _ _).trans (ih _)

theorem reaches_advanceTo (p : Pool σ α) (limit : Time) :
    p.crowd.Reaches start (p.advanceTo limit).crowd :=
  (reaches_runUntil _ limit (p.steps limit) p).trans (Crowd.reaches_later (Nat.le_max_left _ _))

theorem map_activity_nameless (members : List (Member σ α)) (name : String) :
    (nameless members name).map Member.activity = members.map Member.activity := by
  rw [nameless, List.map_map]
  refine List.map_congr_left fun m _ ↦ ?_
  dsimp only [Function.comp_apply]
  split
  · rfl
  · rfl

/-- An activity that is started joins, and goes on until it is settled. -/
theorem reaches_start (p : Pool σ α) (name : String) (i : ι) :
    p.crowd.Reaches start (p.start name (start i)).crowd := by
  refine (p.reaches_advanceTo p.now).trans (.step (.joins i) ?_)
  simp only [Pool.start]
  generalize p.advanceTo p.now = q
  let c : Crowd σ α := { q.crowd with members := q.crowd.members ++ [start i] }
  have hlast : c.members[q.crowd.members.length]? = some (start i) := List.getElem?_concat_length
  have hsettle : (c.put q.crowd.members.length (start i) c.state).Reaches start _ :=
    Crowd.reaches_settle (List.getElem?_eq_some_iff.mp hlast).1 (start i) 0 c.state
  have hput (t : Activity σ α) (s : σ) : c.put q.crowd.members.length t s =
      { c with state := s, members := q.crowd.members ++ [t] } := by
    simp [c, Crowd.put]
  rw [Crowd.put_self hlast, hput] at hsettle
  simp only [crowd, List.map_append, map_activity_nameless]
  exact hsettle

/-! ## Names -/

/-- Each name is that of one member, and all members are settled. -/
structure Orderly (p : Pool σ α) : Prop where
  names : (p.members.map Member.name).Pairwise fun a b ↦ a = b → a = none
  rests : ∀ m ∈ p.members, m.activity.rests = true

theorem Orderly.resume (h : p.Orderly) (place : Nat) (instant : Time) :
    (p.resume place instant).Orderly := by
  unfold Pool.resume
  cases hplace : p.members[place]? with
  | none => exact h
  | some m =>
    obtain ⟨hlt, rfl⟩ := List.getElem?_eq_some_iff.mp hplace
    refine ⟨?_, fun m' hm' ↦ ?_⟩
    · have hnames : (p.members.map Member.name).set place p.members[place].name =
          p.members.map Member.name := by
        rw [← List.map_set, List.set_getElem_self]
      rw [List.map_set, hnames]
      exact h.names
    · obtain hm' | rfl := List.mem_or_eq_of_mem_set hm'
      · exact h.rests m' hm'
      · exact rests_settle _ _ _ _

theorem Orderly.runUntil (h : p.Orderly) (stop : Pool σ α → Bool) (limit : Time) (fuel : Nat) :
    (runUntil stop limit fuel p).Orderly := by
  induction fuel generalizing p with
  | zero => exact h
  | succ fuel ih =>
    unfold Pool.runUntil
    split
    · exact h
    · split
      · exact h
      · exact ih (h.resume _ _)

theorem Orderly.advanceTo (h : p.Orderly) (limit : Time) : (p.advanceTo limit).Orderly :=
  ⟨(h.runUntil _ limit _).names, (h.runUntil _ limit _).rests⟩

/-- A name that is taken over is taken from the member that had it. -/
theorem pairwise_nameless {members : List (Member σ α)}
    (h : (members.map Member.name).Pairwise fun a b ↦ a = b → a = none) (name : String) :
    ((nameless members name).map Member.name ++ [some name]).Pairwise
      fun a b ↦ a = b → a = none := by
  have hnameless : (nameless members name).map Member.name =
      (members.map Member.name).map fun a ↦ if a = some name then none else a := by
    simp only [nameless, List.map_map]
    refine List.map_congr_left fun m _ ↦ ?_
    dsimp only [Function.comp_apply]
    split
    · rfl
    · rfl
  rw [hnameless]
  refine List.pairwise_append.mpr ⟨?_, List.pairwise_singleton _ _, ?_⟩
  · refine h.map _ fun a b hab ↦ ?_
    split
    · exact fun _ ↦ rfl
    · rename_i ha
      split
      · exact id
      · exact hab
  · intro a ha b hb heq
    rw [List.mem_singleton.mp hb] at heq
    obtain ⟨a', -, rfl⟩ := List.mem_map.mp ha
    split at heq
    · cases heq
    · rename_i hne
      exact absurd heq hne

theorem Orderly.beginning (h : p.Orderly) (name : String) (t : Activity σ α) :
    (p.start name t).Orderly := by
  have hdue := h.advanceTo p.now
  simp only [Pool.start]
  generalize p.advanceTo p.now = q at hdue
  refine ⟨?_, fun m hm ↦ ?_⟩
  · rw [List.map_append]
    exact pairwise_nameless hdue.names name
  · obtain hm | hm := List.mem_append.mp hm
    · obtain ⟨m', hm', rfl⟩ := List.mem_map.mp hm
      have hrests := hdue.rests m' hm'
      split
      · exact hrests
      · exact hrests
    · rw [List.mem_singleton.mp hm]
      exact rests_settle _ _ _ _

theorem Orderly.abort (h : p.Orderly) (name : String) : (p.abort name).Orderly := by
  unfold Pool.abort
  cases p.member? name with
  | none => exact h
  | some m =>
    have hsub : (p.remove name).members.Sublist p.members := List.filter_sublist
    exact ⟨h.names.sublist (hsub.map _), fun m' hm' ↦ h.rests m' (hsub.mem hm')⟩

/-- The one member of a name is dropped. -/
theorem reaches_abort (h : p.Orderly) (name : String) :
    p.crowd.Reaches start (p.abort name).crowd := by
  unfold Pool.abort
  cases hmember : p.member? name with
  | none => exact .refl _
  | some m =>
    obtain ⟨hname, before, after, hmembers, hbefore⟩ := List.find?_eq_some_iff_append.mp hmember
    have hnamed : m.name = some name := of_decide_eq_true hname
    have hplace : p.crowd.members[before.length]? = some m.activity := by
      simp [crowd, hmembers]
    have hrest : (p.remove name).members = before ++ after := by
      have hnames := h.names
      rw [hmembers, List.map_append, List.map_cons, List.pairwise_append,
        List.pairwise_cons] at hnames
      have hafter : ∀ m' ∈ after, m'.name ≠ some name := by
        intro m' hm' hsame
        have hnone := hnames.2.1.1 _ (List.mem_map_of_mem hm') (hnamed.trans hsame.symm)
        cases hnamed.symm.trans hnone
      rw [remove, hmembers, List.filter_append, List.filter_cons_of_neg (by simp [hnamed]),
        List.filter_eq_self.mpr fun m' hm' ↦ by simpa using hbefore m' hm',
        List.filter_eq_self.mpr fun m' hm' ↦ by simpa using hafter m' hm']
    refine .step (.leaves before.length) ?_
    rw [Crowd.step, Crowd.abort, hplace]
    dsimp only
    rw [if_pos (h.rests m (hmembers ▸ List.mem_append_right _ (.head _)))]
    have hlength : before.length = (before.map Member.activity).length :=
      (List.length_map _).symm
    simp only [crowd, hrest, hmembers, List.map_append, List.map_cons]
    rw [hlength, List.eraseIdx_append_of_length_le (Nat.le_refl _), Nat.sub_self,
      List.eraseIdx_cons_zero]
    exact .refl _

end Pool

end RpcGateway
