import Mathlib.Data.Multiset.AddSub
import Mathlib.Data.Multiset.Count
import RpcGateway.Proofs.Activity.Crowds

/-!
# Leases

An activity takes a ticket by one change, holds it through others, and gives it back by a last one,
at its end, at a breakdown or when it is dropped. What each change is like, given the ticket before
and after it, is the lease. That an activity keeps to a lease is said of its tree: of the part where
it has no ticket yet, and of the places where it has one. If no change is like two of these at once,
the ticket can be read off what remains of an activity. The state of a crowd then follows the
tickets that its members hold, whatever the order in which they go on and however they end.
-/

namespace RpcGateway

/-- What a change is like, given the ticket before it and the one after it. -/
abbrev Lease (σ κ : Type) := Option κ → Option κ → Deed σ → Prop

/-- At some state no change is like that of another ticket that leads to the same one. -/
def Lease.Clear {σ κ : Type} (L : Lease σ κ) : Prop :=
  ∃ s, ∀ {o o' p d}, d.before = s → L o p d → L o' p d → o = o'

namespace Activity

variable {σ α β κ : Type} {L : Lease σ κ} {T T' : κ → Activity σ α → Prop} {t : Activity σ α}
  {k : κ} {o o' : Option κ}

/-! ## Ends -/

theorem Ended.map {f : α → β} (h : t.Ended) : (t.map f).Ended := by
  cases t with
  | done a => trivial
  | panic => trivial
  | act => exact h.elim
  | wait => exact h.elim

theorem Ended.recovering {answer : α} (h : t.Ended) :
    (Activity.recovering (.done answer) t).Ended := by
  cases t with
  | done a => trivial
  | panic => trivial
  | act => exact h.elim
  | wait => exact h.elim

theorem Ended.withinAfter {limit : Time} {waits : Nat} (h : t.Ended) :
    (t.withinAfter limit waits).Ended := by
  cases t with
  | done a => trivial
  | panic => trivial
  | act => exact h.elim
  | wait => exact h.elim

theorem Ended.of_leaves {u : Activity σ α} (h : t.Ended) (hleaves : t.Leaves u) : u.Ended := by
  cases hleaves with
  | refl => exact h
  | act => exact h.elim
  | wait => exact h.elim

/-! ## Before there is a ticket -/

/-- An activity without a ticket: each ticket that it may take leads to one of the places. -/
def Nears (L : Lease σ κ) (T : κ → Activity σ α → Prop) : Activity σ α → Prop
  | done _ => True
  | panic => True
  | act change next => ∀ now s,
      (L none none ⟨now, s, change now s⟩ ∧ (next now s).Nears L T) ∨
        ∃ k, L none (some k) ⟨now, s, change now s⟩ ∧ T k (next now s)
  | wait _ _ drop next => (∀ now s, L none none ⟨now, s, drop now s⟩) ∧ next.Nears L T

namespace Nears

theorem of_ended (h : t.Ended) : t.Nears L T := by
  cases t with
  | done a => trivial
  | panic => trivial
  | act => exact h.elim
  | wait => exact h.elim

theorem bind {T : κ → Activity σ β → Prop} {f : α → Activity σ β} (h : t.Always (L none none))
    (hf : ∀ a, (f a).Nears L T) : (t.bind f).Nears L T := by
  induction t with
  | done a => exact hf a
  | panic => trivial
  | act change next ih => exact fun now s ↦ .inl ⟨(h now s).1, ih now s (h now s).2⟩
  | wait wake age drop next ih => exact ⟨h.1, ih h.2⟩

theorem map {T' : κ → Activity σ β → Prop} {f : α → β} (h : t.Nears L T)
    (hT : ∀ k u, T k u → T' k (u.map f)) : (t.map f).Nears L T' := by
  induction t with
  | done a => trivial
  | panic => trivial
  | act change next ih =>
    intro now s
    obtain ⟨hdeed, hnext⟩ | ⟨k, hdeed, hnext⟩ := h now s
    · exact .inl ⟨hdeed, ih now s hnext⟩
    · exact .inr ⟨k, hdeed, hT k _ hnext⟩
  | wait wake age drop next ih => exact ⟨h.1, ih h.2⟩

theorem recovering {answer : α} (h : t.Nears L T)
    (hT : ∀ k u, T k u → T' k (Activity.recovering (.done answer) u)) :
    (Activity.recovering (.done answer) t).Nears L T' := by
  induction t with
  | done a => trivial
  | panic => trivial
  | act change next ih =>
    intro now s
    obtain ⟨hdeed, hnext⟩ | ⟨k, hdeed, hnext⟩ := h now s
    · exact .inl ⟨hdeed, ih now s hnext⟩
    · exact .inr ⟨k, hdeed, hT k _ hnext⟩
  | wait wake age drop next ih => exact ⟨h.1, ih h.2⟩

theorem withinAfter {T' : κ → Activity σ (Option α) → Prop} {limit : Time} (h : t.Nears L T)
    (hT : ∀ k u waits, T k u → T' k (u.withinAfter limit waits)) (waits : Nat) :
    (t.withinAfter limit waits).Nears L T' := by
  induction t generalizing waits with
  | done a => trivial
  | panic => trivial
  | act change next ih =>
    intro now s
    obtain ⟨hdeed, hnext⟩ | ⟨k, hdeed, hnext⟩ := h now s
    · exact .inl ⟨hdeed, ih now s hnext waits⟩
    · exact .inr ⟨k, hdeed, hT k _ waits hnext⟩
  | wait wake age drop next ih =>
    have hdropped : (act drop fun _ _ ↦ done none : Activity σ (Option α)).Nears L T' :=
      fun now s ↦ .inl ⟨h.1 now s, trivial⟩
    cases wake with
    | none => exact ⟨h.1, hdropped⟩
    | some wake =>
      unfold Activity.withinAfter
      split
      · exact ⟨h.1, ih h.2 _⟩
      · split
        · exact ⟨h.1, ih h.2 _⟩
        · exact ⟨h.1, hdropped⟩

/-- What is done at the end must not need a ticket either. -/
theorem ending {finish : Time → σ → σ} (h : t.Nears L T)
    (hfinish : ∀ now s s', s' = s ∨ L none none ⟨now, s, s'⟩ →
      L none none ⟨now, s, finish now s'⟩)
    (hT : ∀ k u, T k u → T' k (u.ending finish)) : (t.ending finish).Nears L T' := by
  induction t with
  | done a => exact fun now s ↦ .inl ⟨hfinish now s s (.inl rfl), trivial⟩
  | panic => exact fun now s ↦ .inl ⟨hfinish now s s (.inl rfl), trivial⟩
  | act change next ih =>
    intro now s
    obtain ⟨hdeed, hnext⟩ | ⟨k, hdeed, hnext⟩ := h now s
    · exact .inl ⟨hdeed, ih now s hnext⟩
    · exact .inr ⟨k, hdeed, hT k _ hnext⟩
  | wait wake age drop next ih => exact ⟨fun now s ↦ hfinish now s _ (.inr (h.1 now s)), ih h.2⟩

end Nears

/-! ## While there is one -/

/-- An activity with a ticket, which it gives back by its last change. -/
def Holds (L : Lease σ κ) (k : κ) : Activity σ α → Prop
  | done _ => False
  | panic => False
  | act change next => ∀ now s,
      (L (some k) (some k) ⟨now, s, change now s⟩ ∧ (next now s).Holds L k) ∨
        (L (some k) none ⟨now, s, change now s⟩ ∧ (next now s).Ended)
  | wait _ _ drop next => (∀ now s, L (some k) none ⟨now, s, drop now s⟩) ∧ next.Holds L k

namespace Holds

theorem not_ended (h : t.Holds L k) : ¬ t.Ended := by
  cases t with
  | done a => exact h.elim
  | panic => exact h.elim
  | act change next => exact fun hended ↦ hended
  | wait wake age drop next => exact fun hended ↦ hended

/-- An activity that gives its ticket back at its end, whatever that is. -/
theorem ending {kind : Deed σ → Prop} {finish : Time → σ → σ} (h : t.Always kind)
    (hkeeps : ∀ d, kind d → L (some k) (some k) d)
    (hgives : ∀ now s s', s' = s ∨ kind ⟨now, s, s'⟩ → L (some k) none ⟨now, s, finish now s'⟩) :
    (t.ending finish).Holds L k := by
  induction t with
  | done a => exact fun now s ↦ .inr ⟨hgives now s s (.inl rfl), trivial⟩
  | panic => exact fun now s ↦ .inr ⟨hgives now s s (.inl rfl), trivial⟩
  | act change next ih => exact fun now s ↦ .inl ⟨hkeeps _ (h now s).1, ih now s (h now s).2⟩
  | wait wake age drop next ih => exact ⟨fun now s ↦ hgives now s _ (.inr (h.1 now s)), ih h.2⟩

/-- A ticket stays with an activity around this one whose end is an end of it too. -/
theorem of_act {next : Activity σ α} {next' : Activity σ β} {d : Deed σ}
    (h : (L (some k) (some k) d ∧ next.Holds L k) ∨ (L (some k) none d ∧ next.Ended))
    (hholds : next.Holds L k → next'.Holds L k) (hended : next.Ended → next'.Ended) :
    (L (some k) (some k) d ∧ next'.Holds L k) ∨ (L (some k) none d ∧ next'.Ended) :=
  h.imp (And.imp_right hholds) (And.imp_right hended)

theorem map {f : α → β} (h : t.Holds L k) : (t.map f).Holds L k := by
  induction t with
  | done a => exact h
  | panic => exact h
  | act change next ih => exact fun now s ↦ of_act (h now s) (ih now s) Ended.map
  | wait wake age drop next ih => exact ⟨h.1, ih h.2⟩

theorem recovering {answer : α} (h : t.Holds L k) :
    (Activity.recovering (.done answer) t).Holds L k := by
  induction t with
  | done a => exact h
  | panic => exact h.elim
  | act change next ih => exact fun now s ↦ of_act (h now s) (ih now s) Ended.recovering
  | wait wake age drop next ih => exact ⟨h.1, ih h.2⟩

theorem withinAfter (h : t.Holds L k) (limit : Time) (waits : Nat) :
    (t.withinAfter limit waits).Holds L k := by
  induction t generalizing waits with
  | done a => exact h
  | panic => exact h
  | act change next ih =>
    exact fun now s ↦ of_act (h now s) (fun hnext ↦ ih now s hnext waits) Ended.withinAfter
  | wait wake age drop next ih =>
    have hdropped : (act drop fun _ _ ↦ done none : Activity σ (Option α)).Holds L k :=
      fun now s ↦ .inr ⟨h.1 now s, trivial⟩
    cases wake with
    | none => exact ⟨h.1, hdropped⟩
    | some wake =>
      unfold Activity.withinAfter
      split
      · exact ⟨h.1, ih h.2 _⟩
      · split
        · exact ⟨h.1, ih h.2 _⟩
        · exact ⟨h.1, hdropped⟩

/-- What remains of it holds the ticket still, or is over. -/
theorem of_leaves {u : Activity σ α} (h : t.Holds L k) (hleaves : t.Leaves u)
    (hgoing : ¬ u.Ended) : u.Holds L k := by
  induction hleaves with
  | refl t => exact h
  | act now s rest ih =>
    obtain ⟨-, hnext⟩ | ⟨-, hended⟩ := h now s
    · exact ih hnext hgoing
    · exact absurd (hended.of_leaves rest) hgoing
  | wait rest ih => exact ih h.2 hgoing

end Holds

/-! ## All places -/

/-- Whoever is at one of the places holds its ticket, and keeps to the lease from there. -/
structure Kept (L : Lease σ κ) (T : κ → Activity σ α → Prop) : Prop where
  not_ended : ∀ {k t}, T k t → ¬ t.Ended
  act : ∀ {k change next}, T k (.act change next) → ∀ now s,
    (L (some k) (some k) ⟨now, s, change now s⟩ ∧ T k (next now s)) ∨
      (L (some k) none ⟨now, s, change now s⟩ ∧ (next now s).Nears L T)
  wait : ∀ {k wake age drop next}, T k (.wait wake age drop next) →
    (∀ now s, L (some k) none ⟨now, s, drop now s⟩) ∧ T k next

/-- What remains of activities that hold a ticket are such places. -/
theorem kept_leaves {roots : κ → Activity σ α → Prop} (h : ∀ {k t}, roots k t → t.Holds L k) :
    Kept L fun k t ↦ (∃ u, roots k u ∧ u.Leaves t) ∧ ¬ t.Ended where
  not_ended hplace := hplace.2
  act hplace now s := by
    obtain ⟨⟨u, hroot, hleaves⟩, hgoing⟩ := hplace
    obtain ⟨hdeed, hnext⟩ | ⟨hdeed, hended⟩ := (h hroot).of_leaves hleaves hgoing now s
    · exact .inl ⟨hdeed, ⟨u, hroot, hleaves.tail_act now s⟩, hnext.not_ended⟩
    · exact .inr ⟨hdeed, .of_ended hended⟩
  wait hplace := by
    obtain ⟨⟨u, hroot, hleaves⟩, hgoing⟩ := hplace
    have hholds := (h hroot).of_leaves hleaves hgoing
    exact ⟨hholds.1, ⟨u, hroot, hleaves.tail_wait⟩, hholds.2.not_ended⟩

/-- Where an activity stands, by its ticket. -/
def Stands (L : Lease σ κ) (T : κ → Activity σ α → Prop) : Option κ → Activity σ α → Prop
  | none, t => t.Nears L T
  | some k, t => T k t

theorem Stands.act (hT : Kept L T) {change : Time → σ → σ} {next : Time → σ → Activity σ α}
    (h : Stands L T o (.act change next)) (now : Time) (s : σ) :
    ∃ o', L o o' ⟨now, s, change now s⟩ ∧ Stands L T o' (next now s) := by
  cases o with
  | none =>
    obtain ⟨hdeed, hnext⟩ | ⟨k, hdeed, hnext⟩ := h now s
    · exact ⟨none, hdeed, hnext⟩
    · exact ⟨some k, hdeed, hnext⟩
  | some k =>
    obtain ⟨hdeed, hnext⟩ | ⟨hdeed, hnext⟩ := hT.act h now s
    · exact ⟨some k, hdeed, hnext⟩
    · exact ⟨none, hdeed, hnext⟩

theorem Stands.wait (hT : Kept L T) {wake : Option Time} {age : Nat} {drop : Time → σ → σ}
    {next : Activity σ α} (h : Stands L T o (.wait wake age drop next)) :
    (∀ now s, L o none ⟨now, s, drop now s⟩) ∧ Stands L T o next := by
  cases o with
  | none => exact h
  | some k => exact hT.wait h

theorem Stands.of_ended (hT : Kept L T) (h : Stands L T o t) (hended : t.Ended) : o = none := by
  cases o with
  | none => rfl
  | some k => exact absurd hended (hT.not_ended h)

/-- In a clear lease an activity has one ticket. -/
theorem Stands.unique (hT : Kept L T) (hL : L.Clear) (h : Stands L T o t)
    (h' : Stands L T o' t) : o = o' := by
  obtain ⟨s, hclear⟩ := hL
  induction t generalizing o o' with
  | done a => rw [h.of_ended hT trivial, h'.of_ended hT trivial]
  | panic => rw [h.of_ended hT trivial, h'.of_ended hT trivial]
  | act change next ih =>
    obtain ⟨p, hdeed, hnext⟩ := h.act hT 0 s
    obtain ⟨p', hdeed', hnext'⟩ := h'.act hT 0 s
    obtain rfl := ih 0 s hnext hnext'
    exact hclear rfl hdeed hdeed'
  | wait wake age drop next ih => exact ih (h.wait hT).2 (h'.wait hT).2

end Activity

/-! ## The tickets of a crowd -/

namespace Crowd

open Activity

variable {σ α ι κ : Type} {L : Lease σ κ} {T : κ → Activity σ α → Prop} {c : Crowd σ α}
  {l : List (Option κ × Activity σ α)} {o o' : Option κ} {t t' : Activity σ α} {place : Nat}
  {start : ι → Activity σ α}

/-- The tickets of members that are listed with what they hold. -/
def tickets (l : List (Option κ × Activity σ α)) : Multiset κ := l.filterMap Prod.fst

theorem tickets_cons (x : Option κ × Activity σ α) (l : List (Option κ × Activity σ α)) :
    tickets (x :: l) = (x.1.toList : Multiset κ) + tickets l := by
  obtain ⟨o, t⟩ := x
  cases o with
  | none => simp [tickets]
  | some k => simp [tickets]

theorem tickets_perm {l l' : List (Option κ × Activity σ α)} (h : l.Perm l') :
    tickets l = tickets l' := Multiset.coe_eq_coe.mpr (h.filterMap _)

theorem tickets_eq (h : l[place]? = some (o, t)) :
    tickets l = (o.toList : Multiset κ) + tickets (l.eraseIdx place) := by
  obtain ⟨hlt, hget⟩ := List.getElem?_eq_some_iff.mp h
  have hperm := List.getElem_cons_eraseIdx_perm hlt
  rw [hget] at hperm
  rw [← tickets_perm hperm, tickets_cons]

theorem tickets_set (h : l[place]? = some (o, t)) :
    tickets (l.set place (o', t')) = (o'.toList : Multiset κ) + tickets (l.eraseIdx place) := by
  obtain ⟨hlt, -⟩ := List.getElem?_eq_some_iff.mp h
  rw [tickets_perm (List.set_perm_cons_eraseIdx hlt _), tickets_cons]

/-- The members of a crowd listed with the tickets that they hold. -/
structure Lists (L : Lease σ κ) (T : κ → Activity σ α → Prop) (c : Crowd σ α)
    (l : List (Option κ × Activity σ α)) : Prop where
  members : l.map Prod.snd = c.members
  stands : ∀ x ∈ l, Stands L T x.1 x.2

theorem Lists.set (h : c.Lists L T l) (hstands : Stands L T o' t') (place : Nat) (s : σ) :
    ({ c with state := s, members := c.members.set place t' } : Crowd σ α).Lists L T
      (l.set place (o', t')) where
  members := by rw [List.map_set, h.members]
  stands x hx := by
    obtain hx | rfl := List.mem_or_eq_of_mem_set hx
    · exact h.stands x hx
    · exact hstands

theorem Lists.eraseIdx (h : c.Lists L T l) (place : Nat) (s : σ) :
    ({ c with state := s, members := c.members.eraseIdx place } : Crowd σ α).Lists L T
      (l.eraseIdx place) where
  members := by rw [← h.members, List.eraseIdx_map]
  stands x hx := h.stands x (List.mem_of_mem_eraseIdx hx)

/-- A member that goes on makes a change that its ticket allows, or no change at all. -/
theorem stands_goOn (hT : Kept L T) (h : Stands L T o t) (now : Time) (s : σ) :
    ∃ o', Stands L T o' (t.goOn now s).1 ∧
      ((t.goOn now s).2 = s ∧ o' = o ∨ L o o' ⟨now, s, (t.goOn now s).2⟩) := by
  cases t with
  | done a => exact ⟨o, h, .inl ⟨rfl, rfl⟩⟩
  | panic => exact ⟨o, h, .inl ⟨rfl, rfl⟩⟩
  | act change next =>
    obtain ⟨o', hdeed, hnext⟩ := h.act hT now s
    exact ⟨o', hnext, .inr hdeed⟩
  | wait wake age drop next =>
    cases wake with
    | none => exact ⟨o, h, .inl ⟨rfl, rfl⟩⟩
    | some wake =>
      by_cases hdue : wake ≤ now
      · rw [goOn_wait_of_due hdue]
        exact ⟨o, (h.wait hT).2, .inl ⟨rfl, rfl⟩⟩
      · rw [goOn_wait_of_early hdue]
        exact ⟨o, h, .inl ⟨rfl, rfl⟩⟩

/-- So does a member that is dropped, and it is left without a ticket. -/
theorem stands_dropped (hT : Kept L T) (h : Stands L T o t) (hrests : t.rests = true) (now : Time)
    (s : σ) : t.dropped now s = s ∧ o = none ∨ L o none ⟨now, s, t.dropped now s⟩ := by
  cases t with
  | done a => exact .inl ⟨rfl, h.of_ended hT trivial⟩
  | panic => exact .inl ⟨rfl, h.of_ended hT trivial⟩
  | act change next => cases hrests
  | wait wake age drop next => exact .inr ((h.wait hT).1 now s)

/-- What an event does to the state of a crowd and to the tickets in it. -/
inductive Turns (L : Lease σ κ) (now : Time) : Multiset κ × σ → Multiset κ × σ → Prop where
  | same (x : Multiset κ × σ) : Turns L now x x
  | deed {rest : Multiset κ} {o o' : Option κ} {s s' : σ} (deed : L o o' ⟨now, s, s'⟩) :
      Turns L now (o.toList + rest, s) (o'.toList + rest, s')

theorem Lists.getElem? (h : c.Lists L T l) (place : Nat) :
    c.members[place]? = (l[place]?).map Prod.snd := by
  rw [← h.members, List.getElem?_map]

theorem Lists.resume (hT : Kept L T) (h : c.Lists L T l) (place : Nat) :
    ∃ l', (c.resume place).Lists L T l' ∧
      Turns L c.now (tickets l, c.state) (tickets l', (c.resume place).state) := by
  unfold Crowd.resume
  rw [h.getElem? place]
  cases hplace : l[place]? with
  | none => exact ⟨l, h, .same _⟩
  | some x =>
    obtain ⟨o, t⟩ := x
    obtain ⟨o', hstands, hdeed⟩ :=
      stands_goOn hT (h.stands _ (List.mem_of_getElem? hplace)) c.now c.state
    refine ⟨_, h.set hstands place _, ?_⟩
    rw [tickets_eq hplace, tickets_set hplace]
    dsimp only [Option.map_some]
    obtain ⟨hsame, rfl⟩ | hdeed := hdeed
    · rw [hsame]
      exact .same _
    · exact .deed hdeed

theorem Lists.abort (hT : Kept L T) (h : c.Lists L T l) (place : Nat) :
    ∃ l', (c.abort place).Lists L T l' ∧
      Turns L c.now (tickets l, c.state) (tickets l', (c.abort place).state) := by
  unfold Crowd.abort
  rw [h.getElem? place]
  cases hplace : l[place]? with
  | none => exact ⟨l, h, .same _⟩
  | some x =>
    obtain ⟨o, t⟩ := x
    dsimp only [Option.map_some]
    split
    · rename_i hrests
      refine ⟨_, h.eraseIdx place _, ?_⟩
      have hnone : tickets (l.eraseIdx place) =
          ((none : Option κ).toList : Multiset κ) + tickets (l.eraseIdx place) := by
        simp
      rw [tickets_eq hplace, hnone]
      obtain ⟨hsame, rfl⟩ | hdeed :=
        stands_dropped hT (h.stands _ (List.mem_of_getElem? hplace)) hrests c.now c.state
      · rw [hsame, ← hnone]
        exact .same _
      · exact .deed hdeed
    · exact ⟨l, h, .same _⟩

theorem Lists.step (hT : Kept L T) (hstart : ∀ i, (start i).Nears L T) (h : c.Lists L T l)
    (e : Event ι) :
    ∃ l', (c.step start e).Lists L T l' ∧
      Turns L c.now (tickets l, c.state) (tickets l', (c.step start e).state) := by
  cases e with
  | passes ms => exact ⟨l, ⟨h.members, h.stands⟩, .same _⟩
  | joins i =>
    refine ⟨l ++ [(none, start i)], ⟨?_, ?_⟩, ?_⟩
    · simp [Crowd.step, h.members]
    · rw [List.forall_mem_append, List.forall_mem_singleton]
      exact ⟨h.stands, hstart i⟩
    · have hsame : tickets (l ++ [(none, start i)]) = tickets l := by simp [tickets]
      rw [hsame]
      exact .same _
  | goes place => exact h.resume hT place
  | leaves place => exact h.abort hT place

/-- What no turn breaks holds after any events. -/
theorem Lists.run (hT : Kept L T) (hstart : ∀ i, (start i).Nears L T)
    {P : Multiset κ × σ → Prop} (hP : ∀ {now x y}, Turns L now x y → P x → P y)
    (h : c.Lists L T l) (hl : P (tickets l, c.state)) (events : List (Event ι)) :
    ∃ l', (c.run start events).Lists L T l' ∧ P (tickets l', (c.run start events).state) := by
  induction events generalizing c l with
  | nil => exact ⟨l, h, hl⟩
  | cons e events ih =>
    obtain ⟨l', h', hturns⟩ := h.step hT hstart e
    exact ih h' (hP hturns hl)

theorem lists_nil (now : Time) (s : σ) :
    ({ now, state := s } : Crowd σ α).Lists L T [] := ⟨rfl, List.forall_mem_nil _⟩

/-- The members at places of a kind hold the tickets of that kind. -/
theorem Lists.number_eq (hT : Kept L T) (hL : L.Clear) (h : c.Lists L T l) (P : κ → Prop)
    [DecidablePred P] : c.number (fun t ↦ ∃ k, P k ∧ T k t) = (tickets l).countP P := by
  rw [number, ← h.members, List.countP_map, tickets, Multiset.coe_countP, List.countP_filterMap]
  apply List.countP_congr
  rintro ⟨o, t⟩ hx
  have hstands : Stands L T o t := h.stands _ hx
  have hticket : (∃ k, P k ∧ T k t) ↔ ∃ k ∈ o, P k := by
    constructor
    · rintro ⟨k, hk, hplace⟩
      have hsome : Stands L T (some k) t := hplace
      exact ⟨k, hstands.unique hT hL hsome, hk⟩
    · rintro ⟨k, rfl, hk⟩
      exact ⟨k, hk, hstands⟩
  cases o with
  | none => simpa using hticket
  | some k => simpa using hticket

end Crowd

end RpcGateway
