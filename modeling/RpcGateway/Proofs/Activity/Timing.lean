import RpcGateway.Proofs.Activity.Progress

/-!
# When activities do what they do

The states that an activity meets are whatever others have left, but the instants are its own: it
begins at one, and from there each wait leads to a later one. Of what it does, one can therefore say
when, for any states and however late its waits end. And if they end on time, as they do in a pool,
one can say when the activity itself ends: by the weakest condition under which its end is as it
should be, which each way of putting activities together passes on to the parts.
-/

namespace RpcGateway.Activity

variable {σ τ α β : Type} {t : Activity σ α} {f : α → Activity σ β} {now limit finish : Time}

/-! ## Changes, however late the waits end -/

/-- Begun at `now`, the activity makes only changes of a kind, those at its being dropped among
them. -/
def AlwaysFrom (now : Time) (kind : Deed σ → Prop) (t : Activity σ α) : Prop :=
  ∀ ⦃ds result⦄, t.Proceeds now ds result → ∀ d ∈ ds, kind d

variable {kind : Deed σ → Prop}

theorem Always.alwaysFrom (h : t.Always kind) (now : Time) : t.AlwaysFrom now kind :=
  fun _ _ hproceeds ↦ h.of_proceeds hproceeds

namespace AlwaysFrom

theorem done (a : α) : (Activity.done a : Activity σ α).AlwaysFrom now kind := by
  intro ds result h
  rw [h.of_done.1]
  nofun

theorem act {change : Time → σ → σ} {next : Time → σ → Activity σ α}
    (hchange : ∀ s, kind ⟨now, s, change now s⟩) (hnext : ∀ s, (next now s).AlwaysFrom now kind) :
    (Activity.act change next).AlwaysFrom now kind := by
  intro ds result h
  obtain ⟨rfl, -⟩ | ⟨s, rest, rfl, hrest⟩ := h.of_act
  · nofun
  · exact List.forall_mem_cons.mpr ⟨hchange s, hnext s hrest⟩

theorem wait {wake : Option Time} {age : Nat} {drop : Time → σ → σ} {next : Activity σ α}
    (hdrop : ∀ instant s, kind ⟨instant, s, drop instant s⟩)
    (hnext : ∀ instant ∈ wake, ∀ woken, max now instant ≤ woken → next.AlwaysFrom woken kind) :
    (Activity.wait wake age drop next).AlwaysFrom now kind := by
  intro ds result h
  cases h with
  | cut => nofun
  | wait late rest => exact hnext _ rfl _ late rest
  | drop s late => exact List.forall_mem_singleton.mpr (hdrop _ s)

theorem bind (h : t.AlwaysFrom now kind) (hf : ∀ a mid, (f a).AlwaysFrom mid kind) :
    (t.bind f).AlwaysFrom now kind := by
  intro ds result hproceeds
  obtain ⟨hfirst, -⟩ | ⟨ds₁, mid, a, ds₂, hfirst, hsecond, rfl⟩ := hproceeds.of_bind
  · exact h hfirst
  · exact List.forall_mem_append.mpr ⟨h hfirst.proceeds, hf a mid hsecond⟩

theorem within (h : t.AlwaysFrom now kind) (limit : Time) :
    (t.within limit).AlwaysFrom now kind :=
  fun _ _ hproceeds ↦ h hproceeds.of_withinAfter

/-- What is undone at a drop comes on top of what the activity itself does there. -/
theorem guarded {undo : Time → σ → σ} (h : t.AlwaysFrom now kind)
    (hsame : ∀ instant s, kind ⟨instant, s, s⟩)
    (hundo : ∀ instant s s', kind ⟨instant, s, s'⟩ → kind ⟨instant, s, undo instant s'⟩) :
    (t.guarded undo).AlwaysFrom now kind := by
  induction t generalizing now with
  | done a => exact .done a
  | panic =>
    refine .act (fun s ↦ hundo now s s (hsame now s)) fun s ds result hpanic ↦ ?_
    cases hpanic with
    | cut => nofun
  | act change next ih =>
    refine .act (fun s ↦ ?_) fun s ↦ ih now s ?_
    · exact h (.act (s := s) (.cut _ now)) _ List.mem_cons_self
    · intro ds result hnext d hd
      exact h (.act hnext) d (List.mem_cons_of_mem _ hd)
  | wait wake age drop next ih =>
    intro ds result hproceeds
    cases hproceeds with
    | cut => nofun
    | wait late rest => exact ih (fun _ _ hnext ↦ h (.wait late hnext)) rest
    | drop s late =>
      refine List.forall_mem_singleton.mpr (hundo _ s _ ?_)
      exact h (.drop s late) _ List.mem_cons_self

end AlwaysFrom

/-! ## The end, if all waits end on time -/

/-- Begun at `now` and woken on time, the activity comes to an end, whatever states it meets; and
`post` holds of the instant and of the result, of which there is none after a breakdown. -/
def Concludes (post : Time → Option α → Prop) : Activity σ α → Time → Prop
  | done a, now => post now (some a)
  | panic, now => post now none
  | act _ next, now => ∀ s, (next now s).Concludes post now
  | wait none _ _ _, _ => False
  | wait (some wake) _ _ next, now => next.Concludes post (max now wake)

variable {post post' : Time → Option α → Prop}

theorem Concludes.mono (h : t.Concludes post now)
    (himp : ∀ finish a, post finish a → post' finish a) : t.Concludes post' now := by
  induction t generalizing now with
  | done a => exact himp now (some a) h
  | panic => exact himp now none h
  | act change next ih => exact fun s ↦ ih now s (h s)
  | wait wake age drop next ih =>
    cases wake with
    | none => exact h
    | some wake => exact ih h

/-- What comes second begins when what comes first has ended. -/
theorem concludes_bind {post : Time → Option β → Prop} :
    (t.bind f).Concludes post now ↔ t.Concludes
      (fun mid a ↦ match a with
        | some a => (f a).Concludes post mid
        | none => post mid none) now := by
  induction t generalizing now with
  | done a => exact Iff.rfl
  | panic => exact Iff.rfl
  | act change next ih => exact forall_congr' fun s ↦ ih now s
  | wait wake age drop next ih =>
    cases wake with
    | none => exact Iff.rfl
    | some wake => exact ih

theorem Concludes.guarded {undo : Time → σ → σ} (h : t.Concludes post now) :
    (t.guarded undo).Concludes post now := by
  induction t generalizing now with
  | done a => exact h
  | panic => exact fun _ ↦ h
  | act change next ih => exact fun s ↦ ih now s (h s)
  | wait wake age drop next ih =>
    cases wake with
    | none => exact h
    | some wake => exact ih h

theorem Concludes.ending {last : Time → σ → σ} (h : t.Concludes post now) :
    (t.ending last).Concludes post now := by
  induction t generalizing now with
  | done a => exact fun _ ↦ h
  | panic => exact fun _ ↦ h
  | act change next ih => exact fun s ↦ ih now s (h s)
  | wait wake age drop next ih =>
    cases wake with
    | none => exact h
    | some wake => exact ih h

theorem Concludes.onPart {get : τ → σ} {set : σ → τ → τ} (h : t.Concludes post now) :
    (t.onPart get set).Concludes post now := by
  induction t generalizing now with
  | done a => exact h
  | panic => exact h
  | act change next ih => exact fun x ↦ ih now (get x) (h (get x))
  | wait wake age drop next ih =>
    cases wake with
    | none => exact h
    | some wake => exact ih h

/-- An activity that is left alone is woken on time. -/
theorem Concludes.exists_run (h : t.Concludes post now) (s : σ) :
    ∃ finish s' outcome, t.run now s = (finish, s', outcome) ∧ post finish outcome.result? := by
  induction t generalizing now s with
  | done a => exact ⟨now, s, .done a, rfl, h⟩
  | panic => exact ⟨now, s, .panicked, rfl, h⟩
  | act change next ih => exact ih now s (h s) (change now s)
  | wait wake age drop next ih =>
    cases wake with
    | none => exact h.elim
    | some wake => exact ih h s

/-! ## Ends by an instant -/

/-- The activity ends by an instant, in whatever way. -/
def EndsBy (limit : Time) (t : Activity σ α) (now : Time) : Prop :=
  t.Concludes (fun finish _ ↦ finish ≤ limit) now

/-- The activity ends by an instant, with a result. -/
def AnswersBy (limit : Time) (t : Activity σ α) (now : Time) : Prop :=
  t.Concludes (fun finish a ↦ finish ≤ limit ∧ a.isSome) now

/-- The activity does not break down, whenever it goes on and whatever states it meets. -/
def Steady : Activity σ α → Prop
  | done _ => True
  | panic => False
  | act _ next => ∀ now s, (next now s).Steady
  | wait none _ _ _ => True
  | wait (some _) _ _ next => next.Steady

theorem EndsBy.answersBy (h : t.EndsBy limit now) (hsteady : t.Steady) :
    t.AnswersBy limit now := by
  induction t generalizing now with
  | done a => exact ⟨h, rfl⟩
  | panic => exact hsteady.elim
  | act change next ih => exact fun s ↦ ih now s (h s) (hsteady now s)
  | wait wake age drop next ih =>
    cases wake with
    | none => exact h
    | some wake => exact ih h hsteady

theorem EndsBy.act {change : Time → σ → σ} {next : Time → σ → Activity σ α}
    (h : ∀ s, (next now s).EndsBy limit now) : (Activity.act change next).EndsBy limit now := h

theorem EndsBy.bind (h : t.EndsBy limit now)
    (hf : ∀ a mid, mid ≤ limit → (f a).EndsBy limit mid) : (t.bind f).EndsBy limit now := by
  refine concludes_bind.mpr (Concludes.mono h fun mid a hmid ↦ ?_)
  cases a with
  | none => exact hmid
  | some a => exact hf a mid hmid

theorem EndsBy.map {g : α → β} (h : t.EndsBy limit now) : (t.map g).EndsBy limit now :=
  h.bind fun _ _ hmid ↦ hmid

theorem AnswersBy.map {g : α → β} (h : t.AnswersBy limit now) : (t.map g).AnswersBy limit now := by
  refine concludes_bind.mpr (Concludes.mono h fun mid a hmid ↦ ?_)
  cases a with
  | none => exact hmid
  | some a => exact ⟨hmid.1, rfl⟩

/-- Nothing ends before it has begun. -/
theorem EndsBy.le [Nonempty σ] (h : t.EndsBy limit now) : now ≤ limit := by
  obtain ⟨s⟩ := ‹Nonempty σ›
  obtain ⟨finish, s', outcome, hrun, hfinish⟩ := h.exists_run s
  calc
    now ≤ (t.run now s).1 := le_run t now s
    _ = finish := by rw [hrun]
    _ ≤ limit := hfinish

/-- To be given up at another instant does not make an activity end later. -/
theorem EndsBy.within [Nonempty σ] {other : Time} (h : t.EndsBy limit now) :
    (t.within other).EndsBy limit now := by
  suffices ∀ waits, (t.withinAfter other waits).EndsBy limit now from this 0
  induction t generalizing now with
  | done a => exact fun _ ↦ h
  | panic => exact fun _ ↦ h
  | act change next ih => exact fun waits s ↦ ih now s (h s) waits
  | wait wake age drop next ih =>
    intro waits
    cases wake with
    | none => exact h.elim
    | some wake =>
      have hnext : next.EndsBy limit (max now wake) := h
      unfold Activity.withinAfter
      split
      · exact ih hnext (waits + 1)
      · split
        · exact ih hnext (waits + 1)
        · rename_i hnotBefore _
          have hwoken : max now wake ≤ limit := hnext.le
          have hother : other ≤ limit := calc
            other ≤ wake := Nat.le_of_not_lt hnotBefore
            _ ≤ max now wake := Nat.le_max_right now wake
            _ ≤ limit := hwoken
          exact fun _ ↦ Nat.max_le.mpr ⟨(Nat.max_le.mp hwoken).1, hother⟩

/-- An activity with a limit ends by then, even if it would not end at all without. -/
theorem endsBy_within (t : Activity σ α) (h : now ≤ limit) : (t.within limit).EndsBy limit now := by
  suffices ∀ waits, (t.withinAfter limit waits).EndsBy limit now from this 0
  induction t generalizing now with
  | done a => exact fun _ ↦ h
  | panic => exact fun _ ↦ h
  | act change next ih => exact fun waits s ↦ ih now s h waits
  | wait wake age drop next ih =>
    intro waits
    have hgivenUp : max now limit ≤ limit := Nat.max_le.mpr ⟨h, Nat.le_refl limit⟩
    cases wake with
    | none => exact fun _ ↦ hgivenUp
    | some wake =>
      unfold Activity.withinAfter
      split
      · rename_i hbefore
        exact ih (Nat.max_le.mpr ⟨h, Nat.le_of_lt hbefore⟩) (waits + 1)
      · split
        · rename_i hthen
          exact ih (Nat.max_le.mpr ⟨h, Nat.le_of_eq hthen⟩) (waits + 1)
        · exact fun _ ↦ hgivenUp

theorem EndsBy.recovering {a : α} (h : t.EndsBy limit now) :
    (Activity.recovering (.done a) t).EndsBy limit now := by
  induction t generalizing now with
  | done a => exact h
  | panic => exact h
  | act change next ih => exact fun s ↦ ih now s (h s)
  | wait wake age drop next ih =>
    cases wake with
    | none => exact h
    | some wake => exact ih h

/-- With an answer in place of breakdowns there are none. -/
theorem steady_recovering (a : α) (t : Activity σ α) :
    (Activity.recovering (.done a) t).Steady := by
  induction t with
  | done a => trivial
  | panic => trivial
  | act change next ih => exact ih
  | wait wake age drop next ih =>
    cases wake with
    | none => trivial
    | some wake => exact ih

theorem Steady.within (h : t.Steady) (limit : Time) : (t.within limit).Steady := by
  suffices ∀ waits, (t.withinAfter limit waits).Steady from this 0
  induction t with
  | done a => exact fun _ ↦ trivial
  | panic => exact h.elim
  | act change next ih => exact fun waits now s ↦ ih now s (h now s) waits
  | wait wake age drop next ih =>
    intro waits
    cases wake with
    | none => exact fun _ _ ↦ trivial
    | some wake =>
      unfold Activity.withinAfter
      split
      · exact ih h (waits + 1)
      · split
        · exact ih h (waits + 1)
        · exact fun _ _ ↦ trivial

end RpcGateway.Activity
