import RpcGateway.Activity

/-!
# Histories of activities

What an activity does on its way to its end is a list of changes, each with its instant, the state
it met and the state it left. Others may do whatever they like between two changes, and a wait may
end late; so a history asks of the state before a change only what the activity itself has made of
it, which is nothing. An activity that is left alone has a history in which each change meets what
the one before has left.
-/

namespace RpcGateway

/-- A change that an activity has made. -/
structure Deed (σ : Type) where
  instant : Time
  before : σ
  after : σ

def Outcome.map {α β : Type} (f : α → β) : Outcome α → Outcome β
  | done a => .done (f a)
  | panicked => .panicked
  | stuck => .stuck

namespace Activity

variable {σ α β : Type} {t : Activity σ α} {f : α → Activity σ β} {now mid finish : Time}
  {ds : List (Deed σ)} {a : α} {b : β} {s s' : σ} {outcome : Outcome α}

/-- Begun at `now`, the activity makes the changes of the list and ends at `finish` with a result.
-/
inductive Does : Activity σ α → Time → List (Deed σ) → Time → α → Prop where
  | done (a : α) (now : Time) : Does (.done a) now [] now a
  | act {change : Time → σ → σ} {next : Time → σ → Activity σ α} {now finish : Time} {s : σ}
      {ds : List (Deed σ)} {a : α} (rest : Does (next now s) now ds finish a) :
      Does (.act change next) now (⟨now, s, change now s⟩ :: ds) finish a
  | wait {wake : Time} {age : Nat} {drop : Time → σ → σ} {next : Activity σ α}
      {now woken finish : Time} {ds : List (Deed σ)} {a : α} (late : max now wake ≤ woken)
      (rest : Does next woken ds finish a) : Does (.wait (some wake) age drop next) now ds finish a

/-- The history of two activities one after the other is that of the one and that of the other. -/
theorem exists_of_does_bind (h : (t.bind f).Does now ds finish b) :
    ∃ ds₁ mid a ds₂, t.Does now ds₁ mid a ∧ (f a).Does mid ds₂ finish b ∧ ds = ds₁ ++ ds₂ := by
  induction t generalizing now ds with
  | done a => exact ⟨[], now, a, ds, .done a now, h, rfl⟩
  | panic => cases h
  | act change next ih =>
    cases h with
    | @act _ _ _ _ s ds _ rest =>
      obtain ⟨ds₁, mid, a, ds₂, hfirst, hsecond, rfl⟩ := ih now s rest
      exact ⟨_ :: ds₁, mid, a, ds₂, .act hfirst, hsecond, rfl⟩
  | wait wake age drop next ih =>
    cases h with
    | wait late rest =>
      obtain ⟨ds₁, mid, a, ds₂, hfirst, hsecond, rfl⟩ := ih rest
      exact ⟨ds₁, mid, a, ds₂, .wait late hfirst, hsecond, rfl⟩

/-- What is undone when an activity is dropped or breaks down does not show when it ends. -/
theorem does_of_guarded {undo : Time → σ → σ} (h : (t.guarded undo).Does now ds finish a) :
    t.Does now ds finish a := by
  induction t generalizing now ds with
  | done a => exact h
  | panic =>
    cases h with
    | act rest => cases rest
  | act change next ih =>
    cases h with
    | act rest => exact .act (ih _ _ rest)
  | wait wake age drop next ih =>
    cases h with
    | wait late rest => exact .wait late (ih rest)

/-! ## What all changes of an activity have in common -/

/-- Each change that the activity can make is of a kind, those at its being dropped among them. -/
def Always (kind : Deed σ → Prop) : Activity σ α → Prop
  | done _ => True
  | panic => True
  | act change next => ∀ now s, kind ⟨now, s, change now s⟩ ∧ (next now s).Always kind
  | wait _ _ drop next => (∀ now s, kind ⟨now, s, drop now s⟩) ∧ next.Always kind

variable {kind : Deed σ → Prop}

theorem Always.of_does (h : t.Always kind) (hdoes : t.Does now ds finish a) : ∀ d ∈ ds, kind d := by
  induction hdoes with
  | done => simp
  | @act change next now _ s _ _ rest ih =>
    obtain ⟨hdeed, hnext⟩ := h now s
    intro d hd
    rw [List.mem_cons] at hd
    obtain rfl | hd := hd
    · exact hdeed
    · exact ih hnext d hd
  | wait late rest ih => exact ih h.2

theorem Always.mono {kind' : Deed σ → Prop} (h : t.Always kind) (himp : ∀ d, kind d → kind' d) :
    t.Always kind' := by
  induction t with
  | done a => trivial
  | panic => trivial
  | act change next ih => exact fun now s ↦ ⟨himp _ (h now s).1, ih now s (h now s).2⟩
  | wait wake age drop next ih => exact ⟨fun now s ↦ himp _ (h.1 now s), ih h.2⟩

theorem Always.bind (h : t.Always kind) (hf : ∀ a, (f a).Always kind) :
    (t.bind f).Always kind := by
  induction t with
  | done a => exact hf a
  | panic => trivial
  | act change next ih => exact fun now s ↦ ⟨(h now s).1, ih now s (h now s).2⟩
  | wait wake age drop next ih => exact ⟨h.1, ih h.2⟩

/-- To drop an activity at an instant adds no other change than its drops. -/
theorem Always.withinAfter (h : t.Always kind) (limit : Time) (waits : Nat) :
    (t.withinAfter limit waits).Always kind := by
  induction t generalizing waits with
  | done a => trivial
  | panic => trivial
  | act change next ih => exact fun now s ↦ ⟨(h now s).1, ih now s (h now s).2 waits⟩
  | wait wake age drop next ih =>
    have hdropped : (act drop fun _ _ ↦ done none : Activity σ (Option α)).Always kind :=
      fun now s ↦ ⟨h.1 now s, trivial⟩
    cases wake with
    | none => exact ⟨h.1, hdropped⟩
    | some wake =>
      unfold Activity.withinAfter
      split
      · exact ⟨h.1, ih h.2 _⟩
      · split
        · exact ⟨h.1, ih h.2 _⟩
        · exact ⟨h.1, hdropped⟩

theorem Always.within (h : t.Always kind) (limit : Time) : (t.within limit).Always kind :=
  h.withinAfter limit 0

/-- What is undone at a drop comes on top of what the activity itself does there. -/
theorem Always.guarded {undo : Time → σ → σ} (h : t.Always kind)
    (hsame : ∀ now s, kind ⟨now, s, s⟩)
    (hundo : ∀ now s s', kind ⟨now, s, s'⟩ → kind ⟨now, s, undo now s'⟩) :
    (t.guarded undo).Always kind := by
  induction t with
  | done a => trivial
  | panic => exact fun now s ↦ ⟨hundo now s s (hsame now s), trivial⟩
  | act change next ih => exact fun now s ↦ ⟨(h now s).1, ih now s (h now s).2⟩
  | wait wake age drop next ih => exact ⟨fun now s ↦ hundo now s _ (h.1 now s), ih h.2⟩

theorem Always.map {g : α → β} (h : t.Always kind) : (t.map g).Always kind :=
  h.bind fun _ ↦ trivial

/-- So does what is done at its end. -/
theorem Always.ending {last : Time → σ → σ} (h : t.Always kind)
    (hsame : ∀ now s, kind ⟨now, s, s⟩)
    (hlast : ∀ now s s', kind ⟨now, s, s'⟩ → kind ⟨now, s, last now s'⟩) :
    (t.ending last).Always kind := by
  induction t with
  | done a => exact fun now s ↦ ⟨hlast now s s (hsame now s), trivial⟩
  | panic => exact fun now s ↦ ⟨hlast now s s (hsame now s), trivial⟩
  | act change next ih => exact fun now s ↦ ⟨(h now s).1, ih now s (h now s).2⟩
  | wait wake age drop next ih => exact ⟨fun now s ↦ hlast now s _ (h.1 now s), ih h.2⟩

theorem Always.recovering {answer : α} (h : t.Always kind) :
    (Activity.recovering (.done answer) t).Always kind := by
  induction t with
  | done a => trivial
  | panic => trivial
  | act change next ih => exact fun now s ↦ ⟨(h now s).1, ih now s (h now s).2⟩
  | wait wake age drop next ih => exact ⟨h.1, ih h.2⟩

/-! ## One after the other -/

theorem bind_assoc {γ : Type} (t : Activity σ α) (f : α → Activity σ β) (g : β → Activity σ γ) :
    (t.bind f).bind g = t.bind fun a ↦ (f a).bind g := by
  induction t with
  | done a => rfl
  | panic => rfl
  | act change next ih => simp only [Activity.bind, ih]
  | wait wake age drop next ih => simp only [Activity.bind, ih]

theorem map_bind {γ : Type} (t : Activity σ α) (f : α → Activity σ β) (g : β → γ) :
    (t.bind f).map g = t.bind fun a ↦ (f a).map g :=
  bind_assoc t f _

theorem map_map {γ : Type} (t : Activity σ α) (f : α → β) (g : β → γ) :
    (t.map f).map g = t.map (g ∘ f) :=
  bind_assoc t _ _

/-! ## Runs -/

/-- Each change meets what the one before has left. -/
inductive Chain : σ → List (Deed σ) → σ → Prop where
  | nil (s : σ) : Chain s [] s
  | cons {d : Deed σ} {ds : List (Deed σ)} {s s' : σ} (met : d.before = s)
      (rest : Chain d.after ds s') : Chain s (d :: ds) s'

/-- What no change makes less lies, at each of them, between its first and its last value. -/
theorem Chain.between {s s' : σ} {ds : List (Deed σ)} (h : Chain s ds s') {f : σ → Nat}
    (hmono : ∀ d ∈ ds, f d.before ≤ f d.after) : ∀ d ∈ ds, f s ≤ f d.before ∧ f d.after ≤ f s' := by
  -- Both bounds of the rest move on with the change before it.
  suffices f s ≤ f s' ∧ ∀ d ∈ ds, f s ≤ f d.before ∧ f d.after ≤ f s' from this.2
  induction h with
  | nil s => exact ⟨Nat.le_refl _, nofun⟩
  | @cons d ds s s' met rest ih =>
    rw [List.forall_mem_cons] at hmono
    obtain ⟨hfirst, hmono⟩ := hmono
    obtain ⟨hend, hrest⟩ := ih hmono
    rw [← met, List.forall_mem_cons]
    refine ⟨Nat.le_trans hfirst hend, ⟨Nat.le_refl _, hend⟩, fun x hx ↦ ?_⟩
    exact ⟨Nat.le_trans hfirst (hrest x hx).1, (hrest x hx).2⟩

/-- An activity that is left alone has a history, in which nobody else does anything. -/
theorem does_of_run (h : t.run now s = (finish, s', .done a)) :
    ∃ ds, t.Does now ds finish a ∧ Chain s ds s' := by
  induction t generalizing now s with
  | done b =>
    cases h
    exact ⟨[], .done _ _, .nil _⟩
  | panic => cases h
  | act change next ih =>
    obtain ⟨ds, hdoes, hchain⟩ := ih now s h
    exact ⟨⟨now, s, change now s⟩ :: ds, .act hdoes, .cons rfl hchain⟩
  | wait wake age drop next ih =>
    cases wake with
    | none => cases h
    | some wake =>
      obtain ⟨ds, hdoes, hchain⟩ := ih h
      exact ⟨ds, .wait (Nat.le_refl _) hdoes, hchain⟩

/-- An activity that is run goes on with what follows it once it has ended. -/
theorem run_bind (t : Activity σ α) (f : α → Activity σ β) (now : Time) (s : σ) :
    (t.bind f).run now s =
      match t.run now s with
      | (mid, s', .done a) => (f a).run mid s'
      | (mid, s', .panicked) => (mid, s', .panicked)
      | (mid, s', .stuck) => (mid, s', .stuck) := by
  induction t generalizing now s with
  | done a => rfl
  | panic => rfl
  | act change next ih => exact ih now s now (change now s)
  | wait wake age drop next ih =>
    cases wake with
    | none => rfl
    | some wake => exact ih (max now wake) s

theorem run_map (f : α → β) (h : t.run now s = (finish, s', outcome)) :
    (t.map f).run now s = (finish, s', outcome.map f) := by
  unfold Activity.map
  rw [run_bind, h]
  cases outcome <;> rfl

theorem le_run (t : Activity σ α) (now : Time) (s : σ) : now ≤ (t.run now s).1 := by
  induction t generalizing now s with
  | done a => exact Nat.le_refl now
  | panic => exact Nat.le_refl now
  | act change next ih => exact ih now s now (change now s)
  | wait wake age drop next ih =>
    cases wake with
    | none => exact Nat.le_refl now
    | some wake => exact Nat.le_trans (Nat.le_max_left now wake) (ih _ s)

/-- An activity that comes out in some way by a deadline comes out in the same way under it. -/
theorem run_withinAfter {limit : Time} (h : t.run now s = (finish, s', outcome))
    (hle : finish ≤ limit) (hended : outcome ≠ .stuck) (waits : Nat) :
    (t.withinAfter limit waits).run now s = (finish, s', outcome.map some) := by
  induction t generalizing now s waits with
  | done a =>
    cases h
    rfl
  | panic =>
    cases h
    rfl
  | act change next ih => exact ih now s h waits
  | wait wake age drop next ih =>
    cases wake with
    | none =>
      cases h
      exact absurd rfl hended
    | some wake =>
      have hwake : wake ≤ limit := by
        have hrun := le_run next (max now wake) s
        rw [show (next.run (max now wake) s).1 = finish from congrArg Prod.fst h] at hrun
        exact Nat.le_trans (Nat.le_trans (Nat.le_max_right now wake) hrun) hle
      unfold withinAfter
      split
      · exact ih h (waits + 1)
      · rename_i hnot
        rw [if_pos (Nat.le_antisymm hwake (Nat.le_of_not_lt hnot))]
        exact ih h (waits + 1)

/-- A wait that outlasts a deadline is dropped there. -/
theorem run_withinAfter_of_late {limit : Time} {wake : Option Time} (hlate : ∀ w ∈ wake, limit < w)
    (age : Nat) (drop : Time → σ → σ) (next : Activity σ α) (waits : Nat) (now : Time) (s : σ) :
    ((wait wake age drop next).withinAfter limit waits).run now s =
      (max now limit, drop (max now limit) s, .done none) := by
  cases wake with
  | none => rfl
  | some w =>
    have hw : limit < w := hlate w rfl
    rw [withinAfter, if_neg (Nat.not_lt_of_lt hw), if_neg (Nat.ne_of_gt hw)]
    rfl

/-! ## Over a part of the state -/

variable {τ : Type} {get : τ → σ} {set : σ → τ → τ}

/-- Whether an activity is dropped at an instant before or after it is set over a part of the state
is the same. -/
theorem withinAfter_onPart (t : Activity σ α) (limit : Time) (waits : Nat) :
    (t.onPart get set).withinAfter limit waits = (t.withinAfter limit waits).onPart get set := by
  induction t generalizing waits with
  | done a => rfl
  | panic => rfl
  | act change next ih => simp only [onPart, withinAfter, ih]
  | wait wake age drop next ih =>
    cases wake with
    | none => rfl
    | some wake =>
      simp only [onPart, withinAfter, ih]
      split
      · rfl
      · split
        · rfl
        · rfl

/-- An activity over a part of the state runs as it does over that part alone. -/
theorem run_onPart (hget : ∀ s x, get (set s x) = s) (hset : ∀ s s' x, set s (set s' x) = set s x)
    (hsame : ∀ x, set (get x) x = x) (t : Activity σ α) (now : Time) (x : τ) :
    (t.onPart get set).run now x =
      match t.run now (get x) with
      | (finish, s, outcome) => (finish, set s x, outcome) := by
  induction t generalizing now x with
  | done a => simp only [onPart, run, hsame]
  | panic => simp only [onPart, run, hsame]
  | act change next ih => simp only [onPart, run, ih, hget, hset]
  | wait wake age drop next ih =>
    cases wake with
    | none => simp only [onPart, run, hsame]
    | some wake => exact ih (max now wake) x

end Activity

end RpcGateway
