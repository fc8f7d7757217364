import RpcGateway.Proofs.Activity.History

/-!
# Histories that may be cut off

An activity need not come to its end. It can wait for ever, break down, or be dropped while it
waits; and someone may look at it while it still goes on. What it has done by then is the beginning
of a history, and what is undone at its being dropped. Often only a part of the state is of
interest, which some changes leave alone.
-/

namespace RpcGateway

def Outcome.result? {α : Type} : Outcome α → Option α
  | done a => some a
  | panicked => none
  | stuck => none

/-- A change, seen on a part of the state. -/
def Deed.map {σ τ : Type} (get : σ → τ) (d : Deed σ) : Deed τ :=
  ⟨d.instant, get d.before, get d.after⟩

/-- A change that leaves everything as it is. -/
def Deed.Idle {σ : Type} (d : Deed σ) : Prop := d.after = d.before

namespace Activity

variable {σ τ α β : Type} {t : Activity σ α} {f : α → Activity σ β} {now finish : Time}
  {ds : List (Deed σ)} {a : α} {result : Option α}

/-- Begun at `now`, the activity has made the changes of the list. It has come to a result, or it
has not and still goes on, has broken down, or has been dropped. -/
inductive Proceeds : Activity σ α → Time → List (Deed σ) → Option α → Prop where
  | done (a : α) (now : Time) : Proceeds (.done a) now [] (some a)
  | cut (t : Activity σ α) (now : Time) : Proceeds t now [] none
  | act {change : Time → σ → σ} {next : Time → σ → Activity σ α} {now : Time} {s : σ}
      {ds : List (Deed σ)} {result : Option α} (rest : Proceeds (next now s) now ds result) :
      Proceeds (.act change next) now (⟨now, s, change now s⟩ :: ds) result
  | wait {wake : Time} {age : Nat} {drop : Time → σ → σ} {next : Activity σ α} {now woken : Time}
      {ds : List (Deed σ)} {result : Option α} (late : max now wake ≤ woken)
      (rest : Proceeds next woken ds result) :
      Proceeds (.wait (some wake) age drop next) now ds result
  | drop {wake : Option Time} {age : Nat} {drop : Time → σ → σ} {next : Activity σ α}
      {now instant : Time} (s : σ) (late : now ≤ instant) :
      Proceeds (.wait wake age drop next) now [⟨instant, s, drop instant s⟩] none

theorem Does.proceeds (h : t.Does now ds finish a) : t.Proceeds now ds (some a) := by
  induction h with
  | done a now => exact .done a now
  | act _ ih => exact .act ih
  | wait late _ ih => exact .wait late ih

/-- Nobody need look at the result. -/
theorem Proceeds.unseen (h : t.Proceeds now ds result) : t.Proceeds now ds none := by
  induction h with
  | done a now => exact .cut _ now
  | cut t now => exact .cut t now
  | act _ ih => exact .act ih
  | wait late _ ih => exact .wait late ih
  | drop s late => exact .drop s late

theorem Always.of_proceeds {kind : Deed σ → Prop} (h : t.Always kind)
    (hproceeds : t.Proceeds now ds result) : ∀ d ∈ ds, kind d := by
  induction hproceeds with
  | done => simp
  | cut => simp
  | @act change next now s ds _ _ ih =>
    rw [List.forall_mem_cons]
    exact ⟨(h now s).1, ih (h now s).2⟩
  | wait _ _ ih => exact ih h.2
  | drop s _ =>
    rw [List.forall_mem_singleton]
    exact h.1 _ s

/-- An activity that is left alone has a history, however it comes out. -/
theorem proceeds_of_run (t : Activity σ α) (now : Time) (s : σ) :
    ∃ ds, t.Proceeds now ds (t.run now s).2.2.result? ∧ Chain s ds (t.run now s).2.1 := by
  induction t generalizing now s with
  | done a => exact ⟨[], .done a now, .nil s⟩
  | panic => exact ⟨[], .cut _ now, .nil s⟩
  | act change next ih =>
    obtain ⟨ds, hproceeds, hchain⟩ := ih now s now (change now s)
    exact ⟨_, .act hproceeds, .cons rfl hchain⟩
  | wait wake age drop next ih =>
    cases wake with
    | none => exact ⟨[], .cut _ now, .nil s⟩
    | some wake =>
      obtain ⟨ds, hproceeds, hchain⟩ := ih (max now wake) s
      exact ⟨ds, .wait (Nat.le_refl _) hproceeds, hchain⟩

/-- On no way through the activity there are changes that are not of the one kind and others that
are not of the other kind. -/
def OneOf (kind kind' : Deed σ → Prop) : Activity σ α → Prop
  | done _ => True
  | panic => True
  | act change next => ∀ now s,
      (kind ⟨now, s, change now s⟩ ∧ kind' ⟨now, s, change now s⟩ ∧
          (next now s).OneOf kind kind') ∨
        (kind ⟨now, s, change now s⟩ ∧ (next now s).Always kind) ∨
          (kind' ⟨now, s, change now s⟩ ∧ (next now s).Always kind')
  | wait _ _ drop next =>
      (∀ now s, kind ⟨now, s, drop now s⟩ ∧ kind' ⟨now, s, drop now s⟩) ∧ next.OneOf kind kind'

theorem OneOf.bind {kind kind' : Deed σ → Prop} (h : t.Always fun d ↦ kind d ∧ kind' d)
    (hf : ∀ a, (f a).OneOf kind kind') : (t.bind f).OneOf kind kind' := by
  induction t with
  | done a => exact hf a
  | panic => trivial
  | act change next ih =>
    exact fun now s ↦ .inl ⟨(h now s).1.1, (h now s).1.2, ih now s (h now s).2⟩
  | wait wake age drop next ih => exact ⟨h.1, ih h.2⟩

theorem OneOf.of_proceeds {kind kind' : Deed σ → Prop} (h : t.OneOf kind kind')
    (hproceeds : t.Proceeds now ds result) : (∀ d ∈ ds, kind d) ∨ ∀ d ∈ ds, kind' d := by
  induction hproceeds with
  | done => exact .inl nofun
  | cut => exact .inl nofun
  | @act change next now s ds _ rest ih =>
    simp only [List.forall_mem_cons]
    obtain ⟨hkind, hkind', hnext⟩ | ⟨hkind, hnext⟩ | ⟨hkind', hnext⟩ := h now s
    · exact (ih hnext).imp (.intro hkind) (.intro hkind')
    · exact .inl ⟨hkind, hnext.of_proceeds rest⟩
    · exact .inr ⟨hkind', hnext.of_proceeds rest⟩
  | wait _ _ ih => exact ih h.2
  | drop s _ =>
    simp only [List.forall_mem_singleton]
    exact .inl (h.1 _ s).1

/-! ## Parts of activities -/

theorem Proceeds.of_done (h : (Activity.done a : Activity σ α).Proceeds now ds result) :
    ds = [] ∧ (result = none ∨ result = some a) := by
  cases h with
  | done => exact ⟨rfl, .inr rfl⟩
  | cut => exact ⟨rfl, .inl rfl⟩

theorem Proceeds.of_act {change : Time → σ → σ} {next : Time → σ → Activity σ α}
    (h : (Activity.act change next).Proceeds now ds result) :
    (ds = [] ∧ result = none) ∨
      ∃ s ds', ds = ⟨now, s, change now s⟩ :: ds' ∧ (next now s).Proceeds now ds' result := by
  cases h with
  | cut => exact .inl ⟨rfl, rfl⟩
  | @act _ _ _ s ds' _ rest => exact .inr ⟨s, ds', rfl, rest⟩

/-- What comes second has begun only if what comes first has ended. -/
theorem Proceeds.of_bind {result : Option β} (h : (t.bind f).Proceeds now ds result) :
    (t.Proceeds now ds none ∧ result = none) ∨
      ∃ ds₁ mid a ds₂, t.Does now ds₁ mid a ∧ (f a).Proceeds mid ds₂ result ∧ ds = ds₁ ++ ds₂ := by
  induction t generalizing now ds with
  | done a => exact .inr ⟨[], now, a, ds, .done a now, h, rfl⟩
  | panic =>
    cases h with
    | cut => exact .inl ⟨.cut _ now, rfl⟩
  | act change next ih =>
    cases h with
    | cut => exact .inl ⟨.cut _ now, rfl⟩
    | @act _ _ _ s _ _ rest =>
      obtain ⟨hfirst, hnone⟩ | ⟨ds₁, mid, a, ds₂, hfirst, hsecond, rfl⟩ := ih now s rest
      · exact .inl ⟨.act hfirst, hnone⟩
      · exact .inr ⟨_ :: ds₁, mid, a, ds₂, .act hfirst, hsecond, rfl⟩
  | wait wake age drop next ih =>
    cases h with
    | cut => exact .inl ⟨.cut _ now, rfl⟩
    | wait late rest =>
      obtain ⟨hfirst, hnone⟩ | ⟨ds₁, mid, a, ds₂, hfirst, hsecond, rfl⟩ := ih rest
      · exact .inl ⟨.wait late hfirst, hnone⟩
      · exact .inr ⟨ds₁, mid, a, ds₂, .wait late hfirst, hsecond, rfl⟩
    | drop s late => exact .inl ⟨.drop s late, rfl⟩

theorem Proceeds.of_map {g : α → β} {result : Option β} (h : (t.map g).Proceeds now ds result) :
    ∃ first, t.Proceeds now ds first ∧ result = first.map g := by
  obtain ⟨hfirst, hnone⟩ | ⟨ds₁, mid, a, ds₂, hfirst, hlast, rfl⟩ := h.of_bind
  · exact ⟨none, hfirst, hnone⟩
  · cases hlast with
    | done =>
      rw [List.append_nil]
      exact ⟨some a, hfirst.proceeds, rfl⟩
    | cut =>
      rw [List.append_nil]
      exact ⟨none, hfirst.proceeds.unseen, rfl⟩

theorem Proceeds.map (g : α → β) (h : t.Proceeds now ds result) :
    (t.map g).Proceeds now ds (result.map g) := by
  induction h with
  | done a now => exact .done (g a) now
  | cut t now => exact .cut (t.map g) now
  | act _ ih => exact .act ih
  | wait late _ ih => exact .wait late ih
  | drop s late => exact .drop s late

/-- An activity that is given up at an instant does nothing but that. -/
theorem Proceeds.of_givenUp {limit : Time} {age waits : Nat} {wake : Option Time}
    {drop : Time → σ → σ} {next : Activity σ α} {result : Option (Option α)}
    (h : (Activity.wait (some limit) waits drop (.act drop fun _ _ ↦ .done none)).Proceeds now ds
      result) :
    (Activity.wait wake age drop next).Proceeds now ds result.join := by
  cases h with
  | cut => exact .cut _ now
  | drop s late => exact .drop s late
  | @wait _ _ _ _ _ woken _ _ late rest =>
    have hlate : now ≤ woken := Nat.le_trans (Nat.le_max_left now limit) late
    cases rest with
    | cut => exact .cut _ now
    | act rest =>
      cases rest with
      | done => exact .drop _ hlate
      | cut => exact .drop _ hlate

/-- An activity with a limit ends with a result or is given up. -/
theorem Proceeds.of_withinAfter {limit : Time} {waits : Nat} {result : Option (Option α)}
    (h : (t.withinAfter limit waits).Proceeds now ds result) :
    t.Proceeds now ds result.join := by
  induction t generalizing now ds waits with
  | done a =>
    cases h with
    | done => exact .done a now
    | cut => exact .cut _ now
  | panic =>
    cases h with
    | cut => exact .cut _ now
  | act change next ih =>
    cases h with
    | cut => exact .cut _ now
    | act rest => exact .act (ih _ _ rest)
  | wait wake age drop next ih =>
    -- A wait that is over by the limit goes on, even if its alarm is that of the limit.
    have hgoesOn {wake : Time} {age' : Nat}
        (h : (Activity.wait (some wake) age' drop (next.withinAfter limit (waits + 1))).Proceeds
          now ds result) :
        (Activity.wait (some wake) age drop next).Proceeds now ds result.join := by
      cases h with
      | cut => exact .cut _ now
      | drop s late => exact .drop s late
      | wait late rest => exact .wait late (ih rest)
    cases wake with
    | none => exact h.of_givenUp
    | some wake =>
      unfold Activity.withinAfter at h
      split at h
      · exact hgoesOn h
      · split at h
        · exact hgoesOn h
        · exact h.of_givenUp

/-- What is done at the end of an activity, if it does not show. -/
theorem Proceeds.of_ending {finish : Time → σ → σ} {get : σ → τ}
    (hidle : ∀ now s, get (finish now s) = get s)
    (h : (t.ending finish).Proceeds now ds result) :
    ∃ ds₁ ds₂, t.Proceeds now ds₁ result ∧ (∀ d ∈ ds₂, d.Idle) ∧
      ds.map (Deed.map get) = ds₁.map (Deed.map get) ++ ds₂ := by
  induction t generalizing now ds with
  | done a =>
    cases h with
    | cut => exact ⟨[], [], .cut _ now, nofun, rfl⟩
    | @act _ _ _ s _ _ rest =>
      have hlast : Deed.Idle ⟨now, get s, get (finish now s)⟩ := hidle now s
      cases rest with
      | done => exact ⟨[], [_], .done a now, List.forall_mem_singleton.mpr hlast, rfl⟩
      | cut => exact ⟨[], [_], .cut _ now, List.forall_mem_singleton.mpr hlast, rfl⟩
  | panic =>
    cases h with
    | cut => exact ⟨[], [], .cut _ now, nofun, rfl⟩
    | @act _ _ _ s _ _ rest =>
      have hlast : Deed.Idle ⟨now, get s, get (finish now s)⟩ := hidle now s
      cases rest with
      | cut => exact ⟨[], [_], .cut _ now, List.forall_mem_singleton.mpr hlast, rfl⟩
  | act change next ih =>
    cases h with
    | cut => exact ⟨[], [], .cut _ now, nofun, rfl⟩
    | @act _ _ _ s _ _ rest =>
      obtain ⟨ds₁, ds₂, hfirst, hlast, hmap⟩ := ih now s rest
      refine ⟨_ :: ds₁, ds₂, .act hfirst, hlast, ?_⟩
      rw [List.map_cons, hmap]
      rfl
  | wait wake age drop next ih =>
    cases h with
    | cut => exact ⟨[], [], .cut _ now, nofun, rfl⟩
    | wait late rest =>
      obtain ⟨ds₁, ds₂, hfirst, hlast, hmap⟩ := ih rest
      exact ⟨ds₁, ds₂, .wait late hfirst, hlast, hmap⟩
    | @drop _ _ _ _ _ instant s late =>
      refine ⟨[_], [], .drop s late, nofun, ?_⟩
      have hsame : get (finish instant (drop instant s)) = get (drop instant s) :=
        hidle instant (drop instant s)
      simp [Deed.map, hsame]

/-- An answer stands in for a breakdown. -/
theorem Proceeds.of_recovering {b : α}
    (h : (Activity.recovering (.done b) t).Proceeds now ds result) :
    t.Proceeds now ds result ∨ (t.Proceeds now ds none ∧ result = some b) := by
  induction t generalizing now ds with
  | done a => exact .inl h
  | panic =>
    cases h with
    | done => exact .inr ⟨.cut _ now, rfl⟩
    | cut => exact .inl (.cut _ now)
  | act change next ih =>
    cases h with
    | cut => exact .inl (.cut _ now)
    | act rest =>
      obtain hsame | ⟨hunseen, hanswer⟩ := ih _ _ rest
      · exact .inl (.act hsame)
      · exact .inr ⟨.act hunseen, hanswer⟩
  | wait wake age drop next ih =>
    cases h with
    | cut => exact .inl (.cut _ now)
    | drop s late => exact .inl (.drop s late)
    | wait late rest =>
      obtain hsame | ⟨hunseen, hanswer⟩ := ih rest
      · exact .inl (.wait late hsame)
      · exact .inr ⟨.wait late hunseen, hanswer⟩

/-- An activity over a part of the state, seen on that part. -/
theorem Proceeds.of_onPart {get : τ → σ} {set : σ → τ → τ} (hget : ∀ s x, get (set s x) = s)
    {ds : List (Deed τ)} (h : (t.onPart get set).Proceeds now ds result) :
    t.Proceeds now (ds.map (Deed.map get)) result := by
  induction t generalizing now ds with
  | done a =>
    cases h with
    | done => exact .done a now
    | cut => exact .cut _ now
  | panic =>
    cases h with
    | cut => exact .cut _ now
  | act change next ih =>
    cases h with
    | cut => exact .cut _ now
    | @act _ _ _ x _ _ rest =>
      rw [List.map_cons, Deed.map, hget]
      exact .act (ih now (get x) rest)
  | wait wake age drop next ih =>
    cases h with
    | cut => exact .cut _ now
    | wait late rest => exact .wait late (ih rest)
    | @drop _ _ _ _ _ instant x late =>
      rw [List.map_singleton, Deed.map, hget]
      exact .drop (get x) late

theorem onPart_bind (get : τ → σ) (set : σ → τ → τ) (t : Activity σ α) (f : α → Activity σ β) :
    (t.bind f).onPart get set = (t.onPart get set).bind fun a ↦ (f a).onPart get set := by
  induction t with
  | done a => rfl
  | panic => rfl
  | act change next ih =>
    simp only [Activity.bind, onPart, ih]
  | wait wake age drop next ih =>
    simp only [Activity.bind, onPart, ih]

/-- What is done to a part of the state changes nothing but that part. -/
theorem always_onPart {get : τ → σ} {set : σ → τ → τ} {kind : Deed τ → Prop}
    (h : ∀ now s x, kind ⟨now, x, set s x⟩) (t : Activity σ α) :
    (t.onPart get set).Always kind := by
  induction t with
  | done a => trivial
  | panic => trivial
  | act change next ih => exact fun now x ↦ ⟨h now _ x, ih now (get x)⟩
  | wait wake age drop next ih => exact ⟨fun now x ↦ h now _ x, ih⟩

end Activity

end RpcGateway
