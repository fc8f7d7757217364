import RpcGateway.Proofs.Activity.Progress

/-!
# Activities in step

Two activities go in step if they make states that are alike out of states that are alike, wait for
the same instants, and end alike. What is put together from activities in step goes in step. Nobody
can tell two such activities apart by how they come out: not if they are left alone, and not if
others act in between, as long as these leave states that are alike.
-/

namespace RpcGateway

/-- Two ways of coming out, with results that are alike if there are any. -/
inductive Outcome.Rel {α β : Type} (Q : α → β → Prop) : Outcome α → Outcome β → Prop where
  | done {a : α} {b : β} (alike : Q a b) : Rel Q (.done a) (.done b)
  | panicked : Rel Q .panicked .panicked
  | stuck : Rel Q .stuck .stuck

/-- Two histories, as far as both go: their changes are made at the same instants, and meet states
that are alike. -/
def Abreast {σ τ : Type} (R : σ → τ → Prop) (ds : List (Deed σ)) (ds' : List (Deed τ)) : Prop :=
  ∀ p ∈ ds.zip ds', p.1.instant = p.2.instant ∧ R p.1.before p.2.before

theorem abreast_cons {σ τ : Type} {R : σ → τ → Prop} {d : Deed σ} {d' : Deed τ}
    {ds : List (Deed σ)} {ds' : List (Deed τ)} :
    Abreast R (d :: ds) (d' :: ds') ↔
      (d.instant = d'.instant ∧ R d.before d'.before) ∧ Abreast R ds ds' := by
  unfold Abreast
  rw [List.zip_cons_cons, List.forall_mem_cons]

theorem Outcome.rel_eq_iff {α : Type} {x y : Outcome α} : Rel Eq x y ↔ x = y := by
  constructor
  · rintro (⟨rfl⟩ | _ | _)
    · rfl
    · rfl
    · rfl
  · rintro rfl
    cases x with
    | done a => exact .done rfl
    | panicked => exact .panicked
    | stuck => exact .stuck

namespace Activity

variable {σ τ α β γ δ : Type} {R : σ → τ → Prop} {Q : α → β → Prop} {t : Activity σ α}
  {u : Activity τ β}

/-- Changes of states that are alike, to states that are alike. -/
def Preserves (R : σ → τ → Prop) (change : Time → σ → σ) (change' : Time → τ → τ) : Prop :=
  ∀ now s s', R s s' → R (change now s) (change' now s')

theorem preserves_keep : Preserves R keep keep := fun _ _ _ h ↦ h

inductive InStep (R : σ → τ → Prop) (Q : α → β → Prop) : Activity σ α → Activity τ β → Prop where
  | done {a : α} {b : β} (alike : Q a b) : InStep R Q (.done a) (.done b)
  | panic : InStep R Q .panic .panic
  | act {change : Time → σ → σ} {change' : Time → τ → τ} {next : Time → σ → Activity σ α}
      {next' : Time → τ → Activity τ β} (changes : Preserves R change change')
      (nexts : ∀ now s s', R s s' → InStep R Q (next now s) (next' now s')) :
      InStep R Q (.act change next) (.act change' next')
  | wait {wake : Option Time} {age : Nat} {drop : Time → σ → σ} {drop' : Time → τ → τ}
      {next : Activity σ α} {next' : Activity τ β} (drops : Preserves R drop drop')
      (nexts : InStep R Q next next') :
      InStep R Q (.wait wake age drop next) (.wait wake age drop' next')

namespace InStep

/-- An activity goes in step with itself. -/
theorem refl (t : Activity σ α) : InStep Eq Eq t t := by
  induction t with
  | done a => exact .done rfl
  | panic => exact .panic
  | act change next ih =>
    refine .act ?_ ?_
    · rintro now s _ rfl
      rfl
    · rintro now s _ rfl
      exact ih now s
  | wait wake age drop next ih =>
    refine .wait ?_ ih
    rintro now s _ rfl
    rfl

/-! ## Parts of activities -/

theorem bind {P : γ → δ → Prop} {f : α → Activity σ γ} {f' : β → Activity τ δ}
    (h : InStep R Q t u) (hnext : ∀ a b, Q a b → InStep R P (f a) (f' b)) :
    InStep R P (t.bind f) (u.bind f') := by
  induction h with
  | done alike => exact hnext _ _ alike
  | panic => exact .panic
  | act changes _ ih => exact .act changes ih
  | wait drops _ ih => exact .wait drops ih

/-- What two activities come to may be known less exactly. -/
theorem mono {Q' : α → β → Prop} (h : InStep R Q t u) (himp : ∀ a b, Q a b → Q' a b) :
    InStep R Q' t u := by
  induction h with
  | done alike => exact .done (himp _ _ alike)
  | panic => exact .panic
  | act changes _ ih => exact .act changes ih
  | wait drops _ ih => exact .wait drops ih

theorem map {P : γ → δ → Prop} {f : α → γ} {f' : β → δ} (h : InStep R Q t u)
    (hmap : ∀ a b, Q a b → P (f a) (f' b)) : InStep R P (t.map f) (u.map f') :=
  h.bind fun a b alike ↦ .done (hmap a b alike)

theorem modifyGet {f : Time → σ → α × σ} {f' : Time → τ → β × τ}
    (h : ∀ now s s', R s s' → Q (f now s).1 (f' now s').1 ∧ R (f now s).2 (f' now s').2) :
    InStep R Q (Activity.modifyGet f) (Activity.modifyGet f') :=
  .act (fun now s s' hs ↦ (h now s s' hs).2) fun now s s' hs ↦ .done (h now s s' hs).1

theorem sleepUntil (instant : Time) :
    InStep R Eq (Activity.sleepUntil instant : Activity σ Unit) (Activity.sleepUntil instant) :=
  .wait preserves_keep (.done rfl)

theorem sleep (ms : Nat) :
    InStep R Eq (Activity.sleep ms : Activity σ Unit) (Activity.sleep ms) :=
  .act preserves_keep fun now _ _ _ ↦ sleepUntil (now + ms)

theorem hang : InStep R Q (Activity.hang : Activity σ α) (Activity.hang : Activity τ β) :=
  .wait preserves_keep .panic

theorem withinAfter (h : InStep R Q t u) (limit : Time) (waits : Nat) :
    InStep R (Option.Rel Q) (t.withinAfter limit waits) (u.withinAfter limit waits) := by
  induction h generalizing waits with
  | done alike => exact .done (.some alike)
  | panic => exact .panic
  | act changes _ ih => exact .act changes fun now s s' hs ↦ ih now s s' hs waits
  | @wait wake age drop drop' next next' drops _ ih =>
    have hgivenUp : InStep R (Option.Rel Q)
        (.wait (some limit) waits drop (.act drop fun _ _ ↦ .done none))
        (.wait (some limit) waits drop' (.act drop' fun _ _ ↦ .done none)) :=
      .wait drops (.act drops fun _ _ _ _ ↦ .done .none)
    cases wake with
    | none => exact hgivenUp
    | some wake =>
      unfold Activity.withinAfter
      split
      · exact .wait drops (ih (waits + 1))
      · split
        · exact .wait drops (ih (waits + 1))
        · exact hgivenUp

theorem within (h : InStep R Q t u) (limit : Time) :
    InStep R (Option.Rel Q) (t.within limit) (u.within limit) :=
  h.withinAfter limit 0

theorem guarded {undo : Time → σ → σ} {undo' : Time → τ → τ} (hundo : Preserves R undo undo')
    (h : InStep R Q t u) : InStep R Q (t.guarded undo) (u.guarded undo') := by
  induction h with
  | done alike => exact .done alike
  | panic => exact .act hundo fun _ _ _ _ ↦ .panic
  | act changes _ ih => exact .act changes ih
  | wait drops _ ih =>
    exact .wait (fun now s s' hs ↦ hundo now _ _ (drops now s s' hs)) ih

theorem ending {finish : Time → σ → σ} {finish' : Time → τ → τ}
    (hfinish : Preserves R finish finish') (h : InStep R Q t u) :
    InStep R Q (t.ending finish) (u.ending finish') := by
  induction h with
  | done alike => exact .act hfinish fun _ _ _ _ ↦ .done alike
  | panic => exact .act hfinish fun _ _ _ _ ↦ .panic
  | act changes _ ih => exact .act changes ih
  | wait drops _ ih =>
    exact .wait (fun now s s' hs ↦ hfinish now _ _ (drops now s s' hs)) ih

theorem recovering {answer : Activity σ α} {answer' : Activity τ β}
    (hanswer : InStep R Q answer answer') (h : InStep R Q t u) :
    InStep R Q (Activity.recovering answer t) (Activity.recovering answer' u) := by
  induction h with
  | done alike => exact .done alike
  | panic => exact hanswer
  | act changes _ ih => exact .act changes ih
  | wait drops _ ih => exact .wait drops ih

/-- Activities over a part of the state each. -/
theorem onPart {σ₂ τ₂ : Type} {S : σ₂ → τ₂ → Prop} {get : σ₂ → σ} {get' : τ₂ → τ}
    {set : σ → σ₂ → σ₂} {set' : τ → τ₂ → τ₂} (hget : ∀ x x', S x x' → R (get x) (get' x'))
    (hset : ∀ s s' x x', R s s' → S x x' → S (set s x) (set' s' x')) (h : InStep R Q t u) :
    InStep S Q (t.onPart get set) (u.onPart get' set') := by
  induction h with
  | done alike => exact .done alike
  | panic => exact .panic
  | act changes _ ih =>
    refine .act ?_ fun now x x' hx ↦ ih now _ _ (hget x x' hx)
    exact fun now x x' hx ↦ hset _ _ x x' (changes now _ _ (hget x x' hx)) hx
  | wait drops _ ih =>
    exact .wait (fun now x x' hx ↦ hset _ _ x x' (drops now _ _ (hget x x' hx)) hx) ih

/-- What an activity makes of a state of some kind is of that kind, if all its changes keep it. -/
theorem of_always {kind : σ → Prop} {t : Activity σ α}
    (h : t.Always fun d ↦ kind d.before → kind d.after) :
    InStep (fun s s' ↦ s = s' ∧ kind s) Eq t t := by
  induction t with
  | done a => exact .done rfl
  | panic => exact .panic
  | act change next ih =>
    refine .act ?_ ?_
    · rintro now s _ ⟨rfl, hs⟩
      exact ⟨rfl, (h now s).1 hs⟩
    · rintro now s _ ⟨rfl, hs⟩
      exact ih now s (h now s).2
  | wait wake age drop next ih =>
    refine .wait ?_ (ih h.2)
    rintro now s _ ⟨rfl, hs⟩
    exact ⟨rfl, h.1 now s hs⟩

/-! ## How they come out -/

/-- Left alone, they end at the same instant, alike, and leave states that are alike. -/
theorem run (h : InStep R Q t u) (now : Time) {s : σ} {s' : τ} (hs : R s s') :
    (t.run now s).1 = (u.run now s').1 ∧ R (t.run now s).2.1 (u.run now s').2.1 ∧
      Outcome.Rel Q (t.run now s).2.2 (u.run now s').2.2 := by
  induction h generalizing now s s' with
  | done alike => exact ⟨rfl, hs, .done alike⟩
  | panic => exact ⟨rfl, hs, .panicked⟩
  | act changes _ ih => exact ih now s s' hs now (changes now s s' hs)
  | @wait wake _ _ _ _ _ _ _ ih =>
    cases wake with
    | none => exact ⟨rfl, hs, .stuck⟩
    | some wake => exact ih (max now wake) hs

/-- Whatever others do in between, they have results that are alike, if both have come to one. -/
theorem of_proceeds (h : InStep R Q t u) {now now' : Time} {ds : List (Deed σ)}
    {ds' : List (Deed τ)} {a : α} {b : β} (ht : t.Proceeds now ds (some a))
    (hu : u.Proceeds now' ds' (some b)) (habreast : Abreast R ds ds') : Q a b := by
  induction h generalizing now now' ds ds' with
  | done alike =>
    cases ht
    cases hu
    exact alike
  | panic => cases ht
  | act _ _ ih =>
    cases ht with
    | act ht =>
      cases hu with
      | act hu =>
        obtain ⟨⟨rfl, hmet⟩, hrest⟩ := abreast_cons.mp habreast
        exact ih _ _ _ hmet ht hu hrest
  | wait _ _ ih =>
    cases ht with
    | wait _ ht =>
      cases hu with
      | wait _ hu => exact ih ht hu habreast

/-- Whenever one of them comes to a result, the other can come to one at the same instants, if it
meets states that are alike. -/
theorem exists_abreast (h : InStep R Q t u) (htotal : ∀ s, ∃ s', R s s') {now : Time}
    {ds : List (Deed σ)} {a : α} (ht : t.Proceeds now ds (some a)) :
    ∃ ds' b, u.Proceeds now ds' (some b) ∧ Abreast R ds ds' := by
  induction h generalizing now ds with
  | done alike =>
    cases ht
    exact ⟨[], _, .done _ now, nofun⟩
  | panic => cases ht
  | act _ _ ih =>
    cases ht with
    | @act _ _ _ s _ _ ht =>
      obtain ⟨s', hs⟩ := htotal s
      obtain ⟨ds', b, hu, habreast⟩ := ih now s s' hs ht
      exact ⟨_, b, .act hu, abreast_cons.mpr ⟨⟨rfl, hs⟩, habreast⟩⟩
  | wait _ _ ih =>
    cases ht with
    | wait late ht =>
      obtain ⟨ds', b, hu, habreast⟩ := ih ht
      exact ⟨ds', b, .wait late hu, habreast⟩

end InStep

end Activity

end RpcGateway
