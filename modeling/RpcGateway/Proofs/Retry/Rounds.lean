import RpcGateway.Calls.Retry
import RpcGateway.Proofs.Activity.History

/-!
# Rounds of attempts

The history of the attempts at any operation, which others may cut across: a look at the clock, the
changes that the operation makes under the deadline, and either an end or another look, a word to
`onRetry`, a sleep and the next round. What holds of every history of attempts is an induction over
these.
-/

namespace RpcGateway.Calls.RetryPolicy

variable {σ α : Type} {p : RetryPolicy} {deadline : Deadline} {op : Activity σ (Except Rpc.Error α)}
  {onRetry : Nat → Rpc.Error → Time → σ → σ} {more made : Nat} {now finish : Time}
  {ds : List (Deed σ)} {result : Except RetryError α}

/-- What attempt `n` comes to if it is the last one because of what it has delivered, when `more`
would be left. -/
inductive Settles : Nat → Nat → Option (Except Rpc.Error α) → Except RetryError α → Prop where
  | cut (more n : Nat) : Settles more n none (.error (.deadlineExceeded n))
  | ok (more n : Nat) (a : α) : Settles more n (some (.ok a)) (.ok a)
  | terminal (more n : Nat) {e : Rpc.Error} (final : e.retryable = false) :
      Settles more n (some (.error e)) (.error (.terminal e))
  | exhausted (n : Nat) {e : Rpc.Error} (retryable : e.retryable = true) :
      Settles 0 n (some (.error e)) (.error (.exhausted n e))

/-- The history of the attempts after the first `made`, of which at most `more + 1` are left. -/
inductive Rounds (p : RetryPolicy) (deadline : Deadline) (op : Activity σ (Except Rpc.Error α))
    (onRetry : Nat → Rpc.Error → Time → σ → σ) :
    Nat → Nat → Time → List (Deed σ) → Except RetryError α → Prop where
  | late {more made : Nat} {now : Time} {s : σ} (passed : deadline.isExpired now = true) :
      Rounds p deadline op onRetry more made now [⟨now, s, s⟩] (.error (.deadlineExceeded made))
  | last {more made : Nat} {now mid : Time} {s : σ} {first : List (Deed σ)}
      {got : Option (Except Rpc.Error α)} {result : Except RetryError α}
      (before : deadline.isExpired now = false) (tried : (deadline.bound op).Does now first mid got)
      (settles : Settles more (made + 1) got result) :
      Rounds p deadline op onRetry more made now (⟨now, s, s⟩ :: first) result
  | short {more made : Nat} {now mid : Time} {s s' : σ} {first : List (Deed σ)} {e : Rpc.Error}
      (before : deadline.isExpired now = false)
      (tried : (deadline.bound op).Does now first mid (some (.error e)))
      (retryable : e.retryable = true)
      (reaches : deadline.wouldExpireAfter? mid (backoffMillis (made + 1) p.baseDelayMs) =
        some true) :
      Rounds p deadline op onRetry (more + 1) made now (⟨now, s, s⟩ :: (first ++ [⟨mid, s', s'⟩]))
        (.error (.deadlineExceeded (made + 1)))
  | again {more made : Nat} {now mid woken : Time} {s s' s'' : σ} {first rest : List (Deed σ)}
      {e : Rpc.Error} {result : Except RetryError α} (before : deadline.isExpired now = false)
      (tried : (deadline.bound op).Does now first mid (some (.error e)))
      (retryable : e.retryable = true)
      (ends : deadline.wouldExpireAfter? mid (backoffMillis (made + 1) p.baseDelayMs) = some false)
      (slept : mid + backoffMillis (made + 1) p.baseDelayMs ≤ woken)
      (next : Rounds p deadline op onRetry more (made + 1) woken rest result) :
      Rounds p deadline op onRetry (more + 1) made now
        (⟨now, s, s⟩ :: (first ++
          ⟨mid, s', s'⟩ :: ⟨mid, s'', onRetry (made + 1) e mid s''⟩ :: rest)) result

/-- The history of a wait: a look at the clock, and then either an end because of the deadline, or
the word of the retry and what follows once the wait is over. -/
theorem cases_of_does_afterWait {delay n : Nat} {word : Time → σ → σ}
    {next : Activity σ (Except RetryError α)}
    (h : (afterWait deadline delay n word next).Does now ds finish result) :
    ∃ s ds', ds = ⟨now, s, s⟩ :: ds' ∧
      ((deadline.wouldExpireAfter? now delay = some true ∧ ds' = [] ∧
          result = .error (.deadlineExceeded n)) ∨
        (deadline.wouldExpireAfter? now delay = some false ∧
          ∃ s' woken rest, ds' = ⟨now, s', word now s'⟩ :: rest ∧ now + delay ≤ woken ∧
            next.Does woken rest finish result)) := by
  unfold afterWait at h
  cases h with
  | @act _ _ _ _ s ds' _ rest =>
  refine ⟨s, ds', rfl, ?_⟩
  dsimp only at rest
  split at rest
  · cases rest
  · rename_i hreaches
    cases rest
    exact .inl ⟨hreaches, rfl, rfl⟩
  · rename_i hends
    cases rest with
    | @act _ _ _ _ s' _ _ slept =>
    cases slept with
    | wait woken later =>
    exact .inr ⟨hends, s', _, _, rfl, Nat.le_trans (Nat.le_max_right _ _) woken, later⟩

theorem rounds_of_does (h : (p.attempts deadline op onRetry more made).Does now ds finish result) :
    Rounds p deadline op onRetry more made now ds result := by
  induction more using Nat.strongRecOn generalizing made now ds with
  | ind more ih =>
    unfold attempts at h
    cases h with
    | @act _ _ _ _ s _ _ rest =>
    dsimp only at rest
    by_cases hexpired : deadline.isExpired now = true
    · rw [if_pos hexpired] at rest
      cases rest
      exact .late hexpired
    rw [if_neg hexpired] at rest
    have hbefore := eq_false_of_ne_true hexpired
    obtain ⟨first, mid, got, later, hfirst, hlater, rfl⟩ := Activity.exists_of_does_bind rest
    have hlast {result : Except RetryError α} (hsettles : Settles more (made + 1) got result) :
        Rounds p deadline op onRetry more made now (⟨now, s, s⟩ :: (first ++ [])) result := by
      rw [List.append_nil]
      exact .last hbefore hfirst hsettles
    match got, hfirst, hlater, @hlast with
    | none, _, .done _ _, hlast => exact hlast (.cut _ _)
    | some (.ok a), _, .done _ _, hlast => exact hlast (.ok _ _ a)
    | some (.error e), hfirst, hlater, hlast =>
      dsimp only at hlater
      by_cases hretryable : e.retryable = true
      · rw [if_neg (by simp [hretryable])] at hlater
        cases more with
        | zero =>
          cases hlater
          exact hlast (.exhausted _ hretryable)
        | succ more =>
          obtain ⟨s', later, rfl, hshort | hslept⟩ := cases_of_does_afterWait hlater
          · obtain ⟨hreaches, rfl, rfl⟩ := hshort
            exact .short hbefore hfirst hretryable hreaches
          · obtain ⟨hends, s'', woken, rest, rfl, slept, hrest⟩ := hslept
            have hrounds := ih more (Nat.lt_succ_self more) hrest
            exact .again hbefore hfirst hretryable hends slept hrounds
      · rw [if_pos (by simp [hretryable])] at hlater
        cases hlater
        exact hlast (.terminal _ _ (eq_false_of_ne_true hretryable))

/-- Attempts are used up only when all of them have been made, by a retryable error. -/
theorem Rounds.exhausted (h : Rounds p deadline op onRetry more made now ds result) {n : Nat}
    {e : Rpc.Error} (hresult : result = .error (.exhausted n e)) : n = made + (more + 1) := by
  induction h with
  | late => cases hresult
  | last _ _ settles =>
    cases settles with
    | exhausted => cases hresult; rfl
    | _ => cases hresult
  | short => cases hresult
  | again _ _ _ _ _ _ ih => rw [ih hresult, Nat.add_assoc, Nat.add_comm 1]

theorem Rounds.terminal (h : Rounds p deadline op onRetry more made now ds result) {e : Rpc.Error}
    (hresult : result = .error (.terminal e)) : e.retryable = false := by
  induction h with
  | late => cases hresult
  | last _ _ settles =>
    cases settles with
    | terminal _ _ final => cases hresult; exact final
    | _ => cases hresult
  | short => cases hresult
  | again _ _ _ _ _ _ ih => exact ih hresult

theorem always_afterWait {kind : Deed σ → Prop} {delay n : Nat} {word : Time → σ → σ}
    {next : Activity σ (Except RetryError α)} (hnext : next.Always kind)
    (hsame : ∀ now s, kind ⟨now, s, s⟩) (hword : ∀ now s, kind ⟨now, s, word now s⟩) :
    (afterWait deadline delay n word next).Always kind := by
  refine fun now s ↦ ⟨hsame now s, ?_⟩
  dsimp only
  split
  · trivial
  · trivial
  · exact fun now s ↦ ⟨hword now s, hsame, hnext⟩

/-- If each attempt and each retry does only changes of a kind, so does the whole of the attempts.
-/
theorem always_attempts {kind : Deed σ → Prop} (hop : op.Always kind)
    (hsame : ∀ now s, kind ⟨now, s, s⟩) (hretry : ∀ n e now s, kind ⟨now, s, onRetry n e now s⟩) :
    (p.attempts deadline op onRetry more made).Always kind := by
  induction more using Nat.strongRecOn generalizing made with
  | ind more ih =>
    unfold attempts
    refine fun now s ↦ ⟨hsame now s, ?_⟩
    dsimp only
    by_cases hexpired : deadline.isExpired now = true
    · rw [if_pos hexpired]
      trivial
    rw [if_neg hexpired]
    refine Activity.Always.bind (hop.within _) fun got ↦ ?_
    match got with
    | none => trivial
    | some (.ok a) => trivial
    | some (.error e) =>
      dsimp only
      split
      · trivial
      cases more with
      | zero => trivial
      | succ more => exact always_afterWait (ih more (Nat.lt_succ_self more)) hsame (hretry _ _)

end RpcGateway.Calls.RetryPolicy
