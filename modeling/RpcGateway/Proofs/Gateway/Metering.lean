import RpcGateway.Proofs.Activity.Leases
import RpcGateway.Proofs.Gateway.Admission
import RpcGateway.Proofs.Gateway.Identities
import RpcGateway.Proofs.Measurement.Tallies

/-!
# What the metrics say of requests under way

A request is counted when it comes to the metrics, and its duration is recorded when it leaves them:
with its response, after a breakdown, when its time is up or when its client goes away. So at any
time, in any order in which requests come, go on and end, the gauge of a service is the number of
its requests within the metrics, and the durations recorded for a pair of labels are those of the
requests that have been counted under it and are not within the metrics any more.
-/

namespace RpcGateway.Gateway

open Activity Http Calls Measurement

variable {g : Gateway} {r : Request} {ctx : Context} {limit : Nat}

def labelsOf (g : Gateway) (r : Request) : Labels := Labels.derive g.services r.method r.path

/-- What a change of a request is like, by the labels under which it is within the metrics before
the change and after it. -/
inductive Books : Option Labels → Option Labels → Deed State → Prop where
  | outside {d : Deed State} (same : d.before.metrics.SameBooks d.after.metrics) :
      Books none none d
  | begins {d : Deed State} {l : Labels} (counted : d.after.metrics = d.before.metrics.start l) :
      Books none (some l) d
  | inside {d : Deed State} {l : Labels} (same : d.before.metrics.SameBooks d.after.metrics) :
      Books (some l) (some l) d
  | ends {d : Deed State} {l : Labels} {ms : Nat}
      (recorded : d.after.metrics = d.before.metrics.finish l ms) : Books (some l) none d

/-- With empty metrics, each change shows under which labels a request has been counted or has ended
by it. -/
theorem clear_books : Lease.Clear Books := by
  refine ⟨{}, ?_⟩
  rintro o o' p d hbefore h h'
  have hempty : d.before.metrics = {} := congrArg State.metrics hbefore
  have hstart {l : Labels} (same : d.before.metrics.SameBooks d.after.metrics) :
      d.after.metrics ≠ d.before.metrics.start l := by
    intro counted
    have hactive := same.active
    rw [counted, hempty] at hactive
    cases hactive
  have hfinish {l : Labels} {ms : Nat} (same : d.before.metrics.SameBooks d.after.metrics) :
      d.after.metrics ≠ d.before.metrics.finish l ms := by
    intro recorded
    have hactive := same.active
    rw [recorded, hempty] at hactive
    cases hactive
  cases h with
  | outside same =>
    cases h' with
    | outside => rfl
    | ends recorded => exact absurd recorded (hfinish same)
  | begins counted =>
    cases h' with
    | begins => rfl
    | inside same => exact absurd counted (hstart same)
  | inside same =>
    cases h' with
    | begins counted => exact absurd counted (hstart same)
    | inside => rfl
  | ends recorded =>
    cases h' with
    | outside same => exact absurd recorded (hfinish same)
    | ends recorded' =>
      have hfresh := congrArg Metrics.fresh (recorded.symm.trans recorded')
      rw [hempty] at hfresh
      cases hfresh
      rfl

/-! ## Where a request is within the metrics -/

/-- A request that has been counted, up to the end of its handler. -/
def counted (g : Gateway) (r : Request) (limit : Nat) (ctx : Context) (begun : Time) : Stage :=
  (tunnelled r (g.handle r limit ctx)).ending fun now s ↦
    { s with metrics := s.metrics.finish (g.labelsOf r) (now - begun) }

theorem metered_eq (g : Gateway) (r : Request) (limit : Nat) (ctx : Context) :
    (g.metered r <| tunnelled r <| g.handle r limit ctx) =
      .act (fun _ s ↦ { s with metrics := s.metrics.start (g.labelsOf r) })
        fun begun _ ↦ g.counted r limit ctx begun := rfl

/-- What is left of a request that has been counted under these labels, until it has been recorded.
-/
def Metered (g : Gateway) (l : Labels) (u : Activity State (Option Response)) : Prop :=
  (∃ v, (∃ r limit ctx begun time waits, l = g.labelsOf r ∧
      v = (caught (g.counted r limit ctx begun)).withinAfter time waits) ∧ v.Leaves u) ∧
    ¬ u.Ended

/-- A request within the metrics, with its way out. -/
def InMetrics (g : Gateway) (l : Labels) (t : Stage) : Prop :=
  ∃ r ctx u, g.Metered l u ∧ t = g.released r ctx u

theorem holds_counted (g : Gateway) (r : Request) (limit : Nat) (ctx : Context) (begun : Time) :
    (g.counted r limit ctx begun).Holds Books (g.labelsOf r) := by
  have hquiet {t : Stage} (h : t.Always RegistryOnly) :
      (t.ending fun now s ↦ { s with metrics := s.metrics.finish (g.labelsOf r) (now - begun)
        }).Holds Books (g.labelsOf r) := by
    refine Holds.ending h (fun d h ↦ ?_) ?_
    · obtain ⟨registry, hafter⟩ := h
      exact .inside (hafter ▸ .refl _)
    · rintro now s s' (rfl | ⟨registry, hafter⟩)
      · exact .ends rfl
      · obtain rfl : s' = { s with registry } := hafter
        exact .ends rfl
  have hanswered (a : Response) : (tunnelled r (.done a)).Always RegistryOnly := trivial
  unfold counted handle handleBy
  split
  · exact hquiet (hanswered _)
  · exact hquiet (hanswered _)
  · exact hquiet (hanswered _)
  · unfold showMetrics
    split
    · exact fun now s ↦ .inl ⟨.inside ⟨rfl, rfl, rfl, .inr ⟨rfl, rfl⟩⟩, hquiet (hanswered _)⟩
    · exact hquiet (hanswered _)
  · exact hquiet (always_forward _ _ _ _ _ _ _ _).map

theorem kept_metered (g : Gateway) : Kept Books g.Metered := by
  apply kept_leaves
  rintro l t ⟨r, limit, ctx, begun, time, waits, rfl, rfl⟩
  exact (g.holds_counted r limit ctx begun).recovering.withinAfter time waits

/-- A slot that is given back is not in the books. -/
theorem Books.givePermit {o : Option Labels} {now : Time} {s s' : State}
    (h : Books o none ⟨now, s, s'⟩) : Books o none ⟨now, s, Gateway.givePermit now s'⟩ := by
  cases h with
  | outside same => exact .outside same
  | ends recorded => exact .ends recorded

/-- Nor is anything on the way out. -/
theorem nears_released {u : Activity State (Option Response)} (h : u.Nears Books g.Metered) :
    (g.released r ctx u).Nears Books g.InMetrics := by
  have hending : (u.ending givePermit).Nears Books
      fun l v ↦ ∃ u, g.Metered l u ∧ v = u.ending givePermit := by
    refine h.ending ?_ fun l v hv ↦ ⟨v, hv, rfl⟩
    rintro now s s' (rfl | h)
    · exact .outside (.refl _)
    · exact h.givePermit
  refine hending.map ?_
  rintro l _ ⟨u, hu, rfl⟩
  exact ⟨r, ctx, u, hu, rfl⟩

theorem kept_inMetrics (g : Gateway) : Kept Books g.InMetrics where
  not_ended := by
    rintro l t ⟨r, ctx, u, hu, rfl⟩ hended
    cases u with
    | done a => exact hu.2 trivial
    | panic => exact hu.2 trivial
    | act change next => exact hended
    | wait wake age drop next => exact hended
  act := by
    rintro l change next ⟨r, ctx, u, hu, heq⟩ now s
    cases u with
    | done a => exact absurd trivial hu.2
    | panic => exact absurd trivial hu.2
    | act change' next' =>
      cases heq
      obtain ⟨hdeed, hnext⟩ | ⟨hdeed, hnext⟩ := g.kept_metered.act hu now s
      · exact .inl ⟨hdeed, r, ctx, _, hnext, rfl⟩
      · exact .inr ⟨hdeed, nears_released hnext⟩
    | wait wake age drop next => cases heq
  wait := by
    rintro l wake age drop next ⟨r, ctx, u, hu, heq⟩
    cases u with
    | done a => cases heq
    | panic => cases heq
    | act change next => cases heq
    | wait wake' age' drop' next' =>
      cases heq
      obtain ⟨hdrop, hnext⟩ := g.kept_metered.wait hu
      exact ⟨fun now s ↦ (hdrop now s).givePermit, r, ctx, _, hnext, rfl⟩

/-- A request that has not been counted leaves the books alone until it is. -/
theorem nears_inside (g : Gateway) (r : Request) (limit : Nat) (ctx : Context) :
    (g.inside r limit ctx).Nears Books fun l v ↦ ∃ ctx begun, l = g.labelsOf r ∧
      v = caught (g.counted r limit ctx begun) := by
  have hmetered (ctx : Context) : (g.metered r <| tunnelled r <| g.handle r limit ctx).Nears Books
      fun l v ↦ ∃ ctx begun, l = g.labelsOf r ∧ v = g.counted r limit ctx begun := by
    rw [metered_eq]
    exact fun now s ↦ .inr ⟨g.labelsOf r, .begins rfl, ctx, now, rfl, rfl⟩
  refine Nears.recovering (T := fun l v ↦ ∃ ctx begun, l = g.labelsOf r ∧
    v = g.counted r limit ctx begun) ?_ ?_
  · unfold authenticated authenticatedBy
    split
    · exact hmetered ctx
    · split
      · trivial
      · refine Nears.bind ((always_onRegistry _).mono ?_) fun answer ↦ ?_
        · rintro d ⟨registry, hafter⟩
          exact .outside (hafter ▸ .refl _)
        · cases answer with
          | ok identity => exact hmetered _
          | error f => trivial
  · rintro l v ⟨ctx, begun, rfl, rfl⟩
    exact ⟨ctx, begun, rfl, rfl⟩

theorem nears_inMetrics (g : Gateway) (r : Request) : (g.serve r).Nears Books g.InMetrics := by
  apply serve_induction
  · exact fun _ ↦ trivial
  · trivial
  · refine fun hfront ↦ Nears.bind (hfront.mono fun d h ↦ .outside ?_)
    obtain ⟨n, hn⟩ := h.metrics
    rw [hn]
    exact ⟨rfl, rfl, rfl, .inl ⟨rfl, rfl⟩⟩
  · exact fun now s ↦ .inl ⟨.outside ⟨rfl, rfl, rfl, .inl ⟨rfl, rfl⟩⟩, trivial⟩
  · intro limit ctx
    rw [arriving_eq]
    intro now s
    by_cases hroom : s.inFlight < g.config.server.maxConcurrentRequests.toNat
    · simp only [takePermit, if_pos hroom]
      refine .inl ⟨.outside (.refl _), fun now s ↦ .inl ⟨.outside (.refl _), ?_⟩⟩
      refine nears_released ((g.nears_inside r limit ctx).withinAfter ?_ 0)
      rintro l v waits ⟨ctx, begun, rfl, rfl⟩
      refine ⟨⟨_, ⟨r, limit, ctx, begun, _, waits, rfl, rfl⟩, .refl _⟩, ?_⟩
      exact ((g.holds_counted r limit ctx begun).recovering.withinAfter _ _).not_ended
    · simp only [takePermit, if_neg hroom]
      exact .inl ⟨.outside (.refl _), trivial⟩

/-! ## Sums -/

/-- An event counts one request, records one, or leaves the books as they are. -/
theorem turn_cases {now : Time} {x y : Multiset Labels × State}
    (h : Crowd.Turns Books now x y) :
    (y.1 = x.1 ∧ x.2.metrics.SameBooks y.2.metrics) ∨
      (∃ l, y.1 = l ::ₘ x.1 ∧ y.2.metrics = x.2.metrics.start l) ∨
      ∃ l ms, x.1 = l ::ₘ y.1 ∧ y.2.metrics = x.2.metrics.finish l ms := by
  cases h with
  | same => exact .inl ⟨rfl, .refl _⟩
  | @deed rest o o' s s' deed =>
    have hnone : ((none : Option Labels).toList : Multiset Labels) + rest = rest := zero_add rest
    have hsome (l : Labels) : ((some l).toList : Multiset Labels) + rest = l ::ₘ rest :=
      Multiset.singleton_add l rest
    cases deed with
    | outside same => exact .inl ⟨rfl, same⟩
    | begins counted => exact .inr (.inl ⟨_, by rw [hsome, hnone], counted⟩)
    | inside same => exact .inl ⟨rfl, same⟩
    | ends recorded => exact .inr (.inr ⟨_, _, by rw [hsome, hnone], recorded⟩)

/-- What the metrics add up to when requests with these labels are within them. -/
structure Balanced (within : Multiset Labels) (m : Metrics) : Prop where
  active : ∀ service, m.activeOf service = within.countP (·.service = service)
  handled : ∀ service, m.handledBy service = m.handledOver (·.service = service)
  samples : ∀ w, m.samplesOf w + within.countP (Metrics.written · = w) =
    m.handledOver (Metrics.written · = w)
  keys : (m.operations.map Prod.fst).Nodup

namespace Balanced

variable {within : Multiset Labels} {m m' : Metrics} {l : Labels}

theorem empty : Balanced 0 {} := ⟨fun _ ↦ rfl, fun _ ↦ rfl, fun _ ↦ rfl, List.nodup_nil⟩

theorem same (h : Balanced within m) (hsame : m.SameBooks m') : Balanced within m' where
  active service := by
    rw [Metrics.activeOf, hsame.active]
    exact h.active service
  handled service := by
    rw [Metrics.handledBy, Metrics.handledOver, hsame.services, hsame.operations]
    exact h.handled service
  samples w := by
    rw [hsame.samplesOf_eq, Metrics.handledOver, hsame.operations]
    exact h.samples w
  keys := by
    rw [hsame.operations]
    exact h.keys

theorem start (h : Balanced within m) (l : Labels) : Balanced (l ::ₘ within) (m.start l) where
  active service := by
    rw [Metrics.activeOf_start, h.active service, Multiset.countP_cons]
    push_cast
    rfl
  handled service := by
    rw [Metrics.handledBy_start, Metrics.handledOver_start, h.handled service]
  samples w := by
    have hsamples : (m.start l).samplesOf w = m.samplesOf w := rfl
    rw [hsamples, Metrics.handledOver_start, Multiset.countP_cons, ← h.samples w, Nat.add_assoc]
  keys := Metrics.nodup_alter h.keys

theorem finish (h : Balanced (l ::ₘ within) m) (ms : Nat) :
    Balanced within (m.finish l ms) where
  active service := by
    rw [Metrics.activeOf_finish, h.active service, Multiset.countP_cons]
    push_cast
    exact Int.add_sub_cancel _ _
  handled := h.handled
  samples w := by
    have hbefore := h.samples w
    have hhandled : (m.finish l ms).handledOver (Metrics.written · = w) =
        m.handledOver (Metrics.written · = w) := rfl
    rw [Multiset.countP_cons] at hbefore
    rw [Metrics.samplesOf_finish, hhandled]
    omega
  keys := h.keys

theorem turns {now : Time} {x y : Multiset Labels × State} (hturns : Crowd.Turns Books now x y)
    (h : Balanced x.1 x.2.metrics) : Balanced y.1 y.2.metrics := by
  obtain ⟨hwithin, hsame⟩ | ⟨l, hwithin, hcounted⟩ | ⟨l, ms, hwithin, hrecorded⟩ :=
    turn_cases hturns
  · rw [hwithin]
    exact h.same hsame
  · rw [hwithin, hcounted]
    exact h.start l
  · rw [hwithin] at h
    rw [hrecorded]
    exact h.finish ms

end Balanced

/-! ## Durations of one pair -/

/-- What an event adds to the durations of a pair makes up for a request that leaves the metrics. -/
theorem gained_turns {now : Time} {x y : Multiset Labels × State}
    (h : Crowd.Turns Books now x y) (l : Labels) :
    y.2.metrics.freshOf l - x.2.metrics.freshOf l + y.1.countP (· = l) + x.2.metrics.handledAs l =
      x.1.countP (· = l) + y.2.metrics.handledAs l := by
  obtain ⟨hwithin, hsame⟩ | ⟨k, hwithin, hcounted⟩ | ⟨k, ms, hwithin, hrecorded⟩ := turn_cases h
  · have hfresh := hsame.freshOf_le l
    have hhandled : y.2.metrics.handledAs l = x.2.metrics.handledAs l := by
      rw [Metrics.handledAs, hsame.operations]
      rfl
    rw [hwithin, hhandled, Nat.sub_eq_zero_of_le hfresh, Nat.zero_add]
  · have hfresh : (x.2.metrics.start k).freshOf l = x.2.metrics.freshOf l := rfl
    rw [hwithin, hcounted, hfresh, Metrics.handledAs_start, Multiset.countP_cons]
    omega
  · have hhandled : (x.2.metrics.finish k ms).handledAs l = x.2.metrics.handledAs l := rfl
    rw [hwithin, hrecorded, hhandled, Metrics.freshOf_finish, Multiset.countP_cons]
    omega

theorem gained_run (g : Gateway) {c : Crowd State Response} {listed : List (Option Labels × Stage)}
    (h : c.Lists Books g.InMetrics listed) (l : Labels) (events : List (Crowd.Event Request)) :
    ∃ listed', (c.run g.serve events).Lists Books g.InMetrics listed' ∧
      c.gained g.serve (fun s ↦ s.metrics.freshOf l) events +
          (Crowd.tickets listed').countP (· = l) + c.state.metrics.handledAs l =
        (Crowd.tickets listed).countP (· = l) +
          (c.run g.serve events).state.metrics.handledAs l := by
  induction events generalizing c listed with
  | nil => exact ⟨listed, h, by rw [Crowd.gained, Nat.zero_add]; rfl⟩
  | cons e events ih =>
    obtain ⟨listed', h', hturns⟩ := h.step g.kept_inMetrics g.nears_inMetrics e
    obtain ⟨listed'', h'', hrun⟩ := ih h'
    have hstep := gained_turns hturns l
    refine ⟨listed'', h'', ?_⟩
    rw [Crowd.gained]
    change _ = _ + ((c.step g.serve e).run g.serve events).state.metrics.handledAs l
    dsimp only at hstep
    omega

/-- In every crowd the metrics add up. -/
theorem balanced_run (g : Gateway) (now : Time) (s : State)
    (events : List (Crowd.Event Request)) :
    let c := ({ now, state := { s with metrics := {} } } : Crowd State Response).run g.serve events
    ∃ within, Balanced within c.state.metrics ∧ ∀ (P : Labels → Prop) [DecidablePred P],
      c.number (fun t ↦ ∃ l, P l ∧ g.InMetrics l t) = within.countP P := by
  intro c
  have hnone : ({ now, state := { s with metrics := {} } } : Crowd State Response).Lists Books
      g.InMetrics [] := Crowd.lists_nil now _
  obtain ⟨listed, hlists, hbalanced⟩ := hnone.run g.kept_inMetrics g.nears_inMetrics
    (P := fun x ↦ Balanced x.1 x.2.metrics) Balanced.turns Balanced.empty events
  exact ⟨_, hbalanced, fun P _ ↦ hlists.number_eq g.kept_inMetrics clear_books P⟩

/-- So they do in the traffic at a gateway. -/
theorem active_traffic (g : Gateway) (now : Time) (s : State) (events : List Event)
    (service : String) :
    let p := events.foldl g.afterEvent { now, state := { s with metrics := {} } }
    p.state.metrics.activeOf service =
      p.crowd.number fun t ↦ ∃ l, l.service = service ∧ g.InMetrics l t := by
  intro p
  obtain ⟨steps, hsteps⟩ := g.traffic_reached_by_crowd events now { s with metrics := {} }
  obtain ⟨within, hbalanced, hnumber⟩ := g.balanced_run now s steps
  have hactive := hbalanced.active service
  rw [← hnumber fun l ↦ l.service = service, hsteps] at hactive
  exact hactive

/-- At any time the gauge of a service is the number of its requests within the metrics, and its
counter is the sum of the counters of its operations. The durations that have been recorded for a
pair of labels are as many as the requests counted under it that are not within the metrics any
more, and so are those that a sample of the text shows, over all pairs that are written like it.
When all requests have ended all gauges are zero. -/
theorem metrics_account_for_requests (g : Gateway) (now : Time) (s : State)
    (events : List (Crowd.Event Request)) :
    let first : Crowd State Response := { now, state := { s with metrics := {} } }
    let c := first.run g.serve events
    let m := c.state.metrics
    (∀ service, m.activeOf service =
        c.number fun t ↦ ∃ l, l.service = service ∧ g.InMetrics l t) ∧
      (∀ service, m.handledBy service = m.handledOver (·.service = service)) ∧
      (∀ l, first.gained g.serve (fun s ↦ s.metrics.freshOf l) events +
        c.number (g.InMetrics l) = m.handledAs l) ∧
      (∀ w, m.samplesOf w + c.number (fun t ↦ ∃ l, Metrics.written l = w ∧ g.InMetrics l t) =
        m.handledOver (Metrics.written · = w)) ∧
      (m.operations.map Prod.fst).Nodup ∧
      ((∀ t ∈ c.members, t.Ended) → ∀ service, m.activeOf service = 0) := by
  intro first c m
  obtain ⟨within, hbalanced, hnumber⟩ := g.balanced_run now s events
  have hactive (service : String) : m.activeOf service =
      c.number fun t ↦ ∃ l, l.service = service ∧ g.InMetrics l t := by
    rw [hnumber fun l ↦ l.service = service]
    exact hbalanced.active service
  refine ⟨hactive, hbalanced.handled, fun l ↦ ?_, fun w ↦ ?_, hbalanced.keys, ?_⟩
  · obtain ⟨listed, hlists, hgained⟩ := g.gained_run (Crowd.lists_nil now _) l events
    have hone : c.number (g.InMetrics l) = (Crowd.tickets listed).countP (· = l) := by
      rw [← hlists.number_eq g.kept_inMetrics clear_books (· = l)]
      simp only [exists_eq_left]
      rfl
    rw [hone]
    exact hgained.trans (Nat.zero_add _)
  · rw [hnumber fun l ↦ Metrics.written l = w]
    exact hbalanced.samples w
  · intro hended service
    rw [hactive service, Crowd.number, Int.natCast_eq_zero, List.countP_eq_zero]
    intro t ht
    have hout : ¬ ∃ l, l.service = service ∧ g.InMetrics l t := by
      rintro ⟨l, -, hin⟩
      exact g.kept_inMetrics.not_ended hin (hended t ht)
    simpa using hout

/-- A gateway with nothing but a front page. -/
def frontPageOnly : Gateway :=
  { ordersOnly with
    config := { rateLimit := { enabled := false }, cors := { enabled := false } }
    routes := ⟨[([.literal '/'], [("GET", .root)])]⟩ }

def frontPageRequest : Request where
  method := "GET"
  path := "/"

/-- A request for the front page is within the metrics after five steps, and over after seven. -/
theorem gauge_returns_to_zero :
    let g := frontPageOnly
    let first : Crowd State Response := { now := 0, state := { adminKnown with metrics := {} } }
    let after (steps : Nat) := first.run g.serve (.joins frontPageRequest ::
      List.replicate steps (.goes 0))
    ((after 5).state.metrics.activeOf "root" = 1 ∧
      (after 5).number (fun t ↦ ∃ l, l.service = "root" ∧ g.InMetrics l t) = 1) ∧
      (∀ t ∈ (after 7).members, t.Ended) ∧ (after 7).state.metrics.activeOf "root" = 0 := by
  intro g first after
  have hserve : g.serve frontPageRequest =
      (g.identified frontPageRequest (g.answering frontPageRequest 2097152)).map
        (g.sealed frontPageRequest ∘ g.outward frontPageRequest) :=
    serve_eq_of_unlimited rfl rfl rfl
  let ctx : Context := { requestId := g.ids.fresh 0, deadline := ⟨30000⟩, sessionKey := none }
  let crowd (inFlight : Nat) (metrics : Metrics) (t : Stage) : Crowd State Response :=
    { now := 0, state := { adminKnown with nextId := 1, inFlight, metrics }, members := [t] }
  have hstep (n : Nat) : after (n + 1) = (after n).resume 0 := by
    simp only [after, List.replicate_succ', ← List.cons_append, Crowd.run, List.foldl_append]
    rfl
  have harriving : after 2 = crowd 0 {} (g.arriving frontPageRequest 2097152 ctx) := by
    have hdeadline : Deadline.after? 0 (g.config.timeouts.requestSecs.toNat * 1000) =
        some ⟨30000⟩ := by decide
    have hjoined : after 0 = ⟨0, { adminKnown with metrics := {} },
        [g.serve frontPageRequest]⟩ := rfl
    rw [hstep, hstep, hjoined, hserve]
    have htaken : g.takeId frontPageRequest.headers 0 { adminKnown with metrics := {} } =
        (g.ids.fresh 0, { adminKnown with nextId := 1, metrics := {} }) := rfl
    exact resume_twice_of_identified rfl htaken hdeadline
  have hletIn : after 3 = crowd 1 {} (g.letIn frontPageRequest 2097152 ctx) := by
    rw [hstep, harriving]
    exact (resume_of_arriving rfl).trans (if_pos (by decide))
  have hcounted : ∃ last, after 5 =
      crowd 1 (Metrics.start (g.labelsOf frontPageRequest) {}) (.act last fun _ _ ↦
        .act givePermit fun _ _ ↦
          .done (g.responding frontPageRequest ctx (.plain 200 "root"))) := by
    rw [hstep, hstep, hletIn]
    exact ⟨_, rfl⟩
  obtain ⟨last, hcounted⟩ := hcounted
  have hover : ∀ t ∈ (after 7).members, t.Ended := by
    rw [hstep, hstep, hcounted]
    exact List.forall_mem_singleton.mpr trivial
  have hone : (after 5).state.metrics.activeOf "root" = 1 := by
    have hlabels : g.labelsOf frontPageRequest = ⟨"root", "root"⟩ := by decide
    rw [hcounted]
    dsimp only [crowd]
    rw [Metrics.activeOf_start, hlabels]
    rfl
  have haccounts (steps : Nat) :
      (after steps).state.metrics.activeOf "root" =
          (after steps).number (fun t ↦ ∃ l, l.service = "root" ∧ g.InMetrics l t) ∧
        ((∀ t ∈ (after steps).members, t.Ended) →
          (after steps).state.metrics.activeOf "root" = 0) := by
    have hall := metrics_account_for_requests g 0 adminKnown
      (.joins frontPageRequest :: List.replicate steps (.goes 0))
    exact ⟨hall.1 "root", fun hended ↦ hall.2.2.2.2.2 hended "root"⟩
  refine ⟨⟨hone, ?_⟩, hover, (haccounts 7).2 hover⟩
  exact Int.natCast_inj.mp ((haccounts 5).1.symm.trans hone)

end RpcGateway.Gateway
