import Mathlib.Data.List.Basic
import RpcGateway.Config.File
import RpcGateway.Proofs.Config.Acceptance
import RpcGateway.Proofs.Text.Cutting

/-!
# What is reported

The problems of a configuration come section by section. Each names its section, so that one can
tell from the field where it comes from, and in a list of services or routes also the place.
Sections are judged by themselves, apart from two pairs that are judged together; so the problems
are those that each group of sections has in an otherwise default configuration. What is there twice
is found whatever else is wrong with it, because each name and each route is remembered, good or
bad.
-/

namespace RpcGateway.Config

variable {α κ : Type} {p : Problem} {name field : String} {i j : Nat}

/-- A check reports its own problem, and only of what is bad. -/
theorem mem_problemIf_iff {bad : Bool} {message : String} :
    p ∈ problemIf bad field message ↔ bad = true ∧ p = ⟨field, message⟩ := by
  cases bad <;> simp [problemIf]

/-! ## Fields -/

/-- The field of an element of a list. -/
def nth (list : String) (i : Nat) : String := list ++ "[" ++ toString i ++ "]"

/-- The field of an item is spelled with its place in brackets. -/
theorem toList_nth_append (list : String) (i : Nat) (rest : String) :
    (nth list i ++ rest).toList =
      list.toList ++ '[' :: (Nat.toDigits 10 i ++ ']' :: rest.toList) := by
  simp [nth, String.toList_append]

/-- An element of a list is told by its place. -/
theorem nth_append_inj {list s t : String} (h : nth list i ++ s = nth list j ++ t) :
    i = j ∧ s = t := by
  have hbracket (n : Nat) : ']' ∉ Nat.toDigits 10 n := fun hmem ↦
    absurd (Nat.isDigit_of_mem_toDigits (by decide) (by decide) hmem) (by decide)
  have hlists := congrArg String.toList h
  rw [toList_nth_append, toList_nth_append, List.append_cancel_left_eq, List.cons.injEq] at hlists
  have hcut := congrArg (Text.splitOnce? ']') hlists.2
  rw [Text.splitOnce?_append (hbracket i), Text.splitOnce?_append (hbracket j),
    Option.some_inj] at hcut
  obtain ⟨hdigits, hrest⟩ := Prod.mk.inj hcut
  have hplace := congrArg (Nat.ofDigitChars 10 · 0) hdigits
  simp only [Nat.ofDigitChars_ten_toDigits] at hplace
  exact ⟨hplace, String.toList_injective hrest⟩

/-- The section that a field is in, which stands in front of the first dot or bracket. -/
def sectionOf (field : String) : List Char := field.toList.takeWhile fun c ↦ c ≠ '.' ∧ c ≠ '['

/-- The section of a field is decided where the name of the section ends. -/
theorem sectionOf_append (h : sectionOf field ≠ field.toList) (rest : String) :
    sectionOf (field ++ rest) = sectionOf field := by
  rw [sectionOf, String.toList_append, List.takeWhile_append, if_neg]
  · rfl
  · exact fun hlength ↦ h ((List.takeWhile_prefix _).eq_of_length hlength)

theorem sectionOf_interpolated (h : sectionOf field ≠ field.toList) (i : Nat) (rest : String) :
    sectionOf (field ++ toString i ++ rest) = sectionOf field := by
  rw [String.append_assoc, sectionOf_append h]

/-- An item of a list belongs to the section that the list is. -/
theorem sectionOf_nth_append (h : sectionOf name = name.toList) (i : Nat) (rest : String) :
    sectionOf (nth name i ++ rest) = name.toList := by
  rw [sectionOf] at h
  rw [sectionOf, toList_nth_append, List.takeWhile_append, if_pos (congrArg List.length h),
    List.takeWhile_cons_of_neg (by decide), List.append_nil]

/-- Problems that are all in one section. -/
def AllIn (name : String) (ps : List Problem) : Prop := ∀ p ∈ ps, sectionOf p.field = name.toList

theorem allIn_nil (name : String) : AllIn name [] := nofun

theorem AllIn.append {ps qs : List Problem} (h : AllIn name ps) (h' : AllIn name qs) :
    AllIn name (ps ++ qs) :=
  List.forall_mem_append.mpr ⟨h, h'⟩

/-- A check of a field reports into the section of the field. -/
theorem allIn_problemIf (h : sectionOf field = name.toList) (bad : Bool) (message : String) :
    AllIn name (problemIf bad field message) := by
  intro p hp
  rw [(mem_problemIf_iff.mp hp).2]
  exact h

/-- Checks of all items report into one section if each does. -/
theorem allIn_problemsFrom {check : Nat → α → List Problem} (h : ∀ i a, AllIn name (check i a))
    (place : Nat) (as : List α) : AllIn name (problemsFrom place check as) := by
  induction as generalizing place with
  | nil => exact allIn_nil name
  | cons a as ih => exact (h place a).append (ih (place + 1))

theorem allIn_listenerProblems (c : Listener) : AllIn "listener" (listenerProblems c) :=
  allIn_problemIf (by decide) _ _

theorem allIn_timeoutProblems (c : Timeouts) : AllIn "timeouts" (timeoutProblems c) :=
  (allIn_problemIf (by decide) _ _).append (allIn_problemIf (by decide) _ _)

theorem allIn_serverProblems (c : Server) (t : Timeouts) : AllIn "server" (serverProblems c t) :=
  ((allIn_problemIf (by decide) _ _).append (allIn_problemIf (by decide) _ _)).append
    (allIn_problemIf (by decide) _ _)

theorem allIn_corsProblems (c : Cors) : AllIn "cors" (corsProblems c) := by
  unfold corsProblems
  split
  · apply AllIn.append
    · apply allIn_problemsFrom
      intro i origin
      exact allIn_problemIf ((sectionOf_interpolated (by decide) i _).trans (by decide)) _ _
    · apply allIn_problemsFrom
      intro i method
      exact allIn_problemIf ((sectionOf_interpolated (by decide) i _).trans (by decide)) _ _
  · exact allIn_nil _

theorem allIn_rateLimitProblems (c : RateLimit) : AllIn "rate_limit" (rateLimitProblems c) := by
  unfold rateLimitProblems
  split
  · exact (((allIn_problemIf (by decide) _ _).append (allIn_problemIf (by decide) _ _)).append
      (allIn_problemIf (by decide) _ _)).append (allIn_problemIf (by decide) _ _)
  · exact allIn_nil _

theorem allIn_circuitBreakerProblems (c : CircuitBreaker) :
    AllIn "circuit_breaker" (circuitBreakerProblems c) :=
  ((allIn_problemIf (by decide) _ _).append (allIn_problemIf (by decide) _ _)).append
    (allIn_problemIf (by decide) _ _)

theorem allIn_retryProblems (c : Retries) : AllIn "retries" (retryProblems c) :=
  allIn_problemIf (by decide) _ _

theorem allIn_observabilityProblems (c : Observability) :
    AllIn "observability" (observabilityProblems c) :=
  allIn_problemIf (by decide) _ _

theorem allIn_securityProblems (c : Security) : AllIn "security" (securityProblems c) :=
  allIn_problemIf (by decide) _ _

theorem allIn_shutdownProblems (c : Shutdown) : AllIn "shutdown" (shutdownProblems c) :=
  allIn_problemIf (by decide) _ _

theorem allIn_authProblems (c : Auth) (services : List Service) :
    AllIn "auth" (authProblems c services) := by
  unfold authProblems
  split
  · refine ((allIn_problemIf (by decide) _ _).append (allIn_problemIf (by decide) _ _)).append ?_
    apply allIn_problemsFrom
    intro i route
    exact allIn_problemIf ((sectionOf_interpolated (by decide) i _).trans (by decide)) _ _
  · exact allIn_nil _

/-- No problem of one section names another. -/
theorem AllIn.not_mem {other message : String} {ps : List Problem} (h : AllIn name ps)
    (hfield : sectionOf field = other.toList) (hother : other.toList ≠ name.toList) :
    ⟨field, message⟩ ∉ ps :=
  fun hmem ↦ hother (hfield.symm.trans (h _ hmem))

/-- What is reported of the services is found among their problems. -/
theorem mem_problems_iff {c : Config} {message : String}
    (h : sectionOf field = "services".toList) :
    ⟨field, message⟩ ∈ c.problems ↔ ⟨field, message⟩ ∈ servicesProblems 0 [] c.services := by
  simp only [problems, List.mem_append,
    (allIn_listenerProblems c.listener).not_mem h (by decide),
    (allIn_timeoutProblems c.timeouts).not_mem h (by decide),
    (allIn_serverProblems c.server c.timeouts).not_mem h (by decide),
    (allIn_corsProblems c.cors).not_mem h (by decide),
    (allIn_rateLimitProblems c.rateLimit).not_mem h (by decide),
    (allIn_circuitBreakerProblems c.circuitBreaker).not_mem h (by decide),
    (allIn_retryProblems c.retries).not_mem h (by decide),
    (allIn_observabilityProblems c.observability).not_mem h (by decide),
    (allIn_securityProblems c.security).not_mem h (by decide),
    (allIn_shutdownProblems c.shutdown).not_mem h (by decide),
    (allIn_authProblems c.auth c.services).not_mem h (by decide), false_or, or_false]

/-! ## Lists of services and routes -/

/-- The problems of a list, each element of which is judged by its place and what those before it
may not share with it. -/
def judged (key : α → κ) (check : Nat → List κ → α → List Problem) (place : Nat)
    (earlier : List κ) : List α → List Problem
  | [] => []
  | a :: rest => check place earlier a ++ judged key check (place + 1) (key a :: earlier) rest

/-- The problems of a list are those of its items, each judged with the keys before it. -/
theorem mem_judged_iff {key : α → κ} {check : Nat → List κ → α → List Problem} {place : Nat}
    {earlier : List κ} {as : List α} : p ∈ judged key check place earlier as ↔
      ∃ i a, as[i]? = some a ∧
        p ∈ check (place + i) (((as.take i).map key).reverse ++ earlier) a := by
  induction as generalizing place earlier with
  | nil => simp [judged]
  | cons a as ih =>
    rw [judged, List.mem_append, ih]
    constructor
    · rintro (hp | ⟨i, b, hb, hp⟩)
      · exact ⟨0, a, rfl, hp⟩
      · refine ⟨i + 1, b, hb, ?_⟩
        rw [List.take_succ_cons, List.map_cons, List.reverse_cons, List.append_assoc,
          Nat.add_comm i 1, ← Nat.add_assoc]
        exact hp
    · rintro ⟨i, b, hb, hp⟩
      cases i with
      | zero =>
        cases hb
        exact .inl hp
      | succ i =>
        refine .inr ⟨i, b, hb, ?_⟩
        rw [List.take_succ_cons, List.map_cons, List.reverse_cons, List.append_assoc,
          Nat.add_comm i 1, ← Nat.add_assoc] at hp
        exact hp

/-- An element that shares its key with an earlier one. -/
def Repeats (key : α → κ) (as : List α) (i : Nat) (a : α) : Prop :=
  ∃ j < i, ∃ b, as[j]? = some b ∧ key b = key a

/-- An item has its key among those before it just when it repeats one. -/
theorem mem_take_iff_repeats {key : α → κ} {as : List α} {a : α} :
    key a ∈ ((as.take i).map key).reverse ++ [] ↔ Repeats key as i a := by
  rw [List.append_nil, List.mem_reverse, List.mem_map]
  constructor
  · rintro ⟨b, hb, hkey⟩
    obtain ⟨j, hj⟩ := List.mem_iff_getElem?.mp hb
    rw [List.getElem?_take] at hj
    split at hj
    · exact ⟨j, ‹_›, b, hj, hkey⟩
    · cases hj
  · rintro ⟨j, hlt, b, hb, hkey⟩
    refine ⟨b, List.mem_iff_getElem?.mpr ⟨j, ?_⟩, hkey⟩
    rw [List.getElem?_take, if_pos hlt]
    exact hb

/-- Services are judged as items of a list by their names. -/
theorem servicesProblems_eq (i : Nat) (earlier : List String) (ss : List Service) :
    servicesProblems i earlier ss = judged Service.name serviceProblems i earlier ss := by
  induction ss generalizing i earlier with
  | nil => rfl
  | cons s ss ih => rw [servicesProblems, ih]; rfl

/-- The problems of one route of a service. -/
def routeProblemsAt (i j : Nat) (earlier : List (String × String)) (r : Route) : List Problem :=
  routeProblems s!"services[{i}].routes[{j}]" earlier r

/-- The routes of a service are judged as items of a list by their methods and paths. -/
theorem routesProblems_eq (i j : Nat) (earlier : List (String × String)) (rs : List Route) :
    routesProblems i j earlier rs = judged Route.key (routeProblemsAt i) j earlier rs := by
  induction rs generalizing j earlier with
  | nil => rfl
  | cons r rs ih => rw [routesProblems, ih]; rfl

theorem sectionOf_services (i : Nat) (rest : String) :
    sectionOf (nth "services" i ++ rest) = "services".toList :=
  sectionOf_nth_append (by decide) i rest

theorem nameField_eq (i : Nat) : s!"services[{i}].name" = nth "services" i ++ ".name" := by
  change "services[" ++ toString i ++ "].name" = _
  apply String.toList_injective
  simp [nth]

theorem addressField_eq (i : Nat) : s!"services[{i}].address" = nth "services" i ++ ".address" := by
  change "services[" ++ toString i ++ "].address" = _
  apply String.toList_injective
  simp [nth]

theorem routeField_append (i j : Nat) (t : String) :
    s!"services[{i}].routes[{j}]" ++ t = nth "services" i ++ (nth ".routes" j ++ t) := by
  change "services[" ++ toString i ++ "].routes[" ++ toString j ++ "]" ++ t = _
  apply String.toList_injective
  simp [nth]

theorem routeField_eq (i j : Nat) :
    s!"services[{i}].routes[{j}]" = nth "services" i ++ (nth ".routes" j ++ "") := by
  rw [← routeField_append, String.append_empty]

/-- Only what is there twice is reported of a route as a whole. -/
theorem field_of_mem_routeProblemsAt {earlier : List (String × String)} {r : Route}
    (h : p ∈ routeProblemsAt i j earlier r) :
    ∃ t, p.field = nth "services" i ++ (nth ".routes" j ++ t) ∧ (t = "" → r.key ∈ earlier) := by
  unfold routeProblemsAt routeProblems at h
  simp only [List.mem_append, mem_problemIf_iff, routeField_append] at h
  obtain ((⟨-, rfl⟩ | ⟨-, rfl⟩) | ⟨-, rfl⟩) | ⟨hearlier, rfl⟩ := h
  · exact ⟨".method", rfl, fun h ↦ absurd h (by decide)⟩
  · exact ⟨".path", rfl, fun h ↦ absurd h (by decide)⟩
  · exact ⟨".operation", rfl, fun h ↦ absurd h (by decide)⟩
  · exact ⟨"", routeField_eq i j, fun _ ↦ List.contains_iff_mem.mp hearlier⟩

/-- Every route is judged, with all routes before it remembered. -/
theorem mem_routesProblems_iff {rs : List Route} : p ∈ routesProblems i 0 [] rs ↔
    ∃ j r, rs[j]? = some r ∧
      p ∈ routeProblemsAt i j (((rs.take j).map Route.key).reverse ++ []) r := by
  rw [routesProblems_eq, mem_judged_iff]
  simp only [Nat.zero_add]

/-- Every service is judged, with all services before it remembered. -/
theorem mem_servicesProblems_iff {ss : List Service} : p ∈ servicesProblems 0 [] ss ↔
    ∃ i s, ss[i]? = some s ∧
      p ∈ serviceProblems i (((ss.take i).map Service.name).reverse ++ []) s := by
  rw [servicesProblems_eq, mem_judged_iff]
  simp only [Nat.zero_add]

/-- What is reported of a service is about its name, its address or its routes. -/
theorem field_of_mem_serviceProblems {earlier : List String} {s : Service}
    (h : p ∈ serviceProblems i earlier s) :
    p.field = nth "services" i ++ ".name" ∧
        (s.name ∈ earlier ∨ p.message = "must be a non-empty path segment") ∨
      p.field = nth "services" i ++ ".address" ∨ p ∈ routesProblems i 0 [] s.routes := by
  unfold serviceProblems at h
  simp only [List.mem_append, mem_problemIf_iff, nameField_eq, addressField_eq] at h
  obtain ((⟨hearlier, rfl⟩ | ⟨-, rfl⟩) | ⟨-, rfl⟩) | hroutes := h
  · exact .inl ⟨rfl, .inl (List.contains_iff_mem.mp hearlier)⟩
  · exact .inl ⟨rfl, .inr rfl⟩
  · exact .inr (.inl rfl)
  · exact .inr (.inr hroutes)

/-- The name of a service is reported as a duplicate just if an earlier service has it. -/
theorem duplicate_service_iff {c : Config} {s : Service} (hs : c.services[i]? = some s) :
    ⟨s!"services[{i}].name", "duplicate service '" ++ s.name ++ "'"⟩ ∈ c.problems ↔
      Repeats Service.name c.services i s := by
  rw [nameField_eq, mem_problems_iff (sectionOf_services i _), mem_servicesProblems_iff]
  constructor
  · rintro ⟨i', s', hs', hp⟩
    obtain ⟨hfield, hcause⟩ | hfield | hroutes := field_of_mem_serviceProblems hp
    · obtain ⟨rfl, -⟩ := nth_append_inj hfield
      cases hs.symm.trans hs'
      obtain hearlier | hmessage := hcause
      · exact mem_take_iff_repeats.mp hearlier
      · simpa using congrArg String.toList hmessage
    · exact absurd (nth_append_inj hfield).2 (by decide)
    · obtain ⟨j, r, -, hr⟩ := mem_routesProblems_iff.mp hroutes
      obtain ⟨t, hfield, -⟩ := field_of_mem_routeProblemsAt hr
      simpa [nth] using congrArg String.toList (nth_append_inj hfield).2
  · intro hrepeats
    refine ⟨i, s, hs, ?_⟩
    unfold serviceProblems
    rw [nameField_eq]
    refine List.mem_append_left _ (List.mem_append_left _ (List.mem_append_left _ ?_))
    refine mem_problemIf_iff.mpr ⟨?_, rfl⟩
    exact List.contains_iff_mem.mpr (mem_take_iff_repeats.mpr hrepeats)

/-- A route is reported as a duplicate just if an earlier one of its service has its method and its
path. -/
theorem duplicate_route_iff {c : Config} {s : Service} {r : Route} (hs : c.services[i]? = some s)
    (hr : s.routes[j]? = some r) :
    ⟨s!"services[{i}].routes[{j}]", "duplicate route " ++ r.method ++ " " ++ r.path⟩ ∈ c.problems ↔
      Repeats Route.key s.routes j r := by
  rw [routeField_eq, mem_problems_iff (sectionOf_services i _), mem_servicesProblems_iff]
  constructor
  · rintro ⟨i', s', hs', hp⟩
    obtain ⟨hfield, -⟩ | hfield | hroutes := field_of_mem_serviceProblems hp
    · simpa [nth] using congrArg String.toList (nth_append_inj hfield).2
    · simpa [nth] using congrArg String.toList (nth_append_inj hfield).2
    · obtain ⟨j', r', hr', hr''⟩ := mem_routesProblems_iff.mp hroutes
      obtain ⟨t, hfield, hcause⟩ := field_of_mem_routeProblemsAt hr''
      obtain ⟨rfl, hplace⟩ := nth_append_inj hfield
      obtain ⟨rfl, htail⟩ := nth_append_inj hplace
      cases hs.symm.trans hs'
      cases hr.symm.trans hr'
      exact mem_take_iff_repeats.mp (hcause htail.symm)
  · intro hrepeats
    refine ⟨i, s, hs, ?_⟩
    unfold serviceProblems
    refine List.mem_append_right _ (mem_routesProblems_iff.mpr ⟨j, r, hr, ?_⟩)
    unfold routeProblemsAt routeProblems
    rw [routeField_eq]
    refine List.mem_append_right _ (mem_problemIf_iff.mpr ⟨?_, rfl⟩)
    exact List.contains_iff_mem.mpr (mem_take_iff_repeats.mpr hrepeats)

/-! ## Groups of sections -/

/-- Sections that are judged together, if there are two. -/
inductive Group where
  | listener
  | timing
  | cors
  | rateLimit
  | circuitBreaker
  | retries
  | observability
  | security
  | shutdown
  | services
deriving DecidableEq

namespace Group

/-- The groups in the order in which they are judged. -/
def all : List Group :=
  [listener, timing, cors, rateLimit, circuitBreaker, retries, observability, security, shutdown,
    services]

/-- The default configuration with one group as it is in another configuration. -/
def only (c : Config) : Group → Config
  | listener => { listener := c.listener }
  | timing => { timeouts := c.timeouts, server := c.server }
  | cors => { cors := c.cors }
  | rateLimit => { rateLimit := c.rateLimit }
  | circuitBreaker => { circuitBreaker := c.circuitBreaker }
  | retries => { retries := c.retries }
  | observability => { observability := c.observability }
  | security => { security := c.security }
  | shutdown => { shutdown := c.shutdown }
  | services => { services := c.services, auth := c.auth }

end Group

/-- Every default passes its own check. -/
theorem problems_default : problems {} = [] := by decide +kernel

/-- The problems are those of each group of sections in an otherwise default configuration. -/
theorem problems_eq_flatMap (c : Config) :
    c.problems = Group.all.flatMap fun g ↦ (g.only c).problems := by
  have hnone := problems_default
  simp only [problems, List.append_eq_nil_iff] at hnone
  simp only [Group.all, Group.only, problems, List.flatMap_cons, List.flatMap_nil, hnone,
    List.nil_append, List.append_nil, List.append_assoc]

/-- What has no problems is taken as it is. -/
theorem checked_eq_of_nil {c : Config} (h : c.problems = []) : checked c = .ok c :=
  if_pos (List.isEmpty_iff.mpr h)

/-- What has problems is refused with all of them. -/
theorem checked_eq_of_ne_nil {c : Config} (h : c.problems ≠ []) :
    checked c = .error (.invalid c.problems) :=
  if_neg fun haccepted ↦ h (List.isEmpty_iff.mp haccepted)

/-- The problems of a configuration are those that each group of sections has by itself, group by
group; without any the configuration is taken, and otherwise it is refused with all of them. The
name of a service is reported as a duplicate just if an earlier service has it, and a route just if
an earlier route of its service has its path and its method in capitals, whatever else is reported
of them. -/
theorem problems_hide_none (c : Config) :
    (c.problems = Group.all.flatMap fun g ↦ (g.only c).problems) ∧
      (c.problems = [] ↔ checked c = .ok c) ∧
      (c.problems ≠ [] ↔ checked c = .error (.invalid c.problems)) ∧
      ∀ (i : Nat) (s : Service), c.services[i]? = some s →
        (⟨s!"services[{i}].name", "duplicate service '" ++ s.name ++ "'"⟩ ∈ c.problems ↔
          ∃ j < i, ∃ t : Service, c.services[j]? = some t ∧ t.name = s.name) ∧
        ∀ (j : Nat) (r : Route), s.routes[j]? = some r →
          (⟨s!"services[{i}].routes[{j}]", "duplicate route " ++ r.method ++ " " ++ r.path⟩ ∈
              c.problems ↔
            ∃ k < j, ∃ q : Route, s.routes[k]? = some q ∧ q.path = r.path ∧
              Text.upper q.method = Text.upper r.method) := by
  refine ⟨problems_eq_flatMap c, ⟨checked_eq_of_nil, ?_⟩, ⟨checked_eq_of_ne_nil, ?_⟩, ?_⟩
  · intro htaken
    by_contra hsome
    rw [checked_eq_of_ne_nil hsome] at htaken
    cases htaken
  · intro hrefused hnone
    rw [checked_eq_of_nil hnone] at hrefused
    cases hrefused
  · intro i s hs
    refine ⟨duplicate_service_iff hs, fun j r hr ↦ ?_⟩
    rw [duplicate_route_iff hs hr]
    have hkey (q : Route) : q.key = r.key ↔
        q.path = r.path ∧ Text.upper q.method = Text.upper r.method :=
      Prod.ext_iff.trans and_comm
    simp only [Repeats, hkey]

end RpcGateway.Config
