import Mathlib.Data.FinEnum
import Mathlib.Data.Set.Finite.List
import RpcGateway.Gateway.RouteTable
import RpcGateway.Http.Header
import RpcGateway.Measurement.Labels
import RpcGateway.Proofs.Http.FieldTexts
import RpcGateway.Proofs.Text.Cutting

/-!
# The words of labels

The operation of a request is told in words. The first two segments after the service are such words
as they stand, unless they are long, and so is the method where there are none. The routes of a
service offer a vocabulary: their literal segments, beside fixed words and the names of the methods.
A label keeps to it just if what the request itself brings does. Nothing sees to that: whatever
short segment is asked for is the operation of some label, and there are labels without end.
-/

namespace RpcGateway

open Http Measurement

/-- The text of a segment of a pattern, if it has no parameter. -/
def Http.PathPattern.literalText? (segment : PathPattern) : Option String :=
  (segment.mapM fun piece ↦ match piece with
    | PathPiece.literal c => some c
    | _ => none).map String.ofList

/-- The segments of a route that are literal text. -/
def Config.Route.literals (r : Config.Route) : List String :=
  match PathPattern.parse? r.path.toList with
  | some p => (Text.splitOn (.literal '/') p).filterMap PathPattern.literalText?
  | none => []

namespace Measurement.Labels

variable {names : List String} {services : List Config.Service} {method path service s : String}
  {rest : List String}

/-- The words that labels have whatever the routes are. -/
def fixedWords : List String := ["root", "api", "other", "by_id", "etc"]

/-- The words that the routes of a service offer for its operations. -/
def vocabulary (services : List Config.Service) (service : String) : List String :=
  fixedWords ++ Gateway.Endpoint.supportedMethods.map Text.lower ++
    (services.filter (·.name = service)).flatMap fun s ↦ s.routes.flatMap Config.Route.literals

/-- The service that a path is counted under, and the segments after it, if the operation is told by
those. -/
def subject? (names : List String) (path : String) : Option (String × List String) :=
  match segments path with
  | [] => some ("root", [])
  | ["api"] => none
  | "api" :: service :: rest => if names.contains service then some (service, rest) else none
  | first :: rest => if topLevel.contains first then some (first, rest) else none

theorem derive_eq (names : List String) (method path : String) :
    derive names method path =
      match subject? names path with
      | some (service, rest) => ⟨service, operationLabel method rest⟩
      | none => if segments path = ["api"] then ⟨"api", "api"⟩ else unknown := by
  unfold derive subject? ofPath
  cases hsegments : segments path with
  | nil => rfl
  | cons first after =>
    by_cases hfirst : first = "api"
    · subst hfirst
      cases after with
      | nil => rfl
      | cons service rest =>
        by_cases hservice : service ∈ names
        · simp [hservice, ofSegments]
        · simp [hservice]
    · by_cases htop : first ∈ topLevel
      · simp [hfirst, htop, ofSegments]
      · simp [hfirst, htop]

/-! ## Words -/

/-- The words of an operation by the method and the segments after the service. -/
def wordsAfter (method : String) (rest : List String) : List String :=
  if rest.isEmpty then [methodLabel method]
  else (rest.take maxDepth).map segmentLabel ++ if maxDepth < rest.length then ["etc"] else []

theorem operationLabel_eq (method : String) (rest : List String) :
    operationLabel method rest = String.intercalate "_" (wordsAfter method rest) := by
  unfold operationLabel wordsAfter
  split
  · rw [String.intercalate_singleton]
  · rfl

/-- The words that tell the operation of a request. -/
def words (names : List String) (method path : String) : List String :=
  match subject? names path with
  | some (_, rest) => wordsAfter method rest
  | none => if segments path = ["api"] then ["api"] else ["other"]

theorem operation_eq (names : List String) (method path : String) :
    (derive names method path).operation = String.intercalate "_" (words names method path) := by
  rw [derive_eq, words]
  split
  · exact operationLabel_eq _ _
  · split
    · exact String.intercalate_singleton.symm
    · exact String.intercalate_singleton.symm

/-- What a request itself brings to its label keeps to the vocabulary of its service: the method, if
there is no segment after the service, and the segments that are kept, unless they are long. -/
def KeepsTo (services : List Config.Service) (method path : String) : Prop :=
  ∀ service rest, subject? (services.map (·.name)) path = some (service, rest) →
    (rest = [] →
      method = "GET" ∨ method = "HEAD" ∨ Text.lower method ∈ vocabulary services service) ∧
      ∀ s ∈ rest.take maxDepth,
        identifierLength ≤ s.utf8ByteSize ∨ s ∈ vocabulary services service

theorem mem_vocabulary_of_fixed {w : String} (h : w ∈ fixedWords) :
    w ∈ vocabulary services service :=
  List.mem_append_left _ (List.mem_append_left _ h)

theorem methodLabel_mem_iff : methodLabel method ∈ vocabulary services service ↔
    method = "GET" ∨ method = "HEAD" ∨ Text.lower method ∈ vocabulary services service := by
  unfold methodLabel
  by_cases hread : method = "GET" ∨ method = "HEAD"
  · rw [if_pos hread, ← or_assoc]
    exact iff_of_true (mem_vocabulary_of_fixed (by decide)) (.inl hread)
  · rw [if_neg hread, ← or_assoc, or_iff_right hread]

theorem segmentLabel_mem_iff : segmentLabel s ∈ vocabulary services service ↔
    identifierLength ≤ s.utf8ByteSize ∨ s ∈ vocabulary services service := by
  unfold segmentLabel
  by_cases hlong : identifierLength ≤ s.utf8ByteSize
  · rw [if_pos hlong]
    exact iff_of_true (mem_vocabulary_of_fixed (by decide)) (.inl hlong)
  · rw [if_neg hlong, or_iff_right hlong]

theorem wordsAfter_subset_iff : (∀ w ∈ wordsAfter method rest, w ∈ vocabulary services service) ↔
    (rest = [] → methodLabel method ∈ vocabulary services service) ∧
      ∀ s ∈ rest.take maxDepth, segmentLabel s ∈ vocabulary services service := by
  unfold wordsAfter
  cases rest with
  | nil => simp
  | cons first rest =>
    have hetc : ∀ w ∈ (if maxDepth < (first :: rest).length then ["etc"] else []),
        w ∈ vocabulary services service := by
      intro w hw
      split at hw
      · rw [List.mem_singleton.mp hw]
        exact mem_vocabulary_of_fixed (by decide)
      · cases hw
    simp only [List.isEmpty_cons, Bool.false_eq_true, if_false, List.forall_mem_append,
      List.forall_mem_map, reduceCtorEq, false_implies, true_and]
    exact and_iff_left hetc

theorem words_subset_iff (services : List Config.Service) (method path : String) :
    let names := services.map (·.name)
    (∀ w ∈ words names method path,
      w ∈ vocabulary services (derive names method path).service) ↔
        KeepsTo services method path := by
  intro names
  unfold KeepsTo
  rw [derive_eq, words]
  cases hsubject : subject? names path with
  | none =>
    dsimp only
    refine iff_of_true ?_ nofun
    split
    · intro w hw
      rw [List.mem_singleton.mp hw]
      exact mem_vocabulary_of_fixed (by decide)
    · intro w hw
      rw [List.mem_singleton.mp hw]
      exact mem_vocabulary_of_fixed (by decide)
  | some subject =>
    obtain ⟨service, rest⟩ := subject
    dsimp only
    rw [wordsAfter_subset_iff, methodLabel_mem_iff]
    simp only [segmentLabel_mem_iff]
    constructor
    · rintro h _ _ ⟨⟩
      exact h
    · exact fun h ↦ h service rest rfl

/-! ## Segments that are asked for -/

/-- A text that can be one segment of a path. -/
def IsSegment (s : String) : Prop := s ≠ "" ∧ '/' ∉ s.toList

def pathOf (parts : List String) : String := String.ofList (parts.flatMap fun s ↦ '/' :: s.toList)

theorem splitOn_pathOf {parts : List String} (h : ∀ s ∈ parts, '/' ∉ s.toList) :
    Text.splitOn '/' (pathOf parts).toList = [] :: parts.map String.toList := by
  rw [pathOf, String.toList_ofList]
  -- Each part is cut off the end, so the induction is from there.
  induction parts using List.reverseRecOn with
  | nil => rfl
  | append_singleton parts s ih =>
    rw [List.flatMap_append, List.flatMap_singleton, Text.splitOn_append,
      ih fun t ht ↦ h t (List.mem_append_left _ ht),
      Text.splitOn_of_not_mem (h s List.mem_concat_self), List.map_append]
    rfl

theorem segments_pathOf {parts : List String} (h : ∀ s ∈ parts, IsSegment s) :
    segments (pathOf parts) = parts := by
  have hfull : (parts.map String.toList).filter (fun s ↦ !s.isEmpty) = parts.map String.toList := by
    rw [List.filter_eq_self, List.forall_mem_map]
    intro s hs
    simpa using (h s hs).1
  rw [segments, splitOn_pathOf fun s hs ↦ (h s hs).2, List.filter_cons_of_neg (by simp), hfull,
    List.map_map]
  simp

theorem isSegment_api : IsSegment "api" := ⟨by decide, by decide⟩

/-- A short segment is the operation of a request, whatever it is. -/
theorem derive_of_short (hservice : service ∈ names) (hname : IsSegment service) (hs : IsSegment s)
    (hshort : s.utf8ByteSize < identifierLength) (method : String) :
    derive names method (pathOf ["api", service, s]) = ⟨service, s⟩ := by
  have hsegments : segments (pathOf ["api", service, s]) = ["api", service, s] :=
    segments_pathOf (by simp [isSegment_api, hname, hs])
  have hlabel : operationLabel method [s] = s := by
    rw [operationLabel_eq, wordsAfter]
    simp [maxDepth, segmentLabel, Nat.not_le.mpr hshort]
  rw [derive_eq, subject?, hsegments]
  simp [hservice, hlabel]

/-! ## Labels without end -/

/-- The name of a method of its own for each number. -/
def methodOfLength (n : Nat) : String := String.ofList (List.replicate (n + 1) 'A')

theorem toList_methodOfLength (n : Nat) : (methodOfLength n).toList = List.replicate (n + 1) 'A' :=
  String.toList_ofList

theorem isToken_methodOfLength (n : Nat) : isToken (Utf8.encode (methodOfLength n)) = true := by
  have hletter : (String.utf8EncodeChar 'A').all isTokenChar = true := by decide
  have hsome : (Utf8.encode (methodOfLength n)).isEmpty = false := by
    rw [Utf8.encode_eq, toList_methodOfLength]
    rfl
  have hall : (Utf8.encode (methodOfLength n)).all isTokenChar = true := by
    rw [Utf8.encode_eq, toList_methodOfLength, List.all_flatMap, List.all_replicate, hletter]
    rfl
  rw [isToken, hsome, hall]
  rfl

theorem operation_methodOfLength (names : List String) (n : Nat) :
    (derive names (methodOfLength n) "/").operation =
      String.ofList (List.replicate (n + 1) 'a') := by
  have hother : ¬ (methodOfLength n = "GET" ∨ methodOfLength n = "HEAD") := by
    have hfront : (methodOfLength n).toList.head? = some 'A' := by
      rw [toList_methodOfLength]
      rfl
    rintro (h | h) <;> rw [h] at hfront <;> revert hfront <;> decide
  change methodLabel (methodOfLength n) = _
  rw [methodLabel, if_neg hother, Text.lower, toList_methodOfLength, List.map_replicate]
  rfl

theorem infinite_labels (names : List String) :
    {l | ∃ method path, isToken (Utf8.encode method) = true ∧
      derive names method path = l}.Infinite := by
  refine Set.infinite_of_injective_forall_mem (f := fun n ↦ derive names (methodOfLength n) "/") ?_
    fun n ↦ ⟨methodOfLength n, "/", isToken_methodOfLength n, rfl⟩
  intro m n hsame
  have hlabel := congrArg Labels.operation hsame
  dsimp only at hlabel
  rw [operation_methodOfLength, operation_methodOfLength, String.ofList_inj] at hlabel
  simpa using congrArg List.length hlabel

/-! ## What labels say -/

/-- The services that labels can have: those there are, and four more. -/
theorem service_mem (names : List String) (method path : String) :
    (derive names method path).service ∈ names ++ ["root", "api", "metrics", "unknown"] := by
  have hsubject : ∀ service rest, subject? names path = some (service, rest) →
      service ∈ names ++ ["root", "api", "metrics", "unknown"] := by
    intro service rest h
    unfold subject? at h
    split at h
    · cases h
      simp
    · cases h
    · split at h
      · rename_i hname
        cases h
        exact List.mem_append_left _ (List.contains_iff_mem.mp hname)
      · cases h
    · split at h
      · rename_i htop
        cases h
        rw [topLevel, List.contains_iff_mem, List.mem_singleton] at htop
        rw [htop]
        simp
      · cases h
  rw [derive_eq]
  split
  · exact hsubject _ _ ‹_›
  · split
    · simp
    · simp [unknown]

/-! ## Labels for given methods -/

theorem size_segmentLabel_le (s : String) : (segmentLabel s).utf8ByteSize ≤ 31 := by
  unfold segmentLabel identifierLength
  split
  · decide
  · omega

/-- The longest operation that is told by segments has two of them, as long as may be, and more
behind them. -/
theorem size_operationLabel_le (method : String) (hrest : rest ≠ []) :
    (operationLabel method rest).utf8ByteSize ≤ 67 := by
  have hmark : "_".utf8ByteSize = 1 := by decide
  have hmore : "etc".utf8ByteSize = 3 := by decide
  rw [operationLabel_eq]
  obtain ⟨first, rest, rfl⟩ := List.exists_cons_of_ne_nil hrest
  have hfirst := size_segmentLabel_le first
  cases rest with
  | nil =>
    have hwords : wordsAfter method [first] = [segmentLabel first] := rfl
    rw [hwords, String.intercalate_singleton]
    omega
  | cons second rest =>
    have hsecond := size_segmentLabel_le second
    cases rest with
    | nil =>
      have hwords : wordsAfter method [first, second] =
          [segmentLabel first, segmentLabel second] := rfl
      rw [hwords, String.intercalate_cons_cons, String.intercalate_singleton]
      simp only [String.utf8ByteSize_append]
      omega
    | cons third rest =>
      have hwords : wordsAfter method (first :: second :: third :: rest) =
          [segmentLabel first, segmentLabel second, "etc"] := by
        simp [wordsAfter, maxDepth]
      rw [hwords, String.intercalate_cons_cons, String.intercalate_cons_cons,
        String.intercalate_singleton]
      simp only [String.utf8ByteSize_append]
      omega

theorem finite_short (n : Nat) : {s : String | s.utf8ByteSize ≤ n}.Finite := by
  have hencode : Function.Injective Utf8.encode := by
    intro a b h
    simpa using congrArg Utf8.decode? h
  exact (List.finite_length_le UInt8 n).preimage hencode.injOn

/-- Whatever the paths are, requests with one of finitely many methods have finitely many labels,
and which ones these are goes by the names of the services alone. -/
theorem finite_labels (names : List String) {methods : Set String} (h : methods.Finite) :
    {l | ∃ method ∈ methods, ∃ path, derive names method path = l}.Finite := by
  have hservices : {s | s ∈ names ++ ["root", "api", "metrics", "unknown"]}.Finite :=
    List.finite_toSet _
  have hoperations := (finite_short 67).union (h.image methodLabel)
  refine (hservices.image2 Labels.mk hoperations).subset ?_
  rintro _ ⟨method, hmethod, path, rfl⟩
  refine ⟨_, service_mem names method path, (derive names method path).operation, ?_, rfl⟩
  rw [derive_eq]
  split
  · rename_i service rest _
    by_cases hrest : rest = []
    · rw [hrest]
      exact .inr ⟨method, hmethod, rfl⟩
    · exact .inl (size_operationLabel_le method hrest)
  · split
    · exact .inl (show "api".utf8ByteSize ≤ 67 by decide)
    · exact .inl (show "other".utf8ByteSize ≤ 67 by decide)

/-! ## Labels of requests -/

/-- How labels follow from requests, for all services with their routes, methods and paths. The
service is one of those there are, or one of four more. The operation is told in words, and it keeps
to the vocabulary of the service just if what the request brings does. Each short segment that is
asked for behind a service is an operation. Requests with one of finitely many methods have finitely
many labels, which do not depend on the routes, but all requests have labels without end. -/
theorem labels_follow_requests (services : List Config.Service) :
    let names := services.map (·.name)
    (∀ method path, let l := derive names method path
      l.service ∈ names ++ ["root", "api", "metrics", "unknown"] ∧
        l.operation = String.intercalate "_" (words names method path) ∧
        ((∀ w ∈ words names method path, w ∈ vocabulary services l.service) ↔
          KeepsTo services method path)) ∧
      (∀ service ∈ names, IsSegment service → ∀ s, IsSegment s → s.utf8ByteSize < identifierLength →
        ∀ method, derive names method (pathOf ["api", service, s]) = ⟨service, s⟩) ∧
      (∀ methods : Set String, methods.Finite →
        {l | ∃ method ∈ methods, ∃ path, derive names method path = l}.Finite) ∧
      {l | ∃ method path, isToken (Utf8.encode method) = true ∧
        derive names method path = l}.Infinite := by
  intro names
  refine ⟨fun method path ↦ ?_, ?_, fun _ ↦ finite_labels names, infinite_labels names⟩
  · exact ⟨service_mem names method path, operation_eq names method path,
      words_subset_iff services method path⟩
  · intro service hservice hname s hs hshort method
    exact derive_of_short hservice hname hs hshort method

/-- A label that is made of words of a vocabulary. -/
def MadeOf (vocabulary : List String) (label : String) : Prop :=
  ∃ ws, (∀ w ∈ ws, w ∈ vocabulary) ∧ label = String.intercalate "_" ws

/-- A text without the mark between words is made of one word, itself, or of none. -/
theorem mem_of_madeOf {v : List String} {label : String} (h : MadeOf v label)
    (hlabel : '_' ∉ label.toList) : label = "" ∨ label ∈ v := by
  obtain ⟨ws, hws, rfl⟩ := h
  cases ws with
  | nil => exact .inl rfl
  | cons first ws =>
    cases ws with
    | nil =>
      rw [String.intercalate_singleton]
      exact .inr (hws first (List.mem_singleton.mpr rfl))
    | cons second ws =>
      rw [String.intercalate_cons_cons] at hlabel
      simp at hlabel

/-- The number of an order that is asked for is an operation. -/
theorem order_number_is_operation :
    ¬ ∀ (services : List Config.Service) (method path : String),
      let l := derive (services.map (·.name)) method path
      MadeOf (vocabulary services l.service) l.operation := by
  intro hclaim
  have hlabel : derive (Config.defaultServices.map (·.name)) "GET" "/api/orders/42" =
      ⟨"orders", "42"⟩ := by decide +kernel
  have hmade := hclaim Config.defaultServices "GET" "/api/orders/42"
  dsimp only at hmade
  rw [hlabel] at hmade
  obtain hempty | hword := mem_of_madeOf hmade (by decide)
  · exact absurd hempty (by decide)
  · exact absurd hword (by decide +kernel)

end Measurement.Labels

end RpcGateway
