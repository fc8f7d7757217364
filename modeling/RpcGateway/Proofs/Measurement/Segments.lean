import RpcGateway.Proofs.Measurement.Vocabulary

/-!
# Labels by segments

A label goes by the method and by what stands between the slashes of a path, empty pieces apart.
Paths that lead to no known service share the unknown label, and all others are labelled by their
segments as they are. So no label holds a slash, and since long segments are not told and only two
of them are kept, an operation that is told by segments is short.
-/

namespace RpcGateway

open Http Measurement

theorem Text.eq_slash_of_toLower {c : Char} (h : c.toLower = '/') : c = '/' := by
  unfold Char.toLower at h
  split at h
  · rename_i hupper
    have hval := congrArg (fun c ↦ c.val.toNat) h
    simp only [Char.reduceVal, UInt32.reduceSub, UInt32.toNat_add, Char.toNat_val,
      UInt32.reduceToNat, Nat.reducePow, ge_iff_le, UInt32.le_iff_toNat_le] at hval hupper
    omega
  · exact h

/-- The name of a method has no slash, whichever method it is. -/
theorem Http.slash_not_mem_of_isToken {s : String} (h : isToken (Utf8.encode s) = true) :
    '/' ∉ s.toList := by
  intro hmem
  rw [← Utf8.octet_mem_encode_iff (by decide)] at hmem
  simp only [isToken, Bool.and_eq_true, List.all_eq_true] at h
  exact absurd (h.2 _ hmem) (by decide)

namespace Measurement.Labels

variable {names rest : List String} {method path service w : String}

/-- The pieces of a path between its slashes, but for those that are empty. -/
def pieces (path : String) : List String :=
  ((path.toList.splitOn '/').filter (· ≠ [])).map String.ofList

theorem segments_eq (path : String) : segments path = pieces path := by
  unfold segments pieces
  rw [Text.splitOn_eq]
  congr 2
  funext s
  cases s <;> rfl

theorem slash_not_mem_of_segments (h : w ∈ segments path) : '/' ∉ w.toList := by
  obtain ⟨piece, hpiece, rfl⟩ := List.mem_map.mp h
  rw [String.toList_ofList]
  exact Text.not_mem_of_mem_splitOn (List.mem_filter.mp hpiece).1

/-- A path that leads to no service that there is, and is none of the few that need not. -/
def Astray (names : List String) (segments : List String) : Prop :=
  (∃ service rest, segments = "api" :: service :: rest ∧ service ∉ names) ∨
    ∃ first rest, segments = first :: rest ∧ first ≠ "api" ∧ first ≠ "metrics"

theorem derive_of_astray (h : Astray names (segments path)) :
    derive names method path = unknown := by
  unfold derive
  obtain ⟨service, rest, hsegments, hservice⟩ | ⟨first, rest, hsegments, hapi, hmetrics⟩ := h
  · simp [hsegments, hservice]
  · simp [hsegments, hapi, topLevel, hmetrics]

theorem derive_of_not_astray (h : ¬ Astray names (segments path)) :
    derive names method path = ofPath method path := by
  unfold derive
  split
  · rename_i service rest hsegments
    have hservice : service ∈ names := by
      by_contra hnot
      exact h (.inl ⟨service, rest, hsegments, hnot⟩)
    simp [hservice]
  · rfl
  · rfl
  · rename_i first rest hapi hother hsegments
    have hfirst : first = "metrics" := by
      by_contra hnot
      refine h (.inr ⟨first, rest, hsegments, ?_, hnot⟩)
      rintro rfl
      cases rest with
      | nil => exact hother rfl rfl
      | cons service rest => exact hapi service rest rfl rfl
    simp [topLevel, hfirst]

/-- What tells the operation comes from the segments of the path. -/
theorem subset_of_subject? (h : subject? names path = some (service, rest)) :
    (service = "root" ∨ service ∈ segments path) ∧ ∀ s ∈ rest, s ∈ segments path := by
  unfold subject? at h
  split at h
  · cases h
    exact ⟨.inl rfl, nofun⟩
  · cases h
  · rename_i hsegments
    split at h
    · cases h
      rw [hsegments]
      exact ⟨.inr (by simp), fun s hs ↦ by simp [hs]⟩
    · cases h
  · rename_i hsegments
    split at h
    · cases h
      rw [hsegments]
      exact ⟨.inr (by simp), fun s hs ↦ by simp [hs]⟩
    · cases h

theorem slash_not_mem_service (names : List String) (method path : String) :
    '/' ∉ (derive names method path).service.toList := by
  rw [derive_eq]
  split
  · rename_i hsubject
    dsimp only
    obtain hroot | hmem := (subset_of_subject? hsubject).1
    · rw [hroot]
      decide
    · exact slash_not_mem_of_segments hmem
  · split
    · decide
    · decide

theorem slash_not_mem_words (hmethod : isToken (Utf8.encode method) = true)
    (h : w ∈ words names method path) : '/' ∉ w.toList := by
  have hlower : '/' ∉ (methodLabel method).toList := by
    unfold methodLabel
    split
    · decide
    · rw [Text.lower, String.toList_ofList, List.mem_map]
      rintro ⟨c, hc, hslash⟩
      exact slash_not_mem_of_isToken hmethod (Text.eq_slash_of_toLower hslash ▸ hc)
  have hsegment (s : String) (hs : s ∈ segments path) : '/' ∉ (segmentLabel s).toList := by
    unfold segmentLabel
    split
    · decide
    · exact slash_not_mem_of_segments hs
  unfold words at h
  split at h
  · rename_i hsubject
    have hrest := (subset_of_subject? hsubject).2
    unfold wordsAfter at h
    split at h
    · rw [List.mem_singleton.mp h]
      exact hlower
    · obtain h | h := List.mem_append.mp h
      · obtain ⟨s, hs, rfl⟩ := List.mem_map.mp h
        exact hsegment s (hrest s (List.mem_of_mem_take hs))
      · split at h
        · rw [List.mem_singleton.mp h]
          decide
        · cases h
  · split at h
    · rw [List.mem_singleton.mp h]
      decide
    · rw [List.mem_singleton.mp h]
      decide

/-- There is a segment behind the one that stands for the service. -/
def GoesOn (segments : List String) : Prop :=
  (∃ service s rest, segments = "api" :: service :: s :: rest) ∨
    ∃ service s rest, segments = service :: s :: rest ∧ service ≠ "api"

theorem rest_ne_nil_of_goesOn (h : GoesOn (segments path))
    (hsubject : subject? names path = some (service, rest)) : rest ≠ [] := by
  rintro rfl
  unfold subject? at hsubject
  obtain ⟨service', s, rest, hsegments⟩ | ⟨service', s, rest, hsegments, hother⟩ := h
  · simp [hsegments] at hsubject
  · simp [hsegments, hother] at hsubject

theorem size_operation_le (names : List String) (method : String) (h : GoesOn (segments path)) :
    (derive names method path).operation.utf8ByteSize ≤ 67 := by
  rw [derive_eq]
  split
  · rename_i hsubject
    exact size_operationLabel_le method (rest_ne_nil_of_goesOn h hsubject)
  · split
    · decide
    · decide

/-- The labels of all requests. They go by the method and the pieces of the path between its slashes
that are not empty. A path that has gone astray has the unknown label, and any other one the label
of its segments as they are. The service is one of those there are, or one of four more, neither
label has a slash, and where there is a segment behind the service, the operation has at most 67
octets. -/
theorem labels_see_segments (names : List String) (method path : String) :
    let l := derive names method path
    (∀ other, pieces other = pieces path → derive names method other = l) ∧
      (Astray names (pieces path) → l = ⟨"unknown", "other"⟩) ∧
      (¬ Astray names (pieces path) → l = ofPath method path) ∧
      (l.service ∈ names ∨ l.service ∈ ["root", "api", "metrics", "unknown"]) ∧
      '/' ∉ l.service.toList ∧
      (isToken (Utf8.encode method) = true → '/' ∉ l.operation.toList) ∧
      (GoesOn (pieces path) → l.operation.utf8ByteSize ≤ 67) := by
  intro l
  simp only [← segments_eq]
  refine ⟨?_, derive_of_astray, derive_of_not_astray, ?_, ?_, ?_, ?_⟩
  · intro other hsame
    unfold l derive ofPath
    rw [hsame]
  · exact List.mem_append.mp (service_mem names method path)
  · exact slash_not_mem_service names method path
  · intro hmethod hslash
    unfold l at hslash
    rw [operation_eq] at hslash
    obtain hmark | ⟨w, hw, hmem⟩ := Text.mem_intercalate hslash
    · exact absurd hmark (by decide)
    · exact slash_not_mem_words hmethod hw hmem
  · exact size_operation_le names method

/-- An operation can be as long as that. -/
example : (derive ["orders"] "GET" ("/api/orders//abcdefghijklmnopqrstuvwxyz01234" ++
    "/abcdefghijklmnopqrstuvwxyz01234/lines/")).operation.utf8ByteSize = 67 := by
  decide +kernel

end Measurement.Labels

end RpcGateway
