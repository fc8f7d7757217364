import RpcGateway.Access.Bearer
import RpcGateway.Proofs.Http.FieldTexts
import RpcGateway.Proofs.Text.Cutting

/-!
# The grammar of bearer tokens

The first authorization header of a request is accepted just if it is visible ASCII that consists of
the word `Bearer`, one blank, and a token which has at least one character and no blank. Every other
request is unauthenticated, and is told that the header is missing only if it is. An accepted header
is written in one way for each token.
-/

namespace RpcGateway.Access

open Http

variable {h : Headers} {token : String} {value : Bytes} {f : Fault}

/-- The first authorization header is the word `Bearer`, a blank, and the token. -/
structure Bears (h : Headers) (token : String) : Prop where
  header : ((h.get? "authorization").bind Headers.text?) = some ("Bearer ".toList ++ token.toList)
  nonempty : token ≠ ""
  unbroken : ' ' ∉ token.toList

theorem tokenOf?_eq_some_iff {header chars : List Char} :
    tokenOf? header = some chars ↔
      header = "Bearer ".toList ++ chars ∧ chars ≠ [] ∧ ' ' ∉ chars := by
  have hword : "Bearer ".toList ++ chars = scheme ++ ' ' :: chars := by simp [scheme]
  rw [hword]
  constructor
  · intro htoken
    unfold tokenOf? at htoken
    split at htoken
    · rename_i word rest hsplit
      obtain ⟨⟨hscheme, hnonempty, hunbroken⟩, hrest⟩ := Option.ite_none_right_eq_some.mp htoken
      cases hrest
      exact ⟨hscheme ▸ (Text.splitOnce?_eq_some_iff.mp hsplit).1, hnonempty, hunbroken⟩
    · cases htoken
  · rintro ⟨rfl, hnonempty, hunbroken⟩
    have hsplit : Text.splitOnce? ' ' (scheme ++ ' ' :: chars) = some (scheme, chars) :=
      Text.splitOnce?_append (by decide) chars
    simp [tokenOf?, hsplit, hnonempty, hunbroken]

theorem bearerToken_of_get? (hvalue : h.get? "authorization" = some value) :
    bearerToken h = match (Headers.text? value).bind tokenOf? with
      | some chars => .ok (String.ofList chars)
      | none => .error (.unauthenticated "invalid authorization format") := by
  cases htoken : (Headers.text? value).bind tokenOf? with
  | none => simp [bearerToken, hvalue, htoken]
  | some chars => simp [bearerToken, hvalue, htoken]

theorem bearerToken_of_get?_eq_none (hnone : h.get? "authorization" = none) :
    bearerToken h = .error (.unauthenticated "authorization header required") := by
  rw [bearerToken, hnone]

theorem bearerToken_eq_ok_iff : bearerToken h = .ok token ↔ Bears h token := by
  cases hvalue : h.get? "authorization" with
  | none =>
    rw [bearerToken_of_get?_eq_none hvalue]
    refine ⟨nofun, fun hbears ↦ ?_⟩
    have hheader := hbears.header
    rw [hvalue] at hheader
    cases hheader
  | some value =>
    have hchars : Bears h token ↔ (Headers.text? value).bind tokenOf? = some token.toList := by
      rw [Option.bind_eq_some_iff]
      simp only [tokenOf?_eq_some_iff]
      constructor
      · intro hbears
        have hheader := hbears.header
        rw [hvalue, Option.bind_some] at hheader
        exact ⟨_, hheader, rfl, mt String.toList_eq_nil_iff.mp hbears.nonempty, hbears.unbroken⟩
      · rintro ⟨_, hheader, rfl, hnonempty, hunbroken⟩
        exact ⟨by rw [hvalue, Option.bind_some, hheader],
          mt String.toList_eq_nil_iff.mpr hnonempty, hunbroken⟩
    rw [bearerToken_of_get? hvalue, hchars]
    cases (Headers.text? value).bind tokenOf? with
    | none => exact ⟨nofun, nofun⟩
    | some chars =>
      simp only [Except.ok.injEq, Option.some.injEq]
      exact ⟨fun hsame ↦ by rw [← hsame, String.toList_ofList],
        fun hsame ↦ by rw [hsame, String.ofList_toList]⟩

/-- An authorization header with a token: the word `Bearer`, one blank, and then visible ASCII, not
empty, without a blank. -/
structure Grants (value : Bytes) (token : String) : Prop where
  written : value = Utf8.encode ("Bearer " ++ token)
  text : ∀ c ∈ token.toList, Headers.isTextChar c = true
  nonempty : token ≠ ""
  unbroken : ' ' ∉ token.toList

theorem bears_iff : Bears h token ↔ ∃ value, h.get? "authorization" = some value ∧
    Grants value token := by
  have hword : String.ofList ("Bearer ".toList ++ token.toList) = "Bearer " ++ token := by
    rw [← String.toList_append, String.ofList_toList]
  have hscheme : ∀ c ∈ "Bearer ".toList, Headers.isTextChar c = true := List.all_eq_true.mp rfl
  constructor
  · intro hbears
    obtain ⟨value, hvalue, htext⟩ := Option.bind_eq_some_iff.mp hbears.header
    obtain ⟨hwritten, hchars⟩ := Headers.text?_eq_some_iff.mp htext
    rw [hword] at hwritten
    exact ⟨value, hvalue, hwritten, fun c hc ↦ hchars c (List.mem_append_right _ hc),
      hbears.nonempty, hbears.unbroken⟩
  · rintro ⟨value, hvalue, hgrants⟩
    have htext : Headers.text? value = some ("Bearer ".toList ++ token.toList) :=
      Headers.text?_eq_some_iff.mpr ⟨hword ▸ hgrants.written,
        List.forall_mem_append.mpr ⟨hscheme, hgrants.text⟩⟩
    exact ⟨by rw [hvalue, Option.bind_some, htext], hgrants.nonempty, hgrants.unbroken⟩

theorem bearerToken_eq_error_iff : bearerToken h = .error f ↔
    (h.get? "authorization" = none ∧ f = .unauthenticated "authorization header required") ∨
      (h.get? "authorization" ≠ none ∧ (∀ token, ¬ Bears h token) ∧
        f = .unauthenticated "invalid authorization format") := by
  simp only [← bearerToken_eq_ok_iff]
  cases hvalue : h.get? "authorization" with
  | none =>
    rw [bearerToken_of_get?_eq_none hvalue]
    simp [eq_comm]
  | some value =>
    rw [bearerToken_of_get? hvalue]
    cases (Headers.text? value).bind tokenOf? with
    | none => simp [eq_comm]
    | some chars => simp

/-- A request is accepted with a token just if its first authorization header has it by the grammar.
Any other one is unauthenticated, for want of a header just if there is none. Two requests with the
same token have the same header. -/
theorem tokens_follow_grammar (h : Headers) :
    (∀ token, bearerToken h = .ok token ↔
      ∃ value, h.get? "authorization" = some value ∧ Grants value token) ∧
    (∀ f, bearerToken h = .error f ↔
      (h.get? "authorization" = none ∧ f = .unauthenticated "authorization header required") ∨
        (∃ value, h.get? "authorization" = some value ∧ (∀ token, ¬ Grants value token) ∧
          f = .unauthenticated "invalid authorization format")) ∧
    (∀ h' token token', bearerToken h = .ok token → bearerToken h' = .ok token' →
      h.get? "authorization" ≠ h'.get? "authorization" → token ≠ token') := by
  have haccepted (h : Headers) (token : String) : bearerToken h = .ok token ↔
      ∃ value, h.get? "authorization" = some value ∧ Grants value token :=
    bearerToken_eq_ok_iff.trans bears_iff
  refine ⟨haccepted h, fun f ↦ ?_, ?_⟩
  · rw [bearerToken_eq_error_iff]
    simp only [bears_iff]
    cases h.get? "authorization" with
    | none => simp
    | some value => simp
  · rintro h' token _ hok hok' hdiffer rfl
    obtain ⟨value, hvalue, hgrants⟩ := (haccepted h token).mp hok
    obtain ⟨value', hvalue', hgrants'⟩ := (haccepted h' token).mp hok'
    rw [hvalue, hvalue', hgrants.written, hgrants'.written] at hdiffer
    exact hdiffer rfl

/-- Of two headers the first one counts, and a tab may stand in a token. -/
theorem first_header_tells_token :
    let tabbed := Utf8.encode "Bearer a\tb"
    let plain := Utf8.encode "Bearer c"
    let h : Headers := [("accept", plain), ("authorization", tabbed), ("authorization", plain)]
    let h' : Headers := [("authorization", plain), ("authorization", tabbed)]
    h.get? "authorization" ≠ h'.get? "authorization" ∧ bearerToken h = .ok "a\tb" ∧
      bearerToken h' = .ok "c" ∧ "a\tb" ≠ "c" ∧
      bearerToken [] = .error (.unauthenticated "authorization header required") := by
  intro tabbed plain h h'
  have hdiffer : h.get? "authorization" ≠ h'.get? "authorization" := by decide +kernel
  have htabbed : bearerToken h = .ok "a\tb" :=
    ((tokens_follow_grammar h).1 _).mpr
      ⟨tabbed, rfl, rfl, List.all_eq_true.mp rfl, by decide, by decide⟩
  have hplain : bearerToken h' = .ok "c" :=
    ((tokens_follow_grammar h').1 _).mpr
      ⟨plain, rfl, rfl, List.all_eq_true.mp rfl, by decide, by decide⟩
  exact ⟨hdiffer, htabbed, hplain,
    (tokens_follow_grammar h).2.2 h' _ _ htabbed hplain hdiffer,
    ((tokens_follow_grammar []).2.1 _).mpr (.inl ⟨rfl, rfl⟩)⟩

end RpcGateway.Access
