import RpcGateway.Gateway.Pipeline
import RpcGateway.Proofs.Http.Identifiers

/-!
# Responses that carry an identifier

Once a response has its identifier in the header, it keeps it on its way out, where only other
fields are set. Its body stays as it is, too, unless nobody wants it.
-/

namespace RpcGateway

namespace Http

/-! ## Fields -/

namespace Headers

variable {h : Headers} {name name' : String} {value : Bytes}

/-- The values of a field in two lists of headers are those of the first and then the others. -/
theorem all_append (h h' : Headers) (name : String) :
    all (h ++ h') name = all h name ++ all h' name := by
  simp [all]

theorem all_add_of_ne (hne : name' ≠ name) : (h.add name' value).all name = h.all name := by
  simp [add, all, hne]

theorem all_remove_of_ne (hne : name' ≠ name) : (h.remove name').all name = h.all name := by
  simp only [all, remove, List.filter_filter]
  congr 2
  funext f
  by_cases hf : f.1 = name
  · simp [hf, hne.symm]
  · simp [hf]

/-- To set one field leaves the values of another. -/
theorem all_set_of_ne (hne : name' ≠ name) : (h.set name' value).all name = h.all name := by
  rw [set, all_add_of_ne hne, all_remove_of_ne hne]

/-- The value that has been set is the only one. -/
theorem all_set (h : Headers) (name : String) (value : Bytes) :
    (h.set name value).all name = [value] := by
  simp [set, add, remove, all, List.filter_filter]

end Headers

/-! ## Responses -/

namespace Response

/-- A response whose header has this identifier, and no other. -/
def Carries (r : Response) (id : String) : Prop :=
  r.headers.all RequestId.headerName = [Utf8.encode id]

variable {r : Response} {id : String}

/-- Fields of other names can be set. -/
theorem Carries.of_all {r' : Response} (h : r.Carries id)
    (hall : r'.headers.all RequestId.headerName = r.headers.all RequestId.headerName) :
    r'.Carries id := hall.trans h

/-- What is marked with a well-formed identifier carries it. -/
theorem carries_withRequestId (r : Response) (h : RequestId.wellFormed id.toList = true) :
    (r.withRequestId id).Carries id := by
  rw [withRequestId, RequestId.value?_of_wellFormed h]
  exact Headers.all_set r.headers _ _

@[simp]
theorem body_withRequestId (r : Response) (id : String) : (r.withRequestId id).body = r.body := by
  unfold withRequestId
  split
  · rfl
  · rfl

/-- The answer to a fault carries the identifier that it tells. -/
theorem carries_ofFault (f : Fault) (h : RequestId.wellFormed id.toList = true) :
    (ofFault f (some id)).Carries id := by
  have hmarked := carries_withRequestId
    (json f.status (errorBody f.code f.publicMessage (some id))) h
  unfold ofFault
  dsimp only
  split
  · exact hmarked.of_all (Headers.all_set_of_ne (by decide))
  · exact hmarked

/-- A fault is told in the body, with the identifier that it is given. -/
@[simp]
theorem body_ofFault (f : Fault) (id : Option String) :
    (ofFault f id).body = (errorBody f.code f.publicMessage id).render := by
  unfold ofFault
  cases id with
  | none =>
    dsimp only
    split
    · rfl
    · rfl
  | some id =>
    dsimp only
    split
    · exact body_withRequestId _ id
    · exact body_withRequestId _ id

end Response

@[simp]
theorem ContentCoding.body_apply (request : Headers) (r : Response) :
    (apply request r).body = r.body := by
  unfold apply
  split
  · rfl
  · dsimp only
    cases preferred request with
    | identity => rfl
    | gzip => rfl

/-- To encode a body changes four fields at most. -/
theorem ContentCoding.all_apply {name : String} (request : Headers) (r : Response)
    (hvary : "vary" ≠ name) (hranges : "accept-ranges" ≠ name)
    (hlength : Response.contentLength ≠ name) (hcoding : "content-encoding" ≠ name) :
    (apply request r).headers.all name = r.headers.all name := by
  unfold apply
  split
  · rfl
  have hvaries : (if variesByCoding r.headers then r.headers
      else r.headers.add "vary" (Utf8.encode "accept-encoding")).all name =
        r.headers.all name := by
    split
    · rfl
    · exact Headers.all_add_of_ne hvary
  dsimp only
  cases preferred request with
  | identity => exact hvaries
  | gzip =>
    dsimp only
    rw [Headers.all_set_of_ne hcoding, Headers.all_remove_of_ne hlength,
      Headers.all_remove_of_ne hranges, hvaries]

/-- The rules for browsers change their own fields and `vary`. -/
theorem Cors.all_mark {name : String} (c : Config.Cors) (request response : Headers)
    (hcommon : ∀ f ∈ common c request, f.1 ≠ name)
    (hexposed : "access-control-expose-headers" ≠ name) (hvary : "vary" ≠ name) :
    (mark c request response).all name = response.all name := by
  have hfold : ∀ (fields h : Headers), (∀ f ∈ fields, f.1 ≠ name) →
      Headers.all (fields.foldl (fun h f ↦ h.set f.1 f.2) h) name = h.all name := by
    intro fields
    induction fields with
    | nil => exact fun h _ ↦ rfl
    | cons f fields ih =>
      intro h hne
      rw [List.forall_mem_cons] at hne
      rw [List.foldl_cons, ih _ hne.2, Headers.all_set_of_ne hne.1]
  unfold mark
  dsimp only
  rw [Headers.all_append, hfold]
  · simp [Headers.all, hvary]
  · rw [List.forall_mem_append, List.forall_mem_singleton]
    exact ⟨hcommon, hexposed⟩

/-- Two fields are told to every browser. -/
theorem Cors.ne_of_mem_common {c : Config.Cors} {request : Headers} {name : String}
    (hcredentials : "access-control-allow-credentials" ≠ name)
    (horigin : "access-control-allow-origin" ≠ name) : ∀ f ∈ common c request, f.1 ≠ name := by
  have hsingle (n : String) (v : Option Bytes) (hne : n ≠ name) : ∀ f ∈ single n v, f.1 ≠ name := by
    cases v with
    | none => nofun
    | some v => exact List.forall_mem_singleton.mpr hne
  rw [common, List.forall_mem_append]
  exact ⟨hsingle _ _ hcredentials, hsingle _ _ horigin⟩

namespace Response.Carries

variable {r : Response} {id : String}

theorem apply (h : r.Carries id) (request : Headers) :
    (ContentCoding.apply request r).Carries id :=
  h.of_all (ContentCoding.all_apply request r (by decide) (by decide) (by decide) (by decide))

theorem mark (h : r.Carries id) (c : Config.Cors) (request : Headers) :
    Response.Carries { r with headers := Cors.mark c request r.headers } id :=
  h.of_all (Cors.all_mark c request r.headers (Cors.ne_of_mem_common (by decide) (by decide))
    (by decide) (by decide))

end Response.Carries

end Http

namespace Gateway

open Http

variable {r : Request} {a : Response} {id : String} {allow : List String}

/-! ## The response on its way out -/

@[simp]
theorem body_withAllowed (allow : List String) (a : Response) :
    (withAllowed allow a).body = a.body := by
  unfold withAllowed
  split
  · rfl
  · rfl

@[simp]
theorem body_withLength (a : Response) : (withLength a).body = a.body := by
  unfold withLength
  split
  · rfl
  · rfl

theorem carries_withAllowed (h : a.Carries id) : (withAllowed allow a).Carries id := by
  unfold withAllowed
  split
  · exact h
  · exact h.of_all (Headers.all_add_of_ne (by decide))

theorem carries_withLength (h : a.Carries id) : (withLength a).Carries id := by
  unfold withLength
  split
  · exact h
  · exact h.of_all (Headers.all_add_of_ne (by decide))

/-- A response goes out without its body. -/
def DropsBody (r : Request) (a : Response) : Prop :=
  opensTunnel r a = false ∧ r.method = "HEAD"

instance (r : Request) (a : Response) : Decidable (DropsBody r a) :=
  inferInstanceAs (Decidable (_ ∧ _))

/-- A body is dropped or sent as it is. -/
theorem body_completed (r : Request) (allow : List String) (a : Response) :
    (completed r allow a).body = if DropsBody r a then [] else a.body := by
  unfold completed DropsBody
  by_cases htunnel : opensTunnel r a = true
  · simp [htunnel]
  · rw [Bool.not_eq_true] at htunnel
    by_cases hhead : r.method = "HEAD"
    · simp [htunnel, hhead]
    · simp [htunnel, hhead]

/-- What is completed on its way out still carries its identifier. -/
theorem carries_completed (h : a.Carries id) : (completed r allow a).Carries id := by
  have hfields : (withLength (withAllowed allow a)).Carries id :=
    carries_withLength (carries_withAllowed h)
  unfold completed
  split
  · exact h
  · dsimp only
    split
    · exact hfields
    · exact hfields

end Gateway

end RpcGateway
