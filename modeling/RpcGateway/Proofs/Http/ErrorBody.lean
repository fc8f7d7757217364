import RpcGateway.Http.Response
import RpcGateway.Proofs.Json.Texts

/-!
# Error bodies

The body of an error is a JSON object of a code, a message and an identifier, which may be null.
What the gateway writes for an error is read again as such an object, whatever its texts are.
-/

namespace RpcGateway.Http.Response

open Json

variable {code message : String} {id : Option String}

/-- An error with a JSON body, in which a code, a message and an identifier stand. -/
structure TellsError (a : Response) (code message : String) (id : Value) : Prop where
  status : 400 ≤ a.status
  body : ∃ v, Value.parse? a.body = some v ∧ v.get? "error" = some (.string code) ∧
    v.get? "message" = some (.string message) ∧ v.get? "request_id" = some id

/-- How an identifier is written. -/
def idLeaf : Option String → Leaf
  | some id => .string (Quoted.encode id)
  | none => .null

def idToken : Option String → Token
  | some id => .string (Quoted.encode id)
  | none => .null

def errorTokens (code message : String) (id : Option String) : List Token :=
  [.beginObject, .string (Quoted.encode "error"), .colon, .string (Quoted.encode code), .comma,
    .string (Quoted.encode "message"), .colon, .string (Quoted.encode message), .comma,
    .string (Quoted.encode "request_id"), .colon, idToken id, .endObject]

theorem render_errorBody :
    (errorBody code message id).render = (errorTokens code message id).flatMap Token.text := by
  cases id <;> rfl

theorem scan?_errorBody :
    Token.scan? (errorBody code message id).render = some (errorTokens code message id) := by
  have hid (tokens : List Token) :
      Token.Scan.run? ⟨tokens, .between⟩ (Token.text (idToken id) ++ Token.text .endObject) =
        some ⟨.endObject :: idToken id :: tokens, .between⟩ := by
    cases id with
    | some id =>
      rw [idToken, Token.run?_string]
      rfl
    | none =>
      rw [idToken, Token.text.eq_def .endObject, Token.run?_null rfl]
      rfl
  rw [render_errorBody]
  unfold Token.scan? errorTokens
  simp [Token.run?_mark, Token.run?_string, hid, Token.Scan.finish?]

theorem read?_errorBody :
    Tree.read? (errorBody code message id).render =
      some (.object [(Quoted.encode "error", .leaf (.string (Quoted.encode code))),
        (Quoted.encode "message", .leaf (.string (Quoted.encode message))),
        (Quoted.encode "request_id", .leaf (idLeaf id))]) := by
  unfold Tree.read?
  rw [scan?_errorBody]
  cases id <;> rfl

/-- What has been written for an error is read again. -/
theorem parse?_errorBody :
    Value.parse? (errorBody code message id).render = some (errorBody code message id) := by
  unfold Value.parse?
  rw [read?_errorBody]
  cases id with
  | some id =>
    simp only [idLeaf, Option.bind_some, Value.maxDepth, Value.ofTree?, Value.fieldsOf?,
      Quoted.decode?_encode, Value.ofLeaf?]
    rfl
  | none =>
    simp only [idLeaf, Option.bind_some, Value.maxDepth, Value.ofTree?, Value.fieldsOf?,
      Quoted.decode?_encode, Value.ofLeaf?]
    rfl

/-- An error of the gateway tells what has been written for it, and nothing else. -/
theorem TellsError.of_errorBody {a : Response} {code' message' : String} {v : Value}
    (h : a.TellsError code' message' v) (hbody : a.body = (errorBody code message id).render) :
    code' = code ∧ message' = message ∧ v = Value.ofOption .string id := by
  obtain ⟨w, hparsed, herror, hmessage, hid⟩ := h.body
  rw [hbody, parse?_errorBody] at hparsed
  cases hparsed
  simp only [errorBody, record, Value.get?, List.find?_cons] at herror hmessage hid
  simp at herror hmessage hid
  exact ⟨herror.symm, hmessage.symm, hid.symm⟩

theorem TellsError.parse?_ne_none {a : Response} {v : Value} (h : a.TellsError code message v) :
    Value.parse? a.body ≠ none := by
  obtain ⟨w, hw, -⟩ := h.body
  rw [hw]
  nofun

/-- What the gateway writes for an error tells that error. -/
theorem tellsError_of_errorBody {a : Response} (hstatus : 400 ≤ a.status)
    (hbody : a.body = (errorBody code message id).render) :
    a.TellsError code message (Value.ofOption .string id) := by
  refine ⟨hstatus, errorBody code message id, ?_, ?_, ?_, ?_⟩
  · rw [hbody, parse?_errorBody]
  · simp [errorBody, record, Value.get?]
  · simp [errorBody, record, Value.get?]
  · simp [errorBody, record, Value.get?]

/-- A text that begins like no value is none. -/
theorem parse?_cons_eq_none {b : UInt8} (h : Token.Scan.begin? [] b = none) (text : Bytes) :
    Value.parse? (b :: text) = none := by
  have hscan : Token.scan? (b :: text) = none := by
    unfold Token.scan? Token.Scan.run? Token.Scan.step?
    dsimp only
    rw [h]
    rfl
  unfold Value.parse? Tree.read?
  rw [hscan]
  rfl

theorem parse?_nil : Value.parse? [] = none := rfl

end RpcGateway.Http.Response
