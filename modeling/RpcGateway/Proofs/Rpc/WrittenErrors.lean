import RpcGateway.Calls.HttpBackend
import RpcGateway.Proofs.Http.Identifiers
import RpcGateway.Proofs.Json.Texts

/-!
# Errors over the wire

An error is read again from what has been written for it, whatever its message is. So a backend that
answers a call with an error in its response, under any status that is no success, gives the caller
exactly that error, unless the response is longer than what is read of one.
-/

namespace RpcGateway

open Json

namespace Rpc.Error

variable {e : Error}

/-- What is written for an error. -/
def written (e : Error) : List Token :=
  [.beginObject, .string (Quoted.encode "code"), .colon, .string (Quoted.encode e.code.name),
    .comma, .string (Quoted.encode "message"), .colon, .string (Quoted.encode e.message),
    .endObject]

theorem render_eq (e : Error) : e.render = e.written.flatMap Token.text := rfl

theorem scan?_render (e : Error) : Token.scan? e.render = some e.written := by
  have hend (tokens : List Token) : Token.Scan.run? ⟨tokens, .between⟩ (Token.text .endObject) =
      some ⟨.endObject :: tokens, .between⟩ := rfl
  rw [render_eq, written, Token.scan?]
  simp [Token.run?_mark, Token.run?_string, hend, Token.Scan.finish?]

theorem read?_render (e : Error) :
    Tree.read? e.render =
      some (.object [(Quoted.encode "code", .leaf (.string (Quoted.encode e.code.name))),
        (Quoted.encode "message", .leaf (.string (Quoted.encode e.message)))]) := by
  rw [Tree.read?, scan?_render]
  rfl

theorem codeOfName?_encode (c : Code) : codeOfName? (Quoted.encode c.name) = some c := by
  rw [codeOfName?, Quoted.decode?_encode, Option.bind_some, Code.ofName?_name]

/-- What has been written for an error is read as that error. -/
theorem parse?_render (e : Error) : parse? e.render = some e := by
  have hcode (f : Fields) (hf : f.code = none) :
      f.read? (Quoted.encode "code") (.leaf (.string (Quoted.encode e.code.name))) =
        some { f with code := some e.code } := by
    simp [Fields.read?, Quoted.decode?_encode, hf, codeOfTree?, codeOfName?_encode]
  have hmessage (f : Fields) (hf : f.message = none) :
      f.read? (Quoted.encode "message") (.leaf (.string (Quoted.encode e.message))) =
        some { f with message := some e.message } := by
    simp [Fields.read?, Quoted.decode?_encode, hf, messageOfTree?]
  rw [parse?, read?_render, Option.bind_some, ofTree?, Fields.readAll?, hcode _ rfl,
    Option.bind_some, Fields.readAll?, hmessage _ rfl]
  rfl

end Rpc.Error

/-! ## The length of what is written -/

theorem Json.Quoted.escape_ne_nil (b : UInt8) : escape b ≠ [] := by
  unfold escape
  split_ifs <;> exact List.cons_ne_nil _ _

/-- A text has at least as many octets between quotes as by itself. -/
theorem Json.Quoted.length_le_length_encode (s : String) :
    (Utf8.encode s).length ≤ (encode s).length := by
  rw [encode]
  induction Utf8.encode s with
  | nil => exact Nat.le_refl 0
  | cons b octets ih =>
    have hescape := List.length_pos_iff.mpr (escape_ne_nil b)
    rw [List.flatMap_cons, List.length_append, List.length_cons]
    omega

theorem Rpc.Error.length_lt_length_render (e : Error) :
    (Utf8.encode e.message).length < e.render.length := by
  have hmessage := Json.Quoted.length_le_length_encode e.message
  rw [render_eq]
  simp only [written, List.flatMap_cons, List.length_append, Token.text, List.length_cons,
    List.length_nil]
  omega

namespace Calls.HttpBackend

variable {b : HttpBackend} {network : WireRequest → Exchange} {r : Rpc.Request} {w : WireRequest}
  {status : Nat} {body : Bytes} {e : Rpc.Error}

theorem call_of_answered (hprepare : b.prepare r = .ok w)
    (hanswered : network w = .answered status body) (hstatus : isSuccess status = false)
    (hparse : Rpc.Error.parse? body = some e) :
    b.call network r = .error (if body.length ≤ maxResponse then e
      else .unavailable "read response: length limit exceeded") := by
  have herror : errorOf status body = e := by rw [errorOf, hparse]
  rw [call, hprepare]
  dsimp only
  rw [hanswered, receive]
  by_cases hlength : body.length ≤ maxResponse
  · rw [if_neg (Nat.not_lt.mpr hlength), hstatus, if_pos hlength, herror]
    rfl
  · rw [if_pos (Nat.lt_of_not_le hlength), if_neg hlength]

/-- Every error is read again from what is written for it, and what is read of any text is read
again when it is written. A caller whose backend answers with the text of an error, whatever the
status is and in whatever form the text is written, gets that error, if the text is no longer than
what is read of a response; otherwise the backend counts as unavailable. -/
theorem errors_survive_the_wire :
    (∀ e : Rpc.Error, Rpc.Error.parse? e.render = some e) ∧
      (∀ body e, Rpc.Error.parse? body = some e → Rpc.Error.parse? e.render = some e) ∧
      ∀ (b : HttpBackend) (network : WireRequest → Exchange) (r : Rpc.Request) (w : WireRequest)
        (status : Nat) (body : Bytes) (e : Rpc.Error), b.prepare r = .ok w →
        network w = .answered status body → isSuccess status = false →
        Rpc.Error.parse? body = some e →
        b.call network r = .error (if body.length ≤ maxResponse then e
          else .unavailable "read response: length limit exceeded") :=
  ⟨Rpc.Error.parse?_render, fun _ e _ ↦ Rpc.Error.parse?_render e,
    fun _ _ _ _ _ _ _ ↦ call_of_answered⟩

/-- A message with a quote, a backslash, a control and a character beyond the first plane comes
over, in a text that escapes all of them, has a field of its own and puts the code into an
object. -/
theorem noisy_error_survives_the_wire :
    let b : HttpBackend := ⟨"orders", "127.0.0.1:50052", false⟩
    let r : Rpc.Request := { operation := "OrderInfo", requestId := "r1" }
    let e : Rpc.Error := ⟨.notFound, "a\x22b\\c\nd😀"⟩
    let body := Utf8.encode ("\x7b \x22at\x22: [1e999], " ++
      "\x22message\x22: \x22a\\\x22b\\\\c\\u000ad\\ud83d\\ude00\x22, " ++
      "\x22code\x22: \x7b\x22not_found\x22: null\x7d \x7d")
    ∃ w, b.prepare r = .ok w ∧ isSuccess 503 = false ∧ Rpc.Error.parse? body = some e ∧
      Rpc.Error.parse? e.render = some e ∧
      b.call (fun _ ↦ .answered 503 body) r = .error e := by
  intro b r e body
  have hprepare : ∃ w, b.prepare r = .ok w := ⟨_, rfl⟩
  have hparse : Rpc.Error.parse? body = some e := by decide +kernel
  obtain ⟨w, hw⟩ := hprepare
  obtain ⟨-, hagain, hcall⟩ := errors_survive_the_wire
  have herror := hcall b (fun _ ↦ .answered 503 body) r w 503 body e hw rfl rfl hparse
  rw [if_pos (by decide +kernel)] at herror
  exact ⟨w, hw, rfl, hparse, hagain body e hparse, herror⟩

/-- An error whose text is longer than what is read of a response does not come over. -/
theorem long_error_is_lost :
    ¬ ∀ (b : HttpBackend) (network : WireRequest → Exchange) (r : Rpc.Request) (w : WireRequest)
      (status : Nat) (e : Rpc.Error), b.prepare r = .ok w →
      network w = .answered status e.render → isSuccess status = false →
      b.call network r = .error e := by
  intro hclaim
  let b : HttpBackend := ⟨"users", "127.0.0.1:49152", false⟩
  let r : Rpc.Request := { operation := "Op", requestId := "req-1" }
  let e : Rpc.Error := ⟨.notFound, String.ofList (List.replicate maxResponse 'a')⟩
  let network : WireRequest → Exchange := fun _ ↦ .answered 404 e.render
  obtain ⟨w, hw⟩ : ∃ w, b.prepare r = .ok w := ⟨_, rfl⟩
  have hmessage : (Utf8.encode e.message).length = maxResponse := by
    rw [Utf8.encode_ofList, List.length_flatMap, List.map_replicate, List.sum_replicate_nat]
    exact Nat.mul_one maxResponse
  have hlength := e.length_lt_length_render
  rw [hmessage] at hlength
  have hanswered : network w = .answered 404 e.render := rfl
  have hlost := call_of_answered hw hanswered rfl (Rpc.Error.parse?_render e)
  rw [if_neg (Nat.not_le.mpr hlength), hclaim b network r w 404 e hw hanswered rfl] at hlost
  exact absurd (congrArg Rpc.Error.code (Except.error.inj hlost)) (by decide)

end Calls.HttpBackend

end RpcGateway
