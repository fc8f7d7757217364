import RpcGateway.Http.Cookie
import RpcGateway.Proofs.Http.FieldTexts
import RpcGateway.Proofs.Text.Cutting

/-!
# Session cookies that come back

A session key is written into the cookie that hands it out as it is, if only the whole is a field
value. The attributes always stand at the end. But a key with a semicolon is cut there and adds
attributes of its own, blanks at the end are trimmed, quotes at either end are dropped when the
cookie comes back, and a cookie that is not all visible ASCII is not read at all. The other keys,
and only they, come back as they were handed out.
-/

namespace RpcGateway.Http.Cookie

open RequestId (octet)

variable {key : String} {secure : Bool} {value : Bytes} {s : List Char}

def isBlankOctet (b : UInt8) : Bool := b == 0x20 || b == 0x09

/-- A field value cut at semicolons, without the blanks around the parts. -/
def parts (value : Bytes) : List Bytes := (Text.splitOn 0x3B value).map (Text.trim isBlankOctet)

/-- The pair of a session key, which is what a client sends back. -/
def sessionPair (key : String) : Bytes := Utf8.encode (sessionName ++ "=" ++ key)

/-- What a session cookie says beside its pair. -/
def attributes (secure : Bool) : List String :=
  ["Path=/", "Max-Age=86400", "HttpOnly", "SameSite=Lax"] ++ if secure then ["Secure"] else []

/-- What stands behind the key in a session cookie. -/
def afterKey (secure : Bool) : String :=
  "; Path=/; Max-Age=" ++ toString sessionMaxAge ++ "; HttpOnly; SameSite=Lax" ++
    if secure then "; Secure" else ""

theorem session?_eq (key : String) (secure : Bool) :
    session? key secure = Headers.value? (sessionName ++ "=" ++ key ++ afterKey secure) := by
  unfold session? afterKey
  simp only [String.append_assoc]

theorem session?_eq_some (h : session? key secure = some value) :
    value = sessionPair key ++ Utf8.encode (afterKey secure) := by
  rw [session?_eq] at h
  rw [Headers.eq_encode_of_value? h, Utf8.encode_append, sessionPair]

theorem parts_append (a b : Bytes) : parts (a ++ 0x3B :: b) = parts a ++ parts b := by
  rw [parts, Text.splitOn_append, List.map_append]
  rfl

theorem parts_afterKey (secure : Bool) : ∃ rest, Utf8.encode (afterKey secure) = 0x3B :: rest ∧
    parts rest = (attributes secure).map Utf8.encode := by
  cases secure with
  | false => exact ⟨Utf8.encode " Path=/; Max-Age=86400; HttpOnly; SameSite=Lax", by decide +kernel,
      by decide +kernel⟩
  | true => exact ⟨Utf8.encode " Path=/; Max-Age=86400; HttpOnly; SameSite=Lax; Secure",
      by decide +kernel, by decide +kernel⟩

/-- The attributes stand behind what the key makes of its pair. -/
theorem parts_session (h : session? key secure = some value) :
    parts value = parts (sessionPair key) ++ (attributes secure).map Utf8.encode := by
  obtain ⟨rest, hrest, hparts⟩ := parts_afterKey secure
  rw [session?_eq_some h, hrest, parts_append, hparts]

/-! ## Keys that stay in one part -/

/-- A key that is not cut, and of which nothing is trimmed. -/
structure Whole (key : String) : Prop where
  uncut : ';' ∉ key.toList
  untrimmed : ∀ c, key.toList.getLast? = some c → isBlank c = false

theorem parts_eq_singleton_iff {v : Bytes} :
    parts v = [v] ↔ 0x3B ∉ v ∧ Text.trim isBlankOctet v = v := by
  constructor
  · intro h
    have hcut : 0x3B ∉ v := by
      intro hmem
      have hlength := congrArg List.length h
      rw [parts, List.length_map, List.length_singleton] at hlength
      exact absurd (Text.two_le_length_splitOn hmem) (by simp [hlength])
    rw [parts, Text.splitOn_of_not_mem hcut] at h
    exact ⟨hcut, (List.cons.inj h).1⟩
  · rintro ⟨hcut, htrim⟩
    rw [parts, Text.splitOn_of_not_mem hcut, List.map_singleton, htrim]

/-- The octets of a character end in a blank just if it is one. -/
theorem isBlankOctet_of_getLast? {c : Char} {b : UInt8}
    (h : (String.utf8EncodeChar c).getLast? = some b) : isBlankOctet b = isBlank c := by
  obtain ⟨hascii, hencode⟩ | ⟨hbeyond, hhigh⟩ := Utf8.encodeChar_cases c
  · rw [hencode, List.getLast?_singleton, Option.some.injEq] at h
    rw [← h]
    refine Utf8.forall_ascii ?_ hascii
    decide +kernel
  · have hb := hhigh b (List.mem_of_getLast? h)
    have hoctet : isBlankOctet b = false := by
      rw [isBlankOctet, Bool.or_eq_false_iff, beq_eq_false_iff_ne, beq_eq_false_iff_ne]
      constructor
      · rintro rfl
        exact absurd hb (by decide)
      · rintro rfl
        exact absurd hb (by decide)
    rw [hoctet, eq_comm, isBlank, Bool.or_eq_false_iff, beq_eq_false_iff_ne, beq_eq_false_iff_ne]
    constructor
    · rintro rfl
      exact absurd hbeyond (by decide)
    · rintro rfl
      exact absurd hbeyond (by decide)

/-- The last octet of a text is a blank just if its last character is. -/
theorem blank_last_iff (s : String) :
    (∀ b, (Utf8.encode s).getLast? = some b → isBlankOctet b = false) ↔
      ∀ c, s.toList.getLast? = some c → isBlank c = false := by
  rw [Utf8.encode_eq]
  obtain hs | ⟨front, c, hs⟩ := List.eq_nil_or_concat' s.toList
  · simp [hs]
  obtain ⟨b, hb⟩ := Option.isSome_iff_exists.mp
    (List.getLast?_isSome.mpr (Utf8.encodeChar_ne_nil c))
  rw [hs, List.flatMap_append, List.flatMap_singleton, List.getLast?_append, List.getLast?_concat,
    hb, Option.some_or]
  simp [isBlankOctet_of_getLast? hb]

theorem toList_sessionPair (key : String) :
    (sessionName ++ "=" ++ key).toList = sessionName.toList ++ '=' :: key.toList := by
  simp

theorem parts_sessionPair_iff (hkey : key ≠ "") :
    parts (sessionPair key) = [sessionPair key] ↔ Whole key := by
  have hcut : 0x3B ∉ sessionPair key ↔ ';' ∉ key.toList := by
    have hoctet := Utf8.octet_mem_encode_iff (a := ';') (by decide) (s := sessionName ++ "=" ++ key)
    rw [toList_sessionPair, List.mem_append, List.mem_cons] at hoctet
    rw [show (0x3B : UInt8) = octet ';' from rfl, sessionPair, hoctet]
    simp [sessionName]
  have htrim : Text.trim isBlankOctet (sessionPair key) = sessionPair key ↔
      ∀ c, key.toList.getLast? = some c → isBlank c = false := by
    have hhead : (Utf8.encode (sessionName ++ "=" ++ key)).head? = some (octet 's') := by
      rw [Utf8.encode_eq, toList_sessionPair]
      rfl
    have hlast : (sessionName.toList ++ '=' :: key.toList).getLast? = key.toList.getLast? := by
      obtain ⟨c, cs, hcs⟩ := List.exists_cons_of_ne_nil (mt String.toList_eq_nil_iff.mp hkey)
      rw [hcs, List.getLast?_append_cons, List.getLast?_cons_cons]
    rw [Text.trim_eq_self_iff, sessionPair, blank_last_iff, toList_sessionPair, hhead, hlast]
    exact and_iff_right fun b hb ↦ by cases hb; rfl
  rw [parts_eq_singleton_iff, hcut, htrim]
  exact ⟨fun h ↦ ⟨h.1, h.2⟩, fun h ↦ ⟨h.uncut, h.untrimmed⟩⟩

/-! ## What comes back -/

/-- What is left of a value that comes back in a pair. -/
def kept (s : List Char) : List Char := unquote (Text.trimEnd isBlank (s.takeWhile (· ≠ ';')))

/-- What is read of a session key when its pair comes back. -/
def returned? (key : String) : Option String :=
  if key.toList.all Headers.isTextChar && !(kept key.toList).isEmpty then
    some (String.ofList (kept key.toList))
  else none

/-- The first pair of a text that begins with a session key's is that of the key up to its first
semicolon. -/
theorem pairs_session (s : List Char) : ∃ others, pairs (sessionName.toList ++ '=' :: s) =
    (sessionName.toList, Text.trimEnd isBlank (s.takeWhile (· ≠ ';'))) :: others := by
  obtain ⟨pieces, hpieces⟩ := Text.splitOn_eq_cons ';' (sessionName.toList ++ '=' :: s)
  have hfirst : (sessionName.toList ++ '=' :: s).takeWhile (· ≠ ';') =
      sessionName.toList ++ '=' :: s.takeWhile (· ≠ ';') := rfl
  have htrim : Text.trim isBlank (sessionName.toList ++ '=' :: s.takeWhile (· ≠ ';')) =
      sessionName.toList ++ '=' :: Text.trimEnd isBlank (s.takeWhile (· ≠ ';')) :=
    Text.trim_cons_append (a := 's') rfl rfl _ _
  refine ⟨pieces.filterMap pair?, ?_⟩
  rw [pairs, hpieces, hfirst, List.filterMap_cons, pair?, htrim,
    Text.splitOnce?_append (by decide)]

theorem value?_sessionPair {h : Headers} (hcookie : h.all "cookie" = [sessionPair key]) :
    value? h sessionName = returned? key := by
  have hname : sessionName.toList.all Headers.isTextChar = true := by decide
  unfold value? returned?
  rw [hcookie, List.filterMap_cons, List.filterMap_nil, sessionPair, Headers.text?_encode,
    toList_sessionPair, List.all_append, hname, List.all_cons, Bool.true_and,
    show Headers.isTextChar '=' = true from rfl, Bool.true_and]
  cases htext : key.toList.all Headers.isTextChar with
  | false => rfl
  | true =>
    obtain ⟨others, hpairs⟩ := pairs_session key.toList
    simp only [if_true, valueIn?, List.flatMap_singleton, hpairs]
    rw [List.find?_cons_of_pos (by simp), Bool.true_and]
    change Option.map _ (if (kept key.toList).isEmpty then none else some (kept key.toList)) = _
    cases (kept key.toList).isEmpty with
    | true => rfl
    | false => rfl

/-- Nothing is lost of a value just if there is nothing to be cut, trimmed or dropped. -/
theorem kept_eq_self_iff (s : List Char) :
    kept s = s ↔ (';' ∉ s ∧ ∀ c, s.getLast? = some c → isBlank c = false) ∧
      s.head? ≠ some '\x22' ∧ s.getLast? ≠ some '\x22' := by
  have hcut : s.takeWhile (· ≠ ';') = s ↔ ';' ∉ s := by
    rw [List.takeWhile_eq_self_iff]
    simp only [decide_eq_true_eq]
    exact ⟨fun h hmem ↦ h _ hmem rfl, fun h c hc hsame ↦ h (hsame ▸ hc)⟩
  have hquotes : unquote s = s ↔ s.head? ≠ some '\x22' ∧ s.getLast? ≠ some '\x22' := by
    rw [unquote, Text.trim_eq_self_iff]
    simp only [beq_eq_false_iff_ne]
    exact and_congr ⟨fun h hs ↦ h _ hs rfl, fun h a ha hsame ↦ h (hsame ▸ ha)⟩
      ⟨fun h hs ↦ h _ hs rfl, fun h a ha hsame ↦ h (hsame ▸ ha)⟩
  rw [← hcut, ← Text.trimEnd_eq_self_iff, ← hquotes, kept]
  constructor
  · intro h
    have hprefix := List.takeWhile_prefix (· ≠ ';') (l := s)
    have htrimmed := Text.trimEnd_isPrefix isBlank (s.takeWhile (· ≠ ';'))
    have hunquoted := Text.length_trim_le (· == '\x22')
      (Text.trimEnd isBlank (s.takeWhile (· ≠ ';')))
    rw [show Text.trim _ _ = s from h] at hunquoted
    -- What is left is as long as the value, so no step has made it shorter.
    have huncut := hprefix.eq_of_length_le (Nat.le_trans hunquoted htrimmed.length_le)
    rw [huncut] at h htrimmed hunquoted
    have huntrimmed := htrimmed.eq_of_length_le hunquoted
    rw [huntrimmed] at h
    exact ⟨⟨huncut, huntrimmed⟩, h⟩
  · rintro ⟨⟨huncut, huntrimmed⟩, hunquoted⟩
    rw [huncut, huntrimmed, hunquoted]

/-- A key that stays in one part, is visible ASCII and has no quote at either end. -/
structure Returning (key : String) : Prop extends Whole key where
  text : key.toList.all Headers.isTextChar = true
  quoteless : key.toList.head? ≠ some '\x22' ∧ key.toList.getLast? ≠ some '\x22'

theorem returned?_eq_some_iff (hkey : key ≠ "") : returned? key = some key ↔ Returning key := by
  have hsame : returned? key = some key ↔
      key.toList.all Headers.isTextChar = true ∧ kept key.toList = key.toList := by
    unfold returned?
    constructor
    · intro h
      split at h
      · rename_i hread
        have hkept := congrArg String.toList (Option.some.inj h)
        rw [String.toList_ofList] at hkept
        exact ⟨(Bool.and_eq_true_iff.mp hread).1, hkept⟩
      · cases h
    · rintro ⟨htext, hkept⟩
      simp [htext, hkept, hkey]
  rw [hsame, kept_eq_self_iff]
  exact ⟨fun ⟨htext, hwhole, hquotes⟩ ↦ ⟨⟨hwhole.1, hwhole.2⟩, htext, hquotes⟩,
    fun h ↦ ⟨h.text, ⟨h.uncut, h.untrimmed⟩, h.quoteless⟩⟩

/-- What a session cookie says and what of it comes back, for every key that makes a field value:
behind what the key makes of its pair stand the attributes, the pair is one part just if the key has
no semicolon and no blank at its end, and a client that sends the pair back is known by the key just
if, besides, the key is visible ASCII without a quote at either end. -/
theorem session_comes_back_iff {h : Headers} (hkey : key ≠ "")
    (hvalue : session? key secure = some value) (hcookie : h.all "cookie" = [sessionPair key]) :
    parts value = parts (sessionPair key) ++ (attributes secure).map Utf8.encode ∧
      (parts value = sessionPair key :: (attributes secure).map Utf8.encode ↔ Whole key) ∧
      value? h sessionName = returned? key ∧
      (value? h sessionName = some key ↔ Returning key) := by
  have hparts := parts_session hvalue
  refine ⟨hparts, ?_, value?_sessionPair hcookie, ?_⟩
  · rw [hparts, ← List.singleton_append (l := (attributes secure).map Utf8.encode),
      List.append_cancel_right_eq, parts_sessionPair_iff hkey]
  · rw [value?_sessionPair hcookie, returned?_eq_some_iff hkey]

/-- A key with quotes, a blank and an equals sign in its middle comes back. -/
theorem key_with_quotes_comes_back :
    let key := "id=\x227\x22 x"
    let value := Utf8.encode
      "session_key=id=\x227\x22 x; Path=/; Max-Age=86400; HttpOnly; SameSite=Lax; Secure"
    let h : Headers := [("cookie", sessionPair key)]
    key ≠ "" ∧ session? key true = some value ∧ h.all "cookie" = [sessionPair key] ∧
      parts value = sessionPair key ::
        ["Path=/", "Max-Age=86400", "HttpOnly", "SameSite=Lax", "Secure"].map Utf8.encode ∧
      value? h sessionName = some key := by
  intro key value h
  have hkey : key ≠ "" := by decide
  have hvalue : session? key true = some value := by decide +kernel
  have hreturning : Returning key := by
    have hlast : key.toList.getLast? = some 'x' := by decide
    refine ⟨⟨by decide, fun c hc ↦ ?_⟩, by decide, by decide⟩
    cases hlast.symm.trans hc
    rfl
  obtain ⟨-, hparts, -, hback⟩ := session_comes_back_iff (h := h) hkey hvalue rfl
  exact ⟨hkey, hvalue, rfl, hparts.mpr hreturning.toWhole, hback.mpr hreturning⟩

/-- What stands behind a semicolon in a session key becomes an attribute of its cookie. -/
theorem key_adds_attribute :
    ¬ ∀ (key : String) (secure : Bool) (value : Bytes) (h : Headers), key ≠ "" →
      session? key secure = some value → h.all "cookie" = [sessionPair key] →
        parts value = sessionPair key :: (attributes secure).map Utf8.encode ∧
          value? h sessionName = some key := by
  intro hclaim
  let key := "abc; Domain=example.org"
  have hvalue : session? key false = some (Utf8.encode
      "session_key=abc; Domain=example.org; Path=/; Max-Age=86400; HttpOnly; SameSite=Lax") := by
    decide +kernel
  have hparts := (hclaim key false _ [("cookie", sessionPair key)] (by decide) hvalue rfl).1
  rw [parts_session hvalue] at hparts
  have hlength := congrArg List.length hparts
  rw [List.length_append, List.length_cons] at hlength
  have htwo : (parts (sessionPair key)).length = 2 := by decide +kernel
  omega

end RpcGateway.Http.Cookie
