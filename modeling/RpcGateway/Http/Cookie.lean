import RpcGateway.Http.Header

/-!
# Cookies

A cookie header is a list of pairs cut at semicolons. The first pair with a name decides the value
of that cookie, over all cookie headers that are text; quotes around the value are dropped, and an
empty value counts as no cookie.
-/

namespace RpcGateway.Http.Cookie

def isBlank (c : Char) : Bool := c == ' ' || c == '\t'

/-- The name and the value of one pair. -/
def pair? (s : List Char) : Option (List Char × List Char) :=
  Text.splitOnce? '=' (Text.trim isBlank s)

def pairs (header : List Char) : List (List Char × List Char) :=
  (Text.splitOn ';' header).filterMap pair?

def unquote (s : List Char) : List Char := Text.trim (· == '\x22') s

def valueIn? (headers : List (List Char)) (name : List Char) : Option (List Char) :=
  match (headers.flatMap pairs).find? fun p ↦ p.1 = name with
  | some (_, value) => if (unquote value).isEmpty then none else some (unquote value)
  | none => none

/-- The value of a cookie. -/
def value? (h : Headers) (name : String) : Option String :=
  (valueIn? ((h.all "cookie").filterMap Headers.text?) name.toList).map String.ofList

def sessionName : String := "session_key"

/-- The lifetime of a session cookie in seconds. -/
def sessionMaxAge : Nat := 24 * 60 * 60

/-- The value of the header field that hands out a session key. -/
def session? (key : String) (secure : Bool) : Option Bytes :=
  Headers.value? (sessionName ++ "=" ++ key ++ "; Path=/; Max-Age=" ++ toString sessionMaxAge ++
    "; HttpOnly; SameSite=Lax" ++ (if secure then "; Secure" else ""))

end RpcGateway.Http.Cookie
