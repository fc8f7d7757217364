import RpcGateway.Config.Decode
import RpcGateway.Config.Problems
import RpcGateway.Toml.Document

/-!
# Configuration files

A configuration is read from the text of a TOML file and taken only if it is valid. Loading fails
for the first of three causes: the file cannot be read as text, the text is no configuration, or
the configuration has problems.
-/

namespace RpcGateway.Config

/-- Why a file cannot be read as text. -/
inductive Unreadable where
  | missing
  | directory
  | notText
  | refused
deriving DecidableEq, Repr

inductive LoadError where
  | unreadable (why : Unreadable)
  | malformed
  | invalid (problems : List Problem)
deriving DecidableEq, Repr

def Unreadable.message : Unreadable → String
  | missing => "no such file"
  | directory => "is a directory"
  | notText => "stream did not contain valid UTF-8"
  | refused => "permission denied"

def LoadError.message : LoadError → String
  | unreadable why => "IO error: " ++ why.message
  | malformed => "Parse error: not a configuration"
  | invalid ps => Problem.summary ps

/-- The configuration, if it has no problems. -/
def checked (c : Config) : Except LoadError Config :=
  if c.accepted then .ok c else .error (.invalid c.problems)

def ofData (d : Dialect) (data : Option Json.Value) : Except LoadError Config :=
  match data.bind (decode? d) with
  | some c => checked c
  | none => .error .malformed

def ofText (text : String) : Except LoadError Config := ofData Dialect.toml (Toml.read? text)

/-- The configuration in a file with the given octets. -/
def ofFile (content : Except Unreadable Bytes) : Except LoadError Config :=
  match content with
  | .error why => .error (.unreadable why)
  | .ok octets =>
    match Utf8.decode? octets with
    | some text => ofText text
    | none => .error (.unreadable .notText)

end RpcGateway.Config
