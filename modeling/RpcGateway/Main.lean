import RpcGateway.Config.File
import RpcGateway.Gateway.Pipeline

/-!
# Command line

Checks a configuration: the file named by `--config`, or the built-in one. The gateway that it
describes is built, and its services are listed.
-/

namespace RpcGateway.CommandLine

structure Options where
  config : Option String := none

inductive UsageError where
  | valueMissing (option : String)
  | unknown (argument : String)
deriving DecidableEq, Repr

def UsageError.message : UsageError → String
  | valueMissing o => "a value is required for " ++ o
  | unknown a => "unexpected argument " ++ a

def parse (o : Options) : List String → Except UsageError Options
  | [] => .ok o
  | [a] => if a = "-c" ∨ a = "--config" then .error (.valueMissing a) else .error (.unknown a)
  | a :: b :: r =>
    if a = "-c" ∨ a = "--config" then parse { o with config := some b } r else .error (.unknown a)

def serviceLine (s : Config.Service) : String :=
  s.name ++ " at " ++ s.address ++ ", routes: " ++ toString s.routes.length

/-- What is told of a configuration, or why it makes no gateway. -/
def report (c : Config) : Except String (List String) :=
  match Gateway.build? c (Calls.Registry.ofConfig c 0).services false .counted with
  | some _ => .ok (("listening on " ++ c.listener.bindAddress) :: c.services.map serviceLine)
  | none => .error "the routes and limits of this configuration make no gateway"

def load (o : Options) : IO (Except Config.LoadError Config) := do
  match o.config with
  | none => return .ok {}
  | some path =>
    try
      let octets ← IO.FS.readBinFile path
      return Config.ofFile (.ok octets.toList)
    catch
      | .noFileOrDirectory .. => return .error (.unreadable .missing)
      | .inappropriateType .. => return .error (.unreadable .directory)
      | _ => return .error (.unreadable .refused)

def run (arguments : List String) : IO (Except String (List String)) := do
  match parse {} arguments with
  | .error e => return .error e.message
  | .ok o =>
    match ← load o with
    | .error e => return .error e.message
    | .ok c => return report c

end RpcGateway.CommandLine

def main (arguments : List String) : IO UInt32 := do
  match ← RpcGateway.CommandLine.run arguments with
  | .ok lines =>
    lines.forM IO.println
    return 0
  | .error message =>
    IO.eprintln message
    return 1
