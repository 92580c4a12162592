import PodPolicy.Command.Run

/-!
# The command line

Reads the environment, the files that are asked for and the arguments, and
prints the outcome. A webhook takes its requests from standard input, one a
line: the method, the path and the body.
-/

namespace PodPolicy.Main

def settingNames : List String :=
  ["LOG_LEVEL", "DISABLED_RULES", "MODE", "HOST", "PORT", "MAX_WORKERS"].map ("KURE_POLICY_" ++ ·)

def environment : IO Environment := do
  let found ← settingNames.mapM fun name => do
    return (← IO.getEnv name).map (name, ·)
  return found.filterMap id

def stateOfError : IO.Error → FileState
  | .noFileOrDirectory .. => .missing
  | .inappropriateType _ 20 _ => .belowFile
  | .inappropriateType .. => .directory
  | .invalidArgument _ 36 _ => .tooLong
  | .permissionDenied _ code reason | .invalidArgument _ code reason
  | .resourceExhausted _ code reason | .noSuchThing _ code reason
  | .alreadyExists _ code reason | .interrupted _ code reason
  | .otherError code reason | .hardwareFault code reason | .resourceBusy code reason
  | .resourceVanished code reason | .unsupportedOperation code reason
  | .unsatisfiedConstraints code reason | .illegalOperation code reason
  | .protocolError code reason | .timeExpired code reason => .refused code.toNat reason
  | .unexpectedEof | .userError _ => .missing

def fileState (path : String) : IO FileState := do
  try
    return .octets (← IO.FS.readBinFile path).data.toList
  catch e => return stateOfError e

def readFiles (args : List String) : IO Files := do
  let paths := match Command.read args with
    | .ok (.check paths _ _) => paths.map Path.shorten
    | _ => []
  let states ← paths.mapM fun path => do return (path, ← fileState path)
  return fun path => (states.lookup path).getD .missing

/-- A request on one line. -/
def requestOf (line : String) : Webhook.Request :=
  match line.splitOn " " with
  | method :: path :: rest => ⟨method, path, (" ".intercalate rest).toUTF8.data.toList⟩
  | _ => ⟨line, "", []⟩

partial def serve (webhook : Webhook) (input : IO.FS.Stream) : IO Unit := do
  let line ← input.getLine
  unless line.isEmpty do
    let response := webhook.respond (requestOf line.trimAscii.toString)
    let body := (Json.write .inline response.body).toOption.getD ""
    IO.println s!"{response.status} {body}"
    serve webhook input

def finish : Outcome → IO UInt32
  | .finished exitCode output errors => do
    IO.print output
    IO.eprint errors
    return exitCode.toUInt32
  | .usage u => do
    IO.eprintln "usage: kure-policy (check FILE... | rules | serve)"
    return u.exitCode.toUInt32
  | .fault f => do
    IO.eprintln f.label
    return 1
  | .serving webhook host port => do
    IO.println s!"{Webhook.title} for {host} port {port}"
    serve webhook (← IO.getStdin)
    return 0

end PodPolicy.Main

def main (args : List String) : IO UInt32 := do
  let environment ← PodPolicy.Main.environment
  let files ← PodPolicy.Main.readFiles args
  PodPolicy.Main.finish (PodPolicy.Command.run environment files args)
