import PodPolicy.Command.Check
import PodPolicy.Settings
import PodPolicy.Webhook

/-!
# Running a command

The settings are read before the arguments. A run ends with what it prints and
an exit code, or it starts to serve, or a fault ends it.
-/

namespace PodPolicy

inductive Outcome
  | finished (exitCode : Nat) (output errors : String)
  | usage (u : Usage)
  | serving (webhook : Webhook) (host : String) (port : Int)
  | fault (f : Fault)

namespace Command

def compliantCode : Nat := 0
def violationsCode : Nat := 1
def errorCode : Nat := 2

/-- The outcome of a check; an obstacle that is told is the only thing printed. -/
def checkOutcome : Except Obstacle (String × Bool) → Outcome
  | .ok (output, complies) =>
    .finished (if complies then compliantCode else violationsCode) output ""
  | .error obstacle =>
    match obstacle, obstacle.message? with
    | .fault f, _ => .fault f
    | _, some message => .finished errorCode "" ("error: " ++ message ++ "\n")
    | _, none => .finished errorCode "" ""

def column (width : Nat) (word : String) : String :=
  word ++ String.ofList (List.replicate (width - word.length) ' ')

def ruleLine (info : RuleInfo) : String :=
  " ".intercalate
    [column 36 info.id, column 10 info.scope.word, column 9 info.severity.word, info.description]

def listing (infos : List RuleInfo) : String :=
  String.join (infos.map fun info => ruleLine info ++ "\n")

/-- An engine over the catalog, without what settings and arguments switch off. -/
def engineFor (settings : Settings) (disabled : List String) : Engine :=
  .make catalog (settings.disabledRules ++ disabled) settings.maxWorkers

def outcome (settings : Settings) (files : Files) : Command → Outcome
  | .check paths format disabled =>
    match disabled.mapM id with
    | none => .fault .namelessRule
    | some ids => checkOutcome (Check.print (engineFor settings ids) files paths format)
  | .rules => .finished compliantCode (listing (engineFor settings []).listRules) ""
  | .serve host port =>
    .serving (Webhook.ofSettings settings)
      ((host.filter (· ≠ "")).getD settings.host)
      ((port.filter (· ≠ 0)).getD settings.port)

def run (environment : Environment) (files : Files) (args : List String) : Outcome :=
  match Settings.read environment with
  | .error _ => .fault .unreadableSetting
  | .ok settings =>
    match read args with
    | .error u => .usage u
    | .ok command => command.outcome settings files

end Command

end PodPolicy
