import PodPolicy.Command.Arguments
import PodPolicy.Numeral.Integer

/-!
# Commands

What the program can be asked to do: check files, list the rules, or serve the
webhook.
-/

namespace PodPolicy

inductive Format
  | text
  | json
deriving DecidableEq, Repr

def Format.ofWord? : String → Option Format
  | "text" => some .text
  | "json" => some .json
  | _ => none

inductive Command
  /-- A rule to be left out may lack its name. -/
  | check (files : List String) (format : Format) (disabled : List (Option String))
  | rules
  | serve (host : Option String) (port : Option Int)
deriving DecidableEq, Repr

namespace Command

open Arguments Numeral

def readPort? (s : String) : Option Int :=
  (readInteger 10 s).toOption

def checkGrammar : Grammar where
  flags := [⟨"--format", fun s => (Format.ofWord? s).isSome⟩, ⟨"--disable", fun _ => true⟩]
  takesOperands := true

def rulesGrammar : Grammar where
  flags := []
  takesOperands := false

def serveGrammar : Grammar where
  flags := [⟨"--host", fun _ => true⟩, ⟨"--port", fun s => (readPort? s).isSome⟩]
  takesOperands := false

def readCheck (args : List String) : Except Usage Command := do
  let g ← Arguments.read checkGrammar args
  let format := ((g.last? "--format").bind Format.ofWord?).getD .text
  return .check g.operands format (g.all "--disable")

def readRules (args : List String) : Except Usage Command := do
  let _ ← Arguments.read rulesGrammar args
  return .rules

def readServe (args : List String) : Except Usage Command := do
  let g ← Arguments.read serveGrammar args
  return .serve (g.last? "--host") ((g.last? "--port").bind readPort?)

def readNamed (name : String) (args : List String) : Except Usage Command :=
  match name with
  | "check" => readCheck args
  | "rules" => readRules args
  | "serve" => readServe args
  | _ => .error .misuse

/-- Reads a command. No flag but help stands before its name; another one there
is misuse, unless help is asked for behind it. -/
def read : List String → Except Usage Command
  | [] => .error .misuse
  | s :: rest =>
    if s = divider then .error .misuse
    else
      match mark [shortHelp, longHelp] s with
      | .ok (.operand name) => readNamed name rest
      | .ok (.stop u) => .error u
      | .ok _ => (read rest).bind fun _ => .error .misuse
      | .error usage => .error usage

end Command

end PodPolicy
