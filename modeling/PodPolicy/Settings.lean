import PodPolicy.Numeral.Integer
import PodPolicy.Text.Lowercase
import PodPolicy.Text.Quoted

/-!
# Settings

What the environment says. Rules to be switched off are listed between commas;
blanks around an id and empty pieces do not count.
-/

namespace PodPolicy

open Text Numeral

def pieces (separator : Char) : List Char → List (List Char)
  | [] => [[]]
  | c :: rest =>
    if c = separator then [] :: pieces separator rest
    else
      match pieces separator rest with
      | [] => [[c]]
      | piece :: more => (c :: piece) :: more

/-- The ids that a list between commas names, in order and with repetitions. -/
def ruleIds (s : String) : List String :=
  ((pieces ',' s.toList).map (trimBy isBlank)).filter (!·.isEmpty) |>.map String.ofList

abbrev Environment := List (String × String)

def Environment.get (environment : Environment) (name fallback : String) : String :=
  (environment.lookup name).getD fallback

structure Settings where
  logLevel : String
  disabledRules : List String
  mode : String
  host : String
  port : Int
  maxWorkers : Int
deriving DecidableEq, Repr

namespace Settings

structure Error where
  text : String
  problem : IntegerProblem
deriving DecidableEq, Repr

/-- How much of a quoted setting a message shows. -/
def shownLength : Nat := 200

def Error.message (e : Error) : String :=
  match e.problem with
  | .malformed =>
    "invalid literal for int() with base 10: " ++
      String.ofList ((quoted e.text).toList.take shownLength)
  | .tooLong digits =>
    s!"Exceeds the limit ({maxDecimalDigits} digits) for integer string conversion: " ++
      s!"value has {digits} digits; use sys.set_int_max_str_digits() to increase the limit"

def readNumber (s : String) : Except Error Int :=
  match readInteger 10 s with
  | .ok n => .ok n
  | .error problem => .error ⟨s, problem⟩

/-- The port is read before the number of workers. -/
def read (environment : Environment) : Except Error Settings := do
  let port ← readNumber (environment.get "KURE_POLICY_PORT" "8443")
  let maxWorkers ← readNumber (environment.get "KURE_POLICY_MAX_WORKERS" "1")
  return {
    logLevel := environment.get "KURE_POLICY_LOG_LEVEL" "INFO"
    disabledRules := ruleIds (environment.get "KURE_POLICY_DISABLED_RULES" "")
    mode := lower (environment.get "KURE_POLICY_MODE" "enforce")
    host := environment.get "KURE_POLICY_HOST" "0.0.0.0"
    port := port
    maxWorkers := maxWorkers }

end Settings

end PodPolicy
