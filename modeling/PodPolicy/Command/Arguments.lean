import PodPolicy.Text.Digit

/-!
# Arguments

Flags start with a dash and take one value, except for those that ask for help.
A long name may be shortened as long as one flag is meant. Operands stand side
by side; after two dashes all is operand, and a flag that two dashes are attached
to is left without a value. Arguments that nothing asks for are misuse, but only
if no one asks for help first.
-/

namespace PodPolicy

/-- Why there is no command to run. -/
inductive Usage
  | help
  | misuse
deriving DecidableEq, Repr

def Usage.exitCode : Usage → Nat
  | .help => 0
  | .misuse => 2

namespace Arguments

/-- A flag with a value. -/
structure Flag where
  name : String
  accepts : String → Bool

structure Grammar where
  flags : List Flag
  takesOperands : Bool

def shortHelp : String := "-h"
def longHelp : String := "--help"

def divider : String := "--"

def Grammar.names (g : Grammar) : List String :=
  shortHelp :: longHelp :: g.flags.map (·.name)

/-- What an argument is. -/
inductive Mark
  | operand (s : String)
  | divider
  | flag (name : String) (attached : Option String)
  /-- Help is asked for, or in a way that is misuse. -/
  | stop (u : Usage)
  | unknown
deriving DecidableEq, Repr

-- -----------------------------------------------------------------------------
-- Single arguments
-- -----------------------------------------------------------------------------

def splitAttached (cs : List Char) : String × Option String :=
  let before := cs.takeWhile (· ≠ '=')
  match cs.dropWhile (· ≠ '=') with
  | _ :: after => (String.ofList before, some (String.ofList after))
  | [] => (String.ofList before, none)

/-- A dash before digits with at most one point in front of the last of them; a
line feed may follow. -/
def isNegativeNumber (cs : List Char) : Bool :=
  let cs := if cs.getLast? = some '\n' then cs.dropLast else cs
  match cs with
  | '-' :: rest =>
    match rest.dropWhile Text.isDigit with
    | [] => !rest.isEmpty
    | '.' :: places => !places.isEmpty && places.all Text.isDigit
    | _ => false
  | _ => false

/-- What letters behind the short name for help ask for: help again if each of
them repeats the name. -/
def repeatUsage (letters : List Char) : Usage :=
  if letters.all (· == 'h') then .help else .misuse

/-- Help takes no value, but the short name may be repeated behind an equals sign. -/
def flagMark (name : String) (attached : Option String) : Mark :=
  if name = shortHelp ∨ name = longHelp then
    match attached with
    | none => .stop .help
    | some value =>
      .stop (if name = shortHelp ∧ value ≠ "" then repeatUsage value.toList else .misuse)
  else .flag name attached

/-- The flags that a shortened or attached form may mean. -/
def meant (names : List String) (cs : List Char) : List Mark :=
  match cs with
  | '-' :: '-' :: _ =>
    let (start, attached) := splitAttached cs
    (names.filter (start.toList.isPrefixOf ·.toList)).map (flagMark · attached)
  | '-' :: 'h' :: letters => [.stop (repeatUsage letters)]
  | _ => []

def markOther (cs : List Char) : Mark :=
  if isNegativeNumber cs || cs.contains ' ' then .operand (String.ofList cs) else .unknown

def markDashed (names : List String) (s : String) : Except Usage Mark :=
  let (start, attached) := splitAttached s.toList
  if names.contains s then .ok (flagMark s none)
  else if attached.isSome && names.contains start then .ok (flagMark start attached)
  else
    match meant names s.toList with
    | [] => .ok (markOther s.toList)
    | [mark] => .ok mark
    | _ => .error .misuse

def mark (names : List String) (s : String) : Except Usage Mark :=
  match s.toList with
  | '-' :: _ :: _ => markDashed names s
  | _ => .ok (.operand s)

/-- Marks arguments; those after two dashes are operands. -/
def marks (names : List String) : List String → Except Usage (List Mark)
  | [] => .ok []
  | s :: rest =>
    if s = divider then .ok (.divider :: rest.map .operand)
    else do
      let m ← mark names s
      return m :: (← marks names rest)

-- -----------------------------------------------------------------------------
-- Whole command lines
-- -----------------------------------------------------------------------------

structure Given where
  /-- Values of flags by name, in order; a flag may be left without one. -/
  values : List (String × Option String) := []
  operands : List String := []
  hasOperands : Bool := false
  hasSurplus : Bool := false

namespace Given

def add (g : Given) (name : String) (value : Option String) : Given :=
  { g with values := g.values ++ [(name, value)] }

def all (g : Given) (name : String) : List (Option String) :=
  (g.values.filter (·.1 = name)).map (·.2)

/-- The value that a flag was given last, if it was not left without one then. -/
def last? (g : Given) (name : String) : Option String :=
  (g.all name).getLast?.join

end Given

def isLoose : Mark → Bool
  | .operand _ | .divider => true
  | _ => false

def operandOf? : Mark → Option String
  | .operand s => some s
  | _ => none

def takeValue (grammar : Grammar) (g : Given) (name value : String) : Except Usage Given :=
  if (grammar.flags.find? (·.name = name)).any (·.accepts value) then .ok (g.add name (some value))
  else .error .misuse

/-- Two dashes are a divider behind an equals sign too, and no value. -/
def takeAttached (grammar : Grammar) (g : Given) (name value : String) : Except Usage Given :=
  if value = divider then .ok (g.add name none) else takeValue grammar g name value

/-- Takes operands side by side. They are surplus where none are wanted, or others
stand elsewhere. -/
def takeOperands (grammar : Grammar) (g : Given) (run : List Mark) : Given :=
  let found := run.filterMap operandOf?
  if grammar.takesOperands && !g.hasOperands && !found.isEmpty then
    { g with operands := found, hasOperands := true }
  else { g with hasSurplus := true }

def readMarks (grammar : Grammar) (fuel : Nat) (g : Given) (ms : List Mark) : Except Usage Given :=
  match fuel, ms with
  | fuel + 1, .unknown :: rest => readMarks grammar fuel { g with hasSurplus := true } rest
  | _, .stop u :: _ => .error u
  | fuel + 1, .flag name (some value) :: rest => do
    readMarks grammar fuel (← takeAttached grammar g name value) rest
  | fuel + 1, .flag name none :: .operand value :: rest => do
    readMarks grammar fuel (← takeValue grammar g name value) rest
  | _, .flag _ none :: _ => .error .misuse
  | fuel + 1, m :: rest =>
    readMarks grammar fuel (takeOperands grammar g (m :: rest.takeWhile isLoose))
      (rest.dropWhile isLoose)
  | _, _ => .ok g

def read (grammar : Grammar) (args : List String) : Except Usage Given := do
  let ms ← marks grammar.names args
  let g ← readMarks grammar ms.length {} ms
  if g.hasSurplus || (grammar.takesOperands && !g.hasOperands) then .error .misuse
  else return g

end Arguments

end PodPolicy
