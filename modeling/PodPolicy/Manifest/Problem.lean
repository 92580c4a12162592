import PodPolicy.Numeral.Integer
import PodPolicy.Value.Display

/-!
# Problems found in a manifest

A problem says where it stands, as a path from the root, and why the value there
is refused. A manifest may have many; they are listed in the order of the
declarations that they break.
-/

namespace PodPolicy

open Numeral

inductive Cause
  | missing
  | notBool
  | unreadableBool
  | notInt
  | unreadableInt
  | fractional
  | notFinite
  | oversized
  | notText
  | notUnicode
  | untellable
  | notList
  | notMapping
  | notRecord (name : String)
  | keyNotText
deriving DecidableEq, Repr

def Cause.message : Cause → String
  | .missing => "Field required"
  | .notBool => "Input should be a valid boolean"
  | .unreadableBool => "Input should be a valid boolean, unable to interpret input"
  | .notInt => "Input should be a valid integer"
  | .unreadableInt => "Input should be a valid integer, unable to parse string as an integer"
  | .fractional => "Input should be a valid integer, got a number with a fractional part"
  | .notFinite => "Input should be a finite number"
  | .oversized => "Unable to parse input string as an integer, exceeded maximum size"
  | .notText => "Input should be a valid string"
  | .notUnicode => "Input should be a valid string, unable to parse raw data as a unicode string"
  | .untellable =>
    s!"Value error, Exceeds the limit ({maxDecimalDigits} digits) for integer string conversion; " ++
      "use sys.set_int_max_str_digits() to increase the limit"
  | .notList => "Input should be a valid list"
  | .notMapping => "Input should be a valid dictionary"
  | .notRecord name => s!"Input should be a valid dictionary or instance of {name}"
  | .keyNotText => "Keys should be strings"

/-- One step of a path: into a field or an entry, into a list, to an entry whose
key is no text, or to the key itself. -/
inductive Step
  | name (s : String)
  | index (i : Nat)
  | key (k : Value)
  | keyMark

def Step.ofKey : Value → Step
  | .text s => .name s
  | k => .key k

def Step.toText : Step → String
  | .name s => s
  | .index i => toString i
  | .key (.bool b) => if b then "1" else "0"
  | .key (.int n) => if isTellable n then toString n else "<unprintable int object>"
  | .key k => k.literal
  | .keyMark => "[key]"

structure Problem where
  path : List Step
  cause : Cause

def Problem.toText (p : Problem) : String :=
  ".".intercalate (p.path.map Step.toText) ++ ": " ++ p.cause.message

def Problem.within (step : Step) (p : Problem) : Problem :=
  { p with path := step :: p.path }

-- -----------------------------------------------------------------------------
-- Checking
-- -----------------------------------------------------------------------------

/-- A result, or all problems that stand in its way. -/
abbrev Checked := Except (List Problem)

namespace Checked

variable {α β : Type}

def refuse (cause : Cause) : Checked α :=
  .error [⟨[], cause⟩]

def ofExcept : Except Cause α → Checked α
  | .ok a => .ok a
  | .error cause => refuse cause

/-- Neither part hides the problems of the other. -/
def both : Checked α → Checked β → Checked (α × β)
  | .ok a, .ok b => .ok (a, b)
  | .ok _, .error q => .error q
  | .error p, .ok _ => .error p
  | .error p, .error q => .error (p ++ q)

def within (step : Step) : Checked α → Checked α
  | .ok a => .ok a
  | .error problems => .error (problems.map (Problem.within step))

def problems : Checked α → List Problem
  | .ok _ => []
  | .error found => found

def itemsFrom (check : Value → Checked α) : Nat → List Value → Checked (List α)
  | _, [] => .ok []
  | i, item :: rest =>
    ((within (.index i) (check item)).both (itemsFrom check (i + 1) rest)).map
      fun (a, as) => a :: as

def items (check : Value → Checked α) (values : List Value) : Checked (List α) :=
  itemsFrom check 0 values

theorem both_ok {a : Checked α} {b : Checked β} {c : α × β} :
    a.both b = .ok c ↔ a = .ok c.1 ∧ b = .ok c.2 := by
  cases a <;> cases b <;> simp [both, Prod.ext_iff]

theorem problems_both (a : Checked α) (b : Checked β) :
    (a.both b).problems = a.problems ++ b.problems := by
  cases a <;> cases b <;> simp [both, problems]

theorem problems_within (step : Step) (a : Checked α) :
    (a.within step).problems = a.problems.map (Problem.within step) := by
  cases a <;> simp [within, problems]

end Checked

end PodPolicy
