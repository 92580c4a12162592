import PodPolicy.Value
import PodPolicy.Numeral.Integer
import PodPolicy.Numeral.Shortest
import PodPolicy.Text.Quoted

/-!
# Values in messages

Messages show a value either as it is, text without quotes, or as a literal,
text in quotes. Inside a collection all is literal. An integer that is too long
cannot be shown, nor can what holds one.
-/

namespace PodPolicy

open Text

def Date.literal (d : Date) : String :=
  s!"datetime.date({d.year}, {d.month}, {d.day})"

/-- A negative offset is shown as a day less and the rest of that day. -/
def offsetLiteral (minutes : Int) : String :=
  if minutes = 0 then "datetime.timezone.utc"
  else if minutes < 0 then
    s!"datetime.timezone(datetime.timedelta(days=-1, seconds={86400 + minutes * 60}))"
  else s!"datetime.timezone(datetime.timedelta(seconds={minutes * 60}))"

/-- Seconds and microseconds are left out where nothing but zeros follows. -/
def DateTime.literal (t : DateTime) : String :=
  let tail :=
    if t.microsecond ≠ 0 then s!", {t.second}, {t.microsecond}"
    else if t.second ≠ 0 then s!", {t.second}"
    else ""
  let offset := match t.offset with
    | none => ""
    | some minutes => ", tzinfo=" ++ offsetLiteral minutes
  s!"datetime.datetime({t.date.year}, {t.date.month}, {t.date.day}, {t.hour}, {t.minute}{tail}{offset})"

def commaSeparated (parts : List String) : String :=
  ", ".intercalate parts

namespace Value

mutual
def literal : Value → String
  | .null => "None"
  | .bool true => "True"
  | .bool false => "False"
  | .int n => toString n
  | .double d => d.toText
  | .text s => quoted s
  | .bytes octets => quotedOctets octets
  | .date d => d.literal
  | .dateTime t => t.literal
  | .list items => "[" ++ commaSeparated (literals items) ++ "]"
  | .tuple [item] => "(" ++ literal item ++ ",)"
  | .tuple items => "(" ++ commaSeparated (literals items) ++ ")"
  | .set [] => "set()"
  | .set items => "\x7b" ++ commaSeparated (literals items) ++ "\x7d"
  | .mapping entries => "\x7b" ++ commaSeparated (entryLiterals entries) ++ "\x7d"
  | .endless => "..."
def literals : List Value → List String
  | [] => []
  | item :: rest => literal item :: literals rest
def entryLiterals : List (Value × Value) → List String
  | [] => []
  | (key, value) :: rest => (literal key ++ ": " ++ literal value) :: entryLiterals rest
end

mutual
def isTellable : Value → Bool
  | .int n => Numeral.isTellable n
  | .list items | .tuple items | .set items => areTellable items
  | .mapping entries => entriesAreTellable entries
  | _ => true
def areTellable : List Value → Bool
  | [] => true
  | item :: rest => isTellable item && areTellable rest
def entriesAreTellable : List (Value × Value) → Bool
  | [] => true
  | (key, value) :: rest => isTellable key && isTellable value && entriesAreTellable rest
end

def display : Value → String
  | .text s => s
  | .date d => d.toText
  | .dateTime t => t.toText " "
  | v => v.literal

def kindName : Value → String
  | .null => "NoneType"
  | .bool _ => "bool"
  | .int _ => "int"
  | .double _ => "float"
  | .text _ => "str"
  | .bytes _ => "bytes"
  | .date _ => "date"
  | .dateTime _ => "datetime"
  | .list _ => "list"
  | .tuple _ => "tuple"
  | .set _ => "set"
  | .mapping _ => "dict"
  | .endless => "object"

end Value

end PodPolicy
