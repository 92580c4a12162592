import PodPolicy.Value.Display

/-!
# Writing JSON

Values that JSON knows are written with ASCII characters only. Octets, dates and
sets are refused, and so are mappings with a key that has no text.
-/

namespace PodPolicy

open Text

namespace Json

inductive Unwritable
  | value (kindName : String)
  | key (kindName : String)
deriving DecidableEq, Repr

/-- Separators, and the width of an indent where each item has its line. -/
structure Layout where
  itemSeparator : String
  keySeparator : String
  indent : Option Nat

def Layout.inline : Layout := ⟨", ", ": ", none⟩

def Layout.indented : Layout := ⟨",", ": ", some 2⟩

def codeUnit (n : Nat) : List Char :=
  '\\' :: 'u' :: hexDigits 4 n

def escaped (c : Char) : List Char :=
  match c with
  | '"' => ['\\', '"']
  | '\\' => ['\\', '\\']
  | '\n' => ['\\', 'n']
  | '\r' => ['\\', 'r']
  | '\t' => ['\\', 't']
  | '\x08' => ['\\', 'b']
  | '\x0c' => ['\\', 'f']
  | _ =>
    let n := c.toNat
    if 0x20 ≤ n ∧ n < 0x7f then [c]
    else if n < 0x10000 then codeUnit n
    else codeUnit (0xd800 + (n - 0x10000) / 0x400) ++ codeUnit (0xdc00 + (n - 0x10000) % 0x400)

def writeText (s : String) : String :=
  String.ofList ('"' :: (s.toList.flatMap escaped ++ ['"']))

def writeDouble : Numeral.Double → String
  | .nan => "NaN"
  | .infinite negative => if negative then "-Infinity" else "Infinity"
  | d => d.toText

def writeKey : Value → Except Unwritable String
  | .text s => .ok (writeText s)
  | .null => .ok (writeText "null")
  | .bool b => .ok (writeText (if b then "true" else "false"))
  | .int n => .ok (writeText (toString n))
  | .double d => .ok (writeText (writeDouble d))
  | v => .error (.key v.kindName)

/-- The start of a line at some depth; nothing where all is on one line. -/
def Layout.lineStart (layout : Layout) (depth : Nat) : String :=
  match layout.indent with
  | none => ""
  | some width => "\n" ++ String.ofList (List.replicate (width * depth) ' ')

def Layout.enclose (layout : Layout) (depth : Nat) (left right : String) (parts : List String) :
    String :=
  if parts.isEmpty then left ++ right
  else
    let start := layout.lineStart (depth + 1)
    left ++ start ++ (layout.itemSeparator ++ start).intercalate parts ++
      layout.lineStart depth ++ right

mutual
def writeAt (layout : Layout) (depth : Nat) : Value → Except Unwritable String
  | .null => .ok "null"
  | .bool true => .ok "true"
  | .bool false => .ok "false"
  | .int n => .ok (toString n)
  | .double d => .ok (writeDouble d)
  | .text s => .ok (writeText s)
  | .list items => do
    return layout.enclose depth "[" "]" (← writeItems layout (depth + 1) items)
  | .tuple items => do
    return layout.enclose depth "[" "]" (← writeItems layout (depth + 1) items)
  | .mapping entries => do
    return layout.enclose depth "\x7b" "\x7d" (← writeEntries layout (depth + 1) entries)
  | .bytes octets => .error (.value (Value.bytes octets).kindName)
  | .date d => .error (.value (Value.date d).kindName)
  | .dateTime t => .error (.value (Value.dateTime t).kindName)
  | .set items => .error (.value (Value.set items).kindName)
  | .endless => .error (.value Value.endless.kindName)
def writeItems (layout : Layout) (depth : Nat) : List Value → Except Unwritable (List String)
  | [] => .ok []
  | item :: rest => do
    let first ← writeAt layout depth item
    return first :: (← writeItems layout depth rest)
def writeEntries (layout : Layout) (depth : Nat) :
    List (Value × Value) → Except Unwritable (List String)
  | [] => .ok []
  | (key, value) :: rest => do
    let name ← writeKey key
    let content ← writeAt layout depth value
    return (name ++ layout.keySeparator ++ content) :: (← writeEntries layout depth rest)
end

def write (layout : Layout) (v : Value) : Except Unwritable String :=
  writeAt layout 0 v

end Json

end PodPolicy
