import PodPolicy.Calendar
import PodPolicy.Numeral.Double

/-!
# Decoded values

What a document in YAML or JSON decodes to. A mapping keeps its entries in the
order of their keys' first appearance and has each key once. Keys that are equal
as numbers are one key, so `true`, `1` and `1.0` name the same entry.

A collection that holds itself is unrolled, deeper than any part of a manifest
that is looked at; what it holds below that is endless.
-/

namespace PodPolicy

open Numeral

inductive Value
  | null
  | bool (b : Bool)
  | int (n : Int)
  | double (d : Double)
  | text (s : String)
  | bytes (octets : List UInt8)
  | date (d : Date)
  | dateTime (t : DateTime)
  | list (items : List Value)
  | tuple (items : List Value)
  | set (items : List Value)
  | mapping (entries : List (Value × Value))
  | endless
deriving Inhabited, Repr

abbrev Entries := List (Value × Value)

namespace Value

-- -----------------------------------------------------------------------------
-- Equality
-- -----------------------------------------------------------------------------

mutual

def beq : Value → Value → Bool
  | .null, .null => true
  | .bool a, .bool b => a == b
  | .int m, .int n => m == n
  | .double c, .double d => c == d
  | .text s, .text t => s == t
  | .bytes s, .bytes t => s == t
  | .date s, .date t => s == t
  | .dateTime s, .dateTime t => s == t
  | .list as, .list bs => beqItems as bs
  | .tuple as, .tuple bs => beqItems as bs
  | .set as, .set bs => beqItems as bs
  | .mapping as, .mapping bs => beqEntries as bs
  | .endless, .endless => true
  | _, _ => false

def beqItems : List Value → List Value → Bool
  | [], [] => true
  | a :: as, b :: bs => beq a b && beqItems as bs
  | _, _ => false

def beqEntries : List (Value × Value) → List (Value × Value) → Bool
  | [], [] => true
  | (k, a) :: as, (l, b) :: bs => beq k l && beq a b && beqEntries as bs
  | _, _ => false

end

mutual

theorem beq_iff : (a b : Value) → (beq a b = true ↔ a = b)
  | .list as, b => by cases b <;> simp [beq, beqItems_iff as]
  | .tuple as, b => by cases b <;> simp [beq, beqItems_iff as]
  | .set as, b => by cases b <;> simp [beq, beqItems_iff as]
  | .mapping as, b => by cases b <;> simp [beq, beqEntries_iff as]
  | .null, b | .bool _, b | .int _, b | .double _, b | .text _, b | .bytes _, b
  | .date _, b | .dateTime _, b | .endless, b => by cases b <;> simp [beq]

theorem beqItems_iff : (as bs : List Value) → (beqItems as bs = true ↔ as = bs)
  | [], bs => by cases bs <;> simp [beqItems]
  | a :: as, [] => by simp [beqItems]
  | a :: as, b :: bs => by simp [beqItems, beq_iff a b, beqItems_iff as bs]

theorem beqEntries_iff : (as bs : List (Value × Value)) → (beqEntries as bs = true ↔ as = bs)
  | [], bs => by cases bs <;> simp [beqEntries]
  | (k, a) :: as, [] => by simp [beqEntries]
  | (k, a) :: as, (l, b) :: bs => by
    simp [beqEntries, beq_iff k l, beq_iff a b, beqEntries_iff as bs]

end

instance : DecidableEq Value := fun a b => decidable_of_iff _ (beq_iff a b)

-- -----------------------------------------------------------------------------
-- Keys
-- -----------------------------------------------------------------------------

/-- The number that a key counts as. -/
inductive Number
  | whole (n : Int)
  | broken (d : Double)

def number? : Value → Option Number
  | .bool b => some (.whole (if b then 1 else 0))
  | .int n => some (.whole n)
  | .double d => some (match d.toInt? with
    | some n => .whole n
    | none => .broken d)
  | _ => none

def Number.same : Number → Number → Bool
  | .whole m, .whole n => m == n
  | .broken c, .broken d => c.sameNumber d
  | _, _ => false

/-- Whether two values name the same entry of a mapping. -/
def sameKey (a b : Value) : Bool :=
  match a.number?, b.number? with
  | some m, some n => m.same n
  | none, none =>
    match a, b with
    | .null, .null => true
    | .text s, .text t => s == t
    | .bytes s, .bytes t => s == t
    | .date d, .date e => d == e
    | .dateTime t, .dateTime u => t.same u
    | _, _ => false
  | _, _ => false

/-- Collections that can change are no keys. -/
def isKey : Value → Bool
  | .list _ | .set _ | .mapping _ | .endless => false
  | _ => true

/-- Nothing, false, zero and all that is empty. -/
def isVoid : Value → Bool
  | .null => true
  | .bool b => !b
  | .int n => n == 0
  | .double d => d.isZero
  | .text s => s.isEmpty
  | .bytes octets => octets.isEmpty
  | .date _ => false
  | .dateTime _ => false
  | .list items => items.isEmpty
  | .tuple items => items.isEmpty
  | .set items => items.isEmpty
  | .mapping entries => entries.isEmpty
  | .endless => false

def isText (name : String) : Value → Bool
  | .text s => s == name
  | _ => false

/-- The first value unless it is void, else the second. -/
def orElse (first second : Value) : Value :=
  if first.isVoid then second else first

end Value

-- -----------------------------------------------------------------------------
-- Mappings
-- -----------------------------------------------------------------------------

namespace Keyed

variable {α : Type}

/-- What is new under a key that is there; else one more entry at the end. -/
def put (entries : List (Value × α)) (key : Value) (a : α) : List (Value × α) :=
  match entries with
  | [] => [(key, a)]
  | (k, b) :: rest => if k.sameKey key then (k, a) :: rest else (k, b) :: put rest key a

/-- The entries in order, a later one replacing an earlier one of the same key. -/
def ofList (entries : List (Value × α)) : List (Value × α) :=
  entries.foldl (fun made (key, a) => put made key a) []

end Keyed

namespace Entries

def put (entries : Entries) (key value : Value) : Entries :=
  Keyed.put entries key value

def ofList (entries : List (Value × Value)) : Entries :=
  Keyed.ofList entries

def get? (entries : Entries) (name : String) : Option Value :=
  (entries.find? fun entry => entry.1.isText name).map (·.2)

def get (entries : Entries) (name : String) : Value :=
  (entries.get? name).getD .null

def has (entries : Entries) (name : String) : Bool :=
  (entries.get? name).isSome

theorem has_eq (entries : Entries) (name : String) :
    entries.has name = (entries.get? name).isSome := rfl

theorem get_of_get? {entries : Entries} {name : String} {v : Value}
    (h : entries.get? name = some v) : entries.get name = v := by
  simp [get, h]

end Entries

def Value.record (fields : List (String × Value)) : Value :=
  .mapping (fields.map fun (name, value) => (.text name, value))

end PodPolicy
