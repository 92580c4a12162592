import PodPolicy.Manifest.Scalar

/-!
# Schemas

A schema declares the shape of a value, and gives three things: the type of
values of that shape, the check that reads a decoded value into it, and the
decoded value that is written for it. Records name their fields in two
spellings, keep entries that they do not declare, and remember which of the
declared ones were given.
-/

namespace PodPolicy

/-- What becomes of a field that is absent or null. -/
inductive Presence
  /-- It must be given, and not as null. -/
  | required
  /-- It may be absent or null. -/
  | optional
  /-- It may be absent, and null stands for an empty value. -/
  | collapsing
  /-- It may be absent, but not null. -/
  | preset
deriving DecidableEq, Repr

/-- The first spelling wins where both are given. -/
structure Field where
  key : String
  spelling : String
  presence : Presence
deriving DecidableEq, Repr

mutual
inductive Schema
  | bool
  | int
  | text
  | quantity
  | label
  | any
  | list (item : Schema)
  | dict (item : Schema)
  | record (name : String) (fields : Fields)
inductive Fields
  | nil
  | cons (field : Field) (schema : Schema) (rest : Fields)
end

/-- The value of a field: which of absent, null and present it was. -/
@[reducible]
def Presence.Slot (α : Type) : Presence → Type
  | .required => α
  | .optional => Option (Option α)
  | .collapsing => Option α
  | .preset => Option α

mutual
/-- The values of a shape. -/
@[reducible]
def Schema.Form : Schema → Type
  | .bool => Bool
  | .int => Int
  | .text => String
  | .quantity => String
  | .label => String
  | .any => Value
  | .list item => List item.Form
  | .dict item => List (String × item.Form)
  | .record _ fields => fields.Form × List (String × Value)
@[reducible]
def Fields.Form : Fields → Type
  | .nil => Unit
  | .cons field schema rest => field.presence.Slot schema.Form × rest.Form
end

-- -----------------------------------------------------------------------------
-- Checking
-- -----------------------------------------------------------------------------

namespace Field

/-- The spelling under which a field is given, and its value. -/
def given? (field : Field) (entries : Entries) : Option (String × Value) :=
  match entries.get? field.key with
  | some v => some (field.key, v)
  | none => (entries.get? field.spelling).map (field.spelling, ·)

end Field

/-- What null stands for in a field that collapses it. -/
def Schema.empty : Schema → Value
  | .list _ => .list []
  | _ => .mapping []

def Value.collapse (v empty : Value) : Value :=
  match v with
  | .null => empty
  | v => v

namespace Presence

variable {α : Type}

/-- Reads a field that is given. -/
def readGiven (check : Value → Checked α) (empty : Value) :
    (p : Presence) → Value → Checked (p.Slot α)
  | .required, v => check v
  | .optional, .null => .ok (some none)
  | .optional, v => (check v).map fun a => some (some a)
  | .collapsing, v => (check (v.collapse empty)).map some
  | .preset, v => (check v).map some

def readAbsent (key : String) : (p : Presence) → Checked (p.Slot α)
  | .required => .error [⟨[.name key], .missing⟩]
  | .optional => .ok none
  | .collapsing => .ok none
  | .preset => .ok none

end Presence

def Field.check {α : Type} (field : Field) (check : Value → Checked α) (empty : Value)
    (entries : Entries) : Checked (field.presence.Slot α) :=
  match field.given? entries with
  | some (spelling, v) => (field.presence.readGiven check empty v).within (.name spelling)
  | none => field.presence.readAbsent field.key

/-- Entries by name; a later one replaces an earlier one of the same name. -/
def putNamed {α : Type} (made : List (String × α)) (name : String) (a : α) : List (String × α) :=
  match made with
  | [] => [(name, a)]
  | (n, b) :: rest => if n = name then (n, a) :: rest else (n, b) :: putNamed rest name a

def named {α : Type} (entries : List (String × α)) : List (String × α) :=
  entries.foldl (fun made (name, a) => putNamed made name a) []

/-- Checks the entries of a mapping in order, the key of each before its value. -/
def checkEntries {α : Type} (check : Value → Checked α) : Entries → Checked (List (String × α))
  | [] => .ok []
  | (key, value) :: rest =>
    let name := ((Checked.ofExcept (Scalar.readText key)).within .keyMark).within (.ofKey key)
    let content := (check value).within (.ofKey key)
    ((name.both content).both (checkEntries check rest)).map fun (entry, more) => entry :: more

def checkExtras (taken : List String) : Entries → Checked (List (String × Value))
  | [] => .ok []
  | (.text name, value) :: rest =>
    let more := checkExtras taken rest
    if taken.contains name then more else more.map ((name, value) :: ·)
  | (key, _) :: rest =>
    let here : Checked Unit := (Checked.refuse .keyNotText).within (.key key)
    (here.both (checkExtras taken rest)).map (·.2)

def Fields.taken (entries : Entries) : Fields → List String
  | .nil => []
  | .cons field _ rest =>
    ((field.given? entries).map (·.1)).toList ++ rest.taken entries

mutual
def Schema.check : (s : Schema) → Value → Checked s.Form
  | .bool, v => .ofExcept (Scalar.readBool v)
  | .int, v => .ofExcept (Scalar.readInt v)
  | .text, v => .ofExcept (Scalar.readText v)
  | .quantity, v => .ofExcept (Scalar.readQuantity v)
  | .label, v => .ofExcept (Scalar.readLabel v)
  | .any, v => .ok v
  | .list item, v =>
    match v with
    | .list items | .tuple items | .set items => Checked.items item.check items
    | _ => .refuse .notList
  | .dict item, v =>
    match v with
    | .mapping entries => (checkEntries item.check entries).map named
    | _ => .refuse .notMapping
  | .record name fields, v =>
    match v with
    | .mapping entries =>
      (fields.check entries).both (checkExtras (fields.taken entries) entries)
    | _ => .refuse (.notRecord name)
def Fields.check : (fs : Fields) → Entries → Checked fs.Form
  | .nil, _ => .ok ()
  | .cons field schema rest, entries =>
    (field.check schema.check schema.empty entries).both (rest.check entries)
end

-- -----------------------------------------------------------------------------
-- Writing
-- -----------------------------------------------------------------------------

mutual
/-- The value of a field of this shape that is absent and has a default. -/
def Schema.blank : Schema → Value
  | .list _ => .list []
  | .dict _ => .mapping []
  | .record _ fields => .record fields.blank
  | _ => .null
def Fields.blank : Fields → List (String × Value)
  | .nil => []
  | .cons field schema rest =>
    match field.presence with
    | .optional => (field.key, .null) :: rest.blank
    | .collapsing => (field.key, schema.blank) :: rest.blank
    | _ => rest.blank
end

def Presence.write {α : Type} (write : α → Value) (blank : Option Value) :
    (p : Presence) → p.Slot α → Option Value
  | .required, a => some (write a)
  | .optional, none => blank.map fun _ => .null
  | .optional, some none => some .null
  | .optional, some (some a) => some (write a)
  | .collapsing, none => blank
  | .collapsing, some a => some (write a)
  | .preset, none => none
  | .preset, some a => some (write a)

mutual
/-- The value in the spelling of the schema. With `defaults`, fields that were
absent are written too. -/
def Schema.write (defaults : Bool) : (s : Schema) → s.Form → Value
  | .bool, b => .bool b
  | .int, n => .int n
  | .text, s => .text s
  | .quantity, s => .text s
  | .label, s => .text s
  | .any, v => v
  | .list item, items => .list (items.map (item.write defaults))
  | .dict item, entries => .record (entries.map fun (name, a) => (name, item.write defaults a))
  | .record _ fields, (declared, extras) => .record (fields.write defaults declared ++ extras)
def Fields.write (defaults : Bool) : (fs : Fields) → fs.Form → List (String × Value)
  | .nil, _ => []
  | .cons field schema rest, (slot, more) =>
    let blank := if defaults then some schema.blank else none
    ((field.presence.write (schema.write defaults) blank slot).map (field.key, ·)).toList ++
      rest.write defaults more
end

end PodPolicy
