import PodPolicy.Json.Writer
import PodPolicy.Proofs.Names
import PodPolicy.Proofs.Tellable

/-!
# Values of JSON

`Json.read_isJson`: what is read from JSON is made of the six kinds of value that
JSON knows, with one entry for each name and integers short enough to be told. Lists
and mappings can be written where what they hold can.
-/

namespace PodPolicy

inductive Value.IsJson : Value → Prop
  | null : IsJson .null
  | bool {b : Bool} : IsJson (.bool b)
  | int {n : Int} (h : Numeral.isTellable n = true) : IsJson (.int n)
  | double {d : Numeral.Double} : IsJson (.double d)
  | text {s : String} : IsJson (.text s)
  | list {items : List Value} (h : ∀ item ∈ items, item.IsJson) : IsJson (.list items)
  | mapping {fields : List (String × Value)} (hnames : (fields.map Prod.fst).Nodup)
      (h : ∀ field ∈ fields, field.2.IsJson) : IsJson (.mapping (Entries.ofNames fields))

variable {v : Value} {entries : Entries} {fields : List (String × Value)}

namespace Value

namespace IsJson

theorem isTellable (h : v.IsJson) : v.isTellable = true := by
  induction h with
  | int h =>
    rw [Value.isTellable]
    exact h
  | list _ ih => exact isTellable_list.mpr ih
  | mapping _ _ ih =>
    refine isTellable_mapping.mpr fun entry hentry => ?_
    obtain ⟨field, hfield, rfl⟩ := List.mem_map.mp hentry
    exact ⟨rfl, ih field hfield⟩
  | _ => rfl

theorem ofNames (h : (Value.mapping entries).IsJson) : ∃ fields : List (String × Value),
    Entries.ofNames fields = entries ∧ (fields.map Prod.fst).Nodup ∧
      ∀ field ∈ fields, field.2.IsJson := by
  cases h with
  | mapping hnames h => exact ⟨_, rfl, hnames, h⟩

theorem get (h : (Value.mapping entries).IsJson) {name : String} : (entries.get name).IsJson := by
  unfold Entries.get
  cases hfound : entries.get? name with
  | none => exact .null
  | some w =>
    obtain ⟨entry, hentry, rfl⟩ := Option.map_eq_some_iff.mp hfound
    obtain ⟨fields, rfl, -, hfields⟩ := h.ofNames
    obtain ⟨field, hfield, rfl⟩ := List.mem_map.mp (List.mem_of_find?_eq_some hentry)
    exact hfields field hfield

end IsJson

end Value

-- -----------------------------------------------------------------------------
-- Reading
-- -----------------------------------------------------------------------------

namespace Json

variable {cs rest : List Char}

theorem readNumber_isJson (h : readNumber cs = .ok (v, rest)) : v.IsJson := by
  have htellable := readNumber_tellable h
  unfold readNumber at h
  split at h
  split at h
  · cases h
  · split at h
    split at h
    split at h
    · split at h
      · cases h
      · obtain ⟨rfl, -⟩ := Prod.mk.inj (Except.ok.inj h)
        rw [Value.isTellable] at htellable
        exact .int htellable
    · obtain ⟨rfl, -⟩ := Prod.mk.inj (Except.ok.inj h)
      exact .double

theorem readAtom_isJson (h : readAtom cs = .ok (v, rest)) : v.IsJson := by
  unfold readAtom at h
  split at h
  · rename_i word found hfound
    cases h
    have hword := List.mem_of_find?_eq_some hfound
    simp only [words, List.mem_cons, List.not_mem_nil, or_false, Prod.mk.injEq] at hword
    obtain ⟨-, rfl⟩ | ⟨-, rfl⟩ | ⟨-, rfl⟩ | ⟨-, rfl⟩ | ⟨-, rfl⟩ | ⟨-, rfl⟩ := hword
    all_goals constructor
  · exact readNumber_isJson h

/-- By induction on the fuel, for values, items and members at once. -/
theorem readValue_isJson (fuel : Nat) :
    (∀ cs v rest, readValue fuel cs = .ok (v, rest) → v.IsJson) ∧
    (∀ cs items rest, readItems fuel cs = .ok (items, rest) → ∀ item ∈ items, item.IsJson) ∧
    (∀ cs members rest, readMembers fuel cs = .ok (members, rest) →
      ∃ fields : List (String × Value), members = Entries.ofNames fields ∧
        ∀ field ∈ fields, field.2.IsJson) := by
  induction fuel with
  | zero =>
    refine ⟨?_, ?_, ?_⟩ <;> intro cs found rest h
    · simp [readValue] at h
    · simp [readItems] at h
    · simp [readMembers] at h
  | succ fuel ih =>
    obtain ⟨ihValue, ihItems, ihMembers⟩ := ih
    refine ⟨?value, ?items, ?members⟩
    case value =>
      intro cs v rest h
      unfold readValue at h
      split at h
      · cases h
      · obtain ⟨⟨s, _⟩, -, h⟩ := bind_ok.mp h
        cases pure_ok.mp h
        exact .text
      · split at h
        · cases h
          exact .list nofun
        · obtain ⟨⟨items, _⟩, hitems, h⟩ := bind_ok.mp h
          cases pure_ok.mp h
          exact .list (ihItems _ _ _ hitems)
      · split at h
        · cases h
          exact (.mapping List.nodup_nil nofun : (Value.mapping (Entries.ofNames [])).IsJson)
        · obtain ⟨⟨members, _⟩, hmembers, h⟩ := bind_ok.mp h
          cases pure_ok.mp h
          obtain ⟨fields, rfl, hfields⟩ := ihMembers _ _ _ hmembers
          rw [Entries.ofList_ofNames]
          exact .mapping named_nodup fun field hfield => hfields field (named_mem hfield)
      · exact readAtom_isJson h
    case items =>
      intro cs items rest h
      unfold readItems at h
      obtain ⟨⟨item, _⟩, hitem, h⟩ := bind_ok.mp h
      have hhead := ihValue _ _ _ hitem
      dsimp only at h
      split at h
      · cases pure_ok.mp h
        simpa using hhead
      · obtain ⟨⟨more, _⟩, hmore, h⟩ := bind_ok.mp h
        cases pure_ok.mp h
        simpa [hhead] using ihItems _ _ _ hmore
      · cases h
    case members =>
      intro cs members rest h
      unfold readMembers at h
      obtain ⟨⟨name, _⟩, -, h⟩ := bind_ok.mp h
      obtain ⟨_, -, h⟩ := bind_ok.mp h
      obtain ⟨⟨value, _⟩, hvalue, h⟩ := bind_ok.mp h
      have hhead := ihValue _ _ _ hvalue
      dsimp only at h
      split at h
      · cases pure_ok.mp h
        exact ⟨[(name, value)], rfl, by simpa using hhead⟩
      · obtain ⟨⟨more, _⟩, hmore, h⟩ := bind_ok.mp h
        cases pure_ok.mp h
        obtain ⟨fields, rfl, hfields⟩ := ihMembers _ _ _ hmore
        exact ⟨(name, value) :: fields, rfl, List.forall_mem_cons.mpr ⟨hhead, hfields⟩⟩
      · cases h

theorem read_isJson {s : String} (h : read s = .ok v) : v.IsJson := by
  dsimp only [read] at h
  split at h
  · rename_i found hwhole
    cases h
    obtain ⟨⟨v, _⟩, hvalue, h⟩ := bind_ok.mp hwhole
    dsimp only at h
    split at h
    · cases pure_ok.mp h
      exact (readValue_isJson _).1 _ _ _ hvalue
    · cases h
  · cases h

-- -----------------------------------------------------------------------------
-- Writing
-- -----------------------------------------------------------------------------

section
variable {layout : Layout} {depth : Nat}

theorem exists_writeItems {items : List Value} :
    (∃ parts, writeItems layout depth items = .ok parts) ↔
      ∀ item ∈ items, ∃ s, writeAt layout depth item = .ok s := by
  induction items with
  | nil => exact iff_of_true ⟨[], by rw [writeItems]⟩ nofun
  | cons item rest ih =>
    rw [List.forall_mem_cons, ← ih, writeItems]
    simp only [bind_ok, pure_ok]
    constructor
    · rintro ⟨_, first, hfirst, parts, hparts, -⟩
      exact ⟨⟨first, hfirst⟩, parts, hparts⟩
    · rintro ⟨⟨first, hfirst⟩, parts, hparts⟩
      exact ⟨_, first, hfirst, parts, hparts, rfl⟩

theorem exists_writeEntries :
    (∃ parts, writeEntries layout depth (Entries.ofNames fields) = .ok parts) ↔
      ∀ field ∈ fields, ∃ s, writeAt layout depth field.2 = .ok s := by
  induction fields with
  | nil => exact iff_of_true ⟨[], by rw [Entries.ofNames, List.map_nil, writeEntries]⟩ nofun
  | cons field rest ih =>
    rw [List.forall_mem_cons, ← ih, Entries.ofNames, List.map_cons, writeEntries]
    simp only [bind_ok, pure_ok, writeKey]
    constructor
    · rintro ⟨_, _, -, content, hcontent, parts, hparts, -⟩
      exact ⟨⟨content, hcontent⟩, parts, hparts⟩
    · rintro ⟨⟨content, hcontent⟩, parts, hparts⟩
      exact ⟨_, _, rfl, content, hcontent, parts, hparts, rfl⟩

end

end Json

end PodPolicy
