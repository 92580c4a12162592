import PodPolicy.Proofs.JsonValue

/-!
# JSON text

What is written of texts, lists and mappings by name is read back as it was.
`Json.write_read`: such a value can be written with one item a line, and the text
and whatever blank space follows it are read as that value again.
-/

namespace PodPolicy

open Text

/-- A value that is made of texts: neither a number nor a truth value is in it. -/
inductive Value.IsTextual : Value → Prop
  | null : IsTextual .null
  | text {s : String} : IsTextual (.text s)
  | list {items : List Value} (h : ∀ item ∈ items, item.IsTextual) : IsTextual (.list items)
  | record {fields : List (String × Value)} (hnames : (fields.map Prod.fst).Nodup)
      (h : ∀ field ∈ fields, field.2.IsTextual) : IsTextual (.record fields)

-- -----------------------------------------------------------------------------
-- Code units
-- -----------------------------------------------------------------------------

namespace Text

/-- The code units that a character has in an escape: its own number, or a pair of
surrogates. -/
def codeUnits (c : Char) : List Nat :=
  if c.toNat < 0x10000 then [c.toNat]
  else [0xd800 + (c.toNat - 0x10000) / 0x400, 0xdc00 + (c.toNat - 0x10000) % 0x400]

theorem char_bounds (c : Char) : c.toNat < 0xd800 ∨ 0xdfff < c.toNat ∧ c.toNat < 0x110000 :=
  c.valid

theorem charOfCode?_toNat (c : Char) : charOfCode? c.toNat = some c := by
  have hvalid : c.toNat.isValidChar := c.valid
  rw [charOfCode?, if_pos hvalid, Char.ofNat_toNat]

theorem charsOfCodes_codeUnits (c : Char) (codes : List Nat) :
    charsOfCodes (codeUnits c ++ codes) = c :: charsOfCodes codes := by
  have hbounds := char_bounds c
  unfold codeUnits
  split
  · have hnot : isHighSurrogate c.toNat = false := by
      simp only [isHighSurrogate, Bool.and_eq_false_iff, decide_eq_false_iff_not]
      omega
    cases codes with
    | nil => simp [charsOfCodes, charOfCode?_toNat]
    | cons low rest => simp [charsOfCodes, charOfCode?_toNat, hnot]
  · have hhigh : isHighSurrogate (0xd800 + (c.toNat - 0x10000) / 0x400) = true := by
      simp only [isHighSurrogate, Bool.and_eq_true, decide_eq_true_eq]
      omega
    have hlow : isLowSurrogate (0xdc00 + (c.toNat - 0x10000) % 0x400) = true := by
      simp only [isLowSurrogate, Bool.and_eq_true, decide_eq_true_eq]
      omega
    have hjoin : joinSurrogates (0xd800 + (c.toNat - 0x10000) / 0x400)
        (0xdc00 + (c.toNat - 0x10000) % 0x400) = c.toNat := by
      unfold joinSurrogates
      omega
    simp [charsOfCodes, hhigh, hlow, hjoin, charOfCode?_toNat]

theorem charsOfCodes_flatMap (cs : List Char) : charsOfCodes (cs.flatMap codeUnits) = cs := by
  induction cs with
  | nil => rfl
  | cons c rest ih => rw [List.flatMap_cons, charsOfCodes_codeUnits, ih]

theorem hexDigits_succ {width n : Nat} :
    hexDigits (width + 2) n = hexDigits (width + 1) (n / 16) ++ [Nat.digitChar (n % 16)] := by
  unfold hexDigits
  by_cases h : n < 16
  · rw [Nat.toDigits_of_lt_base h, Nat.div_eq_of_lt h, Nat.mod_eq_of_lt h]
    simp [List.replicate_succ']
  · rw [Nat.toDigits_of_base_le (by decide) (Nat.le_of_not_lt h)]
    simp

end Text

-- -----------------------------------------------------------------------------
-- Texts
-- -----------------------------------------------------------------------------

namespace Json

theorem hexDigit?_digitChar : ∀ d < 16, hexDigit? (Nat.digitChar d) = some d := by
  decide

theorem codeUnit_hex {n : Nat} (h : n < 0x10000) :
    ∃ a b c d, codeUnit n = ['\\', 'u', a, b, c, d] ∧ hex4? a b c d = some n := by
  have hlast : hexDigits 1 (n / 16 / 16 / 16) = [Nat.digitChar (n / 16 / 16 / 16)] := by
    rw [hexDigits, Nat.toDigits_of_lt_base (by omega)]
    rfl
  refine ⟨_, _, _, _, by rw [codeUnit, hexDigits_succ, hexDigits_succ, hexDigits_succ, hlast]; rfl,
    ?_⟩
  rw [hex4?, hexDigit?_digitChar _ (by omega), hexDigit?_digitChar _ (by omega),
    hexDigit?_digitChar _ (by omega), hexDigit?_digitChar _ (by omega)]
  refine congrArg some ?_
  simp only [Numeral.ofDigits, List.foldl_cons, List.foldl_nil]
  omega

section
variable {opening tail rest : List Char} {done : List Nat}

theorem codeUnit_append_ne_nil {n : Nat} : codeUnit n ++ tail ≠ [] :=
  List.cons_ne_nil _ _

theorem readUnits_codeUnit {n : Nat} (h : n < 0x10000) (htail : tail ≠ []) :
    readUnits opening done (codeUnit n ++ tail) = readUnits opening (n :: done) tail := by
  obtain ⟨a, b, c, d, hcode, hhex⟩ := codeUnit_hex h
  obtain ⟨e, rest, rfl⟩ := List.exists_cons_of_ne_nil htail
  rw [hcode]
  simp only [List.cons_append, List.nil_append, readUnits, hhex]

theorem readUnits_simple {letter c : Char} (hletter : letter ≠ 'u')
    (h : simpleEscape? letter = some c) :
    readUnits opening done ('\\' :: letter :: tail) =
      readUnits opening (c.toNat :: done) tail := by
  rw [readUnits]
  · rw [h]
  all_goals simp_all

theorem readUnits_printed {c : Char} (hquote : c ≠ '"') (hslash : c ≠ '\\')
    (hprinted : ¬c.toNat < 0x20) :
    readUnits opening done (c :: tail) = readUnits opening (c.toNat :: done) tail := by
  rw [readUnits]
  · exact if_neg hprinted
  all_goals simp_all

theorem readUnits_escaped (c : Char) (htail : tail ≠ []) :
    readUnits opening done (escaped c ++ tail) =
      readUnits opening ((codeUnits c).reverse ++ done) tail := by
  have hbounds := char_bounds c
  unfold escaped
  split
  case h_8 hquote hslash _ _ _ _ _ =>
    dsimp only
    split
    · have hunits : codeUnits c = [c.toNat] := if_pos (by omega)
      rw [hunits]
      exact readUnits_printed hquote hslash (by omega)
    · split
      · have hunits : codeUnits c = [c.toNat] := if_pos ‹_›
        rw [hunits]
        exact readUnits_codeUnit ‹_› htail
      · have hunits : codeUnits c = [0xd800 + (c.toNat - 0x10000) / 0x400,
            0xdc00 + (c.toNat - 0x10000) % 0x400] := if_neg ‹_›
        rw [hunits, List.append_assoc, readUnits_codeUnit (by omega) codeUnit_append_ne_nil,
          readUnits_codeUnit (by omega) htail]
        rfl
  all_goals exact readUnits_simple (by decide) rfl

theorem readUnits_flatMap (cs : List Char) :
    readUnits opening done (cs.flatMap escaped ++ '"' :: rest) =
      .ok (done.reverse ++ cs.flatMap codeUnits, rest) := by
  induction cs generalizing done with
  | nil => simp [readUnits]
  | cons c more ih =>
    rw [List.flatMap_cons, List.append_assoc, readUnits_escaped c (by simp), ih]
    simp

theorem writeText_toList (s : String) :
    (writeText s).toList = '"' :: (s.toList.flatMap escaped ++ ['"']) :=
  String.toList_ofList

theorem readText_escaped (s : String) :
    readText opening (s.toList.flatMap escaped ++ '"' :: rest) = .ok (s, rest) := by
  rw [readText, readUnits_flatMap]
  show Except.ok (String.ofList (charsOfCodes ([].reverse ++ s.toList.flatMap codeUnits)), rest) = _
  rw [List.reverse_nil, List.nil_append, charsOfCodes_flatMap, String.ofList_toList]

end

-- -----------------------------------------------------------------------------
-- Parts of a collection
-- -----------------------------------------------------------------------------

def IsBlank (cs : List Char) : Prop :=
  ∀ c ∈ cs, isSpace c = true

/-- A text that starts like the text of a value: with no space and no closing bracket. -/
def Opens (cs : List Char) : Prop :=
  ∃ c rest, cs = c :: rest ∧ c ∈ ['n', '"', '[', '{']

/-- A text that is read as a value, whatever comes after it. -/
structure Reads (text : List Char) (v : Value) : Prop where
  opens : Opens text
  read (fuel : Nat) (rest : List Char) (hfuel : text.length ≤ fuel) :
    readValue fuel (text ++ rest) = .ok (v, rest)

def ReadsEntry (text : List Char) (field : String × Value) : Prop :=
  ∃ content, text = (writeText field.1).toList ++ ':' :: ' ' :: content ∧ Reads content field.2

section
variable {blanks after cs rest text : List Char} {texts : List (List Char)}
  {items : List Value} {fields : List (String × Value)} {fuel : Nat}

theorem IsBlank.skip (h : IsBlank blanks) : skipSpace (blanks ++ cs) = skipSpace cs := by
  unfold skipSpace
  rw [List.dropWhile_append_of_pos h]

theorem skipSpace_cons {c : Char} (h : isSpace c = false) : skipSpace (c :: cs) = c :: cs := by
  rw [skipSpace, List.dropWhile_cons_of_neg (by simp [h])]

theorem Opens.append (h : Opens text) : Opens (text ++ rest) := by
  obtain ⟨c, more, rfl, hc⟩ := h
  exact ⟨c, more ++ rest, rfl, hc⟩

theorem Opens.skip (h : Opens cs) : skipSpace cs = cs := by
  obtain ⟨c, more, rfl, hc⟩ := h
  simp only [List.mem_cons, List.not_mem_nil, or_false] at hc
  obtain rfl | rfl | rfl | rfl := hc <;> exact skipSpace_cons rfl

theorem Opens.intercalate {separator : List Char} (h : Opens text) :
    Opens (separator.intercalate (text :: texts)) := by
  cases texts with
  | nil => rwa [List.intercalate_singleton]
  | cons next rest =>
    rw [List.intercalate_cons_cons, List.append_assoc]
    exact h.append

theorem ReadsEntry.opens {field : String × Value} (h : ReadsEntry text field) : Opens text := by
  obtain ⟨content, rfl, -⟩ := h
  rw [writeText_toList]
  exact ⟨'"', _, rfl, by simp⟩

theorem Opens.of_texts {α : Type} {R : List Char → α → Prop} {as : List α} {separator : List Char}
    (hopens : ∀ text a, R text a → Opens text) (h : List.Forall₂ R texts as) (hne : texts ≠ []) :
    Opens (separator.intercalate texts) := by
  cases h with
  | nil => exact absurd rfl hne
  | cons hfirst => exact (hopens _ _ hfirst).intercalate

theorem readItems_texts (hbetween : IsBlank blanks) (hafter : IsBlank after)
    (hitems : List.Forall₂ Reads texts items) (hne : texts ≠ []) {fuel : Nat}
    (hfuel : ((',' :: blanks).intercalate texts).length < fuel) :
    readItems fuel ((',' :: blanks).intercalate texts ++ (after ++ ']' :: rest)) =
      .ok (items, rest) := by
  induction hitems generalizing fuel with
  | nil => exact absurd rfl hne
  | @cons text item texts items hread hrest ih =>
    obtain ⟨fuel, rfl⟩ := Nat.exists_eq_add_of_le' (Nat.one_le_of_lt hfuel)
    rw [readItems]
    cases hrest with
    | nil =>
      rw [List.intercalate_singleton] at hfuel ⊢
      refine bind_ok.mpr ⟨(item, after ++ ']' :: rest), hread.read _ _ (by omega), ?_⟩
      simp only [hafter.skip, skipSpace_cons (rfl : isSpace ']' = false)]
      rfl
    | @cons next item' texts items' hnext hrest =>
      rw [List.intercalate_cons_cons] at hfuel ⊢
      simp only [List.length_append, List.length_cons] at hfuel
      have hopens : Opens ((',' :: blanks).intercalate (next :: texts) ++ (after ++ ']' :: rest)) :=
        hnext.opens.intercalate.append
      refine bind_ok.mpr ⟨(item, _), by
        rw [List.append_assoc, List.append_assoc]
        exact hread.read _ _ (by omega), ?_⟩
      simp only [List.cons_append, skipSpace_cons (rfl : isSpace ',' = false), hbetween.skip,
        hopens.skip]
      exact bind_ok.mpr ⟨_, ih (List.cons_ne_nil _ _) (by omega), rfl⟩

theorem readName_entry {name : String} :
    readName ((writeText name).toList ++ rest) = .ok (name, rest) := by
  rw [writeText_toList]
  simp only [List.cons_append, List.append_assoc, readName]
  exact readText_escaped name

theorem readColon_entry {content : List Char} (h : Opens content) :
    readColon (':' :: ' ' :: content) = .ok content := by
  have hblank : IsBlank [' '] := by
    intro c hc
    rw [List.mem_singleton.mp hc]
    rfl
  have hskip : skipSpace (' ' :: content) = content := by
    rw [← List.singleton_append, hblank.skip, h.skip]
  rw [readColon, skipSpace_cons rfl]
  exact congrArg Except.ok hskip

theorem readMembers_texts (hbetween : IsBlank blanks) (hafter : IsBlank after)
    (hfields : List.Forall₂ ReadsEntry texts fields) (hne : texts ≠ []) {fuel : Nat}
    (hfuel : ((',' :: blanks).intercalate texts).length < fuel) :
    readMembers fuel ((',' :: blanks).intercalate texts ++ (after ++ '}' :: rest)) =
      .ok (Entries.ofNames fields, rest) := by
  induction hfields generalizing fuel with
  | nil => exact absurd rfl hne
  | @cons text field texts fields hread hrest ih =>
    obtain ⟨fuel, rfl⟩ := Nat.exists_eq_add_of_le' (Nat.one_le_of_lt hfuel)
    obtain ⟨content, rfl, hread⟩ := hread
    rw [readMembers]
    have hentry {tail : List Char} : readName ((writeText field.1).toList ++
        ':' :: ' ' :: content ++ tail) = .ok (field.1, ':' :: ' ' :: (content ++ tail)) := by
      rw [List.append_assoc]
      exact readName_entry
    cases hrest with
    | nil =>
      rw [List.intercalate_singleton] at hfuel ⊢
      simp only [List.length_append, List.length_cons] at hfuel
      refine bind_ok.mpr ⟨_, hentry, bind_ok.mpr ⟨_, readColon_entry hread.opens.append,
        bind_ok.mpr ⟨_, hread.read _ _ (by omega), ?_⟩⟩⟩
      simp only [hafter.skip, skipSpace_cons (rfl : isSpace '}' = false)]
      rfl
    | @cons next field' texts fields' hnext hrest =>
      rw [List.intercalate_cons_cons] at hfuel ⊢
      simp only [List.length_append, List.length_cons] at hfuel
      have hopens : Opens ((',' :: blanks).intercalate (next :: texts) ++ (after ++ '}' :: rest)) :=
        hnext.opens.intercalate.append
      refine bind_ok.mpr ⟨_, by
        rw [List.append_assoc, List.append_assoc]
        exact hentry, bind_ok.mpr ⟨_, readColon_entry hread.opens.append,
        bind_ok.mpr ⟨_, hread.read _ _ (by omega), ?_⟩⟩⟩
      simp only [List.cons_append, skipSpace_cons (rfl : isSpace ',' = false), hbetween.skip,
        hopens.skip]
      exact bind_ok.mpr ⟨_, ih (List.cons_ne_nil _ _) (by omega), rfl⟩

theorem readValue_list (hblanks : IsBlank blanks) (h : Opens cs) :
    readValue (fuel + 1) ('[' :: (blanks ++ cs)) = (do
      let (items, rest) ← readItems fuel cs
      return (.list items, rest)) := by
  rw [readValue, hblanks.skip, h.skip]
  obtain ⟨c, more, rfl, hc⟩ := h
  simp only [List.mem_cons, List.not_mem_nil, or_false] at hc
  obtain rfl | rfl | rfl | rfl := hc <;> rfl

theorem readValue_mapping (hblanks : IsBlank blanks) (h : Opens cs) :
    readValue (fuel + 1) ('{' :: (blanks ++ cs)) = (do
      let (members, rest) ← readMembers fuel cs
      return (.mapping (Entries.ofList members), rest)) := by
  rw [readValue, hblanks.skip, h.skip]
  obtain ⟨c, more, rfl, hc⟩ := h
  simp only [List.mem_cons, List.not_mem_nil, or_false] at hc
  obtain rfl | rfl | rfl | rfl := hc <;> rfl

end

-- -----------------------------------------------------------------------------
-- Values
-- -----------------------------------------------------------------------------

namespace Reads

theorem of_succ {text : List Char} {v : Value} (hopens : Opens text)
    (hread : ∀ fuel rest, text.length ≤ fuel + 1 →
      readValue (fuel + 1) (text ++ rest) = .ok (v, rest)) : Reads text v where
  opens := hopens
  read fuel rest hfuel := by
    obtain ⟨c, more, rfl, -⟩ := hopens
    obtain ⟨fuel, rfl⟩ := Nat.exists_eq_add_of_le' (Nat.one_le_of_lt hfuel)
    exact hread fuel rest hfuel

theorem null : Reads "null".toList .null :=
  .of_succ ⟨'n', _, rfl, by simp⟩ fun _ _ _ => rfl

theorem text {s : String} : Reads (writeText s).toList (.text s) := by
  refine .of_succ ⟨'"', _, writeText_toList s, by simp⟩ fun fuel rest _ => ?_
  rw [writeText_toList, List.cons_append, List.append_assoc, readValue]
  exact bind_ok.mpr ⟨_, readText_escaped s, rfl⟩

section
variable {blanks after : List Char} {texts : List (List Char)} {items : List Value}
  {fields : List (String × Value)} (hbetween : IsBlank blanks) (hafter : IsBlank after)
include hbetween hafter

theorem list (hitems : List.Forall₂ Reads texts items) (hne : texts ≠ []) :
    Reads ('[' :: (blanks ++ ((',' :: blanks).intercalate texts ++ (after ++ [']']))))
      (.list items) := by
  refine .of_succ ⟨'[', _, rfl, by simp⟩ fun fuel rest hfuel => ?_
  simp only [List.length_cons, List.length_append] at hfuel
  have hread : readItems fuel ((',' :: blanks).intercalate texts ++ (after ++ ']' :: rest)) =
      .ok (items, rest) := readItems_texts hbetween hafter hitems hne (by omega)
  have hopens : Opens ((',' :: blanks).intercalate texts) :=
    .of_texts (fun _ _ => Reads.opens) hitems hne
  simp only [List.cons_append, List.append_assoc, List.nil_append]
  rw [readValue_list hbetween hopens.append, hread]
  rfl

theorem record (hfields : List.Forall₂ ReadsEntry texts fields) (hne : texts ≠ [])
    (hnames : (fields.map Prod.fst).Nodup) :
    Reads ('{' :: (blanks ++ ((',' :: blanks).intercalate texts ++ (after ++ ['}']))))
      (.record fields) := by
  refine .of_succ ⟨'{', _, rfl, by simp⟩ fun fuel rest hfuel => ?_
  simp only [List.length_cons, List.length_append] at hfuel
  have hread : readMembers fuel ((',' :: blanks).intercalate texts ++ (after ++ '}' :: rest)) =
      .ok (Entries.ofNames fields, rest) :=
    readMembers_texts hbetween hafter hfields hne (by omega)
  have hopens : Opens ((',' :: blanks).intercalate texts) :=
    .of_texts (fun _ _ => ReadsEntry.opens) hfields hne
  simp only [List.cons_append, List.append_assoc, List.nil_append]
  rw [readValue_mapping hbetween hopens.append, hread]
  show Except.ok (Value.mapping (Entries.ofList (Entries.ofNames fields)), rest) = _
  rw [Entries.ofList_ofNames, named_of_nodup hnames]
  rfl

end

end Reads

-- -----------------------------------------------------------------------------
-- Writing and reading
-- -----------------------------------------------------------------------------

theorem lineStart_isBlank {depth : Nat} : IsBlank (Layout.indented.lineStart depth).toList := by
  intro c hc
  simp only [Layout.lineStart, Layout.indented, String.toList_append, String.toList_ofList,
    List.mem_append, List.mem_replicate] at hc
  obtain hc | ⟨-, rfl⟩ := hc
  · rw [List.mem_singleton.mp hc]
    rfl
  · rfl

section
variable {depth : Nat} {left right : String} {parts : List String} {v : Value}
  {items : List Value} {fields : List (String × Value)}

theorem enclose_toList {l r : Char} (hleft : left.toList = [l]) (hright : right.toList = [r])
    (hne : parts ≠ []) : (Layout.indented.enclose depth left right parts).toList =
      l :: ((Layout.indented.lineStart (depth + 1)).toList ++
        ((',' :: (Layout.indented.lineStart (depth + 1)).toList).intercalate
          (parts.map String.toList) ++ ((Layout.indented.lineStart depth).toList ++ [r]))) := by
  simp [Layout.enclose, String.toList_intercalate, Layout.indented, hleft, hright, hne]

theorem enclose_nil :
    (Layout.indented.enclose depth left right []).toList = left.toList ++ right.toList := by
  simp [Layout.enclose]

theorem reads_list (h : List.Forall₂ Reads (parts.map String.toList) items) :
    Reads (Layout.indented.enclose depth "[" "]" parts).toList (.list items) := by
  cases parts with
  | nil =>
    cases h
    rw [enclose_nil]
    exact .of_succ ⟨'[', _, rfl, by simp⟩ fun _ _ _ => rfl
  | cons part parts =>
    rw [enclose_toList (rfl : "[".toList = ['[']) (rfl : "]".toList = [']'])
      (List.cons_ne_nil part parts)]
    exact .list lineStart_isBlank lineStart_isBlank h nofun

theorem reads_record (h : List.Forall₂ ReadsEntry (parts.map String.toList) fields)
    (hnames : (fields.map Prod.fst).Nodup) :
    Reads (Layout.indented.enclose depth "\x7b" "\x7d" parts).toList (.record fields) := by
  cases parts with
  | nil =>
    cases h
    rw [enclose_nil]
    exact .of_succ ⟨'{', _, rfl, by simp⟩ fun _ _ _ => rfl
  | cons part parts =>
    rw [enclose_toList (rfl : "\x7b".toList = ['{']) (rfl : "\x7d".toList = ['}'])
      (List.cons_ne_nil part parts)]
    exact .record lineStart_isBlank lineStart_isBlank h nofun hnames

theorem writeItems_reads
    (h : ∀ item ∈ items, ∃ s, writeAt .indented depth item = .ok s ∧ Reads s.toList item) :
    ∃ parts, writeItems .indented depth items = .ok parts ∧
      List.Forall₂ Reads (parts.map String.toList) items := by
  induction items with
  | nil => exact ⟨[], by rw [writeItems], .nil⟩
  | cons item rest ih =>
    rw [List.forall_mem_cons] at h
    obtain ⟨s, hs, hread⟩ := h.1
    obtain ⟨parts, hparts, hreads⟩ := ih h.2
    exact ⟨s :: parts, by rw [writeItems, hs, hparts]; rfl, .cons hread hreads⟩

theorem writeEntries_reads
    (h : ∀ field ∈ fields, ∃ s, writeAt .indented depth field.2 = .ok s ∧
      Reads s.toList field.2) :
    ∃ parts, writeEntries .indented depth (Entries.ofNames fields) = .ok parts ∧
      List.Forall₂ ReadsEntry (parts.map String.toList) fields := by
  induction fields with
  | nil => exact ⟨[], by rw [Entries.ofNames, List.map_nil, writeEntries], .nil⟩
  | cons field rest ih =>
    rw [List.forall_mem_cons] at h
    obtain ⟨s, hs, hread⟩ := h.1
    obtain ⟨parts, hparts, hreads⟩ := ih h.2
    rw [Entries.ofNames] at hparts
    refine ⟨(writeText field.1 ++ ": " ++ s) :: parts, ?_, .cons ⟨s.toList, ?_, hread⟩ hreads⟩
    · rw [Entries.ofNames, List.map_cons, writeEntries, writeKey, hs, hparts]
      rfl
    · simp

theorem writeAt_reads (h : v.IsTextual) :
    ∀ depth, ∃ s, writeAt .indented depth v = .ok s ∧ Reads s.toList v := by
  induction h with
  | null => exact fun _ => ⟨_, by rw [writeAt], .null⟩
  | text => exact fun _ => ⟨_, by rw [writeAt], .text⟩
  | list _ ih =>
    intro depth
    obtain ⟨parts, hparts, hreads⟩ := writeItems_reads fun item hitem => ih item hitem (depth + 1)
    exact ⟨_, by rw [writeAt, hparts]; rfl, reads_list hreads⟩
  | record hnames _ ih =>
    intro depth
    obtain ⟨parts, hparts, hreads⟩ := writeEntries_reads fun field hfield =>
      ih field hfield (depth + 1)
    refine ⟨Layout.indented.enclose depth "\x7b" "\x7d" parts, ?_, reads_record hreads hnames⟩
    rw [Entries.ofNames] at hparts
    rw [Value.record, writeAt, hparts]
    rfl

/-- What is written of a value made of texts, with a line feed after it, is read as it was. -/
theorem write_read (h : v.IsTextual) :
    ∃ s, write .indented v = .ok s ∧ read (s ++ "\n") = .ok v := by
  obtain ⟨s, hs, hreads⟩ := writeAt_reads h 0
  refine ⟨s, hs, ?_⟩
  have hwhole : readWhole (s ++ "\n").toList = .ok v := by
    rw [String.toList_append, readWhole, hreads.opens.append.skip,
      hreads.read _ _ (by rw [List.length_append]; omega)]
    rfl
  rw [read, hwhole]

end

end Json

end PodPolicy
