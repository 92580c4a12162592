import PodPolicy.File
import PodPolicy.Proofs.ExceptLaws

/-!
# Reading a text step by step

What single steps of the reader do to a part of a text whatever it is: a file of
UTF-8 is its text, a plain word at the end of a text is one scalar, tokens are made
one piece of text after the other, and collections are filled one after the other.
With these a text is read to its end of which one word is too long to be computed
with.
-/

namespace PodPolicy

open Text

theorem decodeFile_toUTF8 {cs : List Char} (h : normalLines cs = cs) :
    decodeFile (String.ofList cs).toUTF8.data.toList = .ok (String.ofList cs) := by
  have hutf8 : utf8? (String.ofList cs).toUTF8.data.toList = some (String.ofList cs) :=
    dif_pos (String.ofList cs).isValidUTF8
  rw [decodeFile, hutf8]
  simp only [String.toList_ofList, h]

namespace Yaml

-- -----------------------------------------------------------------------------
-- Words
-- -----------------------------------------------------------------------------

section
variable {word rest : List Char} {left index line column : Nat} {indent : Int}
  (hword : ∀ c ∈ word, isBreak c = false ∧ c ≠ byteOrderMark)
include hword

theorem Cursor.skip_word : Cursor.skip ⟨word ++ rest, left, index, line, column⟩ word.length =
    ⟨rest, left - word.length, index + word.length, line, column + word.length⟩ := by
  induction word generalizing left index column with
  | nil => rfl
  | cons c word ih =>
    obtain ⟨hc, hword⟩ := List.forall_mem_cons.mp hword
    have hstep : Cursor.step ⟨c :: (word ++ rest), left, index, line, column⟩ =
        ⟨word ++ rest, left - 1, index + 1, line, column + 1⟩ := by
      simp [Cursor.step, hc]
    rw [List.length_cons, List.cons_append, Cursor.skip, hstep, ih hword]
    congr 1 <;> omega

theorem readPlain_word (hplain : plainRun false word = word)
    (hhead : ∃ c rest, word = c :: rest ∧ c ≠ '#') :
    readPlain false indent ⟨word, word.length, index, line, column⟩ =
      ⟨String.ofList word, false, ⟨[], 0, index + word.length, line, column + word.length⟩⟩ := by
  obtain ⟨c, rest, rfl, hc⟩ := hhead
  have hskip := @Cursor.skip_word _ [] (c :: rest).length index line column hword
  rw [List.append_nil, Nat.sub_self] at hskip
  simp only [readPlain, readPlainFrom, hplain, hskip, Cursor.peek?]
  simp [readPlainGap, Cursor.run, Cursor.skip, Cursor.lineBreak?, hc]

end

-- -----------------------------------------------------------------------------
-- Tokens
-- -----------------------------------------------------------------------------

def Layout.after : Nat → Layout → Except Stop Layout
  | 0, l => .ok l
  | n + 1, l => if l.isDone then .ok l else l.advance.bind (after n)

theorem Layout.run_done {fuel : Nat} {l : Layout} (h : l.isDone = true) :
    l.run (fuel + 1) = l.made.reverse := by
  rw [Layout.run, if_pos h]

theorem Layout.run_after {n fuel : Nat} {l l' : Layout} (h : l.after n = .ok l') :
    l.run (fuel + n + 1) = l'.run (fuel + 1) := by
  induction n generalizing l with
  | zero =>
    cases h
    rfl
  | succ n ih =>
    rw [after] at h
    split at h
    · rename_i hdone
      cases h
      rw [run_done hdone, run_done hdone]
    · rename_i hdone
      cases hnext : l.advance with
      | error s =>
        rw [hnext] at h
        cases h
      | ok next =>
        rw [hnext] at h
        rw [run, if_neg hdone, hnext]
        exact ih h

/-- A layout outside of flow collections where no key can start. -/
def Layout.keyless (cursor : Cursor) (made : List Token) (count : Nat) (indent : Int)
    (outer : List Int) : Layout :=
  ⟨cursor, made, count, indent, outer, false, none, []⟩

theorem Layout.advance_number {rest : List Char} {index line column count : Nat}
    {made : List Token} {indent : Int} {outer : List Int}
    (hword : ∀ c ∈ '0' :: rest, isBreak c = false ∧ c ≠ byteOrderMark)
    (hplain : plainRun false ('0' :: rest) = '0' :: rest) (hindent : indent ≤ column) :
    (keyless ⟨' ' :: '0' :: rest, rest.length + 2, index, line, column⟩ made count indent
        outer).advance =
      .ok (keyless ⟨[], 0, index + rest.length + 2, line, column + rest.length + 2⟩
        (.scalar (String.ofList ('0' :: rest)) true :: made) (count + 1) indent outer) := by
  let given := keyless ⟨' ' :: '0' :: rest, rest.length + 2, index, line, column⟩ made count
    indent outer
  let l := keyless ⟨'0' :: rest, rest.length + 1, index + 1, line, column + 1⟩ made count
    indent outer
  let next := keyless ⟨[], 0, index + rest.length + 2, line, column + rest.length + 2⟩
    (.scalar (String.ofList ('0' :: rest)) true :: made) (count + 1) indent outer
  have hmark : given.skipMark = given := if_neg (fun h => nomatch h.2)
  have hblank : given.skipBlank (given.cursor.left + 1) = l := by
    unfold skipBlank
    rfl
  have hclose : l.close l.cursor.column = l := by
    show closeFrom _ l outer = l
    cases outer with
    | nil => rfl
    | cons _ _ => exact if_neg (by show ¬(((column + 1 : Nat) : Int) < indent); omega)
  have hread : readPlain l.inFlow (l.indent + 1) l.cursor =
      ⟨String.ofList ('0' :: rest), false, next.cursor⟩ := by
    refine (readPlain_word hword hplain ⟨'0', rest, rfl, by decide⟩).trans ?_
    congr 2 <;> simp only [List.length_cons] <;> omega
  have htake : l.takePlain = .ok next := by
    have hmark : l.markPlace = .ok l := rfl
    rw [takePlain, hmark]
    simp only [bind, Except.bind, hread]
    rfl
  show given.advance = .ok next
  rw [advance, hmark, hblank]
  show (l.close l.cursor.column).take >>= refresh = .ok next
  rw [hclose]
  show l.takePlain >>= refresh = .ok next
  rw [htake]
  rfl

-- -----------------------------------------------------------------------------
-- Numbers
-- -----------------------------------------------------------------------------

theorem readInt_sixteen {cs : List Char} {n : Int} (hcs : '_' ∉ cs)
    (h : Numeral.readInteger 16 (String.ofList cs) = .ok n) :
    readInt (String.ofList ('0' :: 'x' :: cs)) = .ok n := by
  have hword : ('0' :: 'x' :: cs).filter (· ≠ '_') = '0' :: 'x' :: cs := by
    refine List.filter_eq_self.mpr fun c hc => decide_eq_true ?_
    rintro rfl
    simp [hcs] at hc
  have hbody : numberBody ('0' :: 'x' :: cs) = .ok (false, '0' :: 'x' :: cs) := by
    rw [numberBody, hword]
    rfl
  have hmagnitude : magnitude ('0' :: 'x' :: cs) = .ok n := by
    show integerIn 16 cs = .ok n
    rw [integerIn, h]
  rw [readInt, String.toList_ofList, hbody]
  show magnitude ('0' :: 'x' :: cs) >>= _ = _
  rw [hmagnitude]
  rfl

-- -----------------------------------------------------------------------------
-- Parts of a document
-- -----------------------------------------------------------------------------

theorem run_bind_ok {σ ε α β : Type} {x : StateT σ (Except ε) α} {f : α → StateT σ (Except ε) β}
    {s s' : σ} {a : α} (h : x.run s = .ok (a, s')) : (x >>= f).run s = (f a).run s' := by
  rw [StateT.run_bind, h]
  rfl

variable {nodes : Nodes} {id : NodeId} {m m' : Making} {v : Value}

theorem scalarOf_int {s : String} {n : Int} (h : nodes.node id = ⟨.int, .text s⟩)
    (hs : readInt s = .ok n) : scalarOf nodes id = .ok (.int n) := by
  simp [scalarOf, Nodes.tag, Nodes.content, h, scalarText, scalarValue, hs, bind, Except.bind,
    Except.map]

namespace Make

/-- A scalar that is met for the first time has its value from then on. -/
theorem part_scalar (hnew : m.parts[id]?.join = none)
    (htag : (m.nodes.tag id).isCollection = false) (h : scalarOf m.nodes id = .ok v) :
    (part id).run m =
      .ok (.value v, { m with parts := m.parts.setIfInBounds id (some (.value v)) }) := by
  have hget : (get : Make Making).run m = .ok (m, m) := rfl
  have hnewPart : (newPart id).run m = .ok (.value v, m) := by
    rw [newPart, run_bind_ok hget]
    dsimp only
    rw [htag, if_neg Bool.false_ne_true, StateT.run_bind, StateT.run_monadLift, h]
    rfl
  rw [part, run_bind_ok hget, hnew]
  exact run_bind_ok hnewPart

theorem entry_ok {m'' : Making} {e : NodeEntry} {k : Value} {p : Part}
    (hkey : (key e.1).run m = .ok (k, m')) (hvalue : (part e.2).run m' = .ok (p, m'')) :
    (entry e).run m = .ok ((k, e.2), m'') := by
  rw [entry, run_bind_ok hkey, run_bind_ok hvalue]
  rfl

theorem entries_single {e : NodeEntry} {made : Value × NodeId}
    (hentries : m.nodes.entries id = [e])
    (hmerge : (Merging.takeIn (m.nodes.entryCount + 1) id).run m.nodes = .ok ((), m.nodes))
    (hentry : (entry e).run m = .ok (made, m')) : (entries id).run m = .ok ([made], m') := by
  have hget : (get : Make Making).run m = .ok (m, m) := rfl
  have hset : (set m : Make PUnit).run m = .ok ((), m) := rfl
  have hmade : ([e].mapM entry).run m = .ok ([made], m') := by
    rw [List.mapM_cons, run_bind_ok hentry]
    rfl
  rw [entries, run_bind_ok hget]
  show ((liftM ((Merging.takeIn (m.nodes.entryCount + 1) id).run m.nodes) : Make _) >>= _).run m = _
  rw [hmerge, run_bind_ok (a := ((), m.nodes)) rfl]
  show ((set m : Make PUnit) >>= _).run m = _
  rw [run_bind_ok hset, hentries, run_bind_ok hmade]
  rfl

theorem fill_mapping {es : List NodeEntry} {made : List (Value × NodeId)}
    (hnode : m.nodes.node id = ⟨.mapping, .mapping es⟩)
    (hentries : (entries id).run m = .ok (made, m')) : (fill id).run m =
      .ok ((), { m' with parts := m'.parts.setIfInBounds id (some (.mapping made)) }) := by
  have hget : (get : Make Making).run m = .ok (m, m) := rfl
  rw [fill, run_bind_ok hget, hnode]
  show (entries id >>= _).run m = _
  rw [run_bind_ok hentries]
  rfl

theorem rounds_succ (fuel : Nat) : rounds (fuel + 1) = (do
    match (← get).opened with
    | id :: rest =>
      modify fun m => { m with opened := [] }
      (id :: rest).reverse.forM fill
      rounds fuel
    | [] => return ()) := by
  funext ⟨nodes, parts, opened⟩
  delta rounds
  cases opened <;> rfl

theorem rounds_one {fuel : Nat} (hopened : m.opened = [id])
    (h : (fill id).run { m with opened := [] } = .ok ((), m')) :
    (rounds (fuel + 1)).run m = (rounds fuel).run m' := by
  obtain ⟨nodes, parts, opened⟩ := m
  cases hopened
  rw [rounds_succ]
  show ((fill id >>= fun _ => pure PUnit.unit) >>= fun _ => rounds fuel).run ⟨nodes, parts, []⟩ = _
  rw [bind_assoc, run_bind_ok h]
  rfl

theorem rounds_none {fuel : Nat} (hopened : m.opened = []) :
    (rounds fuel).run m = .ok ((), m) := by
  obtain ⟨nodes, parts, opened⟩ := m
  cases hopened
  cases fuel with
  | zero => rfl
  | succ fuel =>
    rw [rounds_succ]
    rfl

end Make

end Yaml

/-- A file of one document that is a mapping. -/
theorem loadFile_single {files : Files} {path text : String} {g : Yaml.Graph} {entries : Entries}
    (hread : readFile files path = .ok text) (hdocuments : Yaml.documents text = ⟨[g], none⟩)
    (hvalue : g.value = .ok (.mapping entries)) : loadFile files path = .ok [entries] := by
  rw [loadFile, hread]
  show Manifest.ofDecoded (Yaml.documents text).values = _
  rw [hdocuments, Yaml.Documents.values, List.mapM_cons, hvalue]
  rfl

end PodPolicy
