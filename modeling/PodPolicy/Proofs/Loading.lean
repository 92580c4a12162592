import PodPolicy.Manifest.Load
import PodPolicy.Proofs.ExceptLaws

/-!
# Texts that are loaded

A text yields documents one after the other, up to its end or to what stops it.
`load_whole`: it is loaded as a whole or not at all. What stops it is what is told, even
after a document that is no manifest; at its end the first such document is named by
its position among all documents; else each manifest is loaded once and in order. So
to put texts one after the other is to put their manifests so, and empty documents
count for nothing but positions.

Which documents a text yields is the business of the reader of YAML.
-/

namespace PodPolicy

-- -----------------------------------------------------------------------------
-- Streams
-- -----------------------------------------------------------------------------

namespace Yaml

/-- The values that documents yield in order, and what stops them before their end. -/
structure Stream where
  values : List Value
  stop : Option Stop

namespace Stream

def cons (v : Value) (s : Stream) : Stream :=
  { s with values := v :: s.values }

/-- The first graph without a value stops the others. -/
def ofGraphs (stop : Option Stop) : List Graph → Stream
  | [] => ⟨[], stop⟩
  | g :: rest =>
    match g.value with
    | .error s => ⟨[], some s⟩
    | .ok v => (ofGraphs stop rest).cons v

def read (s : Stream) : Except Stop (List Value) :=
  match s.stop with
  | some stop => .error stop
  | none => .ok s.values

theorem read_cons (v : Value) (s : Stream) : (s.cons v).read = s.read.map (v :: ·) := by
  obtain ⟨values, stop⟩ := s
  cases stop <;> rfl

end Stream

def stream (text : String) : Stream :=
  .ofGraphs (documents text).stop (documents text).graphs

theorem Documents.values_stream (ds : Documents) :
    ds.values = (Stream.ofGraphs ds.stop ds.graphs).read := by
  obtain ⟨graphs, stop⟩ := ds
  induction graphs with
  | nil => cases stop <;> rfl
  | cons g rest ih =>
    rw [Stream.ofGraphs]
    cases hvalue : g.value with
    | error s =>
      rw [values, List.mapM_cons, hvalue]
      rfl
    | ok v =>
      have hcons : values ⟨g :: rest, stop⟩ = (values ⟨rest, stop⟩).map (v :: ·) := by
        rw [values, values, List.mapM_cons, hvalue]
        cases rest.mapM Graph.value <;> cases stop <;> rfl
      rw [hcons, ih, Stream.read_cons]

theorem readAll_stream (text : String) : readAll text = (stream text).read :=
  Documents.values_stream _

end Yaml

-- -----------------------------------------------------------------------------
-- Documents
-- -----------------------------------------------------------------------------

def Value.IsDocument (v : Value) : Prop :=
  v = .null ∨ ∃ entries, v = .mapping entries

def Value.manifest? : Value → Option Entries
  | .mapping entries => some entries
  | _ => none

/-- The same documents with empty ones between them. -/
inductive Padded : List Value → List Value → Prop
  | nil : Padded [] []
  | keep {v : Value} {vs ws : List Value} (h : Padded vs ws) : Padded (v :: vs) (v :: ws)
  | pad {vs ws : List Value} (h : Padded vs ws) : Padded vs (.null :: ws)

/-- A document that is no manifest, behind others that are or are empty. -/
structure FirstOdd (documents before : List Value) (v : Value) : Prop where
  split : ∃ after, documents = before ++ v :: after
  before : ∀ w ∈ before, w.IsDocument
  odd : ¬v.IsDocument

section
variable {v : Value} {vs ws before : List Value} {index : Nat} {entries : List Entries}
  {e : ShapeError}

theorem Value.isDocument_kind : v.IsDocument ↔ v.kindName ∈ ["NoneType", "dict"] := by
  unfold IsDocument
  cases v <;> simp [kindName]

theorem Padded.manifests (h : Padded vs ws) :
    ws.filterMap Value.manifest? = vs.filterMap Value.manifest? := by
  induction h with
  | nil => rfl
  | @keep v _ _ _ ih => simp only [List.filterMap_cons, ih]
  | pad _ ih => exact ih

theorem Padded.documents (h : Padded vs ws) :
    (∀ w ∈ ws, w.IsDocument) ↔ ∀ v ∈ vs, v.IsDocument := by
  induction h with
  | nil => rfl
  | keep _ ih => rw [List.forall_mem_cons, List.forall_mem_cons, ih]
  | pad _ ih => rw [List.forall_mem_cons, ih, and_iff_right (.inl rfl)]

theorem Padded.firstOdd (h : Padded vs ws) (hodd : FirstOdd vs before v) :
    ∃ before', Padded before before' ∧ FirstOdd ws before' v := by
  obtain ⟨⟨after, hsplit⟩, hbefore, hv⟩ := hodd
  induction h generalizing before with
  | nil => simp at hsplit
  | @keep u vs ws h ih =>
    cases before with
    | nil =>
      cases hsplit
      exact ⟨[], .nil, ⟨⟨_, rfl⟩, nofun, hv⟩⟩
    | cons first before =>
      cases hsplit
      obtain ⟨hfirst, hbefore⟩ := List.forall_mem_cons.mp hbefore
      obtain ⟨before', hpadded, ⟨after', rfl⟩, hbefore', -⟩ := ih hbefore rfl
      exact ⟨u :: before', .keep hpadded, ⟨after', rfl⟩,
        List.forall_mem_cons.mpr ⟨hfirst, hbefore'⟩, hv⟩
  | pad h ih =>
    obtain ⟨before', hpadded, ⟨after', rfl⟩, hbefore', -⟩ := ih hbefore hsplit
    exact ⟨.null :: before', .pad hpadded, ⟨after', rfl⟩,
      List.forall_mem_cons.mpr ⟨.inl rfl, hbefore'⟩, hv⟩

namespace Manifest

theorem ofDocument_ok (h : v.IsDocument) : ofDocument index v = .ok v.manifest? := by
  obtain rfl | ⟨entries, rfl⟩ := h <;> rfl

theorem ofDocument_odd (h : ¬v.IsDocument) :
    ofDocument index v = .error (.documentNotMapping index v.kindName) := by
  cases v with
  | null => exact absurd (.inl rfl) h
  | mapping entries => exact absurd (.inr ⟨entries, rfl⟩) h
  | _ => rfl

theorem ofDocuments_cons (h : v.IsDocument) : ofDocuments index (v :: vs) =
    (ofDocuments (index + 1) vs).map (v.manifest?.toList ++ ·) := by
  rw [ofDocuments, ofDocument_ok h]
  cases ofDocuments (index + 1) vs <;> rfl

theorem ofDocuments_all (h : ∀ v ∈ vs, v.IsDocument) :
    ofDocuments index vs = .ok (vs.filterMap Value.manifest?) := by
  induction vs generalizing index with
  | nil => rfl
  | cons v rest ih =>
    obtain ⟨hv, hrest⟩ := List.forall_mem_cons.mp h
    rw [ofDocuments_cons hv, ih hrest, List.filterMap_cons]
    cases v.manifest? <;> rfl

theorem ofDocuments_firstOdd (h : FirstOdd vs before v) :
    ofDocuments index vs = .error (.documentNotMapping (index + before.length) v.kindName) := by
  obtain ⟨⟨after, rfl⟩, hbefore, hv⟩ := h
  induction before generalizing index with
  | nil =>
    rw [List.nil_append, ofDocuments, ofDocument_odd hv]
    rfl
  | cons first rest ih =>
    obtain ⟨hfirst, hrest⟩ := List.forall_mem_cons.mp hbefore
    rw [List.cons_append, ofDocuments_cons hfirst, ih hrest, List.length_cons,
      Nat.add_right_comm, Nat.add_assoc]
    rfl

theorem all_or_firstOdd (vs : List Value) :
    (∀ v ∈ vs, v.IsDocument) ∨ ∃ before v, FirstOdd vs before v := by
  induction vs with
  | nil => exact .inl nofun
  | cons v rest ih =>
    by_cases hv : v.IsDocument
    · rcases ih with hrest | ⟨before, w, ⟨after, rfl⟩, hbefore, hw⟩
      · exact .inl (List.forall_mem_cons.mpr ⟨hv, hrest⟩)
      · exact .inr ⟨v :: before, w, ⟨after, rfl⟩, List.forall_mem_cons.mpr ⟨hv, hbefore⟩, hw⟩
    · exact .inr ⟨[], v, ⟨rest, rfl⟩, nofun, hv⟩

end Manifest

end

-- -----------------------------------------------------------------------------
-- Texts
-- -----------------------------------------------------------------------------

namespace Manifest

section
variable {text : String} {before : List Value} {v : Value}

theorem load_stopped {stop : Yaml.Stop} (h : (Yaml.stream text).stop = some stop) :
    load text = .error (.ofStop stop) := by
  rw [load, Yaml.readAll_stream, Yaml.Stream.read, h]
  rfl

theorem load_all (hend : (Yaml.stream text).stop = none)
    (h : ∀ v ∈ (Yaml.stream text).values, v.IsDocument) :
    load text = .ok ((Yaml.stream text).values.filterMap Value.manifest?) := by
  rw [load, Yaml.readAll_stream, Yaml.Stream.read, hend]
  show (ofDocuments 0 _).mapError _ = _
  rw [ofDocuments_all h]
  rfl

theorem load_firstOdd (hend : (Yaml.stream text).stop = none)
    (h : FirstOdd (Yaml.stream text).values before v) :
    load text = .error (.shape (.documentNotMapping before.length v.kindName)) := by
  rw [load, Yaml.readAll_stream, Yaml.Stream.read, hend]
  show (ofDocuments 0 _).mapError _ = _
  rw [ofDocuments_firstOdd h, Nat.zero_add]
  rfl

theorem load_cases (text : String) :
    (∃ stop, (Yaml.stream text).stop = some stop ∧ load text = .error (.ofStop stop)) ∨
    (Yaml.stream text).stop = none ∧
      ((∀ v ∈ (Yaml.stream text).values, v.IsDocument) ∧
          load text = .ok ((Yaml.stream text).values.filterMap Value.manifest?) ∨
        ∃ before v, FirstOdd (Yaml.stream text).values before v ∧
          load text = .error (.shape (.documentNotMapping before.length v.kindName))) := by
  cases hstop : (Yaml.stream text).stop with
  | some stop => exact .inl ⟨stop, rfl, load_stopped hstop⟩
  | none =>
    refine .inr ⟨rfl, ?_⟩
    rcases all_or_firstOdd (Yaml.stream text).values with hall | ⟨before, v, hodd⟩
    · exact .inl ⟨hall, load_all hstop hall⟩
    · exact .inr ⟨before, v, hodd, load_firstOdd hstop hodd⟩

theorem load_ok {manifests : List Entries} : load text = .ok manifests ↔
    (Yaml.stream text).stop = none ∧ (∀ v ∈ (Yaml.stream text).values, v.IsDocument) ∧
      manifests = (Yaml.stream text).values.filterMap Value.manifest? := by
  constructor
  · intro h
    rcases load_cases text with ⟨_, -, hload⟩ | ⟨hend, ⟨hall, hload⟩ | ⟨_, _, -, hload⟩⟩
    · cases h.symm.trans hload
    · exact ⟨hend, hall, Except.ok.inj (h.symm.trans hload)⟩
    · cases h.symm.trans hload
  · rintro ⟨hend, hall, rfl⟩
    exact load_all hend hall

theorem load_shape : load text = .error (.shape e) ↔ (Yaml.stream text).stop = none ∧
    ∃ before v, FirstOdd (Yaml.stream text).values before v ∧
      e = .documentNotMapping before.length v.kindName := by
  constructor
  · intro h
    rcases load_cases text with ⟨stop, -, hload⟩ | ⟨hend, ⟨-, hload⟩ | ⟨before, v, hodd, hload⟩⟩
    · rw [h] at hload
      cases stop <;> cases hload
    · cases h.symm.trans hload
    · cases h.symm.trans hload
      exact ⟨hend, before, v, hodd, rfl⟩
  · rintro ⟨hend, before, v, hodd, rfl⟩
    exact load_firstOdd hend hodd

theorem ofStop_injective : Function.Injective Obstacle.ofStop := by
  intro a b h
  cases a <;> cases b <;> cases h <;> rfl

theorem load_stop (stop : Yaml.Stop) :
    load text = .error (.ofStop stop) ↔ (Yaml.stream text).stop = some stop := by
  refine ⟨fun h => ?_, load_stopped⟩
  rcases load_cases text with ⟨_, hstop, hload⟩ | ⟨-, ⟨-, hload⟩ | ⟨_, _, -, hload⟩⟩
  · rw [hstop, ofStop_injective (Except.error.inj (h.symm.trans hload))]
  · cases h.symm.trans hload
  · rw [h] at hload
    cases stop <;> cases hload

end

/-- A text is loaded as a whole or not at all. Nothing is loaded of one that is stopped,
wherever that is, and of one with a document that is no manifest, the first of which is
named; else all manifests are, in order. Put together, texts have the manifests of the one
and then those of the other, and empty documents move no more than a position. -/
theorem load_whole (text : String) :
    let given := Yaml.stream text
    (∀ p, load text = .error (.notYaml p) ↔ given.stop = some (.problem p)) ∧
    (∀ f, load text = .error (.fault f) ↔ given.stop = some (.fault f)) ∧
    (∀ e, load text = .error (.shape e) ↔ given.stop = none ∧
      ∃ before v, FirstOdd given.values before v ∧
        e = .documentNotMapping before.length v.kindName ∧
        e.toText = s!"Document {before.length} is a {v.kindName}, expected a mapping") ∧
    (∀ manifests, load text = .ok manifests ↔ given.stop = none ∧
      (∀ v ∈ given.values, v.IsDocument) ∧
      manifests = given.values.filterMap Value.manifest?) ∧
    (∀ more whole manifests others, load text = .ok manifests → load more = .ok others →
      Yaml.stream whole = ⟨given.values ++ (Yaml.stream more).values, none⟩ →
      load whole = .ok (manifests ++ others)) ∧
    ∀ padded, Padded given.values (Yaml.stream padded).values →
      (Yaml.stream padded).stop = given.stop →
      (∀ manifests, load padded = .ok manifests ↔ load text = .ok manifests) ∧
      (∀ stop, load padded = .error (.ofStop stop) ↔ load text = .error (.ofStop stop)) ∧
      ∀ before v, given.stop = none → FirstOdd given.values before v →
        load text = .error (.shape (.documentNotMapping before.length v.kindName)) ∧
        ∃ before', Padded before before' ∧
          load padded = .error (.shape (.documentNotMapping before'.length v.kindName)) := by
  intro given
  refine ⟨fun p => load_stop (.problem p), fun f => load_stop (.fault f), ?shape,
    fun _ => load_ok, ?together, ?padded⟩
  case shape =>
    intro e
    rw [load_shape]
    refine and_congr_right fun _ => exists_congr fun before => exists_congr fun v =>
      and_congr_right fun _ => (and_iff_left_of_imp ?_).symm
    rintro rfl
    rfl
  case together =>
    intro more whole manifests others hload hmore hwhole
    obtain ⟨-, hall, rfl⟩ := load_ok.mp hload
    obtain ⟨-, hall', rfl⟩ := load_ok.mp hmore
    rw [load_ok, hwhole]
    exact ⟨rfl, List.forall_mem_append.mpr ⟨hall, hall'⟩, List.filterMap_append.symm⟩
  case padded =>
    intro padded hpadded hstop
    refine ⟨fun manifests => ?_, fun stop => ?_, fun before v hend hodd => ?_⟩
    · rw [load_ok, load_ok, hstop, hpadded.documents, hpadded.manifests]
    · rw [load_stop, load_stop, hstop]
    · obtain ⟨before', hbefore, hodd'⟩ := hpadded.firstOdd hodd
      exact ⟨load_firstOdd hend hodd, before', hbefore, load_firstOdd (hstop.trans hend) hodd'⟩

def bare (kind : String) : Entries :=
  [(.text "kind", .text kind)]

def bareKind? : Value → Option String
  | .mapping [(.text "kind", .text kind)] => some kind
  | _ => none

section
variable {vs : List Value}

theorem values_of_kinds (kinds : List String) (h : vs.map bareKind? = kinds.map some) :
    vs = kinds.map fun kind => .mapping (bare kind) := by
  have hbare {v : Value} {kind : String} (h : bareKind? v = some kind) :
      v = .mapping (bare kind) := by
    unfold bareKind? at h
    split at h
    · cases h
      rfl
    · cases h
  induction kinds generalizing vs with
  | nil => exact List.map_eq_nil_iff.mp h
  | cons kind rest ih =>
    obtain ⟨v, more, rfl, hv, hmore⟩ := List.map_eq_cons_iff.mp h
    rw [List.map_cons, ← hbare hv, ← ih hmore]

theorem firstOdd_of_kinds (kinds rest : List String) {kind : String}
    (h : vs.map Value.kindName = kinds ++ kind :: rest)
    (hkinds : ∀ k ∈ kinds, k ∈ ["NoneType", "dict"]) (hkind : kind ∉ ["NoneType", "dict"]) :
    ∃ before v, FirstOdd vs before v ∧ before.length = kinds.length ∧ v.kindName = kind := by
  obtain ⟨before, more, rfl, rfl, hmore⟩ := List.map_eq_append_iff.mp h
  obtain ⟨v, after, rfl, rfl, -⟩ := List.map_eq_cons_iff.mp hmore
  refine ⟨before, v, ⟨⟨after, rfl⟩, ?_, mt Value.isDocument_kind.mp hkind⟩, by simp, rfl⟩
  exact fun w hw => Value.isDocument_kind.mpr (hkinds _ (List.mem_map_of_mem hw))

end

def webText : String := "kind: Web\n"
def jobText : String := "---\nkind: Job\n"
def bothText : String := "kind: Web\n---\nkind: Job\n"
def listedText : String := "kind: Web\n---\n---\n- Job\n"
def brokenText : String := "- Job\n---\n["

/-- Two texts and both of them as one, a text whose third document is a list, and one that
breaks a rule of the language after a list. -/
theorem load_mixedTexts :
    load bothText = .ok [bare "Web", bare "Job"] ∧
    load listedText = .error (.shape (.documentNotMapping 2 "list")) ∧
    load brokenText = .error (.notYaml .noContent) := by
  have hweb : (Yaml.stream webText).values = [.mapping (bare "Web")] :=
    values_of_kinds ["Web"] (by decide +kernel)
  have hjob : (Yaml.stream jobText).values = [.mapping (bare "Job")] :=
    values_of_kinds ["Job"] (by decide +kernel)
  have hboth : Yaml.stream bothText =
      ⟨(Yaml.stream webText).values ++ (Yaml.stream jobText).values, none⟩ := by
    have hvalues : (Yaml.stream bothText).values = [.mapping (bare "Web"), .mapping (bare "Job")] :=
      values_of_kinds ["Web", "Job"] (by decide +kernel)
    have hstop : (Yaml.stream bothText).stop = none := by decide +kernel
    rw [hweb, hjob, ← hstop]
    exact congrArg (Yaml.Stream.mk · _) hvalues
  refine ⟨?_, ?_, ?_⟩
  · have hdocument (kind : String) : ∀ v ∈ [Value.mapping (bare kind)], v.IsDocument := by
      simp [Value.IsDocument]
    have hload : load webText = .ok [bare "Web"] := (load_whole webText).2.2.2.1 _ |>.mpr
      ⟨by decide +kernel, hweb ▸ hdocument "Web", by rw [hweb]; rfl⟩
    have hmore : load jobText = .ok [bare "Job"] := (load_whole jobText).2.2.2.1 _ |>.mpr
      ⟨by decide +kernel, hjob ▸ hdocument "Job", by rw [hjob]; rfl⟩
    exact (load_whole webText).2.2.2.2.1 jobText bothText _ _ hload hmore hboth
  · obtain ⟨before, v, hodd, hlength, hkind⟩ : ∃ before v,
        FirstOdd (Yaml.stream listedText).values before v ∧ before.length = 2 ∧
          v.kindName = "list" :=
      firstOdd_of_kinds ["dict", "NoneType"] [] (by decide +kernel)
        (by decide) (by decide)
    rw [← hlength, ← hkind]
    exact ((load_whole listedText).2.2.1 _).mpr ⟨by decide +kernel, before, v, hodd, rfl, rfl⟩
  · exact ((load_whole brokenText).1 _).mpr (by decide +kernel)

end Manifest

end PodPolicy
