import PodPolicy.Proofs.Reading

/-!
# Documents without a value

A document has a value unless a scalar in it does not convert, or a rule of the
language is broken. Collections are filled and entries merged in a state that
changes on the way, so what is kept of the nodes is an invariant: no text is new,
and no tag but that for text. `Graph.value_fault` says which scalar it is that ends a
text, and `Yaml.readAll_fault` where a text is ended by a fault.
-/

namespace PodPolicy

variable {f : Fault}

namespace Yaml

-- -----------------------------------------------------------------------------
-- What a computation keeps
-- -----------------------------------------------------------------------------

/-- A computation keeps an invariant of its state and has results of one kind, or it
stops, and then at no faults but some. -/
def Keeps {σ α : Type} (inv : σ → Prop) (among : Fault → Prop) (x : StateT σ (Except Stop) α)
    (result : α → Prop) : Prop :=
  ∀ s, inv s → (∀ a s', x.run s = .ok (a, s') → inv s' ∧ result a) ∧
    ∀ f, x.run s = .error (.fault f) → among f

def Anything {α : Type} (_ : α) : Prop := True

section
variable {σ α β : Type} {inv : σ → Prop} {among : Fault → Prop} {result : α → Prop}
  {after : β → Prop} {x : StateT σ (Except Stop) α}

theorem keeps_pure {a : α} (h : result a) :
    Keeps inv among (pure a : StateT σ (Except Stop) α) result :=
  fun _ hs => ⟨by rintro _ _ ⟨⟩; exact ⟨hs, h⟩, nofun⟩

theorem keeps_problem {p : Problem} :
    Keeps inv among (throw (.problem p) : StateT σ (Except Stop) α) result :=
  fun _ _ => ⟨nofun, nofun⟩

theorem keeps_get : Keeps inv among (get : StateT σ (Except Stop) σ) inv :=
  fun _ hs => ⟨by rintro _ _ ⟨⟩; exact ⟨hs, hs⟩, nofun⟩

theorem keeps_set {s : σ} (h : inv s) :
    Keeps inv among (set s : StateT σ (Except Stop) PUnit) Anything :=
  fun _ _ => ⟨by rintro _ _ ⟨⟩; exact ⟨h, trivial⟩, nofun⟩

theorem keeps_modify {next : σ → σ} (h : ∀ s, inv s → inv (next s)) :
    Keeps inv among (modify next : StateT σ (Except Stop) PUnit) Anything :=
  fun s hs => ⟨by rintro _ _ ⟨⟩; exact ⟨h s hs, trivial⟩, nofun⟩

theorem keeps_bind {g : α → StateT σ (Except Stop) β} (hx : Keeps inv among x result)
    (hg : ∀ a, result a → Keeps inv among (g a) after) : Keeps inv among (x >>= g) after := by
  intro s hs
  obtain ⟨hok, hfault⟩ := hx s hs
  rw [StateT.run_bind]
  constructor
  · intro b t h
    obtain ⟨⟨a, s'⟩, ha, h⟩ := bind_ok.mp h
    obtain ⟨hs', hresult⟩ := hok a s' ha
    exact (hg a hresult s' hs').1 b t h
  · intro f h
    obtain h | ⟨⟨a, s'⟩, ha, h⟩ := bind_error.mp h
    · exact hfault f h
    · obtain ⟨hs', hresult⟩ := hok a s' ha
      exact (hg a hresult s' hs').2 f h

theorem keeps_map {g : α → β} (hx : Keeps inv among x result) :
    Keeps inv among (g <$> x) Anything := by
  intro s hs
  obtain ⟨hok, hfault⟩ := hx s hs
  rw [StateT.run_map]
  constructor
  · intro b t h
    obtain ⟨⟨a, s'⟩, ha, h⟩ := map_ok.mp h
    cases h
    exact ⟨(hok a s' ha).1, trivial⟩
  · exact fun f h => hfault f (map_error.mp h)

theorem keeps_lift {y : Except Stop α} (hok : ∀ a, y = .ok a → result a)
    (hfault : ∀ f, y = .error (.fault f) → among f) :
    Keeps inv among (liftM y : StateT σ (Except Stop) α) result := by
  intro s hs
  rw [StateT.run_monadLift]
  cases y with
  | ok a => exact ⟨by rintro _ _ ⟨⟩; exact ⟨hs, hok a rfl⟩, nofun⟩
  | error stop => exact ⟨nofun, by rintro f ⟨⟩; exact hfault f rfl⟩

theorem keeps_mapM {g : α → StateT σ (Except Stop) β}
    (hg : ∀ a, Keeps inv among (g a) Anything) (as : List α) :
    Keeps inv among (as.mapM g) Anything := by
  induction as with
  | nil => exact keeps_pure trivial
  | cons a rest ih =>
    rw [List.mapM_cons]
    exact keeps_bind (hg a) fun _ _ => keeps_bind ih fun _ _ => keeps_pure trivial

theorem keeps_forM {g : α → StateT σ (Except Stop) PUnit}
    (hg : ∀ a, Keeps inv among (g a) Anything) (as : List α) :
    Keeps inv among (as.forM g) Anything := by
  induction as with
  | nil => exact keeps_pure trivial
  | cons a rest ih => exact keeps_bind (hg a) fun _ _ => ih

end

-- -----------------------------------------------------------------------------
-- Values
-- -----------------------------------------------------------------------------

/-- What merging leaves of the nodes of a document: no text is new, and no tag but
that for text. -/
def Nodes.ComesOf (given nodes : Nodes) : Prop :=
  ∀ id, (∀ s, nodes.content id = .text s → given.content id = .text s) ∧
    (nodes.tag id = .text ∨ nodes.tag id = given.tag id)

section
variable {given nodes : Nodes} {id : NodeId} {among : Fault → Prop}

theorem Nodes.ComesOf.put {n : Node} (h : given.ComesOf nodes)
    (hcontent : ∀ s, n.content = .text s → given.content id = .text s)
    (htag : n.tag = .text ∨ n.tag = given.tag id) : given.ComesOf (nodes.put id n) := by
  intro other
  by_cases hid : id = other ∧ other < nodes.size
  · obtain ⟨rfl, hlt⟩ := hid
    have hnode : (nodes.put id n).node id = n := by simp [Nodes.put, node, hlt]
    simp only [content, tag, hnode] at hcontent htag ⊢
    exact ⟨hcontent, htag⟩
  · have hnode : (nodes.put id n).node other = nodes.node other := by
      simp only [Nodes.put, node, Array.getElem?_setIfInBounds]
      grind
    have hother := h other
    simp only [content, tag, hnode] at hother ⊢
    exact hother

theorem Nodes.ComesOf.setEntries {entries : List NodeEntry} (h : given.ComesOf nodes) :
    given.ComesOf (nodes.setEntries id entries) :=
  h.put nofun (h id).2

theorem Nodes.ComesOf.setTag (h : given.ComesOf nodes) :
    given.ComesOf (nodes.setTag id .text) :=
  h.put (h id).1 (.inl rfl)

namespace Merging

variable {takeIn : NodeId → Merging Unit}
  (htake : ∀ id, Keeps given.ComesOf among (takeIn id) Anything)
include htake

theorem entriesAfter_keeps (id : NodeId) :
    Keeps given.ComesOf among (entriesAfter takeIn id) Anything := by
  refine keeps_bind keeps_get fun nodes _ => ?_
  split
  · exact keeps_bind (htake id) fun _ _ =>
      keeps_bind keeps_get fun _ _ => keeps_pure trivial
  · exact keeps_problem

theorem broughtBy_keeps (value : NodeId) :
    Keeps given.ComesOf among (broughtBy takeIn value) Anything := by
  refine keeps_bind keeps_get fun nodes _ => ?_
  split
  · exact keeps_bind (keeps_mapM (entriesAfter_keeps htake) _) fun _ _ => keeps_pure trivial
  · exact entriesAfter_keeps htake value

theorem takeRest_keeps (id : NodeId) (kept rest : List NodeEntry) :
    Keeps given.ComesOf among (takeRest takeIn id kept rest) Anything := by
  induction rest generalizing kept with
  | nil => exact keeps_pure trivial
  | cons entry rest ih =>
    refine keeps_bind keeps_get fun nodes _ => ?_
    dsimp only
    split
    · refine keeps_bind (keeps_modify fun _ h => h.setEntries) fun _ _ =>
        keeps_bind (broughtBy_keeps htake _) fun _ _ => keeps_bind keeps_get fun _ _ => ?_
      split
      · exact keeps_bind (ih kept) fun _ _ => keeps_pure trivial
      · exact keeps_pure trivial
    · split
      · exact keeps_bind (keeps_modify fun _ h => h.setTag) fun _ _ => ih _
      · exact ih _

omit htake in
theorem takeIn_keeps (fuel : Nat) (id : NodeId) :
    Keeps given.ComesOf among (Merging.takeIn fuel id) Anything := by
  induction fuel generalizing id with
  | zero => exact keeps_pure trivial
  | succ fuel ih =>
    refine keeps_bind keeps_get fun nodes _ =>
      keeps_bind (takeRest_keeps ih id [] _) fun brought _ => ?_
    split
    · exact keeps_modify fun _ h => h.setEntries
    · exact keeps_pure trivial

end Merging

theorem scalarText_ok {fuel : Nat} {s : String} (h : scalarText nodes fuel id = .ok s) :
    ∃ place, nodes.content place = .text s := by
  induction fuel generalizing id with
  | zero => cases h
  | succ fuel ih =>
    rw [scalarText] at h
    split at h
    · cases h
      exact ⟨id, ‹_›⟩
    · cases h
    · split at h
      · exact ih h
      · cases h

theorem scalarText_fault {fuel : Nat} (h : scalarText nodes fuel id = .error (.fault f)) :
    f = .endlessValue := by
  induction fuel generalizing id with
  | zero =>
    cases h
    rfl
  | succ fuel ih =>
    rw [scalarText] at h
    split at h
    · cases h
    · cases h
    · split at h
      · exact ih h
      · cases h

/-- A scalar does not convert: a text under its tag, a mapping that stands for a time,
or one that stands for itself. -/
def Nodes.Unconverted (nodes : Nodes) (f : Fault) : Prop :=
  (∃ id place s, nodes.content place = .text s ∧ scalarValue (nodes.tag id) s = .error (.fault f)) ∨
    f = .timeOfMapping ∨ f = .endlessValue

theorem scalarOf_fault (hnodes : given.ComesOf nodes)
    (h : scalarOf nodes id = .error (.fault f)) : given.Unconverted f := by
  have hconvert {s : String} (hs : scalarText nodes (nodes.size + 1) id = .ok s)
      (h : scalarValue (nodes.tag id) s = .error (.fault f)) : given.Unconverted f := by
    obtain ⟨place, hplace⟩ := scalarText_ok hs
    obtain htext | htag := (hnodes id).2
    · rw [htext] at h
      cases h
    · exact .inl ⟨id, place, s, (hnodes place).1 s hplace, htag ▸ h⟩
  unfold scalarOf at h
  split at h
  · cases h
  · cases h
  · cases h
  · obtain h | ⟨s, hs, h⟩ := bind_error.mp h
    · exact .inr (.inr (scalarText_fault h))
    · split at h
      · cases h
        exact .inr (.inl rfl)
      · exact hconvert hs h

namespace Make

def ComesOf (given : Nodes) (m : Making) : Prop :=
  given.ComesOf m.nodes

variable (id : NodeId)

theorem part_keeps : Keeps (ComesOf given) given.Unconverted (part id) Anything := by
  have hnew : Keeps (ComesOf given) given.Unconverted (newPart id) Anything := by
    refine keeps_bind keeps_get fun m hm => ?_
    dsimp only
    split
    · exact keeps_bind (keeps_modify fun _ h => h) fun _ _ => keeps_pure trivial
    · exact keeps_bind (keeps_lift (fun _ _ => trivial) fun f => scalarOf_fault hm) fun _ _ =>
        keeps_pure trivial
  refine keeps_bind keeps_get fun m _ => ?_
  split
  · exact keeps_pure trivial
  · exact keeps_bind hnew fun _ _ =>
      keeps_bind (keeps_modify fun _ h => h) fun _ _ => keeps_pure trivial

theorem entry_keeps (e : NodeEntry) :
    Keeps (ComesOf given) given.Unconverted (entry e) Anything := by
  have hkey : Keeps (ComesOf given) given.Unconverted (key e.1) Anything := by
    refine keeps_bind (part_keeps e.1) fun p _ => ?_
    split
    · exact keeps_pure trivial
    · exact keeps_problem
  exact keeps_bind hkey fun _ _ => keeps_bind (part_keeps e.2) fun _ _ => keeps_pure trivial

theorem entries_keeps : Keeps (ComesOf given) given.Unconverted (entries id) Anything := by
  refine keeps_bind keeps_get fun m hm => ?_
  have hmerge : Keeps given.ComesOf given.Unconverted
      (Merging.takeIn (m.nodes.entryCount + 1) id) Anything := Merging.takeIn_keeps _ _
  refine keeps_bind (keeps_lift (fun merged h => ((hmerge _ hm).1 _ _ h).1) (hmerge _ hm).2)
    fun merged hmerged => ?_
  exact keeps_bind (keeps_set hmerged) fun _ _ =>
    keeps_bind (keeps_mapM entry_keeps _) fun _ _ => keeps_pure trivial

theorem pair_keeps : Keeps (ComesOf given) given.Unconverted (pair id) Anything := by
  refine keeps_bind keeps_get fun m _ => ?_
  split
  · exact keeps_bind (part_keeps _) fun _ _ =>
      keeps_bind (part_keeps _) fun _ _ => keeps_pure trivial
  · exact keeps_problem

theorem fill_keeps : Keeps (ComesOf given) given.Unconverted (fill id) Anything := by
  have hput (p : Part) : Keeps (ComesOf given) given.Unconverted (put id p) Anything :=
    keeps_modify fun _ h => h
  refine keeps_bind keeps_get fun m _ => ?_
  dsimp only
  split
  · exact keeps_bind (keeps_forM (fun item => keeps_map (part_keeps item)) _) fun _ _ => hput _
  · exact keeps_bind (keeps_mapM pair_keeps _) fun _ _ => hput _
  · exact keeps_bind (entries_keeps id) fun _ _ => hput _
  · exact keeps_bind (entries_keeps id) fun _ _ => hput _
  · exact keeps_problem

theorem rounds_keeps (fuel : Nat) :
    Keeps (ComesOf given) given.Unconverted (rounds fuel) Anything := by
  induction fuel with
  | zero => exact keeps_bind keeps_get fun _ _ => keeps_pure trivial
  | succ fuel ih =>
    rw [rounds_succ]
    refine keeps_bind keeps_get fun m _ => ?_
    split
    · exact keeps_bind (keeps_modify fun _ h => h) fun _ _ =>
        keeps_bind (keeps_forM fill_keeps _) fun _ _ => ih
    · exact keeps_pure trivial

end Make

end

theorem Graph.value_fault {g : Graph} (h : g.value = .error (.fault f)) :
    g.nodes.Unconverted f := by
  have hmake : Keeps (Make.ComesOf g.nodes) g.nodes.Unconverted
      (Make.part g.root >>= fun _ => Make.rounds (g.nodes.size + 1)) Anything :=
    keeps_bind (Make.part_keeps g.root) fun _ _ => Make.rounds_keeps _
  have hstart : Make.ComesOf g.nodes ⟨g.nodes, Array.replicate g.nodes.size none, []⟩ :=
    fun _ => ⟨fun _ => id, .inr rfl⟩
  obtain hparts | ⟨parts, -, h⟩ := bind_error.mp h
  · obtain hrun | ⟨_, -, ⟨⟩⟩ := bind_error.mp hparts
    exact (hmake _ hstart).2 f hrun
  · dsimp only at h
    split at h <;> cases h

-- -----------------------------------------------------------------------------
-- Texts
-- -----------------------------------------------------------------------------

/-- A text ends at a fault: at the first document without a value, in which a scalar
does not convert, or behind the documents, where no more tokens can be read. -/
inductive Unreadable (text : String) : Fault → Prop
  | scalar {before : List Graph} {g : Graph} {after : List Graph} {f : Fault}
      (hsplit : (documents text).graphs = before ++ g :: after)
      (hbefore : ∀ g ∈ before, ∃ v, g.value = .ok v) (h : g.value = .error (.fault f))
      (hscalar : g.nodes.Unconverted f) : Unreadable text f
  | token {f : Fault} (hall : ∀ g ∈ (documents text).graphs, ∃ v, g.value = .ok v)
      (h : (documents text).stop = some (.fault f)) : Unreadable text f

theorem readAll_fault {text : String} :
    readAll text = .error (.fault f) ↔ Unreadable text f := by
  constructor
  · intro h
    obtain h | ⟨values, hvalues, h⟩ := bind_error.mp h
    · obtain ⟨before, g, after, hsplit, hbefore, hvalue⟩ := mapM_error.mp h
      exact .scalar hsplit hbefore hvalue (Graph.value_fault hvalue)
    · split at h
      · cases h
        exact .token (exists_mapM_ok.mp ⟨values, hvalues⟩) ‹_›
      · cases h
  · rintro (⟨hsplit, hbefore, h, -⟩ | ⟨hall, h⟩)
    · exact bind_error.mpr (.inl (mapM_error.mpr ⟨_, _, _, hsplit, hbefore, h⟩))
    · obtain ⟨values, hvalues⟩ := exists_mapM_ok.mpr hall
      refine bind_error.mpr (.inr ⟨values, hvalues, ?_⟩)
      rw [h]

end Yaml

end PodPolicy
