import Mathlib.Data.List.TakeWhile
import PodPolicy.Proofs.Checking
import PodPolicy.Proofs.Independence

/-!
# Rules that are switched off

From a list between commas in the environment, and options behind a command, to
the rules of the engine. `run_disables`: the setting names what stands between
commas, less blanks and empty pieces, and every list of ids has a text that names
it. A rule of the catalog is active unless it is named, and nothing else about the
setting or the options counts. Of the other settings it is only assumed that they
can be read.
-/

namespace PodPolicy

open Text

-- -----------------------------------------------------------------------------
-- Blanks
-- -----------------------------------------------------------------------------

def AllBlank (cs : List Char) : Prop :=
  ∀ c ∈ cs, isBlank c = true

structure IsTrimmed (cs : List Char) : Prop where
  first : ∀ c ∈ cs.head?, isBlank c = false
  last : ∀ c ∈ cs.getLast?, isBlank c = false

/-- A text is another one with blanks around it. -/
def Pads (core cs : List Char) : Prop :=
  ∃ before after, AllBlank before ∧ AllBlank after ∧ cs = before ++ core ++ after

section
variable {cs core : List Char}

theorem isTrimmed_nil : IsTrimmed [] :=
  ⟨nofun, nofun⟩

theorem allBlank_append {before after : List Char} :
    AllBlank (before ++ after) ↔ AllBlank before ∧ AllBlank after :=
  List.forall_mem_append

theorem pads_nil : Pads [] cs ↔ AllBlank cs := by
  constructor
  · rintro ⟨before, after, hbefore, hafter, rfl⟩
    rw [List.append_nil]
    exact allBlank_append.mpr ⟨hbefore, hafter⟩
  · exact fun h => ⟨cs, [], h, nofun, by simp⟩

theorem IsTrimmed.reverse (h : IsTrimmed cs) : IsTrimmed cs.reverse :=
  ⟨by simpa using h.last, by simpa using h.first⟩

theorem dropWhile_blanks {before rest : List Char} (hbefore : AllBlank before)
    (h : ∀ c ∈ rest.head?, isBlank c = false) : (before ++ rest).dropWhile isBlank = rest := by
  rw [List.dropWhile_append_of_pos hbefore]
  cases rest with
  | nil => rfl
  | cons c more => rw [List.dropWhile_cons_of_neg (by simp [h c rfl])]

theorem exists_blanks (cs : List Char) : ∃ before, AllBlank before ∧
    cs = before ++ cs.dropWhile isBlank :=
  ⟨cs.takeWhile isBlank, fun _ hc => List.mem_takeWhile_imp hc,
    List.takeWhile_append_dropWhile.symm⟩

theorem dropWhile_head : ∀ c ∈ (cs.dropWhile isBlank).head?, isBlank c = false := by
  intro c hc
  have hhead := List.head?_dropWhile_not isBlank cs
  rw [Option.mem_def.mp hc] at hhead
  exact hhead

theorem Pads.trimBy (htrimmed : IsTrimmed core) (h : Pads core cs) :
    trimBy isBlank cs = core := by
  obtain ⟨before, after, hbefore, hafter, rfl⟩ := h
  have hafter' : AllBlank after.reverse := fun c hc => hafter c (List.mem_reverse.mp hc)
  by_cases hcore : core = []
  · subst hcore
    have hnone : (before ++ [] ++ after).dropWhile isBlank = [] :=
      List.dropWhile_eq_nil_iff.mpr (pads_nil.mp ⟨before, after, hbefore, hafter, rfl⟩)
    rw [Text.trimBy, hnone]
    rfl
  · have hfirst : ∀ c ∈ (core ++ after).head?, isBlank c = false := by
      rw [List.head?_append_of_ne_nil _ hcore]
      exact htrimmed.first
    rw [Text.trimBy, List.append_assoc, dropWhile_blanks hbefore hfirst, List.reverse_append,
      dropWhile_blanks hafter' htrimmed.reverse.first, List.reverse_reverse]

theorem trimBy_trims (cs : List Char) :
    IsTrimmed (trimBy isBlank cs) ∧ Pads (trimBy isBlank cs) cs := by
  obtain ⟨before, hbefore, hcs⟩ := exists_blanks cs
  obtain ⟨after, hafter, hrest⟩ := exists_blanks (cs.dropWhile isBlank).reverse
  have hcore : cs.dropWhile isBlank = Text.trimBy isBlank cs ++ after.reverse := by
    rw [Text.trimBy, ← List.reverse_append, ← hrest, List.reverse_reverse]
  refine ⟨⟨?first, ?last⟩, before, after.reverse, hbefore,
    fun c hc => hafter c (List.mem_reverse.mp hc), ?pads⟩
  case first =>
    have hhead := @dropWhile_head cs
    rw [hcore] at hhead
    exact fun c hc => hhead c (List.mem_head?_append_of_mem_head? hc)
  case last =>
    rw [Text.trimBy, List.getLast?_reverse]
    exact dropWhile_head
  case pads => rw [List.append_assoc, ← hcore, ← hcs]

end

-- -----------------------------------------------------------------------------
-- Pieces
-- -----------------------------------------------------------------------------

section
variable {separator : Char} {cs : List Char} {texts : List (List Char)}

theorem pieces_eq_splitOn : pieces separator cs = cs.splitOn separator := by
  induction cs with
  | nil => rfl
  | cons c rest ih =>
    rw [pieces, List.splitOn_cons_eq_if_modifyHead, ih]
    by_cases h : c = separator
    · simp [h]
    · rw [if_neg h, if_neg (by simpa using h)]
      cases hpieces : rest.splitOn separator with
      | nil => exact absurd hpieces (List.splitOn_ne_nil _ _)
      | cons piece more => rfl

theorem pieces_intercalate (htexts : ∀ text ∈ texts, separator ∉ text) (hne : texts ≠ []) :
    pieces separator ([separator].intercalate texts) = texts := by
  rw [pieces_eq_splitOn, List.splitOn_intercalate separator htexts hne]

theorem intercalate_pieces : [separator].intercalate (pieces separator cs) = cs := by
  rw [pieces_eq_splitOn, List.intercalate_splitOn]

theorem not_mem_pieces : ∀ piece ∈ pieces separator cs, separator ∉ piece := by
  induction cs with
  | nil => simp [pieces]
  | cons c rest ih =>
    rw [pieces]
    split
    · simpa using ih
    · rename_i hc
      split
      · simpa using Ne.symm hc
      · rename_i piece more hpieces
        rw [hpieces, List.forall_mem_cons] at ih
        rw [List.forall_mem_cons, List.mem_cons, not_or]
        exact ⟨⟨Ne.symm hc, ih.1⟩, ih.2⟩

end

-- -----------------------------------------------------------------------------
-- Lists of ids
-- -----------------------------------------------------------------------------

structure IsListed (id : String) : Prop where
  nonempty : id ≠ ""
  trimmed : IsTrimmed id.toList
  commaFree : ',' ∉ id.toList

/-- The ids that pieces name: each piece one, with blanks around it, or none if it
is blank. -/
inductive Names : List (List Char) → List String → Prop
  | nil : Names [] []
  | blank {piece : List Char} {more : List (List Char)} {ids : List String}
      (hpiece : AllBlank piece) (hmore : Names more ids) : Names (piece :: more) ids
  | id {piece : List Char} {more : List (List Char)} {id : String} {ids : List String}
      (hne : id ≠ "") (htrimmed : IsTrimmed id.toList) (hpads : Pads id.toList piece)
      (hmore : Names more ids) : Names (piece :: more) (id :: ids)

/-- A text lists ids: it is made of pieces between commas that name them. -/
def Lists (s : String) (ids : List String) : Prop :=
  ∃ texts, (∀ text ∈ texts, ',' ∉ text) ∧ s.toList = [','].intercalate texts ∧ Names texts ids

section
variable {s : String} {ids : List String} {texts : List (List Char)}

def idsOf (texts : List (List Char)) : List String :=
  ((texts.map (trimBy isBlank)).filter (!·.isEmpty)).map String.ofList

theorem idsOf_blank {piece : List Char} (h : trimBy isBlank piece = []) :
    idsOf (piece :: texts) = idsOf texts := by
  simp [idsOf, h]

theorem idsOf_id {piece : List Char} (h : trimBy isBlank piece ≠ []) :
    idsOf (piece :: texts) = String.ofList (trimBy isBlank piece) :: idsOf texts := by
  simp [idsOf, h]

theorem names_iff : Names texts ids ↔ idsOf texts = ids := by
  constructor
  · intro h
    induction h with
    | nil => rfl
    | blank hpiece hmore ih =>
      rw [idsOf_blank (Pads.trimBy isTrimmed_nil (pads_nil.mpr hpiece)), ih]
    | @id piece more id ids hne htrimmed hpads hmore ih =>
      have hid := Pads.trimBy htrimmed hpads
      rw [idsOf_id (by simpa [hid] using hne), ih, hid, String.ofList_toList]
  · rintro rfl
    induction texts with
    | nil => exact .nil
    | cons piece more ih =>
      obtain ⟨htrimmed, hpads⟩ := trimBy_trims piece
      by_cases hempty : trimBy isBlank piece = []
      · rw [idsOf_blank hempty]
        rw [hempty] at hpads
        exact .blank (pads_nil.mp hpads) ih
      · rw [idsOf_id hempty]
        refine .id (by simpa using hempty) ?_ ?_ ih <;> rwa [String.toList_ofList]

theorem ruleIds_eq : ruleIds s = idsOf (pieces ',' s.toList) :=
  rfl

theorem lists_iff : Lists s ids ↔ ruleIds s = ids := by
  constructor
  · rintro ⟨texts, htexts, hs, hnames⟩
    cases texts with
    | nil =>
      cases hnames
      rw [ruleIds_eq, hs]
      rfl
    | cons piece more =>
      rw [ruleIds_eq, hs, pieces_intercalate htexts (List.cons_ne_nil _ _)]
      exact names_iff.mp hnames
  · rintro rfl
    exact ⟨pieces ',' s.toList, not_mem_pieces, intercalate_pieces.symm, names_iff.mpr rfl⟩

theorem Names.isListed (h : Names texts ids) (htexts : ∀ text ∈ texts, ',' ∉ text) :
    ∀ id ∈ ids, IsListed id := by
  induction h with
  | nil => nofun
  | blank hpiece hmore ih => exact ih (List.forall_mem_cons.mp htexts).2
  | id hne htrimmed hpads hmore ih =>
    obtain ⟨hpiece, hrest⟩ := List.forall_mem_cons.mp htexts
    obtain ⟨before, after, -, -, rfl⟩ := hpads
    refine List.forall_mem_cons.mpr ⟨⟨hne, htrimmed, fun hcomma => hpiece ?_⟩, ih hrest⟩
    simp [hcomma]

theorem isListed_ruleIds : ∀ id ∈ ruleIds s, IsListed id := by
  obtain ⟨texts, htexts, -, hnames⟩ := lists_iff.mpr (rfl : ruleIds s = ruleIds s)
  exact hnames.isListed htexts

theorem names_ids (h : ∀ id ∈ ids, IsListed id) : Names (ids.map String.toList) ids := by
  induction ids with
  | nil => exact .nil
  | cons id rest ih =>
    obtain ⟨hid, hrest⟩ := List.forall_mem_cons.mp h
    exact .id hid.nonempty hid.trimmed ⟨[], [], nofun, nofun, by simp⟩ (ih hrest)

theorem ruleIds_intercalate (h : ∀ id ∈ ids, IsListed id) :
    ruleIds (",".intercalate ids) = ids := by
  refine lists_iff.mp ⟨ids.map String.toList, ?_, String.toList_intercalate, names_ids h⟩
  intro text htext
  obtain ⟨id, hid, rfl⟩ := List.mem_map.mp htext
  exact (h id hid).commaFree

end

-- -----------------------------------------------------------------------------
-- Settings
-- -----------------------------------------------------------------------------

def Environment.HasNumbers (environment : Environment) : Prop :=
  (∃ port, Settings.readNumber (environment.get "KURE_POLICY_PORT" "8443") = .ok port) ∧
    ∃ workers, Settings.readNumber (environment.get "KURE_POLICY_MAX_WORKERS" "1") = .ok workers

section
variable {environment : Environment} {settings settings' : Settings}

theorem exists_settings :
    (∃ settings, Settings.read environment = .ok settings) ↔ environment.HasNumbers := by
  simp only [Settings.read, bind_ok, pure_ok]
  constructor
  · rintro ⟨settings, port, hport, workers, hworkers, -⟩
    exact ⟨⟨port, hport⟩, workers, hworkers⟩
  · rintro ⟨⟨port, hport⟩, workers, hworkers⟩
    exact ⟨_, port, hport, workers, hworkers, rfl⟩

theorem disabledRules_read (h : Settings.read environment = .ok settings) :
    settings.disabledRules = ruleIds (environment.get "KURE_POLICY_DISABLED_RULES" "") := by
  simp only [Settings.read, bind_ok, pure_ok] at h
  obtain ⟨port, -, workers, -, rfl⟩ := h
  rfl

end

-- -----------------------------------------------------------------------------
-- Engines with the same rules
-- -----------------------------------------------------------------------------

section
variable {e e' : Engine}

theorem Check.print_congr (h : e.activeRules = e'.activeRules) : print e = print e' := by
  have hmanifest : manifest e = manifest e' := by
    funext path entries
    rw [manifest, manifest, evaluate_congr h]
  have hfile : file e = file e' := by
    funext files path
    simp only [file, manifests, hmanifest]
  funext files paths format
  simp only [print, reports, hfile]

end

-- -----------------------------------------------------------------------------
-- Runs
-- -----------------------------------------------------------------------------

namespace Command

variable {environment environment' : Environment} {settings settings' : Settings} {files : Files}
  {args : List String} {paths options options' : List String} {format : Format} {s s' : String}

theorem activeRules_engineFor : (engineFor settings options).activeRules =
    catalog.filter fun r => r.id ∉ settings.disabledRules ++ options :=
  Engine.activeRules_make

theorem run_check (hsettings : Settings.read environment = .ok settings)
    (hargs : read args = .ok (.check paths format (options.map some))) :
    run environment files args =
      checkOutcome (Check.print (engineFor settings options) files paths format) := by
  simp only [run, hsettings, hargs, Check.outcome_check]

theorem run_rules (hsettings : Settings.read environment = .ok settings)
    (hargs : read args = .ok .rules) : run environment files args =
      .finished 0 (listing ((engineFor settings []).activeRules.map Rule.info)) "" := by
  simp only [run, hsettings, hargs]
  rfl

/-- Two lists of ids name the same rules, in whatever order and however often. Ids
that name no rule do not count. -/
def NameSame (ids ids' : List String) : Prop :=
  ∀ r ∈ catalog, r.id ∈ ids ↔ r.id ∈ ids'

theorem activeRules_same
    (h : NameSame (settings.disabledRules ++ options) (settings'.disabledRules ++ options')) :
    (engineFor settings options).activeRules = (engineFor settings' options').activeRules := by
  rw [activeRules_engineFor, activeRules_engineFor]
  exact List.filter_congr fun r hr => decide_eq_decide.mpr (not_congr (h r hr))

/-- What a text that lists rules to be switched off comes to. It is read as the ids
that it lists, and the rules that are at work are those that neither it nor an option
names: they are listed, and a check is made with them. -/
structure Disables (environment : Environment) (s : String) (settings : Settings) : Prop where
  lists : ∀ ids, Lists s ids ↔ settings.disabledRules = ids
  listed : ∀ id ∈ settings.disabledRules, IsListed id
  again : ruleIds (",".intercalate settings.disabledRules) = settings.disabledRules
  active : ∀ options, (engineFor settings options).activeRules =
    catalog.filter fun r => r.id ∉ settings.disabledRules ∧ r.id ∉ options
  rules : ∀ files args, read args = .ok .rules → run environment files args =
    .finished 0 (listing ((catalog.filter fun r => r.id ∉ settings.disabledRules).map Rule.info)) ""
  check : ∀ files args paths format options,
    read args = .ok (.check paths format (options.map some)) → run environment files args =
      checkOutcome (Check.print (engineFor settings options) files paths format)

theorem disables_read (hsettings : Settings.read environment = .ok settings)
    (hs : environment.get "KURE_POLICY_DISABLED_RULES" "" = s) :
    Disables environment s settings := by
  have hids : settings.disabledRules = ruleIds s := by rw [disabledRules_read hsettings, hs]
  have hactive (options : List String) : (engineFor settings options).activeRules =
      catalog.filter fun r => r.id ∉ settings.disabledRules ∧ r.id ∉ options := by
    rw [activeRules_engineFor]
    simp only [List.mem_append, not_or]
  constructor
  case lists => exact fun ids => hids ▸ lists_iff
  case listed => exact hids ▸ isListed_ruleIds
  case again => exact hids ▸ ruleIds_intercalate isListed_ruleIds
  case active => exact hactive
  case rules =>
    intro files args hargs
    rw [run_rules hsettings hargs, hactive]
    simp only [List.not_mem_nil, not_false_eq_true, and_true]
  case check => exact fun _ _ _ _ _ hargs => run_check hsettings hargs

/-- The rules that the environment and the options of a command switch off. A list of
ids is read of its own text between commas, and whatever lists the same ids, in any
order and with any others that name no rule, leaves the same rules and the same checks. -/
theorem run_disables (hnumbers : environment.HasNumbers)
    (hs : environment.get "KURE_POLICY_DISABLED_RULES" "" = s) :
    ∃ settings, Settings.read environment = .ok settings ∧ settings.disabledRules = ruleIds s ∧
      Disables environment s settings ∧
      (∀ ids, (∀ id ∈ ids, IsListed id) → ruleIds (",".intercalate ids) = ids) ∧
      ∀ environment' s' ids ids' options options', environment'.HasNumbers →
        environment'.get "KURE_POLICY_DISABLED_RULES" "" = s' → Lists s ids → Lists s' ids' →
        NameSame (ids ++ options) (ids' ++ options') →
        ∃ settings', Settings.read environment' = .ok settings' ∧
          (engineFor settings' options').activeRules = (engineFor settings options).activeRules ∧
          ∀ files args args' paths format,
            read args = .ok (.check paths format (options.map some)) →
            read args' = .ok (.check paths format (options'.map some)) →
            run environment' files args' = run environment files args := by
  obtain ⟨settings, hsettings⟩ := exists_settings.mpr hnumbers
  have hdisables := disables_read hsettings hs
  refine ⟨settings, hsettings, hs ▸ disabledRules_read hsettings, hdisables,
    fun _ => ruleIds_intercalate, ?_⟩
  intro environment' s' ids ids' options options' hnumbers' hs' hlists hlists' hsame
  obtain ⟨settings', hsettings'⟩ := exists_settings.mpr hnumbers'
  have hdisables' := disables_read hsettings' hs'
  have hrules : (engineFor settings options).activeRules =
      (engineFor settings' options').activeRules := by
    refine activeRules_same ?_
    rwa [(hdisables.lists ids).mp hlists, (hdisables'.lists ids').mp hlists']
  refine ⟨settings', hsettings', hrules.symm, ?_⟩
  intro files args args' paths format hargs hargs'
  rw [hdisables.check _ _ _ _ _ hargs, hdisables'.check _ _ _ _ _ hargs', Check.print_congr hrules]

/-- Ids with blanks around them, one of them twice and one that names no rule, and an
empty piece. -/
def paddedIds : String :=
  " app-label ,,\tnobody\u3000, host-pid ,app-label"

def paddedEnvironment : Environment :=
  [("KURE_POLICY_PORT", " 80_80 "), ("KURE_POLICY_DISABLED_RULES", paddedIds)]

def plainEnvironment : Environment :=
  [("KURE_POLICY_DISABLED_RULES", "host-pid")]

theorem paddedIds_nameSame :
    NameSame (["app-label", "nobody", "host-pid", "app-label"] ++ ["cpu-limit-ceiling"])
      (["host-pid"] ++ ["cpu-limit-ceiling", "app-label"]) := by
  unfold NameSame
  decide

theorem run_paddedIds :
    paddedEnvironment.HasNumbers ∧
    paddedEnvironment.get "KURE_POLICY_DISABLED_RULES" "" = paddedIds ∧
    ∃ settings, Settings.read paddedEnvironment = .ok settings ∧
      settings.disabledRules = ["app-label", "nobody", "host-pid", "app-label"] ∧
      (engineFor settings ["cpu-limit-ceiling"]).activeRules.length = 41 ∧
      ∀ files, run plainEnvironment files
          ["check", "pod.yaml", "--disable=cpu-limit-ceiling", "--disable", "app-label"] =
        run paddedEnvironment files ["check", "--disable", "cpu-limit-ceiling", "pod.yaml"] := by
  have hnumbers : paddedEnvironment.HasNumbers := ⟨⟨8080, rfl⟩, 1, rfl⟩
  have hplain : plainEnvironment.HasNumbers := ⟨⟨8443, rfl⟩, 1, rfl⟩
  obtain ⟨settings, hsettings, hids, hdisables, -, hsame⟩ :=
    run_disables hnumbers (rfl : _ = paddedIds)
  refine ⟨hnumbers, rfl, settings, hsettings, hids, ?count, ?same⟩
  case count =>
    rw [hdisables.active, hids]
    decide
  case same =>
    obtain ⟨_, -, -, hruns⟩ := hsame _ _ _ _ _ _ hplain rfl
      ((hdisables.lists _).mpr hids) (lists_iff.mpr rfl) paddedIds_nameSame
    exact fun files => hruns files _ _ ["pod.yaml"] .text rfl rfl

end Command

end PodPolicy
