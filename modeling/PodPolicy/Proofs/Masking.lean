import PodPolicy.Proofs.Blocks
import PodPolicy.Proofs.Likeness
import PodPolicy.Proofs.NullFields

/-!
# Mappings that no rule reads

Some parts of a pod are mappings that may hold anything. A pod is masked by putting
other mappings in their place. `Pod.ofForm_tidy`: to tidy a form is to mask its pod.
`catalog_looksPastMasks`: every rule of the catalog finds the same in a pod as in the
masked one, for it looks only at whether such a mapping is there.
-/

namespace PodPolicy

-- -----------------------------------------------------------------------------
-- Masked parts
-- -----------------------------------------------------------------------------

section
variable (f : OpaqueMap → OpaqueMap)

def EnvVarSource.masked (source : EnvVarSource) : EnvVarSource where
  secretKeyRef := source.secretKeyRef.map f
  configMapKeyRef := source.configMapKeyRef.map f
  fieldRef := source.fieldRef.map f

def EnvVar.masked (v : EnvVar) : EnvVar :=
  { v with valueFrom := v.valueFrom.map (EnvVarSource.masked f) }

def Lifecycle.masked (lifecycle : Lifecycle) : Lifecycle where
  preStop := lifecycle.preStop.map f
  postStart := lifecycle.postStart.map f

def Container.masked (c : Container) : Container :=
  { c with
    env := c.env.map (List.map (EnvVar.masked f))
    lifecycle := c.lifecycle.map (Lifecycle.masked f)
    volumeMounts := c.volumeMounts.map (List.map f) }

def Volume.masked (v : Volume) : Volume :=
  { v with hostPath := v.hostPath.map f }

def PodSpec.masked (spec : PodSpec) : PodSpec :=
  { spec with
    volumes := spec.volumes.map (Volume.masked f)
    containers := spec.containers.map (Container.masked f) }

def Pod.masked (pod : Pod) : Pod :=
  { pod with spec := pod.spec.masked f }

end

theorem EnvVarSource.masked_id : EnvVarSource.masked id = id := by
  funext source
  simp [masked]

theorem EnvVar.masked_id : EnvVar.masked id = id := by
  funext v
  simp [masked, EnvVarSource.masked_id]

theorem Lifecycle.masked_id : Lifecycle.masked id = id := by
  funext lifecycle
  simp [masked]

theorem Container.masked_id : Container.masked id = id := by
  funext c
  simp [masked, EnvVar.masked_id, Lifecycle.masked_id]

theorem Volume.masked_id : Volume.masked id = id := by
  funext v
  simp [masked]

theorem Pod.masked_id (pod : Pod) : pod.masked id = pod := by
  simp [masked, PodSpec.masked, Container.masked_id, Volume.masked_id]

theorem Latitude.keep_all {l : Latitude} (hl : l.contents = false) : l.keep = id := by
  funext entries
  rw [keep, hl]
  rfl

-- -----------------------------------------------------------------------------
-- Tidy forms
-- -----------------------------------------------------------------------------

section
variable {α β : Type} {f : α → α} {g : α → β} {k : β → β}

@[simp]
theorem Presence.mapSlot_required (a : α) : Presence.required.mapSlot f a = f a := rfl

@[simp]
theorem Presence.mapSlot_collapsing (slot : Option α) :
    Presence.collapsing.mapSlot f slot = slot.map f := rfl

@[simp]
theorem Presence.join_mapSlot (slot : Option (Option α)) :
    Option.join (Presence.optional.mapSlot f slot) = (Option.join slot).map f := by
  rcases slot with _ | _ | a <;> rfl

theorem map_map_tidy (h : ∀ a, g (f a) = k (g a)) (o : Option α) :
    (o.map f).map g = (o.map g).map k := by
  simp only [Option.map_map, Function.comp_def, h]

theorem list_map_tidy (h : ∀ a, g (f a) = k (g a)) (items : List α) :
    (items.map f).map g = (items.map g).map k := by
  simp only [List.map_map, Function.comp_def, h]

theorem getD_map_tidy (h : ∀ a, g (f a) = k (g a)) (slot : Option (List α)) :
    ((slot.map (List.map f)).getD []).map g = ((slot.getD []).map g).map k := by
  cases slot with
  | none => rfl
  | some items => exact list_map_tidy h items

end

section
variable {f : OpaqueMap → OpaqueMap} {item schema : Schema} {name : String} {field : Field}
  {fields : Fields}

@[simp]
theorem Schema.tidy_bool : Schema.bool.tidy f = id := rfl
@[simp]
theorem Schema.tidy_int : Schema.int.tidy f = id := rfl
@[simp]
theorem Schema.tidy_text : Schema.text.tidy f = id := rfl
@[simp]
theorem Schema.tidy_quantity : Schema.quantity.tidy f = id := rfl
@[simp]
theorem Schema.tidy_opaque : (Schema.dict .any).tidy f = f := rfl
@[simp]
theorem Schema.tidy_quantities : (Schema.dict .quantity).tidy f = id := rfl
@[simp]
theorem Schema.tidy_labels : (Schema.dict .label).tidy f = id := rfl
@[simp]
theorem Schema.tidy_list : (Schema.list item).tidy f = List.map (item.tidy f) := rfl

@[simp]
theorem Schema.tidy_record (form : (Schema.record name fields).Form) :
    (Schema.record name fields).tidy f form = (fields.tidy f form.1, []) := rfl

@[simp]
theorem Fields.tidy_cons (form : (Fields.cons field schema fields).Form) :
    (Fields.cons field schema fields).tidy f form =
      (field.presence.mapSlot (schema.tidy f) form.1, fields.tidy f form.2) := rfl

theorem SeccompProfile.ofForm_tidy (form : Declared.seccompProfile.Form) :
    ofForm (Declared.seccompProfile.tidy f form) = ofForm form := by
  simp [ofForm]

theorem Capabilities.ofForm_tidy (form : Declared.capabilities.Form) :
    ofForm (Declared.capabilities.tidy f form) = ofForm form := by
  simp [ofForm]

theorem SecurityContext.ofForm_tidy (form : Declared.securityContext.Form) :
    ofForm (Declared.securityContext.tidy f form) = ofForm form := by
  simp [ofForm, map_map_tidy (k := id) Capabilities.ofForm_tidy,
    map_map_tidy (k := id) SeccompProfile.ofForm_tidy]

theorem PodSecurityContext.ofForm_tidy (form : Declared.podSecurityContext.Form) :
    ofForm (Declared.podSecurityContext.tidy f form) = ofForm form := by
  simp [ofForm, map_map_tidy (k := id) SeccompProfile.ofForm_tidy]

theorem ResourceRequirements.ofForm_tidy (form : Declared.resourceRequirements.Form) :
    ofForm (Declared.resourceRequirements.tidy f form) = ofForm form := by
  simp [ofForm]

theorem ContainerPort.ofForm_tidy (form : Declared.containerPort.Form) :
    ofForm (Declared.containerPort.tidy f form) = ofForm form := by
  simp [ofForm]

theorem EnvVarSource.ofForm_tidy (form : Declared.envVarSource.Form) :
    ofForm (Declared.envVarSource.tidy f form) = (ofForm form).masked f := by
  simp [ofForm, masked]

theorem EnvVar.ofForm_tidy (form : Declared.envVar.Form) :
    ofForm (Declared.envVar.tidy f form) = (ofForm form).masked f := by
  simp [ofForm, masked, map_map_tidy EnvVarSource.ofForm_tidy]

theorem Probe.ofForm_tidy (form : Declared.probe.Form) :
    ofForm (Declared.probe.tidy f form) = ofForm form := by
  simp [ofForm]

theorem Lifecycle.ofForm_tidy (form : Declared.lifecycle.Form) :
    ofForm (Declared.lifecycle.tidy f form) = (ofForm form).masked f := by
  simp [ofForm, masked]

theorem Container.ofForm_tidy (form : Declared.container.Form) :
    ofForm (Declared.container.tidy f form) = (ofForm form).masked f := by
  simp [ofForm, masked, map_map_tidy (k := id) SecurityContext.ofForm_tidy,
    map_map_tidy (k := id) ResourceRequirements.ofForm_tidy,
    map_map_tidy (list_map_tidy (k := id) ContainerPort.ofForm_tidy),
    map_map_tidy (list_map_tidy EnvVar.ofForm_tidy),
    map_map_tidy (k := id) Probe.ofForm_tidy, map_map_tidy Lifecycle.ofForm_tidy]

theorem EmptyDir.ofForm_tidy (form : Declared.emptyDir.Form) :
    ofForm (Declared.emptyDir.tidy f form) = ofForm form := by
  simp [ofForm]

theorem Volume.ofForm_tidy (form : Declared.volume.Form) :
    ofForm (Declared.volume.tidy f form) = (ofForm form).masked f := by
  simp [ofForm, masked, map_map_tidy (k := id) EmptyDir.ofForm_tidy]

theorem PodSpec.ofForm_tidy (form : Declared.podSpec.Form) :
    ofForm (Declared.podSpec.tidy f form) = (ofForm form).masked f := by
  simp [ofForm, masked, map_map_tidy (k := id) PodSecurityContext.ofForm_tidy,
    getD_map_tidy Volume.ofForm_tidy, getD_map_tidy Container.ofForm_tidy]

theorem Metadata.ofForm_tidy (form : Declared.metadata.Form) :
    ofForm (Declared.metadata.tidy f form) = ofForm form := by
  simp [ofForm]

theorem Pod.ofForm_tidy (form : Declared.pod.Form) :
    ofForm (Declared.pod.tidy f form) = (ofForm form).masked f := by
  have hspec (slot : Option Declared.podSpec.Form) :
      ((slot.map (Declared.podSpec.tidy f)).map PodSpec.ofForm).getD {} =
        ((slot.map PodSpec.ofForm).getD {}).masked f := by
    cases slot with
    | none => rfl
    | some form => exact PodSpec.ofForm_tidy form
  simp only [ofForm, masked, Schema.tidy_record, Fields.tidy_cons, Schema.tidy_text,
    Presence.mapSlot_required, Presence.mapSlot_collapsing, Presence.join_mapSlot, Option.map_id,
    id_eq, map_map_tidy (k := id) Metadata.ofForm_tidy, hspec]

end

-- -----------------------------------------------------------------------------
-- Rules and masks
-- -----------------------------------------------------------------------------

def Scope.masked (f : OpaqueMap → OpaqueMap) : (s : Scope) → s.Subject → s.Subject
  | .pod, _ => ()
  | .container, c => c.masked f
  | .volume, v => v.masked f
  | .port, (c, p) => (c.masked f, p)
  | .env, (c, v) => (c.masked f, v.masked f)

section
variable {f : OpaqueMap → OpaqueMap} {pod : Pod} {r : Rule} {rules : List Rule}

theorem Scope.subjects_masked (s : Scope) :
    s.subjects (pod.masked f) = (s.subjects pod).map (s.masked f) := by
  cases s with
  | pod | container | volume => rfl
  | port =>
    simp only [subjects, Pod.masked, PodSpec.masked, List.flatMap_map, List.map_flatMap,
      List.map_map]
    rfl
  | env =>
    have henv (c : Container) : (c.masked f).envList = c.envList.map (EnvVar.masked f) := by
      simp only [Container.envList, Container.masked]
      cases c.env <;> rfl
    simp only [subjects, Pod.masked, PodSpec.masked, List.flatMap_map, List.map_flatMap,
      List.map_map, henv]
    rfl

theorem Scope.containerName?_masked (s : Scope) (subject : s.Subject) :
    s.containerName? (s.masked f subject) = s.containerName? subject := by
  cases s <;> rfl

theorem Scope.volumeName?_masked (s : Scope) (subject : s.Subject) :
    s.volumeName? (s.masked f subject) = s.volumeName? subject := by
  cases s <;> rfl

/-- A rule that finds the same in a subject of a pod and of the masked one. -/
def Rule.LooksPastMasks (r : Rule) : Prop :=
  ∀ (f : OpaqueMap → OpaqueMap) (pod : Pod) (subject : r.scope.Subject),
    r.check (pod.masked f) (r.scope.masked f subject) = r.check pod subject ∧
      r.figure (pod.masked f) (r.scope.masked f subject) = r.figure pod subject

open Catalog

theorem privilegedContainers_looksPastMasks : privilegedContainers.LooksPastMasks := by
  intro f pod _
  have hany : (pod.masked f).spec.containers.any isPrivileged =
      pod.spec.containers.any isPrivileged := by
    simp only [Pod.masked, PodSpec.masked, List.any_map]
    rfl
  simp only [privilegedContainers, hany, and_self]

theorem secretKeyRef_looksPastMasks : secretKeyRef.LooksPastMasks := by
  have hnone (f : OpaqueMap → OpaqueMap) (v : EnvVar) :
      ((v.masked f).valueFrom.bind (·.secretKeyRef)).isNone =
        (v.valueFrom.bind (·.secretKeyRef)).isNone := by
    rw [EnvVar.masked]
    cases v.valueFrom with
    | none => rfl
    | some source => exact Option.isNone_map
  rintro f pod ⟨c, v⟩
  exact ⟨congrArg (fun isNone => Finding.when (v.name == "SECRET_KEY" && isNone) _) (hnone f v), rfl⟩

theorem preStopHook_looksPastMasks : preStopHook.LooksPastMasks := by
  have hnone (f : OpaqueMap → OpaqueMap) (c : Container) :
      ((c.masked f).lifecycle.bind (·.preStop)).isNone =
        (c.lifecycle.bind (·.preStop)).isNone := by
    rw [Container.masked]
    cases c.lifecycle with
    | none => rfl
    | some hooks => exact Option.isNone_map
  exact fun f pod c => ⟨congrArg (Finding.when · _) (hnone f c), rfl⟩

/-- No rule of the catalog looks into a mapping that may hold anything. -/
theorem catalog_looksPastMasks : ∀ r ∈ catalog, r.LooksPastMasks := by
  simp only [catalog, List.forall_mem_cons, List.not_mem_nil, false_implies, implies_true, and_true,
    privilegedContainers_looksPastMasks, secretKeyRef_looksPastMasks, preStopHook_looksPastMasks,
    true_and]
  repeat' apply And.intro
  all_goals
    intro f pod subject
    first
    | exact ⟨rfl, rfl⟩
    | simp [volumeMounts, hostPathVolume, containerEnv, lifecycleHooks, Scope.masked,
        Container.masked, Volume.masked]

theorem Rule.LooksPastMasks.block (h : r.LooksPastMasks) : r.block (pod.masked f) = r.block pod := by
  have hcheck (subject) := (h f pod subject).1
  have hfigure (subject) := (h f pod subject).2
  have hviolation (subject) : r.violation (r.scope.masked f subject) = r.violation subject := by
    funext kind message
    simp only [violation, Scope.containerName?_masked, Scope.volumeName?_masked]
  have hdescribe (subject) :
      r.scope.describe (r.scope.masked f subject) = r.scope.describe subject := by
    simp only [Scope.describe, Scope.containerName?_masked, Scope.volumeName?_masked]
  have hreport := Rule.report_map hcheck hfigure hviolation hdescribe (r.scope.subjects pod)
  rw [Rule.block, Scope.subjects_masked, hreport, List.map_id']
  rfl

theorem Engine.verdict_masked {e : Engine} (h : ∀ r ∈ e.activeRules, r ∈ catalog) :
    e.verdict (pod.masked f) = e.verdict pod := by
  rw [verdict_blocks, verdict_blocks]
  exact blocks_congr fun r hr => (catalog_looksPastMasks r (h r hr)).block

end

-- -----------------------------------------------------------------------------
-- Documents that are alike
-- -----------------------------------------------------------------------------

/-- Two refusals are the same, but for places of problems, which correspond. -/
inductive ShapeError.Corresponds (l : Latitude) (v w : Value) : ShapeError → ShapeError → Prop
  | outline {s : ShapeError} (h : ∀ problems, s ≠ .mismatch problems) : Corresponds l v w s s
  | mismatch {problems problems' : List Problem}
      (h : List.Forall₂ (Problem.Corresponds l Declared.pod v w) problems problems') :
      Corresponds l v w (.mismatch problems) (.mismatch problems')

/-- Two values are refused with errors that correspond, or read as pods that are the
same but for what is masked. -/
inductive Readings (l : Latitude) (v w : Value) : Except ShapeError Pod → Except ShapeError Pod → Prop
  | refused {s s' : ShapeError} (h : s.Corresponds l v w s') : Readings l v w (.error s) (.error s')
  | read {pod pod' : Pod} (h : pod.masked l.keep = pod'.masked l.keep) :
      Readings l v w (.ok pod) (.ok pod')

theorem ShapeError.Corresponds.eq {l : Latitude} {v w : Value} {s s' : ShapeError}
    (h : s.Corresponds l v w s') (hl : l.spellings = false) : s = s' := by
  cases h with
  | outline _ => rfl
  | mismatch hproblems =>
    have hsame := hproblems.imp fun p q hpq => Problem.Corresponds.eq hpq hl
    rw [List.forall₂_eq_eq_eq] at hsame
    rw [hsame]

section
variable {l : Latitude} {item : Schema} {v w : Value} {entries changed : Entries}

theorem checkContainers_alike (h : (Schema.list item).Alike l v w) :
    checkContainers v = checkContainers w := by
  rcases Schema.alike_list.mp h with rfl | ⟨_, _, rfl, rfl, -⟩ <;> rfl

theorem checkSpec_alike (h : Declared.podSpec.Alike l v w) : checkSpec v = checkSpec w := by
  rcases h.mappings with rfl | ⟨spec, spec', rfl, rfl⟩
  · rfl
  · have hcontainers : (Schema.list Declared.container).Alike l (Entries.get spec "containers")
        (Entries.get spec' "containers") := h.get (by repeat constructor)
    exact checkContainers_alike hcontainers

theorem Schema.Alike.text (h : Schema.text.Alike l v w) : v = w := by
  simpa only [Alike] using h

theorem checkOutline_alike (h : Declared.pod.Alike l v w) : checkOutline v = checkOutline w := by
  rcases h.mappings with rfl | ⟨entries, changed, rfl, rfl⟩
  · rfl
  · have hkind : Entries.get entries "kind" = Entries.get changed "kind" := (h.get .here).text
    have hspec := checkSpec_alike (h.get (.there (.there (.there .here))))
    simp only [checkOutline, kindOf, hkind, hspec]

/-- What has no outline is not looked into further. -/
theorem checkOutline_error {s : ShapeError} (h : checkOutline v = .error s) (problems : List Problem) :
    s ≠ .mismatch problems := by
  rintro rfl
  cases v with
  | mapping entries =>
    simp only [checkOutline, bind_error] at h
    rcases h with hkind | ⟨_, -, hspec⟩
    · unfold kindOf at hkind
      split at hkind
      · split at hkind <;> cases hkind
      · cases hkind
    · unfold checkSpec at hspec
      split at hspec
      · cases hspec
      · unfold checkContainers at hspec
        split at hspec
        · cases hspec
        · split at hspec <;> cases hspec
      · cases hspec
  | _ => cases h

/-- Documents that are alike are refused alike, or read as the same pod but for masks. -/
theorem readDocument_alike (h : Declared.pod.Alike l v w) :
    Readings l v w ((readDocument v).map Document.pod) ((readDocument w).map Document.pod) := by
  have hmatched : Readings l v w ((matchDeclared v).map Document.pod)
      ((matchDeclared w).map Document.pod) := by
    unfold matchDeclared
    have hcheck := Schema.Alike.check Declared.pod h
    generalize Declared.pod.check v = checked at hcheck ⊢
    generalize Declared.pod.check w = checked' at hcheck ⊢
    cases hcheck with
    | ok htidy =>
      refine .read ?_
      rw [Document.pod, Document.pod, ← Pod.ofForm_tidy, ← Pod.ofForm_tidy, htidy]
    | error hproblems => exact .refused (.mismatch hproblems)
  rw [readDocument, readDocument, checkOutline_alike h]
  cases houtline : checkOutline w with
  | error s => exact .refused (.outline (checkOutline_error houtline))
  | ok _ => exact hmatched

end

end PodPolicy
