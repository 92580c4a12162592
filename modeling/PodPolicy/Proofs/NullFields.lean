import PodPolicy.Proofs.Evaluation
import PodPolicy.Proofs.Pruning

/-!
# Null means absent

A manifest and the same without some of the fields that are null in it.
`evaluate_pruned`: both are refused with the same message for the same problems,
or both get the same verdict. This goes for a pod, and for a controller down to the
pod of its template.
-/

namespace PodPolicy

open Workload

-- -----------------------------------------------------------------------------
-- The parts of settled forms
-- -----------------------------------------------------------------------------

section
variable {α β : Type} {f : α → α} {g : α → β} {e : Option α}

@[simp]
theorem Presence.settle_required (a : α) : Presence.required.settle f e a = f a := rfl

@[simp]
theorem Presence.join_settle_id (slot : Option (Option α)) :
    Option.join (Presence.optional.settle id e slot) = Option.join slot := by
  rcases slot with _ | _ | a <;> rfl

theorem Presence.collapsing_settle (g : Option α → β) (hsome : ∀ a, g (some (f a)) = g (some a))
    (hempty : g e = g none) (slot : Option α) :
    g (Presence.collapsing.settle f e slot) = g slot := by
  cases slot with
  | some a => exact hsome a
  | none =>
    cases e with
    | some a => exact (hsome a).trans hempty
    | none => rfl

theorem Presence.map_join_settle (h : ∀ a, g (f a) = g a) (slot : Option (Option α)) :
    (Option.join (Presence.optional.settle f e slot)).map g = (Option.join slot).map g := by
  rcases slot with _ | _ | a
  · rfl
  · rfl
  · exact congrArg some (h a)

theorem map_settle (h : ∀ a, g (f a) = g a) (items : List α) :
    (items.map f).map g = items.map g := by
  simp only [List.map_map, Function.comp_def, h]

end

section
variable {item schema : Schema} {name : String} {field : Field} {fields : Fields}

@[simp]
theorem Schema.settle_bool : Schema.bool.settle = id := rfl
@[simp]
theorem Schema.settle_int : Schema.int.settle = id := rfl
@[simp]
theorem Schema.settle_text : Schema.text.settle = id := rfl
@[simp]
theorem Schema.settle_quantity : Schema.quantity.settle = id := rfl
@[simp]
theorem Schema.settle_dict : (Schema.dict item).settle = id := rfl
@[simp]
theorem Schema.settle_list : (Schema.list item).settle = List.map item.settle := rfl

@[simp]
theorem Schema.settle_record (form : (Schema.record name fields).Form) :
    (Schema.record name fields).settle form = (fields.settle form.1, []) := rfl

@[simp]
theorem Fields.settle_cons (form : (Fields.cons field schema fields).Form) :
    (Fields.cons field schema fields).settle form =
      (field.presence.settle schema.settle (schema.check schema.empty).toOption form.1,
        fields.settle form.2) := rfl

end

theorem SeccompProfile.ofForm_settle (form : Declared.seccompProfile.Form) :
    ofForm (Declared.seccompProfile.settle form) = ofForm form := by
  simp [ofForm]

theorem Capabilities.ofForm_settle (form : Declared.capabilities.Form) :
    ofForm (Declared.capabilities.settle form) = ofForm form := by
  simp [ofForm]

theorem SecurityContext.ofForm_settle (form : Declared.securityContext.Form) :
    ofForm (Declared.securityContext.settle form) = ofForm form := by
  simp [ofForm, Presence.map_join_settle Capabilities.ofForm_settle,
    Presence.map_join_settle SeccompProfile.ofForm_settle]

theorem PodSecurityContext.ofForm_settle (form : Declared.podSecurityContext.Form) :
    ofForm (Declared.podSecurityContext.settle form) = ofForm form := by
  simp [ofForm, Presence.map_join_settle SeccompProfile.ofForm_settle]

theorem ResourceRequirements.ofForm_settle (form : Declared.resourceRequirements.Form) :
    ofForm (Declared.resourceRequirements.settle form) = ofForm form := by
  simp [ofForm]

theorem ContainerPort.ofForm_settle (form : Declared.containerPort.Form) :
    ofForm (Declared.containerPort.settle form) = ofForm form := by
  simp [ofForm]

theorem EnvVarSource.ofForm_settle (form : Declared.envVarSource.Form) :
    ofForm (Declared.envVarSource.settle form) = ofForm form := by
  simp [ofForm]

theorem EnvVar.ofForm_settle (form : Declared.envVar.Form) :
    ofForm (Declared.envVar.settle form) = ofForm form := by
  simp [ofForm, Presence.map_join_settle EnvVarSource.ofForm_settle]

theorem Probe.ofForm_settle (form : Declared.probe.Form) :
    ofForm (Declared.probe.settle form) = ofForm form := by
  simp [ofForm]

theorem Lifecycle.ofForm_settle (form : Declared.lifecycle.Form) :
    ofForm (Declared.lifecycle.settle form) = ofForm form := by
  simp [ofForm]

theorem Container.ofForm_settle (form : Declared.container.Form) :
    ofForm (Declared.container.settle form) = ofForm form := by
  simp [ofForm, Presence.map_join_settle SecurityContext.ofForm_settle,
    Presence.map_join_settle ResourceRequirements.ofForm_settle,
    Presence.map_join_settle (map_settle ContainerPort.ofForm_settle),
    Presence.map_join_settle (map_settle EnvVar.ofForm_settle),
    Presence.map_join_settle Probe.ofForm_settle,
    Presence.map_join_settle Lifecycle.ofForm_settle]

theorem EmptyDir.ofForm_settle (form : Declared.emptyDir.Form) :
    ofForm (Declared.emptyDir.settle form) = ofForm form := by
  simp [ofForm]

theorem Volume.ofForm_settle (form : Declared.volume.Form) :
    ofForm (Declared.volume.settle form) = ofForm form := by
  simp [ofForm, Presence.map_join_settle EmptyDir.ofForm_settle]

theorem PodSpec.ofForm_settle (form : Declared.podSpec.Form) :
    ofForm (Declared.podSpec.settle form) = ofForm form := by
  simp only [ofForm, Schema.settle_record, Fields.settle_cons, Schema.settle_bool,
    Schema.settle_int, Schema.settle_list, Presence.join_settle_id,
    Presence.map_join_settle PodSecurityContext.ofForm_settle, mk.injEq, true_and]
  constructor
  · refine Presence.collapsing_settle (fun slot => (slot.getD []).map Volume.ofForm) ?_ ?_ _
    · exact map_settle Volume.ofForm_settle
    · rfl
  · refine Presence.collapsing_settle (fun slot => (slot.getD []).map Container.ofForm) ?_ ?_ _
    · exact map_settle Container.ofForm_settle
    · rfl

theorem Metadata.ofForm_settle (form : Declared.metadata.Form) :
    ofForm (Declared.metadata.settle form) = ofForm form := by
  simp only [ofForm, Schema.settle_record, Fields.settle_cons, Schema.settle_text,
    Schema.settle_dict, Presence.join_settle_id, mk.injEq, true_and]
  constructor
  all_goals
    refine Presence.collapsing_settle (fun slot => slot.getD []) (fun _ => rfl) ?_ _
    rfl

theorem Pod.ofForm_settle (form : Declared.pod.Form) :
    ofForm (Declared.pod.settle form) = ofForm form := by
  simp only [ofForm, Schema.settle_record, Fields.settle_cons, Schema.settle_text,
    Presence.settle_required, id_eq, Presence.join_settle_id, mk.injEq, true_and]
  constructor
  · refine Presence.collapsing_settle (fun slot => (slot.map Metadata.ofForm).getD {}) ?_ ?_ _
    · exact Metadata.ofForm_settle
    · rfl
  · refine Presence.collapsing_settle (fun slot => (slot.map PodSpec.ofForm).getD {}) ?_ ?_ _
    · exact PodSpec.ofForm_settle
    · rfl

-- -----------------------------------------------------------------------------
-- Documents
-- -----------------------------------------------------------------------------

/-- Both fail alike, or give results that are related. -/
inductive Parallel {ε α : Type} (R : α → α → Prop) : Except ε α → Except ε α → Prop
  | ok {a b : α} (h : R a b) : Parallel R (.ok a) (.ok b)
  | error (e : ε) : Parallel R (.error e) (.error e)

theorem Parallel.bind {ε α β : Type} {R : α → α → Prop} {S : β → β → Prop} {x y : Except ε α}
    {f g : α → Except ε β} (h : Parallel R x y) (hfg : ∀ a b, R a b → Parallel S (f a) (g b)) :
    Parallel S (x >>= f) (y >>= g) := by
  cases h with
  | ok h => exact hfg _ _ h
  | error e => exact .error e

section
variable {s item : Schema} {v w : Value} {entries changed : Entries}

theorem Schema.not_drops_text : ¬ Schema.text.Drops v w := nofun

theorem Schema.not_drops_dict : ¬ (Schema.dict item).Drops v w := nofun

theorem eq_of_pruned (hs : ¬ s.Drops v w) (h : s.Prunes v w) : v = w := by
  cases h with
  | refl => rfl
  | single h => exact absurd h hs

theorem checkContainers_pruned (h : (Schema.list item).Prunes v w) :
    checkContainers v = checkContainers w := by
  cases h with
  | refl => rfl
  | single h =>
    cases h
    rfl

theorem checkSpec_pruned (h : Declared.podSpec.Prunes v w) :
    checkSpec v = checkSpec w := by
  cases h with
  | refl => rfl
  | single h =>
    obtain ⟨entries, changed, rfl, rfl⟩ := h.mappings
    have hcontainers : (Schema.list Declared.container).Prunes
        (Entries.get entries "containers") (Entries.get changed "containers") :=
      h.get (by decide) (by repeat constructor)
    exact checkContainers_pruned hcontainers

theorem checkOutline_pruned (h : Declared.pod.Drops v w) : checkOutline v = checkOutline w := by
  obtain ⟨entries, changed, rfl, rfl⟩ := h.mappings
  have hkind : Entries.get entries "kind" = Entries.get changed "kind" :=
    eq_of_pruned Schema.not_drops_text (h.get (by decide) .here)
  have hspec := checkSpec_pruned (h.get (by decide) (.there (.there (.there .here))))
  simp only [checkOutline, kindOf, hkind, hspec]

theorem matchDeclared_pod : (matchDeclared v).map Document.pod =
    (((Declared.pod.check v).map Declared.pod.settle).map Pod.ofForm).mapError .mismatch := by
  unfold matchDeclared
  cases Declared.pod.check v with
  | error problems => rfl
  | ok form => exact congrArg Except.ok (Pod.ofForm_settle form).symm

/-- What is refused is refused alike, and what is read is read as the same pod. -/
theorem readDocument_pruned (h : Declared.pod.Prunes v w) :
    (readDocument v).map Document.pod = (readDocument w).map Document.pod := by
  have hread (v : Value) : (readDocument v).map Document.pod =
      (checkOutline v >>= fun _ => (matchDeclared v).map Document.pod) := by
    rw [readDocument]
    cases checkOutline v <;> rfl
  cases h with
  | refl => rfl
  | single h =>
    have hmatch : (matchDeclared v).map Document.pod = (matchDeclared w).map Document.pod := by
      rw [matchDeclared_pod, matchDeclared_pod, h.check Declared.pod_isTolerant]
    rw [hread, hread, checkOutline_pruned h, hmatch]

end

-- -----------------------------------------------------------------------------
-- Controllers
-- -----------------------------------------------------------------------------

namespace Declared

open Fields

def template : Schema :=
  .record "PodTemplateSpec" <|
    collapsing "metadata" metadata <|
    collapsing "spec" podSpec .nil

def controllerSpec : TemplatePlace → Fields
  | .direct => collapsing "template" template .nil
  | .ofJob =>
    collapsing "jobTemplate" (.record "JobTemplateSpec" <|
      collapsing "spec" (.record "JobSpec" <| collapsing "template" template .nil) .nil) .nil

/-- A controller, as far as it is looked at. -/
def controller (place : TemplatePlace) : Schema :=
  .record "Controller" <|
    required "kind" .text <|
    either "apiVersion" "api_version" .text <|
    collapsing "metadata" metadata <|
    collapsing "spec" (.record "ControllerSpec" (controllerSpec place)) .nil

def ofKind? (kind : String) : Option Schema :=
  if kind = "Pod" then some pod else (TemplatePlace.ofKind? kind).map controller

theorem controller_isTolerant (place : TemplatePlace) : (controller place).isTolerant = true := by
  cases place <;> decide

end Declared

section
variable {v w : Value} {path kind name : String} {fields : Fields} {place : TemplatePlace}
  {entries changed spec spec' owner owner' metadata metadata' template template' : Entries}

theorem asMapping_pruned (h : (Schema.record name fields).Prunes v w) :
    Parallel (fun entries changed =>
        (Schema.record name fields).Prunes (.mapping entries) (.mapping changed))
      (asMapping path v) (asMapping path w) := by
  cases h with
  | refl =>
    cases asMapping path v with
    | ok entries => exact .ok .refl
    | error s => exact .error s
  | single h =>
    obtain ⟨entries, changed, rfl, rfl⟩ := h.mappings
    exact .ok (.single h)

theorem templateIn_pruned
    (h : (Schema.record name (Declared.controllerSpec place)).Prunes (.mapping spec)
      (.mapping spec')) :
    Parallel Declared.template.Prunes (templateIn spec place) (templateIn spec' place) := by
  cases place with
  | direct => exact .ok (h.get (by decide) .here)
  | ofJob =>
    refine (asMapping_pruned (h.get (by decide) .here)).bind fun job job' hjob => ?_
    refine (asMapping_pruned (hjob.get (by decide) .here)).bind fun jobSpec jobSpec' hspec => ?_
    exact .ok (hspec.get (by decide) .here)

theorem orElse_pruned (h : (Schema.record name fields).Prunes v w) :
    (Schema.record name fields).Prunes (v.orElse (.mapping [])) (w.orElse (.mapping [])) := by
  have hmapping (entries : Entries) :
      (Value.mapping entries).orElse (.mapping []) = .mapping entries := by
    cases entries <;> rfl
  cases h with
  | refl => exact .refl
  | single h =>
    obtain ⟨entries, changed, rfl, rfl⟩ := h.mappings
    rw [hmapping, hmapping]
    exact .single h

/-- The pod of a template differs by what the owner and the template differ by. -/
theorem lift_pruned (howner : Declared.metadata.Prunes (.mapping owner) (.mapping owner'))
    (hmetadata : Declared.metadata.Prunes (.mapping metadata) (.mapping metadata'))
    (htemplate : Declared.template.Prunes (.mapping template) (.mapping template')) :
    Declared.pod.Prunes (lift owner template metadata) (lift owner' template' metadata') := by
  have hname : owner.get "name" = owner'.get "name" :=
    eq_of_pruned Schema.not_drops_text (howner.get (by decide) .here)
  have hnamespace : owner.get "namespace" = owner'.get "namespace" :=
    eq_of_pruned Schema.not_drops_text (howner.get (by decide) (.there .here))
  have htemplateNamespace : metadata.get "namespace" = metadata'.get "namespace" :=
    eq_of_pruned Schema.not_drops_text (hmetadata.get (by decide) (.there .here))
  have hlabels : metadata.get "labels" = metadata'.get "labels" :=
    eq_of_pruned Schema.not_drops_dict (hmetadata.get (by decide) (.there (.there .here)))
  have hannotations : metadata.get "annotations" = metadata'.get "annotations" :=
    eq_of_pruned Schema.not_drops_dict (hmetadata.get (by decide) (.there (.there (.there .here))))
  have hspec : Declared.podSpec.Prunes ((template.get "spec").orElse (.mapping []))
      ((template'.get "spec").orElse (.mapping [])) :=
    orElse_pruned (htemplate.get (by decide) (.there .here))
  simp only [lift, hname, hnamespace, htemplateNamespace, hlabels, hannotations]
  generalize (template.get "spec").orElse (.mapping []) = v at hspec ⊢
  generalize (template'.get "spec").orElse (.mapping []) = w at hspec ⊢
  cases hspec with
  | refl => exact .refl
  | single h => exact .single (.of_put (.there (.there (.there .here))) rfl h rfl)

theorem podOfTemplate_pruned
    (h : (Declared.controller place).Prunes (.mapping entries) (.mapping changed))
    (hspec : (Schema.record name (Declared.controllerSpec place)).Prunes (.mapping spec)
      (.mapping spec')) :
    Parallel Declared.pod.Prunes (podOfTemplate kind place entries spec)
      (podOfTemplate kind place changed spec') := by
  have howner : Declared.metadata.Prunes (entries.get "metadata") (changed.get "metadata") :=
    h.get (Declared.controller_isTolerant place) (.there (.there .here))
  refine (templateIn_pruned hspec).bind fun v w htemplate => ?_
  have hmappings : (∃ template template', v = .mapping template ∧ w = .mapping template') ∨
      v = w ∧ ∀ template, v ≠ .mapping template := by
    cases htemplate with
    | single hdrops => exact .inl hdrops.mappings
    | refl =>
      cases v with
      | mapping template => exact .inl ⟨template, template, rfl, rfl⟩
      | _ => exact .inr ⟨rfl, nofun⟩
  rcases hmappings with ⟨template, template', rfl, rfl⟩ | ⟨rfl, hother⟩
  · refine (asMapping_pruned howner).bind fun owner owner' howner => ?_
    have hmetadata : Declared.metadata.Prunes (Entries.get template "metadata")
        (Entries.get template' "metadata") := htemplate.get (by decide) .here
    refine (asMapping_pruned hmetadata).bind fun metadata metadata' hmetadata => ?_
    exact .ok (lift_pruned howner hmetadata htemplate)
  · cases v with
    | mapping template => exact absurd rfl (hother template)
    | _ => exact .error _

theorem ofKind?_spec (h : TemplatePlace.ofKind? kind = some place) :
    kind ≠ "" ∧ kind ≠ "Pod" ∧ kind ∉ podlessKinds := by
  have htemplate : ∀ kind ∈ templateKinds, kind ≠ "" ∧ kind ≠ "Pod" ∧ kind ∉ podlessKinds := by
    decide
  unfold TemplatePlace.ofKind? at h
  split at h
  · rename_i hmem
    exact htemplate kind (List.contains_iff_mem.mp hmem)
  · split at h
    · rename_i hjob
      subst hjob
      decide
    · cases h

theorem extractPod_pruned (hkind : entries.get "kind" = .text kind)
    (hplace : TemplatePlace.ofKind? kind = some place)
    (h : (Declared.controller place).Prunes (.mapping entries) (.mapping changed)) :
    Parallel (Option.Rel Declared.pod.Prunes) (extractPod (.mapping entries))
      (extractPod (.mapping changed)) := by
  obtain ⟨hne, hpod, hpodless⟩ := ofKind?_spec hplace
  have htolerant := Declared.controller_isTolerant place
  have hchanged : changed.get "kind" = .text kind :=
    (eq_of_pruned Schema.not_drops_text (h.get htolerant .here)) ▸ hkind
  have hspec : (Schema.record "ControllerSpec" (Declared.controllerSpec place)).Prunes
      (entries.get "spec") (changed.get "spec") :=
    h.get htolerant (.there (.there (.there .here)))
  have hextract {entries : Entries} (hkind : entries.get "kind" = .text kind) :
      extractPod (.mapping entries) = (asMapping "spec" (entries.get "spec") >>= fun spec =>
        podOfTemplate kind place entries spec) >>= fun v => .ok (some v) := by
    have hkindOf : kindOf entries = .ok kind := kindOf_ok.mpr ⟨hkind, hne⟩
    have hother : podOfOther kind entries = asMapping "spec" (entries.get "spec") >>= fun spec =>
        podOfTemplate kind place entries spec := by
      rw [podOfOther, hplace]
    rw [← hother, extractPod, hkindOf]
    show (if kind = "Pod" then _ else if podlessKinds.contains kind = true then _ else _) = _
    rw [if_neg hpod, if_neg (mt List.contains_iff_mem.mp hpodless)]
    rfl
  rw [hextract hkind, hextract hchanged]
  refine ((asMapping_pruned hspec).bind fun spec spec' hspec => podOfTemplate_pruned h hspec).bind
    fun v w hview => ?_
  exact .ok (.some hview)

end

-- -----------------------------------------------------------------------------
-- Evaluations
-- -----------------------------------------------------------------------------

section
variable {e : Engine} {v w : Value} {entries : Entries} {kind : String} {shape : Schema}

theorem readPod_extracted : readPod v = extractPod v >>= fun found =>
    found.elim (.ok none) fun view => ((readDocument view).map Document.pod).map some := by
  rw [readPod]
  cases extractPod v with
  | error s => rfl
  | ok found =>
    cases found with
    | none => rfl
    | some view =>
      show (readDocument view >>= fun document => _) = ((readDocument view).map _).map _
      cases readDocument view <;> rfl

theorem readPod_pruned
    (h : Parallel (Option.Rel Declared.pod.Prunes) (extractPod v) (extractPod w)) :
    readPod v = readPod w := by
  rw [readPod_extracted, readPod_extracted]
  generalize extractPod v = found at h
  generalize extractPod w = found' at h
  cases h with
  | error s => rfl
  | ok h =>
    cases h with
    | none => rfl
    | some h =>
      show Except.map _ _ = Except.map _ _
      rw [readDocument_pruned h]

theorem readPod_drops (hkind : entries.get "kind" = .text kind)
    (hshape : Declared.ofKind? kind = some shape) (h : shape.Drops (.mapping entries) w) :
    readPod (.mapping entries) = readPod w ∧
      ∃ changed : Entries, w = .mapping changed ∧ changed.get "kind" = .text kind := by
  unfold Declared.ofKind? at hshape
  split at hshape
  · rename_i hpod
    cases hshape
    obtain ⟨_, changed, ⟨⟩, rfl⟩ := h.mappings
    have hsame : entries.get "kind" = Entries.get changed "kind" :=
      eq_of_pruned Schema.not_drops_text (h.get (by decide) .here)
    have hextract {entries : Entries} (hkind : entries.get "kind" = .text kind) :
        extractPod (.mapping entries) = .ok (some (.mapping entries)) :=
      extractPod_some.mpr ⟨kind, ⟨hkind, by simp [hpod]⟩, .inl ⟨hpod, rfl⟩⟩
    refine ⟨readPod_pruned ?_, changed, rfl, hsame ▸ hkind⟩
    rw [hextract hkind, hextract (hsame ▸ hkind)]
    exact .ok (.some (.single h))
  · obtain ⟨place, hplace, rfl⟩ := Option.map_eq_some_iff.mp hshape
    obtain ⟨_, changed, ⟨⟩, rfl⟩ := h.mappings
    have hsame : entries.get "kind" = Entries.get changed "kind" :=
      eq_of_pruned Schema.not_drops_text (h.get (Declared.controller_isTolerant place) .here)
    exact ⟨readPod_pruned (extractPod_pruned hkind hplace (.single h)), changed, rfl,
      hsame ▸ hkind⟩

/-- A manifest is evaluated as it is without the fields that are null in it. -/
theorem evaluate_pruned (hkind : entries.get "kind" = .text kind)
    (hshape : Declared.ofKind? kind = some shape)
    (h : Relation.ReflTransGen shape.Drops (.mapping entries) w) :
    e.evaluate w = e.evaluate (.mapping entries) := by
  have hread : readPod (.mapping entries) = readPod w ∧
      ∃ changed : Entries, w = .mapping changed ∧ changed.get "kind" = .text kind := by
    induction h with
    | refl => exact ⟨rfl, entries, rfl, hkind⟩
    | tail _ hdrops ih =>
      obtain ⟨hsame, changed, rfl, hchanged⟩ := ih
      obtain ⟨hstep, hkept⟩ := readPod_drops hchanged hshape hdrops
      exact ⟨hsame.trans hstep, hkept⟩
  rw [Engine.evaluate, Engine.evaluate, hread.1]

def jobOf (more : List (String × Value)) (spec : Value) : Entries :=
  Entries.ofNames <| ("kind", .text "CronJob") :: more ++
    [("spec", .record [("jobTemplate", .record [("spec", .record [("template",
      .record [("spec", spec)])])])])]

def privilegedSpec (more context : List (String × Value)) : Value :=
  .record <| more ++ [("containers", .list [.record [("name", .text "web"),
    ("securityContext", .record <| ("privileged", .bool true) :: context)]])]

theorem jobOf_drops (h : Declared.podSpec.Drops v w) :
    (Declared.controller .ofJob).Drops (.mapping (jobOf [] v)) (.mapping (jobOf [] w)) := by
  refine .of_put (.there (.there (.there .here))) rfl ?_ rfl
  exact .of_put .here rfl (.of_put .here rfl (.of_put .here rfl (.of_put (.there .here) rfl h rfl)
    rfl) rfl) rfl

/-- Null in the job, in the spec of its pod by the other spelling, and in a container. -/
theorem evaluate_jobOf :
    Engine.default.evaluate (.mapping (jobOf [] (privilegedSpec [] []))) =
      Engine.default.evaluate (.mapping (jobOf [("metadata", .null)]
        (privilegedSpec [("host_pid", .null)] [("runAsUser", .null)]))) := by
  have hjob : (Declared.controller .ofJob).Drops
      (.mapping (jobOf [("metadata", .null)]
        (privilegedSpec [("host_pid", .null)] [("runAsUser", .null)])))
      (.mapping (jobOf [] (privilegedSpec [("host_pid", .null)] [("runAsUser", .null)]))) :=
    .of_erase (.there (.there .here)) rfl rfl (by decide) rfl
  have hspec : Declared.podSpec.Drops (privilegedSpec [("host_pid", .null)] [("runAsUser", .null)])
      (privilegedSpec [] [("runAsUser", .null)]) :=
    .of_erase (.there .here) rfl rfl (by decide) rfl
  have hcontext : Declared.podSpec.Drops (privilegedSpec [] [("runAsUser", .null)])
      (privilegedSpec [] []) := by
    refine .of_put
      (.there <| .there <| .there <| .there <| .there <| .there <| .there <| .there .here) rfl ?_ rfl
    refine @Schema.Drops.item _ [] [] _ _ ?_
    refine .of_put (.there (.there (.there .here))) rfl ?_ rfl
    exact .of_erase (.there .here) rfl rfl (by decide) rfl
  exact evaluate_pruned rfl rfl (((Relation.ReflTransGen.single hjob).tail (jobOf_drops hspec)).tail
    (jobOf_drops hcontext))

end

end PodPolicy
