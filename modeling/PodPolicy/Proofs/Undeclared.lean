import PodPolicy.Proofs.Masking

/-!
# What is not declared

A manifest and another one that is alike to what is seen of it: the declared fields of
a pod, what leads from a controller to the pod of its template, and of a kind without
pods nothing but the kind. `evaluate_undeclared`: both have the same outcome, a verdict,
a refusal with its problems or a fault. So keys that are not declared and what is in a
mapping that may hold anything have no say, at any depth.
-/

namespace PodPolicy

open Workload

-- -----------------------------------------------------------------------------
-- What is seen of a manifest
-- -----------------------------------------------------------------------------

namespace Declared

open Fields

/-- Of the metadata of a controller, what its pod has from it. -/
def seenOwner : Schema :=
  .record "ObjectMeta" <|
    optional "name" .any <|
    optional "namespace" .any .nil

/-- Of the metadata of a template, what its pod has from it. -/
def seenMetadata : Schema :=
  .record "ObjectMeta" <|
    optional "namespace" .any <|
    collapsing "labels" (.dict .label) <|
    collapsing "annotations" (.dict .label) .nil

def seenTemplate : Schema :=
  .record "PodTemplateSpec" <|
    collapsing "metadata" seenMetadata <|
    collapsing "spec" podSpec .nil

def seenSpec : TemplatePlace → Fields
  | .direct => collapsing "template" seenTemplate .nil
  | .ofJob =>
    collapsing "jobTemplate" (.record "JobTemplateSpec" <|
      collapsing "spec" (.record "JobSpec" <| collapsing "template" seenTemplate .nil) .nil) .nil

def seenController (place : TemplatePlace) : Schema :=
  .record "Controller" <|
    required "kind" .text <|
    collapsing "metadata" seenOwner <|
    collapsing "spec" (.record "ControllerSpec" (seenSpec place)) .nil

def seenPodless : Schema :=
  .record "Podless" <| required "kind" .text .nil

def seenOfKind (kind : String) : Schema :=
  if podlessKinds.contains kind then seenPodless
  else ((TemplatePlace.ofKind? kind).map seenController).getD pod

/-- What is seen of a manifest; without a kind, what is declared for a pod. -/
def seen : Value → Schema
  | .mapping entries =>
    match Entries.get entries "kind" with
    | .text kind => seenOfKind kind
    | _ => pod
  | _ => pod

theorem seen_kind (v : Value) : ∃ name fields, seen v = .record name fields ∧
    fields.Has ⟨"kind", "kind", .required⟩ .text := by
  have hkind (kind : String) : ∃ name fields, seenOfKind kind = .record name fields ∧
      fields.Has ⟨"kind", "kind", .required⟩ .text := by
    unfold seenOfKind
    split
    · exact ⟨_, _, rfl, .here⟩
    · cases TemplatePlace.ofKind? kind with
      | some place => exact ⟨_, _, rfl, .here⟩
      | none => exact ⟨_, _, rfl, .here⟩
  unfold seen
  split
  · split
    · exact hkind _
    · exact ⟨_, _, rfl, .here⟩
  · exact ⟨_, _, rfl, .here⟩

end Declared

-- -----------------------------------------------------------------------------
-- From a controller to its pod
-- -----------------------------------------------------------------------------

theorem Parallel.refl {ε α : Type} {R : α → α → Prop} (hR : ∀ a, R a a) (x : Except ε α) :
    Parallel R x x := by
  cases x with
  | error e => exact .error e
  | ok a => exact .ok (hR a)

theorem Parallel.map {ε α β : Type} {R : α → α → Prop} {S : β → β → Prop} {f : α → β}
    {x y : Except ε α} (h : Parallel R x y) (hf : ∀ a b, R a b → S (f a) (f b)) :
    Parallel S (x.map f) (y.map f) := by
  cases h with
  | ok h => exact .ok (hf _ _ h)
  | error e => exact .error e

section
variable {l : Latitude} {v w : Value} {path kind name : String} {fields : Fields}
  {place : TemplatePlace}
  {entries changed spec spec' owner owner' metadata metadata' template template' : Entries}

theorem Schema.Alike.any (h : Schema.any.Alike l v w) : v = w := by
  simpa only [Alike] using h

theorem Schema.Alike.labels (h : (Schema.dict .label).Alike l v w) : v = w := by
  simpa [Alike] using h

theorem asMapping_alike (h : (Schema.record name fields).Alike l v w) :
    Parallel (fun entries changed =>
        (Schema.record name fields).Alike l (.mapping entries) (.mapping changed))
      (asMapping path v) (asMapping path w) := by
  rcases h.mappings with rfl | ⟨entries, changed, rfl, rfl⟩
  · exact .refl (fun _ => .refl _ _) _
  · exact .ok h

theorem templateIn_alike
    (h : (Schema.record name (Declared.seenSpec place)).Alike l (.mapping spec) (.mapping spec')) :
    Parallel (Declared.seenTemplate.Alike l) (templateIn spec place) (templateIn spec' place) := by
  cases place with
  | direct => exact .ok (h.get .here)
  | ofJob =>
    refine (asMapping_alike (h.get .here)).bind fun job job' hjob => ?_
    refine (asMapping_alike (hjob.get .here)).bind fun jobSpec jobSpec' hspec => ?_
    exact .ok (hspec.get .here)

theorem orElse_alike (h : (Schema.record name fields).Alike l v w) :
    (Schema.record name fields).Alike l (v.orElse (.mapping [])) (w.orElse (.mapping [])) := by
  have hmapping (entries : Entries) :
      (Value.mapping entries).orElse (.mapping []) = .mapping entries := by
    cases entries <;> rfl
  rcases h.mappings with rfl | ⟨entries, changed, rfl, rfl⟩
  · exact .refl _ _
  · rwa [hmapping, hmapping]

theorem lift_alike (howner : Declared.seenOwner.Alike l (.mapping owner) (.mapping owner'))
    (hmetadata : Declared.seenMetadata.Alike l (.mapping metadata) (.mapping metadata'))
    (htemplate : Declared.seenTemplate.Alike l (.mapping template) (.mapping template')) :
    Declared.pod.Alike l (lift owner template metadata) (lift owner' template' metadata') := by
  have hname : owner.get "name" = owner'.get "name" := (howner.get .here).any
  have hnamespace : owner.get "namespace" = owner'.get "namespace" :=
    (howner.get (.there .here)).any
  have htemplateNamespace : metadata.get "namespace" = metadata'.get "namespace" :=
    (hmetadata.get .here).any
  have hlabels : metadata.get "labels" = metadata'.get "labels" :=
    (hmetadata.get (.there .here)).labels
  have hannotations : metadata.get "annotations" = metadata'.get "annotations" :=
    (hmetadata.get (.there (.there .here))).labels
  have hspec : Declared.podSpec.Alike l ((template.get "spec").orElse (.mapping []))
      ((template'.get "spec").orElse (.mapping [])) := orElse_alike (htemplate.get (.there .here))
  simp only [lift, hname, hnamespace, htemplateNamespace, hlabels, hannotations]
  exact .put_field Declared.pod_isTolerant (.there (.there (.there .here))) rfl hspec rfl

theorem podOfTemplate_alike
    (h : (Declared.seenController place).Alike l (.mapping entries) (.mapping changed))
    (hspec : (Schema.record name (Declared.seenSpec place)).Alike l (.mapping spec)
      (.mapping spec')) :
    Parallel (Declared.pod.Alike l) (podOfTemplate kind place entries spec)
      (podOfTemplate kind place changed spec') := by
  have howner : Declared.seenOwner.Alike l (entries.get "metadata") (changed.get "metadata") :=
    h.get (.there .here)
  refine (templateIn_alike hspec).bind fun v w htemplate => ?_
  have hmappings : (∃ template template', v = .mapping template ∧ w = .mapping template') ∨
      v = w ∧ ∀ template, v ≠ .mapping template := by
    rcases htemplate.mappings with rfl | hmappings
    · cases v with
      | mapping template => exact .inl ⟨template, template, rfl, rfl⟩
      | _ => exact .inr ⟨rfl, nofun⟩
    · exact .inl hmappings
  rcases hmappings with ⟨template, template', rfl, rfl⟩ | ⟨rfl, hother⟩
  · refine (asMapping_alike howner).bind fun owner owner' howner => ?_
    have hmetadata : Declared.seenMetadata.Alike l (Entries.get template "metadata")
        (Entries.get template' "metadata") := htemplate.get .here
    refine (asMapping_alike hmetadata).bind fun metadata metadata' hmetadata => ?_
    exact .ok (lift_alike howner hmetadata htemplate)
  · cases v with
    | mapping template => exact absurd rfl (hother template)
    | _ => exact .error _

def podOfKind (kind : String) (entries : Entries) : Except ShapeError (Option Value) :=
  if kind = "Pod" then .ok (some (.mapping entries))
  else if podlessKinds.contains kind then .ok none
  else (podOfOther kind entries).map some

theorem extractPod_ofKind : extractPod (.mapping entries) =
    kindOf entries >>= fun kind => podOfKind kind entries := by
  rw [extractPod]
  refine congrArg _ (funext fun kind => ?_)
  rw [podOfKind]
  cases podOfOther kind entries <;> rfl

theorem podOfOther_alike (hpodless : podlessKinds.contains kind = false)
    (h : (Declared.seenOfKind kind).Alike l (.mapping entries) (.mapping changed)) :
    Parallel (Declared.pod.Alike l) (podOfOther kind entries) (podOfOther kind changed) := by
  rw [Declared.seenOfKind, if_neg (Bool.not_eq_true _ ▸ hpodless)] at h
  rw [podOfOther, podOfOther]
  cases hplace : TemplatePlace.ofKind? kind with
  | some place =>
    rw [hplace] at h
    have hspec : (Schema.record "ControllerSpec" (Declared.seenSpec place)).Alike l
        (entries.get "spec") (changed.get "spec") := Schema.Alike.get h (.there (.there .here))
    exact (asMapping_alike hspec).bind fun spec spec' hspec => podOfTemplate_alike h hspec
  | none =>
    rw [hplace] at h
    have hspec : Declared.podSpec.Alike l (entries.get "spec") (changed.get "spec") :=
      Schema.Alike.get h (.there (.there (.there .here)))
    refine (asMapping_alike hspec).bind fun spec spec' hspec => ?_
    have hcontainers : Entries.has spec "containers" = Entries.has spec' "containers" :=
      hspec.has (by repeat constructor)
    dsimp only
    rw [hcontainers]
    split
    · exact .ok h
    · exact .error _

theorem podOfKind_alike
    (h : (Declared.seenOfKind kind).Alike l (.mapping entries) (.mapping changed)) :
    Parallel (Option.Rel (Declared.pod.Alike l)) (podOfKind kind entries)
      (podOfKind kind changed) := by
  unfold podOfKind
  split
  · rename_i hpod
    subst hpod
    exact .ok (.some h)
  · split
    · exact .ok .none
    · rename_i hpodless
      exact (podOfOther_alike (Bool.not_eq_true _ ▸ hpodless) h).map fun _ _ => .some

theorem extractPod_alike (h : (Declared.seen v).Alike l v w) :
    Parallel (Option.Rel (Declared.pod.Alike l)) (extractPod v) (extractPod w) := by
  obtain ⟨name, fields, hseen, hhas⟩ := Declared.seen_kind v
  have hrecord := hseen ▸ h
  rcases hrecord.mappings with rfl | ⟨entries, changed, rfl, rfl⟩
  · exact .refl (fun found => by cases found <;> constructor; exact .refl _ _) _
  · have hkind : Entries.get entries "kind" = Entries.get changed "kind" := (hrecord.get hhas).text
    have hsame : kindOf entries = kindOf changed := by simp only [kindOf, hkind]
    rw [extractPod_ofKind, extractPod_ofKind, ← hsame]
    cases hkindOf : kindOf entries with
    | error e => exact .error e
    | ok kind =>
      have hshape : Declared.seen (.mapping entries) = Declared.seenOfKind kind := by
        simp only [Declared.seen, (kindOf_ok.mp hkindOf).1]
      exact podOfKind_alike (hshape ▸ h)

-- -----------------------------------------------------------------------------
-- Evaluations
-- -----------------------------------------------------------------------------

theorem Readings.parallel {x y : Except ShapeError Pod} (h : Readings l v w x y)
    (hl : l.spellings = false) :
    Parallel (fun pod pod' => pod.masked l.keep = pod'.masked l.keep) x y := by
  cases h with
  | refused h => exact h.eq hl ▸ .error _
  | read hpod => exact .ok hpod

theorem readPod_alike (hl : l.spellings = false) (h : (Declared.seen v).Alike l v w) :
    Parallel (Option.Rel fun pod pod' => pod.masked l.keep = pod'.masked l.keep)
      (readPod v) (readPod w) := by
  rw [readPod_extracted, readPod_extracted]
  refine (extractPod_alike h).bind fun found found' hfound => ?_
  cases hfound with
  | none => exact .ok .none
  | some hview => exact ((readDocument_alike hview).parallel hl).map fun _ _ hpod => .some hpod

/-- What is not declared, and what is in a mapping that may hold anything, has no say. -/
theorem evaluate_undeclared {disabled : List String} {workers : Int}
    (h : (Declared.seen v).Alike .ofContents v w) :
    (Engine.make catalog disabled workers).evaluate w =
      (Engine.make catalog disabled workers).evaluate v := by
  have hrules : ∀ r ∈ (Engine.make catalog disabled workers).activeRules, r ∈ catalog :=
    fun r hr => (List.mem_filter.mp hr).1
  have hread := readPod_alike rfl h
  rw [Engine.evaluate, Engine.evaluate]
  generalize readPod v = found at hread ⊢
  generalize readPod w = found' at hread ⊢
  cases hread with
  | error e => rfl
  | ok hpod =>
    cases hpod with
    | none => rfl
    | some hmasked =>
      show Except.mapError _ _ = Except.mapError _ _
      rw [← Engine.verdict_masked hrules, ← hmasked, Engine.verdict_masked hrules]

end

def logVolumeEntry (directory : List (String × Value)) : Value :=
  .record [("name", .text "logs"), ("hostPath", .record directory)]

def mountedSpec (directory inner more : List (String × Value)) : Value :=
  .record <|
    ("volumes", .list [logVolumeEntry directory]) ::
    ("containers", .list [.record <| ("name", .text "web") :: inner]) :: more

theorem mountedSpec_alike :
    Declared.podSpec.Alike .ofContents (mountedSpec [("path", .text "/var/log")] [] [])
      (mountedSpec [] [("workingDir", .text "/srv")] [("nodeSelector", .record [])]) := by
  have hdirectory : Declared.opaqueMap.Alike .ofContents
      (.record [("path", .text "/var/log")]) (.record []) :=
    Schema.alike_dict.mpr (.inr ⟨⟨rfl, rfl⟩, _, _, rfl, rfl, rfl⟩)
  have hvolume : Declared.volume.Alike .ofContents
      (logVolumeEntry [("path", .text "/var/log")]) (logVolumeEntry []) :=
    .put_field (by decide) (.there .here) rfl hdirectory rfl
  have hvolumes : (Schema.list Declared.volume).Alike .ofContents
      (.list [logVolumeEntry [("path", .text "/var/log")]]) (.list [logVolumeEntry []]) :=
    .put_item [] [] hvolume
  have hcontainer : Declared.container.Alike .ofContents (.record [("name", .text "web")])
      (.record [("name", .text "web"), ("workingDir", .text "/srv")]) :=
    .put_other "workingDir" (by decide) rfl
  have hcontainers : (Schema.list Declared.container).Alike .ofContents
      (.list [.record [("name", .text "web")]])
      (.list [.record [("name", .text "web"), ("workingDir", .text "/srv")]]) :=
    .put_item [] [] hcontainer
  have hmounted : Declared.podSpec.Alike .ofContents
      (mountedSpec [("path", .text "/var/log")] [] []) (mountedSpec [] [] []) :=
    .put_field (by decide) (by repeat constructor) rfl hvolumes rfl
  have hworking : Declared.podSpec.Alike .ofContents (mountedSpec [] [] [])
      (mountedSpec [] [("workingDir", .text "/srv")] []) :=
    .put_field (by decide) (by repeat constructor) rfl hcontainers rfl
  have hselector : Declared.podSpec.Alike .ofContents
      (mountedSpec [] [("workingDir", .text "/srv")] [])
      (mountedSpec [] [("workingDir", .text "/srv")] [("nodeSelector", .record [])]) :=
    .put_other "nodeSelector" (by decide) rfl
  exact (hmounted.trans _ hworking).trans _ hselector

theorem jobOf_alike {l : Latitude} {v w : Value} (h : Declared.podSpec.Alike l v w) :
    (Declared.seen (.mapping (jobOf [] v))).Alike l (.mapping (jobOf [] v))
      (.mapping (jobOf [] w)) := by
  change (Declared.seenController .ofJob).Alike l _ _
  refine .put_field (by decide) (.there (.there .here)) rfl ?_ rfl
  refine .put_field (by decide) .here rfl ?_ rfl
  refine .put_field (by decide) .here rfl ?_ rfl
  refine .put_field (by decide) .here rfl ?_ rfl
  exact .put_field (by decide) (.there .here) rfl h rfl

/-- A job of that pod with its status, and the other pod in a job without it. -/
theorem evaluate_mountedJob :
    (Engine.make catalog ["host-pid"] 2).evaluate (.mapping (jobOf [] (mountedSpec []
        [("workingDir", .text "/srv")] [("nodeSelector", .record [])]))) =
      (Engine.make catalog ["host-pid"] 2).evaluate (.mapping (jobOf
        [("status", .record [("active", .list [])])]
        (mountedSpec [("path", .text "/var/log")] [] []))) := by
  have hstatus : (Declared.seenController .ofJob).Alike .ofContents
      (.mapping (jobOf [("status", .record [("active", .list [])])]
        (mountedSpec [("path", .text "/var/log")] [] [])))
      (.mapping (jobOf [] (mountedSpec [("path", .text "/var/log")] [] []))) :=
    .erase_other "status" (by decide) rfl
  exact evaluate_undeclared (hstatus.trans _ (jobOf_alike mountedSpec_alike))

end PodPolicy
