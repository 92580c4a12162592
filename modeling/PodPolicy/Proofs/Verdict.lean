import PodPolicy.Proofs.Compliance

/-!
# When nothing is found

`evaluate_nil_iff`: an evaluation finds nothing exactly where the manifest is of
a kind without pods or its pod complies. The rules that pass are put together
to compliance part by part, and compliance is taken apart into the rules.
-/

namespace PodPolicy

open Catalog

variable {pod : Pod} {c : Container}

-- -----------------------------------------------------------------------------
-- From passing rules to compliance
-- -----------------------------------------------------------------------------

section
variable (hpass : ∀ r ∈ catalog, r.Passes pod) (hc : c ∈ pod.spec.containers)
include hpass hc

theorem securityContext_compliant :
    ∃ context, c.securityContext = some context ∧ context.Compliant := by
  have hsome := containerSecurityContext_passes.mp (hpass _ (by simp [catalog])) c hc
  obtain ⟨context, hcontext⟩ := Option.isSome_iff_exists.mp hsome
  have hprivileged := privilegedContainers_passes.mp (hpass _ (by simp [catalog])) c hc
  have hroot := runAsRoot_passes.mp (hpass _ (by simp [catalog])) c hc
  have hnonRoot := runAsNonRoot_passes.mp (hpass _ (by simp [catalog])) c hc
  have hescalation := privilegeEscalation_passes.mp (hpass _ (by simp [catalog])) c hc
  have hreadOnly := readOnlyRootFilesystem_passes.mp (hpass _ (by simp [catalog])) c hc
  have hdrop := dropAllCapabilities_passes.mp (hpass _ (by simp [catalog])) c hc
  refine ⟨context, hcontext, ?_⟩
  exact {
    privileged := hprivileged context hcontext
    runAsUser := hroot context hcontext
    runAsNonRoot := by simpa [hcontext] using hnonRoot
    escalation := hescalation context hcontext
    readOnlyRoot := by simpa [hcontext] using hreadOnly
    dropsAll := by simpa [hcontext] using hdrop }

theorem resources_compliant :
    ∃ resources, c.resources = some resources ∧ resources.Compliant := by
  obtain ⟨resources, hresources, hsome⟩ :=
    resourceLimits_passes.mp (hpass _ (by simp [catalog])) c hc
  obtain ⟨limits, hlimits⟩ := Option.isSome_iff_exists.mp hsome
  have hrequests := resourceRequests_passes.mp (hpass _ (by simp [catalog])) c hc
  have hmemory := memoryLimitCeiling_passes.mp (hpass _ (by simp [catalog])) c hc
  have hcpu := cpuLimitCeiling_passes.mp (hpass _ (by simp [catalog])) c hc
  have hread : c.limits = limits := by simp [Container.limits, hresources, hlimits]
  rw [hread] at hmemory hcpu
  exact ⟨resources, hresources, ⟨limits, hlimits, hmemory, hcpu⟩,
    by simpa [hresources] using hrequests⟩

theorem livenessProbe_compliant : ∃ p, c.livenessProbe = some p ∧ p.Within 5 := by
  have hsome := livenessProbe_passes.mp (hpass _ (by simp [catalog])) c hc
  obtain ⟨p, hp⟩ := Option.isSome_iff_exists.mp hsome
  have hwithin := probeThreshold_passes.mp (hpass livenessProbeThreshold (by simp [catalog])) c hc
  exact ⟨p, hp, hwithin p hp⟩

theorem readinessProbe_compliant : ∃ p, c.readinessProbe = some p ∧ p.Within 5 := by
  have hsome := readinessProbe_passes.mp (hpass _ (by simp [catalog])) c hc
  obtain ⟨p, hp⟩ := Option.isSome_iff_exists.mp hsome
  have hwithin := probeThreshold_passes.mp (hpass readinessProbeThreshold (by simp [catalog])) c hc
  exact ⟨p, hp, hwithin p hp⟩

theorem ports_compliant : ∃ ports, c.ports = some ports ∧ ∀ port ∈ ports, port.Compliant := by
  have hsome := containerPorts_passes.mp (hpass _ (by simp [catalog])) c hc
  obtain ⟨ports, hports⟩ := Option.isSome_iff_exists.mp hsome
  have hudp := unnamedUdpPort_passes.mp (hpass _ (by simp [catalog])) c hc
  exact ⟨ports, hports, by simpa [Container.portList, hports] using hudp⟩

theorem env_compliant : ∃ env, c.env = some env ∧ ∀ v ∈ env, v.Compliant := by
  have hsome := containerEnv_passes.mp (hpass _ (by simp [catalog])) c hc
  obtain ⟨env, henv⟩ := Option.isSome_iff_exists.mp hsome
  have hsecret := secretKeyRef_passes.mp (hpass _ (by simp [catalog])) c hc
  exact ⟨env, henv, by simpa [Container.envList, henv] using hsecret⟩

theorem container_compliant : c.Compliant pod.InProduction where
  securityContext := securityContext_compliant hpass hc
  resources := resources_compliant hpass hc
  livenessProbe := livenessProbe_compliant hpass hc
  readinessProbe := readinessProbe_compliant hpass hc
  startupProbe := probeThreshold_passes.mp (hpass startupProbeThreshold (by simp [catalog])) c hc
  image := latestImageTag_passes.mp (hpass _ (by simp [catalog])) c hc
  pullPolicy := imagePullPolicy_passes.mp (hpass _ (by simp [catalog])) c hc
  productionPull := productionPullPolicy_passes.mp (hpass _ (by simp [catalog])) c hc
  volumeMounts := volumeMounts_passes.mp (hpass _ (by simp [catalog])) c hc
  ports := ports_compliant hpass hc
  env := env_compliant hpass hc
  preStop := preStopHook_passes.mp (hpass _ (by simp [catalog])) c hc

end

theorem volume_compliant {v : Volume} (hpass : ∀ r ∈ catalog, r.Passes pod)
    (hv : v ∈ pod.spec.volumes) : v.Compliant where
  hostPath := hostPathVolume_passes.mp (hpass _ (by simp [catalog])) v hv
  emptyDir := by
    intro dir hdir
    have hsome := emptyDirSizeLimit_passes.mp (hpass _ (by simp [catalog])) v hv dir hdir
    obtain ⟨size, hsize⟩ := Option.isSome_iff_exists.mp hsome
    have hceiling := emptyDirSizeCeiling_passes.mp (hpass _ (by simp [catalog])) v hv dir hdir
    exact ⟨size, hsize, hceiling size hsize⟩

theorem pod_compliant (hpass : ∀ r ∈ catalog, r.Passes pod) : pod.Compliant where
  seccomp := seccompProfile_passes.mp (hpass _ (by simp [catalog]))
  hostNetwork := hostNetwork_passes.mp (hpass _ (by simp [catalog]))
  hostPid := hostPid_passes.mp (hpass _ (by simp [catalog]))
  hostIpc := hostIpc_passes.mp (hpass _ (by simp [catalog]))
  processNamespace := shareProcessNamespace_passes.mp (hpass _ (by simp [catalog]))
  accountToken := automountServiceAccountToken_passes.mp (hpass _ (by simp [catalog]))
  gracePeriod := by
    have hsome := terminationGracePeriod_passes.mp (hpass _ (by simp [catalog]))
    obtain ⟨n, hn⟩ := Option.isSome_iff_exists.mp hsome
    have hceiling := terminationGracePeriodCeiling_passes.mp (hpass _ (by simp [catalog]))
    exact ⟨n, hn, hceiling n hn⟩
  labels := by
    have hrule : ∀ label ∈ ["app", "compliance", "environment"], labelRule label ∈ catalog := by
      simp [catalog]
    exact fun label hlabel => labelRule_passes.mp (hpass _ (hrule label hlabel))
  annotations := by
    have hpsp := annotationRule_passes.mp (hpass pspRule (by simp [catalog]))
    have hscrape := annotationRule_passes.mp (hpass scrapeRule (by simp [catalog]))
    simpa using ⟨hpsp, hscrape⟩
  injection := productionIstioInjection_passes.mp (hpass _ (by simp [catalog]))
  containers := fun _ hc => container_compliant hpass hc
  volumes := fun _ hv => volume_compliant hpass hv

-- -----------------------------------------------------------------------------
-- From compliance to passing rules
-- -----------------------------------------------------------------------------

section
variable {α : Type} {found : Option α} {P : α → Prop}

theorem isSome_of_exists (h : ∃ a, found = some a ∧ P a) : found.isSome := by
  obtain ⟨a, rfl, -⟩ := h
  rfl

theorem of_exists_some {a : α} (h : ∃ a, found = some a ∧ P a) (ha : found = some a) : P a := by
  obtain ⟨b, hb, hP⟩ := h
  cases hb.symm.trans ha
  exact hP

end

namespace Container.Compliant

variable {production : Prop} (h : c.Compliant production)
include h

theorem context_of {context : SecurityContext} (hcontext : c.securityContext = some context) :
    context.Compliant :=
  of_exists_some h.securityContext hcontext

theorem limit_of {name value : String} (hvalue : c.limits.get? name = some value) :
    (name = "memory" → Quantity.Within (2 ^ 31) value) ∧
      (name = "cpu" → Quantity.Within 2 value) := by
  obtain ⟨resources, hresources, hcompliant⟩ := h.resources
  obtain ⟨limits, hlimits, hmemory, hcpu⟩ := hcompliant.limits
  have hread : c.limits = limits := by simp [Container.limits, hresources, hlimits]
  rw [hread] at hvalue
  exact ⟨by rintro rfl; exact hmemory _ hvalue, by rintro rfl; exact hcpu _ hvalue⟩

theorem port_of {port : ContainerPort} (hport : port ∈ c.portList) : port.Compliant := by
  obtain ⟨ports, hports, hcompliant⟩ := h.ports
  simp only [Container.portList, hports, Option.getD_some] at hport
  exact hcompliant port hport

theorem env_of {v : EnvVar} (hv : v ∈ c.envList) : v.Compliant := by
  obtain ⟨env, henv, hcompliant⟩ := h.env
  simp only [Container.envList, henv, Option.getD_some] at hv
  exact hcompliant v hv

end Container.Compliant

theorem passes_of_compliant (h : pod.Compliant) : ∀ r ∈ catalog, r.Passes pod := by
  have hcontext {c : Container} (hc : c ∈ pod.spec.containers) :=
    (h.containers c hc).securityContext
  have hresources {c : Container} (hc : c ∈ pod.spec.containers) := (h.containers c hc).resources
  simp only [catalog, List.forall_mem_cons, List.not_mem_nil, false_implies, implies_true, and_true]
  refine ⟨?privileged, ?root, ?nonRoot, ?escalation, ?readOnly, ?drop,
    seccompProfile_passes.mpr h.seccomp, hostNetwork_passes.mpr h.hostNetwork,
    hostPid_passes.mpr h.hostPid, hostIpc_passes.mpr h.hostIpc, ?limits, ?requests, ?memory, ?cpu,
    livenessProbe_passes.mpr fun c hc => isSome_of_exists (h.containers c hc).livenessProbe,
    readinessProbe_passes.mpr fun c hc => isSome_of_exists (h.containers c hc).readinessProbe,
    containerSecurityContext_passes.mpr fun c hc => isSome_of_exists (hcontext hc),
    podSecurityContext_passes.mpr (isSome_of_exists h.seccomp),
    latestImageTag_passes.mpr fun c hc => (h.containers c hc).image,
    imagePullPolicy_passes.mpr fun c hc => (h.containers c hc).pullPolicy,
    productionPullPolicy_passes.mpr fun c hc => (h.containers c hc).productionPull,
    labelRule_passes.mpr (h.labels "app" (by simp)),
    labelRule_passes.mpr (h.labels "compliance" (by simp)),
    labelRule_passes.mpr (h.labels "environment" (by simp)),
    automountServiceAccountToken_passes.mpr h.accountToken,
    shareProcessNamespace_passes.mpr h.processNamespace,
    terminationGracePeriod_passes.mpr (isSome_of_exists h.gracePeriod), ?graceCeiling,
    volumeMounts_passes.mpr fun c hc => (h.containers c hc).volumeMounts,
    hostPathVolume_passes.mpr fun v hv => (h.volumes v hv).hostPath, ?size, ?sizeCeiling,
    containerPorts_passes.mpr fun c hc => isSome_of_exists (h.containers c hc).ports,
    unnamedUdpPort_passes.mpr fun c hc port hport => (h.containers c hc).port_of hport,
    containerEnv_passes.mpr fun c hc => isSome_of_exists (h.containers c hc).env,
    secretKeyRef_passes.mpr fun c hc v hv => (h.containers c hc).env_of hv,
    lifecycleHooks_passes.mpr fun c hc => isSome_of_exists (h.containers c hc).preStop,
    preStopHook_passes.mpr fun c hc => (h.containers c hc).preStop,
    probeThreshold_passes.mpr fun c hc => (h.containers c hc).startupProbe,
    probeThreshold_passes.mpr fun c hc _ => of_exists_some (h.containers c hc).livenessProbe,
    probeThreshold_passes.mpr fun c hc _ => of_exists_some (h.containers c hc).readinessProbe,
    annotationRule_passes.mpr (h.annotations _ (by decide)),
    annotationRule_passes.mpr (h.annotations _ (by decide)),
    productionIstioInjection_passes.mpr h.injection⟩
  case privileged =>
    exact privilegedContainers_passes.mpr fun c hc _ hsome =>
      ((h.containers c hc).context_of hsome).privileged
  case root =>
    exact runAsRoot_passes.mpr fun c hc _ hsome => ((h.containers c hc).context_of hsome).runAsUser
  case escalation =>
    exact privilegeEscalation_passes.mpr fun c hc _ hsome =>
      ((h.containers c hc).context_of hsome).escalation
  case nonRoot =>
    refine runAsNonRoot_passes.mpr fun c hc => ?_
    obtain ⟨context, hsome, hcompliant⟩ := hcontext hc
    exact ⟨context, hsome, hcompliant.runAsNonRoot⟩
  case readOnly =>
    refine readOnlyRootFilesystem_passes.mpr fun c hc => ?_
    obtain ⟨context, hsome, hcompliant⟩ := hcontext hc
    exact ⟨context, hsome, hcompliant.readOnlyRoot⟩
  case drop =>
    refine dropAllCapabilities_passes.mpr fun c hc => ?_
    obtain ⟨context, hsome, hcompliant⟩ := hcontext hc
    exact ⟨context, hsome, hcompliant.dropsAll⟩
  case limits =>
    refine resourceLimits_passes.mpr fun c hc => ?_
    obtain ⟨resources, hsome, hcompliant⟩ := hresources hc
    exact ⟨resources, hsome, isSome_of_exists hcompliant.limits⟩
  case requests =>
    refine resourceRequests_passes.mpr fun c hc => ?_
    obtain ⟨resources, hsome, hcompliant⟩ := hresources hc
    exact ⟨resources, hsome, hcompliant.requests⟩
  case memory =>
    exact memoryLimitCeiling_passes.mpr fun c hc _ hmemory =>
      ((h.containers c hc).limit_of hmemory).1 rfl
  case cpu =>
    exact cpuLimitCeiling_passes.mpr fun c hc _ hcpu => ((h.containers c hc).limit_of hcpu).2 rfl
  case graceCeiling =>
    exact terminationGracePeriodCeiling_passes.mpr fun _ => of_exists_some h.gracePeriod
  case size =>
    refine emptyDirSizeLimit_passes.mpr fun v hv dir hdir => ?_
    exact isSome_of_exists ((h.volumes v hv).emptyDir dir hdir)
  case sizeCeiling =>
    refine emptyDirSizeCeiling_passes.mpr fun v hv dir hdir size hsize => ?_
    exact of_exists_some ((h.volumes v hv).emptyDir dir hdir) hsize

/-- Nothing is found in a manifest exactly where it is of a kind without pods or
its pod complies. -/
theorem evaluate_nil_iff (manifest : Entries) :
    evaluate (.mapping manifest) = .ok [] ↔
      (∃ kind ∈ Workload.podlessKinds, manifest.get "kind" = .text kind) ∨
        ∃ pod, readPod (.mapping manifest) = .ok (some pod) ∧ pod.Compliant := by
  have hcompliant (pod : Pod) : (∀ r ∈ catalog, r.Passes pod) ↔ pod.Compliant :=
    ⟨pod_compliant, passes_of_compliant⟩
  rw [evaluate, evaluate_nil, readPod_none, extractPod_none, Engine.default_activeRules]
  simp only [hcompliant]

end PodPolicy
