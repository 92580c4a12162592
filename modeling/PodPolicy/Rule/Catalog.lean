import PodPolicy.Rule
import PodPolicy.Text.Lowercase

/-!
# The rule catalog

Every rule stands alone. A rule against absence fires where a field is missing;
a rule against a value looks only at fields that are there. The order of the
catalog is the order in which violations are reported.
-/

namespace PodPolicy

namespace Catalog

def productionNamespace : String := "production"

def memoryCeiling : String := "2Gi"
def cpuCeiling : String := "2000m"
def emptyDirCeiling : String := "1Gi"
def gracePeriodCeiling : Int := 60
def startupFailureCeiling : Int := 30
def probeFailureCeiling : Int := 5

def pspAnnotation : String := "kubernetes.io/psp"
def scrapeAnnotation : String := "prometheus.io/scrape"
def injectAnnotation : String := "sidecar.istio.io/inject"

def inProduction (pod : Pod) : Bool :=
  pod.metadata.namespaceName == some productionNamespace

-- -----------------------------------------------------------------------------
-- Pod security
-- -----------------------------------------------------------------------------

def isPrivileged (c : Container) : Bool :=
  c.securityContext.any fun context => context.privileged == some true

def privilegedContainers : Rule where
  id := "privileged-containers"
  scope := .pod
  severity := .critical
  category := "Pod Security"
  description := "Containers must not run in privileged mode."
  check := fun pod _ =>
    .when (pod.spec.containers.any isPrivileged) "Privileged containers are not allowed"

def runAsRoot : Rule where
  id := "run-as-root"
  scope := .container
  severity := .high
  category := "Pod Security"
  description := "Containers must not explicitly run as UID 0."
  check := fun _ c =>
    .when (c.securityContext.any fun context => context.runAsUser == some 0)
      s!"Container {c.name} must not run as root user (runAsUser: 0)"

def runAsNonRoot : Rule where
  id := "run-as-non-root"
  scope := .container
  severity := .medium
  category := "Pod Security"
  description := "Containers must set runAsNonRoot to true."
  check := fun _ c =>
    .when (!c.securityContext.any fun context => context.runAsNonRoot == some true)
      s!"Container {c.name} must set runAsNonRoot to true"

def privilegeEscalation : Rule where
  id := "privilege-escalation"
  scope := .container
  severity := .high
  category := "Pod Security"
  description := "Containers must not allow privilege escalation."
  check := fun _ c =>
    .when (c.securityContext.any fun context => context.allowPrivilegeEscalation == some true)
      s!"Container {c.name} must not allow privilege escalation"

def readOnlyRootFilesystem : Rule where
  id := "read-only-root-filesystem"
  scope := .container
  severity := .medium
  category := "Pod Security"
  description := "Containers must mount their root filesystem read-only."
  check := fun _ c =>
    .when (!c.securityContext.any fun context => context.readOnlyRootFilesystem == some true)
      s!"Container {c.name} must have readOnlyRootFilesystem set to true"

/-- The capabilities that a container drops. -/
def droppedCapabilities (c : Container) : List String :=
  ((c.securityContext.bind (·.capabilities)).bind (·.drop)).getD []

def dropAllCapabilities : Rule where
  id := "drop-all-capabilities"
  scope := .container
  severity := .medium
  category := "Pod Security"
  description := "Containers must drop ALL Linux capabilities."
  check := fun _ c =>
    .when (!(droppedCapabilities c).contains "ALL")
      s!"Container {c.name} must drop ALL capabilities"

/-- The type of the pod's seccomp profile. -/
def seccompType? (pod : Pod) : Option String :=
  (pod.spec.securityContext.bind (·.seccompProfile)).bind (·.type)

def seccompProfile : Rule where
  id := "seccomp-profile"
  scope := .pod
  severity := .medium
  category := "Pod Security"
  description := "Pods must set a seccomp profile type in the pod securityContext."
  check := fun pod _ =>
    .when (!(seccompType? pod).any fun type => !type.isEmpty)
      "Pod must specify a seccomp profile type"

def hostNetwork : Rule where
  id := "host-network"
  scope := .pod
  severity := .high
  category := "Pod Security"
  description := "Pods must not use the host network namespace."
  check := fun pod _ =>
    .when (pod.spec.hostNetwork == some true) "Pod must not use the host network"

def hostPid : Rule where
  id := "host-pid"
  scope := .pod
  severity := .high
  category := "Pod Security"
  description := "Pods must not use the host PID namespace."
  check := fun pod _ =>
    .when (pod.spec.hostPid == some true) "Pod must not use the host PID namespace"

def hostIpc : Rule where
  id := "host-ipc"
  scope := .pod
  severity := .high
  category := "Pod Security"
  description := "Pods must not use the host IPC namespace."
  check := fun pod _ =>
    .when (pod.spec.hostIpc == some true) "Pod must not use the host IPC namespace"

-- -----------------------------------------------------------------------------
-- Resource management
-- -----------------------------------------------------------------------------

def resourceLimits : Rule where
  id := "resource-limits"
  scope := .container
  severity := .medium
  category := "Resource Management"
  description := "Containers must specify resource limits."
  check := fun _ c =>
    .when (c.resources.bind (·.limits)).isNone s!"Container {c.name} must specify resource limits"

def resourceRequests : Rule where
  id := "resource-requests"
  scope := .container
  severity := .medium
  category := "Resource Management"
  description := "Containers must specify resource requests."
  check := fun _ c =>
    .when (c.resources.bind (·.requests)).isNone
      s!"Container {c.name} must specify resource requests"

def memoryLimitCeiling : Rule where
  id := "memory-limit-ceiling"
  scope := .container
  severity := .medium
  category := "Resource Management"
  description := s!"Container memory limits must not exceed {memoryCeiling}."
  check := fun _ c =>
    match c.limits.get? "memory" with
    | none => .nothing
    | some memory =>
      .whenExceeds (.text memory) (.text memoryCeiling)
        s!"Container {c.name} memory limit {memory} exceeds {memoryCeiling}"

def cpuLimitCeiling : Rule where
  id := "cpu-limit-ceiling"
  scope := .container
  severity := .medium
  category := "Resource Management"
  description := s!"Container CPU limits must not exceed {cpuCeiling}."
  check := fun _ c =>
    match c.limits.get? "cpu" with
    | none => .nothing
    | some cpu =>
      .whenExceeds (.text cpu) (.text cpuCeiling)
        s!"Container {c.name} CPU limit {cpu} exceeds {cpuCeiling}"

-- -----------------------------------------------------------------------------
-- Probes and contexts
-- -----------------------------------------------------------------------------

def livenessProbe : Rule where
  id := "liveness-probe"
  scope := .container
  severity := .low
  category := "Best Practices"
  description := "Containers must define a liveness probe."
  check := fun _ c =>
    .when c.livenessProbe.isNone s!"Container {c.name} must define a livenessProbe"

def readinessProbe : Rule where
  id := "readiness-probe"
  scope := .container
  severity := .low
  category := "Best Practices"
  description := "Containers must define a readiness probe."
  check := fun _ c =>
    .when c.readinessProbe.isNone s!"Container {c.name} must define a readinessProbe"

def containerSecurityContext : Rule where
  id := "container-security-context"
  scope := .container
  severity := .medium
  category := "Pod Security"
  description := "Containers must define a securityContext."
  check := fun _ c =>
    .when c.securityContext.isNone s!"Container {c.name} must define a securityContext"

def podSecurityContext : Rule where
  id := "pod-security-context"
  scope := .pod
  severity := .medium
  category := "Pod Security"
  description := "Pods must define a pod-level securityContext."
  check := fun pod _ =>
    .when pod.spec.securityContext.isNone "Pod must define a pod-level securityContext"

-- -----------------------------------------------------------------------------
-- Image security
-- -----------------------------------------------------------------------------

def latestTag : String := ":latest"

def latestImageTag : Rule where
  id := "latest-image-tag"
  scope := .container
  severity := .medium
  category := "Image Security"
  description := "Container images must not use the :latest tag."
  check := fun _ c =>
    .when (c.image.any fun image => latestTag.toList.isSuffixOf image.toList)
      s!"Container {c.name} must not use the ':latest' image tag"

def imagePullPolicy : Rule where
  id := "image-pull-policy"
  scope := .container
  severity := .low
  category := "Image Security"
  description := "Containers must set an explicit imagePullPolicy."
  check := fun _ c =>
    .when c.imagePullPolicy.isNone s!"Container {c.name} must specify an imagePullPolicy"

def productionPullPolicy : Rule where
  id := "production-pull-policy"
  scope := .container
  severity := .low
  category := "Image Security"
  description := "Containers in the production namespace must not use imagePullPolicy Always."
  check := fun pod c =>
    .when (inProduction pod && c.imagePullPolicy == some "Always")
      s!"Container {c.name} must not use imagePullPolicy Always in the {productionNamespace} namespace"

-- -----------------------------------------------------------------------------
-- Compliance
-- -----------------------------------------------------------------------------

/-- Pods must carry a label. -/
def labelRule (label : String) : Rule where
  id := s!"{label}-label"
  scope := .pod
  severity := .low
  category := "Compliance"
  description := s!"Pods must carry the '{label}' label."
  check := fun pod _ =>
    .when (!pod.metadata.labels.has label) s!"Pod must have the '{label}' label"

def automountServiceAccountToken : Rule where
  id := "automount-service-account-token"
  scope := .pod
  severity := .medium
  category := "Pod Security"
  description := "Pods must not automount the service account token."
  check := fun pod _ =>
    .when (pod.spec.automountServiceAccountToken == some true)
      "Pod must not automount the service account token"

def shareProcessNamespace : Rule where
  id := "share-process-namespace"
  scope := .pod
  severity := .medium
  category := "Pod Security"
  description := "Pods must not share a single process namespace between containers."
  check := fun pod _ =>
    .when (pod.spec.shareProcessNamespace == some true)
      "Pod must not share the process namespace"

def terminationGracePeriod : Rule where
  id := "termination-grace-period"
  scope := .pod
  severity := .low
  category := "Best Practices"
  description := "Pods must set terminationGracePeriodSeconds."
  check := fun pod _ =>
    .when pod.spec.terminationGracePeriodSeconds.isNone
      "Pod must specify terminationGracePeriodSeconds"

/-- A finding where a number is over a ceiling; nothing where it is absent. -/
def whenAbove (ceiling : Int) (n? : Option Int) (message : Int → String) : Finding :=
  match n? with
  | none => .nothing
  | some n => .when (ceiling < n) (message n)

def terminationGracePeriodCeiling : Rule where
  id := "termination-grace-period-ceiling"
  scope := .pod
  severity := .low
  category := "Best Practices"
  description := s!"terminationGracePeriodSeconds must not exceed {gracePeriodCeiling}."
  check := fun pod _ =>
    whenAbove gracePeriodCeiling pod.spec.terminationGracePeriodSeconds fun n =>
      s!"Pod terminationGracePeriodSeconds {n} exceeds {gracePeriodCeiling}"
  figure := fun pod _ => pod.spec.terminationGracePeriodSeconds

-- -----------------------------------------------------------------------------
-- Storage
-- -----------------------------------------------------------------------------

def volumeMounts : Rule where
  id := "volume-mounts"
  scope := .container
  severity := .low
  category := "Storage"
  description := "Containers must declare volumeMounts."
  check := fun _ c =>
    .when c.volumeMounts.isNone s!"Container {c.name} must define volumeMounts"

def hostPathVolume : Rule where
  id := "host-path-volume"
  scope := .volume
  severity := .high
  category := "Storage"
  description := "Pods must not mount hostPath volumes."
  check := fun _ v =>
    .when v.hostPath.isSome s!"Volume {v.name} must not use hostPath"

def emptyDirSizeLimit : Rule where
  id := "empty-dir-size-limit"
  scope := .volume
  severity := .low
  category := "Storage"
  description := "emptyDir volumes must set a sizeLimit."
  check := fun _ v =>
    .when (v.emptyDir.any fun dir => dir.sizeLimit.isNone)
      s!"Volume {v.name} emptyDir must specify a sizeLimit"

def emptyDirSizeCeiling : Rule where
  id := "empty-dir-size-ceiling"
  scope := .volume
  severity := .low
  category := "Storage"
  description := s!"emptyDir sizeLimit must not exceed {emptyDirCeiling}."
  check := fun _ v =>
    match v.emptyDir.bind (·.sizeLimit) with
    | none => .nothing
    | some size =>
      .whenExceeds (.text size) (.text emptyDirCeiling)
        s!"Volume {v.name} emptyDir sizeLimit {size} exceeds {emptyDirCeiling}"

-- -----------------------------------------------------------------------------
-- Networking
-- -----------------------------------------------------------------------------

def containerPorts : Rule where
  id := "container-ports"
  scope := .container
  severity := .low
  category := "Networking"
  description := "Containers must declare the ports they expose."
  check := fun _ c =>
    .when c.ports.isNone s!"Container {c.name} must define ports"

/-- The number of a port as a message shows it. -/
def portText (port : ContainerPort) : String :=
  match port.containerPort with
  | some n => toString n
  | none => "None"

def unnamedUdpPort : Rule where
  id := "unnamed-udp-port"
  scope := .port
  severity := .low
  category := "Networking"
  description := "UDP container ports must be named."
  check := fun _ (c, port) =>
    .when (port.protocol == some "UDP" && !port.name.any fun name => !name.isEmpty)
      s!"Container {c.name} has an unnamed UDP port {portText port}"
  figure := fun _ (_, port) => port.containerPort

-- -----------------------------------------------------------------------------
-- Configuration
-- -----------------------------------------------------------------------------

def containerEnv : Rule where
  id := "container-env"
  scope := .container
  severity := .low
  category := "Configuration"
  description := "Containers must declare environment variables."
  check := fun _ c =>
    .when c.env.isNone s!"Container {c.name} must define environment variables"

def secretKeyRef : Rule where
  id := "secret-key-ref"
  scope := .env
  severity := .high
  category := "Configuration"
  description := "SECRET_KEY must be loaded from a Secret, never set inline."
  check := fun _ (c, v) =>
    .when (v.name == "SECRET_KEY" && (v.valueFrom.bind (·.secretKeyRef)).isNone)
      s!"Container {c.name} must load SECRET_KEY from a secretKeyRef"

-- -----------------------------------------------------------------------------
-- Lifecycle
-- -----------------------------------------------------------------------------

def lifecycleHooks : Rule where
  id := "lifecycle-hooks"
  scope := .container
  severity := .low
  category := "Best Practices"
  description := "Containers must define lifecycle hooks."
  check := fun _ c =>
    .when c.lifecycle.isNone s!"Container {c.name} must define lifecycle hooks"

def preStopHook : Rule where
  id := "pre-stop-hook"
  scope := .container
  severity := .low
  category := "Best Practices"
  description := "Containers must define a preStop hook for graceful shutdown."
  check := fun _ c =>
    .when (c.lifecycle.bind (·.preStop)).isNone
      s!"Container {c.name} must define a preStop lifecycle hook"

/-- A probe may fail only so often before its container is given up. -/
def probeThreshold (id probeName : String) (probe : Container → Option Probe) (ceiling : Int) :
    Rule where
  id := id
  scope := .container
  severity := .low
  category := "Best Practices"
  description := s!"{probeName} failureThreshold must not exceed {ceiling}."
  check := fun _ c =>
    whenAbove ceiling ((probe c).bind (·.failureThreshold)) fun n =>
      s!"Container {c.name} {probeName} failureThreshold {n} exceeds {ceiling}"
  figure := fun _ c => (probe c).bind (·.failureThreshold)

def startupProbeThreshold : Rule :=
  probeThreshold "startup-probe-threshold" "startupProbe" (·.startupProbe) startupFailureCeiling

def livenessProbeThreshold : Rule :=
  probeThreshold "liveness-probe-threshold" "livenessProbe" (·.livenessProbe) probeFailureCeiling

def readinessProbeThreshold : Rule :=
  probeThreshold "readiness-probe-threshold" "readinessProbe" (·.readinessProbe)
    probeFailureCeiling

-- -----------------------------------------------------------------------------
-- Observability
-- -----------------------------------------------------------------------------

/-- Pods must carry an annotation. -/
def annotationRule (id annotationName category : String) : Rule where
  id := id
  scope := .pod
  severity := .low
  category := category
  description := s!"Pods must carry the '{annotationName}' annotation."
  check := fun pod _ =>
    .when (!pod.metadata.annotations.has annotationName)
      s!"Pod must have the '{annotationName}' annotation"

def pspRule : Rule :=
  annotationRule "psp-annotation" pspAnnotation "Compliance"

def scrapeRule : Rule :=
  annotationRule "prometheus-scrape-annotation" scrapeAnnotation "Observability"

def productionIstioInjection : Rule where
  id := "production-istio-injection"
  scope := .pod
  severity := .medium
  category := "Networking"
  description := "Istio sidecar injection must not be enabled in the production namespace."
  check := fun pod _ =>
    .when (inProduction pod &&
        (pod.metadata.annotations.get? injectAnnotation).any fun inject => Text.lower inject == "true")
      s!"Pod must not enable Istio sidecar injection in the {productionNamespace} namespace"

end Catalog

open Catalog in
def catalog : List Rule :=
  [privilegedContainers, runAsRoot, runAsNonRoot, privilegeEscalation, readOnlyRootFilesystem,
   dropAllCapabilities, seccompProfile, hostNetwork, hostPid, hostIpc,
   resourceLimits, resourceRequests, memoryLimitCeiling, cpuLimitCeiling,
   livenessProbe, readinessProbe, containerSecurityContext, podSecurityContext,
   latestImageTag, imagePullPolicy, productionPullPolicy,
   labelRule "app", labelRule "compliance", labelRule "environment",
   automountServiceAccountToken, shareProcessNamespace,
   terminationGracePeriod, terminationGracePeriodCeiling,
   volumeMounts, hostPathVolume, emptyDirSizeLimit, emptyDirSizeCeiling,
   containerPorts, unnamedUdpPort, containerEnv, secretKeyRef,
   lifecycleHooks, preStopHook,
   startupProbeThreshold, livenessProbeThreshold, readinessProbeThreshold,
   pspRule, scrapeRule, productionIstioInjection]

def findRule? (id : String) : Option Rule :=
  catalog.find? (·.id == id)

end PodPolicy
