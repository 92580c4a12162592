import PodPolicy.Manifest.Schema
import PodPolicy.Manifest.Pod

/-!
# The declared shape of a pod

The schema of each part of a pod, and beside it the part that a value of that
schema makes. A schema lists its fields in the order in which problems are
reported.
-/

namespace PodPolicy

namespace Fields

@[reducible]
def required (key : String) (schema : Schema) (rest : Fields) : Fields :=
  .cons ⟨key, key, .required⟩ schema rest

/-- An optional field with one spelling. -/
@[reducible]
def optional (key : String) (schema : Schema) (rest : Fields) : Fields :=
  .cons ⟨key, key, .optional⟩ schema rest

/-- An optional field with two spellings. -/
@[reducible]
def either (key spelling : String) (schema : Schema) (rest : Fields) : Fields :=
  .cons ⟨key, spelling, .optional⟩ schema rest

@[reducible]
def collapsing (key : String) (schema : Schema) (rest : Fields) : Fields :=
  .cons ⟨key, key, .collapsing⟩ schema rest

end Fields

namespace Declared

open Fields

@[reducible]
def opaqueMap : Schema :=
  .dict .any

@[reducible]
def seccompProfile : Schema :=
  .record "SeccompProfile" <|
    optional "type" .text <|
    either "localhostProfile" "localhost_profile" .text .nil

@[reducible]
def capabilities : Schema :=
  .record "Capabilities" <|
    optional "add" (.list .text) <|
    optional "drop" (.list .text) .nil

@[reducible]
def securityContext : Schema :=
  .record "SecurityContext" <|
    optional "privileged" .bool <|
    either "runAsUser" "run_as_user" .int <|
    either "runAsGroup" "run_as_group" .int <|
    either "runAsNonRoot" "run_as_non_root" .bool <|
    either "allowPrivilegeEscalation" "allow_privilege_escalation" .bool <|
    either "readOnlyRootFilesystem" "read_only_root_filesystem" .bool <|
    optional "capabilities" capabilities <|
    either "seccompProfile" "seccomp_profile" seccompProfile .nil

@[reducible]
def podSecurityContext : Schema :=
  .record "PodSecurityContext" <|
    either "runAsUser" "run_as_user" .int <|
    either "runAsGroup" "run_as_group" .int <|
    either "runAsNonRoot" "run_as_non_root" .bool <|
    either "fsGroup" "fs_group" .int <|
    either "seccompProfile" "seccomp_profile" seccompProfile .nil

@[reducible]
def resourceRequirements : Schema :=
  .record "ResourceRequirements" <|
    optional "limits" (.dict .quantity) <|
    optional "requests" (.dict .quantity) .nil

@[reducible]
def containerPort : Schema :=
  .record "ContainerPort" <|
    optional "name" .text <|
    either "containerPort" "container_port" .int <|
    either "hostPort" "host_port" .int <|
    optional "protocol" .text .nil

@[reducible]
def envVarSource : Schema :=
  .record "EnvVarSource" <|
    either "secretKeyRef" "secret_key_ref" opaqueMap <|
    either "configMapKeyRef" "config_map_key_ref" opaqueMap <|
    either "fieldRef" "field_ref" opaqueMap .nil

@[reducible]
def envVar : Schema :=
  .record "EnvVar" <|
    required "name" .text <|
    optional "value" .text <|
    either "valueFrom" "value_from" envVarSource .nil

@[reducible]
def probe : Schema :=
  .record "Probe" <|
    either "failureThreshold" "failure_threshold" .int <|
    either "successThreshold" "success_threshold" .int <|
    either "periodSeconds" "period_seconds" .int <|
    either "initialDelaySeconds" "initial_delay_seconds" .int .nil

@[reducible]
def lifecycle : Schema :=
  .record "Lifecycle" <|
    either "preStop" "pre_stop" opaqueMap <|
    either "postStart" "post_start" opaqueMap .nil

@[reducible]
def container : Schema :=
  .record "Container" <|
    required "name" .text <|
    optional "image" .text <|
    either "imagePullPolicy" "image_pull_policy" .text <|
    either "securityContext" "security_context" securityContext <|
    optional "resources" resourceRequirements <|
    optional "ports" (.list containerPort) <|
    optional "env" (.list envVar) <|
    either "livenessProbe" "liveness_probe" probe <|
    either "readinessProbe" "readiness_probe" probe <|
    either "startupProbe" "startup_probe" probe <|
    optional "lifecycle" lifecycle <|
    either "volumeMounts" "volume_mounts" (.list opaqueMap) .nil

@[reducible]
def emptyDir : Schema :=
  .record "EmptyDirVolumeSource" <|
    optional "medium" .text <|
    either "sizeLimit" "size_limit" .quantity .nil

@[reducible]
def volume : Schema :=
  .record "Volume" <|
    required "name" .text <|
    either "hostPath" "host_path" opaqueMap <|
    either "emptyDir" "empty_dir" emptyDir .nil

@[reducible]
def podSpec : Schema :=
  .record "PodSpec" <|
    either "hostNetwork" "host_network" .bool <|
    either "hostPID" "host_pid" .bool <|
    either "hostIPC" "host_ipc" .bool <|
    either "shareProcessNamespace" "share_process_namespace" .bool <|
    either "automountServiceAccountToken" "automount_service_account_token" .bool <|
    either "terminationGracePeriodSeconds" "termination_grace_period_seconds" .int <|
    either "securityContext" "security_context" podSecurityContext <|
    collapsing "volumes" (.list volume) <|
    collapsing "containers" (.list container) .nil

@[reducible]
def metadata : Schema :=
  .record "ObjectMeta" <|
    optional "name" .text <|
    optional "namespace" .text <|
    collapsing "labels" (.dict .label) <|
    collapsing "annotations" (.dict .label) .nil

@[reducible]
def pod : Schema :=
  .record "ManifestDocument" <|
    required "kind" .text <|
    either "apiVersion" "api_version" .text <|
    collapsing "metadata" metadata <|
    collapsing "spec" podSpec .nil

end Declared

-- -----------------------------------------------------------------------------
-- Parts of a pod
-- -----------------------------------------------------------------------------

def SeccompProfile.ofForm : Declared.seccompProfile.Form → SeccompProfile
  | ((type, localhostProfile, _), _) =>
    { type := type.join
      localhostProfile := localhostProfile.join }

def Capabilities.ofForm : Declared.capabilities.Form → Capabilities
  | ((add, drop, _), _) =>
    { add := add.join
      drop := drop.join }

def SecurityContext.ofForm : Declared.securityContext.Form → SecurityContext
  | ((privileged, runAsUser, runAsGroup, runAsNonRoot, allowPrivilegeEscalation,
      readOnlyRootFilesystem, capabilities, seccompProfile, _), _) =>
    { privileged := privileged.join
      runAsUser := runAsUser.join
      runAsGroup := runAsGroup.join
      runAsNonRoot := runAsNonRoot.join
      allowPrivilegeEscalation := allowPrivilegeEscalation.join
      readOnlyRootFilesystem := readOnlyRootFilesystem.join
      capabilities := capabilities.join.map Capabilities.ofForm
      seccompProfile := seccompProfile.join.map SeccompProfile.ofForm }

def PodSecurityContext.ofForm : Declared.podSecurityContext.Form → PodSecurityContext
  | ((runAsUser, runAsGroup, runAsNonRoot, fsGroup, seccompProfile, _), _) =>
    { runAsUser := runAsUser.join
      runAsGroup := runAsGroup.join
      runAsNonRoot := runAsNonRoot.join
      fsGroup := fsGroup.join
      seccompProfile := seccompProfile.join.map SeccompProfile.ofForm }

def ResourceRequirements.ofForm : Declared.resourceRequirements.Form → ResourceRequirements
  | ((limits, requests, _), _) =>
    { limits := limits.join
      requests := requests.join }

def ContainerPort.ofForm : Declared.containerPort.Form → ContainerPort
  | ((name, containerPort, hostPort, protocol, _), _) =>
    { name := name.join
      containerPort := containerPort.join
      hostPort := hostPort.join
      protocol := protocol.join }

def EnvVarSource.ofForm : Declared.envVarSource.Form → EnvVarSource
  | ((secretKeyRef, configMapKeyRef, fieldRef, _), _) =>
    { secretKeyRef := secretKeyRef.join
      configMapKeyRef := configMapKeyRef.join
      fieldRef := fieldRef.join }

def EnvVar.ofForm : Declared.envVar.Form → EnvVar
  | ((name, value, valueFrom, _), _) =>
    { name := name
      value := value.join
      valueFrom := valueFrom.join.map EnvVarSource.ofForm }

def Probe.ofForm : Declared.probe.Form → Probe
  | ((failureThreshold, successThreshold, periodSeconds, initialDelaySeconds, _), _) =>
    { failureThreshold := failureThreshold.join
      successThreshold := successThreshold.join
      periodSeconds := periodSeconds.join
      initialDelaySeconds := initialDelaySeconds.join }

def Lifecycle.ofForm : Declared.lifecycle.Form → Lifecycle
  | ((preStop, postStart, _), _) =>
    { preStop := preStop.join
      postStart := postStart.join }

def Container.ofForm : Declared.container.Form → Container
  | ((name, image, imagePullPolicy, securityContext, resources, ports, env, livenessProbe,
      readinessProbe, startupProbe, lifecycle, volumeMounts, _), _) =>
    { name := name
      image := image.join
      imagePullPolicy := imagePullPolicy.join
      securityContext := securityContext.join.map SecurityContext.ofForm
      resources := resources.join.map ResourceRequirements.ofForm
      ports := ports.join.map (·.map ContainerPort.ofForm)
      env := env.join.map (·.map EnvVar.ofForm)
      livenessProbe := livenessProbe.join.map Probe.ofForm
      readinessProbe := readinessProbe.join.map Probe.ofForm
      startupProbe := startupProbe.join.map Probe.ofForm
      lifecycle := lifecycle.join.map Lifecycle.ofForm
      volumeMounts := volumeMounts.join }

def EmptyDir.ofForm : Declared.emptyDir.Form → EmptyDir
  | ((medium, sizeLimit, _), _) =>
    { medium := medium.join
      sizeLimit := sizeLimit.join }

def Volume.ofForm : Declared.volume.Form → Volume
  | ((name, hostPath, emptyDir, _), _) =>
    { name := name
      hostPath := hostPath.join
      emptyDir := emptyDir.join.map EmptyDir.ofForm }

def PodSpec.ofForm : Declared.podSpec.Form → PodSpec
  | ((hostNetwork, hostPid, hostIpc, shareProcessNamespace, automountServiceAccountToken,
      terminationGracePeriodSeconds, securityContext, volumes, containers, _), _) =>
    { hostNetwork := hostNetwork.join
      hostPid := hostPid.join
      hostIpc := hostIpc.join
      shareProcessNamespace := shareProcessNamespace.join
      automountServiceAccountToken := automountServiceAccountToken.join
      terminationGracePeriodSeconds := terminationGracePeriodSeconds.join
      securityContext := securityContext.join.map PodSecurityContext.ofForm
      volumes := (volumes.getD []).map Volume.ofForm
      containers := (containers.getD []).map Container.ofForm }

def Metadata.ofForm : Declared.metadata.Form → Metadata
  | ((name, namespaceName, labels, annotations, _), _) =>
    { name := name.join
      namespaceName := namespaceName.join
      labels := labels.getD []
      annotations := annotations.getD [] }

def Pod.ofForm : Declared.pod.Form → Pod
  | ((kind, apiVersion, metadata, spec, _), _) =>
    { kind := kind
      apiVersion := apiVersion.join
      metadata := (metadata.map Metadata.ofForm).getD {}
      spec := (spec.map PodSpec.ofForm).getD {} }

end PodPolicy
