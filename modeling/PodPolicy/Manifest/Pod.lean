import PodPolicy.Value

/-!
# Pods

A pod as the rules see it: its declared fields, each optional one present or
not. Mappings whose content no rule reads are kept as they are.
-/

namespace PodPolicy

abbrev Labels := List (String × String)

def Labels.get? (labels : Labels) (name : String) : Option String :=
  labels.lookup name

def Labels.has (labels : Labels) (name : String) : Bool :=
  (labels.get? name).isSome

abbrev OpaqueMap := List (String × Value)

structure SeccompProfile where
  type : Option String
  localhostProfile : Option String

structure Capabilities where
  add : Option (List String)
  drop : Option (List String)

structure SecurityContext where
  privileged : Option Bool
  runAsUser : Option Int
  runAsGroup : Option Int
  runAsNonRoot : Option Bool
  allowPrivilegeEscalation : Option Bool
  readOnlyRootFilesystem : Option Bool
  capabilities : Option Capabilities
  seccompProfile : Option SeccompProfile

structure PodSecurityContext where
  runAsUser : Option Int
  runAsGroup : Option Int
  runAsNonRoot : Option Bool
  fsGroup : Option Int
  seccompProfile : Option SeccompProfile

structure ResourceRequirements where
  limits : Option Labels
  requests : Option Labels

structure ContainerPort where
  name : Option String
  containerPort : Option Int
  hostPort : Option Int
  protocol : Option String

structure EnvVarSource where
  secretKeyRef : Option OpaqueMap
  configMapKeyRef : Option OpaqueMap
  fieldRef : Option OpaqueMap

structure EnvVar where
  name : String
  value : Option String
  valueFrom : Option EnvVarSource

structure Probe where
  failureThreshold : Option Int
  successThreshold : Option Int
  periodSeconds : Option Int
  initialDelaySeconds : Option Int

structure Lifecycle where
  preStop : Option OpaqueMap
  postStart : Option OpaqueMap

structure Container where
  name : String
  image : Option String
  imagePullPolicy : Option String
  securityContext : Option SecurityContext
  resources : Option ResourceRequirements
  ports : Option (List ContainerPort)
  env : Option (List EnvVar)
  livenessProbe : Option Probe
  readinessProbe : Option Probe
  startupProbe : Option Probe
  lifecycle : Option Lifecycle
  volumeMounts : Option (List OpaqueMap)

structure EmptyDir where
  medium : Option String
  sizeLimit : Option String

structure Volume where
  name : String
  hostPath : Option OpaqueMap
  emptyDir : Option EmptyDir

structure PodSpec where
  hostNetwork : Option Bool := none
  hostPid : Option Bool := none
  hostIpc : Option Bool := none
  shareProcessNamespace : Option Bool := none
  automountServiceAccountToken : Option Bool := none
  terminationGracePeriodSeconds : Option Int := none
  securityContext : Option PodSecurityContext := none
  volumes : List Volume := []
  containers : List Container := []

structure Metadata where
  name : Option String := none
  namespaceName : Option String := none
  labels : Labels := []
  annotations : Labels := []

structure Pod where
  kind : String
  apiVersion : Option String
  metadata : Metadata
  spec : PodSpec

/-- The limits of a container; none are set where its resources are absent. -/
def Container.limits (c : Container) : Labels :=
  ((c.resources.bind (·.limits))).getD []

def Container.portList (c : Container) : List ContainerPort :=
  c.ports.getD []

def Container.envList (c : Container) : List EnvVar :=
  c.env.getD []

end PodPolicy
