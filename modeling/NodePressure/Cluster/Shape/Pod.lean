import NodePressure.Cluster.Shape.Volume

/-!
# NodePressure.Cluster.Shape.Pod - the shape of a pod
-/

namespace NodePressure.Shape

/-- A choice of nodes. -/
def nodeTerm : Shape :=
  record (all (listOf requirement) ["matchExpressions", "matchFields"])

/-- A choice of pods in a place. -/
def podTerm : Shape :=
  record (texts ["topologyKey"] ++ all labelSelector ["labelSelector", "namespaceSelector"] ++
    [("namespaces", listOf text)])

/-- Pods that a pod should be near to, or far from. -/
def podPreference : Shape :=
  record [("preferredDuringSchedulingIgnoredDuringExecution",
      listOf (record [("podAffinityTerm", podTerm), ("weight", number 32)])),
    ("requiredDuringSchedulingIgnoredDuringExecution", listOf podTerm)]

/-- Nodes that a pod should be on. -/
def nodePreference : Shape :=
  record [("preferredDuringSchedulingIgnoredDuringExecution",
      listOf (record [("preference", nodeTerm), ("weight", number 32)])),
    ("requiredDuringSchedulingIgnoredDuringExecution",
      record [("nodeSelectorTerms", listOf nodeTerm)])]

/-- What a pod may do. -/
def podRights : Shape :=
  record (texts ["fsGroupChangePolicy"] ++ all (number 64) ["fsGroup", "runAsGroup", "runAsUser"] ++
    [("runAsNonRoot", flag), ("seLinuxOptions", securityLabels), ("seccompProfile", callFilter),
      ("supplementalGroups", listOf (number 64)), ("sysctls", listOf nameValue),
      ("windowsOptions", windowsAccount)])

/-- How pods are spread over places. -/
def spread : Shape :=
  record (texts ["nodeAffinityPolicy", "nodeTaintsPolicy", "topologyKey", "whenUnsatisfiable"] ++
    all (number 32) ["maxSkew", "minDomains"] ++
    [("labelSelector", labelSelector), ("matchLabelKeys", listOf text)])

/-- Where a pod runs. -/
def placement : List (String × Shape) := [
  ("affinity", record (all podPreference ["podAffinity", "podAntiAffinity"] ++
    [("nodeAffinity", nodePreference)])),
  ("nodeSelector", textMap),
  ("tolerations", listOf (record (texts ["effect", "key", "operator", "value"] ++
    [("tolerationSeconds", number 64)]))),
  ("topologySpreadConstraints", listOf spread)]

/-- How a pod finds names of hosts. -/
def hostNames : List (String × Shape) := [
  ("dnsConfig", record (all (listOf text) ["nameservers", "searches"] ++
    [("options", listOf nameValue)])),
  ("hostAliases", listOf (record (texts ["ip"] ++ [("hostnames", listOf text)])))]

/-- What a pod is meant to be. -/
def podSpec : Shape :=
  record (texts ["dnsPolicy", "hostname", "nodeName", "preemptionPolicy", "priorityClassName",
      "restartPolicy", "runtimeClassName", "schedulerName", "serviceAccount",
      "serviceAccountName", "subdomain"] ++
    all (number 64) ["activeDeadlineSeconds", "terminationGracePeriodSeconds"] ++
    all flag ["automountServiceAccountToken", "enableServiceLinks", "hostIPC", "hostNetwork",
      "hostPID", "hostUsers", "setHostnameAsFQDN", "shareProcessNamespace"] ++
    all (listOf container) ["containers", "initContainers"] ++
    all (listOf nameOnly) ["imagePullSecrets", "schedulingGates"] ++ placement ++ hostNames ++
    [("ephemeralContainers", listOf ephemeralContainer), ("os", nameOnly), ("overhead", textMap),
      ("priority", number 32), ("readinessGates", listOf (ofTexts ["conditionType"])),
      ("resourceClaims", listOf (record (texts ["name"] ++
        [("source", ofTexts ["resourceClaimName", "resourceClaimTemplateName"])]))),
      ("securityContext", podRights), ("volumes", listOf volume)])

/-- What a pod is. -/
def podStatus : Shape :=
  record (texts ["hostIP", "message", "nominatedNodeName", "phase", "podIP", "qosClass", "reason",
      "resize"] ++
    all (listOf containerStatus) ["containerStatuses", "ephemeralContainerStatuses",
      "initContainerStatuses"] ++
    all (listOf (ofTexts ["ip"])) ["hostIPs", "podIPs"] ++
    [("conditions", listOf (condition ["lastProbeTime", "lastTransitionTime"])),
      ("resourceClaimStatuses", listOf (ofTexts ["name", "resourceClaimName"])),
      ("startTime", time)])

/-- A pod. -/
def pod : Shape :=
  object "Pod" podSpec podStatus

end NodePressure.Shape
