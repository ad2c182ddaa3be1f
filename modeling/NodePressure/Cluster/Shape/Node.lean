import NodePressure.Cluster.Shape

/-!
# NodePressure.Cluster.Shape.Node - the shape of a node
-/

namespace NodePressure.Shape

/-- A taint. -/
def taint : Shape :=
  record (texts ["effect", "key", "value"] ++ [("timeAdded", time)])

/-- Where the configuration of a node comes from. -/
def configSource : Shape :=
  record [("configMap",
    ofTexts ["kubeletConfigKey", "name", "namespace", "resourceVersion", "uid"])]

/-- What a node is meant to be. -/
def nodeSpec : Shape :=
  record (texts ["externalID", "podCIDR", "providerID"] ++
    [("configSource", configSource), ("podCIDRs", listOf text), ("taints", listOf taint),
      ("unschedulable", flag)])

/-- What a node is. -/
def nodeStatus : Shape :=
  record (texts ["phase"] ++ all textMap ["allocatable", "capacity"] ++
    [("addresses", listOf (ofTexts ["address", "type"])),
      ("conditions", listOf (condition ["lastHeartbeatTime", "lastTransitionTime"])),
      ("config", record (texts ["error"] ++
        all configSource ["active", "assigned", "lastKnownGood"])),
      ("daemonEndpoints", record [("kubeletEndpoint", record [("Port", number 32)])]),
      ("images", listOf (record [("names", listOf text), ("sizeBytes", number 64)])),
      ("nodeInfo", ofTexts ["architecture", "bootID", "containerRuntimeVersion", "kernelVersion",
        "kubeProxyVersion", "kubeletVersion", "machineID", "operatingSystem", "osImage",
        "systemUUID"]),
      ("volumesAttached", listOf (ofTexts ["devicePath", "name"])), ("volumesInUse", listOf text)])

/-- A node. -/
def node : Shape :=
  object "Node" nodeSpec nodeStatus

end NodePressure.Shape
