import NodePressure.Cluster.Shape.Container

/-!
# NodePressure.Cluster.Shape.Volume - the shape of a volume of a pod
-/

namespace NodePressure.Shape

/-- Files taken from the keys of an object. -/
def filesOfKeys : Shape :=
  listOf (record (texts ["key", "path"] ++ [("mode", number 32)]))

/-- Files taken from fields of the pod. -/
def filesOfFields : Shape :=
  listOf (record (texts ["path"] ++ [("mode", number 32), ("fieldRef", fieldReference),
    ("resourceFieldRef", resourceReference)]))

/-- Part of an object as files. -/
def projection : Shape :=
  record (texts ["name"] ++ [("items", filesOfKeys), ("optional", flag)])

/-- A source among several of one volume. -/
def projectedSource : Shape :=
  record (all projection ["configMap", "secret"] ++
    [("downwardAPI", record [("items", filesOfFields)]),
      ("serviceAccountToken", record (texts ["audience", "path"] ++
        [("expirationSeconds", number 64)]))])

/-- An object with an optional kind of its interface. -/
def typedReference : Shape := ofTexts ["apiGroup", "kind", "name"]

/-- A claim on storage. -/
def storageClaim : Shape :=
  record (texts ["storageClassName", "volumeMode", "volumeName"] ++
    [("accessModes", listOf text), ("dataSource", typedReference),
      ("dataSourceRef", ofTexts ["apiGroup", "kind", "name", "namespace"]),
      ("resources", resources), ("selector", labelSelector)])

/-- A disk or share that can be read only. -/
def share (names : List String) : List (String × Shape) :=
  texts names ++ [("readOnly", flag)]

/-- Volumes that a provider of machines offers. -/
def hostedVolumes : List (String × Shape) := [
  ("awsElasticBlockStore", record (share ["fsType", "volumeID"] ++ [("partition", number 32)])),
  ("azureDisk", record (share ["cachingMode", "diskName", "diskURI", "fsType", "kind"])),
  ("azureFile", record (share ["secretName", "shareName"])),
  ("cinder", record (share ["fsType", "volumeID"] ++ [("secretRef", nameOnly)])),
  ("gcePersistentDisk", record (share ["fsType", "pdName"] ++ [("partition", number 32)])),
  ("photonPersistentDisk", ofTexts ["fsType", "pdID"]),
  ("vsphereVolume", ofTexts ["fsType", "storagePolicyID", "storagePolicyName", "volumePath"])]

/-- Volumes that a network of storage offers. -/
def networkVolumes : List (String × Shape) := [
  ("cephfs", record (share ["path", "secretFile", "user"] ++
    [("monitors", listOf text), ("secretRef", nameOnly)])),
  ("fc", record (share ["fsType"] ++ all (listOf text) ["targetWWNs", "wwids"] ++
    [("lun", number 32)])),
  ("flocker", ofTexts ["datasetName", "datasetUUID"]),
  ("glusterfs", record (share ["endpoints", "path"])),
  ("iscsi", record (share ["fsType", "initiatorName", "iqn", "iscsiInterface", "targetPortal"] ++
    all flag ["chapAuthDiscovery", "chapAuthSession"] ++
    [("lun", number 32), ("portals", listOf text), ("secretRef", nameOnly)])),
  ("nfs", record (share ["path", "server"])),
  ("portworxVolume", record (share ["fsType", "volumeID"])),
  ("quobyte", record (share ["group", "registry", "tenant", "user", "volume"])),
  ("rbd", record (share ["fsType", "image", "keyring", "pool", "user"] ++
    [("monitors", listOf text), ("secretRef", nameOnly)])),
  ("scaleIO", record (share ["fsType", "gateway", "protectionDomain", "storageMode",
    "storagePool", "system", "volumeName"] ++ [("secretRef", nameOnly), ("sslEnabled", flag)])),
  ("storageos", record (share ["fsType", "volumeName", "volumeNamespace"] ++
    [("secretRef", nameOnly)]))]

/-- Volumes made of what the cluster or the node holds. -/
def localVolumes : List (String × Shape) := [
  ("configMap", record (texts ["name"] ++
    [("defaultMode", number 32), ("items", filesOfKeys), ("optional", flag)])),
  ("csi", record (share ["driver", "fsType"] ++
    [("nodePublishSecretRef", nameOnly), ("volumeAttributes", textMap)])),
  ("downwardAPI", record [("defaultMode", number 32), ("items", filesOfFields)]),
  ("emptyDir", ofTexts ["medium", "sizeLimit"]),
  ("ephemeral", record [("volumeClaimTemplate",
    record [("metadata", metadata), ("spec", storageClaim)])]),
  ("flexVolume", record (share ["driver", "fsType"] ++
    [("options", textMap), ("secretRef", nameOnly)])),
  ("gitRepo", ofTexts ["directory", "repository", "revision"]),
  ("hostPath", ofTexts ["path", "type"]),
  ("persistentVolumeClaim", record (share ["claimName"])),
  ("projected", record [("defaultMode", number 32), ("sources", listOf projectedSource)]),
  ("secret", record (texts ["secretName"] ++
    [("defaultMode", number 32), ("items", filesOfKeys), ("optional", flag)]))]

/-- A volume. -/
def volume : Shape :=
  record (texts ["name"] ++ hostedVolumes ++ networkVolumes ++ localVolumes)

end NodePressure.Shape
