import NodePressure.Cluster.Shape

/-!
# NodePressure.Cluster.Shape.Container - the shape of a container of a pod
-/

namespace NodePressure.Shape

/-- The resources of a container. -/
def resources : Shape :=
  record ([("claims", listOf nameOnly)] ++ all textMap ["limits", "requests"])

/-- A field of the object that a container belongs to. -/
def fieldReference : Shape := ofTexts ["apiVersion", "fieldPath"]

/-- A resource of a container. -/
def resourceReference : Shape := ofTexts ["containerName", "divisor", "resource"]

/-- A key of an object that need not be there. -/
def keyReference : Shape :=
  record (texts ["key", "name"] ++ [("optional", flag)])

/-- An object that need not be there. -/
def optionalReference : Shape :=
  record (texts ["name"] ++ [("optional", flag)])

/-- A variable of the environment. -/
def variableOfContainer : Shape :=
  record (texts ["name", "value"] ++
    [("valueFrom", record (all keyReference ["configMapKeyRef", "secretKeyRef"] ++
      [("fieldRef", fieldReference), ("resourceFieldRef", resourceReference)]))])

/-- A command to be run. -/
def commandToRun : Shape := record [("command", listOf text)]

/-- A request to be sent. -/
def webRequest : Shape :=
  record (texts ["host", "path", "scheme"] ++
    [("httpHeaders", listOf nameValue), ("port", numberOrText 32)])

/-- A port to be opened. -/
def socket : Shape :=
  record (texts ["host"] ++ [("port", numberOrText 32)])

/-- What is done when a container starts or stops. -/
def hook : Shape :=
  record [("exec", commandToRun), ("httpGet", webRequest), ("tcpSocket", socket)]

/-- How a container is examined. -/
def probe : Shape :=
  record (all (number 32) ["failureThreshold", "initialDelaySeconds", "periodSeconds",
      "successThreshold", "timeoutSeconds"] ++
    [("exec", commandToRun), ("httpGet", webRequest), ("tcpSocket", socket),
      ("grpc", record (texts ["service"] ++ [("port", number 32)])),
      ("terminationGracePeriodSeconds", number 64)])

/-- Labels of mandatory access control. -/
def securityLabels : Shape := ofTexts ["level", "role", "type", "user"]

/-- A filter of system calls. -/
def callFilter : Shape := ofTexts ["localhostProfile", "type"]

/-- The account of a container on Windows. -/
def windowsAccount : Shape :=
  record (texts ["gmsaCredentialSpec", "gmsaCredentialSpecName", "runAsUserName"] ++
    [("hostProcess", flag)])

/-- What a container may do. -/
def rights : Shape :=
  record (texts ["procMount"] ++ all (number 64) ["runAsGroup", "runAsUser"] ++
    all flag ["allowPrivilegeEscalation", "privileged", "readOnlyRootFilesystem", "runAsNonRoot"] ++
    [("capabilities", record (all (listOf text) ["add", "drop"])),
      ("seLinuxOptions", securityLabels), ("seccompProfile", callFilter),
      ("windowsOptions", windowsAccount)])

/-- The fields of a container of every sort. -/
def containerFields : List (String × Shape) :=
  texts ["image", "imagePullPolicy", "name", "restartPolicy", "terminationMessagePath",
      "terminationMessagePolicy", "workingDir"] ++
    all (listOf text) ["args", "command"] ++ all flag ["stdin", "stdinOnce", "tty"] ++
    all probe ["livenessProbe", "readinessProbe", "startupProbe"] ++
    [("env", listOf variableOfContainer),
      ("envFrom", listOf (record (texts ["prefix"] ++
        all optionalReference ["configMapRef", "secretRef"]))),
      ("lifecycle", record (all hook ["postStart", "preStop"])),
      ("ports", listOf (record (texts ["hostIP", "name", "protocol"] ++
        all (number 32) ["containerPort", "hostPort"]))),
      ("resizePolicy", listOf (ofTexts ["resourceName", "restartPolicy"])),
      ("resources", resources), ("securityContext", rights),
      ("volumeDevices", listOf (ofTexts ["devicePath", "name"])),
      ("volumeMounts", listOf (record (texts ["mountPath", "mountPropagation", "name", "subPath",
        "subPathExpr"] ++ [("readOnly", flag)])))]

/-- A container. -/
def container : Shape := record containerFields

/-- A container that is added to a running pod. -/
def ephemeralContainer : Shape :=
  record (containerFields ++ texts ["targetContainerName"])

/-- What a container is doing. -/
def containerState : Shape :=
  record [("running", record [("startedAt", time)]),
    ("terminated", record (texts ["containerID", "message", "reason"] ++
      all (number 32) ["exitCode", "signal"] ++ all time ["finishedAt", "startedAt"])),
    ("waiting", ofTexts ["message", "reason"])]

/-- The status of a container. -/
def containerStatus : Shape :=
  record (texts ["containerID", "image", "imageID", "name"] ++ all flag ["ready", "started"] ++
    all containerState ["lastState", "state"] ++
    [("allocatedResources", textMap), ("resources", resources), ("restartCount", number 32)])

end NodePressure.Shape
