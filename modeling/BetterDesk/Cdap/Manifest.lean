import BetterDesk.Db.Store
import BetterDesk.Lib.Exec

/-! # Manifests of CDAP devices (cdap/manifest.go) -/

namespace BetterDesk.Cdap
open Db Text List

structure WidgetPermissions where
  read : String
  control : String
  execute : String
  deriving DecidableEq

structure Widget where
  type : String
  id : String
  label : String
  permissions : Option WidgetPermissions
  deriving DecidableEq

structure AlertDef where
  id : String
  severity : String
  deriving DecidableEq

structure ManifestDevice where
  name : String
  type : String
  tags : List String
  linkedPeerID : PeerID
  deriving DecidableEq

structure ManifestBridge where
  version : String
  protocol : String
  deriving DecidableEq

structure Manifest where
  manifestVersion : String
  device : ManifestDevice
  bridge : ManifestBridge
  capabilities : List String
  heartbeatInterval : ℤ       -- seconds
  widgets : List Widget
  alerts : List AlertDef
  deriving DecidableEq

def allowedDeviceTypes : List String := ["scada","iot","os_agent","network","camera","desktop","custom"]

def allowedWidgetTypes : List String :=
  ["toggle","gauge","button","led","chart","select","slider","text","table","terminal","desktop",
    "video_stream","file_browser"]

def allowedCapabilities : List String :=
  ["telemetry","commands","alerts","logs","remote_desktop","video_stream","audio","clipboard",
    "file_transfer","input_control","keyboard_input","mouse_input","multi_monitor","unattended_access"]

def allowedRoles : List String := ["admin","operator","viewer"]

def allowedSeverities : List String := ["critical","warning","info"]

def maxWidgets : ℕ := 200

def orElse (t default : String) : String := if t="" then default else t

/-- Pass where the condition holds, and fail with the message where it does not. -/
def require (ok : Bool) (message : String) : Except String Unit := if ok then .ok () else .error message

def validateHeartbeat (seconds : ℤ) : ℤ := min (if seconds≤0 then 15 else seconds) 300

def checkPermission (w : Widget) (name value : String) : Except String Unit :=
  require (value=""||value∈allowedRoles)
    ("widget " ++ w.id++": invalid permission role for " ++ name++": " ++ value)

def checkPermissions (w : Widget) : Except String Unit := match w.permissions with
  | none => .ok ()
  | some p => do
    checkPermission w "read" p.read
    checkPermission w "control" p.control
    checkPermission w "execute" p.execute

def validateWidgets : ℕ → List String → List Widget → Except String (List Widget)
  | _, _, [] => .ok []
  | i, seen, w::rest => do
    let here := "widget " ++ toString i++": "
    let type:=lowerString (trimString w.type)
    require (type∈allowedWidgetTypes) (here++"invalid type: " ++ type)
    let id:=trimString w.id
    require (id≠"") (here++"id is required")
    require (id.utf8ByteSize≤64) (here++"id too long (max 64 chars)")
    require (id∉seen) (here++"duplicate id: " ++ id)
    let w':={w with
      type := type
      id := id
      label := orElse (trimString w.label) id}
    checkPermissions w'
    let rest ← validateWidgets (i+1) (id::seen) rest
    return w'::rest

def validateAlerts : ℕ → List String → List AlertDef → Except String (List AlertDef)
  | _, _, [] => .ok []
  | i, seen, a::rest => do
    let here := "alert " ++ toString i++": "
    let id:=trimString a.id
    require (id≠"") (here++"id is required")
    require (id∉seen) (here++"duplicate id: " ++ id)
    let severity:=lowerString (trimString a.severity)
    require (severity∈allowedSeverities) (here++"invalid severity: " ++ severity)
    let rest ← validateAlerts (i+1) (id::seen) rest
    return ⟨id,severity⟩::rest

def checkTags : ℕ → List String → Except String Unit
  | _, [] => .ok ()
  | i, tag::rest => do
    require (tag.utf8ByteSize≤64) ("device tag " ++ toString i++" too long (max 64 chars)")
    checkTags (i+1) rest

def checkCapabilities : List String → Except String Unit
  | [] => .ok ()
  | c::rest => do
    require (lowerString c∈allowedCapabilities) ("unknown capability: " ++ c)
    checkCapabilities rest

def validateManifest (m : Manifest) : Except String Manifest := do
  let manifestVersion:=orElse m.manifestVersion "1.0"
  require (manifestVersion="1.0") ("unsupported manifest version: " ++ manifestVersion)
  let name:=trimString m.device.name
  require (name≠"") "device name is required"
  require (name.utf8ByteSize≤128) "device name too long (max 128 chars)"
  let type:=orElse (lowerString (trimString m.device.type)) "custom"
  require (type∈allowedDeviceTypes) ("invalid device type: " ++ type)
  checkCapabilities m.capabilities
  require (m.widgets.length ≤ maxWidgets)
    ("too many widgets (" ++ toString m.widgets.length++", max " ++ toString maxWidgets++")")
  let widgets ← validateWidgets 0 [] m.widgets
  let alerts ← validateAlerts 0 [] m.alerts
  require (m.device.tags.length≤20) ("too many device tags (" ++ toString m.device.tags.length++", max 20)")
  checkTags 0 m.device.tags
  return {m with
    manifestVersion := manifestVersion
    device := {m.device with
      name := name
      type := type}
    heartbeatInterval := validateHeartbeat m.heartbeatInterval
    widgets := widgets
    alerts := alerts}

end BetterDesk.Cdap
