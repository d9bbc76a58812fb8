import BetterDesk.Db.Store
import BetterDesk.Lib.SyncMap
import Mathlib.Logic.Function.Basic

/-! # Sessions and pending commands of the CDAP gateway -/

namespace BetterDesk.Cdap
open Db Text

abbrev ConnID := ℕ          -- one for each `DeviceConn`
abbrev SessionID := Bytes
abbrev CommandID := Bytes

inductive SessionKind
  | desktop
  | terminal
  | video
  | file
  | audio
  deriving DecidableEq

namespace SessionKind

/-- The order in which `cleanupDeviceSessions` goes through the stores. -/
def all : List SessionKind := [.desktop,.terminal,.video,.file,.audio]

def capability : SessionKind → String
  | desktop => "remote_desktop"
  | terminal => "commands"
  | video => "video_stream"
  | file => "file_transfer"
  | audio => "audio"

def idStart : SessionKind → String
  | desktop => "desk_"
  | terminal => "term_"
  | video => "vid_"
  | file => "file_"
  | audio => "aud_"

def endType : SessionKind → String
  | desktop => "desktop_end"
  | terminal => "terminal_end"
  | video => "video_end"
  | file => "file_end"
  | audio => "audio_end"

end SessionKind

structure Session where
  deviceID : PeerID
  username : String
  browser : ℕ
  deviceConn : ConnID
  closed : Bool
  deriving DecidableEq

/-- `resultCh`: somebody waits for the response. -/
structure PendingCommand where
  deviceID : PeerID
  sentAt : ℕ
  resultCh : Bool

structure TerminalOutputPayload where
  sessionID : SessionID
  data : Bytes
  stream : Bytes
  deriving DecidableEq

structure EndPayload where
  sessionID : SessionID
  reason : Bytes
  deriving DecidableEq

structure DesktopFramePayload where
  sessionID : SessionID
  format : Bytes
  width : ℤ
  height : ℤ
  data : Bytes
  timestamp : ℤ
  deriving DecidableEq

structure VideoFramePayload extends DesktopFramePayload where
  keyFrame : Bool
  deriving DecidableEq

structure AudioFramePayload where
  sessionID : SessionID
  codec : Bytes
  data : Bytes
  timestamp : ℤ
  duration : ℤ
  sequence : ℤ
  deriving DecidableEq

structure DesktopInputErrorPayload where
  sessionID : SessionID
  message : Bytes

structure CursorUpdatePayload where
  sessionID : SessionID
  format : Bytes
  width : ℤ
  height : ℤ
  hotspotX : ℤ
  hotspotY : ℤ
  data : Bytes
  cursorID : Bytes
  hidden : Bool
  deriving DecidableEq

structure DesktopMetaPayload where
  sessionID : SessionID
  format : Bytes
  width : ℤ
  height : ℤ
  binary : Bool
  codecString : Bytes
  deriving DecidableEq

structure MonitorInfo where
  index : ℤ
  name : Bytes
  width : ℤ
  height : ℤ
  x : ℤ
  y : ℤ
  primary : Bool
  scaleF : ℤ
  deriving DecidableEq

structure MonitorListPayload where
  sessionID : SessionID
  monitors : List MonitorInfo
  active : ℤ
  deriving DecidableEq

structure CodecAnswerPayload where
  sessionID : SessionID
  videoCodec : Bytes
  audioCodec : Bytes
  deriving DecidableEq

structure ClipboardPayload where
  format : Bytes
  data : Bytes
  sessionID : SessionID
  deriving DecidableEq

/-- `raw`: the text of the message, which is handed on as it is. -/
structure KeyExchangePayload where
  sessionID : SessionID
  raw : Bytes

/-- `fields`: the members of the object with the texts of their values. -/
structure FileResponsePayload where
  sessionID : SessionID
  fields : List (Bytes × Bytes)

structure CommandResponsePayload where
  commandID : CommandID
  status : Bytes
  execTimeMs : ℤ
  result : Bytes
  errorMessage : Bytes
  deriving DecidableEq

inductive BrowserMessage
  | output (p : TerminalOutputPayload)
  | frame (p : DesktopFramePayload)
  | binary (frame : Bytes)
  | videoFrame (p : VideoFramePayload)
  | audioFrame (p : AudioFramePayload)
  | fields (object : List (Bytes × Bytes))
  | error (sessionID : SessionID) (text : Bytes)
  | cursorUpdate (p : CursorUpdatePayload)
  | desktopMeta (p : DesktopMetaPayload)
  | monitorList (p : MonitorListPayload)
  | codecAnswer (p : CodecAnswerPayload)
  | clipboardUpdate (p : ClipboardPayload)
  | raw (payload : Bytes)
  | ended (p : EndPayload)
  deriving DecidableEq

inductive Notice
  | toBrowser (device : PeerID) (browser : ℕ) (m : BrowserMessage)
  | browserClosed (device : PeerID) (browser : ℕ) (reason : Bytes)
  | toDevice (device : PeerID) (conn : ConnID) (type : String) (p : EndPayload)
  | result (device : PeerID) (p : CommandResponsePayload)
  deriving DecidableEq

def Notice.device : Notice → PeerID
  | toBrowser d _ _ => d
  | browserClosed d _ _ => d
  | toDevice d _ _ _ => d
  | result d _ => d

def newSessionID (k : SessionKind) (deviceID : PeerID) (nanos : ℕ) : SessionID :=
  lit (k.idStart++deviceID++"_" ++ toString nanos)

structure Registry where
  sessions : SessionKind → SyncMap SessionID Session
  pendingCommands : SyncMap CommandID PendingCommand
  notices : List Notice

def Registry.empty : Registry := ⟨fun _ => [],[],[]⟩

namespace Registry
variable (r : Registry)

def session (k : SessionKind) (id : SessionID) : Option Session := (r.sessions k).load id

def setSessions (k : SessionKind) (m : SyncMap SessionID Session) : Registry :=
  {r with sessions := Function.update r.sessions k m}

def tell (ns : List Notice) : Registry := {r with notices := r.notices++ns}

@[simp] theorem tell_session (ns : List Notice) : (r.tell ns).session=r.session := rfl

@[simp] theorem tell_pendingCommands (ns : List Notice) : (r.tell ns).pendingCommands=r.pendingCommands := rfl

@[simp] theorem tell_notices (ns : List Notice) : (r.tell ns).notices=r.notices++ns := rfl

@[simp] theorem setSessions_notices (k : SessionKind) (m : SyncMap SessionID Session) :
    (r.setSessions k m).notices=r.notices := rfl

/-- `StartTerminalSession` and its four siblings, once the device has been told. -/
def startSession (k : SessionKind) (deviceID : PeerID) (username : String) (browser : ℕ) (conn : ConnID)
    (nanos : ℕ) : Registry :=
  r.setSessions k ((r.sessions k).store (newSessionID k deviceID nanos) ⟨deviceID,username,browser,conn,false⟩)

/-- What `SendCommand` keeps of a command. -/
def sendCommand (id : CommandID) (deviceID : PeerID) (now : ℕ) : Registry :=
  {r with pendingCommands := r.pendingCommands.store id ⟨deviceID,now,false⟩}

/-- `EndTerminalSession` and its four siblings. -/
def endSession (k : SessionKind) (p : EndPayload) : Registry := match r.session k p.sessionID with
  | none => r
  | some s =>
    let r:=r.setSessions k ((r.sessions k).delete p.sessionID)
    if s.closed then r
    else r.tell [.toDevice s.deviceID s.deviceConn k.endType p,.toBrowser s.deviceID s.browser (.ended p),
      .browserClosed s.deviceID s.browser p.reason]

def endTerminalSession : EndPayload → Registry := r.endSession .terminal

def endDesktopSession : EndPayload → Registry := r.endSession .desktop

def endVideoSession : EndPayload → Registry := r.endSession .video

def endFileSession : EndPayload → Registry := r.endSession .file

def endAudioSession : EndPayload → Registry := r.endSession .audio

/-- The loop of `cleanupDeviceSessions` over one store. -/
def cleanupSessions (k : SessionKind) (deviceID : PeerID) (reason : Bytes) : Registry :=
  ((r.sessions k).filter fun x => x.2.deviceID=deviceID).foldl (fun r x => r.endSession k ⟨x.1,reason⟩) r

/-- The loop of `removeDevice` over the pending commands. -/
def clearPending (deviceID : PeerID) : Registry :=
  {r with pendingCommands := r.pendingCommands.filter fun x => x.2.deviceID≠deviceID}

def resolvePendingCommand (id : CommandID) : Option PendingCommand × Registry :=
  match r.pendingCommands.load id with
  | none => (none,r)
  | some pc => (some pc,{r with pendingCommands := r.pendingCommands.delete id})

@[ext] structure View where
  session : SessionKind → SessionID → Option Session
  pending : CommandID → Option PendingCommand
  notices : List Notice

def view (device : PeerID) : View where
  session k id := (r.session k id).filter fun s => s.deviceID=device
  pending id := (r.pendingCommands.load id).filter fun pc => pc.deviceID=device
  notices := r.notices.filter fun n => n.device=device

variable {r}

theorem session_delete (k k' : SessionKind) (id id' : SessionID) :
    (r.setSessions k ((r.sessions k).delete id)).session k' id' =
      if k'=k ∧ id'=id then none else r.session k' id' := by
  unfold session setSessions
  by_cases hk : k'=k
  · subst hk
    by_cases hid : id'=id
    · subst hid
      simp
    · simp [hid,SyncMap.load_delete_of_ne _ hid]
  · simp [hk]

theorem endSession_session (k k' : SessionKind) (p : EndPayload) (id' : SessionID) :
    (r.endSession k p).session k' id' = if k'=k ∧ id'=p.sessionID then none else r.session k' id' := by
  unfold endSession
  cases hs : r.session k p.sessionID with
  | none =>
    by_cases h : k'=k ∧ id'=p.sessionID
    · simp [h,hs]
    · simp [h]
  | some s =>
    by_cases hc : s.closed
    · simp [hc,session_delete]
    · simp [hc,session_delete]

@[simp] theorem endSession_pendingCommands (k : SessionKind) (p : EndPayload) :
    (r.endSession k p).pendingCommands=r.pendingCommands := by
  unfold endSession
  split
  · rfl
  · split <;> rfl

theorem endSession_view {k : SessionKind} {p : EndPayload} {e : PeerID}
    (h : ∀ s, r.session k p.sessionID=some s → s.deviceID≠e) : (r.endSession k p).view e=r.view e := by
  have hsession : ((r.endSession k p).view e).session=(r.view e).session := by
    funext k' id'
    simp only [view,endSession_session]
    split
    · rename_i hid
      rw [hid.1,hid.2]
      cases hs : r.session k p.sessionID with
      | none => rfl
      | some s => simp [Option.filter,h s hs]
    · rfl
  have hnotices : ((r.endSession k p).view e).notices=(r.view e).notices := by
    unfold endSession
    cases hs : r.session k p.sessionID with
    | none => rfl
    | some s =>
      have hne:=h s hs
      by_cases hc : s.closed
      · simp [view,hc]
      · simp [view,hc,List.filter_append,Notice.device,hne]
  have hpending : ((r.endSession k p).view e).pending=(r.view e).pending := by simp [view]
  exact View.ext hsession hpending hnotices

end Registry

end BetterDesk.Cdap
