import BetterDesk.Cdap.Sessions

/-! # Messages of a CDAP device (cdap/handler.go, desktop.go, media_control.go, clipboard.go) -/

namespace BetterDesk.Cdap
open Db Text List

inductive DeviceMessage
  | terminalOutput (payload : Option TerminalOutputPayload)
  | terminalEnd (payload : Option EndPayload)
  | desktopFrame (payload : Option DesktopFramePayload)
  | binary (data : Bytes)
  | desktopMeta (payload : Option DesktopMetaPayload)
  | desktopEnd (payload : Option EndPayload)
  | desktopConsentDenied (sessionID : Option SessionID)
  | desktopInputError (payload : Option DesktopInputErrorPayload)
  | videoFrame (payload : Option VideoFramePayload)
  | videoEnd (payload : Option EndPayload)
  | fileResponse (type : Bytes) (payload : Option FileResponsePayload)
  | fileEnd (payload : Option EndPayload)
  | audioFrame (payload : Option AudioFramePayload)
  | audioEnd (payload : Option EndPayload)
  | clipboardUpdate (payload : Option ClipboardPayload)
  | keyExchange (payload : Option KeyExchangePayload)
  | cursorUpdate (payload : Option CursorUpdatePayload)
  | codecAnswer (payload : Option CodecAnswerPayload)
  | monitorList (payload : Option MonitorListPayload)
  | commandResponse (payload : Option CommandResponsePayload)
  | other                    -- heartbeat, state, event, log, help, chat, token and unknown ones

namespace Registry
variable (r : Registry) (deviceID : PeerID)

def forward (k : SessionKind) (id : SessionID) (m : BrowserMessage) : Registry := match r.session k id with
  | none => r
  | some s => if s.closed then r else r.tell [.toBrowser s.deviceID s.browser m]

def handleTerminalOutput (p : TerminalOutputPayload) : Registry :=
  if p.sessionID=[] then r
  else r.forward .terminal p.sessionID (.output {p with
    stream := if p.stream=[] then lit "stdout" else p.stream})

def handleDesktopFrame (p : DesktopFramePayload) : Registry :=
  if p.sessionID=[] then r else r.forward .desktop p.sessionID (.frame p)

def frameHeaderSize : ℕ := 64

def frameSession (data : Bytes) : SessionID := (data.take frameHeaderSize).takeWhile (·≠0)

def handleDesktopFrameBinary (data : Bytes) : Registry :=
  if data.length<frameHeaderSize then r
  else if frameSession data=[] then r
  else if data.drop frameHeaderSize=[] then r
  else r.forward .desktop (frameSession data) (.binary (data.drop frameHeaderSize))

def handleDesktopInputError (p : DesktopInputErrorPayload) : Registry :=
  if p.sessionID=[] then r
  else r.forward .desktop p.sessionID (.error p.sessionID
    (if p.message=[] then lit "remote input injection failed" else p.message))

def handleVideoFrame (p : VideoFramePayload) : Registry :=
  if p.sessionID=[] then r else r.forward .video p.sessionID (.videoFrame p)

/-- The members of the payload replace `type` and `session_id`. -/
def fileResponseObject (type : Bytes) (p : FileResponsePayload) : List (Bytes × Bytes) :=
  p.fields++[(lit "type",type),(lit "session_id",p.sessionID)].filter fun x => !(p.fields.map Prod.fst).contains x.1

def handleFileResponse (type : Bytes) (p : FileResponsePayload) : Registry :=
  if p.sessionID=[] then r else r.forward .file p.sessionID (.fields (fileResponseObject type p))

def handleAudioFrame (p : AudioFramePayload) : Registry :=
  if p.sessionID=[] then r else r.forward .audio p.sessionID (.audioFrame p)

def handleTerminalEnd (p : EndPayload) : Registry :=
  if p.sessionID=[] then r else r.endTerminalSession p

def handleDesktopEnd (p : EndPayload) : Registry :=
  if p.sessionID=[] then r else r.endDesktopSession p

def handleDesktopConsentDenied (id : SessionID) : Registry :=
  if id=[] then r else r.endDesktopSession ⟨id,lit "consent_denied"⟩

def handleVideoEnd (p : EndPayload) : Registry := if p.sessionID=[] then r else r.endVideoSession p

def handleFileEnd (p : EndPayload) : Registry := if p.sessionID=[] then r else r.endFileSession p

def handleAudioEnd (p : EndPayload) : Registry := if p.sessionID=[] then r else r.endAudioSession p

def handleCommandResponse (p : CommandResponsePayload) : Registry :=
  match r.resolvePendingCommand p.commandID with
  | (none,r) => r
  | (some pc,r) => if pc.resultCh then r.tell [.result pc.deviceID p] else r

def forwardOwn (k : SessionKind) (id : SessionID) (openOnly : Bool) (m : BrowserMessage) : Registry :=
  match r.session k id with
  | none => r
  | some s =>
    if s.deviceID≠deviceID ∨ openOnly ∧ s.closed then r
    else r.tell [.toBrowser s.deviceID s.browser m]

def forwardFirst (ks : List SessionKind) (id : SessionID) (m : BrowserMessage) : Registry :=
  match ks.find? fun k => (r.session k id).isSome with
  | none => r
  | some k => r.forwardOwn deviceID k id false m

def handleCursorUpdate (p : CursorUpdatePayload) : Registry :=
  if p.sessionID=[] then r else r.forwardOwn deviceID .desktop p.sessionID true (.cursorUpdate p)

def handleDesktopMeta (p : DesktopMetaPayload) : Registry :=
  if p.sessionID=[] then r else r.forwardOwn deviceID .desktop p.sessionID true (.desktopMeta p)

def handleMonitorList (p : MonitorListPayload) : Registry :=
  if p.sessionID=[] then r else r.forwardOwn deviceID .desktop p.sessionID true (.monitorList p)

def handleCodecAnswer (p : CodecAnswerPayload) : Registry :=
  if p.sessionID=[] then r
  else r.forwardFirst deviceID [.desktop,.video] p.sessionID (.codecAnswer p)

def maxClipboardSize : ℕ := 8*1024*1024

def handleClipboardUpdate (p : ClipboardPayload) : Registry :=
  if p.format∉[lit "text",lit "image",lit "html"] then r
  else if maxClipboardSize<p.data.length then r
  else if p.sessionID=[] then r
  else r.forwardOwn deviceID .desktop p.sessionID false (.clipboardUpdate p)

def handleKeyExchange (p : KeyExchangePayload) : Registry :=
  if p.sessionID=[] then r
  else r.forwardFirst deviceID [.desktop,.video,.audio] p.sessionID (.raw p.raw)

/-- `messageLoop`: one message of the device. -/
def handleMessage : DeviceMessage → Registry
  | .terminalOutput (some p) => r.handleTerminalOutput p
  | .terminalEnd (some p) => r.handleTerminalEnd p
  | .desktopFrame (some p) => r.handleDesktopFrame p
  | .binary data => r.handleDesktopFrameBinary data
  | .desktopMeta (some p) => r.handleDesktopMeta deviceID p
  | .desktopEnd (some p) => r.handleDesktopEnd p
  | .desktopConsentDenied (some id) => r.handleDesktopConsentDenied id
  | .desktopInputError (some p) => r.handleDesktopInputError p
  | .videoFrame (some p) => r.handleVideoFrame p
  | .videoEnd (some p) => r.handleVideoEnd p
  | .fileResponse type (some p) => r.handleFileResponse type p
  | .fileEnd (some p) => r.handleFileEnd p
  | .audioFrame (some p) => r.handleAudioFrame p
  | .audioEnd (some p) => r.handleAudioEnd p
  | .clipboardUpdate (some p) => r.handleClipboardUpdate deviceID p
  | .keyExchange (some p) => r.handleKeyExchange deviceID p
  | .cursorUpdate (some p) => r.handleCursorUpdate deviceID p
  | .codecAnswer (some p) => r.handleCodecAnswer deviceID p
  | .monitorList (some p) => r.handleMonitorList deviceID p
  | .commandResponse (some p) => r.handleCommandResponse p
  | _ => r

end Registry

inductive Target
  | shown (k : SessionKind) (id : SessionID)
  | ended (k : SessionKind) (id : SessionID)
  | command (id : CommandID)

def named (id : SessionID) (t : SessionID → Target) : Option Target := if id=[] then none else some (t id)

def DeviceMessage.unchecked : DeviceMessage → Option Target
  | terminalOutput (some p) => named p.sessionID (.shown .terminal)
  | terminalEnd (some p) => named p.sessionID (.ended .terminal)
  | desktopFrame (some p) => named p.sessionID (.shown .desktop)
  | binary data =>
    if data.length≤Registry.frameHeaderSize then none
    else named (Registry.frameSession data) (.shown .desktop)
  | desktopEnd (some p) => named p.sessionID (.ended .desktop)
  | desktopConsentDenied (some id) => named id (.ended .desktop)
  | desktopInputError (some p) => named p.sessionID (.shown .desktop)
  | videoFrame (some p) => named p.sessionID (.shown .video)
  | videoEnd (some p) => named p.sessionID (.ended .video)
  | fileResponse _ (some p) => named p.sessionID (.shown .file)
  | fileEnd (some p) => named p.sessionID (.ended .file)
  | audioFrame (some p) => named p.sessionID (.shown .audio)
  | audioEnd (some p) => named p.sessionID (.ended .audio)
  | commandResponse (some p) => some (.command p.commandID)
  | _ => none

def Registry.Holds (r : Registry) (e : PeerID) : Target → Prop
  | .shown k id => ∃ s, r.session k id=some s ∧ s.deviceID=e ∧ s.closed=false
  | .ended k id => ∃ s, r.session k id=some s ∧ s.deviceID=e
  | .command id => ∃ pc, r.pendingCommands.load id=some pc ∧ pc.deviceID=e

namespace Registry
variable {r : Registry} {d e : PeerID}

theorem tell_view {ns : List Notice} (h : ∀ n∈ns,n.device≠e) : (r.tell ns).view e=r.view e := by
  have hnone : ns.filter (fun n => n.device=e)=[] :=
    filter_eq_nil_iff.mpr fun n hn => by simpa using h n hn
  apply View.ext
  · rfl
  · rfl
  · simp [view,filter_append,hnone]

theorem tell_view_ne {n : Notice} (h : n.device=e) : (r.tell [n]).view e≠r.view e := by
  intro heq
  have hlen:=congrArg (fun v => v.notices.length) heq
  simp [view,filter_append,h] at hlen

theorem holds_shown {k : SessionKind} {id : SessionID} {s : Session} (hs : r.session k id=some s) :
    r.Holds e (.shown k id) ↔ s.deviceID=e ∧ s.closed=false := by
  simp [Holds,hs]

theorem forward_view_iff (k : SessionKind) (id : SessionID) (m : BrowserMessage) :
    (r.forward k id m).view e=r.view e ↔ ¬ r.Holds e (.shown k id) := by
  unfold forward
  cases hs : r.session k id with
  | none => simp [Holds,hs]
  | some s =>
    rw [holds_shown hs]
    by_cases hc : s.closed
    · simp [hc]
    · simp only [hc,if_false,Bool.false_eq_true,and_true]
      by_cases he : s.deviceID=e
      · exact iff_of_false (tell_view_ne he) (by simpa using he)
      · refine iff_of_true (tell_view fun n hn => ?_) he
        rw [mem_singleton.mp hn]
        exact he

theorem endSession_view_iff (k : SessionKind) (p : EndPayload) :
    (r.endSession k p).view e=r.view e ↔ ¬ r.Holds e (.ended k p.sessionID) := by
  constructor
  · rintro heq ⟨s,hs,he⟩
    have hsession:=congrFun (congrFun (congrArg View.session heq) k) p.sessionID
    simp [view,endSession_session,hs,Option.filter,he] at hsession
  · intro h
    exact endSession_view fun s hs he => h ⟨s,hs,he⟩

theorem resolved_view {id : CommandID} {pc : PendingCommand} (hpc : r.pendingCommands.load id=some pc)
    (he : pc.deviceID≠e) : ({r with pendingCommands := r.pendingCommands.delete id} : Registry).view e=r.view e := by
  apply View.ext
  · rfl
  · funext id'
    by_cases hid : id'=id
    · subst hid
      simp [view,hpc,Option.filter,he]
    · simp [view,SyncMap.load_delete_of_ne _ hid]
  · rfl

theorem handleCommandResponse_view_iff (p : CommandResponsePayload) :
    (r.handleCommandResponse p).view e=r.view e ↔ ¬ r.Holds e (.command p.commandID) := by
  unfold handleCommandResponse resolvePendingCommand
  cases hpc : r.pendingCommands.load p.commandID with
  | none => simp [Holds,hpc]
  | some pc =>
    have hholds : r.Holds e (.command p.commandID) ↔ pc.deviceID=e := by simp [Holds,hpc]
    rw [hholds]
    constructor
    · intro heq he
      have hpending:=congrFun (congrArg View.pending heq) p.commandID
      cases hch : pc.resultCh <;> simp [view,hch,hpc,Option.filter,he] at hpending
    · intro he
      have hdone:=resolved_view hpc he
      cases hch : pc.resultCh with
      | false => simpa [hch] using hdone
      | true =>
        simp only [if_pos hch]
        rw [tell_view,hdone]
        intro n hn
        rw [mem_singleton.mp hn]
        exact he

theorem forwardOwn_view (h : d≠e) (k : SessionKind) (id : SessionID) (openOnly : Bool) (m : BrowserMessage) :
    (r.forwardOwn d k id openOnly m).view e=r.view e := by
  unfold forwardOwn
  cases hs : r.session k id with
  | none => rfl
  | some s =>
    dsimp only
    split
    · rfl
    · rename_i hno
      rw [not_or,not_not] at hno
      refine tell_view fun n hn => ?_
      rw [mem_singleton.mp hn]
      exact hno.1 ▸ h

theorem forwardFirst_view (h : d≠e) (ks : List SessionKind) (id : SessionID) (m : BrowserMessage) :
    (r.forwardFirst d ks id m).view e=r.view e := by
  unfold forwardFirst
  split
  · rfl
  · exact forwardOwn_view h ..

theorem guarded_view {c : Prop} [Decidable c] {r' : Registry} (h : r'.view e=r.view e) :
    (if c then r else r').view e=r.view e := by
  split
  · rfl
  · exact h

theorem named_view_iff {id : SessionID} {t : SessionID → Target} {r' : Registry}
    (h : r'.view e=r.view e ↔ ¬ r.Holds e (t id)) :
    (if id=[] then r else r').view e=r.view e ↔ ∀ x, named id t=some x → ¬ r.Holds e x := by
  unfold named
  by_cases hid : id=[]
  · simp [hid]
  · simpa [hid] using h

theorem frameBinary_view_iff (data : Bytes) : (r.handleDesktopFrameBinary data).view e=r.view e ↔
    ∀ x, DeviceMessage.unchecked (.binary data)=some x → ¬ r.Holds e x := by
  unfold handleDesktopFrameBinary
  by_cases hlong : frameHeaderSize<data.length
  · have hframe : data.drop frameHeaderSize≠[] := by
      rw [Ne,drop_eq_nil_iff]
      omega
    simp only [DeviceMessage.unchecked,if_neg (Nat.not_lt.mpr hlong.le),if_neg (Nat.not_le.mpr hlong),
      if_neg hframe]
    exact named_view_iff (forward_view_iff ..)
  · have hdrop : data.drop frameHeaderSize=[] := drop_eq_nil_iff.mpr (by omega)
    simp only [DeviceMessage.unchecked,if_pos (Nat.not_lt.mp hlong),hdrop,if_true,ite_self]
    simp

/-- Two devices: the message of one leaves what belongs to the other alone, unless its handler
routes by an ID alone and the ID names something of the other device. -/
theorem message_isolation_iff (r : Registry) {d e : PeerID} (h : d≠e) (m : DeviceMessage) :
    (r.handleMessage d m).view e=r.view e ↔ ∀ x, m.unchecked=some x → ¬ r.Holds e x := by
  have hchecked : ∀ r' : Registry, r'.view e=r.view e →
      (r'.view e=r.view e ↔ ∀ x, (none : Option Target)=some x → ¬ r.Holds e x) := fun r' hr' =>
    iff_of_true hr' fun x hx => by cases hx
  cases m with
  | terminalOutput p | desktopFrame p | desktopInputError p | videoFrame p | fileResponse _ p
    | audioFrame p =>
    cases p with
    | none => exact hchecked r rfl
    | some p => exact named_view_iff (forward_view_iff ..)
  | terminalEnd p | desktopEnd p | videoEnd p | fileEnd p | audioEnd p =>
    cases p with
    | none => exact hchecked r rfl
    | some p => exact named_view_iff (endSession_view_iff ..)
  | binary data => exact frameBinary_view_iff data
  | desktopMeta p | cursorUpdate p | monitorList p =>
    cases p with
    | none => exact hchecked r rfl
    | some p => exact hchecked _ (guarded_view (forwardOwn_view h ..))
  | desktopConsentDenied id =>
    cases id with
    | none => exact hchecked r rfl
    | some id => exact named_view_iff (endSession_view_iff ..)
  | clipboardUpdate p =>
    cases p with
    | none => exact hchecked r rfl
    | some p => exact hchecked _ (guarded_view (guarded_view (guarded_view (forwardOwn_view h ..))))
  | keyExchange p | codecAnswer p =>
    cases p with
    | none => exact hchecked r rfl
    | some p => exact hchecked _ (guarded_view (forwardFirst_view h ..))
  | commandResponse p =>
    cases p with
    | none => exact hchecked r rfl
    | some p =>
      refine (handleCommandResponse_view_iff p).trans ?_
      simp [DeviceMessage.unchecked]
  | other => exact hchecked r rfl

end Registry

/-- An operator's terminal on one device, and a command that the device has yet to answer. -/
def shared : Registry :=
  (Registry.empty.startSession .terminal "CDAP-B" "anna" 7 2 1700).sendCommand (lit "cmd-1") "CDAP-B" 1700

def terminalID : SessionID := newSessionID .terminal "CDAP-B" 1700

def desktopID : SessionID := newSessionID .desktop "CDAP-B" 1700

def watched : Registry := shared.startSession .desktop "CDAP-B" "anna" 7 2 1700

theorem cursor_isolated : (watched.session .desktop desktopID).map Session.deviceID=some "CDAP-B" ∧
    (watched.handleMessage "CDAP-A" (.monitorList (some ⟨desktopID,[],0⟩))).view "CDAP-B"=watched.view "CDAP-B" :=
  ⟨by decide,(watched.message_isolation_iff (by decide) _).mpr fun _ h => by cases h⟩

/-- Another device ends the terminal, writes to it and answers the command. -/
theorem terminal_reached_from_elsewhere :
    (shared.handleMessage "CDAP-A" (.terminalEnd (some ⟨terminalID,[]⟩))).session .terminal terminalID=none ∧
    (shared.handleMessage "CDAP-A" (.terminalOutput (some ⟨terminalID,lit "$ ",[]⟩))).notices =
      [.toBrowser "CDAP-B" 7 (.output ⟨terminalID,lit "$ ",lit "stdout"⟩)] ∧
    (shared.handleMessage "CDAP-A" (.commandResponse (some ⟨lit "cmd-1",lit "ok",0,[],[]⟩))).pendingCommands.load
      (lit "cmd-1")=none ∧
    (shared.session .terminal terminalID).map Session.deviceID=some "CDAP-B" ∧
    (shared.handleMessage "CDAP-A" (.terminalEnd (some ⟨terminalID,[]⟩))).view "CDAP-B"≠shared.view "CDAP-B" := by
  refine ⟨by decide,by decide,by decide,by decide,fun h => ?_⟩
  have hsession:=congrFun (congrFun (congrArg Registry.View.session h) .terminal) terminalID
  revert hsession
  decide

end BetterDesk.Cdap
