import BetterDesk.MeshCentral.Relay

/-! # Tunnels of the agent core (meshcentral/assets/bettercore.js) -/

namespace BetterDesk.MeshCentral

def MESHRIGHT_REMOTECONTROL : ℕ := 8
def MESHRIGHT_REMOTEVIEW : ℕ := 256
def MESHRIGHT_NOTERMINAL : ℕ := 512
def MESHRIGHT_NOFILES : ℕ := 1024
def MESHRIGHT_NODESKTOP : ℕ := 65536
def MESHRIGHT_ADMIN : ℕ := 0xFFFFFFFF

/-- Data on a tunnel as the core reads it: the connect signal, a text in braces,
or anything else with the number it starts with, zero where there is none. -/
inductive TunnelData
  | signal
  | control
  | other (number : ℤ)
  deriving DecidableEq

inductive TunnelSession
  | terminal
  | desktop (piped : Bool)
  | files

/-- `applied` is what a running session was given as input. -/
structure AgentTunnel where
  rights : ℕ
  desktopviewonly : Bool
  state : ℕ
  protocol : ℤ
  session : Option TunnelSession
  closed : Bool
  applied : List TunnelData

def openTunnel (msg : TunnelMessage) : AgentTunnel := ⟨msg.rights,msg.desktopviewonly,0,0,none,false,[]⟩

def hasRemoteControl (rights : ℕ) : Bool :=
  rights==MESHRIGHT_ADMIN ||
    (rights &&& MESHRIGHT_REMOTECONTROL != 0&&rights &&& MESHRIGHT_REMOTEVIEW==0)

/-- A session that starts under one of the `needed` rights, unless `forbidden` takes it away. -/
def AgentTunnel.startSession (t : AgentTunnel) (needed forbidden : ℕ) (session : TunnelSession) : AgentTunnel :=
  if t.rights &&& needed=0 ∨ (t.rights≠MESHRIGHT_ADMIN ∧ t.rights &&& forbidden≠0) then
    {t with closed := true}
  else {t with session := some session}

def startTerminalTunnel (t : AgentTunnel) : AgentTunnel :=
  t.startSession MESHRIGHT_REMOTECONTROL MESHRIGHT_NOTERMINAL .terminal

def startKvmTunnel (t : AgentTunnel) : AgentTunnel :=
  t.startSession (MESHRIGHT_REMOTECONTROL ||| MESHRIGHT_REMOTEVIEW) MESHRIGHT_NODESKTOP
    (.desktop (!t.desktopviewonly&&hasRemoteControl t.rights))

def startFilesTunnel (t : AgentTunnel) : AgentTunnel :=
  t.startSession MESHRIGHT_REMOTECONTROL MESHRIGHT_NOFILES .files

def onTunnelData (t : AgentTunnel) (data : TunnelData) : AgentTunnel :=
  if t.closed then t
  else if t.state=0 then if data=.signal then {t with state := 1} else t
  else if t.protocol=0 then
    match data with
    | .control => t
    | .signal => t
    | .other protocol =>
      let t:={t with protocol}
      if protocol=1 ∨ protocol=6 ∨ protocol=8 ∨ protocol=9 then startTerminalTunnel t
      else if protocol=2 then startKvmTunnel t
      else if protocol=5 then startFilesTunnel t
      else t
  -- the desktop is written to whether or not it is piped
  else if t.session.isSome then {t with applied := t.applied++[data]}
  else t

def AgentTunnel.Inert (t : AgentTunnel) : Prop :=
  t.rights &&& (MESHRIGHT_REMOTECONTROL ||| MESHRIGHT_REMOTEVIEW)=0 ∧ t.session=none ∧ t.applied=[]

theorem AgentTunnel.Inert.startSession {t : AgentTunnel} (h : t.Inert) {needed : ℕ}
    (hneeded : t.rights &&& needed=0) (forbidden : ℕ) (session : TunnelSession) :
    (t.startSession needed forbidden session).Inert := by
  simp only [AgentTunnel.startSession,hneeded,true_or,if_true]
  exact h

theorem inert_noControl {rights : ℕ} (h : rights &&& (MESHRIGHT_REMOTECONTROL ||| MESHRIGHT_REMOTEVIEW)=0) :
    rights &&& MESHRIGHT_REMOTECONTROL=0 := by
  rw [Nat.and_or_distrib_left] at h
  exact (Nat.or_eq_zero_iff.mp h).1

theorem AgentTunnel.Inert.onTunnelData {t : AgentTunnel} (h : t.Inert) (data : TunnelData) :
    (onTunnelData t data).Inert := by
  have hcontrol:=inert_noControl h.1
  unfold MeshCentral.onTunnelData
  split
  · exact h
  split
  · split
    · exact h
    · exact h
  split
  · cases data with
    | signal => exact h
    | control => exact h
    | other protocol =>
      have hnext : AgentTunnel.Inert {t with protocol} := h
      dsimp only
      split
      · exact hnext.startSession hcontrol _ _
      split
      · exact hnext.startSession h.1 _ _
      split
      · exact hnext.startSession hcontrol _ _
      · exact hnext
  · rw [h.2.1]
    exact h

theorem AgentTunnel.Inert.run {t : AgentTunnel} (h : t.Inert) (data : List TunnelData) :
    (data.foldl MeshCentral.onTunnelData t).Inert := by
  induction data generalizing t with
  | nil => exact h
  | cons d data ih => exact ih (h.onTunnelData d)

theorem viewOnly_inert (c : CookieCodec) (g : MeshGateway) (now : ℤ) (r : TunnelRequest) (relayID : String)
    (nonce nonce' : ℕ) (hview : r.viewOnly=true) (data : List TunnelData) :
    (data.foldl onTunnelData (openTunnel (createRelayTunnel c g now r relayID nonce nonce').message)).applied =
      [] := by
  refine (AgentTunnel.Inert.run ⟨?_,rfl,rfl⟩ data).2.2
  simp only [openTunnel,createRelayTunnel,sendTunnelMessage,tunnelRights,hview]
  decide

end BetterDesk.MeshCentral
