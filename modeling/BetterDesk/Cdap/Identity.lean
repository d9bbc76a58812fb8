import BetterDesk.Cdap.Gateway

/-! # Whose identity a CDAP connection takes -/

namespace BetterDesk.Cdap
open Db Text Auth Api Exec Option Function
open Enrollment (DeviceToken TokenHash)
open Signal (IP PeerTable Dialect)

structure ActingPolicy where
  user : User → PeerID → Prop
  apiKey : APIKey → PeerID → Prop

def ActingPolicy.Authorizes (policy : ActingPolicy) (id : PeerID) : Credential → Prop
  | .user u => policy.user u id
  | .apiKey k => policy.apiKey k id
  | .deviceToken t => t.status=.active ∧ t.peerID=id

def ActingPolicy.Vouches (policy : ActingPolicy) (id : PeerID) : Credential → Prop
  | .user u => policy.user u id
  | .apiKey k => policy.apiKey k id
  | .deviceToken _ => True

/-- Whoever is registered under an ID, and whoever has written its row, was authorized for it. -/
structure Gateway.Identified (policy : ActingPolicy) (g : Gateway) : Prop where
  registered : ∀ id c, g.devices id=some c → ∃ dc, g.conns c=some dc ∧ dc.id=id ∧
    policy.Authorizes id dc.credential
  wrote : ∀ c dc, g.conns c=some dc → dc.wrote=true → policy.Authorizes dc.id dc.credential

/-- The connection that is about to write the row of its ID is allowed to act for it, when its
credential is a user's or an API key. -/
def VouchedFor (policy : ActingPolicy) (g : Gateway) (a : Action) : Prop :=
  ∀ c dc m, a=.register c false → g.conns c=some dc → dc.stage=.registering m .upsertPeer →
    policy.Vouches dc.id dc.credential

def DeviceConn.Ready (dc : DeviceConn) : Prop :=
  ∀ m next, dc.stage=.registering m next → next ≠ .isPeerBanned → next ≠ .upsertPeer → dc.wrote=true

def RegisterStep.place : RegisterStep → ℕ
  | isPeerBanned => 1
  | upsertPeer => 2
  | setConfig => 3
  | replace => 4
  | store => 5
  | updatePeerStatus => 6
  | confirm => 7

/-- Where a connection is on its way; it never goes back. -/
def Stage.place : Stage → ℕ
  | authenticated => 0
  | registering _ next => next.place
  | running => 8
  | left => 9

theorem Stage.place_le (s : Stage) : s.place≤9 := by
  rcases s with _ | ⟨_,next⟩ | _ | _
  · simp [place]
  · cases next <;> simp [place,RegisterStep.place]
  · simp [place]
  · simp [place]

structure DeviceConn.Moves (dc dc' : DeviceConn) : Prop where
  id : dc'.id=dc.id
  credential : dc'.credential=dc.credential
  wrote : dc'.wrote=dc.wrote
  ready : dc.Ready → dc'.Ready
  isOpen : dc'.isOpen=true → dc.isOpen=true
  place : dc.stage.place≤dc'.stage.place

theorem DeviceConn.Moves.refl (dc : DeviceConn) : dc.Moves dc := ⟨rfl,rfl,rfl,fun h => h,fun h => h,le_rfl⟩

theorem DeviceConn.Moves.trans {dc dc' dc'' : DeviceConn} (h : dc.Moves dc') (h' : dc'.Moves dc'') : dc.Moves dc'' :=
  ⟨h'.id.trans h.id,h'.credential.trans h.credential,h'.wrote.trans h.wrote,fun hr => h'.ready (h.ready hr),
    fun ho => h.isOpen (h'.isOpen ho),h.place.trans h'.place⟩

theorem DeviceConn.Moves.of_stage {dc dc' : DeviceConn} (hid : dc'.id=dc.id)
    (hcred : dc'.credential=dc.credential) (hwrote : dc'.wrote=dc.wrote) (hopen : dc'.isOpen=dc.isOpen)
    (hplace : dc.stage.place≤dc'.stage.place)
    (hstage : ∀ m next, dc'.stage=.registering m next → next ≠ .isPeerBanned → next ≠ .upsertPeer →
      dc.Ready → dc.wrote=true) : dc.Moves dc' :=
  ⟨hid,hcred,hwrote,fun hr m next hs h1 h2 => hwrote.trans (hstage m next hs h1 h2 hr),fun h => hopen ▸ h,hplace⟩

namespace Gateway

def Moves (g g' : Gateway) : Prop := ∀ c, (g.conns c=none ∧ g'.conns c=none) ∨
  ∃ dc dc', g.conns c=some dc ∧ g'.conns c=some dc' ∧ dc.Moves dc'

variable {g g' g'' : Gateway}

theorem Moves.of_eq (h : g'.conns=g.conns) : g.Moves g' := by
  intro c
  rw [h]
  cases hc : g.conns c with
  | none => exact .inl ⟨rfl,rfl⟩
  | some dc => exact .inr ⟨dc,dc,rfl,rfl,.refl dc⟩

theorem Moves.trans (h : g.Moves g') (h' : g'.Moves g'') : g.Moves g'' := by
  intro c
  rcases h c with ⟨hn,hn'⟩ | ⟨dc,dc',hc,hc',hm⟩
  · rcases h' c with ⟨-,hn''⟩ | ⟨dc',-,hc',-⟩
    · exact .inl ⟨hn,hn''⟩
    · rw [hn'] at hc'
      cases hc'
  · rcases h' c with ⟨hn',-⟩ | ⟨dc₁,dc'',hc₁,hc'',hm'⟩
    · rw [hc'] at hn'
      cases hn'
    · rw [hc'] at hc₁
      cases hc₁
      exact .inr ⟨dc,dc'',hc,hc'',hm.trans hm'⟩

theorem modifyConn_self {c : ConnID} {dc : DeviceConn} (h : g.conns c=some dc) (f : DeviceConn → DeviceConn) :
    (g.modifyConn c f).conns c=some (f dc) := by
  simp [modifyConn,h]

theorem modifyConn_of_ne {c c' : ConnID} (h : c'≠c) (f : DeviceConn → DeviceConn) :
    (g.modifyConn c f).conns c'=g.conns c' := by
  simp [modifyConn,h]

theorem modifyConn_moves (c : ConnID) (f : DeviceConn → DeviceConn)
    (h : ∀ dc, g.conns c=some dc → dc.Moves (f dc)) : g.Moves (g.modifyConn c f) := by
  intro c'
  by_cases hc' : c'=c
  · subst hc'
    cases hc : g.conns c' with
    | none => exact .inl ⟨rfl,by simp [modifyConn,hc]⟩
    | some dc => exact .inr ⟨dc,f dc,rfl,modifyConn_self hc f,h dc hc⟩
  · rw [modifyConn_of_ne hc']
    cases hc : g.conns c' with
    | none => exact .inl ⟨rfl,rfl⟩
    | some dc => exact .inr ⟨dc,dc,rfl,rfl,.refl dc⟩

theorem close_moves (c : ConnID) : g.Moves (g.close c) :=
  modifyConn_moves c _ fun _ _ => ⟨rfl,rfl,rfl,fun h => h,fun h => (by cases h),le_rfl⟩

theorem close_stage {c : ConnID} {dc : DeviceConn} (old : ConnID) (hc : g.conns c=some dc) :
    ∃ dc', (g.close old).conns c=some dc' ∧ dc'.stage=dc.stage := by
  by_cases h : c=old
  · subst h
    exact ⟨_,modifyConn_self hc _,rfl⟩
  · exact ⟨dc,by rw [close,modifyConn_of_ne h,hc],rfl⟩

theorem setStage_moves {c : ConnID} {stage : Stage}
    (h : ∀ dc m next, g.conns c=some dc → stage=.registering m next → next ≠ .isPeerBanned →
      next ≠ .upsertPeer → dc.Ready → dc.wrote=true)
    (hplace : ∀ dc, g.conns c=some dc → dc.stage.place ≤ stage.place) : g.Moves (g.setStage c stage) :=
  modifyConn_moves c _ fun dc hc => .of_stage rfl rfl rfl rfl (hplace dc hc) fun m next hs => h dc m next hc hs

@[simp] theorem startRemoval_conns (c : ConnID) : (g.startRemoval c).conns=g.conns := by
  unfold startRemoval
  split
  · rfl
  · split <;> rfl

@[simp] theorem startRemoval_devices (c : ConnID) : (g.startRemoval c).devices=g.devices := by
  unfold startRemoval
  split
  · rfl
  · split <;> rfl

@[simp] theorem modifyConn_devices (c : ConnID) (f : DeviceConn → DeviceConn) :
    (g.modifyConn c f).devices=g.devices := rfl

@[simp] theorem leave_devices (c : ConnID) : (g.leave c).devices=g.devices := by simp [leave,setStage]

theorem leave_moves (c : ConnID) : g.Moves (g.leave c) :=
  (setStage_moves (fun _ _ _ _ hs => by cases hs) fun dc _ => by exact dc.stage.place_le).trans (.of_eq (startRemoval_conns c))

structure Quiet (g g' : Gateway) : Prop where
  moves : g.Moves g'
  devices : ∀ id c, g'.devices id=some c → g.devices id=some c

theorem Quiet.of_moves (h : g.Moves g') (hd : g'.devices=g.devices) : g.Quiet g' :=
  ⟨h,fun _ _ hc => hd ▸ hc⟩

theorem Quiet.of_eq (h : g'.conns=g.conns) (hd : g'.devices=g.devices) : g.Quiet g' :=
  .of_moves (.of_eq h) hd

inductive Effect (host : Host) (g : Gateway) : Action → Gateway → Prop
  | quiet {a g'} (h : g.Quiet g') : Effect host g a g'
  | arrives {c p clientIP g'} (who : String × Role × Credential) (hnew : g.conns c=none)
      (hwho : g.authenticate host.env p=some who)
      (hconns : g'.conns=update g.conns c (some (g.newConn p clientIP who)))
      (hdevices : g'.devices=g.devices) : Effect host g (.authenticate c p clientIP true) g'
  | writes {c g'} (dc : DeviceConn) (m : Manifest) (hc : g.conns c=some dc)
      (hstage : dc.stage=.registering m .upsertPeer) (hg : g'=g.upsertPeer host.dialect c dc m) :
      Effect host g (.register c false) g'
  | stores {c fails g'} (dc : DeviceConn) (m : Manifest) (hc : g.conns c=some dc)
      (hstage : dc.stage=.registering m .store) (hg : g'=g.store c dc m) :
      Effect host g (.register c fails) g'

variable {host : Host} {a : Action}

theorem readRegister_quiet {c : ConnID} {dc : DeviceConn} (hc : g.conns c=some dc) (hstage : dc.stage=.authenticated)
    (m : Option Manifest) : g.Quiet (g.readRegister c dc m) := by
  unfold readRegister
  split
  · exact .of_moves (leave_moves c) (leave_devices c)
  · rename_i m' _
    split
    · exact .of_moves (leave_moves c) (leave_devices c)
    · refine .of_moves (modifyConn_moves c _ fun dc' hc' => .of_stage rfl rfl rfl rfl ?_ ?_) rfl
      · rw [hc] at hc'
        cases hc'
        rw [hstage]
        exact Nat.zero_le _
      · rintro m next hs hne -
        simp only [Stage.registering.injEq] at hs
        exact absurd hs.2.symm hne

theorem setStage_later {c : ConnID} {dc : DeviceConn} {m : Manifest} {next next' : RegisterStep}
    (hc : g.conns c=some dc) (hstage : dc.stage=.registering m next) (h1 : next ≠ .isPeerBanned)
    (h2 : next ≠ .upsertPeer) (h3 : next.place≤next'.place) : g.Moves (g.setStage c (.registering m next')) := by
  apply setStage_moves
  · intro dc' _ _ hc' _ _ _ hready
    rw [hc] at hc'
    cases hc'
    exact hready m next hstage h1 h2
  · intro dc' hc'
    rw [hc] at hc'
    cases hc'
    rw [hstage]
    exact h3

theorem replace_quiet {c : ConnID} {dc : DeviceConn} {m : Manifest} (hc : g.conns c=some dc)
    (hstage : dc.stage=.registering m .replace) : g.Quiet (g.replace c dc m) := by
  unfold replace
  cases hold : g.devices dc.id with
  | none => exact .of_moves (setStage_later hc hstage (by decide) (by decide) (by decide)) rfl
  | some old =>
    refine ⟨?_,fun id c' hid => ?_⟩
    · -- closing the old connection leaves the stage of the new one
      have hclose : Gateway.Moves g (Gateway.close {g with devices := update g.devices dc.id none} old) :=
        (Moves.of_eq rfl).trans (close_moves old)
      obtain ⟨dc',hc',hstage'⟩:=close_stage (g := {g with devices := update g.devices dc.id none}) old hc
      exact hclose.trans (setStage_later hc' (hstage'.trans hstage) (by decide) (by decide) (by decide))
    · simp only [setStage,modifyConn_devices,close] at hid
      by_cases hx : id=dc.id
      · subst hx
        simp at hid
      · simpa [hx] using hid

theorem handleRegister_effect {c : ConnID} {dc : DeviceConn} {m : Manifest} {next : RegisterStep} (fails : Bool)
    (hc : g.conns c=some dc) (hstage : dc.stage=.registering m next) :
    g.Effect host (.register c fails) (g.handleRegister host.dialect c dc m fails next) := by
  have hplace (stage : Stage) (h : next.place ≤ stage.place) (dc' : DeviceConn) (hc' : g.conns c=some dc') :
      dc'.stage.place ≤ stage.place := by
    rw [hc] at hc'
    cases hc'
    rw [hstage]
    exact h
  cases next with
  | isPeerBanned =>
    simp only [handleRegister]
    split
    · exact .quiet (.of_moves (leave_moves c) (leave_devices c))
    · refine .quiet (.of_moves (setStage_moves (fun _ m' next _ hs _ hne _ => ?_) (hplace _ (Nat.le_succ 1))) rfl)
      simp only [Stage.registering.injEq] at hs
      exact absurd hs.2.symm hne
  | upsertPeer =>
    cases fails with
    | true => exact .quiet (.of_moves (leave_moves c) (leave_devices c))
    | false => exact .writes dc m hc hstage rfl
  | setConfig =>
    refine .quiet (.of_moves ?_ rfl)
    exact (Moves.of_eq rfl).trans (setStage_later (g := {g with manifests := _}) hc hstage (by decide) (by decide) (by decide))
  | replace => exact .quiet (replace_quiet hc hstage)
  | store => exact .stores dc m hc hstage rfl
  | updatePeerStatus =>
    refine .quiet (.of_moves ?_ rfl)
    exact (Moves.of_eq rfl).trans
      (setStage_later (g := g.updatePeerStatus dc Signal.statusOnline fails) hc hstage (by decide) (by decide) (by decide))
  | confirm =>
    simp only [handleRegister]
    split
    · exact .quiet (.of_moves (leave_moves c) (leave_devices c))
    · exact .quiet (.of_moves (setStage_moves (fun _ _ _ _ hs => by cases hs) (hplace _ (by decide))) rfl)

theorem removeStep_quiet (dc : DeviceConn) (fails : Bool) (s : RemovalStep) : g.Quiet (g.removeStep dc fails s) := by
  cases s with
  | unregister =>
    refine ⟨.of_eq rfl,fun id c hid => ?_⟩
    by_cases hx : id=dc.id
    · subst hx
      simp [removeStep] at hid
    · simpa [removeStep,hx] using hid
  | deleteManifest | clearPending | endSessions | setOffline => exact .of_eq rfl rfl

theorem drop_quiet {id : PeerID} {ok : DeviceConn → Bool} (h : g.drop id ok=some g') : g.Quiet g' := by
  obtain ⟨c,-,h⟩:=bind_eq_some_iff.mp h
  obtain ⟨dc,-,h⟩:=bind_eq_some_iff.mp h
  split at h
  · cases h
    exact .of_moves ((close_moves c).trans (.of_eq (startRemoval_conns c))) (by simp [close])
  · cases h

theorem step_effect (h : g.step host a=some g') : g.Effect host a g' := by
  cases a with
  | authenticate c p clientIP sent =>
    simp only [step,handleAuth] at h
    split at h
    · cases h
    · rename_i hnew
      obtain ⟨who,hwho,rfl⟩:=map_eq_some_iff.mp h
      cases sent with
      | true => exact .arrives who (by simpa using hnew) hwho rfl rfl
      | false => exact .quiet (.of_eq rfl rfl)
  | readRegister c m =>
    obtain ⟨dc,hconn,rfl⟩:=map_eq_some_iff.mp h
    obtain ⟨hc,hstage⟩:=filter_eq_some_iff.mp hconn
    exact .quiet (readRegister_quiet hc (by simpa using hstage) m)
  | register c fails =>
    obtain ⟨dc,hc,h⟩:=bind_eq_some_iff.mp h
    split at h
    · rename_i m next hstage
      cases h
      exact handleRegister_effect fails hc hstage
    · cases h
  | message c m =>
    obtain ⟨dc,-,rfl⟩:=map_eq_some_iff.mp h
    exact .quiet (.of_eq rfl rfl)
  | heartbeat c fails =>
    obtain ⟨dc,-,rfl⟩:=map_eq_some_iff.mp h
    refine .quiet (.of_moves ((Moves.of_eq rfl).trans (modifyConn_moves c _ fun _ _ => ?_)) rfl)
    exact ⟨rfl,rfl,rfl,fun hr => hr,fun ho => ho,le_rfl⟩
  | leave c =>
    obtain ⟨dc,-,rfl⟩:=map_eq_some_iff.mp h
    exact .quiet (.of_moves (leave_moves c) (leave_devices c))
  | disconnect c =>
    obtain ⟨dc,-,rfl⟩:=map_eq_some_iff.mp h
    exact .quiet (.of_moves (close_moves c) rfl)
  | monitor | revoke => exact .quiet (drop_quiet h)
  | remove i fails =>
    obtain ⟨next,-,rfl⟩:=map_eq_some_iff.mp h
    obtain ⟨hm,hd⟩:=removeStep_quiet (g := g) next.1 fails next.2.1
    exact .quiet ⟨hm,hd⟩
  | startSession k id username browser =>
    obtain ⟨c,-,h⟩:=bind_eq_some_iff.mp h
    obtain ⟨dc,-,rfl⟩:=map_eq_some_iff.mp h
    exact .quiet (.of_eq rfl rfl)
  | endSession | expireCommand | elsewhere =>
    cases h
    exact .quiet (.of_eq rfl rfl)
  | sendCommand id cmd =>
    obtain ⟨c,-,rfl⟩:=map_eq_some_iff.mp h
    exact .quiet (.of_eq rfl rfl)

theorem deviceTokenRow_some {p : AuthPayload} {t : DeviceToken} (h : g.deviceTokenRow p=some t) :
    t.status=.active ∧ t.peerID=p.deviceID ∧ g.tokens (g.server.sha256Hex p.token)=some t ∧
      (g.livePeer p.deviceID).any (fun row => !row.disabled&&!row.banned)=true := by
  unfold deviceTokenRow at h
  split at h
  · cases h
  · obtain ⟨h,hbound⟩:=filter_eq_some_iff.mp h
    obtain ⟨hrow,-⟩:=filter_eq_some_iff.mp h
    simp only [decide_eq_true_eq] at hbound
    exact ⟨hbound.1,hbound.2.2.1,hrow,hbound.2.2.2⟩

theorem authenticate_token {env : LoginEnv} {p : AuthPayload} {who : String × Role × Credential} {t : DeviceToken}
    (h : g.authenticate env p=some who) (ht : who.2.2=.deviceToken t) : t.status=.active ∧ t.peerID=p.deviceID := by
  unfold authenticate at h
  split at h
  · obtain ⟨u,-,rfl⟩:=map_eq_some_iff.mp h
    cases ht
  · split at h
    · obtain ⟨k,-,rfl⟩:=map_eq_some_iff.mp h
      cases ht
    · split at h
      · obtain ⟨t',hrow,rfl⟩:=map_eq_some_iff.mp h
        cases ht
        obtain ⟨hactive,hpeer,-⟩:=deviceTokenRow_some hrow
        exact ⟨hactive,hpeer⟩
      · cases h

structure Inv (g : Gateway) : Prop where
  token : ∀ c dc t, g.conns c=some dc → dc.credential=.deviceToken t → t.status=.active ∧ t.peerID=dc.id
  ready : ∀ c dc, g.conns c=some dc → dc.Ready
  devices : ∀ id c, g.devices id=some c → ∃ dc, g.conns c=some dc ∧ dc.id=id ∧ dc.wrote=true

theorem Inv.vouched {policy : ActingPolicy} {c : ConnID} {dc : DeviceConn} (h : g.Inv) (hc : g.conns c=some dc) :
    policy.Authorizes dc.id dc.credential ↔ policy.Vouches dc.id dc.credential := by
  cases hcred : dc.credential with
  | user | apiKey => exact Iff.rfl
  | deviceToken t => exact iff_of_true (h.token c dc t hc hcred) trivial

theorem Inv.fresh (peers : PeerTable) (server : Server) (tokens : TokenHash → Option DeviceToken) (now : ℕ) :
    (Gateway.fresh peers server tokens now).Inv where
  token c dc t hc := by cases hc
  ready c dc hc := by cases hc
  devices id c hid := by cases hid

theorem Moves.back (h : g.Moves g') {c : ConnID} {dc' : DeviceConn} (hc' : g'.conns c=some dc') :
    ∃ dc, g.conns c=some dc ∧ dc.Moves dc' := by
  rcases h c with ⟨-,hn⟩ | ⟨dc,dc₂,hc,hc₂,hm⟩
  · rw [hn] at hc'
    cases hc'
  · rw [hc₂] at hc'
    cases hc'
    exact ⟨dc,hc,hm⟩

theorem Moves.forth (h : g.Moves g') {c : ConnID} {dc : DeviceConn} (hc : g.conns c=some dc) :
    ∃ dc', g'.conns c=some dc' ∧ dc.Moves dc' := by
  rcases h c with ⟨hn,-⟩ | ⟨dc₁,dc',hc₁,hc',hm⟩
  · rw [hn] at hc
    cases hc
  · rw [hc₁] at hc
    cases hc
    exact ⟨dc',hc',hm⟩

theorem Inv.quiet (h : g.Inv) (hq : g.Quiet g') : g'.Inv where
  token c dc' t hc' ht := by
    obtain ⟨dc,hc,hm⟩:=hq.moves.back hc'
    rw [hm.id]
    exact h.token c dc t hc (hm.credential ▸ ht)
  ready c dc' hc' := by
    obtain ⟨dc,hc,hm⟩:=hq.moves.back hc'
    exact hm.ready (h.ready c dc hc)
  devices id c hid := by
    obtain ⟨dc,hc,hdc,hw⟩:=h.devices id c (hq.devices id c hid)
    obtain ⟨dc',hc',hm⟩:=hq.moves.forth hc
    exact ⟨dc',hc',hm.id.trans hdc,hm.wrote.trans hw⟩

theorem conns_update {c c' : ConnID} {dc dc' : DeviceConn} (hconns : g'.conns=update g.conns c (some dc))
    (hc' : g'.conns c'=some dc') : c'=c ∧ dc'=dc ∨ c'≠c ∧ g.conns c'=some dc' := by
  rw [hconns] at hc'
  by_cases h : c'=c
  · subst h
    simp only [update_self,some.injEq] at hc'
    exact .inl ⟨rfl,hc'.symm⟩
  · rw [update_of_ne h] at hc'
    exact .inr ⟨h,hc'⟩

theorem Inv.arrives {c : ConnID} {p : AuthPayload} {clientIP : Option IP} {who : String × Role × Credential}
    {env : LoginEnv} (h : g.Inv) (hnew : g.conns c=none) (hwho : g.authenticate env p=some who)
    (hconns : g'.conns=update g.conns c (some (g.newConn p clientIP who)))
    (hdevices : g'.devices=g.devices) : g'.Inv where
  token c' dc t hc' ht := by
    rcases conns_update hconns hc' with ⟨-,rfl⟩ | ⟨-,hc'⟩
    · exact authenticate_token hwho ht
    · exact h.token c' dc t hc' ht
  ready c' dc hc' := by
    rcases conns_update hconns hc' with ⟨-,rfl⟩ | ⟨-,hc'⟩
    · intro m next hs
      cases hs
    · exact h.ready c' dc hc'
  devices id c' hid := by
    rw [hdevices] at hid
    obtain ⟨dc,hc',hdc⟩:=h.devices id c' hid
    refine ⟨dc,?_,hdc⟩
    have hne : c'≠c := by
      rintro rfl
      rw [hnew] at hc'
      cases hc'
    rw [hconns,update_of_ne hne,hc']

def afterWrite (dc : DeviceConn) (m : Manifest) : DeviceConn := {dc with
  stage := .registering m .setConfig
  wrote := true}

theorem upsertPeer_conns {dialect : Dialect} {c : ConnID} {dc : DeviceConn} {m : Manifest} (hc : g.conns c=some dc) :
    (g.upsertPeer dialect c dc m).conns=update g.conns c (some (afterWrite dc m)) := by
  simp only [upsertPeer,modifyConn,hc,map_some]
  rfl

theorem Inv.writes {dialect : Dialect} {c : ConnID} {dc : DeviceConn} {m : Manifest} (h : g.Inv)
    (hc : g.conns c=some dc) : (g.upsertPeer dialect c dc m).Inv where
  token c' dc' t hc' ht := by
    rcases conns_update (upsertPeer_conns hc) hc' with ⟨-,rfl⟩ | ⟨-,hc'⟩
    · exact h.token c dc t hc ht
    · exact h.token c' dc' t hc' ht
  ready c' dc' hc' := by
    rcases conns_update (upsertPeer_conns hc) hc' with ⟨-,rfl⟩ | ⟨-,hc'⟩
    · exact fun _ _ _ _ _ => rfl
    · exact h.ready c' dc' hc'
  devices id c' hid := by
    obtain ⟨dc',hc',hdc,hw⟩:=h.devices id c' hid
    rw [upsertPeer_conns hc]
    by_cases hx : c'=c
    · subst hx
      rw [hc] at hc'
      cases hc'
      exact ⟨_,update_self ..,hdc,rfl⟩
    · exact ⟨dc',by rw [update_of_ne hx,hc'],hdc,hw⟩

theorem store_moves {c : ConnID} {dc : DeviceConn} {m : Manifest} (hc : g.conns c=some dc)
    (hstage : dc.stage=.registering m .store) : g.Moves (g.store c dc m) :=
  (Moves.of_eq rfl).trans (setStage_later (g := {g with devices := _}) hc hstage (by decide) (by decide) (by decide))

theorem store_devices {c : ConnID} {dc : DeviceConn} {m : Manifest} {id : PeerID} {c' : ConnID}
    (hid : (g.store c dc m).devices id=some c') : id=dc.id ∧ c'=c ∨ g.devices id=some c' := by
  simp only [store,setStage,modifyConn_devices] at hid
  by_cases hx : id=dc.id
  · subst hx
    simp only [update_self,some.injEq] at hid
    exact .inl ⟨rfl,hid.symm⟩
  · rw [update_of_ne hx] at hid
    exact .inr hid

theorem Inv.stores {c : ConnID} {dc : DeviceConn} {m : Manifest} (h : g.Inv) (hc : g.conns c=some dc)
    (hstage : dc.stage=.registering m .store) : (g.store c dc m).Inv := by
  have hm:=store_moves hc hstage
  have hkeep : Quiet g {g.store c dc m with devices := g.devices} := ⟨hm,fun _ _ hid => hid⟩
  refine ⟨(h.quiet hkeep).token,(h.quiet hkeep).ready,fun id c' hid => ?_⟩
  rcases store_devices hid with ⟨rfl,rfl⟩ | hid
  · obtain ⟨dc',hc',hdc⟩:=hm.forth hc
    have hwrote : dc.wrote=true := h.ready c' dc hc m .store hstage (by decide) (by decide)
    exact ⟨dc',hc',hdc.id,hdc.wrote.trans hwrote⟩
  · exact (h.quiet hkeep).devices id c' hid

theorem step_inv {host : Host} {a : Action} (h : g.Inv) (hs : g.step host a=some g') : g'.Inv := by
  cases step_effect hs with
  | quiet hq => exact h.quiet hq
  | arrives who hnew hwho hconns hdevices => exact h.arrives hnew hwho hconns hdevices
  | writes dc m hc hstage hg => exact hg ▸ h.writes hc
  | stores dc m hc hstage hg => exact hg ▸ h.stores hc hstage

theorem Inv.identified_iff {policy : ActingPolicy} (h : g.Inv) : g.Identified policy ↔
    ∀ c dc, g.conns c=some dc → dc.wrote=true → policy.Authorizes dc.id dc.credential := by
  refine ⟨fun hid => hid.wrote,fun hw => ⟨fun id c hc => ?_,hw⟩⟩
  obtain ⟨dc,hconn,rfl,hwrote⟩:=h.devices id c hc
  exact ⟨dc,hconn,rfl,hw c dc hconn hwrote⟩

theorem Moves.wrote {policy : ActingPolicy} (hm : g.Moves g')
    (h : ∀ c dc, g.conns c=some dc → dc.wrote=true → policy.Authorizes dc.id dc.credential) :
    ∀ c dc, g'.conns c=some dc → dc.wrote=true → policy.Authorizes dc.id dc.credential := by
  intro c dc' hc' hw
  obtain ⟨dc,hc,hd⟩:=hm.back hc'
  rw [hd.id,hd.credential]
  exact h c dc hc (hd.wrote.symm.trans hw)

theorem identified_step_iff {policy : ActingPolicy} {host : Host} {a : Action} (h : g.Inv) (hid : g.Identified policy) :
    (∀ g', g.step host a=some g' → g'.Identified policy) ↔ VouchedFor policy g a := by
  rw [h.identified_iff] at hid
  constructor
  · rintro hall c dc m rfl hc hstage
    have hs : g.step host (.register c false)=some (g.upsertPeer host.dialect c dc m) := by
      simp only [step,hc,bind_some,hstage]
      rfl
    have hafter:=(hall _ hs).wrote c (afterWrite dc m)
    rw [upsertPeer_conns hc,update_self] at hafter
    exact (h.vouched hc).mp (hafter rfl rfl)
  · intro hv g' hs
    rw [(step_inv h hs).identified_iff]
    cases step_effect hs with
    | quiet hq => exact hq.moves.wrote hid
    | arrives who hnew hwho hconns hdevices =>
      intro c' dc hc' hw
      rcases conns_update hconns hc' with ⟨-,rfl⟩ | ⟨-,hc'⟩
      · cases hw
      · exact hid c' dc hc' hw
    | writes dc m hc hstage hg =>
      subst hg
      intro c' dc' hc' hw
      rcases conns_update (upsertPeer_conns hc) hc' with ⟨-,rfl⟩ | ⟨-,hc'⟩
      · exact (h.vouched hc).mpr (hv _ dc m rfl hc hstage)
      · exact hid c' dc' hc' hw
    | stores dc m hc hstage hg =>
      subst hg
      exact (store_moves hc hstage).wrote hid

structure Untouched (id : PeerID) (g g' : Gateway) : Prop where
  peers : ∀ id', id'≠id → g'.peers id'=g.peers id'
  devices : ∀ id', id'≠id → g'.devices id'=g.devices id'
  manifests : ∀ id', id'≠id → g'.manifests id'=g.manifests id'

theorem Untouched.of_same {id : PeerID} (hp : g'.peers=g.peers) (hd : g'.devices=g.devices)
    (hm : g'.manifests=g.manifests) : Untouched id g g' :=
  ⟨fun _ _ => by rw [hp],fun _ _ => by rw [hd],fun _ _ => by rw [hm]⟩

theorem leave_untouched (id : PeerID) (c : ConnID) : Untouched id g (g.leave c) := by
  unfold leave startRemoval
  split
  · exact .of_same rfl rfl rfl
  · split
    · exact .of_same rfl rfl rfl
    · exact .of_same rfl rfl rfl

theorem peers_updatePeerStatus {peers : PeerTable} {now : ℕ} {id id' : PeerID} {status : String} {ip : Option IP}
    (h : id'≠id) : peers.updatePeerStatus now id status ip id'=peers id' := by
  unfold PeerTable.updatePeerStatus
  cases (peers id).filter fun row => !row.softDeleted with
  | none => rfl
  | some row => exact update_of_ne h ..

theorem handleRegister_untouched (dialect : Dialect) (c : ConnID) (dc : DeviceConn) (m : Manifest) (fails : Bool)
    (next : RegisterStep) : Untouched dc.id g (g.handleRegister dialect c dc m fails next) := by
  cases next with
  | isPeerBanned | confirm =>
    simp only [handleRegister]
    split
    · exact leave_untouched dc.id c
    · exact .of_same rfl rfl rfl
  | upsertPeer =>
    cases fails with
    | true => exact leave_untouched dc.id c
    | false => exact ⟨fun id' h => update_of_ne h ..,fun _ _ => rfl,fun _ _ => rfl⟩
  | setConfig =>
    cases fails with
    | true => exact .of_same rfl rfl rfl
    | false => exact ⟨fun _ _ => rfl,fun _ _ => rfl,fun id' h => update_of_ne h ..⟩
  | replace =>
    simp only [handleRegister,replace]
    split
    · exact .of_same rfl rfl rfl
    · exact ⟨fun _ _ => rfl,fun id' h => update_of_ne h ..,fun _ _ => rfl⟩
  | store => exact ⟨fun _ _ => rfl,fun id' h => update_of_ne h ..,fun _ _ => rfl⟩
  | updatePeerStatus =>
    cases fails with
    | true => exact .of_same rfl rfl rfl
    | false => exact ⟨fun id' h => peers_updatePeerStatus h,fun _ _ => rfl,fun _ _ => rfl⟩

theorem register_untouched {host : Host} {c : ConnID} {fails : Bool}
    (h : g.step host (.register c fails)=some g') : ∃ dc, g.conns c=some dc ∧ Untouched dc.id g g' := by
  obtain ⟨dc,hc,h⟩:=bind_eq_some_iff.mp h
  split at h
  · cases h
    exact ⟨dc,hc,handleRegister_untouched ..⟩
  · cases h

/-- Over every run from a gateway without connections: whoever is registered as a device or has
written its row was authorized for it, exactly when each connection that writes a row on the word of
a user or an API key may act for the device. -/
theorem identity_iff (policy : ActingPolicy) (host : Host) (peers : PeerTable) (server : Server)
    (tokens : TokenHash → Option DeviceToken) (now : ℕ) (as : List Action) :
    ((∀ pre, pre <+: as → ∀ g, exec (step host) (Gateway.fresh peers server tokens now) pre=some g →
        g.Identified policy) ↔
      Along (step host) (VouchedFor policy) (Gateway.fresh peers server tokens now) as) ∧
    (∀ g, exec (step host) (Gateway.fresh peers server tokens now) as=some g →
      ∀ c dc t, g.conns c=some dc → dc.credential=.deviceToken t → t.status=.active ∧ t.peerID=dc.id) ∧
    ∀ g g' c fails, g.step host (.register c fails)=some g' →
      ∃ dc, g.conns c=some dc ∧ Untouched dc.id g g' := by
  have hinv:=Inv.fresh peers server tokens now
  have hstart : (Gateway.fresh peers server tokens now).Identified policy :=
    hinv.identified_iff.mpr fun c dc hc => by cases hc
  refine ⟨?_,fun g h => ?_,fun g g' c fails h => register_untouched h⟩
  · rw [along_reached_iff hstart]
    apply along_iff_of_keep (fun g => g.Inv ∧ g.Identified policy)
    · intro g a g' hg hok hs
      exact ⟨step_inv hg.1 hs,hok g' hs⟩
    · intro g a hg
      exact identified_step_iff hg.1 hg.2
    · exact ⟨hinv,hstart⟩
  · exact (exec_invariant_all Inv (fun g a g' hg hs => step_inv hg hs) hinv h).token

end Gateway

def accounts : Db.Store := {Store.empty with
  users := [⟨1,"agent","secret","operator",false,"","",false,""⟩,
    ⟨2,"bob","hunter2","viewer",false,"","",false,""⟩]}

def demoServer : Server := ⟨accounts,none,fun _ => "",false⟩

def demoHost : Host where
  env := ⟨fun hash password => hash=password,fun _ => false,fun _ => none,"",false,fun _ _ => none,
    fun _ _ => false,fun _ _ => none⟩
  dialect := .sqlite

def cameraManifest : Manifest :=
  ⟨"",⟨"Camera","camera",[],""⟩,⟨"1","cdap"⟩,["commands"],15,[],[]⟩

def loginAs (username password : String) (deviceID : PeerID) : AuthPayload :=
  ⟨"user_password",username,password,"",[],[],deviceID⟩

def connecting (c : ConnID) (p : AuthPayload) : List Action :=
  [.authenticate c p none true,.readRegister c (some cameraManifest)]++List.replicate 7 (.register c false)

def Credential.owner : Credential → String
  | user u => u.username
  | apiKey k => k.name
  | deviceToken t => t.peerID

def cameraPolicy : ActingPolicy := ⟨fun u id => u.username="agent" ∧ id="CDAP-A",fun _ _ => False⟩

def takeover : List Action :=
  connecting 1 (loginAs "agent" "secret" "CDAP-A")++connecting 2 (loginAs "bob" "hunter2" "CDAP-A")

def idle : Gateway := Gateway.fresh (fun _ => none) demoServer (fun _ => none) 0

theorem account_takes_device_over :
    (exec (Gateway.step demoHost) idle takeover).map (fun g => (g.devices "CDAP-A",
      (g.conns 1).map DeviceConn.isOpen,(g.conns 2).map DeviceConn.role,(g.peers "CDAP-A").map Signal.PeerRow.user)) =
      some (some 2,some false,some "viewer",some "bob") ∧
    ∀ g, exec (Gateway.step demoHost) idle takeover=some g → ¬ g.Identified cameraPolicy := by
  refine ⟨by decide,fun g hg hid => ?_⟩
  have hrow : (exec (Gateway.step demoHost) idle takeover).bind (fun g => (g.conns 2).map fun dc =>
      (dc.wrote,dc.id,dc.credential.owner))=some (true,"CDAP-A","bob") := by decide
  rw [hg,bind_some] at hrow
  obtain ⟨dc,hc,hdc⟩:=map_eq_some_iff.mp hrow
  simp only [Prod.mk.injEq] at hdc
  have hauth:=hid.wrote 2 dc hc hdc.1
  cases hcred : dc.credential with
  | user u =>
    rw [hcred] at hauth hdc
    exact absurd (hauth.1.symm.trans hdc.2.2) (by decide)
  | apiKey k =>
    rw [hcred] at hauth
    exact hauth
  | deviceToken t =>
    rw [hcred] at hauth hdc
    exact absurd ((hdc.2.1.symm.trans hauth.2.symm).trans hdc.2.2) (by decide)

end BetterDesk.Cdap
