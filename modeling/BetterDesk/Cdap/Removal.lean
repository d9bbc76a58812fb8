import BetterDesk.Cdap.Identity

/-! # Removing a connection beside its successor -/

namespace BetterDesk.Cdap
open Db Text Auth Api Exec Option Function List
open Signal (PeerTable)

/-- The statement of `handleRegister` whose work a statement of a removal takes away. -/
def RemovalStep.undoes : RemovalStep → RegisterStep
  | setOffline => .upsertPeer
  | deleteManifest => .setConfig
  | _ => .store

/-- The connection is open, has done the statement and has not left. -/
def DeviceConn.Past (dc : DeviceConn) (r : RegisterStep) : Prop :=
  dc.isOpen=true ∧ r.place<dc.stage.place ∧ dc.stage.place<9

instance (dc : DeviceConn) (r : RegisterStep) : Decidable (dc.Past r) :=
  inferInstanceAs (Decidable (_ ∧ _ ∧ _))

def Action.registers : Action → Bool
  | register _ _ => true
  | _ => false

/-- Connections come, register, beat, go and are removed. -/
def Action.ofConnection : Action → Bool
  | message _ _ => false
  | startSession _ _ _ _ => false
  | endSession _ _ => false
  | sendCommand _ _ => false
  | expireCommand _ => false
  | elsewhere _ _ _ _ => false
  | _ => true

namespace Gateway

def Past (g : Gateway) (r : RegisterStep) (id : PeerID) (c : ConnID) : Prop :=
  ∃ dc, g.conns c=some dc ∧ dc.id=id ∧ dc.Past r

/-- No statement of a removal is executed while a connection of the device is past what it takes away. -/
def Apart (g : Gateway) (a : Action) : Prop := ∀ i fails dc s r, a=.remove i fails →
  g.nextRemoval i=some (dc,s,r) → ∀ c, ¬ g.Past s.undoes dc.id c

/-- Only connections come and go, and those that are removed are of the device. -/
def Within (id : PeerID) (g : Gateway) (a : Action) : Prop := a.ofConnection=true ∧
  ∀ i fails dc s r, a=.remove i fails → g.nextRemoval i=some (dc,s,r) → dc.id=id

def Online (g : Gateway) (id : PeerID) : Prop := (g.peers id).map Signal.PeerRow.status=some Signal.statusOnline

/-- What stands under an ID while a connection of it stays, from one state of a run to a later one. -/
structure Spared (host : Host) (as : List Action) (id : PeerID) (c : ConnID) (g g' : Gateway) : Prop where
  device : g.Past .store id c → g'.Past .store id c → (∀ a∈as,a.registers=false) → g'.devices id=g.devices id
  manifest : g.Past .setConfig id c → g'.Past .setConfig id c → (g.manifests id).isSome=true →
    (g'.manifests id).isSome=true
  sessions : g.Past .store id c → g'.Past .store id c → Along (step host) (Within id) g as →
    g'.registry.session=g.registry.session
  pending : g.Past .store id c → g'.Past .store id c → Along (step host) (Within id) g as →
    g'.registry.pendingCommands=g.registry.pendingCommands
  status : g.Past .upsertPeer id c → g'.Past .upsertPeer id c → (∀ a∈as,a.ofConnection=true) →
    g.Online id → g'.Online id

variable {host : Host} {g g' : Gateway} {a : Action} {id : PeerID} {c : ConnID}

theorem step_goes (h : g.step host a=some g') {dc : DeviceConn} (hc : g.conns c=some dc) :
    ∃ dc', g'.conns c=some dc' ∧ dc'.id=dc.id ∧ (dc'.isOpen=true → dc.isOpen=true) ∧
      dc.stage.place≤dc'.stage.place := by
  have hmoves (hm : g.Moves g') : ∃ dc', g'.conns c=some dc' ∧ dc'.id=dc.id ∧ (dc'.isOpen=true → dc.isOpen=true) ∧
      dc.stage.place≤dc'.stage.place := by
    obtain ⟨dc',hc',hd⟩:=hm.forth hc
    exact ⟨dc',hc',hd.id,hd.isOpen,hd.place⟩
  cases step_effect h with
  | quiet hq => exact hmoves hq.moves
  | @arrives c' _ _ _ who hnew hwho hconns hdevices =>
    have hne : c≠c' := by
      rintro rfl
      rw [hnew] at hc
      cases hc
    exact ⟨dc,by rw [hconns,update_of_ne hne,hc],rfl,fun ho => ho,le_rfl⟩
  | @writes c' _ dc₁ m hc₁ hstage hg =>
    subst hg
    rw [upsertPeer_conns hc₁]
    by_cases hx : c=c'
    · subst hx
      rw [hc₁] at hc
      cases hc
      refine ⟨_,update_self ..,rfl,fun ho => ho,?_⟩
      rw [hstage]
      exact Nat.le_succ 2
    · exact ⟨dc,by rw [update_of_ne hx,hc],rfl,fun ho => ho,le_rfl⟩
  | stores dc₁ m hc₁ hstage hg =>
    subst hg
    exact hmoves (store_moves hc₁ hstage)

theorem run_goes {as : List Action} (h : exec (step host) g as=some g') {dc : DeviceConn} (hc : g.conns c=some dc) :
    ∃ dc', g'.conns c=some dc' ∧ dc'.id=dc.id ∧ (dc'.isOpen=true → dc.isOpen=true) ∧
      dc.stage.place≤dc'.stage.place := by
  induction as generalizing g dc with
  | nil =>
    cases h
    exact ⟨dc,hc,rfl,fun ho => ho,le_rfl⟩
  | cons a as ih =>
    obtain ⟨u,hu,hrest⟩:=exec_cons_some h
    obtain ⟨dc₁,hc₁,hid₁,hopen₁,hplace₁⟩:=step_goes hu hc
    obtain ⟨dc₂,hc₂,hid₂,hopen₂,hplace₂⟩:=ih hrest hc₁
    exact ⟨dc₂,hc₂,hid₂.trans hid₁,fun ho => hopen₁ (hopen₂ ho),hplace₁.trans hplace₂⟩

/-- What a connection is past at both ends of a run, it is past all along. -/
theorem Past.between {u : Gateway} {as : List Action} {r : RegisterStep} (hs : g.step host a=some u)
    (h : exec (step host) u as=some g') (hg : g.Past r id c) (hg' : g'.Past r id c) : u.Past r id c := by
  obtain ⟨dc,hc,hid,-,hfrom,-⟩:=hg
  obtain ⟨dc₂,hc₂,-,hopen,-,hto⟩:=hg'
  obtain ⟨dc₁,hc₁,hid₁,-,hplace₁⟩:=step_goes hs hc
  obtain ⟨dc₂',hc₂',-,hopen₂,hplace₂⟩:=run_goes h hc₁
  rw [hc₂] at hc₂'
  cases hc₂'
  exact ⟨dc₁,hc₁,hid₁.trans hid,hopen₂ hopen,by omega,by omega⟩

/-- What a step that removes nothing does to the stores. -/
structure Gentle (a : Action) (g g' : Gateway) : Prop where
  devices : a.registers=false → g'.devices=g.devices
  manifests : ∀ id, (g.manifests id).isSome=true → (g'.manifests id).isSome=true
  registry : a.ofConnection=true → g'.registry=g.registry
  online : a.ofConnection=true → ∀ id, g.Online id → g'.Online id

theorem Gentle.of_peers (hd : g'.devices=g.devices) (hm : g'.manifests=g.manifests) (hr : g'.registry=g.registry)
    (ho : ∀ id, g.Online id → g'.Online id) : Gentle a g g' :=
  ⟨fun _ => hd,fun _ h => hm ▸ h,fun _ => hr,fun _ => ho⟩

theorem startRemoval_gentle (c : ConnID) : Gentle a g (g.startRemoval c) := by
  unfold startRemoval
  split
  · exact .of_peers rfl rfl rfl fun _ h => h
  · split <;> exact .of_peers rfl rfl rfl fun _ h => h

theorem leave_gentle (c : ConnID) : Gentle a g (g.leave c) := by
  obtain ⟨hd,hm,hr,ho⟩:=startRemoval_gentle (a := a) (g := g.setStage c .left) c
  exact ⟨hd,hm,hr,ho⟩

theorem drop_gentle {ok : DeviceConn → Bool} (h : g.drop id ok=some g') : Gentle a g g' := by
  obtain ⟨c,-,h⟩:=bind_eq_some_iff.mp h
  obtain ⟨dc,-,h⟩:=bind_eq_some_iff.mp h
  split at h
  · cases h
    obtain ⟨hd,hm,hr,ho⟩:=startRemoval_gentle (a := a) (g := g.close c) c
    exact ⟨hd,hm,hr,ho⟩
  · cases h

theorem online_updatePeerStatus (dc : DeviceConn) (fails : Bool) (h : g.Online id) :
    (g.updatePeerStatus dc Signal.statusOnline fails).Online id := by
  cases fails with
  | true => exact h
  | false =>
    show (g.peers.updatePeerStatus g.now dc.id Signal.statusOnline dc.clientIP id).map _=_
    by_cases hid : id=dc.id
    · subst hid
      unfold PeerTable.updatePeerStatus
      cases (g.peers dc.id).filter fun row => !row.softDeleted with
      | none => exact h
      | some row => exact congrArg _ (update_self ..)
    · rw [peers_updatePeerStatus hid]
      exact h

theorem online_upsertPeer {dialect : Signal.Dialect} {dc : DeviceConn} {m : Manifest} (h : g.Online id) :
    (g.upsertPeer dialect c dc m).Online id := by
  show (g.peers.upsertPeer dialect g.now (g.registerPeer dc m) id).map _=_
  unfold PeerTable.upsertPeer
  by_cases hid : id=dc.id
  · rw [hid,show dc.id=(g.registerPeer dc m).id from rfl,update_self,map_some]
    cases g.peers (g.registerPeer dc m).id with
    | none => rfl
    | some row => cases dialect <;> rfl
  · rw [update_of_ne (show id≠(g.registerPeer dc m).id from hid)]
    exact h

theorem handleRegister_gentle {dc : DeviceConn} {m : Manifest} {next : RegisterStep} {fails : Bool} :
    Gentle (.register c fails) g (g.handleRegister host.dialect c dc m fails next) := by
  cases next with
  | isPeerBanned | confirm =>
    simp only [handleRegister]
    split
    · exact leave_gentle c
    · exact .of_peers rfl rfl rfl fun _ h => h
  | upsertPeer =>
    cases fails with
    | true => exact leave_gentle c
    | false => exact .of_peers rfl rfl rfl fun _ h => online_upsertPeer h
  | setConfig =>
    refine ⟨fun h => (by cases h),fun id h => ?_,fun _ => rfl,fun _ _ h => h⟩
    cases fails with
    | true => exact h
    | false =>
      show (update g.manifests dc.id (some m) id).isSome=true
      rw [update_apply]
      split
      · rfl
      · exact h
  | replace =>
    simp only [handleRegister,replace]
    split <;> exact ⟨fun h => (by cases h),fun _ h => h,fun _ => rfl,fun _ _ h => h⟩
  | store => exact ⟨fun h => (by cases h),fun _ h => h,fun _ => rfl,fun _ _ h => h⟩
  | updatePeerStatus => exact .of_peers rfl rfl rfl fun _ h => online_updatePeerStatus dc fails h

theorem step_gentle (h : g.step host a=some g') (hremove : ∀ i fails, a≠.remove i fails) : Gentle a g g' := by
  cases a with
  | authenticate c p clientIP sent =>
    simp only [step,handleAuth] at h
    split at h
    · cases h
    · obtain ⟨who,-,rfl⟩:=map_eq_some_iff.mp h
      exact .of_peers rfl rfl rfl fun _ h => h
  | readRegister c m =>
    obtain ⟨dc,-,rfl⟩:=map_eq_some_iff.mp h
    unfold readRegister
    split
    · exact leave_gentle c
    · split
      · exact leave_gentle c
      · exact .of_peers rfl rfl rfl fun _ h => h
  | register c fails =>
    obtain ⟨dc,-,h⟩:=bind_eq_some_iff.mp h
    split at h
    · cases h
      exact handleRegister_gentle
    · cases h
  | heartbeat c fails =>
    obtain ⟨dc,-,rfl⟩:=map_eq_some_iff.mp h
    exact .of_peers rfl rfl rfl fun _ h => online_updatePeerStatus dc fails h
  | leave c =>
    obtain ⟨dc,-,rfl⟩:=map_eq_some_iff.mp h
    exact leave_gentle c
  | disconnect c =>
    obtain ⟨dc,-,rfl⟩:=map_eq_some_iff.mp h
    exact .of_peers rfl rfl rfl fun _ h => h
  | monitor | revoke => exact drop_gentle h
  | remove i fails => exact absurd rfl (hremove i fails)
  | message c m =>
    obtain ⟨dc,-,rfl⟩:=map_eq_some_iff.mp h
    exact ⟨fun _ => rfl,fun _ h => h,fun h => (by cases h),fun h => (by cases h)⟩
  | startSession k id username browser =>
    obtain ⟨c,-,h⟩:=bind_eq_some_iff.mp h
    obtain ⟨dc,-,rfl⟩:=map_eq_some_iff.mp h
    exact ⟨fun _ => rfl,fun _ h => h,fun h => (by cases h),fun h => (by cases h)⟩
  | sendCommand id cmd =>
    obtain ⟨c,-,rfl⟩:=map_eq_some_iff.mp h
    exact ⟨fun _ => rfl,fun _ h => h,fun h => (by cases h),fun h => (by cases h)⟩
  | _ =>
    cases h
    exact ⟨fun _ => rfl,fun _ h => h,fun h => (by cases h),fun h => (by cases h)⟩

/-- A statement of a removal, where no connection of the device is past what it takes away. -/
theorem removeStep_spared {i : ℕ} {fails : Bool} {dc : DeviceConn} {s : RemovalStep} {r : Removal}
    (hnext : g.nextRemoval i=some (dc,s,r)) (hnot : ¬ g.Past s.undoes dc.id c) :
    Spared host [.remove i fails] id c g
      { (g.removeStep dc fails s) with removals := g.removals.set i r} := by
  have hown (h : Along (step host) (Within id) g [.remove i fails]) : dc.id=id := h.1.2 i fails dc s r rfl hnext
  have hgone {P : Prop} (hp : g.Past s.undoes id c) (hid : dc.id=id) : P := absurd (hid ▸ hp) hnot
  constructor
  · intro hp _ _
    cases s with
    | unregister =>
      refine update_of_ne (fun hid => hgone hp hid.symm) ..
    | _ => rfl
  · intro hp _ hsome
    cases s with
    | deleteManifest =>
      show (if fails then g.manifests else update g.manifests dc.id none) id |>.isSome
      split
      · exact hsome
      · rwa [update_of_ne fun hid => hgone hp hid.symm]
    | _ => exact hsome
  · intro hp _ hw
    cases s with
    | clearPending | endSessions => exact hgone hp (hown hw)
    | _ => rfl
  · intro hp _ hw
    cases s with
    | clearPending | endSessions => exact hgone hp (hown hw)
    | _ => rfl
  · intro hp _ _ ho
    cases s with
    | setOffline =>
      cases fails with
      | true => exact ho
      | false =>
        show (g.peers.updatePeerStatus g.now dc.id statusOffline dc.clientIP id).map _=_
        rwa [peers_updatePeerStatus fun hid => hgone hp hid.symm]
    | _ => exact ho

theorem Spared.step (hok : g.Apart a) (hs : g.step host a=some g') (id : PeerID) (c : ConnID) :
    Spared host [a] id c g g' := by
  by_cases hremove : ∀ i fails, a≠.remove i fails
  · obtain ⟨hd,hm,hr,ho⟩:=step_gentle hs hremove
    refine ⟨fun _ _ h => ?_,fun _ _ h => hm id h,fun _ _ h => ?_,fun _ _ h => ?_,fun _ _ h => ?_⟩
    · rw [hd (h a mem_cons_self)]
    · rw [hr h.1.1]
    · rw [hr h.1.1]
    · exact ho (h a mem_cons_self) id
  · simp only [ne_eq,not_forall,not_not] at hremove
    obtain ⟨i,fails,rfl⟩:=hremove
    obtain ⟨⟨dc,s,r⟩,hnext,rfl⟩:=map_eq_some_iff.mp hs
    exact removeStep_spared hnext (hok i fails dc s r rfl hnext c)

theorem Spared.cons {u : Gateway} {as : List Action} (hs : g.step host a=some u)
    (hrun : exec (Gateway.step host) u as=some g') (h : Spared host [a] id c g u) (hrest : Spared host as id c u g') :
    Spared host (a::as) id c g g' := by
  have hall {p : Action → Prop} (hp : ∀ b∈a::as,p b) : (∀ b∈[a],p b) ∧ ∀ b∈as,p b :=
    ⟨fun b hb => hp b (mem_singleton.mp hb ▸ mem_cons_self),fun b hb => hp b (mem_cons_of_mem a hb)⟩
  have hone (hw : Along (Gateway.step host) (Within id) g (a::as)) : Along (Gateway.step host) (Within id) g [a] :=
    ⟨hw.1,fun _ _ => trivial⟩
  constructor
  · intro hg hg' hp
    have hu:=hg.between hs hrun hg'
    exact (hrest.device hu hg' (hall hp).2).trans (h.device hg hu (hall hp).1)
  · intro hg hg' hsome
    have hu:=hg.between hs hrun hg'
    exact hrest.manifest hu hg' (h.manifest hg hu hsome)
  · intro hg hg' hw
    have hu:=hg.between hs hrun hg'
    exact (hrest.sessions hu hg' (hw.2 u hs)).trans (h.sessions hg hu (hone hw))
  · intro hg hg' hw
    have hu:=hg.between hs hrun hg'
    exact (hrest.pending hu hg' (hw.2 u hs)).trans (h.pending hg hu (hone hw))
  · intro hg hg' hp ho
    have hu:=hg.between hs hrun hg'
    exact hrest.status hu hg' (hall hp).2 (h.status hg hu (hall hp).1 ho)

theorem Spared.run {as : List Action} (hok : Along (Gateway.step host) Apart g as)
    (h : exec (Gateway.step host) g as=some g') (id : PeerID) (c : ConnID) : Spared host as id c g g' := by
  induction as generalizing g with
  | nil =>
    cases h
    exact ⟨fun _ _ _ => rfl,fun _ _ h => h,fun _ _ _ => rfl,fun _ _ _ => rfl,fun _ _ _ h => h⟩
  | cons a as ih =>
    obtain ⟨u,hu,hrest⟩:=exec_cons_some h
    exact (Spared.step hok.1 hu id c).cons hu hrest (ih (hok.2 u hu) hrest)

/-- In every run, from any state, whose removals stay apart from the connections of their devices:
whatever stands under an ID is spared, between any two states, while a connection of it stays. -/
theorem removals_spare_successor (host : Host) (g₀ : Gateway) (as : List Action)
    (hok : Along (step host) Apart g₀ as) (pre mid : List Action) (hpre : pre++mid <+: as) (g g' : Gateway)
    (hg : exec (step host) g₀ pre=some g) (hg' : exec (step host) g mid=some g') (id : PeerID) (c : ConnID) :
    Spared host mid id c g g' := by
  obtain ⟨rest,rfl⟩:=hpre
  rw [append_assoc] at hok
  exact Spared.run (hok.after hg).before hg' id c

end Gateway

def commandID : CommandID := lit "cmd-1"

def terminalOpen : List Action := [.startSession .terminal "CDAP-A" "anna" 7,.sendCommand "CDAP-A" commandID]

def reconnect : List Action :=
  connecting 1 (loginAs "agent" "secret" "CDAP-A")++connecting 2 (loginAs "agent" "secret" "CDAP-A")++terminalOpen++
    [.leave 1]

/-- The second connection comes when the first one has been removed. -/
def returning : List Action :=
  connecting 1 (loginAs "agent" "secret" "CDAP-A")++.leave 1::List.replicate 9 (.remove 0 false)++
    connecting 2 (loginAs "agent" "secret" "CDAP-A")++terminalOpen

def otherLeaves : List Action :=
  connecting 3 (loginAs "bob" "hunter2" "CDAP-B")++.leave 3::List.replicate 9 (.remove 1 false)

/-- What stands under the ID, and whether the second connection stands behind it. -/
structure Standing where
  device : Option ConnID
  manifest : Bool
  terminal : Bool
  command : Bool
  status : Option String
  successor : Bool
  deriving DecidableEq

namespace Gateway
variable {host : Host} {g g' : Gateway} {a : Action} {n : ℕ}

def standing (g : Gateway) : Standing where
  device := g.devices "CDAP-A"
  manifest := (g.manifests "CDAP-A").isSome
  terminal := (g.registry.session .terminal (newSessionID .terminal "CDAP-A" 0)).isSome
  command := (g.registry.pendingCommands.load commandID).isSome
  status := (g.peers "CDAP-A").map Signal.PeerRow.status
  successor := (g.conns 2).any fun dc => dc.id="CDAP-A"&&decide (dc.Past .store)

def apartBelow (n : ℕ) (g : Gateway) : Action → Bool
  | .authenticate c _ _ _ => c<n
  | .remove i _ => (g.nextRemoval i).all fun next => (List.range n).all fun c => (g.conns c).all fun dc =>
      dc.id≠next.1.id||!decide (dc.Past next.2.1.undoes)
  | _ => true

theorem apart_of_below (hn : ∀ c≥n,g.conns c=none) (h : g.apartBelow n a=true) : g.Apart a := by
  rintro i fails dc s r rfl hnext c ⟨dc',hc,hid,hpast⟩
  have hlt : c<n := by
    by_contra hge
    rw [hn c (not_lt.mp hge)] at hc
    cases hc
  simp only [apartBelow,hnext,Option.all_some,List.all_eq_true] at h
  have hno:=h c (mem_range.mpr hlt)
  simp [hc,hid,hpast] at hno

theorem step_below (hn : ∀ c≥n,g.conns c=none) (h : g.apartBelow n a=true) (hs : g.step host a=some g') :
    ∀ c≥n,g'.conns c=none := by
  intro c hc
  have hmoves (hm : g.Moves g') : g'.conns c=none := by
    rcases hm c with ⟨-,hnone⟩ | ⟨dc,_,hsome,-⟩
    · exact hnone
    · rw [hn c hc] at hsome
      cases hsome
  cases step_effect hs with
  | quiet hq => exact hmoves hq.moves
  | @arrives c' _ _ _ who hnew hwho hconns hdevices =>
    have hlt : c'<n := of_decide_eq_true h
    rw [hconns,update_of_ne (ne_of_gt (hlt.trans_le hc)),hn c hc]
  | @writes c' _ dc m hc' hstage hg =>
    have hne : c≠c' := by
      rintro rfl
      rw [hn c hc] at hc'
      cases hc'
    rw [hg,upsertPeer_conns hc',update_of_ne hne,hn c hc]
  | stores dc m hc' hstage hg => exact hmoves (hg ▸ store_moves hc' hstage)

end Gateway

theorem returning_spared : ∃ g g', exec (Gateway.step demoHost) idle returning=some g ∧
    exec (Gateway.step demoHost) g otherLeaves=some g' ∧
    g'.standing=⟨some 2,true,true,true,some "ONLINE",true⟩ ∧
    Gateway.Spared demoHost otherLeaves "CDAP-A" 2 g g' := by
  have hbelow : Along (Gateway.step demoHost) (fun g a => g.apartBelow 4 a=true) idle (returning++otherLeaves) := by
    decide
  have hapart : Along (Gateway.step demoHost) Gateway.Apart idle (returning++otherLeaves) :=
    hbelow.of_invariant (fun g => ∀ c≥4,g.conns c=none) (fun _ _ _ hn h hs => Gateway.step_below hn h hs)
      (fun _ _ hn h => Gateway.apart_of_below hn h) fun _ _ => rfl
  have hstanding : (exec (Gateway.step demoHost) idle (returning++otherLeaves)).map Gateway.standing =
      some ⟨some 2,true,true,true,some "ONLINE",true⟩ := by
    decide
  obtain ⟨g',hg',hstands⟩:=map_eq_some_iff.mp hstanding
  obtain ⟨g,hg,hrest⟩:=bind_eq_some_iff.mp ((exec_append ..).symm.trans hg')
  exact ⟨g,g',hg,hrest,hstands,
    Gateway.removals_spare_successor demoHost idle _ hapart returning otherLeaves (prefix_refl _) g g' hg hrest _ _⟩

theorem old_connection_removes_successor : (exec (Gateway.step demoHost) idle reconnect).map Gateway.standing =
      some ⟨some 2,true,true,true,some "ONLINE",true⟩ ∧
    (exec (Gateway.step demoHost) idle (reconnect++List.replicate 9 (.remove 0 false))).map Gateway.standing =
      some ⟨none,false,false,false,some "OFFLINE",true⟩ ∧
    ∃ g g', exec (Gateway.step demoHost) idle reconnect=some g ∧
      exec (Gateway.step demoHost) g (List.replicate 9 (.remove 0 false))=some g' ∧
      ¬ Gateway.Spared demoHost (List.replicate 9 (.remove 0 false)) "CDAP-A" 2 g g' := by
  have hbefore : (exec (Gateway.step demoHost) idle reconnect).map Gateway.standing =
      some ⟨some 2,true,true,true,some "ONLINE",true⟩ := by
    decide
  have hafter : (exec (Gateway.step demoHost) idle (reconnect++List.replicate 9 (.remove 0 false))).map
      Gateway.standing=some ⟨none,false,false,false,some "OFFLINE",true⟩ := by
    decide
  obtain ⟨g',hg',hlost⟩:=map_eq_some_iff.mp hafter
  obtain ⟨g,hg,hrest⟩:=bind_eq_some_iff.mp ((exec_append ..).symm.trans hg')
  rw [hg] at hbefore
  have hstood : g.standing=⟨some 2,true,true,true,some "ONLINE",true⟩ := Option.some.inj hbefore
  have hpast {g : Gateway} (h : g.standing.successor=true) : g.Past .store "CDAP-A" 2 := by
    obtain ⟨dc,hc,hdc⟩:=(any_eq_true _ _).mp h
    simp only [Bool.and_eq_true,decide_eq_true_eq] at hdc
    exact ⟨dc,hc,hdc⟩
  refine ⟨by rw [hg]; exact hbefore,hafter,g,g',hg,hrest,fun h => ?_⟩
  have hsame:=h.device (hpast (by rw [hstood])) (hpast (by rw [hlost])) (by decide)
  have hnow : g'.devices "CDAP-A"=none := congrArg Standing.device hlost
  have hthen : g.devices "CDAP-A"=some 2 := congrArg Standing.device hstood
  rw [hnow,hthen] at hsame
  cases hsame

end BetterDesk.Cdap
