import BetterDesk.Signal.AdminState

/-! # Former IDs of a device (signal/peer_id_registration.go, db/sqlite.go, api/server.go) -/

namespace BetterDesk.Signal
open Db Text Exec List Function

namespace Database
variable (db : Database)

/-- `DeletePeer`: the row stays. -/
def deletePeer (id : PeerID) : Database :=
  {db with peers := update db.peers id <|
      (db.peers id).map fun row => {row with softDeleted := true}}

/-- `HardDeletePeer`: the history of the ID goes with the row. -/
def hardDeletePeer (id : PeerID) : Database :=
  { db with
    peers := update db.peers id none
    renames := db.renames.filter fun r => r.1≠id&&r.2≠id}

/-- `RestorePeer` and `UnbanPeer`. -/
def restorePeer (id : PeerID) : Database :=
  {db with peers := update db.peers id <|
      (db.peers id).map fun row => {row with softDeleted := false,banned := false}}

end Database

namespace Server
variable (s : Server)

/-- `handleRestorePeer`. -/
def restorePeer (id : PeerID) : Server := match s.db.isPeerSoftDeleted id with
  | .ok true => {s with db := s.db.restorePeer id}
  | _ => s

/-- `handleChangePeerID`, and whether it was accepted. -/
def panelChangePeerID (oldID newID : PeerID) : Bool × Server :=
  if newID="" ∨ isValidPeerID newID=false then (false,s)
  else match s.db.getPeerIDState newID with
    | .ok .missing => match s.db.changePeerID oldID newID with
      | (.ok,db) => (true,{s with db := db,peers := s.peers.rename oldID newID})
      | (_,db) => (false,{s with db := db})
    | _ => (false,s)

def answering : Server := {s with db := {s.db with fails := fun _ => false}}

end Server

/-- `formers` has the IDs that the device under an ID had before, its present one aside. -/
structure Lineage where
  server : Server
  formers : PeerID → List PeerID

inductive IDAction
  | message (env : Environment) (a : KeyAction)
  | changePeerID (env : Environment) (oldID newID : PeerID)
  | deletePeer (id : PeerID)
  | hardDeletePeer (id : PeerID)
  | restorePeer (env : Environment) (id : PeerID)

namespace Lineage
variable (x : Lineage)

/-- The old and the new ID of an accepted change, by the device or on the panel. -/
def renamed : IDAction → Option (PeerID × PeerID)
  | .message env a => x.server.renames env a
  | .changePeerID env old new =>
    if ((x.server.underEnv env).panelChangePeerID old new).1 then some (old,new) else none
  | _ => none

def performed : IDAction → Server
  | .message env a => x.server.perform env a
  | .changePeerID env old new => ((x.server.underEnv env).panelChangePeerID old new).2
  | .deletePeer id => {x.server with
      db := x.server.db.deletePeer id
      peers := x.server.peers.remove id}
  | .hardDeletePeer id => {x.server with
      db := x.server.db.hardDeletePeer id
      peers := x.server.peers.remove id}
  | .restorePeer env id => (x.server.underEnv env).restorePeer id

def forget (a : IDAction) : PeerID → List PeerID := match a with
  | .hardDeletePeer id => update x.formers id []
  | _ => x.formers

def step (x : Lineage) (a : IDAction) : Option Lineage :=
  some ⟨x.performed a,match x.renamed a with
    | some (old,new) => update
        (update x.formers new ((old::x.formers old).filter (·≠new))) old []
    | none => x.forget a⟩

def start (s : Server) : Lineage := ⟨{s with db := {s.db with renames := []}},fun _ => []⟩

def Living (c : PeerID) : Prop := ∃ row, x.server.db.peers c=some row ∧ row.softDeleted=false

/-- Who registers is the device of the row: it has the key, or the UUID. -/
def Genuine (row : Row) (uuid pk : Bytes) : Prop :=
  (pk≠[] ∧ pk=row.pk) ∨ (uuid≠[] ∧ row.uuid≠[] ∧ peerUUIDEqual (peerUUIDFromDB row.uuid) uuid=true)

/-- It says who it is, or comes from where the address of the row does not lead. -/
def Tells (row : Row) (host : IP) (uuid pk : Bytes) : Prop :=
  uuid≠[] ∨ pk≠[] ∨ ∀ ip∈row.ip,host≠ip ∧ ¬ Policy.ipText host++[58] <+: Policy.ipText ip

/-- Under each former ID of a living device that device is led to its present ID, and nobody
else is let in. -/
def Resolves (who : Row → IP → Bytes → Bytes → Prop) : Prop :=
  ∀ c row, x.server.db.peers c=some row → row.softDeleted=false →
    ∀ f∈x.formers c, ∀ host uuid pk, who row host uuid pk →
      (Genuine row uuid pk → x.server.answering.resolveRegistrationPeerID f host uuid pk=some c) ∧
      (¬ Genuine row uuid pk → x.server.answering.resolveRegistrationPeerID f host uuid pk=none) ∧
        x.server.answering.resolveRegistrationPeerID f host uuid pk≠some f

/-- The newest change of the ID leads to `c`, and no row has it. -/
def Leads (db : Tables) (f c : PeerID) : Prop :=
  db.peers f=none ∧ (db.renames.find? fun r => r.1=f).map Prod.snd=some c

/-- A device is renamed for the first time, or back, and to no former ID of a living device. -/
def Safe (x : Lineage) (a : IDAction) : Prop :=
  (∀ old new, x.renamed a=some (old,new) → (∀ f∈x.formers old, f=new) ∧
    ∀ c, c≠old → x.Living c → new∉x.formers c) ∧
  match a with
  | .hardDeletePeer id => ∀ c, c≠id → x.Living c → id∉x.formers c
  | .restorePeer _ id => ∀ f∈x.formers id, Leads x.server.db.toTables f id
  | _ => True

end Lineage

namespace Server
variable {s : Server} {env : Environment}

variable (id : PeerID)

theorem claimEntry_renames (existing : Option Row) (m : RegisterPk) (addr : Addr) :
    (s.claimEntry id existing m addr).server.db.renames=s.db.renames := by
  have hput (e : Entry) (p : Prop) [Decidable p] : (if p then s else {s with peers := s.peers.put e}).db=s.db := by
    split <;> rfl
  have hupsert (db : Database) (uuid pk : Bytes) : (db.upsertPeer id uuid pk).renames=db.renames := by
    unfold Database.upsertPeer
    split <;> rfl
  unfold claimEntry
  dsimp only
  split
  · rw [hput]
  · split
    · rw [hput]
    · rw [hupsert,hput]

structure Changes (db db' : Tables) (old new : PeerID) : Prop where
  named : new≠""
  free : db.peers new=none
  moved : ∃ row, db.peers old=some row ∧ row.softDeleted=false ∧
    db'.peers=update (update db.peers new (some row)) old none
  recorded : db'.renames=(old,new)::db.renames

theorem changePeerID_changes {db db' : Database} {old new : PeerID} (h : db.changePeerID old new=(.ok,db'))
    (hfree : db.peers new=none) (hnew : new≠"") : Changes db.toTables db'.toTables old new := by
  unfold Database.changePeerID at h
  split at h
  · cases h
  · split at h
    · cases h
    · split at h
      · cases h
      · rename_i row hrow
        cases h
        obtain ⟨hrow,hlive⟩:=Option.filter_eq_some_iff.mp hrow
        exact ⟨hnew,hfree,⟨row,hrow,by simpa using hlive,rfl⟩,rfl⟩

theorem changePeerID_refused {db db' : Database} {old new : PeerID} {r : Result} (h : db.changePeerID old new=(r,db'))
    (hr : r ≠ .ok) : db'=db := by
  unfold Database.changePeerID at h
  split at h
  · cases h
    rfl
  · split at h
    · cases h
      rfl
    · split at h
      · cases h
        rfl
      · cases h
        exact absurd rfl hr

theorem processIDChange_db {m : RegisterPk} (hid : m.id≠"") :
    ((s.processIDChange m).result ≠ .ok → (s.processIDChange m).server.db=s.db) ∧
      ((s.processIDChange m).result=.ok →
        Changes s.db.toTables (s.processIDChange m).server.db.toTables m.oldID m.id) := by
  unfold processIDChange
  split
  · exact ⟨fun _ => rfl,fun h => (by cases h)⟩
  · split
    · exact ⟨fun _ => rfl,fun h => (by cases h)⟩
    · exact ⟨fun _ => rfl,fun h => (by cases h)⟩
    · split
      · rename_i r hal
        exact ⟨fun _ => rfl,fun h => absurd h (idChangeAllowed_error hal)⟩
      · split
        · exact ⟨fun _ => rfl,fun h => (by cases h)⟩
        · split
          · exact ⟨fun _ => rfl,fun h => (by cases h)⟩
          · rename_i hmissing
            have hfree:=getPeerIDState_missing hmissing
            split
            · rename_i db hc
              have hch:=changePeerID_changes hc hfree hid
              split
              · exact ⟨fun h => absurd rfl h,fun _ => hch⟩
              · exact ⟨fun h => absurd rfl h,fun _ => hch⟩
            · rename_i r db hr hc
              exact ⟨fun _ => changePeerID_refused hc (by simpa using hr),fun h => absurd h (by simpa using hr)⟩
          · exact ⟨fun _ => rfl,fun h => (by cases h)⟩

theorem refusedRegistration_none {m : RegisterPk} {addr : Addr} (h : s.refusedRegistration m addr=none) : m.id≠"" := by
  intro hid
  unfold refusedRegistration at h
  rw [if_pos hid] at h
  cases h

theorem processRegisterPk_db (s : Server) (m : RegisterPk) (addr : Addr) :
    (m.oldID="" ∨ (s.processRegisterPk m addr).result ≠ .ok →
      (s.processRegisterPk m addr).server.db.renames=s.db.renames) ∧
      (m.oldID≠"" → (s.processRegisterPk m addr).result=.ok →
        Changes s.db.toTables (s.processRegisterPk m addr).server.db.toTables m.oldID m.id) := by
  unfold processRegisterPk
  cases hsight : s.refusedRegistration m addr with
  | some r => exact ⟨fun _ => rfl,fun _ h => absurd h (refusedRegistration_some hsight)⟩
  | none =>
    dsimp only
    by_cases hold : m.oldID≠""
    · rw [if_pos hold]
      obtain ⟨hrefused,haccepted⟩:=processIDChange_db (s := s) (refusedRegistration_none hsight)
      exact ⟨fun h => congrArg (fun db => db.renames) (hrefused (h.resolve_left hold)),fun _ h => haccepted h⟩
    · rw [if_neg hold]
      refine ⟨fun _ => ?_,fun h => absurd h hold⟩
      cases s.resolveRegistrationPeerID m.id addr.ip m.uuid m.pk with
      | none => rfl
      | some id =>
        dsimp only
        split
        · rfl
        · have hadm:=(admitRegistration_drops (s := s) id).renames
          generalize hs : s.admitRegistration id=result at hadm
          obtain ⟨admitted,t⟩:=result
          cases admitted with
          | error r => exact hadm
          | ok existing =>
            obtain ⟨-,rfl⟩:=admitRegistration_ok.mp hs
            exact claimEntry_renames id existing m addr

theorem handleRegisterPk_db (transport : ConnType) (m : RegisterPk) (addr : Addr) :
    (m.oldID="" ∨ (s.handleRegisterPk transport m addr).result ≠ .ok →
      (s.handleRegisterPk transport m addr).server.db.renames=s.db.renames) ∧
      (m.oldID≠"" → (s.handleRegisterPk transport m addr).result=.ok →
        Changes s.db.toTables (s.handleRegisterPk transport m addr).server.db.toTables m.oldID m.id) := by
  cases transport with
  | udp => exact s.processRegisterPk_db m addr
  | tcp =>
    have hopen : (s.openTCP addr).db=s.db := by
      unfold openTCP
      split <;> rfl
    rw [← hopen]
    exact (s.openTCP addr).processRegisterPk_db m addr
  | ws =>
    have hbind (t : Server) (id : PeerID) : (t.bindPeerWSConn id addr).db=t.db := by
      unfold bindPeerWSConn
      split <;> rfl
    obtain ⟨hkept,hchanges⟩:=s.processRegisterPk_db m addr
    unfold handleRegisterPk
    dsimp only
    split
    · exact ⟨hkept,hchanges⟩
    · show (_ ∨ _ → ((s.processRegisterPk m addr).server.bindPeerWSConn _ addr).db.renames=_) ∧
        (_ → _ → Changes _ ((s.processRegisterPk m addr).server.bindPeerWSConn _ addr).db.toTables _ _)
      rw [hbind]
      exact ⟨hkept,hchanges⟩

theorem perform_history (a : KeyAction) : (s.renames env a=none → (s.perform env a).db.renames=s.db.renames) ∧
      ∀ old new, s.renames env a=some (old,new) → Changes s.db.toTables (s.perform env a).db.toTables old new := by
  cases a with
  | registerPeer id raddr =>
    exact ⟨fun _ => (handleRegisterPeer_refreshes (s := s.underEnv env) id raddr).1.renames,fun _ _ h => (by cases h)⟩
  | registerPeerWS id addr =>
    exact ⟨fun _ => (registerPeerWS_refreshes (s := s.underEnv env) id addr).renames,fun _ _ h => (by cases h)⟩
  | registerPk transport m addr =>
    obtain ⟨hkept,hchanges⟩:=handleRegisterPk_db (s := s.underEnv env) transport m addr
    have hren : s.renames env (.registerPk transport m addr) =
        if m.oldID≠"" ∧ ((s.underEnv env).handleRegisterPk transport m addr).result=.ok then some (m.oldID,m.id)
        else none := rfl
    rw [hren]
    by_cases hc : m.oldID≠"" ∧ ((s.underEnv env).handleRegisterPk transport m addr).result=.ok
    · rw [if_pos hc]
      refine ⟨fun h => (by cases h),fun old new h => ?_⟩
      cases h
      exact hchanges hc.1 hc.2
    · rw [if_neg hc]
      refine ⟨fun _ => hkept ?_,fun old new h => (by cases h)⟩
      by_cases hold : m.oldID=""
      · exact .inl hold
      · exact .inr fun hok => hc ⟨hold,hok⟩
  | keepAlive | tick | cleanup | restart => exact ⟨fun _ => rfl,fun _ _ h => (by cases h)⟩

theorem panelChangePeerID_db (s : Server) (old new : PeerID) :
    ((s.panelChangePeerID old new).1=false → (s.panelChangePeerID old new).2.db=s.db) ∧
      ((s.panelChangePeerID old new).1=true →
        Changes s.db.toTables (s.panelChangePeerID old new).2.db.toTables old new) := by
  unfold panelChangePeerID
  split
  · exact ⟨fun _ => rfl,fun h => (by cases h)⟩
  · rename_i hnew
    split
    · rename_i hmissing
      have hfree:=getPeerIDState_missing hmissing
      split
      · rename_i db hc
        exact ⟨fun h => (by cases h),fun _ => changePeerID_changes hc hfree fun h => hnew (.inl h)⟩
      · rename_i r db hr hc
        exact ⟨fun _ => changePeerID_refused hc (by simpa using hr),fun h => (by cases h)⟩
    · exact ⟨fun _ => rfl,fun h => (by cases h)⟩

end Server

namespace Lineage
variable {x y : Lineage} {a : IDAction}

structure Kept (x : Lineage) : Prop where
  leads : ∀ c, x.Living c → ∀ f∈x.formers c, Leads x.server.db.toTables f c
  unrowed : ∀ c, x.server.db.peers c=none → x.formers c=[]
  named : ∀ c f, f∈x.formers c → c≠""

theorem start_kept (s : Server) : (start s).Kept :=
  ⟨fun _ _ _ hf => absurd hf not_mem_nil,fun _ _ => rfl,fun _ _ hf => absurd hf not_mem_nil⟩

theorem resolved_not_former {s : Server} {id d c f : PeerID} {host : IP} {uuid pk : Bytes}
    (hleads : Leads s.db.toTables f c) (hliving : ∃ row, s.db.peers c=some row ∧ row.softDeleted=false)
    (h : s.resolveRegistrationPeerID id host uuid pk=some d) : d≠f := by
  rintro rfl
  obtain ⟨hnone,hlatest⟩:=hleads
  obtain ⟨entry,hfind,hc⟩:=Option.map_eq_some_iff.mp hlatest
  unfold Server.resolveRegistrationPeerID at h
  split at h
  · cases h
  · rename_i hrenamed
    cases h
    have hv:=(s.db.ask_ok.mp hrenamed).2
    have hany : (s.db.renames.any fun r => r.1=id)=true :=
      any_eq_true.mpr ⟨entry,mem_of_find?_eq_some hfind,by simpa using List.find?_some hfind⟩
    rw [hany,hnone] at hv
    cases hv
  · split at h
    · cases h
    · rename_i newID htarget
      split at h
      · cases h
      · split at h
        · cases h
        · rename_i hsuccessor
          cases h
          have hv:=(s.db.ask_ok.mp htarget).2
          rw [hlatest] at hv
          have hv : c=newID := hv
          subst hv
          obtain ⟨row,hrow,hdeleted⟩:=hliving
          have hg:=(s.db.ask_ok.mp hsuccessor).2
          rw [hrow] at hg
          simp [Option.filter,hdeleted] at hg
        · rename_i successor hsuccessor
          split at h
          · cases h
            have hg:=(s.db.ask_ok.mp hsuccessor).2
            rw [hnone] at hg
            cases hg
          · cases h

theorem onRows_kept (rows : PeerID → Option Row) (w : PeerWrite) (c : PeerID) :
    (∀ old, rows c=some old → ∃ row, w.onRows rows c=some row ∧ row.softDeleted=old.softDeleted) ∧
      (rows c=none → ∀ row, w.onRows rows c=some row → ∃ p, w=.upsert p ∧ p.id=c) := by
  cases w with
  | status id ip =>
    simp only [PeerWrite.onRows]
    cases hstored : (rows id).filter fun row : Row => !row.softDeleted with
    | none =>
      refine ⟨fun old hold => ⟨old,hold,rfl⟩,fun hnone row hrow => ?_⟩
      have hrow : rows c=some row := hrow
      rw [hnone] at hrow
      cases hrow
    | some stored =>
      have hrow:=(Option.filter_eq_some_iff.mp hstored).1
      by_cases hc : c=id
      · subst hc
        refine ⟨fun old hold => ⟨{stored with ip := some ip},update_self ..,?_⟩,fun hnone => ?_⟩
        · rw [Option.some.inj (hrow.symm.trans hold)]
        · rw [hrow] at hnone
          cases hnone
      · refine ⟨fun old hold => ⟨old,(update_of_ne hc ..).trans hold,rfl⟩,fun hnone row hrow => ?_⟩
        have hrow : rows c=some row := (update_of_ne hc ..).symm.trans hrow
        rw [hnone] at hrow
        cases hrow
  | upsert p =>
    by_cases hc : c=p.id
    · subst hc
      refine ⟨fun old hold => ?_,fun _ _ _ => ⟨p,rfl,rfl⟩⟩
      simp only [PeerWrite.onRows,update_self,hold]
      exact ⟨_,rfl,rfl⟩
    · have hsame : (PeerWrite.upsert p).onRows rows c=rows c := update_of_ne hc ..
      rw [hsame]
      exact ⟨fun old hold => ⟨old,hold,rfl⟩,fun hnone row hrow => by rw [hnone] at hrow; cases hrow⟩

theorem written_rows {s : Server} (env : Environment) (a : KeyAction) (c : PeerID) :
    (∀ old, s.db.peers c=some old →
      ∃ row, Server.written s.db.peers (s.peerWrite env a) c=some row ∧ row.softDeleted=old.softDeleted) ∧
      (s.db.peers c=none → ∀ row, Server.written s.db.peers (s.peerWrite env a) c=some row →
        s.Reregisters env c a) := by
  cases hw : s.peerWrite env a with
  | none =>
    refine ⟨fun old hold => ⟨old,hold,rfl⟩,fun hnone row hrow => ?_⟩
    have hrow : s.db.peers c=some row := hrow
    rw [hnone] at hrow
    cases hrow
  | some w =>
    obtain ⟨hkept,hmade⟩:=onRows_kept s.db.peers w c
    refine ⟨hkept,fun hnone row hrow => ?_⟩
    obtain ⟨p,rfl,hp⟩:=hmade hnone row hrow
    rcases Server.peerWrite_cases hw with ⟨id,ip,h⟩ | ⟨id,e,hre,h⟩
    · cases h
    · cases h
      exact hp ▸ hre

theorem Kept.same {t : Server} (h : x.Kept) (hrows : ∀ c row, t.db.peers c=some row → row.softDeleted=false →
      x.Living c ∨ x.formers c=[]) (hnone : ∀ c, t.db.peers c=none → x.server.db.peers c=none)
    (hfree : ∀ c, x.Living c → ∀ f∈x.formers c, t.db.peers f=none)
    (hhistory : t.db.renames=x.server.db.renames) : (⟨t,x.formers⟩ : Lineage).Kept := by
  refine ⟨?_,fun c hc => h.unrowed c (hnone c hc),h.named⟩
  rintro c ⟨row,hrow,hlive⟩ f hf
  rcases hrows c row hrow hlive with hliving | hempty
  · refine ⟨hfree c hliving f hf,?_⟩
    rw [hhistory]
    exact (h.leads c hliving f hf).2
  · rw [show (⟨t,x.formers⟩ : Lineage).formers c=[] from hempty] at hf
    cases hf

theorem Kept.message (h : x.Kept) (env : Environment) (a : KeyAction) (hren : x.server.renames env a=none) :
    (⟨x.server.perform env a,x.formers⟩ : Lineage).Kept := by
  have hrows:=Server.perform_rows a hren
  refine h.same (fun c row hrow hlive => ?_) (fun c hc => ?_) (fun c hliving f hf => ?_)
    ((Server.perform_history a).1 hren)
  · rw [hrows] at hrow
    cases hold : x.server.db.peers c with
    | none => exact .inr (h.unrowed c hold)
    | some old =>
      obtain ⟨row',hrow',hsame⟩:=(written_rows env a c).1 old hold
      rw [hrow] at hrow'
      cases hrow'
      exact .inl ⟨old,hold,hsame.symm.trans hlive⟩
  · rw [hrows] at hc
    cases hold : x.server.db.peers c with
    | none => rfl
    | some old =>
      obtain ⟨row',hrow',-⟩:=(written_rows env a c).1 old hold
      rw [hc] at hrow'
      cases hrow'
  · have hleads:=h.leads c hliving f hf
    rw [hrows]
    cases hrow : Server.written x.server.db.peers (x.server.peerWrite env a) f with
    | none => rfl
    | some row =>
      have hre:=(written_rows env a f).2 hleads.1 row hrow
      cases a with
      | registerPk transport m addr =>
        have hnamed:=hre.named
        exact absurd rfl (resolved_not_former (s := x.server.underEnv env) hleads hliving hnamed)
      | registerPeer | registerPeerWS | keepAlive | tick | cleanup | restart => exact hre.elim

theorem Kept.changes (h : x.Kept) {t : Server} {old new : PeerID} (hch : Server.Changes x.server.db.toTables t.db.toTables old new)
    (hfirst : ∀ f∈x.formers old, f=new) (hunused : ∀ c, c≠old → x.Living c → new∉x.formers c) :
    (⟨t,update (update x.formers new ((old::x.formers old).filter (·≠new))) old []⟩ : Lineage).Kept := by
  obtain ⟨row,hrow,hlive,hpeers⟩:=hch.moved
  have hne : old≠new := by
    rintro rfl
    rw [hch.free] at hrow
    cases hrow
  have hformers (c : PeerID) :
      update (update x.formers new ((old::x.formers old).filter (·≠new))) old [] c =
        if c=old then [] else if c=new then [old] else x.formers c := by
    by_cases hold : c=old
    · rw [if_pos hold,hold,update_self]
    · rw [if_neg hold,update_of_ne hold]
      by_cases hnew : c=new
      · rw [if_pos hnew,hnew,update_self,filter_cons_of_pos (by simpa using hne)]
        have hrest : (x.formers old).filter (·≠new)=[] := by
          rw [filter_eq_nil_iff]
          intro f hf
          simpa using hfirst f hf
        rw [hrest]
      · rw [if_neg hnew,update_of_ne hnew]
  have hrows (c : PeerID) : t.db.peers c = if c=old then none else if c=new then some row else x.server.db.peers c := by
    rw [hpeers]
    by_cases hold : c=old
    · rw [if_pos hold,hold,update_self]
    · rw [if_neg hold,update_of_ne hold]
      by_cases hnew : c=new
      · rw [if_pos hnew,hnew,update_self]
      · rw [if_neg hnew,update_of_ne hnew]
  have hmem {c f : PeerID} (hf : f∈update (update x.formers new
      ((old::x.formers old).filter (·≠new))) old [] c) : c≠old ∧ ((c=new ∧ f=old) ∨ (c≠new ∧ f∈x.formers c)) := by
    rw [hformers] at hf
    by_cases hold : c=old
    · rw [if_pos hold] at hf
      cases hf
    · rw [if_neg hold] at hf
      refine ⟨hold,?_⟩
      by_cases hnew : c=new
      · rw [if_pos hnew] at hf
        exact .inl ⟨hnew,mem_singleton.mp hf⟩
      · rw [if_neg hnew] at hf
        exact .inr ⟨hnew,hf⟩
  refine ⟨?_,fun c hc => ?_,fun c f hf => ?_⟩
  · rintro c ⟨crow,hcrow,hclive⟩ f hf
    have hcrow : t.db.peers c=some crow := hcrow
    show t.db.peers f=none ∧ (t.db.renames.find? fun r => r.1=f).map Prod.snd=some c
    rw [hch.recorded]
    obtain ⟨hcold,⟨rfl,rfl⟩ | ⟨hcnew,hf⟩⟩:=hmem hf
    · refine ⟨by rw [hrows,if_pos rfl],?_⟩
      rw [List.find?_cons_of_pos (by simp)]
      rfl
    · rw [hrows,if_neg hcold,if_neg hcnew] at hcrow
      have hliving : x.Living c := ⟨crow,hcrow,hclive⟩
      obtain ⟨hnone,hlatest⟩:=h.leads c hliving f hf
      have hfold : f≠old := by
        rintro rfl
        rw [hrow] at hnone
        cases hnone
      have hfnew : f≠new := fun hfn => hunused c hcold hliving (hfn ▸ hf)
      refine ⟨?_,?_⟩
      · rw [hrows,if_neg hfold,if_neg hfnew]
        exact hnone
      · rw [List.find?_cons_of_neg (by simpa using Ne.symm hfold)]
        exact hlatest
  · have hc : t.db.peers c=none := hc
    refine (hformers c).trans ?_
    rw [hrows] at hc
    by_cases hold : c=old
    · rw [if_pos hold]
    · rw [if_neg hold] at hc ⊢
      by_cases hnew : c=new
      · rw [if_pos hnew] at hc
        cases hc
      · rw [if_neg hnew] at hc ⊢
        exact h.unrowed c hc
  · obtain ⟨-,⟨rfl,-⟩ | ⟨-,hf⟩⟩:=hmem hf
    · exact hch.named
    · exact h.named c f hf

theorem Kept.deletePeer (h : x.Kept) (id : PeerID) : (⟨x.performed (.deletePeer id),x.formers⟩ : Lineage).Kept := by
  have hrows (c : PeerID) : (x.performed (.deletePeer id)).db.peers c =
      if c=id then (x.server.db.peers id).map fun row => {row with softDeleted := true} else x.server.db.peers c :=
    update_apply ..
  refine h.same (fun c row hrow hlive => ?_) (fun c hc => ?_) (fun c hliving f hf => ?_) rfl
  · rw [hrows] at hrow
    by_cases hid : c=id
    · rw [if_pos hid] at hrow
      obtain ⟨old,-,rfl⟩:=Option.map_eq_some_iff.mp hrow
      cases hlive
    · rw [if_neg hid] at hrow
      exact .inl ⟨row,hrow,hlive⟩
  · rw [hrows] at hc
    by_cases hid : c=id
    · rw [if_pos hid] at hc
      rw [hid]
      simpa using hc
    · rwa [if_neg hid] at hc
  · have hnone:=(h.leads c hliving f hf).1
    rw [hrows]
    by_cases hid : f=id
    · rw [if_pos hid,← hid,hnone]
      rfl
    · rw [if_neg hid]
      exact hnone

theorem Kept.hardDeletePeer (h : x.Kept) (id : PeerID) (hsafe : ∀ c, c≠id → x.Living c → id∉x.formers c) :
    (⟨x.performed (.hardDeletePeer id),update x.formers id []⟩ : Lineage).Kept := by
  have hrows (c : PeerID) : (x.performed (.hardDeletePeer id)).db.peers c =
      if c=id then none else x.server.db.peers c := update_apply ..
  have hformers (c : PeerID) : update x.formers id [] c = if c=id then [] else x.formers c :=
    update_apply ..
  refine ⟨?_,fun c hc => ?_,fun c f hf => ?_⟩
  · rintro c ⟨row,hrow,hlive⟩ f hf
    have hrow : (x.performed (.hardDeletePeer id)).db.peers c=some row := hrow
    rw [hrows] at hrow
    have hf : f∈update x.formers id [] c := hf
    rw [hformers] at hf
    by_cases hid : c=id
    · rw [if_pos hid] at hrow
      cases hrow
    · rw [if_neg hid] at hrow hf
      have hliving : x.Living c := ⟨row,hrow,hlive⟩
      obtain ⟨hnone,hlatest⟩:=h.leads c hliving f hf
      have hfid : f≠id := fun h => hsafe c hid hliving (h ▸ hf)
      refine ⟨?_,?_⟩
      · show (x.performed (.hardDeletePeer id)).db.peers f=none
        rw [hrows,if_neg hfid]
        exact hnone
      · -- the newest change of the former ID has neither end at the deleted one
        obtain ⟨entry,hfind,hc⟩:=Option.map_eq_some_iff.mp hlatest
        have hentry : entry.1=f := by simpa using List.find?_some hfind
        show (List.find? (fun r => decide (r.1=f))
          (x.server.db.renames.filter fun r => r.1≠id&&r.2≠id)).map Prod.snd=some c
        rw [List.find?_filter]
        rw [List.find?_eq_some_iff_append] at hfind
        obtain ⟨-,before,after,hsplit,hbefore⟩:=hfind
        have hfound : List.find? (fun r => (r.1≠id&&r.2≠id)&&decide (r.1=f)) x.server.db.renames=some entry := by
          rw [List.find?_eq_some_iff_append]
          refine ⟨?_,before,after,hsplit,fun r hr => ?_⟩
          · simp [hentry,hfid,hc,hid]
          · have hne : r.1≠f := by simpa using hbefore r hr
            simp [hne]
        rw [show List.find? (fun a => decide ((decide (a.1≠id)&&decide (a.2≠id))=true ∧ decide (a.1=f)=true))
            x.server.db.renames=some entry from by
          rw [← hfound]
          congr 1
          funext a
          simp]
        exact congrArg some hc
  · have hc : (x.performed (.hardDeletePeer id)).db.peers c=none := hc
    refine (hformers c).trans ?_
    rw [hrows] at hc
    by_cases hid : c=id
    · rw [if_pos hid]
    · rw [if_neg hid] at hc ⊢
      exact h.unrowed c hc
  · have hf : f∈update x.formers id [] c := hf
    rw [hformers] at hf
    by_cases hid : c=id
    · rw [if_pos hid] at hf
      cases hf
    · rw [if_neg hid] at hf
      exact h.named c f hf

theorem Kept.restorePeer (h : x.Kept) (env : Environment) (id : PeerID)
    (hsafe : ∀ f∈x.formers id, Leads x.server.db.toTables f id) :
    (⟨x.performed (.restorePeer env id),x.formers⟩ : Lineage).Kept := by
  have hrows : (∀ c, (x.performed (.restorePeer env id)).db.peers c=x.server.db.peers c) ∨
      ∀ c, (x.performed (.restorePeer env id)).db.peers c = if c=id then
        (x.server.db.peers id).map fun row => {row with softDeleted := false,banned := false}
        else x.server.db.peers c := by
    show (∀ c, ((x.server.underEnv env).restorePeer id).db.peers c=_) ∨
      ∀ c, ((x.server.underEnv env).restorePeer id).db.peers c=_
    unfold Server.restorePeer
    split
    · exact .inr fun c => update_apply ..
    · exact .inl fun c => rfl
  have hhistory : (x.performed (.restorePeer env id)).db.renames=x.server.db.renames := by
    show ((x.server.underEnv env).restorePeer id).db.renames=_
    unfold Server.restorePeer
    split <;> rfl
  refine ⟨?_,fun c hc => ?_,h.named⟩
  · rintro c ⟨row,hrow,hlive⟩ f hf
    have hleads : Leads x.server.db.toTables f c := by
      by_cases hid : c=id
      · exact hid ▸ hsafe f (hid ▸ hf)
      · refine h.leads c ⟨row,?_,hlive⟩ f hf
        rcases hrows with hrows | hrows
        · exact (hrows c).symm.trans hrow
        · exact ((hrows c).trans (if_neg hid)).symm.trans hrow
    refine ⟨?_,?_⟩
    · rcases hrows with hrows | hrows
      · exact (hrows f).trans hleads.1
      · refine (hrows f).trans ?_
        by_cases hid : f=id
        · rw [if_pos hid,← hid,hleads.1]
          rfl
        · rw [if_neg hid]
          exact hleads.1
    · show ((x.performed (.restorePeer env id)).db.renames.find? _).map Prod.snd=_
      rw [hhistory]
      exact hleads.2
  · refine h.unrowed c ?_
    rcases hrows with hrows | hrows
    · exact (hrows c).symm.trans hc
    · have hc : (x.performed (.restorePeer env id)).db.peers c=none := hc
      rw [hrows] at hc
      by_cases hid : c=id
      · rw [if_pos hid] at hc
        rw [hid]
        simpa using hc
      · rwa [if_neg hid] at hc

theorem Kept.step (h : x.Kept) (hsafe : x.Safe a) (hstep : x.step a=some y) : y.Kept := by
  cases hstep
  cases a with
  | message env a =>
    show Kept ⟨x.server.perform env a,match x.server.renames env a with | some (old,new) => _ | none => x.formers⟩
    cases hren : x.server.renames env a with
    | none => exact h.message env a hren
    | some change =>
      obtain ⟨old,new⟩:=change
      obtain ⟨hfirst,hunused⟩:=hsafe.1 old new hren
      exact h.changes ((Server.perform_history a).2 old new hren) hfirst hunused
  | changePeerID env old new =>
    obtain ⟨hrefused,haccepted⟩:=(x.server.underEnv env).panelChangePeerID_db old new
    have hren : x.renamed (.changePeerID env old new) =
        if ((x.server.underEnv env).panelChangePeerID old new).1 then some (old,new) else none := rfl
    cases hok : ((x.server.underEnv env).panelChangePeerID old new).1 with
    | false =>
      rw [hok] at hren
      show Kept ⟨((x.server.underEnv env).panelChangePeerID old new).2,match x.renamed (.changePeerID env old new) with
        | some (old,new) => _ | none => x.formers⟩
      rw [hren]
      have hdb:=hrefused hok
      refine h.same (fun c row hrow hlive => .inl ⟨row,?_,hlive⟩) (fun c hc => ?_) (fun c hliving f hf => ?_) ?_
      · rw [hdb] at hrow
        exact hrow
      · rw [hdb] at hc
        exact hc
      · rw [hdb]
        exact (h.leads c hliving f hf).1
      · rw [hdb]
        rfl
    | true =>
      rw [hok] at hren
      show Kept ⟨((x.server.underEnv env).panelChangePeerID old new).2,match x.renamed (.changePeerID env old new) with
        | some (old,new) => _ | none => x.formers⟩
      rw [hren]
      obtain ⟨hfirst,hunused⟩:=hsafe.1 old new hren
      exact h.changes (haccepted hok) hfirst hunused
  | deletePeer id => exact h.deletePeer id
  | hardDeletePeer id => exact h.hardDeletePeer id hsafe.2
  | restorePeer env id => exact h.restorePeer env id hsafe.2

theorem genuine_iff {row : Row} {host : IP} {uuid pk : Bytes} (h : Tells row host uuid pk) :
    Server.renamedPeerIdentityMatches row host uuid pk=true ↔ Genuine row uuid pk := by
  have hip : ¬ (pk=[] ∧ uuid=[] ∧ row.ip.any (Server.peerIPMatches host)=true) := by
    rintro ⟨rfl,rfl,hany⟩
    obtain ⟨ip,hrow,hmatch⟩:=(Option.any_eq_true ..).mp hany
    rcases h with h | h | h
    · exact h rfl
    · exact h rfl
    · simp [Server.peerIPMatches,h ip hrow] at hmatch
  unfold Server.renamedPeerIdentityMatches Genuine
  simp only [Bool.or_eq_true,Bool.and_eq_true,decide_eq_true_eq,and_assoc,hip,or_false]
  refine or_congr ?_ Iff.rfl
  constructor
  · rintro ⟨hpk,-,hsame⟩
    exact ⟨hpk,hsame.symm⟩
  · rintro ⟨hpk,hsame⟩
    exact ⟨hpk,hsame ▸ hpk,hsame.symm⟩

theorem Kept.resolves (h : x.Kept) : x.Resolves Tells := by
  intro c row hrow hlive f hf host uuid pk htells
  obtain ⟨hnone,hlatest⟩:=h.leads c ⟨row,hrow,hlive⟩ f hf
  have hcf : c≠f := by
    rintro rfl
    rw [hrow] at hnone
    cases hnone
  obtain ⟨entry,hfind,hc⟩:=Option.map_eq_some_iff.mp hlatest
  have hrenamed : x.server.answering.db.isRenamedPeerID f=.ok true := by
    refine Database.ask_ok _ |>.mpr ⟨rfl,?_⟩
    show ((x.server.db.renames.any fun r => r.1=f)&&(x.server.db.peers f).isNone)=true
    rw [hnone,Bool.and_eq_true]
    exact ⟨any_eq_true.mpr ⟨entry,mem_of_find?_eq_some hfind,by simpa using List.find?_some hfind⟩,rfl⟩
  have htarget : x.server.answering.db.getLatestRenameTarget f=.ok c := by
    refine Database.ask_ok _ |>.mpr ⟨rfl,?_⟩
    show ((x.server.db.renames.find? fun r => r.1=f).map Prod.snd).getD "" = c
    rw [hlatest]
    rfl
  have hsuccessor : x.server.answering.db.getPeer c=.ok (some row) := by
    refine Database.ask_ok _ |>.mpr ⟨rfl,?_⟩
    show (x.server.db.peers c).filter (fun row => !row.softDeleted)=some row
    rw [hrow]
    simp [Option.filter,hlive]
  have hresolve : x.server.answering.resolveRegistrationPeerID f host uuid pk =
      if Server.renamedPeerIdentityMatches row host uuid pk then some c else none := by
    unfold Server.resolveRegistrationPeerID
    rw [hrenamed]
    dsimp only
    rw [htarget]
    dsimp only
    rw [if_neg (h.named c f hf),hsuccessor]
  rw [hresolve]
  by_cases hg : Genuine row uuid pk
  · rw [if_pos ((genuine_iff htells).mpr hg)]
    exact ⟨fun _ => rfl,fun hn => absurd hg hn,fun he => hcf (Option.some.inj he)⟩
  · rw [if_neg fun hm => hg ((genuine_iff htells).mp hm)]
    exact ⟨fun hm => absurd hm hg,fun _ => rfl,by simp⟩

end Lineage

open Lineage

/-- A device is renamed on the panel and then registers under the ID that it had. -/
def renamedRun : List IDAction :=
  [.changePeerID Keyed.answering "device-7" "device-8",
    .message Keyed.answering (.registerPk .tcp ⟨"device-7","",[],[1],false⟩ stranger)]

end BetterDesk.Signal
