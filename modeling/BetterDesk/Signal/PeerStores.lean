import BetterDesk.Signal.ChangePeerID

/-! # Two stores of the peers (db/sqlite.go, db/postgres.go) -/

namespace BetterDesk.Signal.ChangeID
open Db Text Relational Exec Option Function

/-- `zone` is that of the last-online time, in seconds; `fields` is the map of the request. -/
inductive PeerOp
  | upsertPeer (p : Peer) (zone : ℤ)
  | updatePeerFields (id : PeerID) (fields : String → Option String)
  | banPeer (id : PeerID) (reason : String)
  | unbanPeer (id : PeerID)
  | deletePeer (id : PeerID)
  | restorePeer (id : PeerID)
  | hardDeletePeer (id : PeerID)
  | changePeerID (oldID newID : PeerID) (reason : String)

/-- SQLite is given the clock of the time's own zone, and reads it back as UTC. -/
def formatted (dialect : Dialect) (zone : ℤ) (p : Peer) : Peer := match dialect with
  | .sqlite => {p with lastOnline := p.lastOnline.map fun t => ((t : ℤ)+zone).toNat}
  | .postgres => p

def setFields (fields : String → Option String) (row : PeerRow) : PeerRow := {row with
  note := (fields "note").getD row.note
  user := (fields "user").getD row.user
  tags := (fields "tags").getD row.tags
  deviceType := (fields "device_type").getD row.deviceType
  linkedPeerID := (fields "linked_peer_id").getD row.linkedPeerID
  displayName := (fields "display_name").getD row.displayName}

/-- `UPDATE peers SET … WHERE id = ?`. -/
def updateRow (peers : PeerTable) (id : PeerID) (f : PeerRow → PeerRow) : PeerTable :=
  Function.update peers id ((peers id).map f)

namespace Database
variable (db : Database)

/-- The ID is free again: its changes and its counter of telemetry go with the row. -/
def hardDeletePeer (id : PeerID) : Database where
  peers := Function.update db.peers id none
  rows := Function.update db.rows .serverConfig
    ((db.rows .serverConfig).filter fun row => row "key" ≠ .text ("telemetry_seq_" ++ id))
  history := db.history.filter fun h => h.1≠id ∧ h.2.1≠id

def perform (dialect : Dialect) (now : ℕ) : PeerOp → Database
  | .upsertPeer p zone => {db with peers := db.peers.upsertPeer dialect now (formatted dialect zone p)}
  | .updatePeerFields id fields =>
    {db with peers := updateRow db.peers id fun row => if row.softDeleted then row else setFields fields row}
  | .banPeer id reason => {db with peers := updateRow db.peers id fun row =>
      {row with banned := true,banReason := reason,bannedAt := some now}}
  | .unbanPeer id => {db with peers := updateRow db.peers id fun row =>
      {row with banned := false,banReason := "",bannedAt := none}}
  | .deletePeer id => {db with peers := updateRow db.peers id fun row =>
      {row with softDeleted := true,deletedAt := some now}}
  | .restorePeer id => {db with peers := updateRow db.peers id fun row =>
      {row with softDeleted := false,deletedAt := none}}
  | .hardDeletePeer id => db.hardDeletePeer id
  | .changePeerID oldID newID reason => (db.changePeerID dialect (fun _ => false) oldID newID reason).2

end Database

/-- The columns of a `db.Peer`; `guid` is not one of them. -/
def result (row : PeerRow) : PeerRow := {row with guid := ""}

def Database.getPeer (db : Database) (id : PeerID) : Option PeerRow :=
  ((db.peers id).filter fun row => !row.softDeleted).map result

def Database.listPeers (db : Database) (includeDeleted : Bool) (id : PeerID) : Option PeerRow :=
  ((db.peers id).filter fun row => includeDeleted||!row.softDeleted).map result

def Database.inboundOnly (db : Database) (id : PeerID) : Bool := (db.getPeer id).any fun row => isInboundOnlyPeer row.brief

structure Stores where
  sqlite : Database
  postgres : Database

structure Stores.Agree (s : Stores) : Prop where
  getPeer : ∀ id, s.sqlite.getPeer id=s.postgres.getPeer id
  listPeers : ∀ includeDeleted id, s.sqlite.listPeers includeDeleted id=s.postgres.listPeers includeDeleted id
  inboundOnly : ∀ id, s.sqlite.inboundOnly id=s.postgres.inboundOnly id

def Stores.perform (s : Stores) (a : ℕ × PeerOp) : Stores :=
  ⟨s.sqlite.perform .sqlite a.1 a.2,s.postgres.perform .postgres a.1 a.2⟩

def Stores.step (s : Stores) (a : ℕ × PeerOp) : Option Stores := some (s.perform a)

def Update.Fits (oldID newID : PeerID) (db : Database) : Update → Prop
  | .linkedPeer => True
  | .rows t r => ∀ key∈uniqueKeys t, (((db.rows t).map (r.rename oldID newID)).map fun row => key.map row).Nodup

structure Changeable (peers : PeerTable) (oldID newID : PeerID) : Prop where
  free : peers newID=none
  live : ∃ row, peers oldID=some row ∧ row.softDeleted=false

/-- The columns that PostgreSQL does not write would not be changed by SQLite either. -/
structure KeepsAgent (peers : PeerTable) (p : Peer) : Prop where
  deviceType : unlessEmpty p.deviceType (((peers p.id).map PeerRow.deviceType).getD "") =
    ((peers p.id).map PeerRow.deviceType).getD ""
  linkedPeerID : unlessEmpty p.linkedPeerID (((peers p.id).map PeerRow.linkedPeerID).getD "") =
    ((peers p.id).map PeerRow.linkedPeerID).getD ""
  displayName : unlessEmpty p.displayName (((peers p.id).map PeerRow.displayName).getD "") =
    ((peers p.id).map PeerRow.displayName).getD ""

def Stores.Alike (s : Stores) : ℕ × PeerOp → Prop
  | (_,.upsertPeer p zone) => KeepsAgent s.sqlite.peers p ∧ (formatted .sqlite zone p).lastOnline=p.lastOnline
  | (_,.changePeerID oldID newID _) => Changeable s.sqlite.peers oldID newID →
    (∀ u∈cascadePeerIDInTx .sqlite, u.Fits oldID newID s.sqlite) →
      ∀ u∈cascadePeerIDInTx .postgres, u.Fits oldID newID s.postgres
  | _ => True

def visible (peers : PeerTable) : PeerTable := fun id => (peers id).map result

section
variable {peers : PeerTable} {id : PeerID} {now : ℕ} {dialect : Dialect}

theorem filter_result (r : Option PeerRow) (includeDeleted : Bool) :
    (r.filter fun row => includeDeleted||!row.softDeleted).map result =
      (r.map result).filter fun row => includeDeleted||!row.softDeleted := by
  rw [filter_map]
  rfl

theorem agree_iff (s : Stores) : s.Agree ↔ visible s.sqlite.peers=visible s.postgres.peers := by
  constructor
  · intro h
    funext id
    have hall:=h.listPeers true id
    unfold Database.listPeers at hall
    rw [filter_result,filter_result] at hall
    have htrue (r : Option PeerRow) : r.filter (fun _ => true)=r := by cases r <;> rfl
    simp only [Bool.true_or,htrue] at hall
    exact hall
  · intro h
    have hlist (includeDeleted : Bool) (id : PeerID) :
        s.sqlite.listPeers includeDeleted id=s.postgres.listPeers includeDeleted id := by
      unfold Database.listPeers
      have hrow : (s.sqlite.peers id).map result=(s.postgres.peers id).map result := congrFun h id
      rw [filter_result,filter_result,hrow]
    have hget (id : PeerID) : s.sqlite.getPeer id=s.postgres.getPeer id := hlist false id
    refine ⟨hget,hlist,fun id => ?_⟩
    unfold Database.inboundOnly
    rw [hget]

theorem visible_update (r : Option PeerRow) :
    visible (Function.update peers id r)=Function.update (visible peers) id (r.map result) := by
  funext d
  unfold visible
  by_cases hd : d=id
  · subst hd
    rw [update_self,update_self]
  · rw [update_of_ne hd,update_of_ne hd]

theorem visible_updateRow {f : PeerRow → PeerRow} (hf : ∀ row, result (f row)=f (result row)) :
    visible (updateRow peers id f)=updateRow (visible peers) id f := by
  unfold updateRow
  rw [visible_update]
  congr 1
  unfold visible
  cases peers id with
  | none => rfl
  | some row => exact congrArg some (hf row)

theorem visible_upsertPeer (p : Peer) :
    visible (peers.upsertPeer dialect now p)=(visible peers).upsertPeer dialect now p := by
  unfold PeerTable.upsertPeer
  rw [visible_update]
  congr 1
  unfold visible
  cases peers p.id <;> cases dialect <;> rfl

theorem upsertPeer_alike (p : Peer) (zone : ℤ) :
    peers.upsertPeer .sqlite now (formatted .sqlite zone p)=peers.upsertPeer .postgres now p ↔
      KeepsAgent peers p ∧ (formatted .sqlite zone p).lastOnline=p.lastOnline := by
  have hinserted (column : String) : (if Dialect.sqlite=.sqlite then column else "")=unlessEmpty column "" := by
    unfold unlessEmpty
    rw [if_pos rfl]
    split
    · assumption
    · rfl
  have hkeeps : KeepsAgent peers p ↔ _ ∧ _ ∧ _ := ⟨fun h => ⟨h.1,h.2,h.3⟩,fun h => ⟨h.1,h.2.1,h.2.2⟩⟩
  rw [hkeeps]
  unfold PeerTable.upsertPeer
  have hid : (formatted .sqlite zone p).id=p.id := rfl
  rw [hid,(update_injective peers p.id).eq_iff,some.injEq]
  cases peers p.id with
  | none =>
    dsimp only
    unfold Peer.inserted
    rw [PeerRow.mk.injEq,hinserted,hinserted,hinserted]
    simp only [formatted,map_none,getD_none,true_and,and_true,reduceCtorEq,if_false]
    tauto
  | some row =>
    dsimp only
    unfold PeerRow.onConflict PeerRow.merge
    dsimp only
    rw [PeerRow.mk.injEq]
    simp only [formatted,map_some,getD_some,true_and,and_true]
    tauto

theorem keepsAgent_visible (p : Peer) : KeepsAgent (visible peers) p ↔ KeepsAgent peers p := by
  have hcolumn (f : PeerRow → String) (hf : ∀ row, f (result row)=f row) :
      ((visible peers p.id).map f).getD "" = ((peers p.id).map f).getD "" := by
    unfold visible
    cases peers p.id with
    | none => rfl
    | some row => exact hf row
  have hd:=hcolumn PeerRow.deviceType fun _ => rfl
  have hl:=hcolumn PeerRow.linkedPeerID fun _ => rfl
  have hn:=hcolumn PeerRow.displayName fun _ => rfl
  constructor
  · rintro ⟨h1,h2,h3⟩
    rw [hd] at h1
    rw [hl] at h2
    rw [hn] at h3
    exact ⟨h1,h2,h3⟩
  · rintro ⟨h1,h2,h3⟩
    constructor
    · rw [hd,h1]
    · rw [hl,h2]
    · rw [hn,h3]

theorem changeable_visible {oldID newID : PeerID} : Changeable (visible peers) oldID newID ↔ Changeable peers oldID newID := by
  constructor
  · rintro ⟨hfree,row,hrow,hlive⟩
    obtain ⟨row',hrow',rfl⟩:=map_eq_some_iff.mp hrow
    exact ⟨map_eq_none_iff.mp hfree,row',hrow',hlive⟩
  · rintro ⟨hfree,row,hrow,hlive⟩
    refine ⟨map_eq_none_iff.mpr hfree,result row,?_,hlive⟩
    unfold visible
    rw [hrow]
    rfl

end

def Update.table : Update → Option Table
  | .linkedPeer => none
  | .rows t _ => some t

section
variable {db : Database} {oldID newID : PeerID} {reason : String} {dialect : Dialect}

theorem fits_rows {t : Table} {r : Reference} : (Update.rows t r).Fits oldID newID db ↔
    ∀ key∈uniqueKeys t, (((db.rows t).map (r.rename oldID newID)).map fun row => key.map row).Nodup := Iff.rfl

theorem update_fits (u : Update) : (db.update oldID newID u).isSome ↔ u.Fits oldID newID db := by
  cases u with
  | linkedPeer => exact iff_of_true rfl trivial
  | rows t r =>
    unfold Database.update Update.Fits
    dsimp only
    split
    · rename_i h
      exact iff_of_true rfl (by simpa using h)
    · rename_i h
      exact iff_of_false Bool.noConfusion (by simpa using h)

theorem updates_fit {us : List Update} {i : ℕ} (hus : us.Pairwise fun u u' => ∀ t∈u.table,u'.table≠some t) :
    (Database.updates (fun _ => false) oldID newID db i us).isSome ↔ ∀ u∈us,u.Fits oldID newID db := by
  induction us generalizing db i with
  | nil => exact iff_of_true rfl fun _ hu => absurd hu List.not_mem_nil
  | cons u us ih =>
    rw [List.forall_mem_cons,← update_fits]
    unfold Database.updates
    rw [if_neg Bool.noConfusion]
    cases hu : db.update oldID newID u with
    | none => exact iff_of_false Bool.noConfusion fun h => Bool.noConfusion h.1
    | some db' =>
      dsimp only
      rw [ih (List.pairwise_cons.mp hus).2,isSome_some,eq_self,true_and]
      refine forall₂_congr fun u' hu' => ?_
      have hdb':=update_some hu
      cases u' with
      | linkedPeer => exact Iff.rfl
      | rows t r =>
        have hrows : db'.rows t=db.rows t := by
          rw [hdb']
          cases u with
          | linkedPeer => rfl
          | rows t' r' =>
            have hne:=(List.pairwise_cons.mp hus).1 _ hu' t' rfl
            exact update_of_ne (fun he => hne (congrArg some he)) ..
        rw [fits_rows,fits_rows,hrows]

theorem changePeerID_commits : (db.changePeerID dialect (fun _ => false) oldID newID reason).1=.ok ↔
    Changeable db.peers oldID newID ∧ ∀ u∈cascadePeerIDInTx dialect, u.Fits oldID newID db := by
  have hus : (cascadePeerIDInTx dialect).Pairwise fun u u' => ∀ t∈u.table,u'.table≠some t := by
    cases dialect <;> decide
  have hfits (peers : PeerTable) : (Database.updates (fun _ => false) oldID newID {db with peers := peers} 0
      (cascadePeerIDInTx dialect)).isSome ↔ ∀ u∈cascadePeerIDInTx dialect, u.Fits oldID newID db := by
    rw [updates_fit hus]
    refine forall₂_congr fun u _ => ?_
    cases u <;> exact Iff.rfl
  have hcommits {row : PeerRow} (hfree : db.peers newID=none) (hrow : db.peers oldID=some row)
      (hlive : row.softDeleted=false) : (db.changePeerID dialect (fun _ => false) oldID newID reason).1=.ok ↔
        ∀ u∈cascadePeerIDInTx dialect, u.Fits oldID newID db := by
    rw [← hfits (Function.update (Function.update db.peers newID (some (copied row))) oldID none)]
    unfold Database.changePeerID Database.transaction
    simp only [hfree,hrow,filter_some,hlive,Bool.or_self,Bool.false_eq_true,if_false,Bool.not_false,if_true]
    cases Database.updates _ oldID newID _ 0 _ with
    | none => exact iff_of_false Result.noConfusion Bool.noConfusion
    | some db' => exact iff_of_true rfl rfl
  constructor
  · intro h
    have hc:=changePeerID_ok h
    obtain ⟨row,hrow,hlive,-⟩:=hc.moved
    exact ⟨⟨hc.free,row,hrow,hlive⟩,(hcommits hc.free hrow hlive).mp h⟩
  · rintro ⟨⟨hfree,row,hrow,hlive⟩,hall⟩
    exact (hcommits hfree hrow hlive).mpr hall

def moved (oldID newID : PeerID) (peers : PeerTable) : PeerTable := fun id =>
  if id=oldID then none
  else if id=newID then (peers oldID).map fun row => relink oldID newID (copied row)
  else (peers id).map (relink oldID newID)

theorem visible_moved {db' : Database} (h : Committed dialect oldID newID reason db db') :
    visible db'.peers=moved oldID newID (visible db.peers) := by
  obtain ⟨row,hrow,-,hpeers⟩:=h.moved
  funext id
  unfold visible moved
  dsimp only
  rw [hpeers]
  split
  · rfl
  · split
    · rw [hrow]
      rfl
    · cases db.peers id <;> rfl

end

def panelTables : List Table := [.deviceFolderAssignments,.deviceGroupMembers,.peerSysinfo]

structure Stores.Twins (s : Stores) : Prop where
  peers : visible s.sqlite.peers=visible s.postgres.peers
  rows : ∀ t∉panelTables, s.sqlite.rows t=s.postgres.rows t

section
variable {s : Stores} {a : ℕ × PeerOp} {oldID newID : PeerID}

theorem cascaded_alike {t : Table} (ht : t∉panelTables) : cascaded .sqlite t=cascaded .postgres t := by
  have hall : ∀ t : Table, t∈panelTables ∨ cascaded .sqlite t=cascaded .postgres t := by
    intro t
    cases t <;> decide
  exact (hall t).resolve_left ht

theorem Stores.Twins.fits (h : s.Twins) (hfits : ∀ u∈cascadePeerIDInTx .postgres, u.Fits oldID newID s.postgres) :
    ∀ u∈cascadePeerIDInTx .sqlite, u.Fits oldID newID s.sqlite := by
  have hsub : ∀ u∈cascadePeerIDInTx .sqlite, u∈cascadePeerIDInTx .postgres ∧ ∀ t∈u.table,t∉panelTables := by
    decide
  intro u hu
  obtain ⟨hmem,htable⟩:=hsub u hu
  have hu':=hfits u hmem
  cases u with
  | linkedPeer => trivial
  | rows t r =>
    rw [fits_rows] at hu' ⊢
    rw [h.rows t (htable t rfl)]
    exact hu'

theorem Stores.Twins.changeable (h : s.Twins) :
    Changeable s.sqlite.peers oldID newID ↔ Changeable s.postgres.peers oldID newID := by
  rw [← changeable_visible,h.peers,changeable_visible]

theorem Stores.Twins.perform (h : s.Twins) (ha : s.Alike a) : (s.perform a).Twins := by
  obtain ⟨now,op⟩:=a
  have hrow (id : PeerID) {f : PeerRow → PeerRow} (hf : ∀ row, result (f row)=f (result row)) :
      visible (updateRow s.sqlite.peers id f)=visible (updateRow s.postgres.peers id f) := by
    rw [visible_updateRow hf,visible_updateRow hf,h.peers]
  cases op with
  | upsertPeer p zone =>
    refine ⟨?_,h.rows⟩
    show visible (PeerTable.upsertPeer _ _ _ (formatted .sqlite zone p))=visible (PeerTable.upsertPeer _ _ _ p)
    rw [visible_upsertPeer,visible_upsertPeer,← h.peers]
    exact (upsertPeer_alike p zone).mpr ⟨(keepsAgent_visible p).mpr ha.1,ha.2⟩
  | updatePeerFields id fields =>
    refine ⟨hrow id fun row => ?_,h.rows⟩
    have hdeleted : (result row).softDeleted=row.softDeleted := rfl
    rw [hdeleted]
    split <;> rfl
  | banPeer id | unbanPeer id | deletePeer id | restorePeer id => exact ⟨hrow id fun _ => rfl,h.rows⟩
  | hardDeletePeer id =>
    refine ⟨?_,fun t ht => ?_⟩
    · show visible (Function.update _ _ _)=visible (Function.update _ _ _)
      rw [visible_update,visible_update,h.peers]
    · show Function.update s.sqlite.rows _ _ t=Function.update s.postgres.rows _ _ t
      rw [h.rows .serverConfig (by decide)]
      by_cases hconfig : t=.serverConfig
      · rw [hconfig,update_self,update_self]
      · rw [update_of_ne hconfig,update_of_ne hconfig]
        exact h.rows t ht
  | changePeerID oldID newID reason =>
    by_cases hcommit : (s.sqlite.changePeerID .sqlite (fun _ => false) oldID newID reason).1=.ok
    · obtain ⟨hchange,hfits⟩:=changePeerID_commits.mp hcommit
      have hcommit' : (s.postgres.changePeerID .postgres (fun _ => false) oldID newID reason).1=.ok :=
        changePeerID_commits.mpr ⟨h.changeable.mp hchange,ha hchange hfits⟩
      have hc:=changePeerID_ok hcommit
      have hc':=changePeerID_ok hcommit'
      refine ⟨?_,fun t ht => ?_⟩
      · exact (visible_moved hc).trans (h.peers ▸ (visible_moved hc').symm)
      · refine (hc.rows t).trans ?_
        rw [h.rows t ht,cascaded_alike ht]
        exact (hc'.rows t).symm
    · have hrefused : ¬ (s.postgres.changePeerID .postgres (fun _ => false) oldID newID reason).1=.ok := by
        intro hcommit'
        obtain ⟨hchange,hfits⟩:=changePeerID_commits.mp hcommit'
        exact hcommit (changePeerID_commits.mpr ⟨h.changeable.mpr hchange,h.fits hfits⟩)
      have hsame:=changePeerID_refused hcommit
      have hsame':=changePeerID_refused hrefused
      refine ⟨?_,fun t ht => ?_⟩
      · show visible (Database.changePeerID _ _ _ _ _ _).2.peers=visible (Database.changePeerID _ _ _ _ _ _).2.peers
        rw [hsame,hsame']
        exact h.peers
      · show (Database.changePeerID _ _ _ _ _ _).2.rows t=(Database.changePeerID _ _ _ _ _ _).2.rows t
        rw [hsame,hsame']
        exact h.rows t ht

theorem Stores.Twins.alike (h : s.Twins) (hagree : (s.perform a).Agree) : s.Alike a := by
  rw [agree_iff] at hagree
  obtain ⟨now,op⟩:=a
  cases op with
  | upsertPeer p zone =>
    have hpeers : visible (s.sqlite.peers.upsertPeer .sqlite now (formatted .sqlite zone p)) =
        visible (s.postgres.peers.upsertPeer .postgres now p) := hagree
    rw [visible_upsertPeer,visible_upsertPeer,← h.peers] at hpeers
    obtain ⟨hkeeps,hzone⟩:=(upsertPeer_alike p zone).mp hpeers
    exact ⟨(keepsAgent_visible p).mp hkeeps,hzone⟩
  | changePeerID oldID newID reason =>
    intro hchange hfits
    by_contra hnot
    have hcommit : (s.sqlite.changePeerID .sqlite (fun _ => false) oldID newID reason).1=.ok :=
      changePeerID_commits.mpr ⟨hchange,hfits⟩
    have hrefused : ¬ (s.postgres.changePeerID .postgres (fun _ => false) oldID newID reason).1=.ok :=
      fun hcommit' => hnot (changePeerID_commits.mp hcommit').2
    -- the old row is gone in one store and not in the other
    have hpeers : visible (s.sqlite.changePeerID .sqlite (fun _ => false) oldID newID reason).2.peers oldID =
        visible (s.postgres.changePeerID .postgres (fun _ => false) oldID newID reason).2.peers oldID := congrFun hagree oldID
    rw [changePeerID_refused hrefused,visible_moved (changePeerID_ok hcommit),← h.peers] at hpeers
    have hgone : moved oldID newID (visible s.sqlite.peers) oldID=none := if_pos rfl
    obtain ⟨row,hrow,-⟩:=(changeable_visible.mpr hchange).live
    rw [hgone,hrow] at hpeers
    cases hpeers
  | _ => trivial

end

/-- The two stores give the same answers after every operation of a sequence, just when
PostgreSQL has none of the agent columns to write, the last-online times are in UTC, and no
row of the panel's tables stands in the way of a change of ID. -/
theorem stores_agree_iff (s : Stores) (h : s.Twins) (ops : List (ℕ × PeerOp)) :
    (∀ pre, pre <+: ops → ∀ t, exec Stores.step s pre=some t → t.Agree) ↔ Along Stores.step Stores.Alike s ops := by
  rw [along_reached_iff ((agree_iff s).mpr h.peers)]
  refine along_iff_of_keep Stores.Twins (fun s a t hs hok hst => ?_) (fun s a hs => ?_) h
  · have hagree:=hok t hst
    cases hst
    exact hs.perform (hs.alike hagree)
  · constructor
    · intro hok
      exact hs.alike (hok _ rfl)
    · intro ha t hst
      cases hst
      exact (agree_iff _).mpr (hs.perform ha).peers

def Stores.empty : Stores := ⟨⟨fun _ => none,fun _ => [],[]⟩,⟨fun _ => none,fun _ => [],[]⟩⟩

def agent : Peer where
  id := "BD1"
  uuid := []
  pk := none
  ip := none
  user := ""
  hostname := "laptop"
  os := "linux"
  version := "1.0"
  status := "ONLINE"
  natType := 0
  lastOnline := none
  disabled := false
  note := ""
  tags := ""
  heartbeatSeq := 0
  deviceType := "os_agent"
  linkedPeerID := ""
  displayName := ""

/-- PostgreSQL does not know what kind of device it stored. -/
theorem agent_inbound_only : let s:=Stores.empty.perform (0,.upsertPeer agent 0)
    s.sqlite.inboundOnly "BD1" = true ∧ s.postgres.inboundOnly "BD1" = false := by
  decide +kernel

theorem Stores.empty_twins : Stores.empty.Twins := ⟨rfl,fun _ _ => rfl⟩

/-- A device is banned, and deleted with its ban. -/
theorem banned_alike :
    let ops : List (ℕ × PeerOp) := [(1,.upsertPeer {agent with deviceType := ""} 0),(2,.banPeer "BD1" "lost"),(3,.deletePeer "BD1")]
    (∀ pre, pre <+: ops → ∀ t, exec Stores.step Stores.empty pre=some t → t.Agree) ∧
      (exec Stores.step Stores.empty ops).isSome := by
  refine ⟨(stores_agree_iff _ Stores.empty_twins _).mpr ?_,rfl⟩
  refine ⟨⟨⟨rfl,rfl,rfl⟩,rfl⟩,fun s hs => ⟨trivial,fun t _ => ⟨trivial,fun _ _ => trivial⟩⟩⟩

end BetterDesk.Signal.ChangeID
