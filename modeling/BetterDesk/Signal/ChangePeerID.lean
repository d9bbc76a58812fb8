import BetterDesk.Lib.Relational
import BetterDesk.Signal.PeerRows

/-! # The change of a device ID in the database (db/sqlite.go, db/postgres.go) -/

namespace BetterDesk.Signal.ChangeID
open Db Text Relational Option Function List

/-- The tables with a column for the ID of a device, `peers` and the history aside. -/
inductive Table
  | deviceTokens
  | peerMetrics
  | peerAvailabilityEvents
  | peerConnectionSessions
  | deviceTelemetrySnapshots
  | deviceTelemetryCommands
  | deviceConnectionPolicies
  | deviceConnectionModeCommands
  | chatMessages
  | chatGroups
  | helpRequests
  | clientSessions
  | orgDevices
  | orgPeerCredentials
  | accessPolicies
  | auditConnections
  | auditFiles
  | auditAlarms
  | billingContracts
  | billingSessions
  | serverConfig
  | deviceFolderAssignments
  | deviceGroupMembers
  | peerSysinfo
  deriving DecidableEq

def configStarts : List String :=
  ["telemetry_seq_","pending_device_","rejected_device_","enrollment_decision_","device_public_key_",
    "device_bundle_id_","device_sync_mode_","device_display_name_","device_totp_enabled_","device_totp_secret_",
    "mesh_node_id_","mesh_group_id_","mesh_last_msg_","mesh_coreinfo_","cdap_manifest_"]

def references (dialect : Dialect) : Table → List Reference
  | .deviceTokens => [.plain "peer_id"]
  | .peerMetrics => [.plain "peer_id"]
  | .peerAvailabilityEvents => [.plain "peer_id"]
  | .peerConnectionSessions => [.plain "host_id",.plain "peer_id"]
  | .deviceTelemetrySnapshots => [.plain "device_id"]
  | .deviceTelemetryCommands => [.plain "device_id"]
  | .deviceConnectionPolicies => [.plain "device_id"]
  | .deviceConnectionModeCommands => [.plain "device_id"]
  | .chatMessages => [.plain "conversation_id",.plain "from_id",.plain "to_id"]
  | .chatGroups => [.plain "created_by"]
  | .helpRequests => [.plain "device_id"]
  | .clientSessions => [.plain "client_id"]
  | .orgDevices => [.plain "device_id"]
  | .orgPeerCredentials => [.plain "peer_id"]
  | .accessPolicies => [.plain "peer_id",⟨"updated_by","device:",none⟩]
  | .auditConnections => [.plain "host_id",.plain "peer_id"]
  | .auditFiles => [.plain "host_id",.plain "peer_id"]
  | .auditAlarms => [.plain "host_id",.plain "peer_id"]
  | .billingContracts => [⟨"target_key","",some ("target_type","device")⟩]
  | .billingSessions => [.plain "device_id",.plain "operator_id"]
  | .serverConfig => configStarts.map fun start => ⟨"key",start,none⟩
  | .deviceFolderAssignments => if dialect=.postgres then [.plain "device_id"] else []
  | .deviceGroupMembers => if dialect=.postgres then [.plain "peer_id"] else []
  | .peerSysinfo => if dialect=.postgres then [.plain "peer_id"] else []

theorem references_apart (dialect : Dialect) (t : Table) : Apart (references dialect t) := by
  have hall : (references dialect t).all (fun r => (references dialect t).all fun r' =>
      (decide (r.column=r'.column → r≠r' → ¬ r.start.toList <+: r'.start.toList)) &&
        r.kind.all fun k => r'.column≠k.1)=true := by
    cases dialect <;> cases t <;> decide
  have hpair (r : Reference) (hr : r∈references dialect t) (r' : Reference) (hr' : r'∈references dialect t) :=
    Bool.and_eq_true_iff.mp (all_eq_true.mp (all_eq_true.mp hall r hr) r' hr')
  refine ⟨fun r hr r' hr' => of_decide_eq_true (hpair r hr r' hr').1,fun r hr k hk r' hr' => ?_⟩
  have hkind:=(hpair r hr r' hr').2
  rw [mem_def.mp hk] at hkind
  simpa using hkind

inductive Update
  | linkedPeer
  | rows (t : Table) (r : Reference)
  deriving DecidableEq

/-- The statements of `cascadePeerIDInTx`, in their order. -/
def cascadePeerIDInTx : Dialect → List Update
  | .sqlite =>
    [.rows .deviceTokens (.plain "peer_id"),.rows .orgDevices (.plain "device_id"),.linkedPeer,
      .rows .deviceTelemetrySnapshots (.plain "device_id"),.rows .deviceTelemetryCommands (.plain "device_id"),
      .rows .deviceConnectionPolicies (.plain "device_id"),.rows .deviceConnectionModeCommands (.plain "device_id"),
      .rows .serverConfig ⟨"key","telemetry_seq_",none⟩]
  | .postgres =>
    [.rows .deviceTokens (.plain "peer_id"),.rows .orgDevices (.plain "device_id"),.linkedPeer,
      .rows .deviceFolderAssignments (.plain "device_id"),.rows .deviceGroupMembers (.plain "peer_id"),
      .rows .deviceTelemetrySnapshots (.plain "device_id"),.rows .deviceTelemetryCommands (.plain "device_id"),
      .rows .deviceConnectionPolicies (.plain "device_id"),.rows .deviceConnectionModeCommands (.plain "device_id"),
      .rows .serverConfig ⟨"key","telemetry_seq_",none⟩]

def uniqueKeys : Table → List (List Column)
  | .deviceTelemetrySnapshots => [["device_id","kind"]]
  | .deviceConnectionPolicies => [["device_id"]]
  | .orgDevices => [["org_id","device_id"]]
  | .serverConfig => [["key"]]
  | .deviceFolderAssignments => [["device_id"]]
  | .deviceGroupMembers => [["device_group_id","peer_id"]]
  | _ => []

/-- `history` has the newest change first. -/
structure Database where
  peers : PeerTable
  rows : Table → List Relational.Row
  history : List (PeerID × PeerID × String)

inductive Statement
  | begin
  | lookup
  | insert
  | delete
  | cascade (i : ℕ)
  | history
  | commit

/-- `softDeleted` and `exists` are about the new ID. -/
inductive Result
  | ok
  | softDeleted
  | exists
  | notFound
  | failed
  deriving DecidableEq

def relink (oldID newID : PeerID) (row : PeerRow) : PeerRow :=
  {row with linkedPeerID := if row.linkedPeerID=oldID then newID else row.linkedPeerID}

/-- The columns that the statement names; a new row has the default of the others. -/
def copied (row : PeerRow) : PeerRow := {row with guid := ""}

namespace Database
variable (db : Database)

def update (oldID newID : PeerID) : Update → Option Database
  | .linkedPeer => some {db with peers := fun id => (db.peers id).map (relink oldID newID)}
  | .rows t r =>
    let rows:=(db.rows t).map (r.rename oldID newID)
    if (uniqueKeys t).all fun key => (rows.map fun row => key.map row).Nodup then
      some {db with rows := Function.update db.rows t rows}
    else none

def updates (fails : Statement → Bool) (oldID newID : PeerID) (db : Database) : ℕ → List Update → Option Database
  | _, [] => some db
  | i, u::us =>
    if fails (.cascade i) then none
    else match db.update oldID newID u with
      | none => none
      | some db => updates fails oldID newID db (i+1) us

def transaction (dialect : Dialect) (fails : Statement → Bool) (oldID newID : PeerID) (reason : String) :
    Except Result Database := if fails .begin||fails .lookup then .error .failed
  else match db.peers newID with
    | some row => .error (if row.softDeleted then .softDeleted else .exists)
    | none =>
      if fails .insert then .error .failed
      else match (db.peers oldID).filter fun row => !row.softDeleted with
        | none => .error .notFound
        | some row =>
          if fails .delete then .error .failed
          else
            let copy:=Function.update db.peers newID (some (copied row))
            match updates fails oldID newID {db with peers := Function.update copy oldID none} 0
              (cascadePeerIDInTx dialect) with
            | none => .error .failed
            | some db =>
              if fails .history||fails .commit then .error .failed
              else .ok {db with history := (oldID,newID,reason)::db.history}

def changePeerID (dialect : Dialect) (fails : Statement → Bool) (oldID newID : PeerID) (reason : String) :
    Result × Database := match db.transaction dialect fails oldID newID reason with
  | .ok db => (.ok,db)
  | .error e => (e,db)

end Database

def Update.applied (oldID newID : PeerID) (db : Database) : Update → Database
  | .linkedPeer => {db with peers := fun id => (db.peers id).map (relink oldID newID)}
  | .rows t r => {db with rows := Function.update db.rows t ((db.rows t).map (r.rename oldID newID))}

section
variable {dialect : Dialect} {fails : Statement → Bool} {oldID newID : PeerID} {reason : String} {db db' : Database}

theorem update_some {u : Update} (h : db.update oldID newID u=some db') : db'=u.applied oldID newID db := by
  cases u with
  | linkedPeer =>
    cases h
    rfl
  | rows t r =>
    unfold Database.update at h
    dsimp only at h
    split at h
    · cases h
      rfl
    · cases h

theorem updates_some {us : List Update} {i : ℕ} (h : Database.updates fails oldID newID db i us=some db') :
    db'=us.foldl (fun db u => u.applied oldID newID db) db := by
  induction us generalizing db i with
  | nil => exact (Option.some.inj h).symm
  | cons u us ih =>
    unfold Database.updates at h
    split at h
    · cases h
    · split at h
      · cases h
      · rename_i db₁ hu
        rw [ih h,update_some hu]
        rfl

def cascaded (dialect : Dialect) (t : Table) : Option Reference :=
  (cascadePeerIDInTx dialect).findSome? fun u => match u with
    | .rows t' r => if t'=t then some r else none
    | .linkedPeer => none

theorem cascade_rows (dialect : Dialect) (db : Database) (t : Table) :
    ((cascadePeerIDInTx dialect).foldl (fun db u => u.applied oldID newID db) db).rows t =
      (db.rows t).map (renameOne (cascaded dialect t) oldID newID) := by
  cases dialect <;> cases t <;> first | rfl | exact (map_id _).symm

theorem cascade_peers (dialect : Dialect) (db : Database) (id : PeerID) :
    ((cascadePeerIDInTx dialect).foldl (fun db u => u.applied oldID newID db) db).peers id =
      (db.peers id).map (relink oldID newID) := by
  cases dialect <;> rfl

theorem cascade_history (dialect : Dialect) (db : Database) :
    ((cascadePeerIDInTx dialect).foldl (fun db u => u.applied oldID newID db) db).history=db.history := by
  cases dialect <;> rfl

theorem cascaded_mem (dialect : Dialect) (t : Table) : ∀ r∈cascaded dialect t, r∈references dialect t := by
  have hall : (cascaded dialect t).all (fun r => decide (r∈references dialect t))=true := by
    cases dialect <;> cases t <;> decide
  intro r hr
  rw [mem_def.mp hr] at hall
  simpa using hall

structure Committed (dialect : Dialect) (oldID newID : PeerID) (reason : String) (db db' : Database) : Prop where
  free : db.peers newID=none
  moved : ∃ row, db.peers oldID=some row ∧ row.softDeleted=false ∧ ∀ id, db'.peers id =
    if id=oldID then none
    else if id=newID then some (relink oldID newID (copied row))
    else (db.peers id).map (relink oldID newID)
  rows : ∀ t, db'.rows t=(db.rows t).map (renameOne (cascaded dialect t) oldID newID)
  history : db'.history=(oldID,newID,reason)::db.history

theorem transaction_ok (h : db.transaction dialect fails oldID newID reason=.ok db') :
    Committed dialect oldID newID reason db db' := by
  unfold Database.transaction at h
  split at h
  · cases h
  · split at h
    · cases h
    · rename_i hfree
      split at h
      · cases h
      · split at h
        · cases h
        · rename_i row hrow
          split at h
          · cases h
          · dsimp only at h
            split at h
            · cases h
            · rename_i db₁ hupdates
              split at h
              · cases h
              · cases h
                have hdb:=updates_some hupdates
                obtain ⟨hrow,hlive⟩:=filter_eq_some_iff.mp hrow
                refine ⟨hfree,⟨row,hrow,by simpa using hlive,fun id => ?_⟩,fun t => ?_,?_⟩
                · show db₁.peers id=_
                  rw [hdb,cascade_peers]
                  show Option.map _ (Function.update (Function.update db.peers newID (some (copied row))) oldID none id)=_
                  by_cases hold : id=oldID
                  · rw [if_pos hold,hold,update_self]
                    rfl
                  · rw [if_neg hold,update_of_ne hold]
                    by_cases hnew : id=newID
                    · rw [if_pos hnew,hnew,update_self]
                      rfl
                    · rw [if_neg hnew,update_of_ne hnew]
                · show db₁.rows t=_
                  rw [hdb,cascade_rows]
                · show (oldID,newID,reason)::db₁.history=_
                  rw [hdb,cascade_history]

inductive Refused (oldID newID : PeerID) (db : Database) : Result → Prop
  | taken {row : PeerRow} (h : db.peers newID=some row) :
      Refused oldID newID db (if row.softDeleted then .softDeleted else .exists)
  | missing (hfree : db.peers newID=none) (h : (db.peers oldID).filter (fun row => !row.softDeleted)=none) :
      Refused oldID newID db .notFound

theorem transaction_error {e : Result} (h : db.transaction dialect fails oldID newID reason=.error e) :
    e=.failed ∨ Refused oldID newID db e := by
  unfold Database.transaction at h
  split at h
  · exact .inl (Except.error.inj h).symm
  · split at h
    · rename_i row hrow
      cases h
      exact .inr (.taken hrow)
    · rename_i hfree
      split at h
      · exact .inl (Except.error.inj h).symm
      · split at h
        · rename_i hrow
          cases h
          exact .inr (.missing hfree hrow)
        · split at h
          · exact .inl (Except.error.inj h).symm
          · dsimp only at h
            split at h
            · exact .inl (Except.error.inj h).symm
            · split at h
              · exact .inl (Except.error.inj h).symm
              · cases h

theorem Refused.ne_ok {e : Result} (h : Refused oldID newID db e) : e ≠ .ok := by
  cases h with
  | taken h => split <;> exact Result.noConfusion
  | missing hfree h => exact Result.noConfusion

theorem changePeerID_ok (h : (db.changePeerID dialect fails oldID newID reason).1=.ok) :
    Committed dialect oldID newID reason db (db.changePeerID dialect fails oldID newID reason).2 := by
  unfold Database.changePeerID at h ⊢
  cases ht : db.transaction dialect fails oldID newID reason with
  | error e =>
    rw [ht] at h
    rcases transaction_error ht with he | he
    · exact absurd (he.symm.trans h) Result.noConfusion
    · exact absurd h he.ne_ok
  | ok db' => exact transaction_ok ht

theorem changePeerID_refused (h : (db.changePeerID dialect fails oldID newID reason).1 ≠ .ok) :
    (db.changePeerID dialect fails oldID newID reason).2=db := by
  unfold Database.changePeerID at h ⊢
  split
  · rename_i db' ht
    rw [ht] at h
    exact absurd rfl h
  · rfl

theorem changePeerID_mirrors {seen : Signal.Database} (hm : Mirrors db.peers seen)
    (hf : seen.fails (.changePeerID oldID newID) =
      decide ((db.changePeerID dialect fails oldID newID reason).1=.failed)) :
    Mirrors (db.changePeerID dialect fails oldID newID reason).2.peers (seen.changePeerID oldID newID).2 ∧
      ((seen.changePeerID oldID newID).1=.ok ↔ (db.changePeerID dialect fails oldID newID reason).1=.ok) := by
  have hfilter : (seen.peers oldID).filter (fun row => !row.softDeleted) =
      ((db.peers oldID).filter fun row => !row.softDeleted).map PeerRow.brief := by
    rw [hm,Option.filter_map]
    rfl
  unfold Database.changePeerID at hf ⊢
  unfold Signal.Database.changePeerID
  cases ht : db.transaction dialect fails oldID newID reason with
  | error e =>
    rw [ht] at hf
    rcases transaction_error ht with rfl | he
    · rw [if_pos (by simpa using hf)]
      exact ⟨hm,by simp⟩
    · have hnot : e ≠ .failed := by
        cases he with
        | taken h => split <;> exact Result.noConfusion
        | missing hfree h => exact Result.noConfusion
      rw [if_neg (by simpa [hnot] using hf)]
      cases he with
      | taken h =>
        have htaken : (seen.peers newID).isSome=true := by
          rw [hm,h]
          rfl
        rw [if_pos htaken]
        refine ⟨hm,iff_of_false Signal.Result.noConfusion ?_⟩
        dsimp only
        split <;> exact Result.noConfusion
      | missing hfree h =>
        rw [if_neg (by rw [hm,hfree]; exact Bool.noConfusion),hfilter,h]
        exact ⟨hm,iff_of_false Signal.Result.noConfusion Result.noConfusion⟩
  | ok db' =>
    rw [ht] at hf
    have hc:=transaction_ok ht
    obtain ⟨row,hrow,hlive,hpeers⟩:=hc.moved
    rw [if_neg (by simpa using hf),if_neg (by rw [hm,hc.free]; exact Bool.noConfusion),hfilter,hrow,
      filter_some,hlive]
    refine ⟨fun id => ?_,by simp⟩
    show Function.update (Function.update seen.peers newID (some row.brief)) oldID none id=_
    rw [hpeers]
    by_cases hold : id=oldID
    · rw [if_pos hold,hold,update_self]
      rfl
    · rw [if_neg hold,update_of_ne hold]
      by_cases hnew : id=newID
      · rw [if_pos hnew,hnew,update_self]
        rfl
      · rw [if_neg hnew,update_of_ne hnew,hm,Option.map_map]
        rfl

end

structure Renamed (dialect : Dialect) (oldID newID : PeerID) (reason : String) (db db' : Database) : Prop where
  peers : ∀ id, db'.peers id =
    if id=oldID then none
    else if id=newID then (db.peers oldID).map (relink oldID newID)
    else (db.peers id).map (relink oldID newID)
  rows : ∀ t, db'.rows t=(db.rows t).map (renameAll (references dialect t) oldID newID)
  history : db'.history=(oldID,newID,reason)::db.history

structure NothingLeft (dialect : Dialect) (oldID : PeerID) (db' : Database) : Prop where
  peer : db'.peers oldID=none
  links : ∀ id row, db'.peers id=some row → row.linkedPeerID≠oldID
  rows : ∀ t, ∀ row∈db'.rows t, ∀ r∈references dialect t, ¬ r.Names oldID row

/-- The device has no GUID, and no column that the cascade leaves out has its ID. -/
def Unreferenced (dialect : Dialect) (oldID : PeerID) (db : Database) : Prop :=
  (∀ row, db.peers oldID=some row → row.guid="") ∧
    ∀ t, ∀ r∈references dialect t, some r≠cascaded dialect t → ∀ row∈db.rows t, ¬ r.Names oldID row

section
variable {dialect : Dialect} {oldID newID : PeerID} {reason : String} {db db' : Database}

theorem Committed.ids_differ (h : Committed dialect oldID newID reason db db') : oldID≠newID := by
  rintro rfl
  obtain ⟨row,hrow,-⟩:=h.moved
  rw [h.free] at hrow
  cases hrow

theorem Committed.renamed_iff (h : Committed dialect oldID newID reason db db') :
    Renamed dialect oldID newID reason db db' ↔ Unreferenced dialect oldID db := by
  have hne:=h.ids_differ
  obtain ⟨row,hrow,-,hpeers⟩:=h.moved
  have hrows (t : Table) : db'.rows t=(db.rows t).map (renameAll (references dialect t) oldID newID) ↔
      ∀ row∈db.rows t, ∀ r∈references dialect t, some r≠cascaded dialect t → ¬ r.Names oldID row := by
    rw [h.rows,map_inj_left]
    exact forall₂_congr fun row _ => renameOne_eq_renameAll_iff (references_apart dialect t) hne (cascaded_mem dialect t)
  constructor
  · intro hr
    refine ⟨fun row' hrow' => ?_,fun t r hr' hother row hmem => (hrows t).mp (hr.rows t) row hmem r hr' hother⟩
    have hnew:=(hpeers newID).symm.trans (hr.peers newID)
    rw [if_neg hne.symm,if_pos rfl,if_neg hne.symm,if_pos rfl,hrow'] at hnew
    rw [hrow] at hrow'
    cases hrow'
    exact (congrArg PeerRow.guid (Option.some.inj hnew)).symm
  · rintro ⟨hguid,hnames⟩
    refine ⟨fun id => ?_,fun t => (hrows t).mpr fun row hmem r hr hother => hnames t r hr hother row hmem,h.history⟩
    rw [hpeers,hrow]
    have hcopied : copied row=row := by
      unfold copied
      rw [← hguid row hrow]
    rw [hcopied]
    rfl

theorem Renamed.nothingLeft (h : Renamed dialect oldID newID reason db db') (hne : oldID≠newID) :
    NothingLeft dialect oldID db' := by
  have hlink (row : PeerRow) : (relink oldID newID row).linkedPeerID≠oldID := by
    unfold relink
    dsimp only
    split
    · exact hne.symm
    · assumption
  refine ⟨?_,fun id row hrow => ?_,fun t row hrow r hr => ?_⟩
  · rw [h.peers,if_pos rfl]
  · rw [h.peers] at hrow
    split at hrow
    · cases hrow
    · split at hrow
      · obtain ⟨row',-,rfl⟩:=map_eq_some_iff.mp hrow
        exact hlink row'
      · obtain ⟨row',-,rfl⟩:=map_eq_some_iff.mp hrow
        exact hlink row'
  · rw [h.rows] at hrow
    obtain ⟨row',-,rfl⟩:=mem_map.mp hrow
    exact not_names_renameAll (references_apart dialect t) hne hr

end

/-- The access policy of `device-7`. -/
def policyRow : Relational.Row := Function.update (fun _ => .null) "peer_id" (.text "device-7")

def guardedDevice : Database where
  peers := Function.update (fun _ => none) "device-7" (some
    { uuid := [1],pk := none,ip := none,user := "",hostname := "",os := "",version := "",status := "OFFLINE"
      natType := 0,lastOnline := none,createdAt := none,disabled := false,banned := false,banReason := ""
      bannedAt := none,softDeleted := false,deletedAt := none,note := "",tags := "",heartbeatSeq := 0
      deviceType := "rustdesk",linkedPeerID := "",displayName := "",guid := ""})
  rows := Function.update (fun _ => []) .accessPolicies [policyRow]
  history := []

def seen : Signal.Database := {Server.empty.db with peers := fun id => (guardedDevice.peers id).map PeerRow.brief}

theorem guarded_mirrored :
    Mirrors (guardedDevice.changePeerID .sqlite (fun _ => false) "device-7" "desk" "").2.peers
        (seen.changePeerID "device-7" "desk").2 ∧ ((seen.changePeerID "device-7" "desk").1=.ok ↔
        (guardedDevice.changePeerID .sqlite (fun _ => false) "device-7" "desk" "").1=.ok) :=
  changePeerID_mirrors (fun _ => rfl) rfl

end BetterDesk.Signal.ChangeID
