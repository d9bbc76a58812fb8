import BetterDesk.Signal.Frames
import BetterDesk.Lib.Exec

/-! # The public key of a device over a run (signal/handler.go, signal/ws.go) -/

namespace BetterDesk.Signal
open Db Text Exec Option Function

inductive KeyAction
  | registerPeer (id : PeerID) (raddr : Addr)
  | registerPeerWS (id : PeerID) (addr : Addr)
  | registerPk (transport : ConnType) (m : RegisterPk) (addr : Addr)
  | keepAlive (conn : Addr)
  | tick (elapsed : ℕ)
  | cleanup
  | restart

def KeyAction.isMessage : KeyAction → Bool
  | registerPeer .. | registerPeerWS .. | registerPk .. => true
  | _ => false

namespace Server
variable (s : Server)

def storedKey (id : PeerID) : Bytes := ((s.db.peers id).map Row.pk).getD []

def liveKey (id : PeerID) : Bytes := ((s.peers.get id).map Entry.pk).getD []

def underEnv (env : Environment) : Server := {s with db := {s.db with fails := env.fails}}

def perform (env : Environment) : KeyAction → Server
  | .registerPeer id raddr => ((s.underEnv env).handleRegisterPeer env id raddr).2
  | .registerPeerWS id addr => (s.underEnv env).registerPeerWS env id addr
  | .registerPk transport m addr => ((s.underEnv env).handleRegisterPk transport m addr).server
  | .keepAlive conn => {s with peers := s.peers.touchWSHeartbeat conn s.now}
  | .tick elapsed => {s with now := s.now+elapsed}
  | .cleanup => s.cleanup
  | .restart => s.restart

def renames (env : Environment) : KeyAction → Option (PeerID × PeerID)
  | .registerPk transport m addr =>
    if m.oldID≠"" ∧ ((s.underEnv env).handleRegisterPk transport m addr).result=.ok then some (m.oldID,m.id)
    else none
  | _ => none

/-- A message with a key: an ID change of a live device finds a key in its row. -/
def SafeRegistration (m : RegisterPk) (addr : Addr) : Prop := m.pk≠[] →
  (m.oldID≠"" → (s.peers.get m.oldID).isSome → s.storedKey m.oldID≠[]) ∧
    (m.oldID="" → ∀ id existing, s.resolveRegistrationPeerID m.id addr.ip m.uuid m.pk=some id →
      s.Admits id existing → (existing=none → s.storedKey id=[] ∨ s.storedKey id=m.pk) ∧
        (s.db.fails (.upsertPeer id)=true → s.storedKey id≠[]))

end Server

def follow (renamed : Option (PeerID × PeerID)) (id : PeerID) : PeerID := match renamed with
  | none => id
  | some (old,new) => if id=old then new else id

def moveRecord (renamed : Option (PeerID × PeerID)) (first : PeerID → Option Bytes) : PeerID → Option Bytes :=
  match renamed with
  | none => first
  | some (old,new) => update (update first new (first old)) old none

structure Keyed where
  server : Server
  first : PeerID → Option Bytes

namespace Keyed
variable (k : Keyed)

def record (s : Server) (id : PeerID) : Option Bytes :=
  if s.storedKey id≠[] then some (s.storedKey id)
  else if s.liveKey id≠[] then some (s.liveKey id)
  else none

def start (s : Server) : Keyed := ⟨s.restart,record s.restart⟩

def step (k : Keyed) (a : Environment × KeyAction) : Option Keyed :=
  let t:=k.server.perform a.1 a.2
  some ⟨t,fun id => (moveRecord (k.server.renames a.1 a.2) k.first id).or (record t id)⟩

/-- The step leaves the first key of every device: no other key is in the row or in the
live entry, and a message erases it neither from the row nor altogether. -/
def StepKeeps (k : Keyed) (a : Environment × KeyAction) : Prop :=
  let s:=k.server
  let t:=s.perform a.1 a.2
  ∀ id key, k.first id=some key →
    let id':=follow (s.renames a.1 a.2) id
    (t.storedKey id'=[] ∨ t.storedKey id'=key) ∧ (t.liveKey id'=[] ∨ t.liveKey id'=key) ∧
      (a.2.isMessage=true → (s.storedKey id≠[] → t.storedKey id'≠[]) ∧
        (s.liveKey id≠[] → t.storedKey id'≠[] ∨ t.liveKey id'≠[]))

def KeySafe (k : Keyed) (a : Environment × KeyAction) : Prop := match a.2 with
  | .registerPk _ m addr => (k.server.underEnv a.1).SafeRegistration m addr
  | _ => True

end Keyed

namespace Server

def KeysBacked (s : Server) : Prop := ∀ e∈s.peers,e.pk≠[] → s.storedKey e.id=e.pk

structure Steady (s t : Server) : Prop where
  stored : t.storedKey=s.storedKey
  backed : s.KeysBacked → t.KeysBacked

variable {s t u : Server}

theorem Steady.refl (s : Server) : Steady s s := ⟨rfl,id⟩

theorem storedKey_congr (h : t.db.peers=s.db.peers) : t.storedKey=s.storedKey := by
  funext id
  simp only [storedKey,h]

variable {id : PeerID} {m : RegisterPk} {e : Entry} {addr : Addr}

theorem steady_put (hdb : t.db.peers=s.db.peers) (hp : t.peers=s.peers.put e)
    (he : e.pk≠[] → s.storedKey e.id=e.pk) : Steady s t := by
  have hkey:=storedKey_congr hdb
  refine ⟨hkey,fun hb f hf hpk => ?_⟩
  rw [hkey]
  rw [hp] at hf
  rcases mem_put hf with rfl | ⟨hf,-⟩
  · exact he hpk
  · exact hb f hf hpk

theorem KeysBacked.live (h : s.KeysBacked) (hl : s.liveKey id≠[]) : s.storedKey id=s.liveKey id := by
  unfold liveKey at hl ⊢
  cases he : s.peers.get id with
  | none => simp [he] at hl
  | some e =>
    obtain ⟨hmem,rfl⟩:=mem_of_get he
    simp only [he,map_some,getD_some] at hl ⊢
    exact h e hmem hl

theorem storedKey_of_getPeer {row : Row} (h : s.db.getPeer id=.ok (some row)) : s.storedKey id=row.pk := by
  simp [storedKey,(getPeer_live h).1]

theorem Refreshes.steady (h : Refreshes s t) : Steady s t := by
  have hkey : t.storedKey=s.storedKey := by
    funext id
    obtain ⟨ip,hip⟩:=h.rows id
    unfold storedKey
    rw [hip,map_map]
    rfl
  refine ⟨hkey,fun hb e he hpk => ?_⟩
  obtain ⟨f,hf,hfe⟩:=h.entries e he
  rw [hkey,hfe.id]
  rcases hfe.pk with hsame | ⟨-,row,hrow,-,hfill⟩
  · rw [hsame] at hpk ⊢
    rcases hf with hf | hf
    · exact hb f hf hpk
    · exact absurd hf.2 hpk
  · simp [storedKey,hrow,hfill]

variable (env : Environment)

structure Recorded (s t : Server) (renamed : Option (PeerID × PeerID)) : Prop where
  rows : ∀ id, s.storedKey id≠[] → t.storedKey (follow renamed id)=s.storedKey id
  backed : t.KeysBacked

theorem Steady.recorded (h : Steady s t) (hb : s.KeysBacked) : Recorded s t none :=
  ⟨fun _ _ => by rw [h.stored]; rfl,h.backed hb⟩

theorem Recorded.then_steady {r : Option (PeerID × PeerID)} (h : Recorded s t r) (h' : Steady t u) : Recorded s u r :=
  ⟨fun id hid => by rw [h'.stored]; exact h.rows id hid,h'.backed h.backed⟩

theorem storedKey_upsert (db : Database) (hs : s.db=db) (id : PeerID) (uuid pk : Bytes) (id' : PeerID) :
    ({s with db := db.upsertPeer id uuid pk}).storedKey id' =
      if id'=id ∧ db.fails (.upsertPeer id)=false ∧ pk≠[] then pk else s.storedKey id' := by
  subst hs
  unfold storedKey Database.upsertPeer
  by_cases hf : s.db.fails (.upsertPeer id)=true
  · simp [hf]
  · rw [if_neg hf]
    simp only [Bool.not_eq_true] at hf
    by_cases hid : id'=id
    · subst hid
      cases hrow : s.db.peers id' with
      | none | some =>
        by_cases hpk : pk=[]
        · simp [hpk]
        · simp [hf,hpk]
    · simp [hid]

theorem accepted_key {key : Bytes} (he : e.pk≠[] → e.pk=key)
    (hkey : key≠[] → e.pk=key ∨ m.pk=[] ∨ m.pk=key) (hm : pkMismatch e m=false) (hne : key≠[]) :
    (if m.pk≠[] then m.pk else e.pk)=[] ∨ (if m.pk≠[] then m.pk else e.pk)=key := by
  by_cases hpk : m.pk=[]
  · rw [if_neg (by simpa using hpk)]
    by_cases hepk : e.pk=[]
    · exact .inl hepk
    · exact .inr (he hepk)
  · rw [if_pos hpk]
    rcases hkey hne with hek | hmk | hmk
    · have hagree : e.pk=m.pk := by
        simpa [pkMismatch,hek,hne,hpk] using hm
      exact .inr (hagree.symm.trans hek)
    · exact absurd hmk hpk
    · exact .inr hmk

theorem claimEntry_recorded {existing : Option Row} (hb : s.KeysBacked) (had : s.Admits id existing)
    (hsafe : m.pk≠[] → (existing=none → s.storedKey id=[] ∨ s.storedKey id=m.pk) ∧
      (s.db.fails (.upsertPeer id)=true → s.storedKey id≠[])) :
    Recorded s (s.claimEntry id existing m addr).server none := by
  let fresh : Entry := ⟨id,[],[],none,none,0,.udp,none,s.now,false⟩
  let found:=(s.peers.get id).getD fresh
  have hfound : found.id=id ∧ (found.pk≠[] → found.pk=s.storedKey id) := by
    cases he : s.peers.get id with
    | none => simp [found,fresh,he]
    | some e =>
      obtain ⟨hmem,hid⟩:=mem_of_get he
      simp only [found,he,getD_some]
      exact ⟨hid,fun hpk => by rw [← hid]; exact (hb e hmem hpk).symm⟩
  have hrow {row : Row} (hr : existing=some row) : s.storedKey id=row.pk := storedKey_of_getPeer (hr ▸ had.row)
  have he : (hydrate existing found).id=id ∧ ((hydrate existing found).pk≠[] →
      (hydrate existing found).pk=s.storedKey id) ∧
        (existing≠none → s.storedKey id≠[] → (hydrate existing found).pk=s.storedKey id) := by
    cases hex : existing with
    | none => exact ⟨hfound.1,hfound.2,fun h => absurd rfl h⟩
    | some row =>
      have hkey:=hrow hex
      by_cases hc : found.pk=[] ∧ row.pk≠[]
      · have hpk : (hydrate (some row) found).pk=row.pk := by simp only [hydrate,if_pos hc]
        exact ⟨hfound.1,fun _ => hpk.trans hkey.symm,fun _ _ => hpk.trans hkey.symm⟩
      · have hpk : (hydrate (some row) found).pk=found.pk := by simp only [hydrate,if_neg hc]
        refine ⟨hfound.1,fun h => hpk.trans (hfound.2 (hpk ▸ h)),fun _ hne => hpk.trans (hfound.2 fun hnil => ?_)⟩
        exact hc ⟨hnil,hkey ▸ hne⟩
  generalize hent : hydrate existing found=e at he
  obtain ⟨hid,hek,hexist⟩:=he
  -- the entry is put into the map before the comparison
  have hput : Steady s (if s.peers.get id=some e then s else {s with peers := s.peers.put e}) := by
    split
    · exact Steady.refl s
    · exact steady_put rfl rfl fun hpk => by rw [hid]; exact (hek hpk).symm
  unfold claimEntry
  simp only [show hydrate existing ((s.peers.get id).getD ⟨id,[],[],none,none,0,.udp,none,s.now,false⟩)=e from hent]
  generalize hs₁ : (if s.peers.get id=some e then s else {s with peers := s.peers.put e})=s₁ at hput
  have hdb : s₁.db=s.db := by
    rw [← hs₁]
    split <;> rfl
  split
  · exact hput.recorded hb
  · split
    · exact hput.recorded hb
    · rename_i hmis
      simp only [Bool.not_eq_true] at hmis
      have hbacked:=hput.backed hb
      have hstored : s₁.storedKey=s.storedKey := hput.stored
      let pk := if m.pk≠[] then m.pk else e.pk
      have hkept (hne : s.storedKey id≠[]) : pk=[] ∨ pk=s.storedKey id := by
        refine accepted_key hek (fun hne => ?_) hmis hne
        by_cases hpk : m.pk=[]
        · exact .inr (.inl hpk)
        · cases hex : existing with
          | none =>
            rcases (hsafe hpk).1 hex with hnil | hsame
            · exact absurd hnil hne
            · exact .inr (.inr hsame.symm)
          | some row => exact .inl (hexist (by rw [hex]; simp) hne)
      have hnew (uuid : Bytes) (id' : PeerID) := storedKey_upsert s₁.db rfl id uuid pk id'
      refine ⟨fun id' hne => ?_,fun f hf hpk => ?_⟩
      · have hkey:=hnew (hexEncode (s₁.registered e m addr).uuid) id'
        show ({s₁ with db := s₁.db.upsertPeer id _ pk}).storedKey id'=s.storedKey id'
        rw [hkey]
        split
        · rename_i hc
          obtain ⟨rfl,-,hpk⟩:=hc
          exact (hkept hne).resolve_left hpk
        · rw [hstored]
      · have hkey:=hnew (hexEncode (s₁.registered e m addr).uuid) f.id
        show ({s₁ with db := s₁.db.upsertPeer id _ pk}).storedKey f.id=f.pk
        rw [hkey]
        rcases mem_put hf with hfe | ⟨hf,hne⟩
        · have hfid : f.id=id := by
            rw [hfe]
            exact hid
          have hfpk : f.pk=pk := by
            rw [hfe]
            rfl
          rw [hfpk] at hpk ⊢
          split
          · rfl
          · rename_i hc
            rw [hstored,hfid]
            have hfail : s₁.db.fails (.upsertPeer id)=true := by
              by_contra h
              exact hc ⟨hfid,by simpa using h,hpk⟩
            by_cases hm : m.pk=[]
            · have hpe : pk=e.pk := if_neg (by simpa using hm)
              rw [hpe] at hpk ⊢
              exact (hek hpk).symm
            · have hne:=(hsafe hm).2 (by rw [← hdb]; exact hfail)
              exact ((hkept hne).resolve_left hpk).symm
        · have hne : f.id≠id := fun h => hne (h.trans hid.symm)
          rw [if_neg fun h => hne h.1]
          exact hbacked f hf hpk

theorem processIDChange_recorded (hb : s.KeysBacked)
    (hsafe : m.pk≠[] → (s.peers.get m.oldID).isSome → s.storedKey m.oldID≠[]) :
    Recorded s (s.processIDChange m).server
      (if (s.processIDChange m).result=.ok then some (m.oldID,m.id) else none) := by
  have hsame : Recorded s s none := (Steady.refl s).recorded hb
  generalize ho : s.processIDChange m=o
  unfold processIDChange at ho
  split at ho
  · cases ho
    exact hsame
  · split at ho
    · cases ho
      exact hsame
    · cases ho
      exact hsame
    · rename_i old hold
      split at ho
      · rename_i r hr
        cases ho
        simp only [if_neg (idChangeAllowed_error hr)]
        exact hsame
      · rename_i hallowed
        split at ho
        · cases ho
          exact hsame
        · rename_i hfree
          split at ho
          · cases ho
            exact hsame
          · rename_i hmissing
            have hnew:=getPeerIDState_missing hmissing
            have hrow:=(filter_eq_some_iff.mp (s.db.ask_ok.mp hold).2)
            have hdiff : m.oldID≠m.id := by
              intro h
              rw [h,hnew] at hrow
              cases hrow.1
            have hkey : s.storedKey m.oldID=old.pk := storedKey_of_getPeer hold
            split at ho
            · rename_i db hdb
              have htables : db.peers=update (update s.db.peers m.id (some old)) m.oldID none := by
                unfold Database.changePeerID at hdb
                split at hdb
                · cases hdb
                · rw [hnew] at hdb
                  simp only [isSome_none,Bool.false_eq_true,if_false] at hdb
                  rw [(s.db.ask_ok.mp hold).2] at hdb
                  cases hdb
                  rfl
              have hmoved (id : PeerID) : ((db.peers id).map Row.pk).getD [] =
                  if id=m.oldID then [] else if id=m.id then old.pk else s.storedKey id := by
                rw [htables]
                by_cases ho : id=m.oldID
                · simp [ho]
                · by_cases hn : id=m.id
                  · simp [hn,Ne.symm hdiff]
                  · simp [ho,hn,storedKey]
              have hrows (id : PeerID) (hid : s.storedKey id≠[]) :
                  ((db.peers (follow (some (m.oldID,m.id)) id)).map Row.pk).getD []=s.storedKey id := by
                rw [hmoved]
                unfold follow
                by_cases ho : id=m.oldID
                · subst ho
                  simp [Ne.symm hdiff,hkey]
                · have hn : id≠m.id := by
                    rintro rfl
                    simp [storedKey,hnew] at hid
                  simp [ho,hn]
              have hothers (e : Entry) (he : e∈s.peers) (ho : e.id≠m.oldID) (hpk : e.pk≠[]) :
                  ((db.peers e.id).map Row.pk).getD []=e.pk := by
                have hn : e.id≠m.id := by
                  intro h
                  exact hfree (List.find?_isSome.mpr ⟨e,he,by simpa using h⟩)
                rw [hmoved,if_neg ho,if_neg hn]
                exact hb e he hpk
              split at ho
              · rename_i hdead
                cases ho
                refine ⟨hrows,fun e he hpk => hothers e he ?_ hpk⟩
                intro ho
                have hnone:=List.find?_eq_none.mp hdead e he
                exact hnone (by simpa using ho)
              · rename_i e he
                cases ho
                refine ⟨hrows,fun f hf hpk => ?_⟩
                rcases mem_put hf with rfl | ⟨hf,hne⟩
                · show ((db.peers m.id).map Row.pk).getD [] = if m.pk=[] then old.pk else m.pk
                  rw [hmoved,if_neg (Ne.symm hdiff),if_pos rfl]
                  by_cases hm : m.pk=[]
                  · rw [if_pos hm]
                  · rw [if_neg hm]
                    have hstored:=hsafe hm (by rw [he]; rfl)
                    rw [hkey] at hstored
                    unfold idChangeAllowed at hallowed
                    split at hallowed
                    · cases hallowed
                    · rename_i hagree
                      by_contra hd
                      exact hagree ⟨hm,hstored,hd⟩
                · obtain ⟨hf,ho⟩:=List.mem_filter.mp hf
                  exact hothers f hf (by simpa using ho) hpk
            · rename_i r db hno hdb
              cases ho
              have hne : r ≠ .ok := fun h => hno h
              simp only [if_neg hne]
              have hsamedb : db=s.db := by
                unfold Database.changePeerID at hdb
                split at hdb
                · cases hdb
                  rfl
                · split at hdb
                  · cases hdb
                    rfl
                  · split at hdb <;> cases hdb
                    · rfl
                    · exact absurd rfl hne
              rw [hsamedb]
              exact hsame
          · cases ho
            exact hsame

theorem processRegisterPk_recorded (hb : s.KeysBacked) (hsafe : s.SafeRegistration m addr) :
    Recorded s (s.processRegisterPk m addr).server
      (if m.oldID≠"" ∧ (s.processRegisterPk m addr).result=.ok then some (m.oldID,m.id) else none) := by
  have hsame : Recorded s s none := (Steady.refl s).recorded hb
  generalize ho : s.processRegisterPk m addr=o
  unfold processRegisterPk at ho
  split at ho
  · rename_i r hr
    cases ho
    have hne:=refusedRegistration_some hr
    simp only [hne,and_false,if_false]
    exact hsame
  · split at ho
    · rename_i hold
      cases ho
      simp only [hold,ne_eq,not_false_eq_true,true_and]
      exact processIDChange_recorded hb fun hpk => (hsafe hpk).1 hold
    · rename_i hold
      have hold : m.oldID="" := by simpa using hold
      simp only [hold,ne_eq,not_true_eq_false,false_and,if_false]
      split at ho
      · cases ho
        exact hsame
      · rename_i id hid
        split at ho
        · cases ho
          exact hsame
        · have hadmit:=(admitRegistration_drops (s := s) id).refreshes.steady
          split at ho
          · rename_i r t ht
            cases ho
            rw [ht] at hadmit
            exact hadmit.recorded hb
          · rename_i existing t ht
            cases ho
            obtain ⟨had,rfl⟩:=admitRegistration_ok.mp ht
            exact claimEntry_recorded hb had fun hpk => (hsafe hpk).2 hold id existing hid had

theorem handleRegisterPk_recorded (transport : ConnType) (hb : s.KeysBacked)
    (hsafe : s.SafeRegistration m addr) :
    Recorded s (s.handleRegisterPk transport m addr).server
      (if m.oldID≠"" ∧ (s.handleRegisterPk transport m addr).result=.ok then some (m.oldID,m.id) else none) := by
  cases transport with
  | udp => exact processRegisterPk_recorded hb hsafe
  | tcp =>
    have hopen : s.openTCP addr=s ∨ s.openTCP addr={s with tcpPunchConns := s.tcpPunchConns.store addr ""} := by
      unfold openTCP
      split
      · exact .inl rfl
      · exact .inr rfl
    show Recorded s ((s.openTCP addr).processRegisterPk m addr).server
      (if m.oldID≠"" ∧ ((s.openTCP addr).processRegisterPk m addr).result=.ok then some (m.oldID,m.id) else none)
    rcases hopen with hopen | hopen
    · rw [hopen]
      exact processRegisterPk_recorded hb hsafe
    · rw [hopen]
      have h:=processRegisterPk_recorded (s := {s with tcpPunchConns := s.tcpPunchConns.store addr ""}) hb
        fun hpk => ⟨(hsafe hpk).1,fun hold id existing hid had =>
          (hsafe hpk).2 hold id existing hid ⟨had.softDeleted,had.row,had.permitted,had.banned⟩⟩
      exact ⟨h.rows,h.backed⟩
  | ws =>
    have h:=processRegisterPk_recorded hb hsafe
    show Recorded s (if _ then _ else _ : Outcome).server (if m.oldID≠"" ∧ (if _ then _ else _ : Outcome).result=.ok then _ else _)
    by_cases hok : (s.processRegisterPk m addr).result=.ok
    · have hbound:=bindPeerWSConn_refreshes (s := (s.processRegisterPk m addr).server) (s.processRegisterPk m addr).id addr
      rw [if_neg (not_not.mpr hok)]
      exact h.then_steady (hbound.trans (wsPunchConns_refreshes _)).steady
    · rw [if_pos hok]
      exact h

theorem underEnv_refreshes : Refreshes s (s.underEnv env) := .of_sub rfl rfl fun _ he => he

end Server

namespace Keyed
open Server

/-- The first key of a device is the one that is stored, in its row when it is live. -/
structure Consistent (k : Keyed) : Prop where
  backed : k.server.KeysBacked
  first : ∀ id, k.first id=record k.server id

theorem start_consistent (s : Server) : Consistent (start s) := by
  refine ⟨?_,fun id => rfl⟩
  intro e he
  cases he

variable {k k' : Keyed} {env : Environment} {a : KeyAction}

theorem Consistent.recorded (h : Consistent k) (hsafe : KeySafe k (env,a)) :
    Recorded k.server (k.server.perform env a) (k.server.renames env a) := by
  have hunder:=underEnv_refreshes (s := k.server) env
  cases a with
  | registerPeer id raddr => exact (hunder.trans (handleRegisterPeer_refreshes id raddr).1).steady.recorded h.backed
  | registerPeerWS id addr => exact (hunder.trans (registerPeerWS_refreshes id addr)).steady.recorded h.backed
  | registerPk transport m addr =>
    have hreg:=handleRegisterPk_recorded transport (hunder.steady.backed h.backed) hsafe
    exact ⟨hreg.rows,hreg.backed⟩
  | keepAlive conn => exact (touchWSHeartbeat_refreshes conn).steady.recorded h.backed
  | tick d =>
    have htick : Refreshes k.server (k.server.perform env (.tick d)) := .of_sub rfl rfl fun _ he => he
    exact htick.steady.recorded h.backed
  | cleanup => exact cleanup_refreshes.steady.recorded h.backed
  | restart => exact restart_refreshes.steady.recorded h.backed

theorem Consistent.stored (h : Consistent k) {id : PeerID} {key : Bytes} (hk : k.first id=some key) :
    k.server.storedKey id=key ∧ key≠[] := by
  rw [h.first,record] at hk
  split at hk
  · rename_i hne
    cases hk
    exact ⟨rfl,hne⟩
  · rename_i hnil
    split at hk
    · rename_i hlive
      exact absurd (fun h => hlive ((KeysBacked.live ‹Consistent k›.backed hlive).symm.trans h)) hnil
    · cases hk

theorem moved_recorded {s t : Server} {r : Option (PeerID × PeerID)} {first : PeerID → Option Bytes} (h : Recorded s t r)
    (hfirst : ∀ id key, first id=some key → s.storedKey id=key ∧ key≠[]) {id : PeerID} {key : Bytes}
    (hk : moveRecord r first id=some key) : record t id=some key := by
  have hrow {id₀ : PeerID} (hf : first id₀=some key) (hid : follow r id₀=id) : record t id=some key := by
    obtain ⟨hkey,hne⟩:=hfirst id₀ key hf
    have ht:=h.rows id₀ (by rw [hkey]; exact hne)
    rw [hid,hkey] at ht
    simp [record,ht,hne]
  cases r with
  | none => exact hrow hk rfl
  | some p =>
    obtain ⟨old,new⟩:=p
    simp only [moveRecord] at hk
    by_cases ho : id=old
    · simp [ho] at hk
    · rw [update_of_ne ho] at hk
      by_cases hn : id=new
      · subst hn
        rw [update_self] at hk
        exact hrow hk (by simp [follow])
      · rw [update_of_ne hn] at hk
        exact hrow hk (by simp [follow,ho])

theorem Consistent.step (h : Consistent k) (hsafe : KeySafe k (env,a)) (hstep : k.step (env,a)=some k') :
    Consistent k' := by
  cases hstep
  have hrec:=h.recorded hsafe
  refine ⟨hrec.backed,fun id => ?_⟩
  cases hm : moveRecord (k.server.renames env a) k.first id with
  | none => simp [hm]
  | some key =>
    have hkey:=moved_recorded hrec (fun _ _ => h.stored) hm
    simp [hm,hkey]

theorem Consistent.keeps (h : Consistent k) (hsafe : KeySafe k (env,a)) : StepKeeps k (env,a) := by
  have hrec:=h.recorded hsafe
  intro id key hk
  obtain ⟨hkey,hne⟩:=h.stored hk
  have hrow:=hrec.rows id (by rw [hkey]; exact hne)
  rw [hkey] at hrow
  refine ⟨.inr hrow,?_,fun _ => ⟨fun _ => by rw [hrow]; exact hne,fun _ => .inl (by rw [hrow]; exact hne)⟩⟩
  by_cases hlive : (k.server.perform env a).liveKey (follow (k.server.renames env a) id)=[]
  · exact .inl hlive
  · exact .inr ((hrec.backed.live hlive).symm.trans hrow)

/-- In every run whose steps are safe no message replaces or erases the key of a device. -/
theorem keys_immutable_when_stored (s : Server) (as : List (Environment × KeyAction))
    (hsafe : Along step KeySafe (start s) as) : Along step StepKeeps (start s) as :=
  Along.of_invariant Consistent (fun _ _ _ h hok hs => h.step hok hs) (fun _ _ h hok => h.keeps hok) (start_consistent s) hsafe

theorem safe_when_store_answers (hfails : ∀ q, env.fails q=false)
    (hchange : ∀ transport m addr, a=.registerPk transport m addr → m.pk≠[] → m.oldID="") : KeySafe k (env,a) := by
  cases a with
  | registerPk transport m addr =>
    intro hpk
    refine ⟨fun hold => absurd (hchange transport m addr rfl hpk) hold,fun _ id existing _ had => ⟨?_,?_⟩⟩
    · rintro rfl
      refine .inl ?_
      have hrow:=(Database.ask_ok _).mp had.row
      have hdeleted:=had.softDeleted
      unfold Database.isPeerSoftDeleted Database.ask at hdeleted
      simp only [show (k.server.underEnv env).db.fails=env.fails from rfl,hfails] at hdeleted
      unfold storedKey
      cases hp : (k.server.underEnv env).db.peers id with
      | none => rfl
      | some row => simp_all
    · intro hf
      rw [show (k.server.underEnv env).db.fails=env.fails from rfl,hfails] at hf
      cases hf
  | _ => trivial

def answering : Environment := ⟨fun _ => false,true,true⟩

def client : Addr := ⟨.v4 3325256809,21116⟩

def deviceRun : List (Environment × KeyAction) :=
  [.registerPeer "device-7" client,.registerPk .udp ⟨"device-7","",[],[1],false⟩ client,.restart,
    .registerPeerWS "device-7" client,.registerPk .tcp ⟨"device-7","",[],[2],false⟩ client,
    .registerPk .tcp ⟨"device-8","device-7",[],[],false⟩ client,.tick 60,.cleanup].map (answering,·)

theorem deviceRun_keeps_key : Along step StepKeeps (start Server.empty) deviceRun ∧
    (exec step (start Server.empty) deviceRun).map (fun k => (k.first "device-8",k.server.storedKey "device-8")) =
      some (some [1],[1]) := by
  refine ⟨keys_immutable_when_stored Server.empty deviceRun (along_of_forall ?_ _),by decide⟩
  intro a ha k
  obtain ⟨b,hb,rfl⟩:=List.mem_map.mp ha
  refine safe_when_store_answers (fun _ => rfl) ?_
  rintro transport m addr rfl hpk
  simp only [List.mem_cons,KeyAction.registerPk.injEq,reduceCtorEq,List.not_mem_nil,false_or,or_false] at hb
  rcases hb with ⟨-,rfl,-⟩ | ⟨-,rfl,-⟩ | ⟨-,rfl,-⟩
  · rfl
  · rfl
  · exact absurd rfl hpk

/-- The row of `device-1` has no key. -/
def legacyServer : Server :=
  { Server.empty with
    db := {Server.empty.db with
      peers := update (fun _ => none) "device-1" (some ⟨[],[],none,"","",false,false,false⟩)}}

def changeRun : List (Environment × KeyAction) :=
  [.registerPeer "device-1" client,.registerPk .tcp ⟨"device-2","device-1",[],[1],false⟩ client,
    .registerPk .tcp ⟨"device-3","device-2",[],[2],false⟩ client].map (answering,·)

/-- The key of an ID change gets into the live entry only; the next one replaces it. -/
theorem id_change_replaces_key : ¬ ∀ (s : Server) (as : List (Environment × KeyAction)), Along step StepKeeps (start s) as := by
  intro h
  have hrun:=h legacyServer changeRun
  have hkeeps:=((hrun.2 _ rfl).2 _ rfl).1 "device-2" [1] (by decide)
  have hlive:=hkeeps.2.1
  revert hlive
  decide

end Keyed

end BetterDesk.Signal
