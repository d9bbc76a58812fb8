import BetterDesk.Policy.AddressText
import BetterDesk.Signal.Devices

/-! # Registration of a key (signal/handler.go, signal/peer_id_registration.go, signal/uuid_helpers.go) -/

namespace BetterDesk.Signal
open Db Text List Function

structure RegisterPk where
  id : PeerID
  oldID : PeerID
  uuid : Bytes
  pk : Bytes
  noRegisterDevice : Bool

inductive Result
  | ok
  | serverError
  | notSupport
  | uuidMismatch
  | idExists
  deriving DecidableEq

inductive Touch
  | entry (id : PeerID)
  | bound (addr : Addr) (id : PeerID)
  deriving DecidableEq

def Touch.device : Touch → PeerID
  | entry id => id
  | bound _ id => id

/-- `id` is the ID that the message is left with. -/
structure Outcome where
  result : Result
  id : PeerID
  server : Server
  touched : List Touch

/-- `none` for a text that is not hexadecimal, or empty. -/
def decodedUUID (t : Bytes) : Option Bytes := (hexDecode t).filter (·≠[])

def peerUUIDFromDB (stored : Bytes) : Bytes := (decodedUUID stored).getD stored

/-- 16 bytes are the wire format; an even number of others may be its hexadecimal
text. -/
def normalizePeerUUIDBytes (raw : Bytes) : Bytes :=
  if raw=[] ∨ raw.length=16 then raw
  else if raw.length%2=0 then (decodedUUID raw).getD raw
  else raw

def peerUUIDEqual (a b : Bytes) : Bool := normalizePeerUUIDBytes a=normalizePeerUUIDBytes b

namespace Database

def upsertPeer (db : Database) (id : PeerID) (uuid pk : Bytes) : Database :=
  if db.fails (.upsertPeer id) then db
  else
    let row := match db.peers id with
      | some row => {row with
          uuid := if uuid=[] then row.uuid else uuid
          pk := if pk=[] then row.pk else pk
          ip := none
          disabled := false}
      | none => ⟨uuid,pk,none,"","",false,false,false⟩
    {db with peers := update db.peers id (some row)}

def changePeerID (db : Database) (oldID newID : PeerID) : Result × Database :=
  if db.fails (.changePeerID oldID newID) then (.serverError,db)
  else if (db.peers newID).isSome then (.idExists,db)
  else match (db.peers oldID).filter fun row => !row.softDeleted with
    | none => (.notSupport,db)
    | some row => (.ok,{db with
        peers := update (update db.peers newID (some row)) oldID none
        deviceTokens := update
          (update db.deviceTokens newID (db.deviceTokens newID||db.deviceTokens oldID))
          oldID false
        renames := (oldID,newID)::db.renames})

end Database

namespace Server
variable (s : Server)

def peerIPMatches (clientHost storedIP : IP) : Bool :=
  clientHost=storedIP||(Policy.ipText clientHost++[58]).isPrefixOf (Policy.ipText storedIP)

def renamedPeerIdentityMatches (successor : Row) (host : IP) (uuid pk : Bytes) : Bool :=
  (pk≠[]&&successor.pk≠[]&&successor.pk=pk) ||
    (uuid≠[]&&successor.uuid≠[]&&peerUUIDEqual (peerUUIDFromDB successor.uuid) uuid) ||
    (pk=[]&&uuid=[]&&successor.ip.any (peerIPMatches host))

/-- A renamed ID leads to its successor; `none` when the registration is refused. -/
def resolveRegistrationPeerID (id : PeerID) (host : IP) (uuid pk : Bytes) : Option PeerID :=
  match s.db.isRenamedPeerID id with
  | .error _ => none
  | .ok false => some id
  | .ok true => match s.db.getLatestRenameTarget id with
    | .error _ => none
    | .ok newID =>
      if newID="" then none
      else match s.db.getPeer newID with
        | .error _ => none
        | .ok none => some id
        | .ok (some successor) =>
          if renamedPeerIdentityMatches successor host uuid pk then some newID else none

def dropUnlessPending (id : PeerID) : Server :=
  if s.isPendingEnrollment id&&(s.peers.get id).isSome then s
  else {s with peers := s.peers.remove id}

def permitRegistration (id : PeerID) (existing : Option Row) : Bool × Server :=
  if existing.isSome then (true,s) else s.checkEnrollmentPermission id

def admitRegistration (id : PeerID) : Except Result (Option Row) × Server :=
  -- the error of this lookup is dropped
  if s.db.isPeerSoftDeleted id=.ok true then
    (.error .notSupport,{s with peers := s.peers.remove id})
  else match s.db.getPeer id with
    | .error _ => (.error .serverError,s)
    | .ok existing =>
      match s.permitRegistration id existing with
      | (false,s) => (.error .notSupport,s.dropUnlessPending id)
      | (true,s) => match s.db.isPeerBanned id with
        | .error _ => (.error .serverError,s)
        | .ok true => (.error .notSupport,s.revokeBannedPeerAccess id none)
        | .ok false => (.ok existing,s)

def hydrate (existing : Option Row) (e : Entry) : Entry := match existing with
  | none => e
  | some row => {e with
      uuid := if e.uuid=[] ∧ row.uuid≠[] then peerUUIDFromDB row.uuid else e.uuid
      pk := if e.pk=[] ∧ row.pk≠[] then row.pk else e.pk}

def uuidMismatch (e : Entry) (m : RegisterPk) : Bool :=
  e.uuid≠[]&&m.uuid≠[]&&!peerUUIDEqual e.uuid m.uuid

def pkMismatch (e : Entry) (m : RegisterPk) : Bool := e.pk≠[]&&m.pk≠[]&&e.pk≠m.pk

def bindTCPSessionPeer (addr : Addr) (id : PeerID) : Server :=
  if (s.tcpPunchConns.load addr).isSome then
    {s with tcpPunchConns := s.tcpPunchConns.store addr id}
  else s

def boundConns (addr : Addr) (id : PeerID) : List Touch :=
  if (s.tcpPunchConns.load addr).isSome then [.bound addr id] else []

def registered (e : Entry) (m : RegisterPk) (addr : Addr) : Entry := {e with
  uuid := if m.uuid≠[] then normalizePeerUUIDBytes m.uuid else e.uuid
  pk := if m.pk≠[] then m.pk else e.pk
  lastReg := s.now
  ip := some addr
  connType := if e.udpAddr.isNone ∧ e.connType ≠ .ws then .tcp else e.connType}

def claimEntry (id : PeerID) (existing : Option Row) (m : RegisterPk) (addr : Addr) : Outcome :=
  let found:=s.peers.get id
  let fresh : Entry := ⟨id,[],[],none,none,0,.udp,none,s.now,false⟩
  let e:=hydrate existing (found.getD fresh)
  let touched := if found=some e then [] else [.entry id]
  let s := if found=some e then s else {s with peers := s.peers.put e}
  if uuidMismatch e m then ⟨.uuidMismatch,id,s,touched⟩
  else if pkMismatch e m then ⟨.notSupport,id,s,touched⟩
  else
    let e:=s.registered e m addr
    let binds:=s.boundConns addr id
    let s:={s.bindTCPSessionPeer addr id with
      peers := s.peers.put e
      db := s.db.upsertPeer id (hexEncode e.uuid) e.pk}
    ⟨.ok,id,s,touched++[.entry id]++binds⟩

/-- A client that changes its ID leaves the key out, and sends a UUID of another
kind: neither is asked for. -/
def idChangeAllowed (m : RegisterPk) (old : Row) : Except Result Unit :=
  if m.pk≠[] ∧ old.pk≠[] ∧ old.pk≠m.pk then .error .notSupport
  else if m.uuid.length=16 ∧ old.uuid≠[] ∧
    peerUUIDEqual (peerUUIDFromDB old.uuid) m.uuid=false then .error .uuidMismatch
  else .ok ()

def processIDChange (m : RegisterPk) : Outcome :=
  if isValidPeerID m.oldID=false then ⟨.notSupport,m.id,s,[]⟩
  else match s.db.getPeer m.oldID with
    | .error _ => ⟨.serverError,m.id,s,[]⟩
    | .ok none => ⟨.notSupport,m.id,s,[]⟩
    | .ok (some old) => match idChangeAllowed m old with
      | .error r => ⟨r,m.id,s,[]⟩
      | .ok () =>
        if (s.peers.get m.id).isSome then ⟨.idExists,m.id,s,[]⟩
        else match s.db.getPeerIDState m.id with
          | .error _ => ⟨.serverError,m.id,s,[]⟩
          | .ok .missing => match s.db.changePeerID m.oldID m.id with
            | (.ok,db) => match s.peers.get m.oldID with
              | none => ⟨.ok,m.id,{s with db := db},[]⟩
              | some e =>
                let pk := if m.pk=[] then old.pk else m.pk
                let uuid := if m.uuid≠[] then normalizePeerUUIDBytes m.uuid else e.uuid
                let e:={e with id := m.id,pk := pk,uuid := uuid}
                ⟨.ok,m.id,{s with db := db,peers := (s.peers.remove m.oldID).put e},
                  [.entry m.oldID,.entry m.id]⟩
            | (r,db) => ⟨r,m.id,{s with db := db},[]⟩
          | .ok _ => ⟨.idExists,m.id,s,[]⟩

def refusedRegistration (m : RegisterPk) (addr : Addr) : Option Result :=
  if m.id="" then some .serverError
  else if isValidPeerID m.id=false then some .notSupport
  else if s.cfg.isIPBlocked addr.ip||s.cfg.isIDBlocked m.id then some .notSupport
  else none

def processRegisterPk (m : RegisterPk) (addr : Addr) : Outcome :=
  match s.refusedRegistration m addr with
  | some r => ⟨r,m.id,s,[]⟩
  | none =>
    if m.oldID≠"" then s.processIDChange m
    else match s.resolveRegistrationPeerID m.id addr.ip m.uuid m.pk with
      | none => ⟨.notSupport,m.id,s,[]⟩
      | some id =>
        if m.noRegisterDevice then ⟨.ok,id,s,[]⟩
        else match s.admitRegistration id with
          | (.error r,s) => ⟨r,id,s,[]⟩
          | (.ok existing,s) => s.claimEntry id existing m addr

def openTCP (addr : Addr) : Server :=
  if (s.tcpPunchConns.load addr).isSome then s
  else {s with tcpPunchConns := s.tcpPunchConns.store addr ""}

def bindPeerWSConn (id : PeerID) (addr : Addr) : Server :=
  match s.peers.get id with
  | none => s
  | some e => {s with peers := s.peers.put {e with connType := .ws,wsConn := some addr}}

/-- RegisterPk as each transport handles it: a WebSocket connection is bound to
the ID of a registration that is answered with OK. -/
def handleRegisterPk (transport : ConnType) (m : RegisterPk) (addr : Addr) : Outcome :=
  match transport with
  | .udp => s.processRegisterPk m addr
  | .tcp => (s.openTCP addr).processRegisterPk m addr
  | .ws =>
    let o:=s.processRegisterPk m addr
    if o.result ≠ .ok then o
    else
      let live:=(o.server.peers.get o.id).isSome
      { o with
        server := {o.server.bindPeerWSConn o.id addr with
          wsPunchConns := update o.server.wsPunchConns addr true}
        touched := o.touched ++ if live then [.entry o.id,.bound addr o.id] else []}

/-- A registration gets as far as the live entry of `id`, with this row. -/
structure Admits (id : PeerID) (existing : Option Row) : Prop where
  softDeleted : s.db.isPeerSoftDeleted id ≠ .ok true
  row : s.db.getPeer id=.ok existing
  permitted : existing=none → s.enrollmentPermitted id=true
  banned : s.db.isPeerBanned id=.ok false

variable {s : Server}

variable {m : RegisterPk} {addr : Addr} {existing : Option Row} {id d : PeerID} {s' : Server} {r : Result}

theorem permitRegistration_true : s.permitRegistration id existing=(true,s') ↔
      (existing=none → s.enrollmentPermitted id=true) ∧ s'=s := by
  unfold permitRegistration checkEnrollmentPermission
  cases existing with
  | some row =>
    simp only [Option.isSome_some,if_true,Prod.mk.injEq,true_and,reduceCtorEq,false_implies]
    exact eq_comm
  | none =>
    by_cases hp : s.enrollmentPermitted id=true
    · simp only [Option.isSome_none,Bool.false_eq_true,if_false,hp,if_true,Prod.mk.injEq,
        true_and,implies_true]
      exact eq_comm
    · simp [hp]

theorem admitRegistration_ok : s.admitRegistration id=(.ok existing,s') ↔ s.Admits id existing ∧ s'=s := by
  constructor
  · intro h
    unfold admitRegistration at h
    split at h
    · cases h
    · rename_i hd
      split at h
      · cases h
      · rename_i row hr
        split at h
        · cases h
        · rename_i s₁ hp
          obtain ⟨hp,rfl⟩:=permitRegistration_true.mp hp
          split at h
          · cases h
          · cases h
          · rename_i hb
            cases h
            exact ⟨⟨hd,hr,hp,hb⟩,rfl⟩
  · rintro ⟨h,rfl⟩
    unfold admitRegistration
    rw [if_neg h.softDeleted,h.row]
    dsimp only
    rw [permitRegistration_true.mpr ⟨h.permitted,rfl⟩]
    dsimp only
    rw [h.banned]

def Contradicts (e : Entry) (m : RegisterPk) : Prop := uuidMismatch e m=true ∨ pkMismatch e m=true

/-- Something that is about `d` was touched. -/
def Touches (o : Outcome) (d : PeerID) : Prop := ∃ t∈o.touched,t.device=d

theorem touches_nil : ¬ Touches ⟨r,id,s,[]⟩ d := fun ⟨_,ht,_⟩ => nomatch ht

def Withstands (d : PeerID) (existing : Option Row) (m : RegisterPk) : Prop :=
  ∃ e, s.peers.get d=some e ∧ hydrate existing e=e ∧ Contradicts e m

theorem boundConns_device (s : Server) : ∀ t∈s.boundConns addr id, t.device=id := by
  intro t ht
  unfold boundConns at ht
  split at ht
  · rw [mem_singleton.mp ht]
    rfl
  · cases ht

theorem claimEntry_id : (s.claimEntry id existing m addr).id=id ∧
      ∀ t∈(s.claimEntry id existing m addr).touched, t.device=id := by
  have hpre : ∀ p : Prop, ∀ [Decidable p], ∀ t∈(if p then [] else [Touch.entry id]),
      t.device=id := by
    intro p _ t ht
    split at ht
    · cases ht
    · rw [mem_singleton.mp ht]
      rfl
  unfold claimEntry
  dsimp only
  split
  · exact ⟨rfl,hpre _⟩
  · split
    · exact ⟨rfl,hpre _⟩
    · refine ⟨rfl,fun t ht => ?_⟩
      rcases mem_append.mp ht with ht | ht
      · rcases mem_append.mp ht with ht | ht
        · exact hpre _ t ht
        · rw [mem_singleton.mp ht]
          rfl
      · exact boundConns_device _ t ht

theorem claimEntry_touches : Touches (s.claimEntry id existing m addr) d ↔ d=id ∧ ¬ s.Withstands id existing m := by
  constructor
  · rintro ⟨t,ht,rfl⟩
    refine ⟨claimEntry_id.2 t ht,?_⟩
    rintro ⟨e,he,hh,hc⟩
    unfold claimEntry at ht
    simp only [he,Option.getD_some,hh,if_true] at ht
    rcases hc with hc | hc
    · rw [if_pos hc] at ht
      cases ht
    · by_cases hu : uuidMismatch e m=true
      · rw [if_pos hu] at ht
        cases ht
      · rw [if_neg hu,if_pos hc] at ht
        cases ht
  · rintro ⟨rfl,hw⟩
    refine ⟨.entry d,?_,rfl⟩
    unfold claimEntry
    dsimp only
    split
    · rename_i hu
      split
      · rename_i he
        refine absurd ?_ hw
        obtain ⟨e,he'⟩ : ∃ e, s.peers.get d=some e := ⟨_,he⟩
        rw [he'] at he hu
        simp only [Option.getD_some,Option.some.injEq] at he hu
        exact ⟨e,he',he.symm,.inl (by rwa [← he] at hu)⟩
      · exact mem_singleton_self _
    · split
      · rename_i hp
        split
        · rename_i he
          refine absurd ?_ hw
          obtain ⟨e,he'⟩ : ∃ e, s.peers.get d=some e := ⟨_,he⟩
          rw [he'] at he hp
          simp only [Option.getD_some,Option.some.injEq] at he hp
          exact ⟨e,he',he.symm,.inr (by rwa [← he] at hp)⟩
        · exact mem_singleton_self _
      · exact mem_append_left _ (mem_append_right _ (mem_singleton_self _))

structure ChangesID (s : Server) (m : RegisterPk) : Prop where
  valid : isValidPeerID m.oldID=true
  allowed : ∃ old, s.db.getPeer m.oldID=.ok (some old) ∧ idChangeAllowed m old=.ok ()
  free : s.peers.get m.id=none
  missing : s.db.getPeerIDState m.id=.ok .missing
  stored : s.db.fails (.changePeerID m.oldID m.id)=false
  live : (s.peers.get m.oldID).isSome

theorem getPeerIDState_missing {db : Database} (h : db.getPeerIDState id=.ok .missing) : db.peers id=none := by
  have hv:=(db.ask_ok.mp h).2
  split at hv
  · assumption
  · split at hv <;> cases hv

theorem changePeerID_ok {db : Database} {old : Row}
    (hold : db.getPeer m.oldID=.ok (some old)) (hnew : db.getPeerIDState m.id=.ok .missing)
    (hf : db.fails (.changePeerID m.oldID m.id)=false) : (db.changePeerID m.oldID m.id).1=.ok := by
  have hrow:=(db.ask_ok.mp hold).2
  unfold Database.changePeerID
  rw [if_neg (by rw [hf]; decide),getPeerIDState_missing hnew,hrow]
  rfl

theorem processIDChange_touches : Touches (s.processIDChange m) d ↔ (d=m.oldID ∨ d=m.id) ∧ s.ChangesID m := by
  constructor
  · intro h
    unfold processIDChange at h
    split at h
    · exact absurd h touches_nil
    · rename_i hv
      split at h
      · exact absurd h touches_nil
      · exact absurd h touches_nil
      · rename_i old hold
        split at h
        · exact absurd h touches_nil
        · rename_i hal
          split at h
          · exact absurd h touches_nil
          · rename_i hfree
            split at h
            · exact absurd h touches_nil
            · rename_i hmiss
              split at h
              · rename_i db hch
                split at h
                · exact absurd h touches_nil
                · rename_i e he
                  obtain ⟨t,ht,rfl⟩:=h
                  have hst : s.db.fails (.changePeerID m.oldID m.id)=false := by
                    by_contra hf
                    unfold Database.changePeerID at hch
                    rw [if_pos (Bool.not_eq_false _ ▸ hf)] at hch
                    cases hch
                  refine ⟨?_,Bool.not_eq_false _ ▸ hv,⟨old,hold,hal⟩,
                    Option.not_isSome_iff_eq_none.mp hfree,hmiss,hst,by rw [he]; rfl⟩
                  rcases mem_cons.mp ht with rfl | ht
                  · exact .inl rfl
                  · rw [mem_singleton.mp ht]
                    exact .inr rfl
              · exact absurd h touches_nil
            · exact absurd h touches_nil
  · rintro ⟨hd,h⟩
    obtain ⟨old,hold,hal⟩:=h.allowed
    obtain ⟨e,he⟩:=Option.isSome_iff_exists.mp h.live
    have hch:=changePeerID_ok hold h.missing h.stored
    unfold processIDChange
    rw [h.valid,if_neg (by decide),hold]
    dsimp only
    rw [hal]
    dsimp only
    rw [h.free,if_neg (by decide),h.missing]
    dsimp only
    rw [show s.db.changePeerID m.oldID m.id=(.ok,(s.db.changePeerID m.oldID m.id).2) from
      Prod.ext hch rfl]
    dsimp only
    rw [he]
    rcases hd with rfl | rfl
    · exact ⟨.entry m.oldID,mem_cons_self,rfl⟩
    · exact ⟨.entry m.id,mem_cons_of_mem _ (mem_singleton_self _),rfl⟩

/-- The message is for `d` and is no ID change. -/
structure Registers (s : Server) (m : RegisterPk) (addr : Addr) (d : PeerID) : Prop where
  sight : s.refusedRegistration m addr=none
  noChange : m.oldID=""
  named : s.resolveRegistrationPeerID m.id addr.ip m.uuid m.pk=some d

/-- The registration gets to the live entry of `d`, and the entry does not
withstand it. -/
structure TakesEntry (s : Server) (m : RegisterPk) (addr : Addr) (d : PeerID) : Prop
    extends Registers s m addr d where
  full : m.noRegisterDevice=false
  reached : ∃ existing, s.Admits d existing ∧ ¬ s.Withstands d existing m

structure NamesOnly (s : Server) (m : RegisterPk) (addr : Addr) (d : PeerID) : Prop
    extends Registers s m addr d where
  keyOnly : m.noRegisterDevice=true
  live : (s.peers.get d).isSome

structure Renames (s : Server) (m : RegisterPk) (addr : Addr) (d : PeerID) : Prop where
  sight : s.refusedRegistration m addr=none
  change : m.oldID≠""
  ends : d=m.oldID ∨ d=m.id
  changes : s.ChangesID m

theorem processRegisterPk_touches :
    Touches (s.processRegisterPk m addr) d ↔ s.TakesEntry m addr d ∨ s.Renames m addr d := by
  constructor
  · intro h
    unfold processRegisterPk at h
    split at h
    · exact absurd h touches_nil
    · rename_i hsight
      split at h
      · rename_i hold
        obtain ⟨hends,hch⟩:=processIDChange_touches.mp h
        exact .inr ⟨hsight,hold,hends,hch⟩
      · rename_i hold
        split at h
        · exact absurd h touches_nil
        · rename_i id hid
          split at h
          · exact absurd h touches_nil
          · rename_i hfull
            split at h
            · exact absurd h touches_nil
            · rename_i existing s' hadm
              obtain ⟨hadm,rfl⟩:=admitRegistration_ok.mp hadm
              obtain ⟨rfl,hw⟩:=claimEntry_touches.mp h
              exact .inl ⟨⟨hsight,Decidable.not_not.mp hold,hid⟩,Bool.eq_false_iff.mpr hfull,
                existing,hadm,hw⟩
  · rintro (h | h)
    · obtain ⟨existing,hadm,hw⟩:=h.reached
      unfold processRegisterPk
      rw [h.sight,h.noChange]
      dsimp only
      rw [if_neg (by decide),h.named,h.full]
      dsimp only
      rw [if_neg (by decide),admitRegistration_ok.mpr ⟨hadm,rfl⟩]
      exact claimEntry_touches.mpr ⟨rfl,hw⟩
    · unfold processRegisterPk
      rw [h.sight]
      dsimp only
      rw [if_pos h.change]
      exact processIDChange_touches.mpr ⟨h.ends,h.changes⟩

theorem idChangeAllowed_error {old : Row} (h : idChangeAllowed m old=.error r) : r ≠ .ok := by
  unfold idChangeAllowed at h
  split at h
  · cases h
    decide
  · split at h <;> cases h
    decide

theorem processIDChange_live (hok : (s.processIDChange m).result=.ok)
    (hlive : ((s.processIDChange m).server.peers.get (s.processIDChange m).id).isSome) :
    Touches (s.processIDChange m) (s.processIDChange m).id := by
  revert hok hlive
  unfold processIDChange
  split
  · intro hok; cases hok
  · split
    · intro hok; cases hok
    · intro hok; cases hok
    · split
      · rename_i r hal
        exact fun hok => absurd hok (idChangeAllowed_error hal)
      · split
        · intro hok; cases hok
        · rename_i hfree
          split
          · intro hok; cases hok
          · split
            · split
              · exact fun _ hlive => absurd hlive hfree
              · exact fun _ _ => ⟨.entry m.id,mem_cons_of_mem _ (mem_singleton_self _),rfl⟩
            · rename_i hr _
              intro hok
              exact absurd hok (by simpa using hr)
          · intro hok; cases hok

theorem claimEntry_ok (hok : (s.claimEntry id existing m addr).result=.ok) :
    Touches (s.claimEntry id existing m addr) id := by
  revert hok
  unfold claimEntry
  dsimp only
  split
  · intro hok; cases hok
  · split
    · intro hok; cases hok
    · exact fun _ =>
        ⟨.entry id,mem_append_left _ (mem_append_right _ (mem_singleton_self _)),rfl⟩

theorem admitRegistration_error (h : s.admitRegistration id=(.error r,s')) : r ≠ .ok := by
  unfold admitRegistration at h
  split at h
  · cases h; decide
  · split at h
    · cases h; decide
    · split at h
      · cases h; decide
      · split at h <;> cases h <;> decide

theorem refusedRegistration_some (h : s.refusedRegistration m addr=some r) : r ≠ .ok := by
  unfold refusedRegistration at h
  split at h
  · cases h; decide
  · split at h
    · cases h; decide
    · split at h <;> cases h
      decide

theorem processRegisterPk_ok (hok : (s.processRegisterPk m addr).result=.ok)
    (hlive : ((s.processRegisterPk m addr).server.peers.get (s.processRegisterPk m addr).id).isSome) :
    Touches (s.processRegisterPk m addr) (s.processRegisterPk m addr).id ∨
      s.NamesOnly m addr (s.processRegisterPk m addr).id := by
  revert hok hlive
  unfold processRegisterPk
  split
  · rename_i r hr
    exact fun hok => absurd hok (refusedRegistration_some hr)
  · rename_i hsight
    split
    · exact fun hok hlive => .inl (processIDChange_live hok hlive)
    · rename_i hold
      split
      · intro hok; cases hok
      · rename_i id hid
        split
        · rename_i hkey
          exact fun _ hlive => .inr ⟨⟨hsight,Decidable.not_not.mp hold,hid⟩,hkey,hlive⟩
        · split
          · rename_i r s' hadm
            exact fun hok => absurd hok (admitRegistration_error hadm)
          · intro hok _
            rw [claimEntry_id.1]
            exact .inl (claimEntry_ok hok)

theorem namesOnly_process (h : s.NamesOnly m addr d) : s.processRegisterPk m addr=⟨.ok,d,s,[]⟩ := by
  unfold processRegisterPk
  rw [h.sight,h.noChange]
  dsimp only
  rw [if_neg (by decide),h.named,h.keyOnly]
  rfl

theorem ws_touches : Touches (s.handleRegisterPk .ws m addr) d ↔
      Touches (s.processRegisterPk m addr) d ∨ s.NamesOnly m addr d := by
  unfold handleRegisterPk
  dsimp only
  constructor
  · intro h
    split at h
    · exact .inl h
    · rename_i hok
      obtain ⟨t,ht,rfl⟩:=h
      rcases mem_append.mp ht with ht | ht
      · exact .inl ⟨t,ht,rfl⟩
      · split at ht
        · rename_i hlive
          have hd : t.device=(s.processRegisterPk m addr).id := by
            rcases mem_cons.mp ht with rfl | ht
            · rfl
            · rw [mem_singleton.mp ht]
              rfl
          rw [hd]
          exact processRegisterPk_ok (Decidable.not_not.mp hok) hlive
        · cases ht
  · rintro (⟨t,ht,rfl⟩ | h)
    · split
      · exact ⟨t,ht,rfl⟩
      · exact ⟨t,mem_append_left _ ht,rfl⟩
    · rw [namesOnly_process h]
      dsimp only
      rw [if_neg (by decide),if_pos h.live]
      exact ⟨.entry d,mem_cons_self,rfl⟩

theorem openTCP_touches : Touches ((s.openTCP addr).processRegisterPk m addr) d ↔
      Touches (s.processRegisterPk m addr) d := by
  rw [processRegisterPk_touches,processRegisterPk_touches]
  unfold openTCP
  split
  · exact Iff.rfl
  · constructor
    · rintro (⟨⟨h1,h2,h3⟩,h4,existing,⟨h5,h6,h7,h8⟩,h9⟩ | ⟨h1,h2,h3,⟨h4,h5,h6,h7,h8,h9⟩⟩)
      · exact .inl ⟨⟨h1,h2,h3⟩,h4,existing,⟨h5,h6,h7,h8⟩,h9⟩
      · exact .inr ⟨h1,h2,h3,⟨h4,h5,h6,h7,h8,h9⟩⟩
    · rintro (⟨⟨h1,h2,h3⟩,h4,existing,⟨h5,h6,h7,h8⟩,h9⟩ | ⟨h1,h2,h3,⟨h4,h5,h6,h7,h8,h9⟩⟩)
      · exact .inl ⟨⟨h1,h2,h3⟩,h4,existing,⟨h5,h6,h7,h8⟩,h9⟩
      · exact .inr ⟨h1,h2,h3,⟨h4,h5,h6,h7,h8,h9⟩⟩

theorem handleRegisterPk_touches {transport : ConnType} : Touches (s.handleRegisterPk transport m addr) d ↔
      s.TakesEntry m addr d ∨ s.Renames m addr d ∨ (transport=.ws ∧ s.NamesOnly m addr d) := by
  cases transport with
  | udp =>
    simp only [handleRegisterPk,reduceCtorEq,false_and,or_false]
    exact processRegisterPk_touches
  | tcp =>
    simp only [handleRegisterPk,reduceCtorEq,false_and,or_false]
    exact openTCP_touches.trans processRegisterPk_touches
  | ws =>
    rw [ws_touches,processRegisterPk_touches,or_assoc]
    simp

end Server

def carriesIdentity (row : Row) (m : RegisterPk) : Bool :=
  (row.pk≠[]&&m.pk=row.pk) ||
    (row.uuid≠[]&&m.uuid≠[]&&peerUUIDEqual (peerUUIDFromDB row.uuid) m.uuid)

open Server

theorem identity_binding_iff (s : Server) (transport : ConnType) (m : RegisterPk) (addr : Addr)
    (d : PeerID) (row : Row) (hrow : s.db.peers d=some row) :
    (Touches (s.handleRegisterPk transport m addr) d → carriesIdentity row m=true) ↔
      carriesIdentity row m=true ∨ (¬ s.TakesEntry m addr d ∧ ¬ (s.Renames m addr d ∧ d=m.oldID) ∧
          ¬ (transport=.ws ∧ s.NamesOnly m addr d)) := by
  rw [handleRegisterPk_touches]
  -- a new ID has no row, so a renamed device is the one under the old ID
  have hren : s.Renames m addr d ↔ s.Renames m addr d ∧ d=m.oldID := by
    refine ⟨fun h => ⟨h,?_⟩,And.left⟩
    rcases h.ends with he | rfl
    · exact he
    · rw [getPeerIDState_missing h.changes.missing] at hrow
      cases hrow
  rw [← hren]
  by_cases hc : carriesIdentity row m=true
  · simp [hc]
  · rw [or_iff_right hc,imp_iff_not hc,not_or,not_or]

/-- `device-7` has a stored key. -/
def keyedRow : Row := ⟨[],[1],none,"","",false,false,false⟩

def keyedServer : Server :=
  { Server.empty with
    db := {Server.empty.db with peers := update (fun _ => none) "device-7" (some keyedRow)}}

def stranger : Addr := ⟨.v4 3325256809,40000⟩

theorem identity_binding_keyed :
    Touches (keyedServer.handleRegisterPk .tcp ⟨"device-7","",[],[1],false⟩ stranger) "device-7" ∧
      carriesIdentity keyedRow ⟨"device-7","",[],[1],false⟩=true := by
  have htouch : Touches (keyedServer.handleRegisterPk .tcp ⟨"device-7","",[],[1],false⟩ stranger) "device-7" :=
    ⟨.bound stranger "device-7",by decide,rfl⟩
  have hbinding:=(identity_binding_iff keyedServer .tcp ⟨"device-7","",[],[1],false⟩ stranger "device-7"
    keyedRow (by decide)).mpr (.inl (by decide))
  exact ⟨htouch,hbinding htouch⟩

/-- A message that has neither key nor UUID binds the connection to the device. -/
theorem empty_registration_binds :
    ¬ ∀ (s : Server) (transport : ConnType) (m : RegisterPk) (addr : Addr) (d : PeerID) (row : Row),
      s.db.peers d=some row → row.pk≠[] ∨ row.uuid≠[] →
        Touches (s.handleRegisterPk transport m addr) d → carriesIdentity row m=true := by
  intro h
  have hb:=h keyedServer .tcp ⟨"device-7","",[],[],false⟩ stranger "device-7" keyedRow
    (by decide) (.inl (by decide))
    ⟨.bound stranger "device-7",by decide,rfl⟩
  revert hb
  decide

end BetterDesk.Signal
