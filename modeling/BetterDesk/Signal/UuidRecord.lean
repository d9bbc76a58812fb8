import BetterDesk.Signal.RenameHistory
import BetterDesk.Signal.TransportAgreement

/-! # The UUID of a device over a run (signal/uuid_helpers.go, signal/handler.go) -/

namespace BetterDesk.Signal
open Db Text Exec Option Function

theorem hexValue_hexDigit {n : UInt8} (h : n<16) : hexValue (hexDigit n)=some n := by
  have hall : ∀ k<16, hexValue (hexDigit (UInt8.ofNat k))=some (UInt8.ofNat k) := by decide
  have hn:=hall n.toNat (UInt8.lt_iff_toNat_lt.mp h)
  rwa [UInt8.ofNat_toNat] at hn

theorem hexDecode_hexEncode (t : Bytes) : hexDecode (hexEncode t)=some t := by
  induction t with
  | nil => rfl
  | cons b t ih =>
    have hb:=b.toNat_lt
    have hhigh : b/16<16 := by
      rw [UInt8.lt_iff_toNat_lt,UInt8.toNat_div]
      show _/16<16
      omega
    have hlow : b%16<16 := by
      rw [UInt8.lt_iff_toNat_lt,UInt8.toNat_mod]
      exact Nat.mod_lt _ (by decide)
    have hsplit : b/16*16+b%16=b := by
      apply UInt8.toNat_inj.mp
      rw [UInt8.toNat_add,UInt8.toNat_mul,UInt8.toNat_div,UInt8.toNat_mod]
      show (_/16*16%2^8+_%16)%2^8=_
      omega
    have hcons : hexEncode (b::t)=hexDigit (b/16)::hexDigit (b%16)::hexEncode t := rfl
    rw [hcons]
    unfold hexDecode
    rw [hexValue_hexDigit hhigh,hexValue_hexDigit hlow,ih]
    simp [hsplit]

def HexOf (text bytes : Bytes) : Prop := hexDecode text=some bytes

instance (text bytes : Bytes) : Decidable (HexOf text bytes) := inferInstanceAs (Decidable (_=_))

theorem peerUUIDFromDB_hexEncode {v : Bytes} (h : v≠[]) : peerUUIDFromDB (hexEncode v)=v := by
  simp [peerUUIDFromDB,decodedUUID,hexDecode_hexEncode,Option.filter,h]

theorem normalize_cases (raw : Bytes) :
    normalizePeerUUIDBytes raw=raw ∨ HexOf raw (normalizePeerUUIDBytes raw) ∧ normalizePeerUUIDBytes raw≠[] := by
  unfold normalizePeerUUIDBytes
  split
  · exact Or.inl rfl
  · split
    · cases hd : decodedUUID raw with
      | none => exact Or.inl rfl
      | some t =>
        obtain ⟨hdecode,hne⟩:=filter_eq_some_iff.mp hd
        exact Or.inr ⟨hdecode,by simpa using hne⟩
    · exact Or.inl rfl

theorem normalize_nonempty {raw : Bytes} (h : raw≠[]) : normalizePeerUUIDBytes raw≠[] := by
  obtain heq | ⟨-,hne⟩:=normalize_cases raw
  · rwa [heq]
  · exact hne

theorem equal_uuids {a b : Bytes} (h : peerUUIDEqual a b=true) (hne : a≠b) :
    HexOf a b ∨ HexOf b a ∨ ∃ c, HexOf a c ∧ HexOf b c := by
  have hnorm : normalizePeerUUIDBytes a=normalizePeerUUIDBytes b := by simpa [peerUUIDEqual] using h
  obtain ha | ⟨ha,-⟩:=normalize_cases a
  · obtain hb | ⟨hb,-⟩:=normalize_cases b
    · exact absurd (ha.symm.trans (hnorm.trans hb)) hne
    · exact Or.inr (Or.inl (ha ▸ hnorm ▸ hb))
  · obtain hb | ⟨hb,-⟩:=normalize_cases b
    · exact Or.inl (hb ▸ hnorm ▸ ha)
    · exact Or.inr (Or.inr ⟨_,ha,hnorm ▸ hb⟩)

namespace UuidRecord

/-- The UUIDs of the device that are in memory and in its row are this one, where there are any. -/
structure Recorded (d : PeerID) (v : Bytes) (s : Server) : Prop where
  live : ∀ e∈s.peers,e.id=d → e.uuid=[] ∨ e.uuid=v
  row : ∀ row, s.db.peers d=some row → row.softDeleted=false → row.uuid=[] ∨ row.uuid=hexEncode v

def onRecord (d : PeerID) (s : Server) : Bool :=
  (s.peers.get d).any (fun e => e.uuid≠[])||(s.db.peers d).any fun row => !row.softDeleted&&row.uuid≠[]

structure Unrecorded (d : PeerID) (s : Server) : Prop where
  live : ∀ e∈s.peers,e.id=d → e.uuid=[]
  row : ∀ row, s.db.peers d=some row → row.softDeleted=false → row.uuid=[]

section Frames
open Server
variable {s t u : Server} {d : PeerID} {v : Bytes}

theorem Unrecorded.recorded (h : Unrecorded d s) (v : Bytes) : Recorded d v s :=
  ⟨fun e he hid => Or.inl (h.live e he hid),fun row hrow hlive => Or.inl (h.row row hrow hlive)⟩

variable (id : PeerID)

variable {existing : Option Row} {m : RegisterPk} {addr : Addr} {e : Entry} {row : Row}

theorem Recorded.congr (h : Recorded d v s) (hp : t.peers=s.peers) (hdb : t.db=s.db) : Recorded d v t :=
  ⟨hp ▸ h.live,hdb ▸ h.row⟩

theorem Recorded.renewed (hv : v≠[]) (h : Recorded d v s) {f : Entry} (hf : f.id=d → f.uuid=[] ∨ f.uuid=v)
    (he : Renews s.db.peers f e) (hid : e.id=d) : e.uuid=[] ∨ e.uuid=v := by
  have hfd:=he.id.symm.trans hid
  rcases he.uuid with hsame | ⟨-,row,hrow,hlive,hne,hfill⟩
  · rw [hsame]
    exact hf hfd
  · right
    rw [hfill,(h.row row (hfd ▸ hrow) hlive).resolve_left hne,peerUUIDFromDB_hexEncode hv]

theorem Recorded.refreshed (hv : v≠[]) (hs : Recorded d v s) (h : Refreshes s t) : Recorded d v t := by
  constructor
  · intro e he hid
    obtain ⟨f,hf,hfe⟩:=h.entries e he
    refine hs.renewed hv (fun hfid => ?_) hfe hid
    rcases hf with hf | hf
    · exact hs.live f hf hfid
    · exact Or.inl hf.1
  · intro row hrow hlive
    obtain ⟨old,hold,heq⟩:=h.rowOf hrow
    rw [heq] at hlive ⊢
    exact hs.row old hold hlive

theorem claimedEntry_id (existing : Option Row) : (s.claimedEntry id existing).id=id := by
  have hfound : ((s.peers.get id).getD ⟨id,[],[],none,none,0,.udp,none,s.now,false⟩).id=id := by
    cases hget : s.peers.get id with
    | none => rfl
    | some e => exact (mem_of_get hget).2
  cases existing <;> exact hfound

theorem claimedEntry_uuid (hv : v≠[]) (h : Recorded d v s) (had : s.Admits d existing) :
    (s.claimedEntry d existing).uuid=[] ∨ (s.claimedEntry d existing).uuid=v := by
  have hfound : ((s.peers.get d).getD ⟨d,[],[],none,none,0,.udp,none,s.now,false⟩).id=d ∧
      (((s.peers.get d).getD ⟨d,[],[],none,none,0,.udp,none,s.now,false⟩).uuid=[] ∨
        ((s.peers.get d).getD ⟨d,[],[],none,none,0,.udp,none,s.now,false⟩).uuid=v) := by
    cases hget : s.peers.get d with
    | none => exact ⟨rfl,Or.inl rfl⟩
    | some e =>
      obtain ⟨hmem,hid⟩:=mem_of_get hget
      exact ⟨hid,h.live e hmem hid⟩
  refine h.renewed hv (fun _ => hfound.2) (hydrate_renews fun row hrow => ?_) (claimedEntry_id d existing)
  rw [hfound.1]
  exact getPeer_live (hrow ▸ had.row)

theorem claimedEntry_onRecord (hon : onRecord d s=true) (had : s.Admits d existing) :
    (s.claimedEntry d existing).uuid≠[] := by
  by_cases hlive : ((s.peers.get d).getD ⟨d,[],[],none,none,0,.udp,none,s.now,false⟩).uuid=[]
  · obtain hon | hon:=(Bool.or_eq_true _ _).mp hon
    · obtain ⟨e,he,hne⟩:=(any_eq_true _ _).mp hon
      rw [he] at hlive
      exact absurd hlive (by simpa using hne)
    · obtain ⟨row,hrow,hboth⟩:=(any_eq_true _ _).mp hon
      obtain ⟨hdel,hne⟩ : row.softDeleted=false ∧ row.uuid≠[] := by simpa using hboth
      have hexisting : existing=some row := by
        have hget:=(s.db.ask_ok.mp had.row).2
        rw [← hget,hrow,filter_some,if_pos (by rw [hdel]; rfl)]
      subst hexisting
      show (if _=[] ∧ row.uuid≠[] then peerUUIDFromDB row.uuid else _)≠[]
      rw [if_pos ⟨hlive,hne⟩]
      exact fun h => hne (peerUUIDFromDB_nil.mp h)
  · cases existing with
    | none => exact hlive
    | some row =>
      show (if _=[] ∧ row.uuid≠[] then peerUUIDFromDB row.uuid else _)≠[]
      rw [if_neg fun h => hlive h.1]
      exact hlive

theorem claimEntry_live {id : PeerID} {g : Entry}
    (hg : g∈(s.claimEntry id existing m addr).server.peers) :
    g∈s.peers ∨ g=s.claimedEntry id existing ∨
      g=s.registered (s.claimedEntry id existing) m addr ∧ uuidMismatch (s.claimedEntry id existing) m=false := by
  have hput {g : Entry} {p : Prop} [Decidable p]
      (hg : g∈(if p then s else {s with peers := s.peers.put (s.claimedEntry id existing)}).peers) :
      g∈s.peers ∨ g=s.claimedEntry id existing := by
    split at hg
    · exact Or.inl hg
    · obtain rfl | ⟨hg,-⟩:=mem_put hg
      · exact Or.inr rfl
      · exact Or.inl hg
  have hearly {g : Entry} {p : Prop} [Decidable p]
      (hg : g∈(if p then s else {s with peers := s.peers.put (s.claimedEntry id existing)}).peers) :
      g∈s.peers ∨ g=s.claimedEntry id existing ∨ g=s.registered (s.claimedEntry id existing) m addr ∧
        uuidMismatch (s.claimedEntry id existing) m=false := (hput hg).imp_right Or.inl
  unfold claimEntry at hg
  dsimp only at hg
  split at hg
  · exact hearly hg
  · next hu =>
    split at hg
    · exact hearly hg
    · obtain rfl | ⟨hg,-⟩:=mem_put hg
      · refine Or.inr (Or.inr ⟨?_,Bool.eq_false_iff.mpr hu⟩)
        split <;> rfl
      · exact hearly hg

def BringsOnly (d : PeerID) (v : Bytes) (s : Server) (m : RegisterPk) : Prop :=
  ∀ existing, s.Admits d existing → m.uuid≠[] → uuidMismatch (s.claimedEntry d existing) m=false →
    normalizePeerUUIDBytes m.uuid=v

theorem registered_uuid (he : e.uuid=[] ∨ e.uuid=v) (addr : Addr) (hm : m.uuid≠[] → normalizePeerUUIDBytes m.uuid=v) :
    (s.registered e m addr).uuid=[] ∨ (s.registered e m addr).uuid=v := by
  unfold registered
  dsimp only
  by_cases hne : m.uuid≠[]
  · rw [if_pos hne]
    exact Or.inr (hm hne)
  · rw [if_neg hne]
    exact he

theorem onRows_uuid {rows : PeerID → Option Row} (he : id=d → e.uuid=[] ∨ e.uuid=v)
    (h : ∀ row, rows d=some row → row.softDeleted=false → row.uuid=[] ∨ row.uuid=hexEncode v)
    (hrow : (PeerWrite.upsert (registrationPeer id e)).onRows rows d=some row) (hlive : row.softDeleted=false) :
    row.uuid=[] ∨ row.uuid=hexEncode v := by
  by_cases hid : d=id
  · subst hid
    have hpeer : (registrationPeer d e).uuid=[] ∨ (registrationPeer d e).uuid=hexEncode v := by
      obtain hnil | hsame:=he rfl
      · exact Or.inl (by rw [registrationPeer,hnil]; rfl)
      · exact Or.inr (by rw [registrationPeer,hsame])
    have hrow:=(update_self ..).symm.trans hrow
    cases hold : rows (registrationPeer d e).id with
    | none =>
      rw [hold] at hrow
      cases hrow
      exact hpeer
    | some old =>
      rw [hold] at hrow
      cases hrow
      show (if (registrationPeer d e).uuid=[] then old.uuid else _)=[] ∨
        (if (registrationPeer d e).uuid=[] then old.uuid else _)=hexEncode v
      split
      · exact h old hold hlive
      · exact hpeer
  · have hne : d≠(registrationPeer id e).id := hid
    exact h row ((update_of_ne hne ..).symm.trans hrow) hlive

theorem claimEntry_recorded (hv : v≠[]) (h : Recorded d v s) {id : PeerID}
    (had : s.Admits id existing) (hm : BringsOnly d v s m) : Recorded d v (s.claimEntry id existing m addr).server := by
  have hclaimed (hid : id=d) : (s.claimedEntry id existing).uuid=[] ∨ (s.claimedEntry id existing).uuid=v := by
    subst hid
    exact claimedEntry_uuid hv h had
  have hregistered (hid : id=d) (hu : uuidMismatch (s.claimedEntry id existing) m=false) :
      (s.registered (s.claimedEntry id existing) m addr).uuid=[] ∨
        (s.registered (s.claimedEntry id existing) m addr).uuid=v := by
    subst hid
    exact registered_uuid (hclaimed rfl) addr fun hne => hm existing had hne hu
  constructor
  · intro g hg hid
    obtain hg | rfl | ⟨rfl,hu⟩:=claimEntry_live hg
    · exact h.live g hg hid
    · exact hclaimed ((claimedEntry_id id existing).symm.trans hid)
    · exact hregistered ((claimedEntry_id id existing).symm.trans hid) hu
  · intro row hrow hlive
    rw [claimEntry_rows] at hrow
    cases hw : s.claimWrite id existing m addr with
    | none =>
      rw [hw] at hrow
      exact h.row row hrow hlive
    | some w =>
      rw [hw] at hrow
      obtain ⟨hagrees,-,rfl⟩:=claimWrite_some.mp hw
      have hu : uuidMismatch (s.claimedEntry id existing) m=false := Bool.eq_false_iff.mpr fun hu => hagrees (Or.inl hu)
      exact onRows_uuid id (fun hid => hregistered hid hu) h.row hrow hlive

theorem processIDChange_peers {g : Entry} (hg : g∈(s.processIDChange m).server.peers) :
    g∈s.peers ∨ (s.processIDChange m).result=.ok ∧ g.id=m.id ∧ Touches (s.processIDChange m) m.id := by
  unfold processIDChange at hg ⊢
  split at hg
  · exact Or.inl hg
  · split at hg
    · exact Or.inl hg
    · exact Or.inl hg
    · split at hg
      · exact Or.inl hg
      · split at hg
        · exact Or.inl hg
        · split at hg
          · exact Or.inl hg
          · split at hg
            · split at hg
              · exact Or.inl hg
              · obtain rfl | ⟨hg,-⟩:=mem_put hg
                · simp_all [Touches,Touch.device]
                · exact Or.inl (List.mem_filter.mp hg).1
            · exact Or.inl hg
          · exact Or.inl hg

theorem claimEntry_touched {id : PeerID} {g : Entry} (hg : g∈(s.claimEntry id existing m addr).server.peers) :
    g∈s.peers ∨ Touches (s.claimEntry id existing m addr) g.id := by
  rw [claimEntry_touches]
  by_cases hw : s.Withstands id existing m
  · obtain ⟨e,he,hh,hc⟩:=hw
    left
    by_cases hu : uuidMismatch e m=true
    · simpa [claimEntry,he,hh,hu] using hg
    · simpa [claimEntry,he,hh,hu,hc.resolve_left hu] using hg
  · have hid:=claimedEntry_id (s := s) id existing
    rcases claimEntry_live hg with hg | rfl | ⟨rfl,-⟩
    · exact .inl hg
    · exact .inr ⟨hid,hw⟩
    · exact .inr ⟨hid,hw⟩

/-- Of the entries that a registration leaves, those it has not touched were there before. -/
theorem processRegisterPk_touched {g : Entry} :
    g∈(s.processRegisterPk m addr).server.peers → g∈s.peers ∨ Touches (s.processRegisterPk m addr) g.id := by
  unfold processRegisterPk
  split
  · exact .inl
  · split
    · exact fun hg => (processIDChange_peers hg).imp_right fun ⟨_,hid,ht⟩ => hid ▸ ht
    · split
      · exact .inl
      · next id _ =>
        split
        · exact .inl
        · obtain ⟨gone,hp⟩:=(admitRegistration_drops (s := s) id).peers
          generalize hs : s.admitRegistration id=result at hp ⊢
          obtain ⟨_ | existing,t⟩:=result
          · exact fun hg => .inl (List.mem_filter.mp (hp ▸ hg)).1
          · obtain ⟨-,rfl⟩:=admitRegistration_ok.mp hs
            exact claimEntry_touched

theorem processIDChange_recorded (h : Recorded d v s) (hid : m.id≠"")
    (hapart : (s.processIDChange m).result=.ok → m.oldID≠d ∧ m.id≠d) : Recorded d v (s.processIDChange m).server := by
  obtain ⟨hrefused,haccepted⟩:=processIDChange_db (s := s) hid
  constructor
  · intro g hg hgid
    obtain hg | ⟨hok,hnew,-⟩:=processIDChange_peers hg
    · exact h.live g hg hgid
    · exact absurd (hnew.symm.trans hgid) (hapart hok).2
  · intro row hrow hlive
    by_cases hok : (s.processIDChange m).result=.ok
    · obtain ⟨moved,-,-,hpeers⟩:=(haccepted hok).moved
      obtain ⟨hold,hnew⟩:=hapart hok
      rw [hpeers,update_of_ne (Ne.symm hold),update_of_ne (Ne.symm hnew)] at hrow
      exact h.row row hrow hlive
    · rw [hrefused hok] at hrow
      exact h.row row hrow hlive

theorem processRegisterPk_recorded (hv : v≠[]) (h : Recorded d v s) (hm : m.oldID="" → BringsOnly d v s m)
    (hapart : m.oldID≠"" → (s.processRegisterPk m addr).result=.ok → m.oldID≠d ∧ m.id≠d) :
    Recorded d v (s.processRegisterPk m addr).server := by
  unfold processRegisterPk at hapart ⊢
  cases hsight : s.refusedRegistration m addr with
  | some r => exact h
  | none =>
    rw [hsight] at hapart
    dsimp only at hapart ⊢
    by_cases hold : m.oldID≠""
    · rw [if_pos hold] at hapart ⊢
      exact processIDChange_recorded h (refusedRegistration_none hsight) (hapart hold)
    · rw [if_neg hold]
      split
      · exact h
      · next id _ =>
        split
        · exact h
        · have hadm:=h.refreshed hv (admitRegistration_drops id).refreshes
          generalize hs : s.admitRegistration id=result at hadm ⊢
          obtain ⟨admitted,t⟩:=result
          cases admitted with
          | error r => exact hadm
          | ok existing =>
            obtain ⟨had,rfl⟩:=admitRegistration_ok.mp hs
            exact claimEntry_recorded hv h had (hm (Decidable.not_not.mp hold))

theorem processRegisterPk_mismatch (hold : m.oldID="")
    (h : (s.processRegisterPk m addr).result=.uuidMismatch) : ∃ existing,
      s.Admits (s.processRegisterPk m addr).id existing ∧
        uuidMismatch (s.claimedEntry (s.processRegisterPk m addr).id existing) m=true := by
  have hsightne {r : Result} (hr : s.refusedRegistration m addr=some r) : r ≠ .uuidMismatch := by
    unfold refusedRegistration at hr
    split at hr
    · cases hr; decide
    · split at hr
      · cases hr; decide
      · split at hr <;> cases hr
        decide
  have hadmne {id : PeerID} {r : Result} {t : Server} (hr : s.admitRegistration id=(.error r,t)) :
      r ≠ .uuidMismatch := by
    unfold admitRegistration at hr
    split at hr
    · cases hr; decide
    · split at hr
      · cases hr; decide
      · split at hr
        · cases hr; decide
        · split at hr <;> cases hr <;> decide
  have hclaim {id : PeerID} {existing : Option Row}
      (hr : (s.claimEntry id existing m addr).result=.uuidMismatch) :
      uuidMismatch (s.claimedEntry id existing) m=true := by
    unfold claimEntry at hr
    dsimp only at hr
    split at hr
    · assumption
    · split at hr <;> cases hr
  generalize ho : s.processRegisterPk m addr=o at h ⊢
  unfold processRegisterPk at ho
  split at ho
  · next r hr =>
    cases ho
    exact absurd h (hsightne hr)
  · rw [if_neg (not_not.mpr hold)] at ho
    split at ho
    · cases ho
      cases h
    · split at ho
      · cases ho
        cases h
      · split at ho
        · next r t hr =>
          cases ho
          exact absurd h (hadmne hr)
        · next id _ _ existing t hr =>
          obtain ⟨had,rfl⟩:=admitRegistration_ok.mp hr
          subst ho
          rw [claimEntry_id.1]
          exact ⟨existing,had,hclaim h⟩

theorem bringsOnly_of_onRecord (hv : v≠[]) (hnormal : normalizePeerUUIDBytes v=v) (h : Recorded d v s)
    (hon : onRecord d s=true) (m : RegisterPk) : BringsOnly d v s m := by
  intro existing had hne hu
  have hclaimed:=(claimedEntry_uuid hv h had).resolve_left (claimedEntry_onRecord hon had)
  have hsame : normalizePeerUUIDBytes v=normalizePeerUUIDBytes m.uuid := by
    simpa [uuidMismatch,hclaimed,hv,hne,peerUUIDEqual] using hu
  exact hsame.symm.trans hnormal

theorem handleRegisterPk_recorded (hv : v≠[]) (h : Recorded d v s) {transport : ConnType}
    (hm : m.oldID="" → ∀ r : Server, r.peers=s.peers → r.db=s.db → BringsOnly d v r m)
    (hapart : m.oldID≠"" → (s.handleRegisterPk transport m addr).result=.ok → m.oldID≠d ∧ m.id≠d) :
    Recorded d v (s.handleRegisterPk transport m addr).server := by
  obtain ⟨r,hpeers,hdb,hresult,-,hbound⟩:=handleRegisterPk_as (s := s) transport m addr
  rw [hresult] at hapart
  exact (processRegisterPk_recorded hv (h.congr hpeers hdb) (fun hold => hm hold r hpeers hdb) hapart).refreshed hv hbound

end Frames

open Server

def step (s : Server) (a : Environment × KeyAction) : Option Server := some (s.perform a.1 a.2)

def Stays (d : PeerID) (s : Server) (a : Environment × KeyAction) : Prop :=
  onRecord d s=true ∧ (s.renames a.1 a.2).all (fun r => r.1≠d ∧ r.2≠d)=true

instance (d : PeerID) (s : Server) (a : Environment × KeyAction) : Decidable (Stays d s a) :=
  inferInstanceAs (Decidable (_ ∧ _))

theorem perform_recorded {s t : Server} {d : PeerID} {v : Bytes} (hv : v≠[]) (hnormal : normalizePeerUUIDBytes v=v)
    {a : Environment × KeyAction} (h : Recorded d v s) (hstays : Stays d s a) (ht : step s a=some t) :
    Recorded d v t := by
  obtain ⟨env,a⟩:=a
  obtain ⟨hon,hrenames⟩:=hstays
  cases ht
  have henv : Recorded d v (s.underEnv env) := ⟨h.live,h.row⟩
  cases a with
  | registerPeer id raddr => exact henv.refreshed hv (handleRegisterPeer_refreshes id raddr).1
  | registerPeerWS id addr => exact henv.refreshed hv (registerPeerWS_refreshes id addr)
  | registerPk transport m addr =>
    refine handleRegisterPk_recorded hv henv (fun _ r hpeers hdb => ?_) fun hold hok => ?_
    · have hr : Recorded d v r := henv.congr hpeers hdb
      have honr : onRecord d r=true := by
        unfold onRecord
        rw [hpeers,hdb]
        exact hon
      exact bringsOnly_of_onRecord hv hnormal hr honr m
    · have hrename : s.renames env (.registerPk transport m addr)=some (m.oldID,m.id) := if_pos ⟨hold,hok⟩
      rw [hrename] at hrenames
      simpa using hrenames
  | keepAlive conn => exact h.refreshed hv (touchWSHeartbeat_refreshes conn)
  | tick elapsed => exact ⟨h.live,h.row⟩
  | cleanup => exact h.refreshed hv cleanup_refreshes
  | restart => exact h.refreshed hv restart_refreshes

/-- A device that is registered for the first time with a UUID whose normal form is normal can
register with that UUID again after any run in which it keeps its ID and stays on record. -/
theorem uuid_stable :
    (∀ (d : PeerID) (u : Bytes), u≠[] →
      normalizePeerUUIDBytes (normalizePeerUUIDBytes u)=normalizePeerUUIDBytes u →
      ∀ s, Unrecorded d s → ∀ env transport addr (m : RegisterPk), m.uuid=u → m.oldID="" →
      ∀ as t, exec step (s.perform env (.registerPk transport m addr)) as=some t →
        Along step (Stays d) (s.perform env (.registerPk transport m addr)) as →
      ∀ env' transport' addr' (m' : RegisterPk), m'.uuid=u → m'.oldID="" →
        ((t.underEnv env').handleRegisterPk transport' m' addr').id=d →
          ((t.underEnv env').handleRegisterPk transport' m' addr').result ≠ .uuidMismatch) ∧
    ∀ a b, peerUUIDEqual a b=true → a≠b → HexOf a b ∨ HexOf b a ∨ ∃ c, HexOf a c ∧ HexOf b c := by
  refine ⟨?_,fun a b => equal_uuids⟩
  intro d u hu hnormal s hfirst env transport addr m hm hold as t hrun hstays env' transport' addr' m' hm' hold' hid hmis
  have hv:=normalize_nonempty hu
  -- the first registration leaves the normal form, and the run keeps it
  have hstart : Recorded d (normalizePeerUUIDBytes u) (s.perform env (.registerPk transport m addr)) := by
    have hs : Recorded d (normalizePeerUUIDBytes u) (s.underEnv env) :=
      ⟨(hfirst.recorded _).live,(hfirst.recorded _).row⟩
    refine handleRegisterPk_recorded hv hs (fun _ r _ _ existing _ _ _ => ?_) fun hne _ => absurd hold hne
    rw [hm]
  have hend:=exec_invariant (Recorded d (normalizePeerUUIDBytes u))
    (fun s a t h hok ht => perform_recorded hv hnormal h hok ht) hstart hstays hrun
  obtain ⟨r,hpeers,hdb,hresult,hrid,-⟩:=handleRegisterPk_as (s := t.underEnv env') transport' m' addr'
  have hunder : Recorded d (normalizePeerUUIDBytes u) (t.underEnv env') := ⟨hend.live,hend.row⟩
  have hr:=hunder.congr hpeers hdb
  rw [hresult] at hmis
  rw [hrid] at hid
  obtain ⟨existing,had,hu'⟩:=processRegisterPk_mismatch hold' hmis
  rw [hid] at had hu'
  obtain hnil | hsame:=claimedEntry_uuid hv hr had
  · simp [Server.uuidMismatch,hnil] at hu'
  · simp [Server.uuidMismatch,hsame,hm',peerUUIDEqual,hnormal] at hu'

def registration (id : PeerID) (uuid : Bytes) : RegisterPk := ⟨id,"",uuid,[],false⟩

def register (env : Environment) (id : PeerID) (uuid : Bytes) : Environment × KeyAction :=
  (env,.registerPk .tcp (registration id uuid) Keyed.client)

def laterResult (env : Environment) (u : Bytes) (as : List (Environment × KeyAction)) (id : PeerID) : Option Result :=
  (exec step Server.empty (register env "device-7" u::as)).map fun t =>
    ((t.underEnv Keyed.answering).handleRegisterPk .tcp (registration id u) Keyed.client).result

def backAgain : List (Environment × KeyAction) :=
  [(Keyed.answering,.restart),(Keyed.answering,.registerPeer "device-7" Keyed.client)]

theorem uuid_stable_backAgain :
    ((((Server.empty.perform Keyed.answering (.registerPk .tcp (registration "device-7" [1,2,3]) Keyed.client)).restart
      |>.perform Keyed.answering (.registerPeer "device-7" Keyed.client)).underEnv Keyed.answering).handleRegisterPk .tcp
        (registration "device-7" [1,2,3]) Keyed.client).result ≠ .uuidMismatch ∧
    (HexOf [54,49] [97] ∨ HexOf [97] [54,49] ∨ ∃ c, HexOf [54,49] c ∧ HexOf [97] c) := by
  refine ⟨uuid_stable.1 "device-7" [1,2,3] (by decide) (by decide) Server.empty ⟨(fun _ he => nomatch he),(fun _ h => nomatch h)⟩
    Keyed.answering .tcp Keyed.client (registration "device-7" [1,2,3]) rfl rfl backAgain _ rfl (by decide)
    Keyed.answering .tcp Keyed.client (registration "device-7" [1,2,3]) rfl rfl (by decide),?_⟩
  exact uuid_stable.2 [54,49] [97] (by decide) (by decide)

def unwritten : Environment := ⟨fun q => q=.upsertPeer "device-7",true,true⟩

/-- The text of a text is refused when it comes again; so is a UUID after an ID change with another
one, and when it was never stored and another device has taken the ID since. -/
theorem uuid_unstable :
    (¬ ∀ (u : Bytes) (as : List (Environment × KeyAction)),
      laterResult Keyed.answering u as "device-7"≠some .uuidMismatch) ∧
    (¬ ∀ a b : Bytes, peerUUIDEqual a b=true → a≠b → HexOf a b ∨ HexOf b a) ∧
    laterResult Keyed.answering [51,54,51,49] [] "device-7" = some .uuidMismatch ∧
    laterResult Keyed.answering [1,2,3]
      [(Keyed.answering,.registerPk .tcp ⟨"device-8","device-7",[4,5,6],[],false⟩ Keyed.client)] "device-8" =
        some .uuidMismatch ∧
    laterResult unwritten [1,2,3] [(Keyed.answering,.restart),register Keyed.answering "device-7" [4,5,6]]
      "device-7" = some .uuidMismatch := by
  have hdouble : laterResult Keyed.answering [51,54,51,49] [] "device-7" = some .uuidMismatch := by decide
  refine ⟨fun hall => hall _ _ hdouble,fun hall => ?_,hdouble,by decide,by decide⟩
  obtain h | h:=hall [54,65] [54,97] (by decide) (by decide)
  · exact absurd h (by decide)
  · exact absurd h (by decide)

end UuidRecord

end BetterDesk.Signal
