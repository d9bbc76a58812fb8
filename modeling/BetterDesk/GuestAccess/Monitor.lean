import BetterDesk.GuestAccess.Grants

/-! # What a client of a guest link has at hand -/

namespace BetterDesk.GuestAccess
open Programs Text Monitor

structure Grant.ActiveAt (g : Grant) (now : ℕ) : Prop where
  unrevoked : g.revokedAt=none
  unexpired : now≤g.expiresAt
  unused : 0<g.maxUses → g.useCount<g.maxUses

/-- `timed` carries the reading of the clock, `won` and `revoked` the grant as it was
before the swap. -/
inductive Stage
  | idle
  | drawn (key id : String)
  | stored (key : String) (g : Grant)
  | read (key : String) (g : Grant)
  | timed (key : String) (g : Grant) (now : ℕ)
  | won (key : String) (g : Grant) (now : ℕ)
  | revoking
  | revoked (key : String) (g : Grant)

namespace Stage

def Allowed : Stage → Op → Prop
  | .idle, .getConfig _ => True
  | .drawn _ _, .now => True
  | .drawn key id, .setConfig key' g => key'=key ∧ g.id=id ∧ g.useCount=0 ∧ g.revokedAt=none
  | .read _ g, .now => g.revokedAt=none
  | .timed _ _ _, .deleteConfig _ => True
  | .timed key g now, .compareAndSwapConfig key' expected replacement =>
    key'=key ∧ expected=g ∧ replacement=g.used ∧ g.ActiveAt now
  | .revoking, .now => True
  | .revoking, .listConfigByPrefix => True
  | .revoking, .compareAndSwapConfig _ expected replacement => ∃ now, replacement=expected.revoke now
  | _, _ => False

def after : Stage → (op : Op) → Res op → Stage
  | .idle, .getConfig key, some g => .read key g
  | .drawn _ _, .setConfig key g, true => .stored key g
  | .drawn _ _, .setConfig _ _, false => .idle
  | .read key g, .now, now => .timed key g now
  | .timed _ _ _, .deleteConfig _, _ => .idle
  | .timed key g now, .compareAndSwapConfig _ _ _, some true => .won key g now
  | .timed _ _ _, .compareAndSwapConfig _ _ _, _ => .idle
  | .revoking, .compareAndSwapConfig key g _, some true => .revoked key g
  | st, _, _ => st

end Stage

def clientMonitor : Monitor Op Res Stage := ⟨Stage.Allowed,fun st op r st' => st'=st.after op r⟩

section
variable (hashToken : String → String)

def Reports (reply : Reply) (st : Stage) : Prop :=
  ∀ key g, st=.stored key g → ∃ token, reply=.created token g ∧ key=configKey hashToken token

def Succeeds : Request → Reply → Stage → Prop
  | .create _ _ _ _ _ _ _ _, .created token g, st => st=.stored (configKey hashToken token) g
  | .validate token peerID, .grant g, st =>
    ∃ now, st=.timed (configKey hashToken (trimString token)) g now ∧ g.ActiveAt now ∧
      (peerID="" ∨ g.allowsPeer peerID)
  | .consume token peerID, .grant g', st =>
    ∃ g now, st=.won (configKey hashToken (trimString token)) g now ∧ g'=g.used ∧ g.ActiveAt now ∧
      g.allowsPeer peerID
  | .revokeByID id _ _, .revoked true, st => ∃ key g, st=.revoked key g ∧ g.id=id
  | _, _, _ => True

def Ends (r : Request) (reply : Reply) (st : Stage) : Prop :=
  Reports hashToken reply st ∧ Succeeds hashToken r reply st

def Request.start : Request → Stage
  | .create token id _ _ _ _ _ _ => .drawn (configKey hashToken token) id
  | .revokeByID _ _ _ => .revoking
  | _ => .idle

end

variable {hashToken : String → String} {key : String} {g : Grant}

theorem wp_ask {op : Op} {Q : Res op → Stage → Prop} {st : Stage} (hallowed : st.Allowed op)
    (hQ : ∀ r, Q r (st.after op r)) : clientMonitor.wp Q (ask op) st :=
  wp_perform.mpr ⟨hallowed,fun r _ hst => hst ▸ hQ r⟩

theorem wp_isActive {Q : Option String → Stage → Prop} (hpass : ∀ now, g.ActiveAt now → Q none (.timed key g now))
    (hfail : ∀ now text, Q (some text) (.timed key g now))
    (hrevoked : Q (some "guest link revoked") (.read key g)) : clientMonitor.wp Q g.isActive (.read key g) := by
  unfold Grant.isActive
  by_cases hrev : g.revokedAt.isSome
  · rw [if_pos hrev]
    exact hrevoked
  · rw [if_neg hrev]
    have hnone : g.revokedAt=none := by simpa using hrev
    refine wp_bind.mpr (wp_ask hnone fun now => ?_)
    by_cases hexp : g.expiresAt<now
    · rw [if_pos hexp]
      exact hfail now _
    · rw [if_neg hexp]
      by_cases huse : 0<g.maxUses ∧ g.maxUses≤g.useCount
      · rw [if_pos huse]
        exact hfail now _
      · rw [if_neg huse]
        exact hpass now ⟨hnone,by omega,by omega⟩

theorem ends_error {r : Request} {text : String} {st : Stage} (hst : ∀ key g, st ≠ .stored key g) :
    Ends hashToken r (.error text) st :=
  ⟨fun key g h => absurd h (hst key g),by cases r <;> exact trivial⟩

theorem wp_create (token id : String) (peerIDs : List String) (createdBy : String) (ttlMinutes : ℤ) (viewOnly : Bool)
    (label : String) (maxUses : ℤ) :
    clientMonitor.wp (Ends hashToken (.create token id peerIDs createdBy ttlMinutes viewOnly label maxUses))
      (create hashToken token id peerIDs createdBy ttlMinutes viewOnly label maxUses)
      (.drawn (configKey hashToken token) id) := by
  unfold create
  cases normalizePeerIDs peerIDs with
  | error text => exact ends_error fun _ _ h => (nomatch h)
  | ok peers =>
    refine wp_bind.mpr (wp_ask trivial fun now => ?_)
    refine wp_bind.mpr (wp_ask ⟨rfl,rfl,rfl,rfl⟩ fun stored => ?_)
    cases stored with
    | true =>
      refine ⟨fun key g h => ?_,rfl⟩
      cases h
      exact ⟨token,rfl,rfl⟩
    | false => exact ends_error fun _ _ h => (nomatch h)

theorem wp_validate (token peerID : String) :
    clientMonitor.wp (Ends hashToken (.validate token peerID)) (validate hashToken token peerID) .idle := by
  unfold validate
  dsimp only
  split
  · exact ends_error fun _ _ h => (nomatch h)
  · refine wp_bind.mpr (wp_ask trivial fun r => ?_)
    cases r with
    | none => exact ends_error fun _ _ h => (nomatch h)
    | some g =>
      refine wp_bind.mpr (wp_isActive ?_ ?_ ?_)
      · intro now hactive
        dsimp only
        split
        · exact ends_error fun _ _ h => (nomatch h)
        · rename_i hallowed
          refine ⟨fun _ _ h => (nomatch h),now,rfl,hactive,?_⟩
          by_cases hp : peerID=""
          · exact .inl hp
          · exact .inr (by simpa [hp] using hallowed)
      · intro now text
        dsimp only
        split
        · exact wp_bind.mpr (wp_ask trivial fun _ => ends_error fun _ _ h => (nomatch h))
        · exact ends_error fun _ _ h => (nomatch h)
      · exact ends_error fun _ _ h => (nomatch h)

theorem wp_consumeLoop {Q : Reply → Stage → Prop} (peerID : String) (enforcePeer : Bool)
    (hgive : ∀ text st, (∀ key g, st ≠ .stored key g) → Q (.error text) st)
    (hwin : ∀ g now, g.ActiveAt now → (enforcePeer → g.allowsPeer peerID) → Q (.grant g.used) (.won key g now))
    (attempts : ℕ) : clientMonitor.wp Q (consumeLoop key peerID enforcePeer attempts) .idle := by
  induction attempts with
  | zero => exact hgive _ _ fun _ _ h => (nomatch h)
  | succ attempts ih =>
    refine wp_bind.mpr (wp_ask trivial fun r => ?_)
    cases r with
    | none => exact hgive _ _ fun _ _ h => (nomatch h)
    | some g =>
      refine wp_bind.mpr (wp_isActive ?_ ?_ ?_)
      · intro now hactive
        dsimp only
        split
        · exact hgive _ _ fun _ _ h => (nomatch h)
        · rename_i hallowed
          refine wp_bind.mpr (wp_ask ⟨rfl,rfl,rfl,hactive⟩ fun swapped => ?_)
          rcases swapped with _ | _ | _
          · exact hgive _ _ fun _ _ h => (nomatch h)
          · exact ih
          · refine hwin g now hactive fun henforce => ?_
            simpa [henforce] using hallowed
      · exact fun now text => hgive _ _ fun _ _ h => (nomatch h)
      · exact hgive _ _ fun _ _ h => (nomatch h)

theorem wp_consume (token peerID : String) :
    clientMonitor.wp (Ends hashToken (.consume token peerID)) (consume hashToken token peerID) .idle := by
  unfold consume consumeWith
  generalize 8=attempts
  dsimp only
  split
  · exact ends_error fun _ _ h => (nomatch h)
  · split
    · exact ends_error fun _ _ h => (nomatch h)
    · refine wp_consumeLoop _ _ (fun text st hst => ends_error hst) ?_ _
      intro g now hactive hallowed
      refine ⟨fun _ _ h => (nomatch h),g,now,rfl,rfl,hactive,?_⟩
      have hpeer:=hallowed rfl
      unfold Grant.allowsPeer at hpeer ⊢
      rwa [trimString_trimString] at hpeer

theorem wp_touch (token : String) : clientMonitor.wp (Ends hashToken (.touch token)) (touch hashToken token) .idle := by
  unfold touch consumeWith
  generalize 8=attempts
  refine wp_bind.mpr ?_
  dsimp only
  split
  · exact ⟨fun _ _ h => (nomatch h),trivial⟩
  · refine wp_consumeLoop _ _ (fun text st hst => ⟨fun key g h => absurd h (hst key g),trivial⟩) ?_ _
    exact fun g now _ _ => ⟨fun _ _ h => (nomatch h),trivial⟩

theorem wp_revokeEntries {Q : Reply → Stage → Prop} {id createdBy : String} {admin : Bool} {again : Prog Reply}
    (hgive : ∀ text, Q (.error text) .revoking) (hwin : ∀ key g, g.id=id → Q (.revoked true) (.revoked key g))
    (hagain : clientMonitor.wp Q again .revoking) (entries : List (String × Grant)) :
    clientMonitor.wp Q (revokeEntries id createdBy admin again entries) .revoking := by
  induction entries with
  | nil => exact hagain
  | cons e rest ih =>
    obtain ⟨key,g⟩:=e
    unfold revokeEntries
    split
    · exact ih
    · rename_i hid
      split
      · exact hgive _
      · refine wp_bind.mpr (wp_ask trivial fun now => ?_)
        refine wp_bind.mpr (wp_ask ⟨now,rfl⟩ fun swapped => ?_)
        rcases swapped with _ | _ | _
        · exact hgive _
        · exact ih
        · exact hwin key g (by simpa using hid)

theorem wp_revokeByID (id createdBy : String) (admin : Bool) :
    clientMonitor.wp (Ends hashToken (.revokeByID id createdBy admin)) (revokeByID id createdBy admin) .revoking := by
  unfold revokeByID
  generalize 8=attempts
  induction attempts with
  | zero => exact ⟨fun _ _ h => (nomatch h),trivial⟩
  | succ attempts ih =>
    refine wp_bind.mpr (wp_ask trivial fun r => ?_)
    cases r with
    | none => exact ⟨fun _ _ h => (nomatch h),trivial⟩
    | some entries =>
      refine wp_revokeEntries (fun text => ⟨fun _ _ h => (nomatch h),trivial⟩) ?_ ih entries
      exact fun key g hid => ⟨fun _ _ h => (nomatch h),key,g,rfl,hid⟩

theorem wp_handle (r : Request) : clientMonitor.wp (Ends hashToken r) (handle hashToken r) (r.start hashToken) := by
  cases r with
  | create token id peerIDs createdBy ttlMinutes viewOnly label maxUses =>
    exact @wp_create hashToken token id peerIDs createdBy ttlMinutes viewOnly label maxUses
  | validate token peerID => exact @wp_validate hashToken token peerID
  | consume token peerID => exact @wp_consume hashToken token peerID
  | touch token => exact @wp_touch hashToken token
  | revokeByID id createdBy admin => exact @wp_revokeByID hashToken id createdBy admin

end BetterDesk.GuestAccess
