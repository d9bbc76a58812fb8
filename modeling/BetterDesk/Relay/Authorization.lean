import Mathlib.Data.Option.Basic
import Mathlib.Data.List.Basic

/-! # The relay authorization registry (relay/authorization.go) -/

namespace BetterDesk.Relay

abbrev UUID := String
abbrev PeerID := String

/-- `config.RelayPairTimeout`, in seconds. -/
def relayPairTimeout : ℕ := 30

/-- `relayAuthorization`. The pair itself stands in `issued` under `id`. -/
structure Ticket where
  id : ℕ
  expiresAt : ℕ
  claims : ℕ

/-- What `Authorize` was called with when it created a ticket. -/
structure Issue where
  uuid : UUID
  initiatorID : PeerID
  targetID : PeerID
  deriving DecidableEq

structure Registry where
  tickets : UUID → Option Ticket
  used : UUID → Option ℕ
  issued : List Issue

namespace Registry

def empty : Registry := ⟨fun _ => none,fun _ => none,[]⟩

/-- `pruneLocked`: an entry stays while `expiresAt.After(now)`. -/
def prune (r : Registry) (now : ℕ) : Registry :=
  { r with
    tickets := fun u => (r.tickets u).filter fun tk => now<tk.expiresAt
    used := fun u => (r.used u).filter fun e => now<e}

/-- The ticket of `uuid` names this initiator and target. -/
def names (r : Registry) (tk : Ticket) (initiatorID targetID : PeerID) : Bool :=
  match r.issued[tk.id]? with
  | some i => i.initiatorID==initiatorID&&i.targetID==targetID
  | none => false

/-- `Authorize` with valid arguments creates a ticket in this registry: the
UUID has neither a live tombstone nor a live ticket. -/
def issues (r : Registry) (now : ℕ) (uuid : UUID) (initiatorID targetID : PeerID) : Bool :=
  uuid != ""&&initiatorID != ""&&targetID != "" &&
    ((r.prune now).used uuid).isNone&&((r.prune now).tickets uuid).isNone

def authorize (r : Registry) (now : ℕ) (uuid : UUID) (initiatorID targetID : PeerID) :
    Bool × Registry := if uuid="" ∨ initiatorID="" ∨ targetID="" then (false,r)
  else
    let r:=r.prune now
    match r.used uuid with
    | some _ => (false,r)
    | none => match r.tickets uuid with
      | some tk => (r.names tk initiatorID targetID,r)
      | none => (true,{r with
          tickets := Function.update r.tickets uuid
            (some ⟨r.issued.length,now+relayPairTimeout,0⟩)
          issued := r.issued++[⟨uuid,initiatorID,targetID⟩]})

/-- `Claim`, with the ticket the claim was counted on. -/
def claim (r : Registry) (now : ℕ) (uuid : UUID) : Option ℕ × Registry :=
  if uuid="" then (none,r)
  else
    let r:=r.prune now
    match r.tickets uuid with
    | none => (none,r)
    | some tk =>
      if 2≤tk.claims then (none,r)
      else if tk.claims+1=2 then (some tk.id,{r with
        tickets := Function.update r.tickets uuid none
        used := Function.update r.used uuid (some tk.expiresAt)})
      else (some tk.id,{r with
        tickets := Function.update r.tickets uuid (some {tk with claims := tk.claims+1})})

def release (r : Registry) (now : ℕ) (uuid : UUID) : Registry :=
  let r:=r.prune now
  match r.tickets uuid with
  | none => r
  | some tk => if 0<tk.claims then
      {r with tickets := Function.update r.tickets uuid (some {tk with claims := tk.claims-1})}
    else r

/-- The ticket involves `peerID`. -/
def involves (r : Registry) (peerID : PeerID) (tk : Ticket) : Bool :=
  match r.issued[tk.id]? with
  | some i => i.initiatorID==peerID||i.targetID==peerID
  | none => false

def revokeForPeer (r : Registry) (now : ℕ) (peerID : PeerID) : Registry :=
  if peerID="" then r
  else
    let r:=r.prune now
    { r with
      tickets := fun u => (r.tickets u).filter fun tk => !r.involves peerID tk
      used := fun u => match r.tickets u with
        | some tk => if r.involves peerID tk then some tk.expiresAt else r.used u
        | none => r.used u}

/-- `s` has no ticket that `r` does not have, and the same issue history. -/
structure Sub (s r : Registry) : Prop where
  tickets : ∀ u tk, s.tickets u=some tk → r.tickets u=some tk
  issued : s.issued=r.issued

variable (r : Registry)

theorem Sub.refl : Sub r r := ⟨fun _ _ h => h,rfl⟩

theorem prune_tickets (now : ℕ) (u : UUID) (tk : Ticket) :
    (r.prune now).tickets u=some tk ↔ r.tickets u=some tk ∧ now<tk.expiresAt := by
  simp [prune]

theorem prune_sub (now : ℕ) : Sub (r.prune now) r :=
  ⟨fun u tk h => ((prune_tickets r now u tk).mp h).1,rfl⟩

theorem revokeForPeer_sub (now : ℕ) (peerID : PeerID) : Sub (r.revokeForPeer now peerID) r := by
  unfold revokeForPeer
  split
  · exact Sub.refl r
  · refine ⟨fun u tk h => ?_,rfl⟩
    simp only [Option.filter_eq_some_iff] at h
    exact (prune_sub r now).tickets u tk h.1

theorem authorize_cases (now : ℕ) (uuid : UUID) (i t : PeerID) :
    (r.issues now uuid i t=false ∧ Sub (r.authorize now uuid i t).2 r) ∨
    (r.issues now uuid i t=true ∧ (r.authorize now uuid i t).2 =
      { r.prune now with
        tickets := Function.update (r.prune now).tickets uuid
          (some ⟨r.issued.length,now+relayPairTimeout,0⟩)
        issued := r.issued++[⟨uuid,i,t⟩]}) := by
  by_cases he : uuid="" ∨ i="" ∨ t=""
  · refine Or.inl ⟨?_,by simp only [authorize,if_pos he]; exact Sub.refl r⟩
    rcases he with h | h | h <;> simp [issues,h]
  · simp only [authorize,if_neg he]
    have hne : uuid≠"" ∧ i≠"" ∧ t≠"" := by
      simpa only [not_or] using he
    cases hu : (r.prune now).used uuid with
    | some e => exact Or.inl ⟨by simp [issues,hu],prune_sub r now⟩
    | none =>
      cases ht : (r.prune now).tickets uuid with
      | some tk => exact Or.inl ⟨by simp [issues,ht],prune_sub r now⟩
      | none => exact Or.inr ⟨by simp [issues,hne,hu,ht],rfl⟩

theorem claim_cases (now : ℕ) (uuid : UUID) :
    ((r.claim now uuid).1=none ∧ Sub (r.claim now uuid).2 r) ∨
    ∃ tk, (r.prune now).tickets uuid=some tk ∧ (r.claim now uuid).1=some tk.id ∧
      (r.claim now uuid).2.issued=r.issued ∧
      ((tk.claims=0 ∧ (r.claim now uuid).2.tickets =
          Function.update (r.prune now).tickets uuid (some {tk with claims := 1})) ∨
       (tk.claims=1 ∧ (r.claim now uuid).2.tickets =
          Function.update (r.prune now).tickets uuid none)) := by
  unfold claim
  split
  · exact Or.inl ⟨rfl,Sub.refl r⟩
  · cases ht : (r.prune now).tickets uuid with
    | none => exact Or.inl ⟨by simp only [ht],by simp only [ht]; exact prune_sub r now⟩
    | some tk =>
      simp only [ht]
      by_cases h2 : 2≤tk.claims
      · rw [if_pos h2]
        exact Or.inl ⟨rfl,prune_sub r now⟩
      · rw [if_neg h2]
        by_cases h1 : tk.claims+1=2
        · rw [if_pos h1]
          exact Or.inr ⟨tk,rfl,rfl,rfl,Or.inr ⟨by omega,rfl⟩⟩
        · rw [if_neg h1]
          have h0 : tk.claims=0 := by omega
          refine Or.inr ⟨tk,rfl,rfl,rfl,Or.inl ⟨h0,?_⟩⟩
          rw [h0]

theorem release_cases (now : ℕ) (uuid : UUID) :
    (Sub (r.release now uuid) r ∧
      ∀ tk, (r.prune now).tickets uuid=some tk → tk.claims=0) ∨
    ∃ tk, (r.prune now).tickets uuid=some tk ∧ 0<tk.claims ∧
      (r.release now uuid).issued=r.issued ∧
      (r.release now uuid).tickets =
        Function.update (r.prune now).tickets uuid (some {tk with claims := tk.claims-1}) := by
  unfold release
  cases ht : (r.prune now).tickets uuid with
  | none =>
    refine Or.inl ⟨by simp only [ht]; exact prune_sub r now,fun tk h => ?_⟩
    cases h
  | some tk =>
    simp only [ht]
    by_cases hc : 0<tk.claims
    · simp only [if_pos hc]
      exact Or.inr ⟨tk,rfl,hc,rfl,rfl⟩
    · simp only [if_neg hc]
      refine Or.inl ⟨prune_sub r now,fun tk' h => ?_⟩
      cases h
      omega

end Registry

end BetterDesk.Relay
