import BetterDesk.Relay.Authorization
import Mathlib.Data.List.Induction

/-! # The account of a relay ticket -/

namespace BetterDesk.Relay
open List Function Option Nat

inductive Op
  | authorize (uuid : UUID) (initiatorID targetID : PeerID)
  | claim (uuid : UUID)
  | release (uuid : UUID)
  | revokeForPeer (peerID : PeerID)
  | prune
  deriving DecidableEq

namespace Registry

/-- `Release` takes a claim back. -/
def releases (r : Registry) (now : ℕ) (uuid : UUID) : Bool :=
  ((r.prune now).tickets uuid).any fun tk => 0<tk.claims

def perform (r : Registry) (now : ℕ) : Op → Bool × Registry
  | .authorize u i t => r.authorize now u i t
  | .claim u => ((r.claim now u).1.isSome,(r.claim now u).2)
  | .release u => (r.releases now u,r.release now u)
  | .revokeForPeer p => (false,r.revokeForPeer now p)
  | .prune => (false,r.prune now)

/-- The ticket of `uuid` is revoked. -/
def revokes (r : Registry) (now : ℕ) (uuid : UUID) (op : Op) : Bool :=
  match op with
  | .revokeForPeer p => p≠""&&((r.prune now).tickets uuid).any fun tk => r.involves p tk
  | _ => false

end Registry

structure Clocked where
  now : ℕ
  reg : Registry

structure Timed where
  wait : ℕ
  op : Op

structure Event where
  now : ℕ
  before : Registry
  op : Op

namespace Event

def ok (e : Event) : Bool := (e.before.perform e.now e.op).1

def after (e : Event) : Registry := (e.before.perform e.now e.op).2

def claims (u : UUID) (e : Event) : Bool := e.op=.claim u&&e.ok

def releases (u : UUID) (e : Event) : Bool := e.op=.release u&&e.ok

def revokes (u : UUID) (e : Event) : Bool := e.before.revokes e.now u e.op

end Event

namespace Clocked

def event (s : Clocked) (a : Timed) : Event := ⟨s.now+a.wait,s.reg,a.op⟩

def step (s : Clocked) (a : Timed) : Clocked := ⟨s.now+a.wait,(s.event a).after⟩

def run (s : Clocked) (as : List Timed) : Clocked := as.foldl step s

def trace (s : Clocked) : List Timed → List Event
  | [] => []
  | a::as => s.event a::(s.step a).trace as

end Clocked

def claimed (u : UUID) (tr : List Event) : ℕ := tr.countP (Event.claims u)

def released (u : UUID) (tr : List Event) : ℕ := tr.countP (Event.releases u)

def Event.Refused (u : UUID) (e : Event) : Prop :=
  (e.op=.claim u → e.ok=false) ∧ ∀ i t, e.op=.authorize u i t → e.ok=false

def Event.Same (u : UUID) (e : Event) (k expiresAt : ℕ) (issue : Issue) : Prop :=
  ∃ claims, (e.before.prune e.now).tickets u=some ⟨k,expiresAt,claims⟩ ∧
    e.after.tickets u=some ⟨k,expiresAt,claims⟩ ∧ e.after.issued[k]?=some issue

namespace Clocked

@[simp] theorem run_append (s : Clocked) (as bs : List Timed) : s.run (as++bs)=(s.run as).run bs :=
  foldl_append

theorem trace_append (s : Clocked) (as bs : List Timed) : s.trace (as++bs)=s.trace as++(s.run as).trace bs := by
  induction as generalizing s with
  | nil => rfl
  | cons a as ih =>
    have htail:=ih (s.step a)
    simp only [cons_append,trace,htail]
    rfl

theorem now_le_run (s : Clocked) (as : List Timed) : s.now≤(s.run as).now := by
  induction as generalizing s with
  | nil => exact Nat.le_refl _
  | cons a as ih =>
    have hstep : s.now≤(s.step a).now := le_add_right _ _
    have hrest : (s.step a).now≤(s.run (a::as)).now := ih (s.step a)
    omega

end Clocked

section Account
variable (u : UUID) (i t : PeerID) (k expiresAt : ℕ)

/-- The ticket is live, and has `claims` claims. -/
structure Open (r : Registry) (claims : ℕ) : Prop where
  ticket : r.tickets u=some ⟨k,expiresAt,claims⟩
  unused : r.used u=none
  issue : r.issued[k]?=some ⟨u,i,t⟩

structure Closed (r : Registry) : Prop where
  ticket : r.tickets u=none
  used : r.used u=some expiresAt
  issue : r.issued[k]?=some ⟨u,i,t⟩

variable {u i t k expiresAt} {r : Registry} {now claims : ℕ}

theorem Open.prune (h : Open u i t k expiresAt r claims) (hnow : now<expiresAt) :
    Open u i t k expiresAt (r.prune now) claims := by
  refine ⟨?_,?_,h.issue⟩
  · have htk:=(Registry.prune_tickets r now u ⟨k,expiresAt,claims⟩).mpr ⟨h.ticket,hnow⟩
    exact htk
  · show (r.used u).filter _=none
    rw [h.unused]
    rfl

theorem Closed.prune (h : Closed u i t k expiresAt r) (hnow : now<expiresAt) :
    Closed u i t k expiresAt (r.prune now) := by
  refine ⟨?_,?_,h.issue⟩
  · show (r.tickets u).filter _=none
    rw [h.ticket]
    rfl
  · show (r.used u).filter _=some expiresAt
    rw [h.used,filter_some,if_pos (decide_eq_true hnow)]

theorem issued_getElem? {l : List Issue} (h : l[k]?=some ⟨u,i,t⟩) (x : Issue) : (l++[x])[k]?=some ⟨u,i,t⟩ := by
  have hlt : k<l.length := (List.getElem?_eq_some_iff.mp h).1
  rw [List.getElem?_append_left hlt,h]

theorem Open.of_same {r' : Registry} (h : Open u i t k expiresAt r claims) (ht : r'.tickets u=r.tickets u)
    (hu : r'.used u=r.used u) (hi : r'.issued[k]?=r.issued[k]?) : Open u i t k expiresAt r' claims :=
  ⟨ht.trans h.ticket,hu.trans h.unused,hi.trans h.issue⟩

theorem Closed.of_same {r' : Registry} (h : Closed u i t k expiresAt r) (ht : r'.tickets u=r.tickets u)
    (hu : r'.used u=r.used u) (hi : r'.issued[k]?=r.issued[k]?) : Closed u i t k expiresAt r' :=
  ⟨ht.trans h.ticket,hu.trans h.used,hi.trans h.issue⟩

theorem authorize_other {v : UUID} (hv : v≠u) (hissue : r.issued[k]?=some ⟨u,i,t⟩) (now : ℕ) (i' t' : PeerID) :
    (r.authorize now v i' t').2=r ∨ (r.authorize now v i' t').2=r.prune now ∨
      ((r.authorize now v i' t').2.tickets u=(r.prune now).tickets u ∧
        (r.authorize now v i' t').2.used u=(r.prune now).used u ∧
          (r.authorize now v i' t').2.issued[k]?=r.issued[k]?) := by
  unfold Registry.authorize
  split
  · exact .inl rfl
  · dsimp only
    split
    · exact .inr (.inl rfl)
    · split
      · exact .inr (.inl rfl)
      · refine .inr (.inr ⟨update_of_ne (Ne.symm hv) ..,rfl,?_⟩)
        rw [hissue]
        exact issued_getElem? hissue _

theorem claim_other {v : UUID} (hv : v≠u) (r : Registry) (now : ℕ) :
    (r.claim now v).2=r ∨ ((r.claim now v).2.tickets u=(r.prune now).tickets u ∧
      (r.claim now v).2.used u=(r.prune now).used u ∧ (r.claim now v).2.issued=r.issued) := by
  unfold Registry.claim
  split
  · exact .inl rfl
  · dsimp only
    split
    · exact .inr ⟨rfl,rfl,rfl⟩
    · split
      · exact .inr ⟨rfl,rfl,rfl⟩
      · split
        · exact .inr ⟨update_of_ne (Ne.symm hv) ..,update_of_ne (Ne.symm hv) ..,rfl⟩
        · exact .inr ⟨update_of_ne (Ne.symm hv) ..,rfl,rfl⟩

theorem release_other {v : UUID} (hv : v≠u) (r : Registry) (now : ℕ) :
    (r.release now v).tickets u=(r.prune now).tickets u ∧ (r.release now v).used u=(r.prune now).used u ∧
      (r.release now v).issued=r.issued := by
  unfold Registry.release
  dsimp only
  split
  · exact ⟨rfl,rfl,rfl⟩
  · split
    · exact ⟨update_of_ne (Ne.symm hv) ..,rfl,rfl⟩
    · exact ⟨rfl,rfl,rfl⟩

def counted (e : Event) (u : UUID) : ℕ × ℕ := ((e.claims u).toNat,(e.releases u).toNat)

theorem counted_claim (u : UUID) (r : Registry) (now : ℕ) :
    counted ⟨now,r,.claim u⟩ u=((r.claim now u).1.isSome.toNat,0) := by
  simp [counted,Event.claims,Event.releases,Event.ok,Registry.perform]

theorem counted_release (u : UUID) (r : Registry) (now : ℕ) :
    counted ⟨now,r,.release u⟩ u=(0,(r.releases now u).toNat) := by
  simp [counted,Event.claims,Event.releases,Event.ok,Registry.perform]

theorem counted_other (r : Registry) (now : ℕ) {op : Op} (hc : op ≠ .claim u) (hr : op ≠ .release u) :
    counted ⟨now,r,op⟩ u=(0,0) := by
  simp [counted,Event.claims,Event.releases,hc,hr]

def Accounts (u : UUID) (i t : PeerID) (k expiresAt claims : ℕ) (e : Event) : Prop :=
  ∃ n, n+(counted e u).2=claims+(counted e u).1 ∧
    ((Open u i t k expiresAt e.after n ∧ n≤1 ∧ e.revokes u=false) ∨ (Closed u i t k expiresAt e.after ∧ n≤2))

theorem accounts_quiet {op : Op} (hc : counted ⟨now,r,op⟩ u=(0,0)) (hrevoke : r.revokes now u op=false)
    (hle : claims≤1) (hafter : Open u i t k expiresAt (r.perform now op).2 claims) :
    Accounts u i t k expiresAt claims ⟨now,r,op⟩ := by
  refine ⟨claims,?_,.inl ⟨hafter,hle,hrevoke⟩⟩
  rw [hc]

theorem revoke_tickets {p : PeerID} (hp : p≠"") (u : UUID) : (r.revokeForPeer now p).tickets u =
    ((r.prune now).tickets u).filter fun tk => !(r.prune now).involves p tk := by
  unfold Registry.revokeForPeer
  rw [if_neg hp]

theorem revoke_used {p : PeerID} (hp : p≠"") {tk : Ticket} (ht : (r.prune now).tickets u=some tk) :
    (r.revokeForPeer now p).used u =
      if (r.prune now).involves p tk then some tk.expiresAt else (r.prune now).used u := by
  unfold Registry.revokeForPeer
  rw [if_neg hp]
  dsimp only
  rw [ht]

theorem revoke_used_none {p : PeerID} (hp : p≠"") (ht : (r.prune now).tickets u=none) :
    (r.revokeForPeer now p).used u=(r.prune now).used u := by
  unfold Registry.revokeForPeer
  rw [if_neg hp]
  dsimp only
  rw [ht]

theorem revoke_issued (p : PeerID) : (r.revokeForPeer now p).issued=r.issued := by
  unfold Registry.revokeForPeer
  split <;> rfl

section Open
variable (h : Open u i t k expiresAt r claims) (hle : claims≤1) (hnow : now<expiresAt)
include h hle hnow

theorem Open.authorize (v : UUID) (i' t' : PeerID) : Accounts u i t k expiresAt claims ⟨now,r,.authorize v i' t'⟩ := by
  have hpruned:=h.prune hnow
  refine accounts_quiet (counted_other r now (by simp) (by simp)) rfl hle ?_
  by_cases hv : v=u
  · subst hv
    show Open v i t k expiresAt (r.authorize now v i' t').2 claims
    unfold Registry.authorize
    split
    · exact h
    · dsimp only
      rw [hpruned.unused,hpruned.ticket]
      exact hpruned
  · rcases authorize_other hv h.issue now i' t' with heq | heq | ⟨ht,hu,hi⟩
    · exact heq.symm ▸ h
    · exact heq.symm ▸ hpruned
    · exact hpruned.of_same ht hu hi

theorem Open.claim (v : UUID) : Accounts u i t k expiresAt claims ⟨now,r,.claim v⟩ := by
  have hpruned:=h.prune hnow
  by_cases hv : v=u
  · subst hv
    unfold Accounts
    rw [counted_claim]
    show ∃ n, n+0=claims+(r.claim now v).1.isSome.toNat ∧
      ((Open v i t k expiresAt (r.claim now v).2 n ∧ n≤1 ∧ _) ∨ (Closed v i t k expiresAt (r.claim now v).2 ∧ n≤2))
    unfold Registry.claim
    split
    · exact ⟨claims,rfl,.inl ⟨h,hle,rfl⟩⟩
    · dsimp only
      rw [hpruned.ticket]
      dsimp only
      rw [if_neg (by omega)]
      split
      · refine ⟨2,by simp; omega,.inr ⟨⟨update_self ..,update_self ..,h.issue⟩,Nat.le_refl 2⟩⟩
      · rename_i hone
        have hzero : claims=0 := by omega
        subst hzero
        exact ⟨1,rfl,.inl ⟨⟨update_self ..,hpruned.unused,h.issue⟩,Nat.le_refl 1,rfl⟩⟩
  · refine accounts_quiet (counted_other r now (by simpa using hv) (by simp)) rfl hle ?_
    rcases claim_other hv r now with heq | ⟨ht,hu,hi⟩
    · exact heq.symm ▸ h
    · exact hpruned.of_same ht hu (congrArg (fun l : List Issue => l[k]?) hi)

theorem Open.release (v : UUID) : Accounts u i t k expiresAt claims ⟨now,r,.release v⟩ := by
  have hpruned:=h.prune hnow
  by_cases hv : v=u
  · subst hv
    unfold Accounts
    rw [counted_release]
    have hrel : r.releases now v=decide (0<claims) := by
      unfold Registry.releases
      rw [hpruned.ticket]
      rfl
    rw [hrel]
    show ∃ n, n+(decide (0<claims)).toNat=claims+0 ∧
      ((Open v i t k expiresAt (r.release now v) n ∧ n≤1 ∧ _) ∨ (Closed v i t k expiresAt (r.release now v) ∧ n≤2))
    unfold Registry.release
    dsimp only
    rw [hpruned.ticket]
    dsimp only
    by_cases hpos : 0<claims
    · rw [if_pos hpos,decide_eq_true hpos]
      refine ⟨claims-1,?_,.inl ⟨⟨update_self ..,hpruned.unused,h.issue⟩,by omega,rfl⟩⟩
      show claims-1+1=claims+0
      omega
    · rw [if_neg hpos,decide_eq_false hpos]
      exact ⟨claims,rfl,.inl ⟨hpruned,hle,rfl⟩⟩
  · refine accounts_quiet (counted_other r now (by simp) (by simpa using hv)) rfl hle ?_
    obtain ⟨ht,hu,hi⟩:=release_other hv r now
    exact hpruned.of_same ht hu (congrArg (fun l : List Issue => l[k]?) hi)

theorem Open.revokeForPeer (p : PeerID) : Accounts u i t k expiresAt claims ⟨now,r,.revokeForPeer p⟩ := by
  have hpruned:=h.prune hnow
  unfold Accounts
  rw [counted_other r now (by simp) (by simp)]
  by_cases hp : p=""
  · refine ⟨claims,rfl,.inl ⟨?_,hle,?_⟩⟩
    · show Open u i t k expiresAt (r.revokeForPeer now p) claims
      rw [Registry.revokeForPeer,if_pos hp]
      exact h
    · show r.revokes now u (.revokeForPeer p)=false
      simp [Registry.revokes,hp]
  · have hissue : (r.revokeForPeer now p).issued[k]?=r.issued[k]? := by rw [revoke_issued]
    cases hinv : (r.prune now).involves p ⟨k,expiresAt,claims⟩ with
    | true =>
      refine ⟨claims,rfl,.inr ⟨?_,by omega⟩⟩
      show Closed u i t k expiresAt (r.revokeForPeer now p)
      refine ⟨?_,?_,hissue.trans h.issue⟩
      · rw [revoke_tickets hp,hpruned.ticket,filter_some,hinv]
        rfl
      · rw [revoke_used hp hpruned.ticket]
        exact if_pos hinv
    | false =>
      refine ⟨claims,rfl,.inl ⟨?_,hle,?_⟩⟩
      · show Open u i t k expiresAt (r.revokeForPeer now p) claims
        refine ⟨?_,?_,hissue.trans h.issue⟩
        · rw [revoke_tickets hp,hpruned.ticket,filter_some,hinv]
          rfl
        · rw [revoke_used hp hpruned.ticket]
          exact (if_neg (by simp [hinv])).trans hpruned.unused
      · show (p≠""&&((r.prune now).tickets u).any fun tk => r.involves p tk)=false
        rw [hpruned.ticket,any_some]
        exact (congrArg (fun b => (decide (p≠"")&&b)) hinv).trans (Bool.and_false _)

theorem Open.perform (op : Op) : Accounts u i t k expiresAt claims ⟨now,r,op⟩ := by
  cases op with
  | authorize v i' t' => exact h.authorize hle hnow v i' t'
  | claim v => exact h.claim hle hnow v
  | release v => exact h.release hle hnow v
  | revokeForPeer p => exact h.revokeForPeer hle hnow p
  | prune => exact accounts_quiet (counted_other r now (by simp) (by simp)) rfl hle (h.prune hnow)

omit hle in
theorem Open.authorized {i' t' : PeerID} (hok : (r.authorize now u i' t').1=true) :
    i'=i ∧ t'=t ∧ Event.Same u ⟨now,r,.authorize u i' t'⟩ k expiresAt ⟨u,i,t⟩ := by
  have hpruned:=h.prune hnow
  have hne : ¬ (u="" ∨ i'="" ∨ t'="") := fun he => by
    rw [Registry.authorize,if_pos he] at hok
    cases hok
  have heq : r.authorize now u i' t'=((r.prune now).names ⟨k,expiresAt,claims⟩ i' t',r.prune now) := by
    rw [Registry.authorize,if_neg hne]
    dsimp only
    rw [hpruned.unused,hpruned.ticket]
  rw [heq] at hok
  dsimp only [Registry.names] at hok
  rw [hpruned.issue] at hok
  obtain ⟨hi,ht⟩:=Bool.and_eq_true_iff.mp hok
  refine ⟨(beq_iff_eq.mp hi).symm,(beq_iff_eq.mp ht).symm,claims,hpruned.ticket,?_,?_⟩
  · show (r.authorize now u i' t').2.tickets u=_
    rw [heq]
    exact hpruned.ticket
  · show (r.authorize now u i' t').2.issued[k]?=_
    rw [heq]
    exact hpruned.issue

end Open

section Closed
variable (h : Closed u i t k expiresAt r) (hnow : now<expiresAt)
include h hnow

theorem Closed.perform (op : Op) : Event.Refused u ⟨now,r,op⟩ ∧ counted ⟨now,r,op⟩ u=(0,0) ∧
    Closed u i t k expiresAt (r.perform now op).2 := by
  have hpruned:=h.prune hnow
  have hclaim : (r.claim now u).1=none ∧ Closed u i t k expiresAt (r.claim now u).2 := by
    unfold Registry.claim
    split
    · exact ⟨rfl,h⟩
    · dsimp only
      rw [hpruned.ticket]
      exact ⟨rfl,hpruned⟩
  have hauthorize (i' t' : PeerID) : (r.authorize now u i' t').1=false ∧
      Closed u i t k expiresAt (r.authorize now u i' t').2 := by
    unfold Registry.authorize
    split
    · exact ⟨rfl,h⟩
    · dsimp only
      rw [hpruned.used]
      exact ⟨rfl,hpruned⟩
  have hrefused : Event.Refused u ⟨now,r,op⟩ := by
    constructor
    · rintro rfl
      show (r.claim now u).1.isSome=false
      rw [hclaim.1]
      rfl
    · rintro i' t' rfl
      exact (hauthorize i' t').1
  cases op with
  | authorize v i' t' =>
    refine ⟨hrefused,counted_other r now (by simp) (by simp),?_⟩
    by_cases hv : v=u
    · subst hv
      exact (hauthorize i' t').2
    · rcases authorize_other hv h.issue now i' t' with heq | heq | ⟨ht,hu,hi⟩
      · exact heq.symm ▸ h
      · exact heq.symm ▸ hpruned
      · exact hpruned.of_same ht hu hi
  | claim v =>
    by_cases hv : v=u
    · subst hv
      refine ⟨hrefused,?_,hclaim.2⟩
      rw [counted_claim,hclaim.1]
      rfl
    · refine ⟨hrefused,counted_other r now (by simpa using hv) (by simp),?_⟩
      rcases claim_other hv r now with heq | ⟨ht,hu,hi⟩
      · exact heq.symm ▸ h
      · exact hpruned.of_same ht hu (congrArg (fun l : List Issue => l[k]?) hi)
  | release v =>
    by_cases hv : v=u
    · subst hv
      refine ⟨hrefused,?_,?_⟩
      · rw [counted_release,Registry.releases,hpruned.ticket]
        rfl
      · show Closed v i t k expiresAt (r.release now v)
        unfold Registry.release
        dsimp only
        rw [hpruned.ticket]
        exact hpruned
    · refine ⟨hrefused,counted_other r now (by simp) (by simpa using hv),?_⟩
      obtain ⟨ht,hu,hi⟩:=release_other hv r now
      exact hpruned.of_same ht hu (congrArg (fun l : List Issue => l[k]?) hi)
  | revokeForPeer p =>
    refine ⟨hrefused,counted_other r now (by simp) (by simp),?_⟩
    show Closed u i t k expiresAt (r.revokeForPeer now p)
    by_cases hp : p=""
    · rw [Registry.revokeForPeer,if_pos hp]
      exact h
    · refine ⟨?_,?_,by rw [revoke_issued,h.issue]⟩
      · rw [revoke_tickets hp,hpruned.ticket]
        rfl
      · rw [revoke_used_none hp hpruned.ticket]
        exact hpruned.used
  | prune => exact ⟨hrefused,counted_other r now (by simp) (by simp),hpruned⟩

end Closed

end Account

theorem open_of_issues {r : Registry} {now : ℕ} {u : UUID} {i t : PeerID} (h : r.issues now u i t=true) :
    Open u i t r.issued.length (now+relayPairTimeout) (r.authorize now u i t).2 0 := by
  have hafter:=(Registry.authorize_cases r now u i t).resolve_left fun hno => by
    rw [h] at hno
    cases hno.1
  have hnone : (r.prune now).used u=none := by
    unfold Registry.issues at h
    simp only [Bool.and_eq_true,isNone_iff_eq_none] at h
    exact h.1.2
  rw [hafter.2]
  refine ⟨update_self ..,hnone,?_⟩
  show (r.issued++[⟨u,i,t⟩])[r.issued.length]?=_
  rw [List.getElem?_append_right (Nat.le_refl _),Nat.sub_self]
  rfl

section Run
variable {u : UUID} {i t : PeerID} {k expiresAt : ℕ} {s : Clocked}

/-- The ticket of the UUID after a run, whose events are `tr`. -/
inductive Balance (u : UUID) (i t : PeerID) (k expiresAt : ℕ) (tr : List Event) (r : Registry) : Prop
  | live (n : ℕ) (h : Open u i t k expiresAt r n) (hle : n≤1) (hn : n+released u tr=claimed u tr)
      (hno : ∀ e∈tr,e.revokes u=false)
  | spent (h : Closed u i t k expiresAt r) (hle : released u tr≤claimed u tr)
      (hn : claimed u tr≤released u tr+2)

theorem counts_append (tr : List Event) (e : Event) : claimed u (tr++[e])=claimed u tr+(counted e u).1 ∧
      released u (tr++[e])=released u tr+(counted e u).2 := by
  unfold claimed released counted
  rw [countP_append,countP_append,countP_singleton,countP_singleton]
  constructor
  · cases e.claims u <;> rfl
  · cases e.releases u <;> rfl

theorem Balance.step {tr : List Event} {e : Event} (h : Balance u i t k expiresAt tr e.before)
    (hnow : e.now<expiresAt) : Balance u i t k expiresAt (tr++[e]) e.after := by
  obtain ⟨hc,hr⟩:=counts_append (u := u) tr e
  cases h with
  | live n ho hle hn hno =>
    obtain ⟨m,hm,⟨ho',hle',hrev⟩ | ⟨hclosed,hle'⟩⟩:=ho.perform hle hnow e.op
    · refine .live m ho' hle' ?_ fun e' he' => ?_
      · have hm' : m+(counted e u).2=n+(counted e u).1 := hm
        omega
      · rcases mem_append.mp he' with he' | he'
        · exact hno e' he'
        · rw [mem_singleton.mp he']
          exact hrev
    · have hm' : m+(counted e u).2=n+(counted e u).1 := hm
      refine .spent hclosed ?_ ?_
      · omega
      · omega
  | spent hclosed hle hn =>
    obtain ⟨-,hzero,hclosed'⟩:=hclosed.perform hnow e.op
    have hzero' : counted e u=(0,0) := hzero
    rw [hzero'] at hc hr
    refine .spent hclosed' ?_ ?_
    · omega
    · omega

theorem Balance.run {s : Clocked} (h : Open u i t k expiresAt s.reg 0) (as : List Timed)
    (hbefore : (s.run as).now<expiresAt) : Balance u i t k expiresAt (s.trace as) (s.run as).reg := by
  induction as using List.reverseRecOn with
  | nil => exact .live 0 h (zero_le 1) rfl fun e he => absurd he not_mem_nil
  | append_singleton as a ih =>
    rw [Clocked.run_append] at hbefore ⊢
    rw [Clocked.trace_append]
    have hle : (s.run as).now≤((s.run as).run [a]).now := Clocked.now_le_run _ _
    have hbalance:=ih (by omega)
    exact hbalance.step hbefore

theorem Closed.run {s : Clocked} (h : Closed u i t k expiresAt s.reg) (as : List Timed)
    (hbefore : (s.run as).now<expiresAt) : ∀ e∈s.trace as, e.Refused u := by
  induction as generalizing s with
  | nil => exact fun e he => absurd he not_mem_nil
  | cons a as ih =>
    have hle : (s.step a).now≤(s.run (a::as)).now := Clocked.now_le_run (s.step a) as
    obtain ⟨hrefused,-,hclosed⟩:=h.perform (Nat.lt_of_le_of_lt hle hbefore) a.op
    intro e he
    rcases mem_cons.mp he with rfl | he
    · exact hrefused
    · exact ih (s := s.step a) hclosed hbefore e he

end Run

structure TicketAccount (u : UUID) (i t : PeerID) (k expiresAt : ℕ) (s : Clocked) (as : List Timed) : Prop where
  outstanding : released u (s.trace as)≤claimed u (s.trace as) ∧ claimed u (s.trace as)≤released u (s.trace as)+2
  closed : ∀ bs cs, as=bs++cs →
    (claimed u (s.trace bs)=released u (s.trace bs)+2 ∨ ∃ e∈s.trace bs, e.revokes u=true) →
      ∀ e∈(s.run bs).trace cs, e.Refused u
  retried : ∀ e∈s.trace as, ∀ i' t', e.op=.authorize u i' t' → e.ok=true →
    i'=i ∧ t'=t ∧ e.Same u k expiresAt ⟨u,i,t⟩

theorem mem_trace {s : Clocked} {as : List Timed} {e : Event} (h : e∈s.trace as) :
    ∃ bs a cs, as=bs++a::cs ∧ e=(s.run bs).event a := by
  induction as generalizing s with
  | nil => exact absurd h not_mem_nil
  | cons a as ih =>
    rcases mem_cons.mp h with rfl | h
    · exact ⟨[],a,as,rfl,rfl⟩
    · obtain ⟨bs,b,cs,rfl,rfl⟩:=ih h
      exact ⟨a::bs,b,cs,rfl,rfl⟩

theorem ticketAccount_of_open {u : UUID} {i t : PeerID} {k expiresAt : ℕ} {s : Clocked}
    (h : Open u i t k expiresAt s.reg 0) {as : List Timed} (hbefore : (s.run as).now<expiresAt) :
    TicketAccount u i t k expiresAt s as := by
  refine ⟨?_,fun bs cs has hend => ?_,fun e he i' t' hop hok => ?_⟩
  · cases Balance.run h as hbefore with
    | live n _ hle hn _ =>
      constructor
      · omega
      · omega
    | spent _ hle hn => exact ⟨hle,hn⟩
  · subst has
    rw [Clocked.run_append] at hbefore
    have hmid : (s.run bs).now<expiresAt := Nat.lt_of_le_of_lt (Clocked.now_le_run _ cs) hbefore
    cases Balance.run h bs hmid with
    | live n _ hle hn hno =>
      rcases hend with htwo | ⟨e,he,hrev⟩
      · omega
      · rw [hno e he] at hrev
        cases hrev
    | spent hclosed _ _ => exact hclosed.run cs hbefore
  · obtain ⟨bs,a,cs,rfl,rfl⟩:=mem_trace he
    rw [Clocked.run_append] at hbefore
    have hnow : (s.run bs).now+a.wait<expiresAt :=
      Nat.lt_of_le_of_lt (Clocked.now_le_run ((s.run bs).step a) cs) hbefore
    have hmid : (s.run bs).now<expiresAt := Nat.lt_of_le_of_lt (Nat.le_add_right _ _) hnow
    have hop' : a.op=.authorize u i' t' := hop
    have hevent : (s.run bs).event a=⟨(s.run bs).now+a.wait,(s.run bs).reg,.authorize u i' t'⟩ := by
      rw [Clocked.event,hop']
    rw [hevent] at hok ⊢
    cases Balance.run h bs hmid with
    | live n hopen _ _ _ => exact hopen.authorized hnow hok
    | spent hclosed _ _ =>
      have hrefused:=(hclosed.perform hnow (.authorize u i' t')).1.2 i' t' rfl
      rw [hok] at hrefused
      cases hrefused

/-- Before the ticket expires, whatever operations come. -/
theorem ticket_accounting (s : Clocked) (u : UUID) (i t : PeerID) (as : List Timed)
    (hnew : s.reg.issues s.now u i t=true)
    (hbefore : (Clocked.run ⟨s.now,(s.reg.authorize s.now u i t).2⟩ as).now < s.now+relayPairTimeout) :
    TicketAccount u i t s.reg.issued.length (s.now+relayPairTimeout) ⟨s.now,(s.reg.authorize s.now u i t).2⟩ as :=
  ticketAccount_of_open (open_of_issues hnew) hbefore

def retriedPair : List Timed :=
  [⟨1,.claim "a0f8f3c1"⟩,⟨5,.release "a0f8f3c1"⟩,⟨0,.claim "a0f8f3c1"⟩,⟨2,.claim "a0f8f3c1"⟩]

theorem retriedPair_accounting : TicketAccount "a0f8f3c1" "device-7" "device-8" 0 40
      ⟨10,(Registry.empty.authorize 10 "a0f8f3c1" "device-7" "device-8").2⟩ retriedPair :=
  ticket_accounting ⟨10,Registry.empty⟩ "a0f8f3c1" "device-7" "device-8" retriedPair (by decide) (by decide)

end BetterDesk.Relay
