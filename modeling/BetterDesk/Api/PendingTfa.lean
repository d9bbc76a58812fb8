import Mathlib.Data.Int.Notation
import Mathlib.Data.List.Induction
import BetterDesk.Lib.Exec
import BetterDesk.Lib.SyncMap

/-! # Logins that wait for a second factor (tfaSessionStore, api/client_api_handlers.go) -/

namespace BetterDesk.Api.PendingTfa
open Exec List Option Nat

structure TfaSession where
  username : String
  role : String
  userID : ℤ
  clientID : String
  clientUUID : String
  clientIP : String
  createdAt : ℤ
deriving DecidableEq

def lifetime : ℤ := 5*60*1000000000

def maxSessions : ℕ := 1000

def TfaSession.fresh (now : ℤ) (sess : TfaSession) : Bool := now-sess.createdAt≤lifetime

/-- `stuck` waits for ever for itself, `fatal` has ended the process. -/
inductive Mutex where
  | unlocked | locked | stuck | fatal
deriving DecidableEq

def Mutex.lock : Mutex → Mutex
  | .unlocked => .locked
  | .locked => .stuck
  | m => m

def Mutex.unlock : Mutex → Mutex
  | .locked => .unlocked
  | .unlocked => .fatal
  | m => m

structure Store where
  mu : Mutex
  sessions : SyncMap String TfaSession

namespace Store

def empty : Store := ⟨.unlocked,[]⟩

variable (s : Store)

def pruned (now : ℤ) : SyncMap String TfaSession := s.sessions.filter fun x => x.2.fresh now

def put (secret : String) (sess : TfaSession) (now : ℤ) : Store :=
  let mu:=s.mu.lock
  let sessions:=s.pruned now
  -- the early return unlocks, and then the deferred call unlocks again
  if maxSessions ≤ sessions.length then ⟨mu.unlock.unlock,sessions⟩
  else ⟨mu.unlock,sessions.store secret sess⟩

def take (secret : String) (now : ℤ) : Option TfaSession × Store :=
  let mu:=s.mu.lock
  match s.sessions.load secret with
  | none => (none,⟨mu.unlock,s.sessions⟩)
  | some sess => (if sess.fresh now then some sess else none,⟨mu.unlock,s.sessions.delete secret⟩)

end Store

inductive Entry where
  | stored (secret : String) (sess : TfaSession)
  | taken (secret : String) (now : ℤ) (result : Option TfaSession)
deriving DecidableEq

structure State where
  store : Store
  clock : ℤ
  log : List Entry

def State.start : State := ⟨.empty,0,[]⟩

inductive Event where
  | put (secret : String) (sess : TfaSession) (now : ℤ)
  | take (secret : String) (now : ℤ)

def Event.now : Event → ℤ
  | .put _ _ now => now
  | .take _ now => now

/-- A call goes through when the process runs and the mutex is free; the clock does not go back. -/
def step (s : State) (a : Event) : Option State :=
  if s.store.mu=.unlocked ∧ s.clock≤a.now then
    match a with
    | .put secret sess now =>
      some ⟨s.store.put secret sess now,now,
        if (s.store.pruned now).length < maxSessions then s.log++[.stored secret sess] else s.log⟩
    | .take secret now => some ⟨(s.store.take secret now).2,now,s.log++[.taken secret now (s.store.take secret now).1]⟩
  else none

def pending (secret : String) (log : List Entry) : Option TfaSession :=
  log.foldl (fun p x => match x with
    | .stored k sess => if k=secret then some sess else p
    | .taken k _ _ => if k=secret then none else p) none

def isStored (secret : String) (sess : TfaSession) (x : Entry) : Bool := x=.stored secret sess

def isTaken (secret : String) (sess : TfaSession) : Entry → Bool
  | .taken k _ result => k=secret&&result=some sess
  | _ => false

/-- Each call for a secret has found what waits for it, as long as that is fresh. -/
def Found (log : List Entry) : Prop :=
  ∀ before after secret now result, log=before ++ .taken secret now result::after →
    result=(pending secret before).filter (TfaSession.fresh now)

structure Sound (s : State) : Prop where
  bounded : s.store.sessions.length ≤ maxSessions
  paired : s.store.mu=.unlocked
  found : Found s.log
  once : ∀ secret sess, s.log.countP (isTaken secret sess) ≤ s.log.countP (isStored secret sess)
  young : ∀ secret now sess, .taken secret now (some sess)∈s.log → now-sess.createdAt≤lifetime

def StepOk (s : State) : Event → Prop
  | .put _ _ now => s.clock≤now → (s.store.pruned now).length < maxSessions
  | .take _ _ => True

theorem pending_stored (secret k : String) (sess : TfaSession) (log : List Entry) :
    pending secret (log++[.stored k sess]) = if k=secret then some sess else pending secret log := by
  simp [pending]

theorem pending_taken (secret k : String) (now : ℤ) (result : Option TfaSession) (log : List Entry) :
    pending secret (log++[.taken k now result]) = if k=secret then none else pending secret log := by
  simp [pending]

variable {sess : TfaSession} {secret : String} {s : State} {now : ℤ} {log : List Entry}

theorem found_snoc {x : Entry} :
    Found (log++[x]) ↔ Found log ∧ ∀ secret now result, x=.taken secret now result →
      result=(pending secret log).filter (TfaSession.fresh now) := by
  constructor
  · intro h
    refine ⟨fun before after secret now result he => ?_,fun secret now result he => ?_⟩
    · refine h before (after++[x]) secret now result ?_
      rw [he,append_assoc,cons_append]
    · exact h log [] secret now result (by rw [he])
  · intro h before after secret now result he
    obtain hnil | ⟨init,last,hinit⟩:=eq_nil_or_concat after
    · rw [hnil] at he
      obtain ⟨hb,hx⟩:=append_inj' he rfl
      rw [← hb]
      exact h.2 secret now result (singleton_inj.mp hx)
    · rw [hinit,concat_eq_append,← cons_append,← append_assoc] at he
      exact h.1 before init secret now result (append_inj' he rfl).1

theorem found_nil : Found [] := by
  intro before after secret now result he
  exact absurd he.symm (by simp)

theorem Found.once (h : Found log) (secret : String) (sess : TfaSession) :
    log.countP (isTaken secret sess)+(if pending secret log=some sess then 1 else 0) ≤
      log.countP (isStored secret sess) := by
  induction log using List.reverseRecOn with
  | nil => simp [pending]
  | append_singleton log x ih =>
    obtain ⟨hlog,hlast⟩:=found_snoc.mp h
    have hcount:=ih hlog
    rw [countP_append,countP_append,countP_singleton,countP_singleton]
    cases x with
    | stored k sess' =>
      rw [pending_stored]
      by_cases hk : k=secret
      · by_cases hs : sess'=sess
        · simp [hk,hs,isTaken,isStored]
          omega
        · simp [hk,hs,isTaken,isStored]
          omega
      · simp [hk,isTaken,isStored]
        omega
    | taken k now result =>
      rw [pending_taken]
      by_cases hk : k=secret
      · have hresult:=hlast k now result rfl
        by_cases hr : result=some sess
        · rw [hr,hk] at hresult
          have hpending:=(filter_eq_some_iff.mp hresult.symm).1
          simp [hk,hr,isTaken,isStored,hpending] at hcount ⊢
          omega
        · simp [hk,hr,isTaken,isStored]
          omega
      · simp [hk,isTaken,isStored]
        omega

theorem Found.young (h : Found log) (hx : .taken secret now (some sess)∈log) : now-sess.createdAt≤lifetime := by
  obtain ⟨before,after,he⟩:=append_of_mem hx
  have hfresh:=(filter_eq_some_iff.mp (h before after secret now _ he).symm).2
  exact of_decide_eq_true hfresh

structure Inv (s : State) : Prop where
  bounded : s.store.sessions.length ≤ maxSessions
  paired : s.store.mu=.unlocked
  found : Found s.log
  keys : (s.store.sessions.map Prod.fst).Nodup
  waits : ∀ secret now, s.clock≤now →
    (s.store.sessions.load secret).filter (TfaSession.fresh now)=(pending secret s.log).filter (TfaSession.fresh now)

theorem Inv.sound (h : Inv s) : Sound s where
  bounded := h.bounded
  paired := h.paired
  found := h.found
  once secret sess := Nat.le_trans (Nat.le_add_right _ _) (h.found.once secret sess)
  young _ _ _ hx := h.found.young hx

theorem fresh_of_later {later : ℤ} (h : now≤later) (hf : sess.fresh later=true) : sess.fresh now=true := by
  simp only [TfaSession.fresh,decide_eq_true_eq] at hf ⊢
  omega

theorem filter_filter_fresh {later : ℤ} (h : now≤later) (o : Option TfaSession) :
    (o.filter (TfaSession.fresh now)).filter (TfaSession.fresh later)=o.filter (TfaSession.fresh later) := by
  cases o with
  | none => rfl
  | some sess =>
    by_cases hf : sess.fresh later=true
    · simp [Option.filter,hf,fresh_of_later h hf]
    · by_cases hn : sess.fresh now=true <;> simp [Option.filter,hf,hn]

theorem Inv.put_room (h : Inv s) (hroom : (s.store.pruned now).length < maxSessions) :
    s.store.put secret sess now=⟨.unlocked,SyncMap.store (s.store.pruned now) secret sess⟩ := by
  simp only [Store.put,if_neg (Nat.not_le.mpr hroom),h.paired]
  rfl

theorem Inv.put (h : Inv s) (hclock : s.clock≤now) (hroom : (s.store.pruned now).length < maxSessions) :
    Inv ⟨s.store.put secret sess now,now,s.log++[.stored secret sess]⟩ := by
  have hkeys : (List.map Prod.fst (s.store.pruned now)).Nodup := SyncMap.nodup_filter h.keys _
  rw [h.put_room hroom]
  refine ⟨?_,rfl,found_snoc.mpr ⟨h.found,by simp⟩,SyncMap.nodup_store hkeys secret sess,fun k later hk => ?_⟩
  · have hle:=length_filter_le (fun x : String × TfaSession => decide (x.1≠secret)) (s.store.pruned now)
    simp only [SyncMap.store,SyncMap.delete,length_cons]
    omega
  · rw [pending_stored]
    by_cases hs : k=secret
    · rw [hs,SyncMap.load_store_self,if_pos rfl]
    · have hwaits:=h.waits k later (Int.le_trans hclock hk)
      rw [SyncMap.load_store_of_ne _ _ hs,if_neg (Ne.symm hs),← hwaits,Store.pruned,SyncMap.load_filter h.keys]
      exact filter_filter_fresh hk _

theorem Inv.take (h : Inv s) (hclock : s.clock≤now) :
    Inv ⟨(s.store.take secret now).2,now,s.log++[.taken secret now (s.store.take secret now).1]⟩ := by
  have hresult : (s.store.take secret now).1=(s.store.sessions.load secret).filter (TfaSession.fresh now) := by
    unfold Store.take
    cases s.store.sessions.load secret with
    | none => rfl
    | some sess => rfl
  have hstore : (s.store.take secret now).2=⟨.unlocked,s.store.sessions.delete secret⟩ := by
    unfold Store.take
    rw [h.paired]
    cases hl : s.store.sessions.load secret with
    | none => rw [SyncMap.delete_eq_self hl]; rfl
    | some sess => rfl
  rw [hresult,hstore,h.waits secret now hclock]
  refine ⟨?_,rfl,found_snoc.mpr ⟨h.found,?_⟩,SyncMap.nodup_delete h.keys secret,fun k later hk => ?_⟩
  · exact Nat.le_trans (length_filter_le _ _) h.bounded
  · intro k later result he
    cases he
    rfl
  · rw [pending_taken]
    by_cases hs : k=secret
    · rw [hs,SyncMap.load_delete_self,if_pos rfl]
    · rw [SyncMap.load_delete_of_ne _ hs,if_neg (Ne.symm hs)]
      exact h.waits k later (Int.le_trans hclock hk)

theorem Inv.full (h : Inv s)
    (hfull : ¬ (s.store.pruned now).length < maxSessions) : (s.store.put secret sess now).mu=.fatal := by
  simp only [Store.put,if_pos (Nat.not_lt.mp hfull),h.paired]
  rfl

theorem Inv.step {t : State} (h : Inv s) {a : Event} (hok : StepOk s a) (ht : step s a=some t) : Inv t := by
  unfold PendingTfa.step at ht
  obtain ⟨⟨-,hclock⟩,ht⟩:=ite_none_right_eq_some.mp ht
  cases a with
  | put secret sess now =>
    have hroom:=hok hclock
    dsimp only at ht
    rw [if_pos hroom] at ht
    cases ht
    exact h.put hclock hroom
  | take secret now =>
    cases ht
    exact h.take hclock

theorem Inv.step_sound (h : Inv s) (a : Event) : (∀ t, PendingTfa.step s a=some t → Sound t) ↔ StepOk s a := by
  constructor
  · intro hall
    cases a with
    | take => trivial
    | put secret sess now =>
      intro hclock
      by_contra hfull
      have hpaired:=(hall _ (if_pos ⟨h.paired,hclock⟩)).paired
      rw [h.full hfull] at hpaired
      cases hpaired
  · intro hok t ht
    exact (h.step hok ht).sound

theorem inv_start : Inv .start := ⟨zero_le _,rfl,found_nil,nodup_nil,fun _ _ _ => rfl⟩

/-- In every state of a run the store does what it is for, exactly when each session that is put
finds room. -/
theorem sound_iff_room (es : List Event) :
    (∀ pre, pre <+: es → ∀ s, exec PendingTfa.step .start pre=some s → Sound s) ↔ Along PendingTfa.step StepOk .start es := by
  rw [along_reached_iff inv_start.sound]
  refine along_iff_of_keep Inv ?_ (fun s a h => h.step_sound a) inv_start
  intro s a t h hsound ht
  exact h.step ((h.step_sound a).mp hsound) ht

def someone : TfaSession := ⟨"ann","user",1,"","","",0⟩

def secretOf (n : ℕ) : String := String.ofList (List.replicate n 'a')

def logins (n : ℕ) : List Event := (List.range n).map fun i => .put (secretOf i) someone 0

theorem logins_succ (n : ℕ) : logins (n+1)=logins n++[.put (secretOf n) someone 0] := by
  rw [logins,range_succ,map_append]
  rfl

theorem secretOf_inj {m n : ℕ} (h : secretOf m=secretOf n) : m=n := by
  have hlist:=congrArg String.toList h
  rw [secretOf,secretOf,String.toList_ofList,String.toList_ofList] at hlist
  simpa using congrArg List.length hlist

theorem Inv.step_put (h : Inv s) (secret : String) (sess : TfaSession) (hclock : s.clock=0) :
    PendingTfa.step s (.put secret sess 0)=some ⟨s.store.put secret sess 0,0,
      if (s.store.pruned 0).length < maxSessions then s.log++[.stored secret sess] else s.log⟩ :=
  if_pos ⟨h.paired,Int.le_of_eq hclock⟩

theorem exec_logins {n : ℕ} (hn : n ≤ maxSessions) : ∃ s, exec step .start (logins n)=some s ∧ Inv s ∧ s.clock=0 ∧
    s.store.sessions.length=n ∧ ∀ x∈s.store.sessions,x.2=someone ∧ ∃ i<n, x.1=secretOf i := by
  induction n with
  | zero => exact ⟨.start,rfl,inv_start,rfl,rfl,by simp [State.start,Store.empty]⟩
  | succ n ih =>
    obtain ⟨s,hs,hinv,hclock,hlen,hall⟩:=ih (le_of_succ_le hn)
    have hpruned : s.store.pruned 0=s.store.sessions := by
      refine filter_eq_self.mpr fun x hx => ?_
      rw [(hall x hx).1]
      decide
    have hroom : (s.store.pruned 0).length < maxSessions := by
      rw [hpruned,hlen]
      exact hn
    have hnew : s.store.sessions.load (secretOf n)=none := by
      cases hl : s.store.sessions.load (secretOf n) with
      | none => rfl
      | some sess =>
        obtain ⟨-,i,hi,he⟩:=hall _ (SyncMap.mem_of_load hl)
        exact absurd (secretOf_inj he) (Nat.ne_of_gt hi)
    have hput : s.store.put (secretOf n) someone 0=⟨.unlocked,(secretOf n,someone)::s.store.sessions⟩ := by
      rw [hinv.put_room hroom,hpruned,SyncMap.store,SyncMap.delete_eq_self hnew]
    have hok : StepOk s (.put (secretOf n) someone 0) := fun _ => hroom
    have hstep:=hinv.step_put (secretOf n) someone hclock
    refine ⟨_,?_,hinv.step hok hstep,rfl,?_,?_⟩
    · rw [logins_succ,exec_append,hs,bind_some,exec_cons,hstep]
      rfl
    · rw [hput]
      exact congrArg (·+1) hlen
    · rw [hput]
      intro x hx
      obtain hx | hx:=mem_cons.mp hx
      · rw [hx]
        exact ⟨rfl,n,lt_succ_self n,rfl⟩
      · obtain ⟨hsome,i,hi,he⟩:=hall x hx
        exact ⟨hsome,i,lt_succ_of_lt hi,he⟩

/-- With a thousand logins waiting the next one ends the process. -/
theorem full_store_fatal : (¬ ∀ (es : List Event) (s : State), exec step .start es=some s → Sound s) ∧
    (exec step .start (logins maxSessions++[.put (secretOf maxSessions) someone 0])).any
      (fun s => s.store.mu=.fatal)=true := by
  obtain ⟨s,hs,hinv,hclock,hlen,hall⟩:=exec_logins (Nat.le_refl maxSessions)
  have hpruned : s.store.pruned 0=s.store.sessions := by
    refine filter_eq_self.mpr fun x hx => ?_
    rw [(hall x hx).1]
    decide
  have hfatal : (s.store.put (secretOf maxSessions) someone 0).mu=.fatal := by
    refine hinv.full ?_
    rw [hpruned,hlen]
    exact Nat.lt_irrefl maxSessions
  obtain ⟨t,hstep,hmu⟩ : ∃ t, step s (.put (secretOf maxSessions) someone 0)=some t ∧ t.store.mu=.fatal :=
    ⟨_,hinv.step_put _ _ hclock,hfatal⟩
  have ht : exec step .start (logins maxSessions++[.put (secretOf maxSessions) someone 0])=some t := by
    rw [exec_append,hs,bind_some,exec_cons,hstep]
    rfl
  refine ⟨fun hall => ?_,?_⟩
  · have hpaired:=(hall _ t ht).paired
    rw [hmu] at hpaired
    cases hpaired
  · rw [ht]
    simpa using hmu

end BetterDesk.Api.PendingTfa
