import BetterDesk.Mgmt.ProofRules

/-! # No proof serves twice -/

namespace BetterDesk.Mgmt
open Text Base64 Programs Enrollment Exec List Option
open Db (PeerID Answer)

def accepting : Seen Res → Bool
  | ⟨.markUsed _ _,replayed⟩ => !replayed
  | _ => false

def AcceptedAt (n : ℤ) : Seen Res → Prop
  | ⟨.markUsed _ now,replayed⟩ => now=n ∧ replayed=false
  | _ => False

def MarkedAt (n : ℤ) : Seen Res → Prop
  | ⟨.markUsed _ now,_⟩ => now=n
  | _ => False

theorem accepting_iff {e : Seen Res} : accepting e=true ↔ ∃ n, AcceptedAt n e := by
  obtain ⟨op,r⟩:=e
  cases op with
  | markUsed key now =>
    constructor
    · intro h
      exact ⟨now,rfl,(Bool.not_eq_true' _).mp h⟩
    · rintro ⟨n,-,h⟩
      exact (Bool.not_eq_true' _).mpr h
  | _ => exact ⟨nofun,fun ⟨_,h⟩ => h.elim⟩

theorem proved_iff {seen : Sight} : Proved seen ↔ ∃ e∈seen,accepting e=true := by
  constructor
  · rintro ⟨key,now,hmem⟩
    exact ⟨_,hmem,rfl⟩
  · rintro ⟨⟨op,r⟩,hmem,h⟩
    cases op with
    | markUsed key now =>
      have hfresh : r=(false : Bool) := (Bool.not_eq_true' _).mp h
      subst hfresh
      exact ⟨key,now,hmem⟩
    | _ => cases h

def privileged : Op → Bool
  | .bindTokenToPeer _ _ => true
  | .incrementTokenUse _ => true
  | .createDeviceToken _ _ => true
  | _ => false

def plain (p : ProofProcess) : Sight := untag p.seen

def acceptances (s : System) (h : Header) : ℕ :=
  (s.procs.map fun p => if p.request.header=h then (plain p).countP accepting else 0).sum

def Authorized (p : ProofProcess) : Prop :=
  p.prog.reply=some (.management .upgraded) ∨ ∃ e∈plain p, privileged e.1=true

/-- Only the holder of a key signs with it; one of `Honest` keys signs two texts differently. -/
structure Unforgeable (verify : Bytes → Bytes → Bytes → Bool) (Made : Bytes → Bytes → Bytes → Prop)
    (Honest : Bytes → Prop) : Prop where
  made : ∀ key payload signature, verify key payload signature=true → Made key payload signature
  one : ∀ key payload payload' signature, Honest key → Made key payload signature → Made key payload' signature →
    payload=payload'

structure Secure (Made : Bytes → Bytes → Bytes → Prop) (Honest : Bytes → Prop) (s : System) : Prop where
  once : ∀ h, acceptances s h≤1
  /-- An accepted proof was made for its channel, and for no request of the other one. -/
  separate : ∀ p∈s.procs,Proved (plain p) → ∃ key signature,
    decodeStandard (lit p.request.signature)=some signature ∧ Made key (p.request.payload key) signature ∧
      ∀ (q : Request) key', Honest key → q.channel≠p.request.channel → ¬ Made key (q.payload key') signature
  proved : ∀ p∈s.procs,p.request.attempts=true → Authorized p → Proved (plain p)

/-- The header was accepted before, and a mark since was later than the entry lasts. -/
def Overtaken (s : System) (q : Request) : Prop :=
  ∃ p∈s.procs,p.request.header=q.header ∧ ∃ e∈plain p, ∃ n, AcceptedAt n e ∧
    ∃ p'∈s.procs,p'.request.channel=q.channel ∧ ∃ e'∈plain p', ∃ n', MarkedAt n' e' ∧ n+bdMgmtNonceTTL<n'

/-- Before the process performs the operation: a timestamp is less than 2^63 ns ahead of the
clock and its mark is not overtaken, and in locked mode a request for a device without a row
that brings a proof, not accepted so far, brings no token that would let it in. -/
def CarefulOp (env : Env) (s : System) (p : ProofProcess) (fails : Bool) : Op → Prop
  | .markUsed _ now => (∀ signedAt, p.request.signedAt env=some signedAt → signedAt-now<2^63) ∧
      ¬ Overtaken s p.request
  | .validateToken hash => p.request.attempts=true → ¬ RowSeen (plain p) → ¬ Proved (plain p) →
      enrollmentMode env="locked" → fails=false → ∀ t, s.store.tables.tokens hash=some t →
      t.usable s.store.tables.now=true → t.fits p.request.device=false
  | _ => True

def Careful (env : Env) (s : System) : Act Request Outside → Prop
  | .step i fails => ∀ p op, s.procs[i]?=some p → p.prog.nextOp=some (p.request.channel,op) →
      CarefulOp env s p fails op
  | _ => True

variable {q : Request} {env : Env} {s : System} {n : ℤ}

theorem payload_ne {q' : Request} {key key' : Bytes} (h : q.channel≠q'.channel) : q.payload key≠q'.payload key' := by
  have hmgmt (m : MgmtRequest) : m.payload.take 4=[98,100,45,109] := by
    unfold MgmtRequest.payload bdMgmtSignaturePayload
    simp only [append_assoc]
    rw [take_append_of_le_length (by decide)]
    decide
  have henroll (q : Enrollment.Request) (key : Bytes) : ((Request.enroll q).payload key).take 4=[98,100,45,101] := by
    unfold Request.payload enrollmentProofPayload
    simp only [append_assoc]
    rw [take_append_of_le_length (by decide)]
    decide
  intro heq
  have htake:=congrArg (List.take 4) heq
  cases q with
  | enroll q => cases q' with
    | enroll q' => exact h rfl
    | manage m' =>
      rw [henroll] at htake
      have hother:=htake.trans (hmgmt m')
      exact absurd hother (by decide)
  | manage m => cases q' with
    | enroll q' =>
      rw [henroll] at htake
      have hother:=(hmgmt m).symm.trans htake
      exact absurd hother (by decide)
    | manage m' => exact h rfl

theorem nonceKey_of_header {q' : Request} (h : q.header=q'.header) : q.nonceKey=q'.nonceKey ∧ q.channel=q'.channel := by
  cases q <;> cases q' <;> simp only [Request.header,Header.mk.injEq,reduceCtorEq,false_and] at h
  · obtain ⟨-,hdevice,-,hnonce⟩:=h
    exact ⟨by simp only [Request.nonceKey,proofNonceKey,hdevice,hnonce],rfl⟩
  · obtain ⟨-,hdevice,-,hnonce⟩:=h
    exact ⟨by simp only [Request.nonceKey,MgmtRequest.nonceKey,hdevice,hnonce],rfl⟩

theorem signedAt_of_header (h : q.signedAt env=some n) : env.parseTime q.header.timestamp=some n := by
  cases q with
  | enroll q =>
    unfold Request.signedAt proofSignedAt at h
    dsimp only at h
    split at h
    · cases h
    split at h
    · cases h
    · exact h
  | manage m =>
    unfold Request.signedAt MgmtRequest.signedAt at h
    dsimp only at h
    split at h
    · cases h
    · exact h

/-- The entry of an accepted nonce lasts its time, or a later mark has removed it. -/
def Held (s : System) (c : Channel) (key : String) (n : ℤ) : Prop :=
  (∃ expiry, s.store.cache c key=some expiry ∧ n+bdMgmtNonceTTL≤expiry) ∨
    ∃ p∈s.procs,p.request.channel=c ∧ ∃ e∈plain p, ∃ n', MarkedAt n' e ∧ n+bdMgmtNonceTTL<n'

def InWindow (env : Env) (q : Request) (n : ℤ) : Prop :=
  (∃ signedAt, q.signedAt env=some signedAt ∧ n ≤ signedAt+300000000000 ∧ signedAt≤n+300000000000) ∧
    ∃ key, q.signedBy env key=true

structure Kept (env : Env) (s : System) : Prop where
  follows : ∀ p∈s.procs,p.Follows Node.run (Allowed env) Ends
  window : ∀ p∈s.procs, ∀ e∈plain p, ∀ n, AcceptedAt n e → InWindow env p.request n
  held : ∀ p∈s.procs, ∀ e∈plain p, ∀ n, AcceptedAt n e → Held s p.request.channel p.request.nonceKey n
  once : ∀ h, acceptances s h≤1
  shut : ∀ p∈s.procs,p.request.attempts=true → ¬ LetIn p.request.device (plain p)
  proved : ∀ p∈s.procs,p.request.attempts=true → (∃ e∈plain p, privileged e.1=true) → Proved (plain p)

theorem inWindow_of_sound {now : ℤ} (h : q.Sound env now)
    (htimely : ∀ signedAt, q.signedAt env=some signedAt → signedAt-now<2^63) : InWindow env q now := by
  obtain ⟨⟨signedAt,hsigned,hskew⟩,hkey⟩:=h
  refine ⟨⟨signedAt,hsigned,?_⟩,hkey⟩
  have hahead:=htimely signedAt hsigned
  have hwithin : q.skew=300000000000 := by cases q <;> rfl
  unfold outsideSkew at hskew
  rw [hwithin,decide_eq_false_iff_not,not_lt] at hskew
  have hbound:=(Time64.flip_saturate_le_iff (by omega) (by omega)).mp hskew
  omega

/-- The state after an operation of process `i`. -/
def System.after (s : System) (i : ℕ) (p : ProofProcess) (c : Call) (k : CallRes c → Programs.Prog Call CallRes Outcome)
    (fails : Bool) : System :=
  ⟨(s.store.run c fails).2,s.procs.set i (p.next s.store (s.store.run c fails).1 k)⟩

section After
variable {env : Env} {s : System} {i : ℕ} {p : ProofProcess} {c : Channel} {op : Op}
  {k : CallRes (c,op) → Programs.Prog Call CallRes Outcome} {fails : Bool}

theorem plain_next {st : Node} {r : CallRes (c,op)} : plain (p.next st r k)=⟨op,r⟩::plain p := rfl

theorem mem_after {q : ProofProcess} (h : q∈(s.after i p (c,op) k fails).procs) :
    q∈s.procs ∨ q=p.next s.store (s.store.run (c,op) fails).1 k := mem_or_eq_of_mem_set h

theorem grown (hp : s.procs[i]?=some p) {q : ProofProcess} (hq : q∈s.procs) :
    ∃ q'∈(s.after i p (c,op) k fails).procs, q'.request=q.request ∧ ∀ e∈plain q, e∈plain q' := by
  obtain ⟨j,hj⟩:=mem_iff_getElem?.mp hq
  by_cases hij : i=j
  · subst hij
    rw [hp] at hj
    cases hj
    refine ⟨p.next s.store (s.store.run (c,op) fails).1 k,?_,rfl,fun e he => mem_cons_of_mem _ he⟩
    exact mem_of_getElem? (List.getElem?_set_self (List.getElem?_eq_some_iff.mp hp).1)
  · exact ⟨q,mem_of_getElem? ((List.getElem?_set_ne hij).trans hj),rfl,fun e he => he⟩

theorem marked_mono (hp : s.procs[i]?=some p) {c' : Channel} {n : ℤ}
    (h : ∃ p∈s.procs,p.request.channel=c' ∧ ∃ e∈plain p, ∃ n', MarkedAt n' e ∧ n+bdMgmtNonceTTL<n') :
    ∃ p'∈(s.after i p (c,op) k fails).procs, p'.request.channel=c' ∧
      ∃ e∈plain p', ∃ n', MarkedAt n' e ∧ n+bdMgmtNonceTTL<n' := by
  obtain ⟨q,hq,hc,e,he,hrest⟩:=h
  obtain ⟨q',hq',hrequest,hsub⟩:=grown hp hq
  exact ⟨q',hq',hrequest ▸ hc,e,hsub e he,hrest⟩

theorem mem_after_self (hp : s.procs[i]?=some p) :
    p.next s.store (s.store.run (c,op) fails).1 k∈(s.after i p (c,op) k fails).procs :=
  mem_of_getElem? (List.getElem?_set_self (List.getElem?_eq_some_iff.mp hp).1)

theorem held_after (hp : s.procs[i]?=some p) (hchannel : c=p.request.channel) {c' : Channel} {key : String} {n : ℤ}
    (h : Held s c' key n) : Held (s.after i p (c,op) k fails) c' key n := by
  rcases h with ⟨expiry,hentry,hlasts⟩ | hmarked
  · by_cases hop : ∃ key' now, op=.markUsed key' now
    · obtain ⟨key',now,rfl⟩:=hop
      by_cases hc : c'=c
      · subst hc
        by_cases hlive : now≤expiry
        · refine .inl ⟨expiry,?_,hlasts⟩
          have hcache:=(@Node.run_mark s.store c' fails key' now).2
          exact (congrFun hcache key).trans (markUsed_keeps hentry hlive)
        · refine .inr ⟨_,mem_after_self hp,hchannel.symm,_,mem_cons_self,now,rfl,by omega⟩
      · exact .inl ⟨expiry,(congrFun (Node.cache_run_aside hc) key).trans hentry,hlasts⟩
    · have hother (key' : String) (now : ℤ) : op ≠ .markUsed key' now := fun heq => hop ⟨key',now,heq⟩
      exact .inl ⟨expiry,(congrFun (Node.cache_run_other hother) key).trans hentry,hlasts⟩
  · exact .inr (marked_mono hp hmarked)

theorem acceptances_after (hp : s.procs[i]?=some p) (h : Header) :
    acceptances (s.after i p (c,op) k fails) h=acceptances s h +
      if p.request.header=h ∧ accepting (⟨op,(s.store.run (c,op) fails).1⟩ : Seen Res)=true then 1 else 0 := by
  refine sum_set hp ?_
  have hrequest : (p.next s.store (s.store.run (c,op) fails).1 k).request=p.request := rfl
  rw [hrequest,plain_next,countP_cons]
  by_cases hh : p.request.header=h
  · simp [hh]
  · simp [hh]

theorem accepted_of_acceptances {h : Header} (hne : acceptances s h≠0) :
    ∃ q∈s.procs,q.request.header=h ∧ ∃ e∈plain q, ∃ n, AcceptedAt n e := by
  by_contra hnone
  refine hne (List.sum_eq_zero_iff_forall_eq_nat.mpr fun x hx => ?_)
  obtain ⟨q,hq,rfl⟩:=List.mem_map.mp hx
  split
  · rename_i hh
    rw [countP_eq_zero]
    intro e he hacc
    exact hnone ⟨q,hq,hh,e,he,accepting_iff.mp hacc⟩
  · rfl

end After

theorem kept_start (env : Env) (tables : Store) : Kept env (initial (fresh tables)) where
  follows _ hp := absurd hp not_mem_nil
  window _ hp := absurd hp not_mem_nil
  held _ hp := absurd hp not_mem_nil
  once _ := Nat.zero_le 1
  shut _ hp := absurd hp not_mem_nil
  proved _ hp := absurd hp not_mem_nil

theorem Held.of_sub {t : System} {c : Channel} {key : String} (h : Held s c key n)
    (hcache : t.store.cache c=s.store.cache c) (hsub : ∀ p∈s.procs,p∈t.procs) : Held t c key n := by
  rcases h with ⟨expiry,hentry,hlasts⟩ | ⟨q,hq,hrest⟩
  · exact .inl ⟨expiry,(congrFun hcache key).trans hentry,hlasts⟩
  · exact .inr ⟨q,hsub q hq,hrest⟩

theorem Kept.begin (h : Kept env s) (q : Request) : Kept env {s with procs := s.procs++[⟨q,[],serve env q⟩]} := by
  have hnew : ∀ e∈plain ⟨q,[],serve env q⟩, False := fun e he => absurd he not_mem_nil
  constructor
  · intro p hp
    rcases mem_append.mp hp with hp | hp
    · exact h.follows p hp
    · rw [mem_singleton.mp hp]
      exact ⟨wp_serve q,fun e he => absurd he not_mem_nil⟩
  · intro p hp e he n hn
    rcases mem_append.mp hp with hp | hp
    · exact h.window p hp e he n hn
    · rw [mem_singleton.mp hp] at he
      exact (hnew e he).elim
  · intro p hp e he n hn
    rcases mem_append.mp hp with hp | hp
    · exact (h.held p hp e he n hn).of_sub rfl fun p hp => mem_append_left _ hp
    · rw [mem_singleton.mp hp] at he
      exact (hnew e he).elim
  · intro header
    have hsame : acceptances {s with procs := s.procs++[⟨q,[],serve env q⟩]} header=acceptances s header := by
      unfold acceptances
      rw [map_append,sum_append]
      have hzero : (plain (⟨q,[],serve env q⟩ : ProofProcess)).countP accepting=0 := rfl
      simp [hzero]
    rw [hsame]
    exact h.once header
  · intro p hp hattempts hlet
    rcases mem_append.mp hp with hp | hp
    · exact h.shut p hp hattempts hlet
    · rw [mem_singleton.mp hp] at hlet
      obtain ⟨hash,r,earlier,hsuffix,-⟩:=hlet
      exact absurd (suffix_nil.mp hsuffix) (by simp)
  · intro p hp hattempts hpriv
    rcases mem_append.mp hp with hp | hp
    · exact h.proved p hp hattempts hpriv
    · rw [mem_singleton.mp hp] at hpriv
      obtain ⟨e,he,-⟩:=hpriv
      exact (hnew e he).elim

section Step
variable {env : Env} {s : System} {i : ℕ} {p : ProofProcess} {c : Channel} {op : Op}
  {k : CallRes (c,op) → Programs.Prog Call CallRes Outcome} {fails : Bool}

theorem Kept.first (h : Kept env s) {key : String} {now : ℤ}
    (hkey : key=p.request.nonceKey) (hwindow : InWindow env p.request now) (hcalm : ¬ Overtaken s p.request)
    (hfresh : (markUsed (s.store.cache p.request.channel) key now).1=false) : acceptances s p.request.header=0 := by
  by_contra hne
  obtain ⟨q,hq,hheader,e,he,n,hn⟩:=accepted_of_acceptances hne
  obtain ⟨hsame,hchannel⟩:=nonceKey_of_header hheader
  have hheld:=h.held q hq e he n hn
  rw [hsame,hchannel] at hheld
  rcases hheld with ⟨expiry,hentry,hlasts⟩ | ⟨q',hq',hc',hmarked⟩
  · -- both readings are within the skew of one timestamp
    obtain ⟨⟨signedAt,hsigned,hafter,hbefore⟩,-⟩:=h.window q hq e he n hn
    obtain ⟨⟨signedAt',hsigned',hafter',hbefore'⟩,-⟩:=hwindow
    have htimes:=(signedAt_of_header hsigned).symm.trans (hheader ▸ signedAt_of_header hsigned')
    obtain rfl:=Option.some.inj htimes
    have hlive : now≤expiry := by
      unfold bdMgmtNonceTTL at hlasts
      omega
    rw [← hkey] at hentry
    rw [markUsed_live hentry hlive] at hfresh
    cases hfresh
  · exact hcalm ⟨q,hq,hheader,e,he,n,hn,q',hq',hc',hmarked⟩

theorem letIn_cons {id : PeerID} {seen : Sight} {r : Res op} (h : LetIn id (⟨op,r⟩::seen)) :
    LetIn id seen ∨ ∃ hash r', (⟨op,r⟩ : Seen Res)=⟨.validateToken hash,r'⟩ ∧ fitting id r'=true ∧
      ¬ RowSeen seen ∧ ¬ Proved seen := by
  obtain ⟨hash,r',earlier,hsuffix,hrest⟩:=h
  rcases suffix_cons_iff.mp hsuffix with heq | hsuffix
  · injection heq with hhead htail
    subst htail
    exact .inr ⟨hash,r',hhead.symm,hrest⟩
  · exact .inl ⟨hash,r',earlier,hsuffix,hrest⟩

theorem run_validateToken_fits {st : Node} {hash : TokenHash} {id : PeerID}
    (h : fitting id (st.run (c,.validateToken hash) fails).1=true) :
    fails=false ∧ ∃ t, st.tables.tokens hash=some t ∧ t.usable st.tables.now=true ∧ t.fits id=true := by
  obtain ⟨t,hrow,hfits⟩:=(any_eq_true _ _).mp h
  have hvalid:=run_validateToken (s := st.view c) hrow
  refine ⟨?_,t,hvalid.1,hvalid.2,hfits⟩
  cases fails with
  | false => rfl
  | true => cases hrow

theorem acceptedAt_op {n : ℤ} {r : Res op} (h : AcceptedAt n ⟨op,r⟩) :
    ∃ key, (⟨op,r⟩ : Seen Res)=⟨.markUsed key n,false⟩ := by
  cases op with
  | markUsed key now =>
    obtain ⟨rfl,hfresh⟩:=h
    exact ⟨key,by rw [hfresh]⟩
  | _ => exact h.elim

theorem Kept.step (h : Kept env s) (hp : s.procs[i]?=some p) (hprog : p.prog=.call (c,op) k)
    (hcareful : Careful env s (.step i fails)) : Kept env (s.after i p (c,op) k fails) := by
  have hmem : p∈s.procs := mem_of_getElem? hp
  obtain ⟨hchannel,hrule⟩ : Allowed env p.request p.seen (c,op) := (h.follows p hmem).may hprog
  dsimp only at hchannel hrule
  subst hchannel
  have hop : CarefulOp env s p fails op := hcareful p op hp (by rw [hprog]; rfl)
  -- a mark of this process is within its window, and of its own nonce
  have hmark (key : String) (now : ℤ) (heq : op=.markUsed key now) :
      key=p.request.nonceKey ∧ InWindow env p.request now ∧ ¬ Overtaken s p.request := by
    subst heq
    exact ⟨hrule.1,inWindow_of_sound hrule.2 hop.1,hop.2⟩
  constructor
  · intro q hq
    rcases mem_after hq with hq | rfl
    · exact h.follows q hq
    · exact (h.follows p hmem).next hprog
  · intro q hq e he n hn
    rcases mem_after hq with hq | rfl
    · exact h.window q hq e he n hn
    · rcases mem_cons.mp he with rfl | he
      · obtain ⟨key,heq⟩:=acceptedAt_op hn
        exact (hmark key n (congrArg Sigma.fst heq)).2.1
      · exact h.window p hmem e he n hn
  · intro q hq e he n hn
    rcases mem_after hq with hq | rfl
    · exact held_after hp rfl (h.held q hq e he n hn)
    · rcases mem_cons.mp he with rfl | he
      · obtain ⟨key,heq⟩:=acceptedAt_op hn
        obtain rfl : op=.markUsed key n := congrArg Sigma.fst heq
        have hfresh : (s.store.run (p.request.channel,.markUsed key n) fails).1=(false : Bool) :=
          eq_of_heq (Sigma.mk.inj heq).2
        obtain ⟨hanswer,hcache⟩ := @Node.run_mark s.store p.request.channel fails key n
        rw [hanswer] at hfresh
        obtain rfl:=(hmark key n rfl).1
        exact .inl ⟨n+bdMgmtNonceTTL,(congrFun hcache _).trans (markUsed_accepted hfresh),Int.le_refl _⟩
      · exact held_after hp rfl (h.held p hmem e he n hn)
  · intro header
    rw [acceptances_after hp]
    split
    · rename_i hacc
      obtain ⟨rfl,hacc⟩:=hacc
      obtain ⟨n,hn⟩:=accepting_iff.mp hacc
      obtain ⟨key,heq⟩:=acceptedAt_op hn
      obtain rfl : op=.markUsed key n := congrArg Sigma.fst heq
      have hfresh : (s.store.run (p.request.channel,.markUsed key n) fails).1=(false : Bool) :=
        eq_of_heq (Sigma.mk.inj heq).2
      rw [(@Node.run_mark s.store p.request.channel fails key n).1] at hfresh
      obtain ⟨hkey,hwindow,hcalm⟩:=hmark key n rfl
      rw [h.first hkey hwindow hcalm hfresh]
    · exact h.once header
  · intro q hq hattempts hlet
    rcases mem_after hq with hq | rfl
    · exact h.shut q hq hattempts hlet
    · rcases letIn_cons hlet with hlet | ⟨hash,r',heq,hfits,hrow,hproved⟩
      · exact h.shut p hmem hattempts hlet
      · obtain rfl : op=.validateToken hash := congrArg Sigma.fst heq
        have hanswer:=eq_of_heq (Sigma.mk.inj heq).2
        rw [← hanswer] at hfits
        obtain ⟨hfails,t,htoken,husable,hfit⟩:=run_validateToken_fits hfits
        have hmode : enrollmentMode env="locked" :=
          ((hrule hattempts).resolve_left hrow).resolve_left hproved
        have hnot:=hop hattempts hrow hproved hmode hfails t htoken husable
        exact Bool.false_ne_true (hnot.symm.trans hfit)
  · intro q hq hattempts hpriv
    rcases mem_after hq with hq | rfl
    · exact h.proved q hq hattempts hpriv
    · obtain ⟨e,he,hpriv⟩:=hpriv
      have hproved : Proved (plain p) := by
        rcases mem_cons.mp he with rfl | he
        · have hentitled : p.request.Entitled (plain p) := by
            cases op with
            | bindTokenToPeer | incrementTokenUse | createDeviceToken => exact hrule
            | _ => cases hpriv
          exact (hentitled hattempts).resolve_right (h.shut p hmem hattempts)
        · exact h.proved p hmem hattempts ⟨e,he,hpriv⟩
      exact hproved.mono (suffix_cons _ _)

theorem Kept.of_step {t : System} {a : Act Request Outside} (h : Kept env s) (hcareful : Careful env s a)
    (hst : Mgmt.step env s a=some t) : Kept env t := by
  cases a with
  | begin q =>
    cases hst
    exact h.begin q
  | env e =>
    cases hst
    exact ⟨h.follows,h.window,
      fun p hp e he n hn => (h.held p hp e he n hn).of_sub Node.cache_move fun _ hp => hp,h.once,h.shut,h.proved⟩
  | step i fails =>
    obtain ⟨p,⟨c,op⟩,k,hp,hprog,rfl⟩:=step_step hst
    exact h.step hp hprog hcareful

end Step

theorem verified_of_signedBy {key : Bytes} (h : q.signedBy env key=true) :
    ∃ signature, decodeStandard (lit q.signature)=some signature ∧ env.verify key (q.payload key) signature=true := by
  cases q with
  | enroll q =>
    unfold Request.signedBy Enrollment.signedBy at h
    dsimp only at h
    split at h
    · cases h
    · rename_i signature hdecoded
      exact ⟨signature,hdecoded,(Bool.and_eq_true_iff.mp h).2⟩
  | manage m =>
    unfold Request.signedBy MgmtRequest.signedBy at h
    dsimp only at h
    split at h
    · cases h
    · rename_i signature hdecoded
      exact ⟨signature,hdecoded,(Bool.and_eq_true_iff.mp h).2⟩

/-- Whatever requests interleave, fail or are replayed, and at whatever times: in every state
of a careful run each signed header has been accepted at most once, an accepted proof was made
for its own channel, and a request with a proof is authorized by nothing else. -/
theorem proofs_not_replayable {env : Env} {Made : Bytes → Bytes → Bytes → Prop} {Honest : Bytes → Prop}
    (hsig : Unforgeable env.verify Made Honest)
    {tables : Store} {as : List (Act Request Outside)} {s : System}
    (hcareful : Along (step env) (Careful env) (initial (fresh tables)) as)
    (h : exec (step env) (initial (fresh tables)) as=some s) : Secure Made Honest s := by
  have hkept : Kept env s := exec_invariant (Kept env) (fun _ _ _ hs hok hst => hs.of_step hok hst)
    (kept_start env tables) hcareful h
  refine ⟨hkept.once,fun p hp hproved => ?_,fun p hp hattempts hauthorized => ?_⟩
  · obtain ⟨e,he,hacc⟩:=proved_iff.mp hproved
    obtain ⟨n,hn⟩:=accepting_iff.mp hacc
    obtain ⟨-,key,hsigned⟩:=hkept.window p hp e he n hn
    obtain ⟨signature,hdecoded,hverified⟩:=verified_of_signedBy hsigned
    have hmade:=hsig.made key _ signature hverified
    refine ⟨key,signature,hdecoded,hmade,fun q key' hhonest hne hother => ?_⟩
    exact payload_ne hne (hsig.one key _ _ signature hhonest hother hmade)
  · rcases hauthorized with hupgraded | hpriv
    · cases hprog : p.prog with
      | done o =>
        rw [hprog] at hupgraded
        exact (hkept.follows p hp).ends hprog (Option.some.inj hupgraded)
      | call c k =>
        rw [hprog] at hupgraded
        cases hupgraded
    · exact hkept.proved p hp hattempts hpriv

def sampleEnv (mode : String) (signed : List MgmtRequest) : Env where
  enrollmentMode := mode
  hashToken text := if text=lit "invite" then "h1" else "h0"
  verify _ payload signature :=
    signed.any fun m => m.payload=payload&&decodeStandard (lit m.signature)=some signature
  parseTime text :=
    if text="2026-01-01T00:05:00Z" then some 1767225900000000000
    else if text="2026-01-01T00:12:00Z" then some 1767226320000000000
    else if text="2400-01-01T00:00:00Z" then some 13569465600000000000
    else none

def madeFor (signed : List MgmtRequest) (_ payload signature : Bytes) : Prop :=
  ∃ m∈signed,m.payload=payload ∧ decodeStandard (lit m.signature)=some signature

theorem unforgeable_sample {mode : String} {signed : List MgmtRequest} {Honest : Bytes → Prop}
    (h : ∀ m∈signed, ∀ m'∈signed,decodeStandard (lit m.signature)=decodeStandard (lit m'.signature) →
      m.payload=m'.payload) : Unforgeable (sampleEnv mode signed).verify (madeFor signed) Honest where
  made key payload signature hverify := by
    obtain ⟨m,hm,heq⟩:=any_eq_true.mp hverify
    obtain ⟨hpayload,hsig⟩:=Bool.and_eq_true_iff.mp heq
    exact ⟨m,hm,of_decide_eq_true hpayload,of_decide_eq_true hsig⟩
  one key payload payload' signature := by
    rintro - ⟨m,hm,rfl,hsig⟩ ⟨m',hm',rfl,hsig'⟩
    exact h m hm m' hm' (hsig.trans hsig'.symm)

def zeros : String :=
  "AAAAAAAAAAAAAAAAAAAAAAAAAAAAAAAAAAAAAAAAAAAAAAAAAAAAAAAAAAAAAAAAAAAAAAAAAAAAAAAAAAAAAA=="
def other : String :=
  "BAAAAAAAAAAAAAAAAAAAAAAAAAAAAAAAAAAAAAAAAAAAAAAAAAAAAAAAAAAAAAAAAAAAAAAAAAAAAAAAAAAAAA=="

def sampleTables : Store where
  peers id := if id="desk-1" then some ⟨[],[],false,"",false,false,.registration⟩ else none
  config
    | .bdMgmtPublicKey id => if id="desk-1" then some (List.replicate 32 0) else none
    | _ => none
  tokens hash := if hash="h1" then some ⟨"",.active,0,0,none⟩ else none
  nonces _ := none
  now := 1767225600000000000

def ahead : MgmtRequest := ⟨"desk-1","2026-01-01T00:05:00Z","n1",zeros⟩
def later : MgmtRequest := ⟨"desk-1","2026-01-01T00:12:00Z","n2",other⟩
def farAhead : MgmtRequest := ⟨"desk-1","2400-01-01T00:00:00Z","n1",zeros⟩

/-- The next `n` operations of a request, none failing. -/
def ops (i n : ℕ) : List (Act Request Outside) := List.replicate n (.step i false)

def connected : List (Act Request Outside) := .begin (.manage ahead)::ops 0 6

/-- No header is marked a second time, and no token is looked up beside a proof. -/
def calm (env : Env) (s : System) : Act Request Outside → Bool
  | .step i _ => match s.procs[i]? with
    | none => true
    | some p => match p.prog.nextOp with
      | some (_,.markUsed _ now) =>
        (p.request.signedAt env).all (fun signedAt => signedAt-now<2^63)&&acceptances s p.request.header=0
      | some (_,.validateToken _) => !p.request.attempts
      | _ => true
  | _ => true

theorem acceptances_pos {q : ProofProcess} (hq : q∈s.procs) {e : Seen Res} (he : e∈plain q)
    (hn : AcceptedAt n e) : 0<acceptances s q.request.header := by
  refine List.sum_pos_iff_exists_pos_nat.mpr ⟨_,List.mem_map_of_mem hq,?_⟩
  rw [if_pos rfl,countP_pos_iff]
  exact ⟨e,he,accepting_iff.mpr ⟨n,hn⟩⟩

theorem careful_of_calm {a : Act Request Outside} (h : calm env s a=true) : Careful env s a := by
  cases a with
  | begin q => trivial
  | env e => trivial
  | step i fails =>
    intro p op hp hnext
    simp only [calm,hp,hnext] at h
    cases op with
    | markUsed key now =>
      obtain ⟨htimely,hfirst⟩:=Bool.and_eq_true_iff.mp h
      refine ⟨fun signedAt hsigned => ?_,?_⟩
      · rw [hsigned] at htimely
        exact of_decide_eq_true htimely
      · rintro ⟨q,hq,hheader,e,he,n,hn,-⟩
        have hpos:=acceptances_pos hq he hn
        rw [hheader,of_decide_eq_true hfirst] at hpos
        exact Nat.lt_irrefl 0 hpos
    | validateToken hash =>
      intro hattempts
      rw [hattempts] at h
      cases h
    | _ => trivial

/-- A signed connection is upgraded, and its header was accepted once. -/
theorem connected_secure : ∃ s, exec (step (sampleEnv "open" [ahead])) (initial (fresh sampleTables)) connected=some s ∧
    acceptances s (Request.manage ahead).header=1 ∧ Secure (madeFor [ahead]) ⊤ s := by
  have hrun : (exec (step (sampleEnv "open" [ahead])) (initial (fresh sampleTables)) connected).map (fun s =>
      acceptances s (Request.manage ahead).header)=some 1 := by
    decide +kernel
  have hcalm : Along (step (sampleEnv "open" [ahead])) (fun s a => calm (sampleEnv "open" [ahead]) s a=true)
      (initial (fresh sampleTables)) connected := by
    decide +kernel
  obtain ⟨s,hs,hcount⟩:=map_eq_some_iff.mp hrun
  exact ⟨s,hs,hcount,proofs_not_replayable (unforgeable_sample (by decide +kernel))
    (hcalm.mono fun _ _ h => careful_of_calm h) hs⟩

/-- The header is signed for a time that is more than 2^63 ns away, and sent again when its
entry has been dropped. -/
def farRun : List (Act Request Outside) :=
  .begin (.manage farAhead)::ops 0 6++[.env (.tick 660000000000),.begin (.manage farAhead)]++ops 1 6

/-- The header is sent again at the end of its window. Before it is marked, a later one is. -/
def overtakenRun : List (Act Request Outside) :=
  .begin (.manage ahead)::ops 0 6++[.env (.tick 600000000000),.begin (.manage ahead)]++ops 1 5 ++
    [.env (.tick 1),.begin (.manage later)]++ops 2 6++ops 1 1

def bypassing : Request :=
  .enroll (.register ⟨"POST","/api/devices/register",[],"2026-01-01T00:05:00Z","n1",zeros,[],some (lit "fresh")⟩
    ⟨"desk-2",[],[],[],[],[],[],[],[],lit "invite"⟩)

/-- One header accepted twice, in either way, and a request that is enrolled on its token
with a proof that nobody has made. -/
theorem accepted_twice_and_bypassed :
    (Unforgeable (sampleEnv "open" [farAhead]).verify (madeFor [farAhead]) ⊤ ∧
      ∃ s, exec (step (sampleEnv "open" [farAhead])) (initial (fresh sampleTables)) farRun=some s ∧
        ¬ Secure (madeFor [farAhead]) ⊤ s) ∧
    (Unforgeable (sampleEnv "open" [ahead,later]).verify (madeFor [ahead,later]) ⊤ ∧
      ∃ s, exec (step (sampleEnv "open" [ahead,later])) (initial (fresh sampleTables)) overtakenRun=some s ∧
        ¬ Secure (madeFor [ahead,later]) ⊤ s) ∧
    Unforgeable (sampleEnv "locked" []).verify (madeFor []) ⊤ ∧
      ∃ s, exec (step (sampleEnv "locked" [])) (initial (fresh sampleTables)) (.begin bypassing::ops 0 8)=some s ∧
        ¬ Secure (madeFor []) ⊤ s := by
  have hfar : (exec (step (sampleEnv "open" [farAhead])) (initial (fresh sampleTables)) farRun).map (fun s =>
      acceptances s (Request.manage farAhead).header)=some 2 := by
    decide +kernel
  have hovertaken : (exec (step (sampleEnv "open" [ahead,later])) (initial (fresh sampleTables)) overtakenRun).map
      (fun s => acceptances s (Request.manage ahead).header)=some 2 := by
    decide +kernel
  have hbypassed : (exec (step (sampleEnv "locked" [])) (initial (fresh sampleTables)) (.begin bypassing::ops 0 8)).map
      (fun s => s.procs.map fun p => (p.request.attempts,(plain p).any fun e => privileged e.1,(plain p).any accepting)) =
      some [(true,true,false)] := by
    decide +kernel
  obtain ⟨s₁,hs₁,htwice₁⟩:=map_eq_some_iff.mp hfar
  obtain ⟨s₂,hs₂,htwice₂⟩:=map_eq_some_iff.mp hovertaken
  obtain ⟨s₃,hs₃,hprocs⟩:=map_eq_some_iff.mp hbypassed
  refine ⟨⟨unforgeable_sample (by decide +kernel),s₁,hs₁,fun hsecure => ?_⟩,
    ⟨unforgeable_sample (by decide +kernel),s₂,hs₂,fun hsecure => ?_⟩,
    unforgeable_sample nofun,s₃,hs₃,fun hsecure => ?_⟩
  · have honce:=hsecure.once (Request.manage farAhead).header
    omega
  · have honce:=hsecure.once (Request.manage ahead).header
    omega
  · obtain ⟨p,hp,hfacts⟩:=mem_map.mp (hprocs ▸ mem_singleton_self _)
    simp only [Prod.mk.injEq] at hfacts
    obtain ⟨hattempts,hpriv,hnone⟩:=hfacts
    have hproved:=hsecure.proved p hp hattempts (.inr (any_eq_true.mp hpriv))
    rw [proved_iff,← List.any_eq_true,hnone] at hproved
    cases hproved

end BetterDesk.Mgmt
