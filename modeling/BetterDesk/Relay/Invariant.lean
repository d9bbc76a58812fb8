import BetterDesk.Relay.Server

/-! # The pairing invariant -/

namespace BetterDesk.Relay
open Exec Registry State Function Option Nat

/-- The goroutine is between its `Claim` and its pairing or withdrawal. -/
def Conn.active (cc : Conn) : Bool :=
  match cc.phase with
  | .waiting => !cc.done
  | .claimed | .arriving | .loaded _ | .deleted _ | .timedOut | .releasing => true
  | .joined .. | .closing | .finished => false

def Conn.holding (cc : Conn) : Bool :=
  match cc.phase with
  | .claimed | .arriving | .waiting | .timedOut | .releasing => true
  | _ => false

def Conn.fresh (cc : Conn) : Bool :=
  match cc.phase with
  | .claimed | .arriving => true
  | _ => false

def Conn.partner (cc : Conn) : Option ConnID :=
  match cc.phase with
  | .loaded e | .deleted e | .joined e _ => some e
  | _ => none

def Settled (s : State) (uuid : UUID) : Prop :=
  (∀ c cc, s.conns c=some cc → cc.uuid=uuid → cc.active=false) ∧ s.sweep.key≠some uuid

/-- `Authorize` issues a new ticket for a UUID only when no relay connection of
an earlier ticket of that UUID is still on its way. -/
def FreshWhenSettled (s : State) : Action → Prop
  | .authorize u i t => s.reg.issues s.now u i t=true → Settled s u
  | _ => True

structure Account (s : State) : Prop where
  ticketIssued : ∀ u tk, s.reg.tickets u=some tk →
    ∃ i, s.reg.issued[tk.id]?=some i ∧ i.uuid=u
  connIssued : ∀ c cc, s.conns c=some cc → ∃ i, s.reg.issued[cc.ticket]?=some i ∧ i.uuid=cc.uuid
  expiresByNow : ∀ u tk, s.reg.tickets u=some tk → tk.expiresAt ≤ s.now+relayPairTimeout
  expiresByConn : ∀ u tk c cc, s.reg.tickets u=some tk → s.conns c=some cc →
    cc.ticket=tk.id → tk.expiresAt≤cc.created+relayPairTimeout
  latest : ∀ tk c cc, s.conns c=some cc → cc.active=true → s.reg.tickets cc.uuid=some tk →
    cc.ticket=tk.id
  agree : ∀ c cc c' cc', s.conns c=some cc → s.conns c'=some cc' → cc.active=true →
    cc'.active=true → cc.uuid=cc'.uuid → cc.ticket=cc'.ticket
  claimsLe : ∀ u tk, s.reg.tickets u=some tk → tk.claims≤1
  noHolder : ∀ u tk c cc, s.reg.tickets u=some tk → tk.claims=0 → s.conns c=some cc →
    cc.ticket=tk.id → cc.holding=false
  oneHolder : ∀ u tk c cc c' cc', s.reg.tickets u=some tk → s.conns c=some cc →
    s.conns c'=some cc' → cc.ticket=tk.id → cc'.ticket=tk.id → cc.holding=true →
    cc'.holding=true → c=c'
  twoHolders : ∀ c cc c' cc' c'' cc'', s.conns c=some cc → s.conns c'=some cc' →
    s.conns c''=some cc'' → cc.ticket=cc'.ticket → cc.ticket=cc''.ticket →
    cc.holding=true → cc'.holding=true → cc''.holding=true → c=c' ∨ c=c'' ∨ c'=c''
  unpairedLive : ∀ u tk c cc, s.reg.tickets u=some tk → s.conns c=some cc →
    cc.ticket=tk.id → cc.partner=none
  partnerOk : ∀ p cp e, s.conns p=some cp → cp.partner=some e →
    e≠p ∧ ∃ ce, s.conns e=some ce ∧ ce.ticket=cp.ticket
  noFresh : ∀ p cp c cc, s.conns p=some cp → s.conns c=some cc → cp.partner.isSome=true →
    cp.ticket=cc.ticket → cc.fresh=false
  onePair : ∀ p cp p' cp', s.conns p=some cp → s.conns p'=some cp' →
    cp.partner.isSome=true → cp'.partner.isSome=true → cp.ticket=cp'.ticket → p=p'
  past : ∀ c cc, s.conns c=some cc → cc.created ≤ s.now

structure Places (s : State) : Prop where
  pendingConn : ∀ u c, s.pending u=some c → ∃ cc, s.conns c=some cc ∧ cc.uuid=u ∧
    cc.done=false ∧ (cc.phase=.waiting ∨ cc.phase=.timedOut)
  deletedStored : ∀ p cp e, s.conns p=some cp → cp.phase=.deleted e →
    s.pending cp.uuid≠some e ∧ ∃ ce, s.conns e=some ce ∧ ce.uuid=cp.uuid ∧ ce.fresh=false
  loadedStored : ∀ p cp e, s.conns p=some cp → cp.phase=.loaded e →
    ∃ ce, s.conns e=some ce ∧ ce.uuid=cp.uuid ∧ ce.fresh=false
  freshOpen : ∀ c cc, s.conns c=some cc → cc.fresh=true → cc.done=false
  sweepStored : ∀ u c, s.sweep=.visiting u c ∨ s.sweep=.stale u c ∨ s.sweep=.releasing u c ∨
    s.sweep=.closing u c → ∃ cc, s.conns c=some cc ∧ cc.uuid=u ∧ cc.fresh=false
  sweepGone : ∀ u c, s.sweep=.releasing u c ∨ s.sweep=.closing u c → s.pending u≠some c
  sweepVisiting : ∀ u c cc tk, s.sweep=.visiting u c → s.conns c=some cc →
    s.reg.tickets u=some tk → cc.ticket=tk.id
  sweepExpired : ∀ u c tk, s.sweep=.stale u c ∨ s.sweep=.releasing u c →
    s.reg.tickets u=some tk → tk.expiresAt ≤ s.now

structure Inv (s : State) : Prop where
  account : Account s
  places : Places s

theorem init_inv : Inv init := by
  constructor
  · constructor <;> intros <;> simp_all [init,Registry.empty]
  · constructor <;> intros <;> simp_all [init,Registry.empty]

/-- `a` is `b` at a later point of its goroutine: it may hold less. -/
structure Conn.Later (a b : Conn) : Prop where
  uuid : a.uuid=b.uuid
  ticket : a.ticket=b.ticket
  created : b.created≤a.created
  active : a.active=true → b.active=true
  holding : a.holding=true → b.holding=true
  fresh : a.fresh=true → b.fresh=true
  partner : ∀ e, a.partner=some e → b.partner=some e

theorem Conn.Later.refl (a : Conn) : a.Later a := ⟨rfl,rfl,Nat.le_refl _,id,id,id,fun _ h => h⟩

/-- The connections of `t` are those of `s`, each at the same point or later,
and `t` has no new ticket. -/
structure Weaker (t s : State) : Prop where
  reg : Registry.Sub t.reg s.reg
  now : s.now≤t.now
  back : ∀ c cc, t.conns c=some cc → ∃ cb, s.conns c=some cb ∧ cc.Later cb
  forth : ∀ c cb, s.conns c=some cb → ∃ cc, t.conns c=some cc ∧ cc.Later cb
  past : (∀ c cc, s.conns c=some cc → cc.created ≤ s.now) →
    ∀ c cc, t.conns c=some cc → cc.created≤t.now

variable {s t : State} {c d : ConnID} {cc cc' : Conn} {u : UUID} {tk : Ticket}

theorem Account.weaker (h : Account s) (w : Weaker t s) : Account t where
  ticketIssued u tk ht := by
    rw [w.reg.issued]
    exact h.ticketIssued u tk (w.reg.tickets u tk ht)
  connIssued c cc hc := by
    obtain ⟨cb,hb,hl⟩:=w.back c cc hc
    rw [w.reg.issued,hl.ticket,hl.uuid]
    exact h.connIssued c cb hb
  expiresByNow u tk ht := by
    have := h.expiresByNow u tk (w.reg.tickets u tk ht)
    have := w.now
    omega
  expiresByConn u tk c cc ht hc hid := by
    obtain ⟨cb,hb,hl⟩:=w.back c cc hc
    have := h.expiresByConn u tk c cb (w.reg.tickets u tk ht) hb (hl.ticket ▸ hid)
    have := hl.created
    omega
  latest tk c cc hc ha ht := by
    obtain ⟨cb,hb,hl⟩:=w.back c cc hc
    rw [hl.ticket]
    exact h.latest tk c cb hb (hl.active ha) (hl.uuid ▸ w.reg.tickets _ tk ht)
  agree c cc c' cc' hc hc' ha ha' hu := by
    obtain ⟨cb,hb,hl⟩:=w.back c cc hc
    obtain ⟨cb',hb',hl'⟩:=w.back c' cc' hc'
    rw [hl.ticket,hl'.ticket]
    exact h.agree c cb c' cb' hb hb' (hl.active ha) (hl'.active ha') (by rw [← hl.uuid,← hl'.uuid,hu])
  claimsLe u tk ht := h.claimsLe u tk (w.reg.tickets u tk ht)
  noHolder u tk c cc ht h0 hc hid := by
    obtain ⟨cb,hb,hl⟩:=w.back c cc hc
    have hn:=h.noHolder u tk c cb (w.reg.tickets u tk ht) h0 hb (hl.ticket ▸ hid)
    by_contra hh
    rw [hl.holding (by simpa using hh)] at hn
    cases hn
  oneHolder u tk c cc c' cc' ht hc hc' hid hid' hh hh' := by
    obtain ⟨cb,hb,hl⟩:=w.back c cc hc
    obtain ⟨cb',hb',hl'⟩:=w.back c' cc' hc'
    exact h.oneHolder u tk c cb c' cb' (w.reg.tickets u tk ht) hb hb' (hl.ticket ▸ hid)
      (hl'.ticket ▸ hid') (hl.holding hh) (hl'.holding hh')
  twoHolders c cc c' cc' c'' cc'' hc hc' hc'' he he' hh hh' hh'' := by
    obtain ⟨cb,hb,hl⟩:=w.back c cc hc
    obtain ⟨cb',hb',hl'⟩:=w.back c' cc' hc'
    obtain ⟨cb'',hb'',hl''⟩:=w.back c'' cc'' hc''
    exact h.twoHolders c cb c' cb' c'' cb'' hb hb' hb'' (by rw [← hl.ticket,← hl'.ticket,he])
      (by rw [← hl.ticket,← hl''.ticket,he']) (hl.holding hh) (hl'.holding hh') (hl''.holding hh'')
  unpairedLive u tk c cc ht hc hid := by
    obtain ⟨cb,hb,hl⟩:=w.back c cc hc
    have hn:=h.unpairedLive u tk c cb (w.reg.tickets u tk ht) hb (hl.ticket ▸ hid)
    cases hp : cc.partner with
    | none => rfl
    | some e =>
      rw [hl.partner e hp] at hn
      cases hn
  partnerOk p cp e hc hp := by
    obtain ⟨cb,hb,hl⟩:=w.back p cp hc
    obtain ⟨hne,ce,he,ht⟩:=h.partnerOk p cb e hb (hl.partner e hp)
    obtain ⟨ce',he',hl'⟩:=w.forth e ce he
    exact ⟨hne,ce',he',by rw [hl'.ticket,hl.ticket,ht]⟩
  noFresh p cp c cc hp hc hs ht := by
    obtain ⟨cb,hb,hl⟩:=w.back p cp hp
    obtain ⟨cb',hb',hl'⟩:=w.back c cc hc
    obtain ⟨e,he⟩:=isSome_iff_exists.mp hs
    have hn:=h.noFresh p cb c cb' hb hb' (by rw [hl.partner e he]; rfl)
      (by rw [← hl.ticket,← hl'.ticket,ht])
    by_contra hf
    rw [hl'.fresh (by simpa using hf)] at hn
    cases hn
  onePair p cp p' cp' hp hp' hs hs' ht := by
    obtain ⟨cb,hb,hl⟩:=w.back p cp hp
    obtain ⟨cb',hb',hl'⟩:=w.back p' cp' hp'
    obtain ⟨e,he⟩:=isSome_iff_exists.mp hs
    obtain ⟨e',he'⟩:=isSome_iff_exists.mp hs'
    exact h.onePair p cb p' cb' hb hb' (by rw [hl.partner e he]; rfl) (by rw [hl'.partner e' he']; rfl)
      (by rw [← hl.ticket,← hl'.ticket,ht])
  past := w.past h.past

@[simp] theorem setConn_conns (s : State) (c : ConnID) (cc : Conn) :
    (s.setConn c cc).conns=update s.conns c (some cc) := rfl

theorem update_cases {α β : Type*} [DecidableEq α] {f : α → Option β} {a b : α} {v : Option β}
    {w : β} (h : update f a v b=some w) : (b=a ∧ v=some w) ∨ (b≠a ∧ f b=some w) := by
  by_cases hb : b=a
  · subst hb
    rw [update_self] at h
    exact Or.inl ⟨rfl,h⟩
  · rw [update_of_ne hb] at h
    exact Or.inr ⟨hb,h⟩

theorem conns_cases {f : ConnID → Option Conn} {cd : Conn}
    (h : update f c (some cc) d=some cd) : (d=c ∧ cd=cc) ∨ (d≠c ∧ f d=some cd) :=
  (update_cases h).imp_left fun h => ⟨h.1,(Option.some.inj h.2).symm⟩

theorem setConn_cases {cd : Conn} (h : (s.setConn c cc).conns d=some cd) : (d=c ∧ cd=cc) ∨ (d≠c ∧ s.conns d=some cd) :=
  conns_cases h

theorem setPending_cases {w : UUID} {v : Option ConnID}
    (h : (s.setPending u v).pending w=some d) : (w=u ∧ v=some d) ∨ (w≠u ∧ s.pending w=some d) :=
  update_cases h

theorem weaker_of_conns_eq (hr : Registry.Sub t.reg s.reg) (hn : s.now≤t.now) (hc : t.conns=s.conns) : Weaker t s :=
  ⟨hr,hn,fun _ cc h => ⟨cc,hc ▸ h,Conn.Later.refl cc⟩,
    fun _ cb h => ⟨cb,hc ▸ h,Conn.Later.refl cb⟩,
    fun h c cc hcc => Nat.le_trans (h c cc (hc ▸ hcc)) hn⟩

theorem weaker_of_update (hr : Registry.Sub t.reg s.reg) (hn : s.now≤t.now) (hc : s.conns c=some cc) (hl : cc'.Later cc)
    (hcr : cc'.created=cc.created ∨ cc'.created≤t.now)
    (ht : t.conns=update s.conns c (some cc')) : Weaker t s := by
  refine ⟨hr,hn,fun d cd h => ?_,fun d cd h => ?_,fun past d cd h => ?_⟩
  · rw [ht] at h
    by_cases hd : d=c
    · subst hd
      rw [update_self,some.injEq] at h
      exact ⟨cc,hc,h ▸ hl⟩
    · rw [update_of_ne hd] at h
      exact ⟨cd,h,Conn.Later.refl cd⟩
  · rw [ht]
    by_cases hd : d=c
    · subst hd
      rw [hc,some.injEq] at h
      exact ⟨cc',update_self ..,h ▸ hl⟩
    · exact ⟨cd,by rw [update_of_ne hd]; exact h,Conn.Later.refl cd⟩
  · rw [ht] at h
    by_cases hd : d=c
    · subst hd
      rw [update_self,some.injEq] at h
      have := past d cc hc
      rw [← h]
      omega
    · rw [update_of_ne hd] at h
      exact Nat.le_trans (past d cd h) hn

theorem weaker_closeDone (s : State) (c : ConnID) : Weaker (s.closeDone c) s := by
  unfold closeDone
  cases hc : s.conns c with
  | none => exact weaker_of_conns_eq (Registry.Sub.refl _) (Nat.le_refl _) rfl
  | some cc =>
    by_cases hd : cc.done=true
    · simp only [hd,if_true]
      exact weaker_of_conns_eq (Registry.Sub.refl _) (Nat.le_refl _) rfl
    · have hl : Conn.Later {cc with done := true} cc := by
        refine ⟨rfl,rfl,Nat.le_refl _,fun ha => ?_,id,id,fun _ h => h⟩
        unfold Conn.active at ha ⊢
        cases hp : cc.phase <;> simp_all
      dsimp only
      rw [if_neg hd]
      exact weaker_of_update (Registry.Sub.refl _) (Nat.le_refl _) hc hl (Or.inl rfl) rfl

theorem Account.issue {i tg : PeerID} (h : Account s) (hs : Settled s u)
    (hc : t.conns=s.conns) (hn : t.now=s.now)
    (hr : t.reg={s.reg.prune s.now with
      tickets := update (s.reg.prune s.now).tickets u
        (some ⟨s.reg.issued.length,s.now+relayPairTimeout,0⟩)
      issued := s.reg.issued++[⟨u,i,tg⟩]}) : Account t := by
  have old : ∀ v tk, v≠u → t.reg.tickets v=some tk → s.reg.tickets v=some tk := by
    intro v tk hv ht
    rw [hr] at ht
    simp only [update_of_ne hv] at ht
    exact (prune_sub s.reg s.now).tickets v tk ht
  have new : ∀ tk, t.reg.tickets u=some tk →
      tk=⟨s.reg.issued.length,s.now+relayPairTimeout,0⟩ := by
    intro tk ht
    rw [hr] at ht
    simp only [update_self,some.injEq] at ht
    exact ht.symm
  have keep : ∀ (k : ℕ) (j : Issue), s.reg.issued[k]?=some j → t.reg.issued[k]?=some j := by
    intro k j hk
    rw [hr]
    rw [List.getElem?_append_left (List.getElem?_eq_some_iff.mp hk).1]
    exact hk
  have unclaimed : ∀ c cc, s.conns c=some cc → cc.ticket≠s.reg.issued.length := by
    intro c cc hcc heq
    obtain ⟨j,hj,_⟩:=h.connIssued c cc hcc
    rw [heq] at hj
    simp at hj
  -- a ticket of `t` is the new one, which no connection has claimed, or one of `s`
  have split : ∀ {P : Prop} v tk c cc, t.reg.tickets v=some tk → s.conns c=some cc →
      cc.ticket=tk.id → (s.reg.tickets v=some tk → P) → P := by
    intro P v tk c cc ht hcc hid hP
    by_cases hv : v=u
    · subst hv
      rw [new tk ht] at hid
      exact absurd hid (unclaimed c cc hcc)
    · exact hP (old v tk hv ht)
  constructor
  · intro v tk ht
    by_cases hv : v=u
    · subst hv
      rw [new tk ht,hr]
      exact ⟨⟨v,i,tg⟩,by simp,rfl⟩
    · obtain ⟨j,hj,hju⟩:=h.ticketIssued v tk (old v tk hv ht)
      exact ⟨j,keep _ j hj,hju⟩
  · intro c cc hcc
    obtain ⟨j,hj,hju⟩:=h.connIssued c cc (hc ▸ hcc)
    exact ⟨j,keep _ j hj,hju⟩
  · intro v tk ht
    rw [hn]
    by_cases hv : v=u
    · subst hv
      obtain rfl:=new tk ht
      exact Nat.le_refl _
    · exact h.expiresByNow v tk (old v tk hv ht)
  · intro v tk c cc ht hcc hid
    rw [hc] at hcc
    exact split v tk c cc ht hcc hid fun ho => h.expiresByConn v tk c cc ho hcc hid
  · intro tk c cc hcc ha ht
    rw [hc] at hcc
    by_cases hv : cc.uuid=u
    · rw [hs.1 c cc hcc hv] at ha
      cases ha
    · exact h.latest tk c cc hcc ha (old _ tk hv ht)
  · intro c cc c' cc' hcc hcc'
    rw [hc] at hcc hcc'
    exact h.agree c cc c' cc' hcc hcc'
  · intro v tk ht
    by_cases hv : v=u
    · subst hv
      rw [new tk ht]
      exact zero_le 1
    · exact h.claimsLe v tk (old v tk hv ht)
  · intro v tk c cc ht h0 hcc hid
    rw [hc] at hcc
    exact split v tk c cc ht hcc hid fun ho => h.noHolder v tk c cc ho h0 hcc hid
  · intro v tk c cc c' cc' ht hcc hcc' hid hid' hh hh'
    rw [hc] at hcc hcc'
    exact split v tk c cc ht hcc hid fun ho =>
      h.oneHolder v tk c cc c' cc' ho hcc hcc' hid hid' hh hh'
  · rw [hc]
    exact h.twoHolders
  · intro v tk c cc ht hcc hid
    rw [hc] at hcc
    exact split v tk c cc ht hcc hid fun ho => h.unpairedLive v tk c cc ho hcc hid
  · rw [hc]
    exact h.partnerOk
  · rw [hc]
    exact h.noFresh
  · rw [hc]
    exact h.onePair
  · rw [hc,hn]
    exact h.past

theorem Account.claimed {cn : Conn}
    (h : Account s) (hc0 : s.conns c=none) (htk : s.reg.tickets u=some tk)
    (hcn : cn.uuid=u ∧ cn.ticket=tk.id ∧ cn.created=s.now ∧ cn.phase=.claimed)
    (hc : t.conns=update s.conns c (some cn)) (hn : t.now=s.now)
    (hi : t.reg.issued=s.reg.issued)
    (hother : ∀ v tk', v≠u → t.reg.tickets v=some tk' → s.reg.tickets v=some tk')
    (hhere : (tk.claims=0 ∧ t.reg.tickets u=some {tk with claims := 1}) ∨
      (tk.claims=1 ∧ t.reg.tickets u=none)) : Account t := by
  obtain ⟨hcu,hct,hcc,hcp⟩:=hcn
  have fresh : cn.active=true ∧ cn.holding=true ∧ cn.fresh=true ∧ cn.partner=none := by
    simp [Conn.active,Conn.holding,Conn.fresh,Conn.partner,hcp]
  obtain ⟨hca,hch,hcf,hcn0⟩:=fresh
  have conns : ∀ {d cd}, t.conns d=some cd → (d=c ∧ cd=cn) ∨ (d≠c ∧ s.conns d=some cd) :=
    fun hd => conns_cases (hc ▸ hd)
  -- a ticket of `t` is a ticket of `s`, up to the claim just counted
  have tickets : ∀ {v tk'}, t.reg.tickets v=some tk' → ∃ tk0, s.reg.tickets v=some tk0 ∧
      tk'.id=tk0.id ∧ tk'.expiresAt=tk0.expiresAt ∧
      (tk'.claims=tk0.claims ∨ (v=u ∧ tk0=tk ∧ tk.claims=0 ∧ tk'.claims=1)) := by
    intro v tk' hv
    by_cases hvu : v=u
    · subst hvu
      rcases hhere with ⟨h0,h1⟩ | ⟨_,h1⟩
      · rw [hv,some.injEq] at h1
        exact ⟨tk,htk,by rw [h1],by rw [h1],Or.inr ⟨rfl,rfl,h0,by rw [h1]⟩⟩
      · rw [hv] at h1
        cases h1
    · exact ⟨tk',hother v tk' hvu hv,rfl,rfl,Or.inl rfl⟩
  have sameUuid : ∀ {v tk0}, s.reg.tickets v=some tk0 → tk0.id=tk.id → v=u := by
    intro v tk0 hv hid
    obtain ⟨j,hj,hju⟩:=h.ticketIssued v tk0 hv
    obtain ⟨k,hk,hku⟩:=h.ticketIssued u tk htk
    rw [hid,hk,some.injEq] at hj
    rw [← hju,← hku,hj]
  -- before the claim nobody could pair on this ticket
  have noneCoupled : ∀ {d cd}, s.conns d=some cd → cd.ticket=tk.id → cd.partner=none :=
    fun hd hid => h.unpairedLive u tk _ _ htk hd hid
  constructor
  · intro v tk' hv
    obtain ⟨tk0,h0,hid,_⟩:=tickets hv
    rw [hi,hid]
    exact h.ticketIssued v tk0 h0
  · intro d cd hd
    rw [hi]
    rcases conns hd with ⟨rfl,rfl⟩ | ⟨_,hd⟩
    · rw [hct,hcu]
      exact h.ticketIssued u tk htk
    · exact h.connIssued d cd hd
  · intro v tk' hv
    obtain ⟨tk0,h0,_,he,_⟩:=tickets hv
    rw [he,hn]
    exact h.expiresByNow v tk0 h0
  · intro v tk' d cd hv hd hid
    obtain ⟨tk0,h0,hid0,he,_⟩:=tickets hv
    rw [he]
    rcases conns hd with ⟨rfl,rfl⟩ | ⟨_,hd⟩
    · rw [hcc]
      exact h.expiresByNow v tk0 h0
    · exact h.expiresByConn v tk0 d cd h0 hd (by rw [hid,hid0])
  · intro tk' d cd hd ha hv
    obtain ⟨tk0,h0,hid0,_⟩:=tickets hv
    rcases conns hd with ⟨rfl,rfl⟩ | ⟨_,hd⟩
    · rw [hcu,htk,some.injEq] at h0
      rw [hct,hid0,h0]
    · rw [hid0]
      exact h.latest tk0 d cd hd ha h0
  · intro d cd d' cd' hd hd' ha ha' hu
    rcases conns hd with ⟨rfl,rfl⟩ | ⟨_,hd⟩ <;> rcases conns hd' with ⟨rfl,rfl⟩ | ⟨_,hd'⟩
    · rfl
    · rw [hct,h.latest tk d' cd' hd' ha' (by rw [← hu,hcu]; exact htk)]
    · rw [hct,h.latest tk d cd hd ha (by rw [hu,hcu]; exact htk)]
    · exact h.agree d cd d' cd' hd hd' ha ha' hu
  · intro v tk' hv
    obtain ⟨tk0,h0,_,_,hcl | ⟨_,_,_,hcl⟩⟩:=tickets hv
    · rw [hcl]
      exact h.claimsLe v tk0 h0
    · omega
  · intro v tk' d cd hv hz hd hid
    obtain ⟨tk0,h0,hid0,_,hcl | ⟨_,_,_,hcl⟩⟩:=tickets hv
    · rcases conns hd with ⟨rfl,rfl⟩ | ⟨_,hd⟩
      · -- the ticket just claimed has a claim
        have hvu:=sameUuid h0 (by rw [← hid0,← hid,hct])
        subst hvu
        rcases hhere with ⟨_,h1⟩ | ⟨_,h1⟩
        · rw [hv,some.injEq] at h1
          rw [h1] at hz
          cases hz
        · rw [hv] at h1
          cases h1
      · exact h.noHolder v tk0 d cd h0 (by rw [← hcl,hz]) hd (by rw [hid,hid0])
    · omega
  · intro v tk' d cd d' cd' hv hd hd' hid hid' hh hh'
    obtain ⟨tk0,h0,hid0,_⟩:=tickets hv
    -- the new connection on its ticket is the first holder
    have first : ∀ {e ce}, s.conns e=some ce → ce.ticket=tk'.id → ce.holding=true →
        cn.ticket=tk'.id → False := by
      intro e ce he hide hhe hidc
      have hvu:=sameUuid h0 (by rw [← hid0,← hidc,hct])
      subst hvu
      rcases hhere with ⟨hz,_⟩ | ⟨_,h1⟩
      · have := h.noHolder v tk e ce htk hz he (by rw [hide,← hidc,hct])
        rw [hhe] at this
        cases this
      · rw [hv] at h1
        cases h1
    rcases conns hd with ⟨rfl,rfl⟩ | ⟨_,hd⟩ <;> rcases conns hd' with ⟨rfl,rfl⟩ | ⟨_,hd'⟩
    · rfl
    · exact (first hd' hid' hh' hid).elim
    · exact (first hd hid hh hid').elim
    · exact h.oneHolder v tk0 d cd d' cd' h0 hd hd' (by rw [hid,hid0]) (by rw [hid',hid0]) hh hh'
  · intro d cd d' cd' d'' cd'' hd hd' hd'' he he' hh hh' hh''
    -- of two older holders of the claimed ticket one is the other
    have older : ∀ {e ce e' ce'}, s.conns e=some ce → s.conns e'=some ce' →
        ce.ticket=cn.ticket → ce'.ticket=cn.ticket → ce.holding=true → ce'.holding=true →
        e=e' := fun hs hs' ht ht' hhs hhs' =>
      h.oneHolder u tk _ _ _ _ htk hs hs' (ht.trans hct) (ht'.trans hct) hhs hhs'
    rcases conns hd with ⟨rfl,rfl⟩ | ⟨_,hd⟩ <;> rcases conns hd' with ⟨rfl,rfl⟩ | ⟨_,hd'⟩ <;>
      rcases conns hd'' with ⟨rfl,rfl⟩ | ⟨_,hd''⟩
    · exact Or.inl rfl
    · exact Or.inl rfl
    · exact Or.inr (Or.inl rfl)
    · exact Or.inr (Or.inr (older hd' hd'' he.symm he'.symm hh' hh''))
    · exact Or.inr (Or.inr rfl)
    · exact Or.inr (Or.inl (older hd hd'' he (he'.symm.trans he) hh hh''))
    · exact Or.inl (older hd hd' he' (he.symm.trans he') hh hh')
    · exact h.twoHolders d cd d' cd' d'' cd'' hd hd' hd'' he he' hh hh' hh''
  · intro v tk' d cd hv hd hid
    obtain ⟨tk0,h0,hid0,_⟩:=tickets hv
    rcases conns hd with ⟨rfl,rfl⟩ | ⟨_,hd⟩
    · exact hcn0
    · exact h.unpairedLive v tk0 d cd h0 hd (by rw [hid,hid0])
  · intro p cp e hp he
    rcases conns hp with ⟨rfl,rfl⟩ | ⟨_,hp⟩
    · rw [hcn0] at he
      cases he
    · obtain ⟨hne,ce,hce,ht⟩:=h.partnerOk p cp e hp he
      have hec : e≠c := by
        rintro rfl
        rw [hc0] at hce
        cases hce
      exact ⟨hne,ce,by rw [hc,update_of_ne hec]; exact hce,ht⟩
  · intro p cp d cd hp hd hs ht
    rcases conns hp with ⟨rfl,rfl⟩ | ⟨_,hp⟩
    · rw [hcn0] at hs
      cases hs
    · rcases conns hd with ⟨rfl,rfl⟩ | ⟨_,hd⟩
      · rw [noneCoupled hp (ht.trans hct)] at hs
        cases hs
      · exact h.noFresh p cp d cd hp hd hs ht
  · intro p cp p' cp' hp hp' hs hs' ht
    rcases conns hp with ⟨rfl,rfl⟩ | ⟨_,hp⟩
    · rw [hcn0] at hs
      cases hs
    · rcases conns hp' with ⟨rfl,rfl⟩ | ⟨_,hp'⟩
      · rw [hcn0] at hs'
        cases hs'
      · exact h.onePair p cp p' cp' hp hp' hs hs' ht
  · intro d cd hd
    rw [hn]
    rcases conns hd with ⟨rfl,rfl⟩ | ⟨_,hd⟩
    · exact Nat.le_of_eq hcc
    · exact h.past d cd hd

theorem Account.loaded {p e : ConnID} {cp cp' ce : Conn} (h : Account s)
    (hp : s.conns p=some cp) (hpp : cp.phase=.arriving) (he : s.conns e=some ce)
    (hea : ce.active=true) (heh : ce.holding=true) (hef : ce.fresh=false)
    (heu : ce.uuid=cp.uuid) (hcp' : cp'={cp with phase := .loaded e})
    (hc : t.conns=update s.conns p (some cp')) (hr : t.reg=s.reg) (hn : t.now=s.now) : Account t := by
  have hpa : cp.active=true := by simp only [Conn.active,hpp]
  have hph : cp.holding=true := by simp only [Conn.holding,hpp]
  have hpf : cp.fresh=true := by simp only [Conn.fresh,hpp]
  have hpn : cp.partner=none := by simp only [Conn.partner,hpp]
  have hne : e≠p := by
    rintro rfl
    rw [hp,some.injEq] at he
    rw [← he,hpf] at hef
    cases hef
  have hte : ce.ticket=cp.ticket := h.agree e ce p cp he hp hea hpa heu
  have ha' : cp'.active=true := by simp only [hcp',Conn.active]
  have hh' : cp'.holding=false := by simp only [hcp',Conn.holding]
  have hf' : cp'.fresh=false := by simp only [hcp',Conn.fresh]
  have hn' : cp'.partner=some e := by simp only [hcp',Conn.partner]
  have hu' : cp'.uuid=cp.uuid := by rw [hcp']
  have ht' : cp'.ticket=cp.ticket := by rw [hcp']
  have hcr' : cp'.created=cp.created := by rw [hcp']
  -- the ticket of the two is spent, so it is no longer in the registry
  have spent : ∀ u tk, s.reg.tickets u=some tk → cp.ticket≠tk.id := by
    intro u tk ht hid
    exact hne (h.oneHolder u tk e ce p cp ht he hp (hte.trans hid) hid heh hph)
  -- and nobody else has paired on it
  have alone : ∀ {d cd}, s.conns d=some cd → cd.ticket=cp.ticket → cd.partner=none := by
    intro d cd hd hdt
    cases hdp : cd.partner with
    | none => rfl
    | some x =>
      have := h.noFresh d cd p cp hd hp (by rw [hdp]; rfl) hdt
      rw [hpf] at this
      cases this
  have conns : ∀ {d cd}, t.conns d=some cd →
      (d=p ∧ cd=cp') ∨ (d≠p ∧ s.conns d=some cd) := fun hd => conns_cases (hc ▸ hd)
  constructor
  · rw [hr]
    exact h.ticketIssued
  · intro d cd hd
    rw [hr]
    rcases conns hd with ⟨rfl,rfl⟩ | ⟨_,hd⟩
    · rw [ht',hu']
      exact h.connIssued d cp hp
    · exact h.connIssued d cd hd
  · rw [hr,hn]
    exact h.expiresByNow
  · intro u tk d cd htk hd hid
    rw [hr] at htk
    rcases conns hd with ⟨rfl,rfl⟩ | ⟨_,hd⟩
    · exact absurd (ht' ▸ hid) (spent u tk htk)
    · exact h.expiresByConn u tk d cd htk hd hid
  · intro tk d cd hd ha htk
    rw [hr] at htk
    rcases conns hd with ⟨rfl,rfl⟩ | ⟨_,hd⟩
    · rw [hu'] at htk
      rw [ht']
      exact h.latest tk d cp hp hpa htk
    · exact h.latest tk d cd hd ha htk
  · intro d cd d' cd' hd hd' ha ha1 hu
    rcases conns hd with ⟨rfl,rfl⟩ | ⟨_,hd⟩ <;> rcases conns hd' with ⟨rfl,rfl⟩ | ⟨_,hd'⟩
    · rfl
    · rw [ht']
      exact h.agree d cp d' cd' hp hd' hpa ha1 (hu' ▸ hu)
    · rw [ht']
      exact h.agree d cd d' cp hd hp ha hpa (hu' ▸ hu)
    · exact h.agree d cd d' cd' hd hd' ha ha1 hu
  · rw [hr]
    exact h.claimsLe
  · intro u tk d cd htk h0 hd hid
    rw [hr] at htk
    rcases conns hd with ⟨rfl,rfl⟩ | ⟨_,hd⟩
    · exact hh'
    · exact h.noHolder u tk d cd htk h0 hd hid
  · intro u tk d cd d' cd' htk hd hd' hid hid' hh hh1
    rw [hr] at htk
    rcases conns hd with ⟨rfl,rfl⟩ | ⟨_,hd⟩
    · rw [hh'] at hh
      cases hh
    · rcases conns hd' with ⟨rfl,rfl⟩ | ⟨_,hd'⟩
      · rw [hh'] at hh1
        cases hh1
      · exact h.oneHolder u tk d cd d' cd' htk hd hd' hid hid' hh hh1
  · intro d cd d' cd' d'' cd'' hd hd' hd'' he1 he2 hh hh1 hh2
    have older : ∀ {x cx}, t.conns x=some cx → cx.holding=true → s.conns x=some cx := by
      intro x cx hx hhx
      rcases conns hx with ⟨rfl,rfl⟩ | ⟨_,hx⟩
      · rw [hh'] at hhx
        cases hhx
      · exact hx
    exact h.twoHolders d cd d' cd' d'' cd'' (older hd hh) (older hd' hh1) (older hd'' hh2)
      he1 he2 hh hh1 hh2
  · intro u tk d cd htk hd hid
    rw [hr] at htk
    rcases conns hd with ⟨rfl,rfl⟩ | ⟨_,hd⟩
    · exact absurd (ht' ▸ hid) (spent u tk htk)
    · exact h.unpairedLive u tk d cd htk hd hid
  · intro d cd x hd hx
    have there : ∀ {y cy}, s.conns y=some cy → ∃ cy', t.conns y=some cy' ∧
        cy'.ticket=cy.ticket := by
      intro y cy hy
      rw [hc]
      by_cases hyp : y=p
      · subst hyp
        rw [hp,some.injEq] at hy
        exact ⟨cp',update_self ..,by rw [ht',hy]⟩
      · exact ⟨cy,by rw [update_of_ne hyp]; exact hy,rfl⟩
    rcases conns hd with ⟨rfl,rfl⟩ | ⟨_,hd⟩
    · rw [hn',some.injEq] at hx
      subst hx
      obtain ⟨cy,hy,hyt⟩:=there he
      exact ⟨hne,cy,hy,by rw [hyt,ht',hte]⟩
    · obtain ⟨hxd,cx,hcx,hxt⟩:=h.partnerOk d cd x hd hx
      obtain ⟨cy,hy,hyt⟩:=there hcx
      exact ⟨hxd,cy,hy,by rw [hyt,hxt]⟩
  · intro d cd d' cd' hd hd' hs ht
    rcases conns hd' with ⟨rfl,rfl⟩ | ⟨hd'p,hd'⟩
    · exact hf'
    · rcases conns hd with ⟨rfl,rfl⟩ | ⟨_,hd⟩
      · -- a third connection on the spent ticket is not on its way
        cases hf : cd'.fresh with
        | false => rfl
        | true =>
          have hh1 : cd'.holding=true := by
            unfold Conn.fresh at hf
            unfold Conn.holding
            cases hph : cd'.phase <;> simp_all
          rcases h.twoHolders e ce d cp d' cd' he hp hd' hte
            (by rw [hte,← ht',ht]) heh hph hh1 with h1 | h1 | h1
          · exact absurd h1 hne
          · subst h1
            rw [he,some.injEq] at hd'
            rw [← hd',hef] at hf
            cases hf
          · exact absurd h1.symm hd'p
      · exact h.noFresh d cd d' cd' hd hd' hs ht
  · intro d cd d' cd' hd hd' hs hs' ht
    rcases conns hd with ⟨rfl,rfl⟩ | ⟨_,hd⟩ <;> rcases conns hd' with ⟨rfl,rfl⟩ | ⟨_,hd'⟩
    · rfl
    · rw [alone hd' (by rw [← ht,ht'])] at hs'
      cases hs'
    · rw [alone hd (by rw [ht,ht'])] at hs
      cases hs
    · exact h.onePair d cd d' cd' hd hd' hs hs' ht
  · intro d cd hd
    rw [hn]
    rcases conns hd with ⟨rfl,rfl⟩ | ⟨_,hd⟩
    · rw [hcr']
      exact h.past d cp hp
    · exact h.past d cd hd

theorem Account.released (h : Account s) (hc0 : s.conns c=some cc) (hcp : cc.phase=.releasing)
    (hcc' : cc'={cc with phase := .closing}) (htk : s.reg.tickets cc.uuid=some tk)
    (hc : t.conns=update s.conns c (some cc')) (hn : t.now=s.now) (hi : t.reg.issued=s.reg.issued)
    (hother : ∀ v tk', v≠cc.uuid → t.reg.tickets v=some tk' → s.reg.tickets v=some tk')
    (hhere : t.reg.tickets cc.uuid=some {tk with claims := tk.claims-1}) : Account t := by
  have hca : cc.active=true := by simp only [Conn.active,hcp]
  have hch : cc.holding=true := by simp only [Conn.holding,hcp]
  have hct : cc.ticket=tk.id := h.latest tk c cc hc0 hca htk
  have hl : cc'.Later cc := by
    subst hcc'
    refine ⟨rfl,rfl,Nat.le_refl _,?_,?_,?_,?_⟩ <;>
      simp [Conn.active,Conn.holding,Conn.fresh,Conn.partner]
  have hcl : cc'.holding=false := by simp only [hcc',Conn.holding]
  -- the state with the connection gone on and the registry untouched
  have h' : Account {t with reg := s.reg} :=
    h.weaker (weaker_of_update (Registry.Sub.refl _) (Nat.le_of_eq hn.symm) hc0 hl
      (Or.inl (by rw [hcc'])) hc)
  have tickets : ∀ {v tk'}, t.reg.tickets v=some tk' → ∃ tk0, s.reg.tickets v=some tk0 ∧
      tk'.id=tk0.id ∧ tk'.expiresAt=tk0.expiresAt ∧ tk'.claims≤tk0.claims ∧
      (v≠cc.uuid → tk'=tk0) := by
    intro v tk' hv
    by_cases hvu : v=cc.uuid
    · subst hvu
      rw [hhere,some.injEq] at hv
      refine ⟨tk,htk,by rw [← hv],by rw [← hv],?_,fun hne => absurd rfl hne⟩
      rw [← hv]
      exact sub_le _ _
    · exact ⟨tk',hother v tk' hvu hv,rfl,rfl,Nat.le_refl _,fun _ => rfl⟩
  constructor
  · intro v tk' hv
    obtain ⟨tk0,h0,hid,_⟩:=tickets hv
    rw [hi,hid]
    exact h.ticketIssued v tk0 h0
  · intro d cd hd
    rw [hi]
    exact h'.connIssued d cd hd
  · intro v tk' hv
    obtain ⟨tk0,h0,_,he,_⟩:=tickets hv
    rw [he]
    exact h'.expiresByNow v tk0 h0
  · intro v tk' d cd hv hd hid
    obtain ⟨tk0,h0,hid0,he,_⟩:=tickets hv
    rw [he]
    exact h'.expiresByConn v tk0 d cd h0 hd (hid.trans hid0)
  · intro tk' d cd hd ha hv
    obtain ⟨tk0,h0,hid0,_⟩:=tickets hv
    rw [hid0]
    exact h'.latest tk0 d cd hd ha h0
  · exact h'.agree
  · intro v tk' hv
    obtain ⟨tk0,h0,_,_,hle,_⟩:=tickets hv
    exact Nat.le_trans hle (h.claimsLe v tk0 h0)
  · intro v tk' d cd hv hz hd hid
    obtain ⟨tk0,h0,hid0,_,_,hsame⟩:=tickets hv
    by_cases hvu : v=cc.uuid
    · -- the only holder of the ticket has just given its claim back
      subst hvu
      by_cases hdc : d=c
      · subst hdc
        rw [hc,update_self,some.injEq] at hd
        rw [← hd]
        exact hcl
      · cases hdh : cd.holding with
        | false => rfl
        | true =>
          rw [hc,update_of_ne hdc] at hd
          rw [htk,some.injEq] at h0
          exact absurd (h.oneHolder cc.uuid tk d cd c cc htk hd hc0 (by rw [hid,hid0,h0]) hct hdh hch) hdc
    · rw [hsame hvu] at hz
      exact h'.noHolder v tk0 d cd h0 hz hd (hid.trans hid0)
  · intro v tk' d cd d' cd' hv hd hd' hid hid' hh hh'
    obtain ⟨tk0,h0,hid0,_⟩:=tickets hv
    exact h'.oneHolder v tk0 d cd d' cd' h0 hd hd' (hid.trans hid0) (hid'.trans hid0) hh hh'
  · exact h'.twoHolders
  · intro v tk' d cd hv hd hid
    obtain ⟨tk0,h0,hid0,_⟩:=tickets hv
    exact h'.unpairedLive v tk0 d cd h0 hd (hid.trans hid0)
  · exact h'.partnerOk
  · exact h'.noFresh
  · exact h'.onePair
  · exact h'.past

/-- Every ticket of `r` is one of `r'`, up to its claims. -/
def Registry.Retains (r r' : Registry) : Prop :=
  ∀ u tk, r.tickets u=some tk →
    ∃ tk', r'.tickets u=some tk' ∧ tk'.id=tk.id ∧ tk'.expiresAt=tk.expiresAt

theorem Registry.Sub.retains {r r' : Registry} (h : Sub r r') : Retains r r' :=
  fun u tk ht => ⟨tk,h.tickets u tk ht,rfl,rfl⟩

theorem retains_update {r r' : Registry} {n : ℕ}
    (hother : ∀ v tk', v≠u → r.tickets v=some tk' → r'.tickets v=some tk') (hu : r'.tickets u=some tk)
    (hhere : r.tickets u=some {tk with claims := n} ∨ r.tickets u=none) : Retains r r' := by
  intro v tk' hv
  by_cases hvu : v=u
  · subst hvu
    rcases hhere with hh | hh
    · rw [hv,some.injEq] at hh
      exact ⟨tk,hu,by rw [hh],by rw [hh]⟩
    · rw [hv] at hh
      cases hh
  · exact ⟨tk',hother v tk' hvu hv,rfl,rfl⟩

theorem Places.carry (h : Places s) (hr : Registry.Retains t.reg s.reg)
    (hn : s.now≤t.now) (hsw : t.sweep=s.sweep)
    (hpend : ∀ u d, t.pending u=some d → s.pending u=some d ∨
      ∃ cd, s.conns d=some cd ∧ cd.fresh=true)
    (forth : ∀ d cd, s.conns d=some cd → ∃ cd', t.conns d=some cd' ∧ cd'.uuid=cd.uuid ∧
      cd'.ticket=cd.ticket ∧ (cd.fresh=false → cd'.fresh=false))
    (stay : ∀ u d, t.pending u=some d → ∃ cd, t.conns d=some cd ∧ cd.uuid=u ∧
      cd.done=false ∧ (cd.phase=.waiting ∨ cd.phase=.timedOut))
    (load : ∀ d cd e, t.conns d=some cd → cd.phase=.loaded e →
      ∃ ce, s.conns e=some ce ∧ ce.uuid=cd.uuid ∧ ce.fresh=false)
    (del : ∀ d cd e, t.conns d=some cd → cd.phase=.deleted e → t.pending cd.uuid≠some e ∧
      ∃ ce, s.conns e=some ce ∧ ce.uuid=cd.uuid ∧ ce.fresh=false)
    (opens : ∀ d cd, t.conns d=some cd → cd.fresh=true → cd.done=false) : Places t := by
  have stored : ∀ {e u}, (∃ ce, s.conns e=some ce ∧ ce.uuid=u ∧ ce.fresh=false) →
      ∃ ce, t.conns e=some ce ∧ ce.uuid=u ∧ ce.fresh=false := by
    rintro e u ⟨ce,he,hu,hf⟩
    obtain ⟨ce',he',hu',_,hf'⟩:=forth e ce he
    exact ⟨ce',he',hu'.trans hu,hf' hf⟩
  refine ⟨stay,?_,?_,opens,?_,?_,?_,?_⟩
  · intro p cp e hp hd
    obtain ⟨hne,hce⟩:=del p cp e hp hd
    exact ⟨hne,stored hce⟩
  · intro p cp e hp hl
    exact stored (load p cp e hp hl)
  · intro u c hs
    rw [hsw] at hs
    exact stored (h.sweepStored u c hs)
  · intro u c hs hu
    rw [hsw] at hs
    rcases hpend u c hu with hu | ⟨cd,hd,hf⟩
    · exact h.sweepGone u c hs hu
    · obtain ⟨ce,he,_,hf'⟩:=h.sweepStored u c (Or.inr (Or.inr hs))
      rw [hd,some.injEq] at he
      rw [← he,hf] at hf'
      cases hf'
  · intro u c cc tk hs hc ht
    rw [hsw] at hs
    obtain ⟨cb,hb,_⟩:=h.sweepStored u c (Or.inl hs)
    obtain ⟨cc',hc',_,htk,_⟩:=forth c cb hb
    obtain ⟨tk',ht',hid,_⟩:=hr u tk ht
    rw [hc,some.injEq] at hc'
    rw [hc',htk,← hid]
    exact h.sweepVisiting u c cb tk' hs hb ht'
  · intro u c tk hs ht
    rw [hsw] at hs
    obtain ⟨tk',ht',_,he⟩:=hr u tk ht
    rw [← he]
    exact Nat.le_trans (h.sweepExpired u c tk' hs ht') hn

theorem Places.registry (h : Places s) (hr : Registry.Retains t.reg s.reg)
    (hn : s.now≤t.now) (hsw : t.sweep=s.sweep) (hp : t.pending=s.pending) (hc : t.conns=s.conns) : Places t := by
  refine h.carry hr hn hsw (fun u d hd => Or.inl (hp ▸ hd)) (fun d cd hd => ?_) ?_ ?_ ?_ ?_
  · exact ⟨cd,hc ▸ hd,rfl,rfl,id⟩
  · rw [hp,hc]
    exact h.pendingConn
  · rw [hc]
    exact h.loadedStored
  · rw [hp,hc]
    exact h.deletedStored
  · rw [hc]
    exact h.freshOpen

theorem Places.conn (h : Places s)
    (hc : s.conns c=some cc) (hr : Registry.Retains t.reg s.reg) (hn : s.now≤t.now)
    (hsw : t.sweep=s.sweep) (hp : ∀ u d, t.pending u=some d → s.pending u=some d)
    (ht : t.conns=update s.conns c (some cc'))
    (hu : cc'.uuid=cc.uuid) (htk : cc'.ticket=cc.ticket)
    (hf : cc.fresh=false → cc'.fresh=false)
    (stay : t.pending cc.uuid=some c → cc'.done=false ∧ (cc'.phase=.waiting ∨ cc'.phase=.timedOut))
    (load : ∀ e, cc'.phase=.loaded e → cc.phase=.loaded e ∨ s.pending cc.uuid=some e)
    (del : ∀ e, cc'.phase=.deleted e →
      cc.phase=.deleted e ∨ cc.phase=.loaded e ∧ t.pending cc.uuid≠some e)
    (opens : cc'.fresh=true → cc.fresh=true ∧ cc'.done=cc.done) : Places t := by
  refine h.carry hr hn hsw (fun u d hd => Or.inl (hp u d hd)) (fun d cd hd => ?_)
    (fun u d hd => ?_) (fun d cd e hd hl => ?_) (fun d cd e hd hl => ?_) (fun d cd hd hfr => ?_)
  · by_cases hdc : d=c
    · subst hdc
      rw [hc,some.injEq] at hd
      subst hd
      exact ⟨cc',by rw [ht,update_self],hu,htk,hf⟩
    · exact ⟨cd,by rw [ht,update_of_ne hdc]; exact hd,rfl,rfl,id⟩
  · obtain ⟨cd,hcd,hcu,hst⟩:=h.pendingConn u d (hp u d hd)
    by_cases hdc : d=c
    · subst hdc
      rw [hc,some.injEq] at hcd
      subst hcd
      exact ⟨cc',by rw [ht,update_self],hu.trans hcu,stay (hcu ▸ hd)⟩
    · exact ⟨cd,by rw [ht,update_of_ne hdc]; exact hcd,hcu,hst⟩
  · by_cases hdc : d=c
    · subst hdc
      rw [ht,update_self,some.injEq] at hd
      subst hd
      rw [hu]
      rcases load e hl with hl | hl
      · exact h.loadedStored d cc e hc hl
      · obtain ⟨ce,hce,hcu,_,hw⟩:=h.pendingConn cc.uuid e hl
        refine ⟨ce,hce,hcu,?_⟩
        rcases hw with hw | hw <;> simp only [Conn.fresh,hw]
    · rw [ht,update_of_ne hdc] at hd
      exact h.loadedStored d cd e hd hl
  · by_cases hdc : d=c
    · subst hdc
      rw [ht,update_self,some.injEq] at hd
      subst hd
      rw [hu]
      rcases del e hl with hl | ⟨hl,hne⟩
      · obtain ⟨hne,hce⟩:=h.deletedStored d cc e hc hl
        exact ⟨fun hpe => hne (hp _ _ hpe),hce⟩
      · exact ⟨hne,h.loadedStored d cc e hc hl⟩
    · rw [ht,update_of_ne hdc] at hd
      obtain ⟨hne,hce⟩:=h.deletedStored d cd e hd hl
      exact ⟨fun hpe => hne (hp _ _ hpe),hce⟩
  · by_cases hdc : d=c
    · subst hdc
      rw [ht,update_self,some.injEq] at hd
      subst hd
      obtain ⟨hfr,hdone⟩:=opens hfr
      rw [hdone]
      exact h.freshOpen d cc hc hfr
    · rw [ht,update_of_ne hdc] at hd
      exact h.freshOpen d cd hd hfr

theorem Places.closeDone (h : Places s)
    (hgone : ∀ cc, s.conns c=some cc → s.pending cc.uuid≠some c ∧ cc.fresh=false) : Places (s.closeDone c) := by
  unfold State.closeDone
  cases hc : s.conns c with
  | none => exact h
  | some cc =>
    by_cases hd : cc.done=true
    · simp only [hd,if_true]
      exact h.registry (Registry.Sub.refl _).retains (Nat.le_refl _) rfl rfl rfl
    · dsimp only
      rw [if_neg hd]
      have hf : ¬ Conn.fresh {cc with done := true}=true := by
        show ¬ cc.fresh=true
        rw [(hgone cc hc).2]
        exact Bool.false_ne_true
      exact h.conn hc (Registry.Sub.refl _).retains (Nat.le_refl _) rfl (fun _ _ hp => hp) rfl rfl rfl
        id (fun hp => absurd hp (hgone cc hc).1) (fun e hl => Or.inl hl) (fun e hl => Or.inl hl)
        (fun hf' => absurd hf' hf)

theorem Places.issue (h : Places s) (hs : Settled s u)
    (hn : t.now=s.now) (hsw : t.sweep=s.sweep) (hp : t.pending=s.pending) (hc : t.conns=s.conns)
    (hother : ∀ v tk, v≠u → t.reg.tickets v=some tk → s.reg.tickets v=some tk) : Places t := by
  constructor
  · rw [hp,hc]
    exact h.pendingConn
  · rw [hp,hc]
    exact h.deletedStored
  · rw [hc]
    exact h.loadedStored
  · rw [hc]
    exact h.freshOpen
  · rw [hsw,hc]
    exact h.sweepStored
  · rw [hsw,hp]
    exact h.sweepGone
  · intro v c cc tk hsv hcc ht
    rw [hsw] at hsv
    have hv : v≠u := by
      rintro rfl
      exact hs.2 (by rw [hsv]; rfl)
    exact h.sweepVisiting v c cc tk hsv (hc ▸ hcc) (hother v tk hv ht)
  · intro v c tk hsv ht
    rw [hsw] at hsv
    have hv : v≠u := by
      rintro rfl
      exact hs.2 (by rcases hsv with hsv | hsv <;> rw [hsv] <;> rfl)
    rw [hn]
    exact h.sweepExpired v c tk hsv (hother v tk hv ht)

end BetterDesk.Relay
