import BetterDesk.Auth.Oidc

/-! # A login is used once (auth/oidc.go) -/

namespace BetterDesk.Auth.Oidc
open Exec OneTime List Function Option Nat

namespace Provider
variable {p q : Provider} {t : Ticket}

def places (p : Provider) : Ticket → ℕ
  | .state s => (p.building.countP fun x => x.1=s)+present p.states s+p.exchanging.countP fun x => x.1=s
  | .code c => present p.codes c
  | .pending c => (p.building.countP fun x => x.1=c&&x.2.flow=.client) +
      (p.announcing.countP fun x => x.1=c)+present p.clientPending c

def weight (p : Provider) (t : Ticket) : ℕ := p.places t+spent p.log t

structure Single (p : Provider) : Prop where
  once : ∀ t, p.weight t≤1
  drawn : ∀ t, t.text∉p.drawn → p.weight t=0

theorem single_init (now : ℕ) : (init now).Single := by
  have hzero (t : Ticket) : (init now).weight t=0 := by
    cases t <;> simp [weight,places,spent,init,present]
  exact ⟨fun t => by rw [hzero]; omega,fun t _ => hzero t⟩

theorem Single.of_le (h : p.Single) (hle : ∀ t, q.weight t≤p.weight t) (hdrawn : q.drawn=p.drawn) : q.Single where
  once t := Nat.le_trans (hle t) (h.once t)
  drawn t ht := by
    rw [hdrawn] at ht
    have hzero:=h.drawn t ht
    have hq:=hle t
    omega

theorem Single.of_fresh {texts : List String} (h : p.Single) (hfresh : p.fresh texts) (hdrawn : q.drawn=texts++p.drawn)
    (hnew : ∀ t, t.text∈texts → q.weight t≤p.weight t+1) (hold : ∀ t, t.text∉texts → q.weight t≤p.weight t) :
    q.Single := by
  constructor
  · intro t
    by_cases ht : t.text∈texts
    · have hzero:=h.drawn t (hfresh.2 _ ht)
      have hq:=hnew t ht
      omega
    · exact Nat.le_trans (hold t ht) (h.once t)
  · intro t ht
    rw [hdrawn,mem_append,not_or] at ht
    have hzero:=h.drawn t ht.2
    have hq:=hold t ht.1
    omega

theorem spent_cons (e : Event) (log : List Event) (t : Ticket) :
    spent (e::log) t=spent log t + if e.spends=some t then 1 else 0 := by
  simp [spent,countP_cons]

theorem consumeAuthCode_cases (p : Provider) (code : String) : p.consumeAuthCode code=(none,p) ∨
    ∃ entry, p.codes code=some entry ∧
      p.consumeAuthCode code=(if p.older entry.createdAt (60*second) then none else some entry,
        {p with codes := update p.codes code none}) := by
  unfold consumeAuthCode
  split
  · exact .inl rfl
  · cases hcode : p.codes code with
    | none => exact .inl rfl
    | some entry => exact .inr ⟨entry,rfl,rfl⟩

theorem completeClientPending_cases (p : Provider) (code : String) (user : User) :
    p.completeClientPending code user=(false,p) ∨
    ∃ entry, p.clientPending code=some entry ∧
      (p.completeClientPending code user=(false,{p with clientPending := update p.clientPending code none}) ∨
        p.completeClientPending code user=(true,{p with
          clientPending := update p.clientPending code (some {entry with
            user := user
            authed := true})})) := by
  unfold completeClientPending
  split
  · exact .inl rfl
  · cases hentry : p.clientPending code with
    | none => exact .inl rfl
    | some entry =>
      refine .inr ⟨entry,rfl,?_⟩
      dsimp only
      split
      · exact .inl rfl
      · exact .inr rfl

theorem consumeClientPending_cases (p : Provider) (code : String) : p.consumeClientPending code=(none,p) ∨
    ∃ entry, p.clientPending code=some entry ∧ p.consumeClientPending code =
      (if p.older entry.createdAt (10*minute) ∨ entry.authed=false then none else some entry,
        {p with clientPending := update p.clientPending code none}) := by
  unfold consumeClientPending
  split
  · exact .inl rfl
  · cases hentry : p.clientPending code with
    | none => exact .inl rfl
    | some entry => exact .inr ⟨entry,rfl,rfl⟩

section
variable {code state : String}

theorem weight_buildAuthURL {nonce : String} {verifier : Option String} {base : OidcState} (t : Ticket) :
    (p.buildAuthURL state nonce verifier base).weight t≤p.weight t + if t.text=state then 1 else 0 := by
  cases t with
  | state s =>
    by_cases hs : s=state
    · simp only [weight,places,buildAuthURL,spent_cons,Event.spends,countP_cons,Ticket.text,hs]
      simp
      omega
    · simp [weight,places,buildAuthURL,spent_cons,Event.spends,Ticket.text,hs,Ne.symm hs]
  | code c => simp [weight,places,buildAuthURL,spent_cons,Event.spends]
  | pending c =>
    by_cases hs : c=state
    · simp only [weight,places,buildAuthURL,spent_cons,Event.spends,countP_cons,Ticket.text,hs]
      cases base.flow <;> simp
      omega
    · simp [weight,places,buildAuthURL,spent_cons,Event.spends,Ticket.text,hs,Ne.symm hs]

variable {x : String × OidcState}

theorem weight_storeState (hx : x∈p.building) (t : Ticket) : (p.storeState x).weight t≤p.weight t := by
  cases t with
  | state s =>
    have herase:=countP_erase_add hx fun y => y.1=s
    have hput:=present_put p.states x.1 x.2 s
    simp only [weight,places,storeState,decide_eq_true_eq] at herase ⊢
    omega
  | code c => exact Nat.le_refl _
  | pending c =>
    have herase:=countP_erase_add hx fun y => y.1=c&&y.2.flow=.client
    cases hflow : x.2.flow <;> simp [weight,places,storeState,hflow,countP_cons] at herase ⊢ <;> omega

theorem weight_announce (hx : x∈p.announcing) (t : Ticket) : (p.announce x).weight t≤p.weight t := by
  cases t with
  | state | code => simp [weight,places,announce,spent_cons,Event.spends]
  | pending c =>
    have herase:=countP_erase_add hx fun y => y.1=c
    have hput:=present_put p.clientPending x.1
      ⟨x.2.clientID,x.2.clientUUID,x.2.deviceName,x.2.deviceOS,x.2.deviceType,⟨0,"",""⟩,false,p.now⟩ c
    simp only [weight,places,announce,spent_cons,Event.spends,decide_eq_true_eq] at herase ⊢
    simp
    omega

theorem weight_takeState (t : Ticket) : (p.takeState state).weight t≤p.weight t := by
  unfold takeState
  cases hstate : p.states state with
  | none => exact Nat.le_refl _
  | some entry =>
    cases t with
    | state s =>
      have htake:=present_take hstate s
      simp only [weight,places,countP_cons,decide_eq_true_eq]
      omega
    | code | pending => exact Nat.le_refl _

theorem weight_checkAge (hx : x∈p.exchanging) (t : Ticket) : (p.checkAge x).weight t≤p.weight t := by
  have hlog (t : Ticket) : spent (p.checkAge x).log t ≤ spent p.log t + if Ticket.state x.1=t then 1 else 0 := by
    unfold checkAge
    dsimp only
    split
    · omega
    · simp [spent_cons,Event.spends]
  have hspent:=hlog t
  cases t with
  | state s =>
    have herase:=countP_erase_add hx fun y => y.1=s
    simp only [Ticket.state.injEq] at hspent
    simp only [weight,places,decide_eq_true_eq] at herase ⊢
    simp only [checkAge] at hspent ⊢
    omega
  | code | pending => simpa [weight,places,checkAge] using hspent

theorem weight_storeAuthCode {token username role returnURL : String} (t : Ticket) :
    (p.storeAuthCode code token username role returnURL).weight t≤p.weight t + if t.text=code then 1 else 0 := by
  cases t with
  | code c =>
    have hput:=present_put p.codes code ⟨token,username,role,returnURL,p.now⟩ c
    simp only [weight,places,storeAuthCode,spent_cons,Event.spends,Ticket.text]
    simp [eq_comm] at hput ⊢
    omega
  | state | pending => simp [weight,places,storeAuthCode,spent_cons,Event.spends]

theorem weight_consumedCode {entry : AuthCode} (hcode : p.codes code=some entry) (e : Option Event)
    (he : ∀ e'∈e, ∃ time, e'=.consumedCode code entry time) (t : Ticket) :
    (({p with codes := update p.codes code none} : Provider).record e).weight t≤p.weight t := by
  have hlog : spent (e.toList++p.log) t ≤ spent p.log t + if Ticket.code code=t then 1 else 0 := by
    cases e with
    | none => exact Nat.le_add_right ..
    | some e' =>
      obtain ⟨time,rfl⟩:=he e' rfl
      simp [spent_cons,Event.spends]
  cases t with
  | code c =>
    have htake:=present_take hcode c
    simp only [Ticket.code.injEq] at hlog
    simp only [weight,places,record]
    omega
  | state | pending => simpa [weight,places,record] using hlog

theorem weight_consumedPending {entry : ClientPending} (hentry : p.clientPending code=some entry) (e : Option Event)
    (he : ∀ e'∈e, ∃ time, e'=.consumedPending code entry time) (t : Ticket) :
    (({p with clientPending := update p.clientPending code none} : Provider).record e).weight t≤p.weight t := by
  have hlog : spent (e.toList++p.log) t ≤ spent p.log t + if Ticket.pending code=t then 1 else 0 := by
    cases e with
    | none => exact Nat.le_add_right ..
    | some e' =>
      obtain ⟨time,rfl⟩:=he e' rfl
      simp [spent_cons,Event.spends]
  cases t with
  | pending c =>
    have htake:=present_take hentry c
    simp only [Ticket.pending.injEq] at hlog
    simp only [weight,places,record]
    omega
  | state | code => simpa [weight,places,record] using hlog

theorem weight_completed {entry entry' : ClientPending} (hentry : p.clientPending code=some entry) (user : User)
    (t : Ticket) : (({p with clientPending := update p.clientPending code (some entry')} : Provider).record
      (some (.completed code user))).weight t≤p.weight t := by
  cases t with
  | pending c => simp [weight,places,record,spent_cons,Event.spends,present_replace hentry]
  | state | code => simp [weight,places,record,spent_cons,Event.spends]

theorem weight_removed (t : Ticket) :
    (({p with clientPending := update p.clientPending code none} : Provider).record none).weight t≤p.weight t := by
  cases t with
  | pending c =>
    have hremove:=present_remove p.clientPending code c
    simp [weight,places,record]
    omega
  | state | code => simp [weight,places,record]

theorem weight_cleanupStates (t : Ticket) : p.cleanupStates.weight t≤p.weight t := by
  unfold weight places cleanupStates
  cases t with
  | state s =>
    have hsweep:=present_filter p.states (fun v => !p.older v.createdAt (15*minute)) s
    simp only
    omega
  | code c =>
    have hsweep:=present_filter p.codes (fun v => !p.older v.createdAt (60*second)) c
    simp only
    omega
  | pending c =>
    have hsweep:=present_filter p.clientPending (fun v => !p.older v.createdAt (10*minute)) c
    simp only
    omega

theorem Single.step {a : Action} (h : p.Single) (hstep : p.step a=some q) : q.Single := by
  cases a with
  | advance d =>
    cases hstep
    exact h.of_le (fun _ => Nat.le_refl _) rfl
  | build state nonce verifier base =>
    simp only [Provider.step] at hstep
    split at hstep
    · rename_i hfresh
      cases hstep
      refine h.of_fresh hfresh rfl (fun t _ => ?_) (fun t ht => ?_)
      · refine Nat.le_trans (weight_buildAuthURL t) ?_
        split <;> omega
      · have hne : t.text≠state := fun he => ht (he ▸ mem_cons_self)
        refine Nat.le_trans (weight_buildAuthURL t) ?_
        rw [if_neg hne]
        exact Nat.le_refl _
    · cases hstep
  | store x =>
    simp only [Provider.step] at hstep
    split at hstep
    · rename_i hx
      cases hstep
      exact h.of_le (weight_storeState hx) rfl
    · cases hstep
  | announce x =>
    simp only [Provider.step] at hstep
    split at hstep
    · rename_i hx
      cases hstep
      exact h.of_le (weight_announce hx) rfl
    · cases hstep
  | take state =>
    cases hstep
    refine h.of_le weight_takeState ?_
    unfold takeState
    split <;> rfl
  | checkAge x =>
    simp only [Provider.step] at hstep
    split at hstep
    · rename_i hx
      cases hstep
      exact h.of_le (weight_checkAge hx) rfl
    · cases hstep
  | storeAuthCode code token username role returnURL =>
    simp only [Provider.step] at hstep
    split at hstep
    · rename_i hfresh
      cases hstep
      refine h.of_fresh hfresh rfl (fun t _ => ?_) (fun t ht => ?_)
      · refine Nat.le_trans (weight_storeAuthCode t) ?_
        split <;> omega
      · have hne : t.text≠code := fun he => ht (he ▸ mem_singleton_self _)
        refine Nat.le_trans (weight_storeAuthCode t) ?_
        rw [if_neg hne]
        exact Nat.le_refl _
    · cases hstep
  | consumeAuthCode code =>
    rcases consumeAuthCode_cases p code with hc | ⟨entry,hcode,hc⟩ <;>
      simp only [Provider.step,hc,some.injEq] at hstep <;> subst hstep
    · exact h.of_le (fun _ => Nat.le_refl _) rfl
    · refine h.of_le (weight_consumedCode hcode _ fun e he => ?_) rfl
      split at he
      · cases he
      · cases he
        exact ⟨p.now,rfl⟩
  | completeClientPending code user =>
    rcases completeClientPending_cases p code user with hc | ⟨entry,hentry,hc | hc⟩ <;>
      simp only [Provider.step,hc,some.injEq] at hstep <;> subst hstep
    · exact h.of_le (fun _ => Nat.le_refl _) rfl
    · exact h.of_le weight_removed rfl
    · exact h.of_le (weight_completed hentry user) rfl
  | peekClientPending code =>
    cases hstep
    exact h
  | consumeClientPending code =>
    rcases consumeClientPending_cases p code with hc | ⟨entry,hentry,hc⟩ <;>
      simp only [Provider.step,hc,some.injEq] at hstep <;> subst hstep
    · exact h.of_le (fun _ => Nat.le_refl _) rfl
    · refine h.of_le (weight_consumedPending hentry _ fun e he => ?_) rfl
      split at he
      · cases he
      · cases he
        exact ⟨p.now,rfl⟩
  | failClientPending code =>
    simp only [Provider.step,failClientPending,some.injEq] at hstep
    split at hstep
    · subst hstep
      exact h
    · subst hstep
      exact h.of_le weight_removed rfl
  | cleanupStates =>
    cases hstep
    exact h.of_le weight_cleanupStates rfl

end

structure Backed (p : Provider) (log : List Event) : Prop where
  building : ∀ x∈p.building, .started x.1 x.2.createdAt∈log
  states : ∀ s, ∀ e∈p.states s, .started s e.createdAt∈log
  exchanging : ∀ x∈p.exchanging, .started x.1 x.2.createdAt∈log
  codes : ∀ c, ∀ e∈p.codes c, .stored c e.createdAt∈log
  clientPending : ∀ c, ∀ e∈p.clientPending c,
    .announced c e.createdAt∈log ∧ (e.authed=true → completedBy c log=some e.user)

structure Timely (log : List Event) : Prop where
  exchanged : ∀ s e time, .exchanged s e time∈log → .started s e.createdAt∈log ∧ time≤e.createdAt+10*minute
  code : ∀ c e time, .consumedCode c e time∈log → .stored c e.createdAt∈log ∧ time≤e.createdAt+60*second
  pending : ∀ c e time, .consumedPending c e time∈log →
    .announced c e.createdAt∈log ∧ time≤e.createdAt+10*minute ∧ completedBy c log=some e.user

def Follows (log : List Event) : Event → Prop
  | .started _ _ | .announced _ _ | .stored _ _ => True
  | .exchanged s e time => .started s e.createdAt∈log ∧ time≤e.createdAt+10*minute
  | .consumedCode c e time => .stored c e.createdAt∈log ∧ time≤e.createdAt+60*second
  | .consumedPending c e time =>
    .announced c e.createdAt∈log ∧ time≤e.createdAt+10*minute ∧ completedBy c log=some e.user
  | .completed _ _ => False

section
variable {log : List Event} {e : Event}

theorem completedBy_cons (he : Follows log e) (c : String) : completedBy c (e::log)=completedBy c log := by
  cases e with
  | completed c' user => exact he.elim
  | started | announced | stored | exchanged | consumedCode | consumedPending => rfl

theorem Backed.grow (h : p.Backed log) (he : Follows log e) : p.Backed (e::log) where
  building x hx := mem_cons_of_mem _ (h.building x hx)
  states s v hv := mem_cons_of_mem _ (h.states s v hv)
  exchanging x hx := mem_cons_of_mem _ (h.exchanging x hx)
  codes c v hv := mem_cons_of_mem _ (h.codes c v hv)
  clientPending c v hv := by
    obtain ⟨hannounced,huser⟩:=h.clientPending c v hv
    rw [completedBy_cons he]
    exact ⟨mem_cons_of_mem _ hannounced,huser⟩

theorem Timely.grow (h : Timely log) (he : Follows log e) : Timely (e::log) where
  exchanged s v time hv := by
    rcases mem_cons.mp hv with rfl | hv
    · exact ⟨mem_cons_of_mem _ he.1,he.2⟩
    · obtain ⟨hstarted,htime⟩:=h.exchanged s v time hv
      exact ⟨mem_cons_of_mem _ hstarted,htime⟩
  code c v time hv := by
    rcases mem_cons.mp hv with rfl | hv
    · exact ⟨mem_cons_of_mem _ he.1,he.2⟩
    · obtain ⟨hstored,htime⟩:=h.code c v time hv
      exact ⟨mem_cons_of_mem _ hstored,htime⟩
  pending c v time hv := by
    rw [completedBy_cons he]
    rcases mem_cons.mp hv with rfl | hv
    · exact ⟨mem_cons_of_mem _ he.1,he.2⟩
    · obtain ⟨hannounced,htime,huser⟩:=h.pending c v time hv
      exact ⟨mem_cons_of_mem _ hannounced,htime,huser⟩

theorem Timely.record (h : Timely p.log) {e : Option Event} (he : ∀ e'∈e,Follows p.log e') :
    Timely (p.record e).log := by
  cases e with
  | none => exact h
  | some e => exact h.grow (he e rfl)

theorem Backed.record (h : p.Backed p.log) {e : Option Event} (he : ∀ e'∈e,Follows p.log e') :
    (p.record e).Backed (p.record e).log := by
  cases e with
  | none =>
    obtain ⟨hbuilding,hstates,hexchanging,hcodes,hpending⟩:=h
    exact ⟨hbuilding,hstates,hexchanging,hcodes,hpending⟩
  | some e =>
    obtain ⟨hbuilding,hstates,hexchanging,hcodes,hpending⟩:=h.grow (he e rfl)
    exact ⟨hbuilding,hstates,hexchanging,hcodes,hpending⟩

theorem Timely.complete (h : Timely log) {code : String} {user : User} (hunused : spent log (.pending code)=0) :
    Timely (.completed code user::log) where
  exchanged s v time hv := by
    obtain ⟨hstarted,htime⟩:=h.exchanged s v time (mem_of_ne_of_mem (by simp) hv)
    exact ⟨mem_cons_of_mem _ hstarted,htime⟩
  code c v time hv := by
    obtain ⟨hstored,htime⟩:=h.code c v time (mem_of_ne_of_mem (by simp) hv)
    exact ⟨mem_cons_of_mem _ hstored,htime⟩
  pending c v time hv := by
    have hmem : .consumedPending c v time∈log := mem_of_ne_of_mem (by simp) hv
    obtain ⟨hannounced,htime,huser⟩:=h.pending c v time hmem
    have hne : code≠c := by
      rintro rfl
      have hnone:=countP_eq_zero.mp hunused _ hmem
      exact hnone (by simp [Event.spends])
    refine ⟨mem_cons_of_mem _ hannounced,htime,?_⟩
    rw [← huser]
    exact if_neg hne

theorem Backed.complete (h : p.Backed log) (user : User) {code : String} {entry : ClientPending}
    (hentry : p.clientPending code=some entry) :
    ({ p with clientPending := update p.clientPending code (some {entry with
        user := user
        authed := true})} : Provider).Backed (.completed code user::log) where
  building x hx := mem_cons_of_mem _ (h.building x hx)
  states s v hv := mem_cons_of_mem _ (h.states s v hv)
  exchanging x hx := mem_cons_of_mem _ (h.exchanging x hx)
  codes c v hv := mem_cons_of_mem _ (h.codes c v hv)
  clientPending c v hv := by
    by_cases hc : c=code
    · subst hc
      simp only [update_self,mem_def,some.injEq] at hv
      subst hv
      exact ⟨mem_cons_of_mem _ (h.clientPending c entry hentry).1,fun _ => if_pos rfl⟩
    · simp only [update_of_ne hc] at hv
      obtain ⟨hannounced,huser⟩:=h.clientPending c v hv
      exact ⟨mem_cons_of_mem _ hannounced,fun hauthed => (if_neg (Ne.symm hc)).trans (huser hauthed)⟩

theorem Backed.of_sub (h : p.Backed log) (hbuilding : ∀ x∈q.building,x∈p.building)
    (hexchanging : ∀ x∈q.exchanging,x∈p.exchanging) (hstates : ∀ s, ∀ e∈q.states s, e∈p.states s)
    (hcodes : ∀ c, ∀ e∈q.codes c, e∈p.codes c)
    (hpending : ∀ c, ∀ e∈q.clientPending c, e∈p.clientPending c) : q.Backed log where
  building x hx := h.building x (hbuilding x hx)
  states s v hv := h.states s v (hstates s v hv)
  exchanging x hx := h.exchanging x (hexchanging x hx)
  codes c v hv := h.codes c v (hcodes c v hv)
  clientPending c v hv := h.clientPending c v (hpending c v hv)

theorem mem_removed {κ α : Type} [DecidableEq κ] {m : κ → Option α} {k k' : κ} {v : α}
    (h : v∈update m k none k') : v∈m k' := by
  by_cases hk : k'=k
  · subst hk
    simp at h
  · rwa [update_of_ne hk] at h

theorem mem_put {κ α : Type} [DecidableEq κ] {m : κ → Option α} {k k' : κ} {v w : α}
    (h : v∈update m k (some w) k') : (k'=k ∧ v=w) ∨ v∈m k' := by
  by_cases hk : k'=k
  · subst hk
    rw [update_self] at h
    exact .inl ⟨rfl,(Option.some.inj h).symm⟩
  · rw [update_of_ne hk] at h
    exact .inr h

end

structure Inv (p : Provider) : Prop where
  single : p.Single
  backed : p.Backed p.log
  timely : Timely p.log

theorem inv_init (now : ℕ) : (init now).Inv where
  single := single_init now
  backed := by constructor <;> simp [init]
  timely := by constructor <;> simp [init]

section
variable {code state : String}

theorem within_limit {createdAt limit : ℕ} (h : ¬ p.older createdAt limit=true) : p.now≤createdAt+limit := by
  unfold older at h
  simp only [decide_eq_true_eq] at h
  omega

theorem Inv.unused (h : p.Inv) {entry : ClientPending} (hentry : p.clientPending code=some entry) :
    spent p.log (.pending code)=0 := by
  have honce:=h.single.once (.pending code)
  have hpresent:=present_some hentry
  simp only [weight,places] at honce
  omega

theorem Inv.buildAuthURL {nonce : String} {verifier : Option String} {base : OidcState} (h : p.Inv) :
    (p.buildAuthURL state nonce verifier base).Backed (p.buildAuthURL state nonce verifier base).log := by
  have hgrown:=h.backed.grow (show Follows p.log (.started state p.now) from trivial)
  refine ⟨fun x hx => ?_,hgrown.states,hgrown.exchanging,hgrown.codes,hgrown.clientPending⟩
  rcases mem_cons.mp hx with rfl | hx
  · exact mem_cons_self
  · exact hgrown.building x hx

variable {x : String × OidcState}

theorem Inv.storeState (h : p.Inv) (hx : x∈p.building) : (p.storeState x).Backed (p.storeState x).log where
  building y hy := h.backed.building y (mem_of_mem_erase hy)
  states s e he := by
    rcases mem_put he with ⟨rfl,rfl⟩ | he
    · exact h.backed.building x hx
    · exact h.backed.states s e he
  exchanging := h.backed.exchanging
  codes := h.backed.codes
  clientPending := h.backed.clientPending

theorem Inv.announce (h : p.Inv) : (p.announce x).Backed (p.announce x).log := by
  have hgrown:=h.backed.grow (show Follows p.log (.announced x.1 p.now) from trivial)
  refine ⟨hgrown.building,hgrown.states,hgrown.exchanging,hgrown.codes,fun c e he => ?_⟩
  rcases mem_put he with ⟨rfl,rfl⟩ | he
  · exact ⟨mem_cons_self,Bool.noConfusion⟩
  · exact hgrown.clientPending c e he

theorem Inv.takeState (h : p.Inv) : (p.takeState state).Backed (p.takeState state).log := by
  unfold Provider.takeState
  cases hstate : p.states state with
  | none => exact h.backed
  | some entry =>
    refine ⟨h.backed.building,fun s e he => h.backed.states s e (mem_removed he),fun x hx => ?_,h.backed.codes,
      h.backed.clientPending⟩
    rcases mem_cons.mp hx with rfl | hx
    · exact h.backed.states state entry hstate
    · exact h.backed.exchanging x hx

theorem Inv.checkAge (h : p.Inv) (hx : x∈p.exchanging) :
    (p.checkAge x).Backed (p.checkAge x).log ∧ Timely (p.checkAge x).log := by
  have hsub (log : List Event) (hb : p.Backed log) : (p.checkAge x).Backed log :=
    hb.of_sub (fun _ hy => hy) (fun _ hy => mem_of_mem_erase hy) (fun _ _ he => he) (fun _ _ he => he) fun _ _ he => he
  unfold Provider.checkAge at hsub ⊢
  dsimp only at hsub ⊢
  by_cases hold : p.older x.2.createdAt (10*minute)=true
  · rw [if_pos hold]
    rw [if_pos hold] at hsub
    exact ⟨hsub _ h.backed,h.timely⟩
  · rw [if_neg hold]
    rw [if_neg hold] at hsub
    have hfollows : Follows p.log (.exchanged x.1 x.2 p.now) := ⟨h.backed.exchanging x hx,within_limit hold⟩
    exact ⟨hsub _ (h.backed.grow hfollows),h.timely.grow hfollows⟩

theorem Inv.storeAuthCode {token username role returnURL : String} (h : p.Inv) :
    (p.storeAuthCode code token username role returnURL).Backed (p.storeAuthCode code token username role returnURL).log := by
  have hgrown:=h.backed.grow (show Follows p.log (.stored code p.now) from trivial)
  refine ⟨hgrown.building,hgrown.states,hgrown.exchanging,fun c e he => ?_,hgrown.clientPending⟩
  rcases mem_put he with ⟨rfl,rfl⟩ | he
  · exact mem_cons_self
  · exact hgrown.codes c e he

theorem Inv.step {a : Action} (h : p.Inv) (hstep : p.step a=some q) : q.Inv := by
  suffices hkept : q.Backed q.log ∧ Timely q.log from ⟨h.single.step hstep,hkept.1,hkept.2⟩
  cases a with
  | advance d =>
    cases hstep
    exact ⟨h.backed.of_sub (fun _ hy => hy) (fun _ hy => hy) (fun _ _ he => he) (fun _ _ he => he) fun _ _ he => he,h.timely⟩
  | build state nonce verifier base =>
    simp only [Provider.step] at hstep
    split at hstep
    · cases hstep
      exact ⟨h.buildAuthURL,h.timely.grow (show Follows p.log (.started state p.now) from trivial)⟩
    · cases hstep
  | store x =>
    simp only [Provider.step] at hstep
    split at hstep
    · rename_i hx
      cases hstep
      exact ⟨h.storeState hx,h.timely⟩
    · cases hstep
  | announce x =>
    simp only [Provider.step] at hstep
    split at hstep
    · cases hstep
      exact ⟨h.announce,h.timely.grow (show Follows p.log (.announced x.1 p.now) from trivial)⟩
    · cases hstep
  | take state =>
    cases hstep
    refine ⟨h.takeState,?_⟩
    unfold Provider.takeState
    split <;> exact h.timely
  | checkAge x =>
    simp only [Provider.step] at hstep
    split at hstep
    · rename_i hx
      cases hstep
      exact h.checkAge hx
    · cases hstep
  | storeAuthCode code token username role returnURL =>
    simp only [Provider.step] at hstep
    split at hstep
    · cases hstep
      exact ⟨h.storeAuthCode,h.timely.grow (show Follows p.log (.stored code p.now) from trivial)⟩
    · cases hstep
  | consumeAuthCode code =>
    rcases consumeAuthCode_cases p code with hc | ⟨entry,hcode,hc⟩ <;>
      simp only [Provider.step,hc,some.injEq] at hstep <;> subst hstep
    · exact ⟨h.backed,h.timely⟩
    · have hfollows : ∀ e∈(if p.older entry.createdAt (60*second)=true then none else some entry).map
          fun e => Event.consumedCode code e p.now, Follows p.log e := by
        intro e he
        split at he
        · cases he
        · rename_i hold
          cases he
          exact ⟨h.backed.codes code entry hcode,within_limit hold⟩
      have hsub : ({p with codes := update p.codes code none} : Provider).Backed p.log :=
        h.backed.of_sub (fun _ hy => hy) (fun _ hy => hy) (fun _ _ he => he) (fun _ _ he => mem_removed he) fun _ _ he => he
      exact ⟨hsub.record hfollows,Timely.record h.timely hfollows⟩
  | completeClientPending code user =>
    rcases completeClientPending_cases p code user with hc | ⟨entry,hentry,hc | hc⟩ <;>
      simp only [Provider.step,hc,some.injEq] at hstep <;> subst hstep
    · exact ⟨h.backed,h.timely⟩
    · exact ⟨h.backed.of_sub (fun _ hy => hy) (fun _ hy => hy) (fun _ _ he => he) (fun _ _ he => he)
        fun _ _ he => mem_removed he,h.timely⟩
    · obtain ⟨hbuilding,hstates,hexchanging,hcodes,hpending⟩:=h.backed.complete user hentry
      exact ⟨⟨hbuilding,hstates,hexchanging,hcodes,hpending⟩,h.timely.complete (h.unused hentry)⟩
  | peekClientPending code =>
    cases hstep
    exact ⟨h.backed,h.timely⟩
  | consumeClientPending code =>
    rcases consumeClientPending_cases p code with hc | ⟨entry,hentry,hc⟩ <;>
      simp only [Provider.step,hc,some.injEq] at hstep <;> subst hstep
    · exact ⟨h.backed,h.timely⟩
    · have hfollows : ∀ e∈(if p.older entry.createdAt (10*minute)=true ∨ entry.authed=false then none
          else some entry).map fun e => Event.consumedPending code e p.now, Follows p.log e := by
        intro e he
        split at he
        · cases he
        · rename_i hold
          cases he
          obtain ⟨hannounced,huser⟩:=h.backed.clientPending code entry hentry
          rw [not_or,Bool.not_eq_false] at hold
          exact ⟨hannounced,within_limit hold.1,huser hold.2⟩
      have hsub : ({p with clientPending := update p.clientPending code none} : Provider).Backed p.log :=
        h.backed.of_sub (fun _ hy => hy) (fun _ hy => hy) (fun _ _ he => he) (fun _ _ he => he) fun _ _ he => mem_removed he
      exact ⟨hsub.record hfollows,Timely.record h.timely hfollows⟩
  | failClientPending code =>
    simp only [Provider.step,failClientPending,some.injEq] at hstep
    split at hstep
    · subst hstep
      exact ⟨h.backed,h.timely⟩
    · subst hstep
      exact ⟨h.backed.of_sub (fun _ hy => hy) (fun _ hy => hy) (fun _ _ he => he) (fun _ _ he => he)
        fun _ _ he => mem_removed he,h.timely⟩
  | cleanupStates =>
    cases hstep
    refine ⟨h.backed.of_sub (fun _ hy => hy) (fun _ hy => hy) (fun s e he => ?_) (fun c e he => ?_) fun c e he => ?_,h.timely⟩
    · exact (filter_eq_some_iff.mp he).1
    · exact (filter_eq_some_iff.mp he).1
    · exact (filter_eq_some_iff.mp he).1

end

end Provider

/-- Whatever the endpoints call and in whichever order: each state, each code and each pending
login is used at most once and in time, and a pending login is that of the user who completed it. -/
theorem logins_used_once (now : ℕ) (as : List Action) (p : Provider) (hrun : exec Provider.step (.init now) as=some p) :
    UsedOnce p.log := by
  have hinv:=exec_invariant_all Provider.Inv (fun _ _ _ h hstep => h.step hstep) (Provider.inv_init now) hrun
  refine ⟨fun t => ?_,hinv.timely.exchanged,hinv.timely.code,hinv.timely.pending⟩
  have honce:=hinv.single.once t
  simp only [Provider.weight] at honce
  omega

def clientState : OidcState := ⟨"nonce",none,0,"",.client,"BD1","uuid","laptop","linux","desktop"⟩

def alice : User := ⟨7,"alice","operator"⟩

def clientLogin : List Action :=
  [.build "state" "nonce" none clientState,.store ("state",clientState),.announce ("state",clientState),
    .advance minute,.take "state",.checkAge ("state",clientState),.completeClientPending "state" alice,
    .advance second,.consumeClientPending "state",.consumeClientPending "state"]

theorem client_login_once : ∃ p, exec Provider.step (.init 0) clientLogin=some p ∧
    spent p.log (.state "state")=1 ∧ spent p.log (.pending "state")=1 ∧ completedBy "state" p.log=some alice ∧
      UsedOnce p.log :=
  ⟨_,rfl,by decide,by decide,by decide,logins_used_once 0 clientLogin _ rfl⟩

end BetterDesk.Auth.Oidc
