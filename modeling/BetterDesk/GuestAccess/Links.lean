import BetterDesk.GuestAccess.Limits

/-! # Links over whole runs -/

namespace BetterDesk.GuestAccess
open Programs Exec Text Table List

section
variable (hashToken : String → String)

/-- A successful `Consume` of the link under this entry. -/
def consumedAt (key : String) (p : Client) : Bool := match p.request, p.prog.reply with
  | .consume token _, some (.grant _) => configKey hashToken (trimString token)=key
  | _, _ => false

/-- A successful `Validate` of the link under this entry. -/
def validatedAt (key : String) (p : Client) : Bool := match p.request, p.prog.reply with
  | .validate token _, some (.grant _) => configKey hashToken (trimString token)=key
  | _, _ => false

def Request.peerID : Request → String
  | .validate _ peerID => peerID
  | .consume _ peerID => peerID
  | _ => ""

/-- Some `RevokeByID` with this ID has reported success. -/
def RevokedIn (id : String) (s : System) : Prop :=
  ∃ p∈s.procs, ∃ createdBy admin, p.request=.revokeByID id createdBy admin ∧ p.prog.reply=some (.revoked true)

def LinkCreated (token : String) (g : Grant) (s : System) : Prop :=
  ∃ p∈s.procs, ∃ id peerIDs createdBy ttlMinutes viewOnly label maxUses,
    p.request=.create token id peerIDs createdBy ttlMinutes viewOnly label maxUses ∧
      p.prog.reply=some (.created token g)

end

variable {hashToken : String → String} {s t : System} {gs : List Stage} {p : Client} {st : Stage}
  {key token grantID : String} {g : Grant}

theorem ends_of_reply {reply : Reply} (h : clientMonitor.wp (Ends hashToken p.request) p.prog st)
    (hreply : p.prog.reply=some reply) : Ends hashToken p.request reply st := by
  cases hprog : p.prog with
  | done a =>
    rw [hprog] at h hreply
    cases hreply
    exact h
  | call op k =>
    rw [hprog] at hreply
    cases hreply

theorem consumedAt_iff : consumedAt hashToken key p=true ↔
    ∃ token peerID g, p.request=.consume token peerID ∧ p.prog.reply=some (.grant g) ∧
      configKey hashToken (trimString token)=key := by
  unfold consumedAt
  split
  · rename_i token peerID g hreq hreply
    simp [hreq,hreply]
  · rename_i hother
    simp only [Bool.false_eq_true,false_iff]
    rintro ⟨token,peerID,g,hreq,hreply,-⟩
    exact hother token peerID g hreq hreply

theorem validatedAt_iff : validatedAt hashToken key p=true ↔
    ∃ token peerID g, p.request=.validate token peerID ∧ p.prog.reply=some (.grant g) ∧
      configKey hashToken (trimString token)=key := by
  unfold validatedAt
  split
  · rename_i token peerID g hreq hreply
    simp [hreq,hreply]
  · rename_i hother
    simp only [Bool.false_eq_true,false_iff]
    rintro ⟨token,peerID,g,hreq,hreply,-⟩
    exact hother token peerID g hreq hreply

theorem won_of_consumed (h : clientMonitor.wp (Ends hashToken p.request) p.prog st)
    (hc : consumedAt hashToken key p=true) :
    ∃ g now, st=.won key g now ∧ g.ActiveAt now ∧ g.allowsPeer p.request.peerID := by
  obtain ⟨token,peerID,g',hreq,hreply,rfl⟩:=consumedAt_iff.mp hc
  have hends:=(ends_of_reply h hreply).2
  rw [hreq] at hends ⊢
  obtain ⟨g,now,hst,-,hactive,hpeer⟩:=hends
  exact ⟨g,now,hst,hactive,hpeer⟩

theorem timed_of_validated (h : clientMonitor.wp (Ends hashToken p.request) p.prog st)
    (hc : validatedAt hashToken key p=true) :
    ∃ g now, st=.timed key g now ∧ g.ActiveAt now ∧ (p.request.peerID="" ∨ g.allowsPeer p.request.peerID) := by
  obtain ⟨token,peerID,g,hreq,hreply,rfl⟩:=validatedAt_iff.mp hc
  have hends:=(ends_of_reply h hreply).2
  rw [hreq] at hends ⊢
  obtain ⟨now,hst,hactive,hpeer⟩:=hends
  exact ⟨g,now,hst,hactive,hpeer⟩

theorem stored_of_created (htr : Tracked clientMonitor (Ends hashToken) s.procs gs) (h : LinkCreated token g s) :
    .stored (configKey hashToken token) g∈gs := by
  obtain ⟨p,hp,id,peerIDs,createdBy,ttlMinutes,viewOnly,label,maxUses,hreq,hreply⟩:=h
  obtain ⟨i,hi⟩:=mem_iff_getElem?.mp hp
  obtain ⟨st,hst,hwp⟩:=forall₂_getElem? htr hi
  have hends:=(ends_of_reply hwp hreply).2
  rw [hreq] at hends
  obtain rfl : st=_ := hends
  exact mem_of_getElem? hst

theorem dead_of_revoked (htr : Tracked clientMonitor (Ends hashToken) s.procs gs) (hk : Kept hashToken s gs)
    (h : RevokedIn grantID s) : Dead grantID s.store := by
  obtain ⟨p,hp,createdBy,admin,hreq,hreply⟩:=h
  obtain ⟨i,hi⟩:=mem_iff_getElem?.mp hp
  obtain ⟨st,hst,hwp⟩:=forall₂_getElem? htr hi
  have hends:=(ends_of_reply hwp hreply).2
  rw [hreq] at hends
  obtain ⟨key,g,rfl,rfl⟩:=hends
  exact (hk.rows.revoked key g (mem_of_getElem? hst)).2

theorem RevokedIn.step {a : Event} (h : RevokedIn grantID s) (hst : next hashToken s a=some t) : RevokedIn grantID t := by
  obtain ⟨p,hp,createdBy,admin,hreq,hreply⟩:=h
  refine ⟨p,mem_procs_of_done hst hp ?_,createdBy,admin,hreq,hreply⟩
  cases hprog : p.prog with
  | done a => rfl
  | call op k =>
    rw [hprog] at hreply
    cases hreply

/-- What `Consume` did last when it succeeded, with the clock it read on the way. -/
def SwappedAt (key : String) (g : Grant) (now : ℕ) (p : Client) : Prop := Logged p.log (.won key g now)

/-- What `Validate` did last when it succeeded. -/
def ReadAt (key : String) (g : Grant) (now : ℕ) (p : Client) : Prop := Logged p.log (.timed key g now)

theorem held_on_terms (hk : Kept hashToken s gs) (hlink : .stored key g∈gs) {i : ℕ} {st : Stage}
    {g' : Grant} (hp : s.procs[i]?=some p) (hst : gs[i]?=some st) (hheld : (key,g')∈st.holding) :
    g'.terms=g ∧ Logged p.log st := by
  obtain ⟨st',hst',hlog⟩:=forall₂_getElem? hk.logged hp
  rw [hst] at hst'
  cases hst'
  exact ⟨stored_key hk.keys (hk.rows.held _ (mem_of_getElem? hst) (key,g') hheld) hlink,hlog⟩

theorem consumed_on_terms (htr : Tracked clientMonitor (Ends hashToken) s.procs gs) (hk : Kept hashToken s gs)
    (hlink : .stored key g∈gs) (hp : p∈s.procs) (hc : consumedAt hashToken key p=true) :
    trimString p.request.peerID∈g.peerIDs ∧
      ∃ g' now, SwappedAt key g' now p ∧ g'.terms=g ∧ g'.revokedAt=none ∧ now≤g.expiresAt := by
  obtain ⟨i,hi⟩:=mem_iff_getElem?.mp hp
  obtain ⟨st,hst,hwp⟩:=forall₂_getElem? htr hi
  obtain ⟨g',now,rfl,hactive,hpeer⟩:=won_of_consumed hwp hc
  obtain ⟨rfl,hlog⟩:=held_on_terms hk hlink hi hst rfl
  exact ⟨contains_iff_mem.mp hpeer,g',now,hlog,rfl,hactive.unrevoked,hactive.unexpired⟩

theorem validated_on_terms (htr : Tracked clientMonitor (Ends hashToken) s.procs gs) (hk : Kept hashToken s gs)
    (hlink : .stored key g∈gs) (hp : p∈s.procs) (hc : validatedAt hashToken key p=true) :
    (p.request.peerID="" ∨ trimString p.request.peerID∈g.peerIDs) ∧
      ∃ g' now, ReadAt key g' now p ∧ g'.terms=g ∧ g'.revokedAt=none ∧ now≤g.expiresAt := by
  obtain ⟨i,hi⟩:=mem_iff_getElem?.mp hp
  obtain ⟨st,hst,hwp⟩:=forall₂_getElem? htr hi
  obtain ⟨g',now,rfl,hactive,hpeer⟩:=timed_of_validated hwp hc
  obtain ⟨rfl,hlog⟩:=held_on_terms hk hlink hi hst rfl
  exact ⟨hpeer.imp_right contains_iff_mem.mp,g',now,hlog,rfl,hactive.unrevoked,hactive.unexpired⟩

theorem consumed_le_maxUses (htr : Tracked clientMonitor (Ends hashToken) s.procs gs) (hk : Kept hashToken s gs)
    (hlink : .stored key g∈gs) (hmax : 0<g.maxUses) : s.procs.countP (consumedAt hashToken key)≤g.maxUses := by
  refine Nat.le_trans (countP_le_of_forall₂ (htr.imp fun p st hwp hc => ?_)) (hk.rows.limit key g hlink hmax)
  obtain ⟨g',now,rfl,-⟩:=won_of_consumed hwp hc
  exact decide_eq_true rfl

theorem logged_since_revoked {as : List Event} (hs : ∃ gs, Tracked clientMonitor (Ends hashToken) s.procs gs ∧ Kept hashToken s gs)
    (hrev : RevokedIn grantID s) (hnew : Along (next hashToken) (NewLink hashToken) s as)
    (h : exec (next hashToken) s as=some t) : LoggedSince s (Dead grantID) t := by
  let K (u : System) : Prop := (∃ gs, Tracked clientMonitor (Ends hashToken) u.procs gs ∧ Kept hashToken u gs) ∧
    RevokedIn grantID u ∧ LoggedSince s (Dead grantID) u
  have hkeep : ∀ u a v, K u → NewLink hashToken u a → next hashToken u a=some v → K v := by
    rintro u a v ⟨htr,hrev,hlog⟩ hok hst
    obtain ⟨gs,htr',hk⟩:=htr
    exact ⟨keeps.tracked_step ⟨gs,htr',hk⟩ hok hst,hrev.step hst,
      loggedSince_step hlog (dead_of_revoked htr' hk hrev) hst⟩
  exact (exec_invariant K hkeep ⟨hs,hrev,fun i e he => .inl he⟩ hnew h).2.2

theorem kept_run {clock : ℕ} {as : List Event} (hnew : Along (next hashToken) (NewLink hashToken) (initial ⟨[],clock⟩) as)
    (h : exec (next hashToken) (initial ⟨[],clock⟩) as=some t) :
    ∃ gs, Tracked clientMonitor (Ends hashToken) t.procs gs ∧ Kept hashToken t gs := by
  refine keeps.exec_tracked ⟨.nil,.nil,nodup_nil,nodup_nil,?_⟩ hnew h
  refine ⟨?_,?_,?_,?_,?_,?_⟩
  · exact fun key g hg => nomatch hg
  · exact fun st hst => nomatch hst
  · exact fun key hpos => absurd hpos (Nat.lt_irrefl 0)
  · exact fun key g hg => nomatch hg
  · exact fun key g hg => nomatch hg
  · exact fun key g hg => nomatch hg

theorem mem_logOf {i : ℕ} {e : Entry Store Op Res} (hp : s.procs[i]?=some p) (he : e∈p.log) : e∈s.logOf i := by
  unfold Sys.logOf
  rw [hp]
  exact he

theorem guest_links_limited {clock : ℕ} {as : List Event} {g : Grant} {token : String}
    (hnew : Along (next hashToken) (NewLink hashToken) (initial ⟨[],clock⟩) as)
    (h : exec (next hashToken) (initial ⟨[],clock⟩) as=some t) (hlink : LinkCreated token g t) :
    let key:=configKey hashToken token
    (0<g.maxUses → t.procs.countP (consumedAt hashToken key)≤g.maxUses) ∧
    (∀ p∈t.procs,consumedAt hashToken key p=true → trimString p.request.peerID∈g.peerIDs ∧
      ∃ g' now, SwappedAt key g' now p ∧ g'.terms=g ∧ g'.revokedAt=none ∧ now≤g.expiresAt) ∧
    (∀ p∈t.procs,validatedAt hashToken key p=true →
      (p.request.peerID="" ∨ trimString p.request.peerID∈g.peerIDs) ∧
      ∃ g' now, ReadAt key g' now p ∧ g'.terms=g ∧ g'.revokedAt=none ∧ now≤g.expiresAt) ∧
    ∀ as₁ as₂ s, as=as₁++as₂ → exec (next hashToken) (initial ⟨[],clock⟩) as₁=some s → RevokedIn g.id s →
      ∀ i p, t.procs[i]?=some p →
        (consumedAt hashToken key p=true →
          ∃ st g', ⟨st,.compareAndSwapConfig key g' g'.used,some true⟩∈s.logOf i) ∧
        (validatedAt hashToken key p=true → ∃ st g', ⟨st,.getConfig key,some g'⟩∈s.logOf i) := by
  intro key
  obtain ⟨gs,htr,hk⟩:=kept_run hnew h
  have hstored : .stored key g∈gs := stored_of_created htr hlink
  refine ⟨consumed_le_maxUses htr hk hstored,fun p hp hc => consumed_on_terms htr hk hstored hp hc,
    fun p hp hc => validated_on_terms htr hk hstored hp hc,?_⟩
  rintro as₁ as₂ s rfl hs hrev i p hp
  have hsince : LoggedSince s (Dead g.id) t := by
    have hrest : exec (next hashToken) (initial ⟨[],clock⟩) (as₁++as₂) =
        (exec (next hashToken) (initial ⟨[],clock⟩) as₁).bind fun u => exec (next hashToken) u as₂ :=
      exec_append _ as₁ as₂
    rw [h,hs,Option.bind_some] at hrest
    have hnew₁ : Along (next hashToken) (NewLink hashToken) (initial ⟨[],clock⟩) as₁ := hnew.before
    exact logged_since_revoked (kept_run hnew₁ hs) hrev (hnew.after hs) hrest.symm
  constructor
  · intro hc
    obtain ⟨-,g',now,⟨s₂,s₁,s₀,rest,hlog,-,hload⟩,hterms,hunrev,-⟩ :=
      consumed_on_terms htr hk hstored (mem_of_getElem? hp) hc
    have hmem:=mem_logOf hp (by rw [hlog]; exact mem_cons_self)
    refine (hsince i _ hmem).elim (fun hold => ⟨s₂,g',hold⟩) fun hdead => ?_
    exact absurd hunrev (hdead key g' hload (by rw [← hterms]; rfl))
  · intro hc
    obtain ⟨-,g',now,⟨s₁,s₀,rest,hlog,-,hload⟩,hterms,hunrev,-⟩ :=
      validated_on_terms htr hk hstored (mem_of_getElem? hp) hc
    have hmem:=mem_logOf hp (by rw [hlog]; exact mem_cons_of_mem _ mem_cons_self)
    refine (hsince i _ hmem).elim (fun hold => ⟨s₀,g',hold⟩) fun hdead => ?_
    exact absurd hunrev (hdead key g' hload (by rw [← hterms]; rfl))

def createOnce : Request := .create "token-1" "id-1" ["PEER1"] "admin" 1 false "" 1

def onceGrant : Grant := ⟨"id-1",["PEER1"],"admin","",false,60*10^9,0,none,1,0,"token-1"⟩

def view (t : System) : List (Request × Option Reply × List (Op × ℕ)) :=
  t.procs.map fun p => (p.request,p.prog.reply,p.log.map fun e => (e.op,e.store.clock))

theorem linkCreated_of_view {t : System} {log : List (Op × ℕ)} {rest : List (Request × Option Reply × List (Op × ℕ))}
    (h : view t=(createOnce,some (.created "token-1" onceGrant),log)::rest) : LinkCreated "token-1" onceGrant t := by
  unfold view at h
  obtain ⟨p,ps,hprocs,hp,-⟩:=map_eq_cons_iff.mp h
  simp only [Prod.mk.injEq] at hp
  exact ⟨p,by simp [hprocs],_,_,_,_,_,_,_,hp.1,hp.2.1⟩

/-- Two clients of the link read the entry before either of them swaps it; then it is
revoked. -/
def racingClients : List Event :=
  [.begin createOnce,.step 0 false,.step 0 false,.begin (.consume "token-1" "PEER1"),
    .begin (.consume " token-1" "PEER1 "),.step 1 false,.step 2 false,.step 1 false,.step 2 false,.step 2 false,
    .step 1 false,.step 1 false,.step 1 false,.begin (.revokeByID "id-1" "admin" false),.step 3 false,
    .step 3 false,.step 3 false]

theorem racingClients_limited : ∃ t, exec (next id) (initial ⟨[],0⟩) racingClients=some t ∧
    (t.procs.map fun p => p.prog.reply)=[some (.created "token-1" onceGrant),some (.error "guest link use limit reached"),
      some (.grant onceGrant.used),some (.revoked true)] ∧
    t.procs.countP (consumedAt id (configKey id "token-1"))≤1 := by
  have hview : (exec (next id) (initial ⟨[],0⟩) racingClients).map view=some
      [(createOnce,some (.created "token-1" onceGrant),[(.setConfig "gal_token-1" onceGrant,0),(.now,0)]),
        (.consume "token-1" "PEER1",some (.error "guest link use limit reached"),
          [(.now,0),(.getConfig "gal_token-1",0),
            (.compareAndSwapConfig "gal_token-1" onceGrant onceGrant.used,0),(.now,0),(.getConfig "gal_token-1",0)]),
        (.consume " token-1" "PEER1 ",some (.grant onceGrant.used),
          [(.compareAndSwapConfig "gal_token-1" onceGrant onceGrant.used,0),(.now,0),(.getConfig "gal_token-1",0)]),
        (.revokeByID "id-1" "admin" false,some (.revoked true),
          [(.compareAndSwapConfig "gal_token-1" onceGrant.used (onceGrant.used.revoke 0),0),(.now,0),
            (.listConfigByPrefix,0)])] := by
    decide
  obtain ⟨t,ht,hv⟩:=Option.map_eq_some_iff.mp hview
  refine ⟨t,ht,?_,(guest_links_limited (by decide) ht (linkCreated_of_view hv)).1 (by decide)⟩
  have hreplies:=congrArg (List.map fun x => x.2.1) hv
  unfold view at hreplies
  rw [map_map] at hreplies
  exact hreplies

/-- The clock is read at the instant of the expiry, and the swap comes after it. -/
theorem consumed_after_expiry : ∃ t, exec (next id) (initial ⟨[],0⟩)
      [.begin createOnce,.step 0 false,.step 0 false,.begin (.consume "token-1" "PEER1"),.step 1 false,
        .env (60*10^9),.step 1 false,.env 1,.step 1 false]=some t ∧
    LinkCreated "token-1" onceGrant t ∧ ∃ p∈t.procs,p.request=.consume "token-1" "PEER1" ∧
      p.prog.reply=some (.grant onceGrant.used) ∧ ∃ e∈p.log,
        e.op=.compareAndSwapConfig "gal_token-1" onceGrant onceGrant.used ∧ onceGrant.expiresAt<e.store.clock := by
  have hview : (exec (next id) (initial ⟨[],0⟩)
      [.begin createOnce,.step 0 false,.step 0 false,.begin (.consume "token-1" "PEER1"),.step 1 false,
        .env (60*10^9),.step 1 false,.env 1,.step 1 false]).map view=some
      [(createOnce,some (.created "token-1" onceGrant),[(.setConfig "gal_token-1" onceGrant,0),(.now,0)]),
        (.consume "token-1" "PEER1",some (.grant onceGrant.used),
          [(.compareAndSwapConfig "gal_token-1" onceGrant onceGrant.used,60*10^9+1),(.now,60*10^9),
            (.getConfig "gal_token-1",0)])] := by
    decide
  obtain ⟨t,ht,hv⟩:=Option.map_eq_some_iff.mp hview
  refine ⟨t,ht,linkCreated_of_view hv,?_⟩
  unfold view at hv
  obtain ⟨p₀,rest,hprocs,-,hrest⟩:=map_eq_cons_iff.mp hv
  obtain ⟨p,rest',hp,hpv,-⟩:=map_eq_cons_iff.mp hrest
  simp only [Prod.mk.injEq] at hpv
  obtain ⟨hreq,hreply,hlog⟩:=hpv
  obtain ⟨e,_,hcons,he,-⟩:=map_eq_cons_iff.mp hlog
  simp only [Prod.mk.injEq] at he
  refine ⟨p,by simp [hprocs,hp],hreq,hreply,e,by rw [hcons]; exact mem_cons_self,he.1,?_⟩
  rw [he.2]
  decide

end BetterDesk.GuestAccess
