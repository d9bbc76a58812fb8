import BetterDesk.MeshCentral.AgentCore

/-! # Which ends a mesh relay joins -/

namespace BetterDesk.MeshCentral
open Exec List Option

theorem modify_of_getElem? {α : Type*} {l : List α} {n : ℕ} {a : α} (h : l[n]?=some a) (f : α → α) :
    l.modify n f=l.set n (f a) := by
  have := Inhabited.mk a
  rw [modify_eq_set,h]
  rfl

theorem modify_last {α : Type*} (l : List α) (a : α) (f : α → α) : (l++[a]).modify l.length f=l++[f a] := by
  rw [modify_of_getElem? (by simp : (l++[a])[l.length]?=some a),
    set_append_right l.length (f a) (le_refl l.length)]
  simp

def Checked (c : CookieCodec) (ws : WebSocket) : Prop :=
  ∀ cookie∈ws.query.cookies, ∃ data, c.decode ws.acceptedAt cookie 240=some data

structure Admitted (c : CookieCodec) (kvm : Bool) (relayID : String) (peer : RelayPeer) : Prop where
  id : peer.ws.query.id=relayID
  proto : isKvmRelayProto peer.ws.query.p=kvm
  browser : peer.browser=(peer.ws.query.browser=="1")
  checked : Checked c peer.ws

theorem relayCookieData_checked {c : CookieCodec} {now : ℤ} {q : RelayQuery} {data : Option RelayCookieData}
    (h : relayCookieData c now q=some data) : ∀ cookie∈q.cookies, ∃ data, c.decode now cookie 240=some data := by
  intro cookie hmem
  simp only [RelayQuery.cookies,mem_filter,mem_cons,not_mem_nil,or_false,decide_eq_true_eq] at hmem
  obtain ⟨hcookie,hne⟩:=hmem
  unfold relayCookieData at h
  dsimp only at h
  split at h
  · cases h
  · rename_i first hfirst
    rcases hcookie with rfl | rfl
    · rw [if_neg hne] at hfirst
      obtain ⟨d,hd,_⟩:=map_eq_some_iff.mp hfirst
      exact ⟨d,hd⟩
    · rw [if_neg hne] at h
      obtain ⟨d,hd,_⟩:=map_eq_some_iff.mp h
      exact ⟨d,hd⟩

theorem handleRelayWS_some {c : CookieCodec} {s : RelayState} {q : RelayQuery} {peer : RelayPeer}
    (h : handleRelayWS c s q=some peer) : peer.ws.number=s.accepted ∧
      Admitted c (isKvmRelayProto peer.ws.query.p) peer.ws.query.id peer := by
  unfold handleRelayWS at h
  split at h
  · cases h
  · obtain ⟨data,hdata,rfl⟩:=map_eq_some_iff.mp h
    exact ⟨rfl,rfl,rfl,rfl,relayCookieData_checked hdata⟩

/-- Sessions wait with their first connection, and those that a second one found
are joined with it. -/
structure PairsInv (c : CookieCodec) (accepted : ℕ) (sessions : List RelaySession)
    (relays : SyncMap String ℕ) (pipes : List Pipe) (joined : List Joint) : Prop where
  named : ∀ x∈relays, ∃ session : RelaySession, sessions[x.2]?=some session ∧ session.id=x.1
  waiting : ∀ (n : ℕ) (session : RelaySession), sessions[n]?=some session →
    ∃ p, session.peer1=some p ∧ Admitted c false session.id p ∧ p.ws.number<accepted
  distinct : ∀ (n n' : ℕ) (session session' : RelaySession) (p p' : RelayPeer),
    sessions[n]?=some session → sessions[n']?=some session' → session.peer1=some p → session'.peer1=some p' → p.ws.number=p'.ws.number → n=n'
  ends : ∀ j∈joined,j.kvm=false → j.second.ws.number<accepted ∧
    ∃ session : RelaySession, sessions[j.session]?=some session ∧ session.peer1=some j.first ∧ session.state=1
  seconds : ∀ j∈joined,j.kvm=false → ∀ (n : ℕ) (session : RelaySession) (p : RelayPeer),
    sessions[n]?=some session → session.peer1=some p → p.ws.number≠j.second.ws.number
  paired : ∀ (n : ℕ) (session : RelaySession), sessions[n]?=some session → session.state=1 →
    ∃ j∈joined,j.kvm=false ∧ j.session=n
  piped : ∀ p∈pipes, ∃ j∈joined,j.first=p.peer1 ∧ j.second=p.peer2

section
variable {c : CookieCodec} {accepted : ℕ} {sessions : List RelaySession} {relays : SyncMap String ℕ}
  {pipes : List Pipe} {joined : List Joint}

theorem PairsInv.wait (h : PairsInv c accepted sessions relays pipes joined) {peer : RelayPeer}
    {relayID : String} (hnumber : peer.ws.number=accepted) (hpeer : Admitted c false relayID peer) :
    PairsInv c (accepted+1) (sessions++[⟨relayID,some peer,0⟩]) (relays.store relayID sessions.length)
      pipes joined := by
  have hcases {n : ℕ} {session : RelaySession}
      (hn : (sessions++[(⟨relayID,some peer,0⟩ : RelaySession)])[n]?=some session) :
      sessions[n]?=some session ∨ n=sessions.length ∧ session=⟨relayID,some peer,0⟩ := by
    rw [List.getElem?_append] at hn
    split at hn
    · exact .inl hn
    · rw [List.getElem?_singleton] at hn
      split at hn
      · cases hn
        exact .inr ⟨by omega,rfl⟩
      · cases hn
  have hold {n : ℕ} {session : RelaySession} (hn : sessions[n]?=some session) :
      (sessions++[(⟨relayID,some peer,0⟩ : RelaySession)])[n]?=some session := by
    obtain ⟨hlt,_⟩:=List.getElem?_eq_some_iff.mp hn
    rw [List.getElem?_append_left hlt]
    exact hn
  constructor
  · intro x hx
    rcases SyncMap.mem_store hx with rfl | hx
    · exact ⟨⟨relayID,some peer,0⟩,by simp,rfl⟩
    · obtain ⟨session,hsession,hid⟩:=h.named x hx
      exact ⟨session,hold hsession,hid⟩
  · intro n session hn
    rcases hcases hn with hn | ⟨_,rfl⟩
    · obtain ⟨p,hp,hadmitted,hlt⟩:=h.waiting n session hn
      exact ⟨p,hp,hadmitted,by omega⟩
    · exact ⟨peer,rfl,hpeer,by omega⟩
  · intro n n' session session' p p' hn hn' hp hp' heq
    rcases hcases hn with hn | ⟨rfl,rfl⟩ <;> rcases hcases hn' with hn' | ⟨rfl,rfl⟩
    · exact h.distinct n n' session session' p p' hn hn' hp hp' heq
    · obtain ⟨q,hq,_,hlt⟩:=h.waiting n session hn
      rw [hp] at hq
      cases hq
      cases hp'
      omega
    · obtain ⟨q,hq,_,hlt⟩:=h.waiting n' session' hn'
      rw [hp'] at hq
      cases hq
      cases hp
      omega
    · rfl
  · intro j hj hkvm
    obtain ⟨hlt,session,hsession,hrest⟩:=h.ends j hj hkvm
    exact ⟨by omega,session,hold hsession,hrest⟩
  · intro j hj hkvm n session p hn hp
    rcases hcases hn with hn | ⟨rfl,rfl⟩
    · exact h.seconds j hj hkvm n session p hn hp
    · have hlt:=(h.ends j hj hkvm).1
      cases hp
      omega
  · intro n session hn hstate
    rcases hcases hn with hn | ⟨rfl,rfl⟩
    · exact h.paired n session hn hstate
    · cases hstate
  · exact h.piped

theorem PairsInv.join (h : PairsInv c accepted sessions relays pipes joined) {n : ℕ} {session : RelaySession}
    {peer peer1 : RelayPeer} {relayID : String} (hn : sessions[n]?=some session)
    (hp : session.peer1=some peer1) (hnumber : peer.ws.number=accepted) :
    PairsInv c (accepted+1) (sessions.modify n fun session => {session with state := 1}) relays
      (pipes++[⟨relayID,peer1,peer,true,true,false⟩])
      (joined++[⟨relayID,false,n,peer1,peer⟩]) := by
  have hcases {m : ℕ} {after : RelaySession}
      (hm : (sessions.modify n fun session => {session with state := 1})[m]?=some after) :
      ∃ before, sessions[m]?=some before ∧ after.id=before.id ∧ after.peer1=before.peer1 ∧
        (after.state=1 → before.state=1 ∨ m=n) := by
    rw [List.getElem?_modify] at hm
    obtain ⟨before,hbefore,rfl⟩:=map_eq_some_iff.mp hm
    refine ⟨before,hbefore,?_⟩
    split
    · rename_i heq
      exact ⟨rfl,rfl,fun _ => .inr heq.symm⟩
    · exact ⟨rfl,rfl,.inl⟩
  have hkeep {m : ℕ} {before : RelaySession} (hm : sessions[m]?=some before) :
      ∃ after, (sessions.modify n fun session => {session with state := 1})[m]?=some after ∧
        after.id=before.id ∧ after.peer1=before.peer1 ∧ (before.state=1 ∨ m=n → after.state=1) := by
    rw [List.getElem?_modify,hm]
    refine ⟨_,rfl,?_⟩
    split
    · exact ⟨rfl,rfl,fun _ => rfl⟩
    · rename_i hne
      exact ⟨rfl,rfl,fun hor => hor.resolve_right fun heq => hne heq.symm⟩
  obtain ⟨q,hq,_,hlt1⟩:=h.waiting n session hn
  rw [hp] at hq
  cases hq
  constructor
  · intro x hx
    obtain ⟨before,hbefore,hid⟩:=h.named x hx
    obtain ⟨after,hafter,hid',_⟩:=hkeep hbefore
    exact ⟨after,hafter,hid'.trans hid⟩
  · intro m after hm
    obtain ⟨before,hbefore,hid,hpeer,_⟩:=hcases hm
    obtain ⟨p,hp,hadmitted,hlt⟩:=h.waiting m before hbefore
    exact ⟨p,hpeer.trans hp,hid ▸ hadmitted,by omega⟩
  · intro m m' after after' p p' hm hm' hp hp' heq
    obtain ⟨before,hbefore,_,hpeer,_⟩:=hcases hm
    obtain ⟨before',hbefore',_,hpeer',_⟩:=hcases hm'
    exact h.distinct m m' before before' p p' hbefore hbefore' (hpeer ▸ hp) (hpeer' ▸ hp') heq
  · intro j hj hkvm
    rcases mem_append.mp hj with hj | hj
    · obtain ⟨hlt,before,hbefore,hpeer,hstate⟩:=h.ends j hj hkvm
      obtain ⟨after,hafter,_,hpeer',hstate'⟩:=hkeep hbefore
      exact ⟨by omega,after,hafter,hpeer'.trans hpeer,hstate' (.inl hstate)⟩
    · obtain rfl:=mem_singleton.mp hj
      obtain ⟨after,hafter,_,hpeer',hstate'⟩:=hkeep hn
      exact ⟨by dsimp only; omega,after,hafter,hpeer'.trans hp,hstate' (.inr rfl)⟩
  · intro j hj hkvm m after p hm hp
    obtain ⟨before,hbefore,_,hpeer,_⟩:=hcases hm
    rcases mem_append.mp hj with hj | hj
    · exact h.seconds j hj hkvm m before p hbefore (hpeer ▸ hp)
    · obtain rfl:=mem_singleton.mp hj
      obtain ⟨q,hq,_,hlt⟩:=h.waiting m before hbefore
      rw [← hpeer,hp] at hq
      cases hq
      dsimp only
      omega
  · intro m after hm hstate
    obtain ⟨before,hbefore,_,_,hstate'⟩:=hcases hm
    rcases hstate' hstate with hbefore' | rfl
    · obtain ⟨j,hj,hrest⟩:=h.paired m before hbefore hbefore'
      exact ⟨j,mem_append_left _ hj,hrest⟩
    · exact ⟨_,mem_append_right _ (mem_singleton_self _),rfl,rfl⟩
  · intro p hp
    rcases mem_append.mp hp with hp | hp
    · obtain ⟨j,hj,hrest⟩:=h.piped p hp
      exact ⟨j,mem_append_left _ hj,hrest⟩
    · obtain rfl:=mem_singleton.mp hp
      exact ⟨_,mem_append_right _ (mem_singleton_self _),rfl,rfl⟩

theorem PairsInv.hub (h : PairsInv c accepted sessions relays pipes joined) {joints : List Joint}
    (hjoints : ∀ j∈joints,j.kvm=true) : PairsInv c (accepted+1) sessions relays pipes (joined++joints) := by
  have hold {j : Joint} (hj : j∈joined++joints) (hkvm : j.kvm=false) : j∈joined := by
    refine (mem_append.mp hj).resolve_right fun hj => ?_
    rw [hjoints j hj] at hkvm
    cases hkvm
  constructor
  · exact h.named
  · intro n session hn
    obtain ⟨p,hp,hadmitted,hlt⟩:=h.waiting n session hn
    exact ⟨p,hp,hadmitted,by omega⟩
  · exact h.distinct
  · intro j hj hkvm
    obtain ⟨hlt,hrest⟩:=h.ends j (hold hj hkvm) hkvm
    exact ⟨by omega,hrest⟩
  · exact fun j hj hkvm => h.seconds j (hold hj hkvm) hkvm
  · intro n session hn hstate
    obtain ⟨j,hj,hrest⟩:=h.paired n session hn hstate
    exact ⟨j,mem_append_left _ hj,hrest⟩
  · intro p hp
    obtain ⟨j,hj,hrest⟩:=h.piped p hp
    exact ⟨j,mem_append_left _ hj,hrest⟩

end

structure HubOK (c : CookieCodec) (joined : List Joint) (h : RelayHub) : Prop where
  agents : ∀ a∈h.agentSide,Admitted c true h.relayID a ∧ a.browser=false
  viewers : ∀ v∈h.viewers,Admitted c true h.relayID v ∧ v.browser=true
  readers : ∀ r∈h.readers,r∈h.viewers
  ends : ∀ a∈h.agentSide, ∀ v∈h.viewers, ∃ j∈joined,j.first=a ∧ j.second=v

section
variable {c : CookieCodec} {joined : List Joint} {h h' : RelayHub}

theorem hubOK_empty (relayID : String) : HubOK c joined (.empty relayID) := by
  constructor <;> simp [RelayHub.empty,RelayHub.agentSide]

theorem HubOK.mono (hok : HubOK c joined h) (joints : List Joint) : HubOK c (joined++joints) h := by
  refine {hok with ends := fun a ha v hv => ?_}
  obtain ⟨j,hj,hends⟩:=hok.ends a ha v hv
  exact ⟨j,mem_append_left _ hj,hends⟩

theorem startPiping_fields (h : RelayHub) : h.startPiping.relayID=h.relayID ∧
    h.startPiping.viewers=h.viewers ∧ h.startPiping.readers=h.readers ∧
    ∀ a∈h.startPiping.agentSide,a∈h.agentSide := by
  unfold RelayHub.startPiping
  split
  · exact ⟨rfl,rfl,rfl,fun _ => fun ha => ha⟩
  · refine ⟨rfl,rfl,rfl,fun a ha => ?_⟩
    unfold RelayHub.agentSide at ha ⊢
    dsimp only at ha
    by_cases hagent : h.agent.isSome=true
    · rw [if_pos hagent] at ha
      exact mem_append_left _ (by simpa using ha)
    · rw [if_neg hagent] at ha
      exact ha

variable {peer : RelayPeer}

theorem attach_viewer (hb : peer.browser=true) :
    (h.attach peer).relayID=h.relayID ∧ (h.attach peer).viewers=h.viewers++[peer] ∧
      (h.attach peer).readers=h.readers++[peer] ∧ ∀ a∈(h.attach peer).agentSide, a∈h.agentSide := by
  simp only [RelayHub.attach,hb,if_true]
  split
  · obtain ⟨hid,hviewers,hreaders,hagents⟩:=startPiping_fields
      {h with handlers := h.handlers++[peer],viewers := h.viewers++[peer]}
    exact ⟨hid,hviewers,by rw [hreaders],hagents⟩
  · exact ⟨rfl,rfl,rfl,fun _ => fun ha => ha⟩

theorem attach_agent (hb : peer.browser=false) :
    (h.attach peer).relayID=h.relayID ∧ (h.attach peer).viewers=h.viewers ∧ (h.attach peer).readers=h.readers ∧
      ∀ a∈(h.attach peer).agentSide, a∈h.agentSide ∨ a=peer := by
  have hreplaced : ∀ a∈({h with handlers := h.handlers++[peer],agent := some peer}).agentSide,
      a∈h.agentSide ∨ a=peer := by
    intro a ha
    rcases mem_append.mp ha with ha | ha
    · exact .inr (by simpa using ha)
    · exact .inl (mem_append_right _ ha)
  simp only [RelayHub.attach,hb,Bool.false_eq_true,if_false]
  split
  · obtain ⟨hid,hviewers,hreaders,hagents⟩:=startPiping_fields
      {h with handlers := h.handlers++[peer],agent := some peer}
    exact ⟨hid,hviewers,hreaders,fun a ha => hreplaced a (hagents a ha)⟩
  · exact ⟨rfl,rfl,rfl,hreplaced⟩

theorem HubOK.attach (hok : HubOK c joined h) (n : ℕ)
    (hpeer : Admitted c true h.relayID peer) : HubOK c (joined++h.joints n peer) (h.attach peer) := by
  cases hb : peer.browser with
  | true =>
    obtain ⟨hid,hviewers,hreaders,hagents⟩:=attach_viewer (h := h) hb
    constructor
    · exact fun a ha => hid ▸ hok.agents a (hagents a ha)
    · intro v hv
      rw [hviewers] at hv
      rw [hid]
      rcases mem_append.mp hv with hv | hv
      · exact hok.viewers v hv
      · exact mem_singleton.mp hv ▸ ⟨hpeer,hb⟩
    · intro r hr
      rw [hreaders] at hr
      rw [hviewers]
      rcases mem_append.mp hr with hr | hr
      · exact mem_append_left _ (hok.readers r hr)
      · exact mem_append_right _ hr
    · intro a ha v hv
      rw [hviewers] at hv
      rcases mem_append.mp hv with hv | hv
      · obtain ⟨j,hj,hends⟩:=hok.ends a (hagents a ha) v hv
        exact ⟨j,mem_append_left _ hj,hends⟩
      · obtain rfl:=mem_singleton.mp hv
        refine ⟨⟨h.relayID,true,n,a,v⟩,mem_append_right _ ?_,rfl,rfl⟩
        simp only [RelayHub.joints,hb,if_true]
        exact mem_map_of_mem (hagents a ha)
  | false =>
    obtain ⟨hid,hviewers,hreaders,hagents⟩:=attach_agent (h := h) hb
    constructor
    · intro a ha
      rw [hid]
      rcases hagents a ha with ha | rfl
      · exact hok.agents a ha
      · exact ⟨hpeer,hb⟩
    · rw [hviewers,hid]
      exact hok.viewers
    · rw [hviewers,hreaders]
      exact hok.readers
    · intro a ha v hv
      rw [hviewers] at hv
      rcases hagents a ha with ha | rfl
      · obtain ⟨j,hj,hends⟩:=hok.ends a ha v hv
        exact ⟨j,mem_append_left _ hj,hends⟩
      · refine ⟨⟨h.relayID,true,n,a,v⟩,mem_append_right _ ?_,rfl,rfl⟩
        simp only [RelayHub.joints,hb,Bool.false_eq_true,if_false]
        exact mem_map_of_mem hv

structure RelayHub.Within (h' h : RelayHub) : Prop where
  relayID : h'.relayID=h.relayID
  agents : ∀ a∈h'.agentSide,a∈h.agentSide
  viewers : ∀ v∈h'.viewers,v∈h.viewers
  readers : (∀ r∈h.readers,r∈h.viewers) → ∀ r∈h'.readers,r∈h'.viewers

theorem HubOK.within (hok : HubOK c joined h) (hsub : h'.Within h) : HubOK c joined h' where
  agents a ha := hsub.relayID ▸ hok.agents a (hsub.agents a ha)
  viewers v hv := hsub.relayID ▸ hok.viewers v (hsub.viewers v hv)
  readers := hsub.readers hok.readers
  ends a ha v hv := hok.ends a (hsub.agents a ha) v (hsub.viewers v hv)

theorem within_detach (h : RelayHub) (peer : RelayPeer) : (h.detach peer).Within h := by
  unfold RelayHub.detach
  dsimp only
  split
  · refine ⟨rfl,fun _ => fun ha => ha,fun v hv => mem_of_mem_erase hv,fun hreaders r hr => ?_⟩
    obtain ⟨hr,hne⟩:=mem_filter.mp hr
    exact (mem_erase_of_ne (by simpa using hne)).mpr (hreaders r hr)
  · split
    · refine ⟨rfl,fun a ha => ?_,fun _ => fun hv => hv,fun hreaders r hr =>
        hreaders r (mem_of_mem_filter hr)⟩
      exact mem_append_right _ (by simpa [RelayHub.agentSide] using ha)
    · exact ⟨rfl,fun _ => fun ha => ha,fun _ => fun hv => hv,fun hreaders r hr =>
        hreaders r (mem_of_mem_filter hr)⟩

theorem within_readAgentEnds (h : RelayHub) : h.readAgentEnds.Within h :=
  ⟨rfl,fun _ => fun ha => by simp [RelayHub.readAgentEnds,RelayHub.agentSide] at ha,
    fun _ => fun hv => hv,fun hreaders => hreaders⟩

theorem within_reading {agent : RelayPeer} (hagent : h.agent=some agent) :
    RelayHub.Within {h with pump := .reading agent} h := by
  refine ⟨rfl,fun a ha => mem_append_left _ ?_,fun _ => fun hv => hv,fun hreaders => hreaders⟩
  rcases mem_append.mp ha with ha | ha
  · exact ha
  · rw [mem_singleton.mp ha,hagent]
    exact mem_singleton_self _

theorem within_readViewerEnds (h : RelayHub) (ws : ℕ) :
    RelayHub.Within {h with readers := h.readers.filter fun r => r.ws.number≠ws} h :=
  ⟨rfl,fun _ => fun ha => ha,fun _ => fun hv => hv,fun hreaders r hr => hreaders r (mem_of_mem_filter hr)⟩

end

structure HubsInv (c : CookieCodec) (hubs : List RelayHub) (relayHubs : SyncMap String ℕ)
    (joined : List Joint) : Prop where
  named : ∀ x∈relayHubs, ∃ h : RelayHub, hubs[x.2]?=some h ∧ h.relayID=x.1
  each : ∀ (n : ℕ) (h : RelayHub), hubs[n]?=some h → HubOK c joined h

section
variable {c : CookieCodec} {hubs : List RelayHub} {relayHubs : SyncMap String ℕ} {joined : List Joint}

theorem HubsInv.mono (h : HubsInv c hubs relayHubs joined) (joints : List Joint) :
    HubsInv c hubs relayHubs (joined++joints) :=
  ⟨h.named,fun n hub hn => (h.each n hub hn).mono joints⟩

theorem HubsInv.set (h : HubsInv c hubs relayHubs joined) (joints : List Joint) {n : ℕ} {hub hub' : RelayHub}
    (hn : hubs[n]?=some hub) (hid : hub'.relayID=hub.relayID) (hok : HubOK c (joined++joints) hub') :
    HubsInv c (hubs.set n hub') relayHubs (joined++joints) := by
  obtain ⟨hlt,_⟩:=List.getElem?_eq_some_iff.mp hn
  constructor
  · intro x hx
    obtain ⟨before,hbefore,hname⟩:=h.named x hx
    by_cases heq : n=x.2
    · subst heq
      rw [hn] at hbefore
      cases hbefore
      exact ⟨hub',List.getElem?_set_self hlt,hid.trans hname⟩
    · exact ⟨before,by rw [List.getElem?_set_ne heq]; exact hbefore,hname⟩
  · intro m after hm
    by_cases heq : n=m
    · subst heq
      rw [List.getElem?_set_self hlt] at hm
      cases hm
      exact hok
    · rw [List.getElem?_set_ne heq] at hm
      exact (h.each m after hm).mono joints

theorem HubsInv.add (h : HubsInv c hubs relayHubs joined) {relayID : String} {hub : RelayHub}
    {joints : List Joint} (hid : hub.relayID=relayID) (hok : HubOK c (joined++joints) hub) :
    HubsInv c (hubs++[hub]) (relayHubs.store relayID hubs.length) (joined++joints) := by
  constructor
  · intro x hx
    rcases SyncMap.mem_store hx with rfl | hx
    · exact ⟨hub,by simp,hid⟩
    · obtain ⟨before,hbefore,hname⟩:=h.named x hx
      obtain ⟨hlt,_⟩:=List.getElem?_eq_some_iff.mp hbefore
      exact ⟨before,by rw [List.getElem?_append_left hlt]; exact hbefore,hname⟩
  · intro m after hm
    rw [List.getElem?_append] at hm
    split at hm
    · exact (h.each m after hm).mono joints
    · rw [List.getElem?_singleton] at hm
      split at hm
      · cases hm
        exact hok
      · cases hm

end

structure Joint.Kept (c : CookieCodec) (j : Joint) : Prop where
  first : Admitted c j.kvm j.relayID j.first
  second : Admitted c j.kvm j.relayID j.second
  hub : j.kvm=true → j.first.browser=false ∧ j.second.browser=true
  plain : j.kvm=false → j.first.ws.number≠j.second.ws.number

def RelayState.Passive (s : RelayState) : Prop :=
  ∀ d∈s.delivered, ∃ j∈s.joined,d=(j.first,j.second) ∨ d=(j.second,j.first)

structure Inv (c : CookieCodec) (s : RelayState) : Prop where
  pairs : PairsInv c s.accepted s.sessions s.relays s.pipes s.joined
  hubs : HubsInv c s.hubs s.relayHubs s.joined
  kept : ∀ j∈s.joined,j.Kept c
  passive : s.Passive

theorem inv_init (c : CookieCodec) (now : ℤ) : Inv c (.init now) := by
  refine ⟨?_,?_,?_,?_⟩
  · constructor <;> simp [RelayState.init]
  · constructor <;> simp [RelayState.init]
  · simp [RelayState.init]
  · simp [RelayState.Passive,RelayState.init]

section
variable {c : CookieCodec} {s : RelayState}

variable {peer : RelayPeer}

theorem Inv.hubJoints_kept (hi : Inv c s) {n : ℕ} {h : RelayHub} (hn : s.hubs[n]?=some h)
    (hpeer : Admitted c true h.relayID peer) : ∀ j∈h.joints n peer, j.Kept c := by
  have hok:=hi.hubs.each n h hn
  intro j hj
  unfold RelayHub.joints at hj
  cases hb : peer.browser with
  | true =>
    rw [if_pos hb] at hj
    obtain ⟨agent,hagent,rfl⟩:=mem_map.mp hj
    obtain ⟨hadmitted,hab⟩:=hok.agents agent hagent
    exact ⟨hadmitted,hpeer,fun _ => ⟨hab,hb⟩,nofun⟩
  | false =>
    rw [if_neg (by simp [hb])] at hj
    obtain ⟨viewer,hviewer,rfl⟩:=mem_map.mp hj
    obtain ⟨hadmitted,hvb⟩:=hok.viewers viewer hviewer
    exact ⟨hpeer,hadmitted,fun _ => ⟨hb,hvb⟩,nofun⟩

theorem hubJoints_kvm {h : RelayHub} {n : ℕ} : ∀ j∈h.joints n peer, j.kvm=true := by
  intro j hj
  unfold RelayHub.joints at hj
  split at hj
  · obtain ⟨_,_,rfl⟩:=mem_map.mp hj
    rfl
  · obtain ⟨_,_,rfl⟩:=mem_map.mp hj
    rfl

theorem Passive.mono {joined : List Joint} (h : s.Passive) :
    ∀ d∈s.delivered, ∃ j∈s.joined++joined, d=(j.first,j.second) ∨ d=(j.second,j.first) := by
  intro d hd
  obtain ⟨j,hj,hends⟩:=h d hd
  exact ⟨j,mem_append_left _ hj,hends⟩

theorem Inv.connectHub (hi : Inv c s) (hkvm : isKvmRelayProto peer.ws.query.p=true)
    (hpeer : Admitted c true peer.ws.query.id peer) :
    Inv c {s.pairRelay peer with accepted := s.accepted+1,joined := s.joined++s.joints peer} := by
  rw [RelayState.pairRelay,if_pos hkvm,RelayState.runKvmRelayHub,RelayState.loadOrStoreHub,
    RelayState.joints,if_pos hkvm]
  cases hload : s.relayHubs.load peer.ws.query.id with
  | none =>
    have hok : HubOK c (s.joined++[]) ((RelayHub.empty peer.ws.query.id).attach peer) := by
      have hempty : HubOK c s.joined (.empty peer.ws.query.id) := hubOK_empty _
      have hattach:=hempty.attach 0 hpeer
      have hnobody : (RelayHub.empty peer.ws.query.id).joints 0 peer=[] := by
        simp [RelayHub.joints,RelayHub.empty,RelayHub.agentSide]
      rwa [hnobody] at hattach
    have hid : ((RelayHub.empty peer.ws.query.id).attach peer).relayID=peer.ws.query.id := by
      cases hb : peer.browser with
      | true => exact (attach_viewer hb).1
      | false => exact (attach_agent hb).1
    refine ⟨hi.pairs.hub (by simp),?_,by simpa using hi.kept,Passive.mono hi.passive⟩
    dsimp only
    rw [modify_last]
    exact hi.hubs.add hid hok
  | some n =>
    obtain ⟨h,hn,hid⟩:=hi.hubs.named _ (SyncMap.mem_of_load hload)
    dsimp only at hn hid ⊢
    rw [← hid] at hpeer
    have hmap : (s.hubs[n]?.map fun h => h.joints n peer).getD []=h.joints n peer := by
      rw [hn]
      rfl
    have hok:=(hi.hubs.each n h hn).attach n hpeer
    have hid' : (h.attach peer).relayID=h.relayID := by
      cases hb : peer.browser with
      | true => exact (attach_viewer hb).1
      | false => exact (attach_agent hb).1
    rw [hmap]
    refine ⟨hi.pairs.hub hubJoints_kvm,?_,fun j hj => ?_,Passive.mono hi.passive⟩
    · dsimp only
      rw [modify_of_getElem? hn]
      exact hi.hubs.set _ hn hid' hok
    · rcases mem_append.mp hj with hj | hj
      · exact hi.kept j hj
      · exact hi.hubJoints_kept hn hpeer j hj

theorem Inv.connectPlain (hi : Inv c s) (hplain : isKvmRelayProto peer.ws.query.p=false)
    (hnumber : peer.ws.number=s.accepted) (hpeer : Admitted c false peer.ws.query.id peer) :
    Inv c {s.pairRelay peer with accepted := s.accepted+1,joined := s.joined++s.joints peer} := by
  rw [RelayState.pairRelay,if_neg (by simp [hplain]),RelayState.loadOrStoreRelay,RelayState.joints,
    if_neg (by simp [hplain])]
  cases hload : s.relays.load peer.ws.query.id with
  | none =>
    have hnobody : ({s with
        sessions := s.sessions++[⟨peer.ws.query.id,none,0⟩]
        relays := s.relays.store peer.ws.query.id s.sessions.length
        timers := s.timers++[⟨false,peer.ws.query.id,s.now+120⟩]} : RelayState).peer1
          s.sessions.length=none := by
      simp [RelayState.peer1]
    dsimp only
    rw [hnobody]
    refine ⟨?_,hi.hubs.mono [],by simpa using hi.kept,Passive.mono hi.passive⟩
    dsimp only
    rw [modify_last,append_nil]
    exact hi.pairs.wait hnumber hpeer
  | some n =>
    obtain ⟨session,hn,hid⟩:=hi.pairs.named _ (SyncMap.mem_of_load hload)
    obtain ⟨peer1,hpeer1,hadmitted,hlt⟩:=hi.pairs.waiting n session hn
    have hwaits : s.peer1 n=some peer1 := by rw [RelayState.peer1,hn,bind_some,hpeer1]
    dsimp only at hn hid ⊢
    rw [hwaits]
    refine ⟨hi.pairs.join hn hpeer1 hnumber,hi.hubs.mono _,fun j hj => ?_,Passive.mono hi.passive⟩
    rcases mem_append.mp hj with hj | hj
    · exact hi.kept j hj
    · obtain rfl:=mem_singleton.mp hj
      exact ⟨hid ▸ hadmitted,hpeer,nofun,fun _ => by dsimp only; omega⟩

end

/-- A tunnel of this relay, and with it one node, was handed out, and both ends
came with a cookie of it. -/
def Joint.Issued (tunnels : List Tunnel) (j : Joint) : Prop :=
  ∃ t∈tunnels,t.relayID=j.relayID ∧ t.Admits j.first.ws ∧ t.Admits j.second.ws

/-- Every two ends that were joined hold cookies of one tunnel of their relay, and an
end of a plain pair is an end of no other. -/
def RelayState.PairsRight (s : RelayState) : Prop :=
  (∀ j∈s.joined,j.Issued s.tunnels) ∧
    (s.joined.filter fun j => !j.kvm).Pairwise fun j j' => j.endpoints.Disjoint j'.endpoints

/-- The two ends of every joint that the arrival makes hold such cookies, and a plain
session it comes to is not paired yet. -/
def RelayState.ArrivesRight (s : RelayState) (peer : RelayPeer) : Prop :=
  ∀ j∈s.joints peer, j.Issued s.tunnels ∧
    (j.kvm=false → ∀ session, s.sessions[j.session]?=some session → session.state≠1)

def StepRight (c : CookieCodec) (s : RelayState) : RelayAction → Prop
  | .connect q => ∀ peer, handleRelayWS c s q=some peer → s.ArrivesRight peer
  | _ => True

structure Quiet (s t : RelayState) : Prop where
  accepted : t.accepted=s.accepted
  sessions : t.sessions=s.sessions
  relays : ∀ x∈t.relays,x∈s.relays
  pipes : ∀ p∈t.pipes, ∃ p'∈s.pipes,p.peer1=p'.peer1 ∧ p.peer2=p'.peer2
  relayHubs : ∀ x∈t.relayHubs,x∈s.relayHubs
  hubs : t.hubs=s.hubs ∨ ∃ (n : ℕ) (h h' : RelayHub), s.hubs[n]?=some h ∧ h'.Within h ∧ t.hubs=s.hubs.set n h'
  joined : t.joined=s.joined
  tunnels : t.tunnels=s.tunnels
  delivered : t.delivered=s.delivered

def RelayState.Wired (s : RelayState) (d : RelayPeer × RelayPeer) : Prop :=
  (∃ p∈s.pipes,d=(p.peer1,p.peer2) ∨ d=(p.peer2,p.peer1)) ∨
    ∃ (n : ℕ) (h : RelayHub), s.hubs[n]?=some h ∧ ∃ agent∈h.agentSide,
      (∃ v∈h.viewers,d=(agent,v)) ∨ ∃ v∈h.readers,d=(v,agent)

inductive Effect (c : CookieCodec) (s : RelayState) : RelayAction → RelayState → Prop
  | quiet {a : RelayAction} {t : RelayState} (hright : StepRight c s a) (h : Quiet s t) : Effect c s a t
  | delivers {a : RelayAction} (hright : StepRight c s a) (sent : List (RelayPeer × RelayPeer))
      (hsent : ∀ d∈sent,s.Wired d) : Effect c s a {s with delivered := s.delivered++sent}
  | tunnel (g : MeshGateway) (r : TunnelRequest) (relayID : String) (nonce nonce' : ℕ)
      (hnew : ∀ t∈s.tunnels,t.relayID≠relayID) :
      Effect c s (.createTunnel g r relayID nonce nonce')
        {s with tunnels := s.tunnels++[createRelayTunnel c g s.now r relayID nonce nonce']}
  | connect (q : RelayQuery) (peer : RelayPeer) (hpeer : handleRelayWS c s q=some peer) :
      Effect c s (.connect q) {s.pairRelay peer with
        accepted := s.accepted+1
        joined := s.joined++s.joints peer}

section
variable {c : CookieCodec} {s t : RelayState} {a : RelayAction}

variable {peer : RelayPeer} {j : Joint}

theorem findPeer_mem {peers : List RelayPeer} {ws : ℕ} (h : findPeer peers ws=some peer) :
    peer∈peers := mem_of_find?_eq_some h

theorem Pipe.stop_ends (p : Pipe) (toPeer2 : Bool) :
    (p.stop toPeer2).peer1=p.peer1 ∧ (p.stop toPeer2).peer2=p.peer2 := by
  unfold Pipe.stop
  split
  · exact ⟨rfl,rfl⟩
  · exact ⟨rfl,rfl⟩

theorem same_pipes (pipes : List Pipe) : ∀ p∈pipes, ∃ p'∈pipes,p.peer1=p'.peer1 ∧ p.peer2=p'.peer2 :=
  fun p hp => ⟨p,hp,rfl,rfl⟩

theorem quiet_self (s : RelayState) : Quiet s s :=
  ⟨rfl,rfl,fun _ => fun hx => hx,same_pipes _,fun _ => fun hx => hx,.inl rfl,rfl,rfl,rfl⟩

theorem quiet_setHub {n : ℕ} {h h' : RelayHub} (hn : s.hubs[n]?=some h) (hsub : h'.Within h) :
    Quiet s {s with hubs := s.hubs.set n h'} :=
  {quiet_self s with hubs := .inr ⟨n,h,h',hn,hsub,rfl⟩}

theorem quiet_finish {n : ℕ} {h h' : RelayHub} (hn : s.hubs[n]?=some h) (hsub : h'.Within h) :
    Quiet s (s.finish n h') := by
  unfold RelayState.finish
  split
  · exact quiet_setHub hn hsub
  · exact {quiet_self s with
      relayHubs := fun x hx => SyncMap.mem_delete hx
      hubs := .inr ⟨n,h,{h' with done := true},hn,⟨hsub.relayID,hsub.agents,hsub.viewers,hsub.readers⟩,rfl⟩}

theorem step_effect (h : step c s a=some t) : Effect c s a t := by
  cases a with
  | tick | timerStops =>
    cases h
    exact .quiet trivial {quiet_self s with}
  | createTunnel g r relayID nonce nonce' =>
    simp only [step] at h
    split at h
    · cases h
    · rename_i hnew
      cases h
      refine .tunnel g r relayID nonce nonce' fun t ht heq => hnew ?_
      rw [Bool.or_eq_true,List.any_eq_true]
      exact .inl ⟨t,ht,by simpa using heq⟩
  | connect q =>
    simp only [step] at h
    cases hpeer : handleRelayWS c s q with
    | none =>
      rw [hpeer] at h
      cases h
      refine .quiet (fun peer hsome => ?_) (quiet_self s)
      rw [hpeer] at hsome
      cases hsome
    | some peer =>
      rw [hpeer] at h
      cases h
      exact .connect q peer hpeer
  | waitEnds session =>
    obtain ⟨peer,_,rfl⟩:=map_eq_some_iff.mp h
    exact .quiet trivial {quiet_self s with}
  | timerFires timer =>
    obtain ⟨tm,_,h⟩:=bind_eq_some_iff.mp h
    dsimp only at h
    split at h
    · cases h
    · simp only [some.injEq] at h
      subst h
      split
      · exact .quiet trivial {quiet_self s with relayHubs := fun x hx => SyncMap.mem_delete hx}
      · exact .quiet trivial {quiet_self s with relays := fun x hx => SyncMap.mem_delete hx}
  | copy pipe toPeer2 =>
    obtain ⟨p,hp,h⟩:=bind_eq_some_iff.mp h
    split at h
    · cases h
      refine .delivers (a := .copy pipe toPeer2) trivial _ fun d hd => .inl ⟨p,mem_of_getElem? hp,?_⟩
      rw [mem_singleton.mp hd]
      split
      · exact .inl rfl
      · exact .inr rfl
    · cases h
  | copyStops pipe toPeer2 =>
    cases h
    refine .quiet trivial {quiet_self s with pipes := fun p hp => ?_}
    obtain ⟨n,hn⟩:=mem_iff_getElem?.mp hp
    rw [List.getElem?_modify] at hn
    obtain ⟨p',hp',rfl⟩:=map_eq_some_iff.mp hn
    refine ⟨p',mem_of_getElem? hp',?_⟩
    split
    · exact p'.stop_ends toPeer2
    · exact ⟨rfl,rfl⟩
  | pipeEnds pipe =>
    obtain ⟨p,hp,h⟩:=bind_eq_some_iff.mp h
    split at h
    · cases h
    · cases h
      refine .quiet trivial {quiet_self s with
        relays := fun x hx => SyncMap.mem_delete hx
        pipes := fun p' hp' => ?_}
      rcases mem_or_eq_of_mem_set hp' with hp' | rfl
      · exact ⟨p',hp',rfl,rfl⟩
      · exact ⟨p,mem_of_getElem? hp,rfl,rfl⟩
  | leaveHub hub ws =>
    obtain ⟨h',hn,h⟩:=bind_eq_some_iff.mp h
    obtain ⟨peer,_,h⟩:=bind_eq_some_iff.mp h
    simp only [some.injEq] at h
    subst h
    split
    · exact .quiet trivial (quiet_finish hn (within_detach h' peer))
    · exact .quiet trivial (quiet_setHub hn (within_detach h' peer))
  | readAgentStarts hub =>
    obtain ⟨h',hn,h⟩:=bind_eq_some_iff.mp h
    split at h
    · cases h
    · split at h
      · cases h
        exact .quiet trivial (quiet_finish hn (within_readAgentEnds h'))
      · rename_i agent hagent
        cases h
        exact .quiet trivial (quiet_setHub hn (within_reading hagent))
  | readAgent hub =>
    obtain ⟨h',hn,h⟩:=bind_eq_some_iff.mp h
    split at h
    · rename_i agent hpump
      cases h
      refine .delivers (a := .readAgent hub) trivial _ fun d hd => .inr ⟨hub,h',hn,agent,?_,.inl ?_⟩
      · rw [RelayHub.agentSide,hpump]
        exact mem_append_right _ (mem_singleton_self _)
      · obtain ⟨v,hv,rfl⟩:=mem_map.mp hd
        exact ⟨v,hv,rfl⟩
    · cases h
  | readAgentEnds hub =>
    obtain ⟨h',hn,h⟩:=bind_eq_some_iff.mp h
    split at h
    · cases h
      exact .quiet trivial (quiet_finish hn (within_readAgentEnds h'))
    · cases h
  | readViewer hub ws =>
    obtain ⟨h',hn,h⟩:=bind_eq_some_iff.mp h
    obtain ⟨viewer,hviewer,h⟩:=bind_eq_some_iff.mp h
    cases h
    refine .delivers (a := .readViewer hub ws) trivial _ fun d hd => ?_
    obtain ⟨agent,hagent,rfl⟩:=mem_map.mp hd
    exact .inr ⟨hub,h',hn,agent,mem_append_left _ hagent,.inr ⟨viewer,findPeer_mem hviewer,rfl⟩⟩
  | readViewerEnds hub ws =>
    obtain ⟨h',hn,h⟩:=bind_eq_some_iff.mp h
    cases h
    exact .quiet trivial (quiet_setHub hn (within_readViewerEnds h' ws))

theorem Inv.quiet (hi : Inv c s) (h : Quiet s t) : Inv c t := by
  constructor
  · have hpairs:=hi.pairs
    rw [h.accepted,h.sessions,h.joined]
    refine {hpairs with named := fun x hx => hpairs.named x (h.relays x hx),piped := fun p hp => ?_}
    obtain ⟨p',hp',h1,h2⟩:=h.pipes p hp
    obtain ⟨j,hj,hj1,hj2⟩:=hpairs.piped p' hp'
    exact ⟨j,hj,hj1.trans h1.symm,hj2.trans h2.symm⟩
  · have hnamed : HubsInv c s.hubs t.relayHubs s.joined :=
      ⟨fun x hx => hi.hubs.named x (h.relayHubs x hx),hi.hubs.each⟩
    rw [h.joined]
    rcases h.hubs with hhubs | ⟨n,hub,hub',hn,hsub,hhubs⟩
    · rwa [hhubs]
    · rw [hhubs]
      have hset:=hnamed.set [] hn hsub.relayID (by
        rw [append_nil]
        exact (hi.hubs.each n hub hn).within hsub)
      rwa [append_nil] at hset
  · rw [h.joined]
    exact hi.kept
  · intro d hd
    rw [h.delivered] at hd
    rw [h.joined]
    exact hi.passive d hd

theorem Inv.wired (hi : Inv c s) {d : RelayPeer × RelayPeer} (h : s.Wired d) :
    ∃ j∈s.joined,d=(j.first,j.second) ∨ d=(j.second,j.first) := by
  rcases h with ⟨p,hp,hd⟩ | ⟨n,hub,hn,agent,hagent,hd⟩
  · obtain ⟨j,hj,h1,h2⟩:=hi.pairs.piped p hp
    exact ⟨j,hj,by rw [h1,h2]; exact hd⟩
  · have hok:=hi.hubs.each n hub hn
    rcases hd with ⟨v,hv,rfl⟩ | ⟨v,hv,rfl⟩
    · obtain ⟨j,hj,rfl,rfl⟩:=hok.ends agent hagent v hv
      exact ⟨j,hj,.inl rfl⟩
    · obtain ⟨j,hj,rfl,rfl⟩:=hok.ends agent hagent v (hok.readers v hv)
      exact ⟨j,hj,.inr rfl⟩

theorem Effect.inv (h : Effect c s a t) (hi : Inv c s) : Inv c t := by
  cases h with
  | quiet _ h => exact hi.quiet h
  | delivers _ sent hsent =>
    refine ⟨hi.pairs,hi.hubs,hi.kept,fun d hd => ?_⟩
    rcases mem_append.mp hd with hd | hd
    · exact hi.passive d hd
    · exact hi.wired (hsent d hd)
  | tunnel => exact ⟨hi.pairs,hi.hubs,hi.kept,hi.passive⟩
  | connect q peer hpeer =>
    obtain ⟨hnumber,hadmitted⟩:=handleRelayWS_some hpeer
    cases hkvm : isKvmRelayProto peer.ws.query.p with
    | true => exact hi.connectHub hkvm (hkvm ▸ hadmitted)
    | false => exact hi.connectPlain hkvm hnumber (hkvm ▸ hadmitted)

theorem Joint.Issued.mono {tunnels tunnels' : List Tunnel} (hsub : tunnels ⊆ tunnels')
    (h : j.Issued tunnels) : j.Issued tunnels' := by
  obtain ⟨t,ht,hrest⟩:=h
  exact ⟨t,hsub ht,hrest⟩

theorem pairRelay_tunnels (s : RelayState) (peer : RelayPeer) : (s.pairRelay peer).tunnels=s.tunnels := by
  unfold RelayState.pairRelay RelayState.runKvmRelayHub RelayState.loadOrStoreHub RelayState.loadOrStoreRelay
  dsimp only
  split
  · cases s.relayHubs.load peer.ws.query.id <;> rfl
  · cases s.relays.load peer.ws.query.id with
    | none | some => dsimp only; split <;> rfl

theorem joints_plain (hj : j∈s.joints peer) (hplain : j.kvm=false) : s.joints peer=[j] ∧ j.second=peer ∧
      ∃ session, s.sessions[j.session]?=some session ∧ session.peer1=some j.first := by
  unfold RelayState.joints at hj ⊢
  split at hj
  · split at hj
    · cases hj
    · rename_i n _
      cases hn : s.hubs[n]? with
      | none =>
        rw [hn] at hj
        cases hj
      | some h =>
        rw [hn] at hj
        rw [hubJoints_kvm j hj] at hplain
        cases hplain
  · rename_i hproto
    split at hj
    · cases hj
    · rename_i n hload
      obtain ⟨peer1,hpeer1,rfl⟩:=map_eq_some_iff.mp (mem_toList.mp hj)
      obtain ⟨session,hsession,hfirst⟩:=bind_eq_some_iff.mp hpeer1
      refine ⟨?_,rfl,session,hsession,hfirst⟩
      rw [if_neg hproto,hpeer1]
      rfl

theorem apart_iff (hi : Inv c s) (hnumber : peer.ws.number=s.accepted)
    (hj : j∈s.joints peer) (hplain : j.kvm=false) :
    (∀ j'∈s.joined,j'.kvm=false → j'.endpoints.Disjoint j.endpoints) ↔
      ∀ session, s.sessions[j.session]?=some session → session.state≠1 := by
  obtain ⟨_,hsecond,session,hsession,hfirst⟩:=joints_plain hj hplain
  obtain ⟨p,hp,_,hlt⟩:=hi.pairs.waiting _ _ hsession
  rw [hfirst] at hp
  cases hp
  constructor
  · intro hapart session' hsession' hstate
    rw [hsession] at hsession'
    cases hsession'
    obtain ⟨j',hj',hplain',heq⟩:=hi.pairs.paired _ _ hsession hstate
    obtain ⟨_,session',hsession',hfirst',_⟩:=hi.pairs.ends j' hj' hplain'
    rw [heq,hsession] at hsession'
    cases hsession'
    rw [hfirst,some.injEq] at hfirst'
    refine hapart j' hj' hplain' (a := j.first.ws.number) ?_ ?_
    · simp [Joint.endpoints,hfirst']
    · simp [Joint.endpoints]
  · intro hopen j' hj' hplain' number hold hnew
    obtain ⟨hlt',session',hsession',hfirst',hstate'⟩:=hi.pairs.ends j' hj' hplain'
    obtain ⟨p',hp',_,hltp'⟩:=hi.pairs.waiting _ _ hsession'
    rw [hfirst'] at hp'
    cases hp'
    simp only [Joint.endpoints,mem_cons,not_mem_nil,or_false,hsecond,hnumber] at hold hnew
    rcases hnew with hnew | hnew
    · rcases hold with hold | hold
      · have hsame:=hi.pairs.distinct _ _ session session' _ _ hsession hsession' hfirst hfirst'
          (hnew.symm.trans hold)
        rw [← hsame,hsession] at hsession'
        cases hsession'
        exact hopen session hsession hstate'
      · exact hi.pairs.seconds j' hj' hplain' _ session _ hsession hfirst (hnew.symm.trans hold)
    · omega

theorem Effect.pairsRight_iff (h : Effect c s a t) (hi : Inv c s) (hright : s.PairsRight) :
    t.PairsRight ↔ StepRight c s a := by
  cases h with
  | quiet hok h =>
    refine iff_of_true ⟨fun j hj => ?_,h.joined ▸ hright.2⟩ hok
    rw [h.tunnels]
    exact hright.1 j (h.joined ▸ hj)
  | delivers hok sent hsent => exact iff_of_true hright hok
  | tunnel => exact iff_of_true ⟨fun j hj => (hright.1 j hj).mono (subset_append_left _ _),hright.2⟩ trivial
  | connect q peer hpeer =>
    obtain ⟨hnumber,_⟩:=handleRelayWS_some hpeer
    have hstep : StepRight c s (.connect q) ↔ s.ArrivesRight peer := by
      simp only [StepRight,hpeer,some.injEq]
      exact ⟨fun hall => hall peer rfl,fun hone p hp => hp ▸ hone⟩
    have hnew : (s.joints peer).Pairwise fun j j' => j'.kvm=false → j.endpoints.Disjoint j'.endpoints := by
      by_cases hsome : ∃ j∈s.joints peer, j.kvm=false
      · obtain ⟨j,hj,hplain⟩:=hsome
        rw [(joints_plain hj hplain).1]
        exact pairwise_singleton _ _
      · refine pairwise_of_forall_mem_list fun j hj j' hj' hplain => absurd ⟨j',hj',hplain⟩ hsome
    rw [hstep,RelayState.PairsRight]
    dsimp only
    rw [pairRelay_tunnels,filter_append,pairwise_append]
    constructor
    · rintro ⟨hissued,_,_,hcross⟩ j hj
      refine ⟨hissued j (mem_append_right _ hj),fun hplain => (apart_iff hi hnumber hj hplain).mp ?_⟩
      intro j' hj' hplain'
      exact hcross j' (mem_filter.mpr ⟨hj',by simp [hplain']⟩) j
        (mem_filter.mpr ⟨hj,by simp [hplain]⟩)
    · intro harrives
      refine ⟨fun j hj => ?_,hright.2,?_,fun j' hj' j hj => ?_⟩
      · rcases mem_append.mp hj with hj | hj
        · exact hright.1 j hj
        · exact (harrives j hj).1
      · refine (List.Pairwise.filter _ hnew).imp_of_mem fun _ hj' hapart => hapart ?_
        simpa using (mem_filter.mp hj').2
      · obtain ⟨hj',hplain'⟩:=mem_filter.mp hj'
        obtain ⟨hj,hplain⟩:=mem_filter.mp hj
        rw [Bool.not_eq_true'] at hplain hplain'
        exact (apart_iff hi hnumber hj hplain).mpr ((harrives j hj).2 hplain) j' hj' hplain'

/-- What was handed out: one tunnel a relay ID, its cookies sealed for its node, and a
view-only one on which the agent takes no input. -/
structure RelayState.TunnelsKept (c : CookieCodec) (s : RelayState) : Prop where
  minted : ∀ t∈s.tunnels, ∃ g issuedAt r nonce nonce',
    t=createRelayTunnel c g issuedAt r t.relayID nonce nonce'
  single : s.tunnels.Pairwise fun t t' => t.relayID≠t'.relayID
  inert : ∀ t∈s.tunnels,t.viewOnly=true →
    ∀ data : List TunnelData, (data.foldl onTunnelData (openTunnel t.message)).applied=[]

theorem tunnelsKept_init (c : CookieCodec) (now : ℤ) : (RelayState.init now).TunnelsKept c := by
  constructor <;> simp [RelayState.init]

theorem Effect.tunnelsKept (h : Effect c s a t) (hkept : s.TunnelsKept c) : t.TunnelsKept c := by
  cases h with
  | quiet _ h => exact ⟨h.tunnels ▸ hkept.minted,h.tunnels ▸ hkept.single,h.tunnels ▸ hkept.inert⟩
  | delivers => exact ⟨hkept.minted,hkept.single,hkept.inert⟩
  | connect q peer hpeer =>
    have htunnels:=pairRelay_tunnels s peer
    exact ⟨htunnels ▸ hkept.minted,htunnels ▸ hkept.single,htunnels ▸ hkept.inert⟩
  | tunnel g r relayID nonce nonce' hnew =>
    constructor
    · intro u hu
      rcases mem_append.mp hu with hu | hu
      · exact hkept.minted u hu
      · obtain rfl:=mem_singleton.mp hu
        exact ⟨g,s.now,r,nonce,nonce',rfl⟩
    · refine pairwise_append.mpr ⟨hkept.single,pairwise_singleton _ _,fun u hu v hv => ?_⟩
      rw [mem_singleton.mp hv]
      exact hnew u hu
    · intro u hu hview
      rcases mem_append.mp hu with hu | hu
      · exact hkept.inert u hu hview
      · obtain rfl:=mem_singleton.mp hu
        exact viewOnly_inert c g s.now r relayID nonce nonce' hview

end

/-- In every run messages pass between two ends that named one relay, an agent and a viewer in a
hub, and no cookie was passed over; a view-only tunnel moves nothing at its agent. -/
theorem relay_pairing_iff (c : CookieCodec) (now : ℤ) {as : List RelayAction} {s : RelayState}
    (h : exec (step c) (.init now) as=some s) : s.Passive ∧ (∀ j∈s.joined,j.Kept c) ∧ s.TunnelsKept c ∧
      ((∀ before, before <+: as → ∀ t, exec (step c) (.init now) before=some t → t.PairsRight) ↔
        Along (step c) (StepRight c) (.init now) as) := by
  have hi : Inv c s := exec_invariant_all (Inv c) (fun _ _ _ hi hstep => (step_effect hstep).inv hi) (inv_init c now) h
  have hkept : s.TunnelsKept c := exec_invariant_all (RelayState.TunnelsKept c)
    (fun _ _ _ hkept hstep => (step_effect hstep).tunnelsKept hkept) (tunnelsKept_init c now) h
  have hright : (RelayState.init now).PairsRight := by simp [RelayState.PairsRight,RelayState.init]
  refine ⟨hi.passive,hi.kept,hkept,?_⟩
  rw [along_reached_iff hright]
  refine along_iff_of_keep (fun s => Inv c s ∧ s.PairsRight) ?_ ?_ ⟨inv_init c now,hright⟩
  · rintro s a t ⟨hi,_⟩ hok ht
    exact ⟨(step_effect ht).inv hi,hok t ht⟩
  · rintro s a ⟨hi,hright⟩
    constructor
    · intro hok
      cases ht : step c s a with
      | some t => exact ((step_effect ht).pairsRight_iff hi hright).mp (hok t ht)
      | none =>
        cases a with
        | connect q =>
          intro peer hpeer
          simp only [step,hpeer] at ht
          cases ht
        | _ => trivial
    · exact fun hok t ht => ((step_effect ht).pairsRight_iff hi hright).mpr hok

def demoCodec : CookieCodec where
  sealCookie _ data := if data.rights=0 then "agent's" else "browser's"
  openCookie cookie :=
    if cookie="agent's" then some ⟨"alice","abc",0,240,1000⟩
    else if cookie="browser's" then some ⟨"alice","abc",2,240,1000⟩
    else none

def demoTunnel : RelayAction := .createTunnel oneAgent ⟨"office","alice",2,true⟩ "5f3a" 0 1

def sharedDesktop : List RelayAction :=
  [demoTunnel,.connect ⟨"5f3a","","agent's","","2"⟩,.connect ⟨"5f3a","browser's","","1","2"⟩,
    .readAgentStarts 0,.connect ⟨"5f3a","browser's","","1","2"⟩,.readAgent 0,.readViewer 0 2]

theorem relay_pairing_sharedDesktop : ∃ s, exec (step demoCodec) (.init 1000) sharedDesktop=some s ∧
    s.delivered.length=3 ∧ s.Passive ∧ (∀ j∈s.joined,j.Kept demoCodec) ∧ s.TunnelsKept demoCodec ∧
    ((∀ before, before <+: sharedDesktop → ∀ t,
        exec (step demoCodec) (.init 1000) before=some t → t.PairsRight) ↔
      Along (step demoCodec) (StepRight demoCodec) (.init 1000) sharedDesktop) := by
  have hrun : (exec (step demoCodec) (.init 1000) sharedDesktop).map (fun s => s.delivered.length)=some 3 := by
    decide
  obtain ⟨s,hs,hlength⟩:=map_eq_some_iff.mp hrun
  exact ⟨s,hs,hlength,relay_pairing_iff demoCodec 1000 hs⟩

def RelayState.JoinsTwo (s : RelayState) : Prop :=
  s.joined.Pairwise fun j j' => ∀ number∈j.endpoints,number∉j'.endpoints

instance (s : RelayState) : Decidable s.JoinsTwo := inferInstanceAs (Decidable (List.Pairwise _ _))

def viewOnlyCookie (c : CookieCodec) (ws : WebSocket) : Bool :=
  ws.query.cookies.any fun cookie => (c.openCookie cookie).any fun data => data.rights==tunnelRights true

def RelayState.HoldsInput (c : CookieCodec) (s : RelayState) : Bool :=
  s.delivered.all fun d => !(d.1.browser&&viewOnlyCookie c d.1.ws)

/-- Everyone came with the right cookie. -/
theorem desktop_shared_and_passive : ∃ s, exec (step demoCodec) (.init 1000) sharedDesktop=some s ∧
    (∀ j∈s.joined,j.Issued s.tunnels) ∧ ¬ s.JoinsTwo ∧ s.HoldsInput demoCodec=false := by
  have hrun : (exec (step demoCodec) (.init 1000) sharedDesktop).map (fun s =>
      (decide (∀ j∈s.joined, ∃ t∈s.tunnels,t.relayID=j.relayID ∧ t.Admits j.first.ws ∧ t.Admits j.second.ws),
        decide s.JoinsTwo,s.HoldsInput demoCodec))=some (true,false,false) := by
    decide
  obtain ⟨s,hs,hfacts⟩:=map_eq_some_iff.mp hrun
  simp only [Prod.mk.injEq,decide_eq_true_eq,decide_eq_false_iff_not] at hfacts
  exact ⟨s,hs,hfacts⟩

end BetterDesk.MeshCentral
