import BetterDesk.Mgmt.Hub

/-! # The hub and the live connection -/

namespace BetterDesk.Mgmt.Hub
open Exec Option Function

def Routed (s : Server) : Prop := ∀ id i, s.Live id i → (∀ j, s.Live id j → j ≤ i) → s.hub id=some i

def SparesOthers (s : Server) (a : Act) : Prop :=
  ∀ t i, step s a=some t → (a=.remove i ∨ a=.finish i) → ∀ j, j≠i →
    (∀ id, s.hub id=some j → t.hub id=some j) ∧ t.sessions[j]?=s.sessions[j]?

/-- When a handler removes its device, no other connection of the device stands: each was
replaced, or has been removed by its own handler. -/
def InTurn (s : Server) (a : Act) : Prop :=
  ∀ i c, a=.remove i → s.sessions[i]?=some c → c.stage=.leaving →
    ∀ j c', s.sessions[j]?=some c' → c'.deviceID=c.deviceID → c'.current=true → j=i

def Tied (s : Server) : Prop := ∀ id i, s.hub id=some i ↔ s.standing i=some id

theorem tied_start : Tied start := by
  intro id i
  simp [start,Server.standing,standingAt]

theorem Tied.routed {s : Server} (h : Tied s) : Routed s := fun id i hlive _ =>
  (h id i).mpr hlive.standing

theorem Tied.put {s : Server} (h : Tied s) (id : DeviceID) : Tied (s.put id) := by
  intro id' i
  have hhub : (s.put id).hub=update s.hub id (some s.sessions.length) := rfl
  rw [hhub,Server.standing_put]
  by_cases hi : i=s.sessions.length
  · -- the new connection
    subst hi
    rw [if_pos rfl]
    by_cases hid : id'=id
    · subst hid
      simp
    · rw [update_of_ne hid]
      refine iff_of_false (fun hold => ?_) (fun heq => hid (Option.some.inj heq).symm)
      exact Nat.lt_irrefl _ (Server.standing_lt ((h id' _).mp hold))
  · rw [if_neg hi]
    by_cases hid : id'=id
    · subst hid
      rw [update_self]
      refine iff_of_false (fun heq => hi (Option.some.inj heq).symm) (fun hst => ?_)
      split at hst
      · cases hst
      · rename_i hold
        exact hold ((h id' i).mpr hst)
    · rw [update_of_ne hid,h id' i]
      constructor
      · intro hst
        rw [if_neg (fun hold => hid ?_),hst]
        have hother:=(h id i).mp hold
        rw [hst] at hother
        exact Option.some.inj hother
      · intro hst
        split at hst
        · cases hst
        · exact hst

section Remove
variable {s : Server} {i : ℕ} {c : BdMgmtSession}

theorem standing_removed {j : ℕ} : (s.removed i c).standing j = if i=j then none else s.standing j :=
  standingAt_modify_of_end fun c => by simp [BdMgmtSession.standing,BdMgmtSession.current,BdMgmtSession.staying]

theorem hub_removed {id : DeviceID} : (s.removed i c).hub id = if id=c.deviceID then none else s.hub id := by
  simp [Server.removed,Server.remove,Server.update,update_apply]

theorem Tied.removed (h : Tied s) (hc : s.sessions[i]?=some c) (halone : ∀ j, s.standing j=some c.deviceID → j=i) :
    Tied (s.removed i c) := by
  intro id j
  rw [standing_removed,hub_removed]
  have hown (hst : s.standing i=some id) : id=c.deviceID := by
    obtain ⟨c',hc',hcur⟩:=bind_eq_some_iff.mp hst
    rw [hc] at hc'
    cases hc'
    unfold BdMgmtSession.standing at hcur
    split at hcur
    · exact (Option.some.inj hcur).symm
    · cases hcur
  by_cases hid : id=c.deviceID
  · subst hid
    rw [if_pos rfl]
    refine iff_of_false nofun fun hst => ?_
    split at hst
    · cases hst
    · rename_i hij
      exact hij (halone j hst).symm
  · rw [if_neg hid,h id j]
    by_cases hij : i=j
    · subst hij
      rw [if_pos rfl]
      exact iff_of_false (fun hst => hid (hown hst)) nofun
    · rw [if_neg hij]

end Remove

theorem standing_eq_some {s : Server} {j : ℕ} {id : DeviceID} : s.standing j=some id ↔
    ∃ c, s.sessions[j]?=some c ∧ c.deviceID=id ∧ c.current=true := by
  unfold Server.standing standingAt BdMgmtSession.standing
  rw [bind_eq_some_iff]
  refine exists_congr fun c => and_congr_right fun _ => ?_
  rw [ite_none_right_eq_some,some.injEq,and_comm]

theorem inTurn_iff {s : Server} {i : ℕ} : InTurn s (.remove i) ↔
    ∀ c, s.sessions[i]?=some c → c.stage=.leaving → ∀ j, s.standing j=some c.deviceID → j=i := by
  constructor
  · intro h c hc hstage j hst
    obtain ⟨c',hc',hid,hcur⟩:=standing_eq_some.mp hst
    exact h i c rfl hc hstage j c' hc' hid hcur
  · intro h i' c ha hc hstage j c' hc' hid hcur
    cases ha
    exact h c hc hstage j (standing_eq_some.mpr ⟨c',hc',hid,hcur⟩)

theorem Tied.spares_iff {s : Server} (h : Tied s) (a : Act) : SparesOthers s a ↔ InTurn s a := by
  constructor
  · intro hspares i c ha hc hstage j c' hc' hid hcur
    subst ha
    by_contra hji
    have hstep : step s (.remove i)=some (s.removed i c) := by simp [step,hc,hstage,Server.removed]
    have hhub:=(h c.deviceID j).mpr (standing_eq_some.mpr ⟨c',hc',hid,hcur⟩)
    have hkept:=(hspares _ i hstep (.inl rfl) j hji).1 c.deviceID hhub
    rw [hub_removed,if_pos rfl] at hkept
    cases hkept
  · intro hturn t i hstep ha j hji
    rcases ha with rfl | rfl
    · obtain ⟨c,hc,hstage,rfl⟩:=step_remove hstep
      refine ⟨fun id hhub => ?_,?_⟩
      · rw [hub_removed,if_neg,hhub]
        rintro rfl
        exact hji (inTurn_iff.mp hturn c hc hstage j ((h c.deviceID j).mp hhub))
      · simp [Server.removed,Server.update,Server.remove,Ne.symm hji]
    · exact ⟨fun id hhub => by rw [(quiet_own hstep).hub,hhub],own_other hstep hji⟩

theorem Tied.step {s t : Server} {a : Act} (h : Tied s) (hturn : InTurn s a) (hstep : step s a=some t) : Tied t := by
  rcases step_cases hstep with ⟨id,-,rfl⟩ | ⟨i,c,rfl,hc,hstage,rfl⟩ | hquiet
  · exact h.put id
  · exact h.removed hc (inTurn_iff.mp hturn c hc hstage)
  · intro id i
    rw [hquiet.hub,hquiet.standing]
    exact h id i

/-- Whatever the order of connections, cleanups and pushes: the hub has the newest live
connection of each device in every state of the run, and no cleanup touches another
connection, exactly when every `Remove` comes in its turn. -/
theorem routed_to_live (as : List Act) :
    ((∀ pre, pre <+: as → ∀ t, exec step start pre=some t → Routed t) ∧ Along step SparesOthers start as) ↔
      Along step InTurn start as := by
  have hiff : Along step InTurn start as ↔ Along step SparesOthers start as :=
    along_iff_of_keep Tied (fun _ _ _ h hturn hstep => h.step hturn hstep)
      (fun s a h => (h.spares_iff a).symm) tied_start
  constructor
  · rintro ⟨-,hspares⟩
    exact hiff.mpr hspares
  · intro hturn
    refine ⟨fun pre hpre t ht => ?_,hiff.mp hturn⟩
    obtain ⟨rest,rfl⟩:=hpre
    have htied : Tied t := exec_invariant Tied (fun _ _ _ h hok hstep => h.step hok hstep) tied_start hturn.before ht
    exact htied.routed

def reconnect : List Act :=
  [.connect "desk-1",.welcome 0 "t0",.connect "desk-1",.welcome 1 "t1",.leave 0,.remove 0]

/-- The cleanup of the replaced connection takes the live one out of the hub. -/
theorem reconnected_lost : ¬ ((∀ pre, pre <+: reconnect → ∀ t, exec step start pre=some t → Routed t) ∧
    Along step SparesOthers start reconnect) := by
  rintro ⟨hrouted,-⟩
  have hrun : (exec step start reconnect).map (fun t => (t.hub "desk-1",t.sessions.length,t.sessions[1]?)) =
      some (none,2,some ⟨"desk-1",false,false,[],true,[⟨"welcome","desk-1","t1",""⟩],.reading⟩) := by
    decide
  obtain ⟨t,ht,hfacts⟩:=map_eq_some_iff.mp hrun
  simp only [Prod.mk.injEq] at hfacts
  obtain ⟨hhub,hlength,hlive⟩:=hfacts
  have hnewest (j : ℕ) (hj : t.Live "desk-1" j) : j≤1 := by
    have hlt:=Server.standing_lt hj.standing
    omega
  have hmapped:=hrouted reconnect (List.prefix_refl _) t ht "desk-1" 1 ⟨_,hlive,rfl,rfl⟩ hnewest
  rw [hhub] at hmapped
  cases hmapped

end BetterDesk.Mgmt.Hub
