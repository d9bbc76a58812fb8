import BetterDesk.Device.ConnectionMode

/-! # What a rollout of connection modes keeps -/

namespace BetterDesk.Device.ConnectionMode
open List Option

namespace Tables
variable (s : Tables)

def issued (d : DeviceID) : List Command := s.commands.filter fun c => c.deviceID=d

def revision (d : DeviceID) : ℕ := revisionBase (s.policies d)

def Effective (d : DeviceID) (mode : String) : Prop :=
  (mode="" ∧ ∀ c∈s.issued d, c.status ≠ .applied) ∨
    ∃ c∈s.issued d, c.status=.applied ∧ c.mode=mode ∧
      ∀ e∈s.issued d, e.status=.applied → e.revision≤c.revision

end Tables

structure Law (s : Tables) : Prop where
  revisions : ∀ d, ∃ n, (s.issued d).map Command.revision=List.range' 1 n
  single : ∀ d, ((s.issued d).filter connectionCommandInFlight).length≤1
  active : ∀ c∈s.commands,connectionCommandInFlight c=true →
    ∃ p, s.policies c.deviceID=some p ∧ p.activeCommandID=c.commandID
  effective : ∀ d p, s.policies d=some p → s.Effective d p.effectiveMode

def TerminalKept (s t : Tables) : Prop :=
  ∀ c∈s.commands,connectionCommandInFlight c=false → c∈t.commands

structure Consistent (s : Tables) : Prop where
  ids : (s.commands.map Command.commandID).Nodup
  nonempty : ∀ c∈s.commands,c.commandID≠""
  revisions : ∀ d, (s.issued d).map Command.revision=List.range' 1 (s.revision d)
  active : ∀ c∈s.commands,connectionCommandInFlight c=true →
    ∃ p, s.policies c.deviceID=some p ∧ p.activeCommandID=c.commandID ∧ c.revision=p.revision
  pointed : ∀ d p, s.policies d=some p → p.activeCommandID≠"" →
    ∃ c∈s.commands,c.commandID=p.activeCommandID ∧ c.deviceID=d ∧ connectionCommandInFlight c=true
  effective : ∀ d p, s.policies d=some p → s.Effective d p.effectiveMode

variable {s t : Tables} {c e : Command} {d : DeviceID} {p : Policy}

theorem mem_issued : c∈s.issued d ↔ c∈s.commands ∧ c.deviceID=d := by
  unfold Tables.issued
  rw [mem_filter,decide_eq_true_eq]

theorem not_applied_of_inFlight (h : connectionCommandInFlight c=true) : c.status ≠ .applied := by
  intro he
  unfold connectionCommandInFlight at h
  simp [he] at h

namespace Consistent
variable (h : Consistent s)
include h

theorem eq_of_id (hc : c∈s.commands) (he : e∈s.commands) (hid : c.commandID=e.commandID) : c=e :=
  inj_on_of_nodup_map h.ids hc he hid

theorem findCommand_eq (hc : c∈s.commands) : s.findCommand c.commandID=some c := by
  unfold Tables.findCommand
  cases hf : s.commands.find? (fun e => e.commandID=c.commandID) with
  | none =>
    have hno:=List.find?_eq_none.mp hf c hc
    simp at hno
  | some e =>
    have hid:=List.find?_some hf
    have he:=mem_of_find?_eq_some hf
    simp only [decide_eq_true_eq] at hid
    rw [h.eq_of_id he hc hid]

theorem revision_le (hc : c∈s.issued d) : c.revision ≤ s.revision d := by
  have hmem : c.revision∈(s.issued d).map Command.revision := mem_map_of_mem hc
  rw [h.revisions d,mem_range'_1] at hmem
  omega

theorem law : Law s := by
  refine ⟨fun d => ⟨_,h.revisions d⟩,fun d => ?_,fun c hc hf => ?_,h.effective⟩
  · have hnodup : ((s.issued d).filter connectionCommandInFlight).Nodup := by
      have hall : s.commands.Nodup := List.Nodup.of_map _ h.ids
      exact (hall.filter _).filter _
    have hone : ∀ c∈(s.issued d).filter connectionCommandInFlight,
        ∀ e∈(s.issued d).filter connectionCommandInFlight, c=e := by
      intro c hc e he
      obtain ⟨hc,hcf⟩:=mem_filter.mp hc
      obtain ⟨he,hef⟩:=mem_filter.mp he
      obtain ⟨hc,hcd⟩:=mem_issued.mp hc
      obtain ⟨he,hed⟩:=mem_issued.mp he
      obtain ⟨p,hp,hpc,-⟩:=h.active c hc hcf
      obtain ⟨q,hq,hqe,-⟩:=h.active e he hef
      rw [hcd] at hp
      rw [hed,hp] at hq
      cases hq
      exact h.eq_of_id hc he (hpc.symm.trans hqe)
    cases hl : (s.issued d).filter connectionCommandInFlight with
    | nil => exact Nat.zero_le _
    | cons c rest =>
      rw [hl] at hnodup hone
      cases rest with
      | nil => exact Nat.le_refl 1
      | cons e rest =>
        have hce:=hone c mem_cons_self e (mem_cons_of_mem _ mem_cons_self)
        rw [hce] at hnodup
        simp at hnodup
  · obtain ⟨p,hp,hid,-⟩:=h.active c hc hf
    exact ⟨p,hp,hid⟩

end Consistent

variable {supersede : Option String} {previous mode : String} {f : Command → Command} {revision : ℕ}

theorem effective_congr (h : ∀ e, e.status=.applied → (e∈s.issued d ↔ e∈t.issued d))
    (hs : s.Effective d mode) : t.Effective d mode := by
  rcases hs with ⟨hmode,hnone⟩ | ⟨w,hw,hwa,hmode,hmax⟩
  · exact .inl ⟨hmode,fun e he ha => hnone e ((h e ha).mpr he) ha⟩
  · exact .inr ⟨w,(h w hwa).mp hw,hwa,hmode,fun e he ha => hmax e ((h e ha).mpr he) ha⟩

structure KeepsIdentity (f : Command → Command) : Prop where
  commandID : ∀ c, (f c).commandID=c.commandID
  deviceID : ∀ c, (f c).deviceID=c.deviceID
  revision : ∀ c, (f c).revision=c.revision
  mode : ∀ c, (f c).mode=c.mode

theorem KeepsIdentity.guarded (hf : KeepsIdentity f) (b : Command → Prop)
    [DecidablePred b] : KeepsIdentity fun c => if b c then f c else c := by
  refine ⟨fun c => ?_,fun c => ?_,fun c => ?_,fun c => ?_⟩
  · split
    · exact hf.commandID c
    · rfl
  · split
    · exact hf.deviceID c
    · rfl
  · split
    · exact hf.revision c
    · rfl
  · split
    · exact hf.mode c
    · rfl

section Map
variable {f : Command → Command} (hf : KeepsIdentity f)
include hf

theorem issued_map (s : Tables) (policies : DeviceID → Option Policy) (d : DeviceID) :
    ({s with policies := policies,commands := s.commands.map f} : Tables).issued d=(s.issued d).map f := by
  unfold Tables.issued
  rw [List.filter_map]
  simp only [Function.comp_def,hf.deviceID]

theorem map_ids (l : List Command) : (l.map f).map Command.commandID=l.map Command.commandID := by
  rw [List.map_map]
  exact map_congr_left fun c _ => hf.commandID c

theorem map_revisions (l : List Command) : (l.map f).map Command.revision=l.map Command.revision := by
  rw [List.map_map]
  exact map_congr_left fun c _ => hf.revision c

end Map

def settledPolicy (c : Command) (now : ℤ) (applied : Bool) (p : Policy) : Policy :=
  if applied then {Tables.clearActive c.commandID now p with effectiveMode := c.mode}
  else Tables.clearActive c.commandID now p

def settle (s : Tables) (c : Command) (f : Command → Command) (now : ℤ) (applied : Bool) : Tables :=
  (s.updateInFlight c.commandID f).updatePolicy c.deviceID (settledPolicy c now applied)

theorem settledPolicy_fields (c : Command) (now : ℤ) (applied : Bool) (p : Policy) :
    (settledPolicy c now applied p).revision=p.revision ∧
      (settledPolicy c now applied p).activeCommandID =
        (if p.activeCommandID=c.commandID then "" else p.activeCommandID) ∧
      (settledPolicy c now applied p).effectiveMode = if applied then c.mode else p.effectiveMode := by
  unfold settledPolicy
  cases applied <;> exact ⟨rfl,rfl,rfl⟩

theorem settle_revision (s : Tables) (c : Command) (f : Command → Command) (now : ℤ) (applied : Bool) (d : DeviceID) :
    (settle s c f now applied).revision d=s.revision d := by
  have hpolicies : (settle s c f now applied).policies d =
      if d=c.deviceID then (s.policies d).map (settledPolicy c now applied) else s.policies d := rfl
  unfold Tables.revision
  rw [hpolicies]
  by_cases hd : d=c.deviceID
  · rw [if_pos hd]
    cases s.policies d with
    | none => rfl
    | some p => exact (settledPolicy_fields c now applied p).1
  · rw [if_neg hd]

theorem Consistent.settle (h : Consistent s) (hc : c∈s.commands) (hflight : connectionCommandInFlight c=true)
    (hf : KeepsIdentity f) (now : ℤ) (applied : Bool)
    (hdone : connectionCommandInFlight (f c)=false) (happlied : (f c).status=.applied ↔ applied=true) :
    Consistent (settle s c f now applied) := by
  have hkeep:=hf.guarded fun e => e.commandID=c.commandID ∧ connectionCommandInFlight e=true
  obtain ⟨p,hp,hpid,hprev⟩:=h.active c hc hflight
  -- the write reaches this command only
  have hself : (if c.commandID=c.commandID ∧ connectionCommandInFlight c=true then f c else c)=f c :=
    if_pos ⟨rfl,hflight⟩
  have hother (e : Command) (he : e∈s.commands) (hne : e≠c) :
      (if e.commandID=c.commandID ∧ connectionCommandInFlight e=true then f e else e)=e :=
    if_neg fun hg => hne (h.eq_of_id he hc hg.1)
  have hpolicy (d : DeviceID) (q : Policy) (hq : (ConnectionMode.settle s c f now applied).policies d=some q) :
      (d=c.deviceID ∧ q=settledPolicy c now applied p) ∨ (d≠c.deviceID ∧ s.policies d=some q) := by
    unfold ConnectionMode.settle Tables.updatePolicy at hq
    dsimp only at hq
    split at hq
    · rename_i hd
      have hq' : (s.policies d).map (settledPolicy c now applied)=some q := hq
      rw [hd,hp] at hq'
      cases hq'
      exact .inl ⟨hd,rfl⟩
    · rename_i hd
      exact .inr ⟨hd,hq⟩
  have hissued (d : DeviceID) : (ConnectionMode.settle s c f now applied).issued d=(s.issued d).map fun e =>
      if e.commandID=c.commandID ∧ connectionCommandInFlight e=true then f e else e :=
    issued_map hkeep s _ d
  refine ⟨?_,?_,fun d => ?_,?_,?_,?_⟩
  · exact (map_ids hkeep s.commands).symm ▸ h.ids
  · intro e' he'
    obtain ⟨e,he,rfl⟩:=mem_map.mp he'
    rw [hkeep.commandID]
    exact h.nonempty e he
  · rw [hissued,map_revisions hkeep,h.revisions,settle_revision]
  · intro e' he' hef
    obtain ⟨e,he,rfl⟩:=mem_map.mp he'
    by_cases hec : e=c
    · subst hec
      rw [hself,hdone] at hef
      cases hef
    · rw [hother e he hec] at hef ⊢
      obtain ⟨q,hq,hqid,hqrev⟩:=h.active e he hef
      have hdevice : e.deviceID≠c.deviceID := by
        intro hd
        rw [hd,hp] at hq
        cases hq
        exact hec (h.eq_of_id he hc (hqid.symm.trans hpid))
      refine ⟨q,?_,hqid,hqrev⟩
      unfold ConnectionMode.settle Tables.updatePolicy
      dsimp only
      rw [if_neg hdevice]
      exact hq
  · intro d q hq hne
    rcases hpolicy d q hq with ⟨rfl,rfl⟩ | ⟨hd,hq'⟩
    · rw [(settledPolicy_fields c now applied p).2.1,if_pos hpid] at hne
      exact absurd rfl hne
    · obtain ⟨e,he,hid,hdev,hef⟩:=h.pointed d q hq' hne
      have hec : e≠c := by
        rintro rfl
        exact hd hdev.symm
      refine ⟨e,mem_map.mpr ⟨e,he,hother e he hec⟩,hid,hdev,hef⟩
  · intro d q hq
    rcases hpolicy d q hq with ⟨rfl,rfl⟩ | ⟨hd,hq'⟩
    · rw [(settledPolicy_fields c now applied p).2.2]
      have hcmem : c∈s.issued c.deviceID := mem_issued.mpr ⟨hc,rfl⟩
      have hrev : s.revision c.deviceID=c.revision := by
        rw [Tables.revision,hp,hprev]
        rfl
      cases applied with
      | true =>
        refine .inr ⟨f c,?_,happlied.mpr rfl,hf.mode c,fun e' he' _ => ?_⟩
        · rw [hissued]
          exact mem_map.mpr ⟨c,hcmem,hself⟩
        · rw [hissued] at he'
          obtain ⟨e,he,rfl⟩:=mem_map.mp he'
          rw [hkeep.revision,hf.revision,← hrev]
          exact h.revision_le he
      | false =>
        have hold:=h.effective _ p hp
        have hnot : (f c).status ≠ .applied := fun ha => Bool.false_ne_true (happlied.mp ha)
        refine effective_congr (fun e ha => ?_) hold
        have hec : e≠c := by
          rintro rfl
          exact not_applied_of_inFlight hflight ha
        rw [hissued]
        constructor
        · exact fun he => mem_map.mpr ⟨e,he,hother e (mem_issued.mp he).1 hec⟩
        · intro he'
          obtain ⟨e₀,he,heq⟩:=mem_map.mp he'
          by_cases hc₀ : e₀=c
          · subst hc₀
            rw [hself] at heq
            exact absurd (heq ▸ ha) hnot
          · rw [hother e₀ (mem_issued.mp he).1 hc₀] at heq
            exact heq ▸ he
    · have hsame : (ConnectionMode.settle s c f now applied).issued d=s.issued d := by
        rw [hissued]
        refine (map_congr_left fun e he => ?_).trans (map_id _)
        obtain ⟨he,hdev⟩:=mem_issued.mp he
        refine hother e he ?_
        rintro rfl
        exact hd hdev.symm
      have hold:=h.effective d q hq'
      unfold Tables.Effective at hold ⊢
      rw [hsame]
      exact hold

theorem Consistent.touch (h : Consistent s) (hf : KeepsIdentity f)
    (hflight : ∀ c, f c=c ∨ connectionCommandInFlight c=true ∧ connectionCommandInFlight (f c)=true) :
    Consistent {s with commands := s.commands.map f} := by
  have hissued (d : DeviceID) : ({s with commands := s.commands.map f} : Tables).issued d=(s.issued d).map f :=
    issued_map hf s s.policies d
  have hback (e : Command) (he : connectionCommandInFlight (f e)=true) : connectionCommandInFlight e=true := by
    rcases hflight e with heq | ⟨hin,-⟩
    · rwa [heq] at he
    · exact hin
  refine ⟨?_,?_,fun d => ?_,?_,?_,fun d p hp => effective_congr (fun e ha => ?_) (h.effective d p hp)⟩
  · exact (map_ids hf s.commands).symm ▸ h.ids
  · intro e' he'
    obtain ⟨e,he,rfl⟩:=mem_map.mp he'
    rw [hf.commandID]
    exact h.nonempty e he
  · rw [hissued,map_revisions hf]
    exact h.revisions d
  · intro e' he' hin
    obtain ⟨e,he,rfl⟩:=mem_map.mp he'
    obtain ⟨p,hp,hid,hrev⟩:=h.active e he (hback e hin)
    rw [hf.deviceID,hf.commandID,hf.revision]
    exact ⟨p,hp,hid,hrev⟩
  · intro d p hp hne
    obtain ⟨e,he,hid,hdev,hin⟩:=h.pointed d p hp hne
    refine ⟨f e,mem_map_of_mem he,(hf.commandID e).trans hid,(hf.deviceID e).trans hdev,?_⟩
    rcases hflight e with heq | ⟨-,hin'⟩
    · rwa [heq]
    · exact hin'
  · have hsame (e : Command) (ha : e.status=.applied) : f e=e :=
      (hflight e).resolve_right fun hin => not_applied_of_inFlight hin.1 ha
    rw [hissued]
    constructor
    · exact fun he => mem_map.mpr ⟨e,he,hsame e ha⟩
    · intro he'
      obtain ⟨e₀,he,heq⟩:=mem_map.mp he'
      rcases hflight e₀ with hid | ⟨-,hin⟩
      · exact (heq.symm.trans hid) ▸ he
      · rw [heq] at hin
        exact absurd ha (not_applied_of_inFlight hin)

theorem Consistent.insert (h : Consistent s) (hnew : s.takesCommand c=true) (hid : c.commandID≠"")
    (hqueued : c.status=.queued) (hrev : c.revision=s.revision c.deviceID+1)
    (hnone : ∀ e∈s.commands,e.deviceID=c.deviceID → connectionCommandInFlight e=false) (now : ℤ) :
    Consistent (s.insertCommand c now) := by
  have hfresh (e : Command) (he : e∈s.commands) : e.commandID≠c.commandID := by
    intro heq
    unfold Tables.takesCommand at hnew
    rw [Bool.not_eq_true',List.any_eq_false] at hnew
    exact hnew e he (by simp [heq])
  have hin : connectionCommandInFlight c=true := by
    unfold connectionCommandInFlight
    simp [hqueued]
  have hother (d : DeviceID) (hd : d≠c.deviceID) : (s.insertCommand c now).policies d=s.policies d := if_neg hd
  have hown : ∃ p, (s.insertCommand c now).policies c.deviceID=some p ∧ p.activeCommandID=c.commandID ∧
      p.revision=c.revision ∧ (s.policies c.deviceID=none ∧ p.effectiveMode="" ∨
        ∃ q, s.policies c.deviceID=some q ∧ p.effectiveMode=q.effectiveMode) := by
    refine ⟨_,if_pos rfl,?_⟩
    cases hq : s.policies c.deviceID with
    | none => exact ⟨rfl,rfl,.inl ⟨rfl,rfl⟩⟩
    | some q => exact ⟨rfl,rfl,.inr ⟨q,rfl,rfl⟩⟩
  obtain ⟨p,hp,hactive,hprev,heff⟩:=hown
  have hissued (d : DeviceID) : (s.insertCommand c now).issued d =
      s.issued d ++ if d=c.deviceID then [c] else [] := by
    unfold Tables.issued Tables.insertCommand
    rw [filter_append]
    by_cases hd : d=c.deviceID
    · rw [if_pos hd,filter_cons_of_pos (by simp [hd]),filter_nil]
    · rw [if_neg hd,filter_cons_of_neg (by simpa using Ne.symm hd),filter_nil]
  have hmem (e : Command) : e∈(s.insertCommand c now).commands ↔ e∈s.commands ∨ e=c := by
    show e∈s.commands++[c] ↔ _
    rw [mem_append,mem_singleton]
  refine ⟨?_,fun e he => ?_,fun d => ?_,fun e he hef => ?_,fun d q hq hne => ?_,fun d q hq => ?_⟩
  · show ((s.commands++[c]).map Command.commandID).Nodup
    rw [map_append,map_singleton,nodup_append]
    refine ⟨h.ids,nodup_singleton _,fun id hid' e he => ?_⟩
    obtain ⟨e',he',rfl⟩:=mem_map.mp hid'
    rw [mem_singleton.mp he]
    exact hfresh e' he'
  · rcases (hmem e).mp he with he | rfl
    · exact h.nonempty e he
    · exact hid
  · rw [hissued,map_append,h.revisions]
    by_cases hd : d=c.deviceID
    · subst hd
      have hnext : (s.insertCommand c now).revision c.deviceID=s.revision c.deviceID+1 := by
        rw [Tables.revision,hp,← hrev]
        exact hprev
      rw [hnext,if_pos rfl,map_singleton,hrev,range'_concat]
      have hlast : 1+1*s.revision c.deviceID=s.revision c.deviceID+1 := by omega
      rw [hlast]
    · have hsame : (s.insertCommand c now).revision d=s.revision d := by
        rw [Tables.revision,hother d hd]
        rfl
      rw [if_neg hd,map_nil,append_nil,hsame]
  · rcases (hmem e).mp he with he | rfl
    · have hd : e.deviceID≠c.deviceID := fun hd => by
        rw [hnone e he hd] at hef
        cases hef
      obtain ⟨q,hq,hqid,hqrev⟩:=h.active e he hef
      exact ⟨q,(hother _ hd).trans hq,hqid,hqrev⟩
    · exact ⟨p,hp,hactive,hprev.symm⟩
  · by_cases hd : d=c.deviceID
    · subst hd
      rw [hp] at hq
      cases hq
      exact ⟨c,(hmem c).mpr (.inr rfl),hactive.symm,rfl,hin⟩
    · rw [hother d hd] at hq
      obtain ⟨e,he,heid,hdev,hef⟩:=h.pointed d q hq hne
      exact ⟨e,(hmem e).mpr (.inl he),heid,hdev,hef⟩
  · have happlied (e : Command) (ha : e.status=.applied) :
        e∈s.issued d ↔ e∈(s.insertCommand c now).issued d := by
      have hec : e≠c := by
        rintro rfl
        exact not_applied_of_inFlight hin ha
      rw [mem_issued,mem_issued,hmem,or_iff_left hec]
    by_cases hd : d=c.deviceID
    · subst hd
      rw [hp] at hq
      cases hq
      rcases heff with ⟨hno,hmode⟩ | ⟨q,hq,hmode⟩
      · have hempty : s.issued c.deviceID=[] := by
          have hrevs:=h.revisions c.deviceID
          rw [Tables.revision,hno] at hrevs
          exact map_eq_nil_iff.mp hrevs
        refine effective_congr happlied (.inl ⟨hmode,fun e he => ?_⟩)
        rw [hempty] at he
        cases he
      · rw [hmode]
        exact effective_congr happlied (h.effective _ q hq)
    · rw [hother d hd] at hq
      exact effective_congr happlied (h.effective d q hq)

theorem Consistent.activeCommand (h : Consistent s) (hc : s.activeCommand (s.policies d)=some c) :
    c∈s.commands ∧ c.deviceID=d ∧ connectionCommandInFlight c=true := by
  unfold Tables.activeCommand at hc
  obtain ⟨p,hp,hfind⟩:=bind_eq_some_iff.mp hc
  split at hfind
  · cases hfind
  · rename_i hne
    obtain ⟨e,he,hid,hdev,hin⟩:=h.pointed d p hp hne
    rw [← hid,h.findCommand_eq he] at hfind
    cases hfind
    exact ⟨he,hdev,hin⟩

theorem Consistent.activeCommand_none (h : Consistent s) (hc : s.activeCommand (s.policies d)=none) :
    ∀ e∈s.commands,e.deviceID=d → connectionCommandInFlight e=false := by
  intro e he hdev
  by_contra hin
  obtain ⟨p,hp,hid,-⟩:=h.active e he (by simpa using hin)
  rw [hdev] at hp
  have hfound : s.activeCommand (s.policies d)=some e := by
    unfold Tables.activeCommand
    rw [hp,bind_some,if_neg (hid ▸ h.nonempty e he),hid]
    exact h.findCommand_eq he
  rw [hc] at hfound
  cases hfound

theorem keepsIdentity_status (status : Status) (rejection : Command → String) (now : ℤ) :
    KeepsIdentity fun c => {c with status := status,rejectionCode := rejection c,acknowledgedAt := some now} :=
  ⟨fun _ => rfl,fun _ => rfl,fun _ => rfl,fun _ => rfl⟩

theorem expire_eq_settle (s : Tables) (c : Command) (now : ℤ) : s.expireConnectionCommand c.deviceID c now =
    settle s c (fun c => {c with status := .expired,acknowledgedAt := some now}) now false := rfl

theorem inFlight_of_expired {now : ℤ} (h : connectionCommandExpired c now=true) :
    connectionCommandInFlight c=true := (Bool.and_eq_true_iff.mp h).1

theorem Consistent.expire (h : Consistent s) {now : ℤ} (hc : s.activeCommand (s.policies d)=some c)
    (hexp : connectionCommandExpired c now=true) : Consistent (s.expireConnectionCommand d c now) := by
  obtain ⟨hmem,rfl,-⟩:=h.activeCommand hc
  rw [expire_eq_settle]
  refine h.settle hmem (inFlight_of_expired hexp) (keepsIdentity_status .expired Command.rejectionCode now) now false
    rfl ⟨fun ha => ?_,fun ha => ?_⟩
  · cases ha
  · cases ha

theorem Consistent.expireActive (h : Consistent s) (d : DeviceID) (now : ℤ) : Consistent (expireActive s d now) := by
  unfold ConnectionMode.expireActive
  split
  · rename_i c hc
    split
    · rename_i hexp
      exact h.expire hc hexp
    · exact h
  · exact h

theorem insert_supersede (s : Tables) (a c : Command) (now : ℤ) (hdev : a.deviceID=c.deviceID) :
    (s.supersedeConnectionCommand a.commandID now).insertCommand c now =
      (settle s a (fun c => {c with
        status := .rejected,rejectionCode := connectionRejectionSuperseded,acknowledgedAt := some now})
        now false).insertCommand c now := by
  unfold Tables.insertCommand
  refine congrArg (fun policies => (⟨s.peers,policies,_⟩ : Tables)) (funext fun d => ?_)
  split
  · rename_i hd
    have hpolicy : (settle s a (fun c => {c with
        status := .rejected,rejectionCode := connectionRejectionSuperseded,acknowledgedAt := some now})
        now false).policies d=(s.policies d).map (settledPolicy a now false) := if_pos (hd.trans hdev.symm)
    have hkept : (s.supersedeConnectionCommand a.commandID now).policies d=s.policies d := rfl
    rw [hpolicy,hkept]
    cases s.policies d with
    | none => rfl
    | some p => rfl
  · rename_i hd
    exact (if_neg fun he => hd (he.trans hdev)).symm

theorem plan_create {policy : Option Policy} {active applied : Option Command}
    (h : planConnectionModeIssue policy active applied mode = .create revision previous supersede) :
    revision=revisionBase policy+1 ∧ ((active.filter connectionCommandInFlight=none ∧ supersede=none) ∨
        ∃ a, active=some a ∧ supersede=some a.commandID) := by
  unfold planConnectionModeIssue at h
  dsimp only at h
  split at h
  · rename_i a ha
    split at h
    · cases h
    · cases h
      exact ⟨rfl,.inr ⟨a,(filter_eq_some_iff.mp ha).1,rfl⟩⟩
  · rename_i hnone
    split at h
    · cases h
    · cases h
      exact ⟨rfl,.inl ⟨hnone,rfl⟩⟩

theorem createCommand_some {issue : Issue} {prepared : Prepared} {newID : NewID} {deviceUUID : String}
        (h : createCommand s issue prepared newID deviceUUID revision previous supersede=some (c,t)) :
    c.commandID≠"" ∧ c.deviceID=issue.deviceID ∧ c.status=.queued ∧ c.revision=revision ∧
      (superseded s supersede prepared.now).takesCommand c=true ∧
        t=(superseded s supersede prepared.now).insertCommand c prepared.now := by
  unfold createCommand at h
  dsimp only at h
  split at h
  · rename_i htakes
    cases h
    exact ⟨newID.property,rfl,rfl,rfl,htakes,rfl⟩
  · cases h

theorem Consistent.create (h : Consistent s) {issue : Issue} {prepared : Prepared} {newID : NewID}
    {deviceUUID : String} {applied : Option Command}
    (hplan : planConnectionModeIssue (s.policies issue.deviceID) (s.activeCommand (s.policies issue.deviceID)) applied
      mode=.create revision previous supersede)
    (hcreate : createCommand s issue prepared newID deviceUUID revision previous supersede=some (c,t)) :
    Consistent t := by
  obtain ⟨hrev,hactive⟩:=plan_create hplan
  obtain ⟨hid,hdev,hqueued,hcrev,htakes,rfl⟩:=createCommand_some hcreate
  have hnext : c.revision=s.revision c.deviceID+1 := by
    rw [hcrev,hdev]
    exact hrev
  rcases hactive with ⟨hnone,rfl⟩ | ⟨a,ha,rfl⟩
  · refine h.insert htakes hid hqueued hnext ?_ prepared.now
    rw [hdev]
    cases hact : s.activeCommand (s.policies issue.deviceID) with
    | none => exact h.activeCommand_none hact
    | some a =>
      rw [hact,filter_some,(h.activeCommand hact).2.2] at hnone
      cases hnone
  · obtain ⟨hmem,hadev,hain⟩:=h.activeCommand ha
    have hsettled:=h.settle hmem hain (keepsIdentity_status .rejected (fun _ => connectionRejectionSuperseded)
      prepared.now) prepared.now false rfl ⟨fun he => (by cases he),fun he => (by cases he)⟩
    refine (insert_supersede s a c prepared.now (hadev.trans hdev.symm)).symm ▸ ?_
    refine hsettled.insert htakes hid hqueued ?_ ?_ prepared.now
    · rw [settle_revision]
      exact hnext
    · intro e he hedev
      by_contra hin
      obtain ⟨p,hp,hpid,-⟩:=hsettled.active e he (by simpa using hin)
      obtain ⟨q,hq,hqid,-⟩:=h.active a hmem hain
      have hpolicy : (ConnectionMode.settle s a (fun c => {c with
          status := .rejected,rejectionCode := connectionRejectionSuperseded,acknowledgedAt := some prepared.now})
          prepared.now false).policies e.deviceID=(s.policies a.deviceID).map (settledPolicy a prepared.now false) := by
        rw [hedev,hdev,← hadev]
        exact if_pos rfl
      rw [hpolicy,hq] at hp
      cases hp
      rw [(settledPolicy_fields a prepared.now false q).2.1,if_pos hqid] at hpid
      exact hsettled.nonempty e he hpid.symm

theorem Consistent.issue (h : Consistent s) (issue : Issue) (newID : NewID) :
    Consistent (issueConnectionMode s issue newID).2 := by
  unfold issueConnectionMode
  split
  · exact h
  · rename_i prepared _
    split
    · exact h
    · have hexpired:=h.expireActive issue.deviceID prepared.now
      dsimp only
      split
      · exact hexpired
      · exact hexpired
      · rename_i hplan
        split
        · rename_i hcreate
          exact hexpired.create hplan hcreate
        · exact h

theorem Consistent.deliverable (h : Consistent s) (d : DeviceID) (now : ℤ) :
    Consistent (deliverableConnectionModeCommand s d now).2 := by
  unfold deliverableConnectionModeCommand
  split
  · exact h
  · rename_i c hc
    split
    · rename_i hexp
      exact h.expire hc hexp
    · exact h

theorem Consistent.markDelivered (h : Consistent s) (id : String) (now : ℤ) :
    Consistent (markConnectionModeDelivered s id now) := by
  unfold markConnectionModeDelivered
  have hf : KeepsIdentity fun c => {c with
      status := .delivered,deliveredAt := if c.status=.queued then some now else c.deliveredAt} :=
    ⟨fun _ => rfl,fun _ => rfl,fun _ => rfl,fun _ => rfl⟩
  refine h.touch (hf.guarded _) fun c => ?_
  split
  · rename_i hc
    exact .inr ⟨hc.2.1,rfl⟩
  · exact .inl rfl

theorem ackStatus_terminal {ack : Ack} {status : Status} {rejection : String}
    (h : ackStatus ack c=some (status,rejection)) : status=.applied ∨ status=.rejected ∨ status=.expired := by
  unfold ackStatus at h
  dsimp only at h
  split at h
  · split at h
    · cases h
      exact .inr (.inl rfl)
    · cases h
      exact .inl rfl
  · split at h
    · cases h
      exact .inr (.inl rfl)
    · split at h
      · cases h
        exact .inr (.inr rfl)
      · cases h

theorem acknowledge_cases (s : Tables) (ack : Ack) : (acknowledgeConnectionMode s ack).2=s ∨
    ∃ c status rejection, s.findCommand ack.commandID=some c ∧ connectionCommandInFlight c=true ∧
      ackStatus ack c=some (status,rejection) ∧ (acknowledgeConnectionMode s ack).2 =
        settle s c (fun c => {c with status := status,rejectionCode := rejection,acknowledgedAt := some ack.now})
          ack.now (decide (status=.applied)) := by
  unfold acknowledgeConnectionMode
  split
  · exact .inl rfl
  · split
    · exact .inl rfl
    · rename_i c hfind
      split
      · exact .inl rfl
      · rename_i hflight
        rw [not_or] at hflight
        split
        · exact .inl rfl
        · rename_i status rejection hstatus
          refine .inr ⟨c,status,rejection,(filter_eq_some_iff.mp hfind).1,by simpa using hflight.1,hstatus,?_⟩
          unfold settle
          refine congrArg (Tables.updatePolicy _ _) (funext fun p => ?_)
          unfold settledPolicy
          cases status <;> rfl

theorem Consistent.acknowledge (h : Consistent s) (ack : Ack) : Consistent (acknowledgeConnectionMode s ack).2 := by
  rcases acknowledge_cases s ack with heq | ⟨c,status,rejection,hfind,hin,hstatus,heq⟩
  · rw [heq]
    exact h
  · rw [heq]
    refine h.settle (mem_of_find?_eq_some hfind) hin (keepsIdentity_status status (fun _ => rejection) ack.now)
      ack.now _ ?_ decide_eq_true_iff.symm
    rcases ackStatus_terminal hstatus with rfl | rfl | rfl <;> rfl

theorem Consistent.step (h : Consistent s) (a : Action) : Consistent (step s a) := by
  cases a with
  | issue issue newID => exact h.issue issue newID
  | deliverable d now => exact h.deliverable d now
  | markDelivered id now => exact h.markDelivered id now
  | acknowledge ack => exact h.acknowledge ack
  | peers peers => exact ⟨h.ids,h.nonempty,h.revisions,h.active,h.pointed,h.effective⟩

theorem consistent_initial (peers : DeviceID → Option PeerRow) : Consistent (initial peers) := by
  refine ⟨nodup_nil,?_,fun d => rfl,?_,?_,?_⟩
  · exact fun c hc => absurd hc not_mem_nil
  · exact fun c hc => absurd hc not_mem_nil
  · exact fun d p hp => nomatch hp
  · exact fun d p hp => nomatch hp

theorem Consistent.run (h : Consistent s) (as : List Action) : Consistent (run s as) := by
  induction as generalizing s with
  | nil => exact h
  | cons a as ih => exact ih (h.step a)

theorem terminal_updateInFlight (s : Tables) (id : String) (f : Command → Command) :
    TerminalKept s (s.updateInFlight id f) := by
  intro c hc hdone
  refine mem_map.mpr ⟨c,hc,if_neg fun hg => ?_⟩
  rw [hdone] at hg
  exact Bool.false_ne_true hg.2

theorem TerminalKept.of_eq (h : s.commands=t.commands) : TerminalKept s t := fun _ hc _ => h ▸ hc

theorem TerminalKept.trans {u : Tables} (h : TerminalKept s t) (h' : TerminalKept t u) : TerminalKept s u :=
  fun c hc hdone => h' c (h c hc hdone) hdone

theorem terminal_expireActive (s : Tables) (d : DeviceID) (now : ℤ) : TerminalKept s (expireActive s d now) := by
  unfold expireActive
  split
  · split
    · exact terminal_updateInFlight s _ _
    · exact .of_eq rfl
  · exact .of_eq rfl

theorem terminal_issue (s : Tables) (issue : Issue) (newID : NewID) :
    TerminalKept s (issueConnectionMode s issue newID).2 := by
  unfold issueConnectionMode
  split
  · exact .of_eq rfl
  · rename_i prepared _
    split
    · exact .of_eq rfl
    · have hexpired:=terminal_expireActive s issue.deviceID prepared.now
      dsimp only
      split
      · exact hexpired
      · exact hexpired
      · split
        · rename_i hcreate
          obtain ⟨-,-,-,-,-,rfl⟩:=createCommand_some hcreate
          refine hexpired.trans (fun c hc hdone => mem_append_left _ ?_)
          unfold superseded
          split
          · exact terminal_updateInFlight _ _ _ c hc hdone
          · exact hc
        · exact .of_eq rfl

theorem terminal_step (s : Tables) (a : Action) : TerminalKept s (step s a) := by
  cases a with
  | issue issue newID => exact terminal_issue s issue newID
  | deliverable d now =>
    unfold step deliverableConnectionModeCommand
    dsimp only
    split
    · exact .of_eq rfl
    · split
      · exact terminal_updateInFlight s _ _
      · exact .of_eq rfl
  | markDelivered id now =>
    intro c hc hdone
    refine mem_map.mpr ⟨c,hc,if_neg fun hg => ?_⟩
    rw [hdone] at hg
    exact Bool.false_ne_true hg.2.1
  | acknowledge ack =>
    unfold step
    dsimp only
    rcases acknowledge_cases s ack with heq | ⟨c,status,rejection,-,-,-,heq⟩
    · rw [heq]
      exact .of_eq rfl
    · rw [heq]
      exact terminal_updateInFlight s _ _
  | peers peers => exact .of_eq rfl

theorem terminal_run (s : Tables) (as : List Action) : TerminalKept s (run s as) := by
  induction as generalizing s with
  | nil => exact .of_eq rfl
  | cons a as ih => exact (terminal_step s a).trans (ih (step s a))

/-- In every state that a rollout reaches; and what is at its end stays so. -/
theorem connection_mode_rollout (peers : DeviceID → Option PeerRow) (as bs : List Action) :
    Law (run (initial peers) as) ∧ TerminalKept (run (initial peers) as) (run (initial peers) (as++bs)) := by
  refine ⟨((consistent_initial peers).run as).law,?_⟩
  have hrun : run (initial peers) (as++bs)=run (run (initial peers) as) bs := foldl_append
  rw [hrun]
  exact terminal_run _ bs

end BetterDesk.Device.ConnectionMode
