import BetterDesk.Panel.RestartCoordinator

/-! # Rollbacks over runs of the coordinator -/

namespace BetterDesk.Panel
open Exec List

def Covers (file : Option Transaction) (r : Registered) : Prop :=
  ∃ t, file=some t ∧ t.id=r.id ∧ ∃ c∈t.changes,c.key=r.key ∧ c.rollback=r.rollback

def Covered (w : World) : Prop :=
  ∀ r∈w.registered,r.id∈w.completed ∨ Covers w.file r ∨ (r.id,r.key)∈w.rolledBack

/-- One move of a transaction; a cancel whose rollback fails is the end of a pending one. -/
def Phase.next : Phase → Phase → Bool
  | .pending, .restarting => true
  | .restarting, .ready => true
  | .restarting, .failed => true
  | .failed, .restarting => true
  | .pending, .failed => true
  | _, _ => false

/-- What the file may become: a transaction begins as pending, keeps its phase or moves on, and
is removed in any phase but while it restarts. -/
def Moves : Option Transaction → Option Transaction → Prop
  | none, none => True
  | none, some u => u.phase=.pending
  | some t, none => t.phase ≠ .restarting
  | some t, some u => u.id=t.id ∧ (u.phase=t.phase ∨ t.phase.next u.phase=true)

def Respects (prev : Option Transaction) (w : Write) : Prop :=
  ∀ t, prev=some t → t.userId≠w.operator → w.content=prev

def Lawful : List Write → Prop
  | [] => True
  | w::earlier => Respects (contentOf earlier) w ∧ Moves (contentOf earlier) w.content ∧ Lawful earlier

structure Intact (w : World) : Prop where
  covered : Covered w
  lawful : Lawful w.writes

def Job.state : Job → Transaction
  | .rolling _ t _ _ => t
  | .probing t => t

def Job.last : Job → Bool
  | .rolling _ _ [_] _ => true
  | _ => false

/-- The operator's failed transaction can go, with each of its changes rolled back. -/
def Discards (w : World) (user : Option String) (ok : Bool) : Prop :=
  ∀ t∈w.file,t.phase=.failed → some t.userId=user → ok=true → ∀ c∈t.changes,(t.id,c.key)∈w.rolledBack

instance (w : World) (user : Option String) (ok : Bool) : Decidable (Discards w user ok) :=
  inferInstanceAs (Decidable (∀ t∈w.file,_ → _ → _ → ∀ c∈t.changes,(t.id,c.key)∈w.rolledBack))

/-- A change is registered into a pending transaction, that can be read, or into none. -/
def Careful (w : World) : Call → Prop
  | .register user _ reads writes => ∀ u∈user,u≠"" → writes=true →
      ∀ t∈w.file,reads=true ∧ t.phase=.pending
  | .dismiss user _ ok => Discards w user ok
  | .complete user id ok => w.file.any (fun t => t.id=id) → Discards w user ok
  | .advance k _ _ _ => ∀ job∈w.jobs[k]?, job.last=true → w.file=some job.state
  | .answer k running _ => ∀ job∈w.jobs[k]?, running=true →
      w.file=some job.state ∨ w.file=some {job.state with phase := .ready}
  | _ => True

instance (w : World) : (call : Call) → Decidable (Careful w call)
  | .register user _ reads writes => inferInstanceAs (Decidable (∀ u∈user,u≠"" → writes=true →
      ∀ t∈w.file,reads=true ∧ t.phase=.pending))
  | .dismiss user _ ok => inferInstanceAs (Decidable (Discards w user ok))
  | .complete user id ok => inferInstanceAs (Decidable (w.file.any (fun t => t.id=id) → Discards w user ok))
  | .advance k _ _ _ => inferInstanceAs (Decidable (∀ job∈w.jobs[k]?, job.last=true → w.file=some job.state))
  | .answer k running _ => inferInstanceAs (Decidable (∀ job∈w.jobs[k]?, running=true →
      w.file=some job.state ∨ w.file=some {job.state with phase := .ready}))
  | .cancel _ _ _ => inferInstanceAs (Decidable True)
  | .confirm _ _ _ _ _ _ => inferInstanceAs (Decidable True)
  | .status _ _ => inferInstanceAs (Decidable True)
  | .reboot => inferInstanceAs (Decidable True)

def Rolling.phase : Rolling → Phase
  | .cancel => .pending
  | .confirm => .restarting

def Working (rolledBack : List (ℕ × String)) : Job → Prop
  | .rolling call t todo failures => t.phase=call.phase ∧
    ∀ c∈t.changes,c∈todo ∨ (∃ e, (c.key,e)∈failures) ∨ (t.id,c.key)∈rolledBack
  | .probing t => t.phase=.restarting

structure Kept (w : World) : Prop extends Intact w where
  working : ∀ job∈w.jobs,Working w.rolledBack job

theorem kept_start : Kept World.start where
  covered _ hr := absurd hr not_mem_nil
  lawful := trivial
  working _ hjob := absurd hjob not_mem_nil

theorem Covers.of_same {t u : Transaction} {r : Registered} (h : Covers (some t) r) (hid : u.id=t.id)
    (hchanges : ∀ c∈t.changes, ∃ c'∈u.changes,c'.key=c.key ∧ c'.rollback=c.rollback) : Covers (some u) r := by
  obtain ⟨t',ht,hr,c,hc,hkey,hrollback⟩:=h
  cases ht
  obtain ⟨c',hc',hkey',hrollback'⟩:=hchanges c hc
  exact ⟨u,rfl,hid.trans hr,c',hc',hkey'.trans hkey,hrollback'.trans hrollback⟩

section Write
variable {w : World} {operator : String} {content : Option Transaction} {ok : Bool}

theorem Kept.write (h : Kept w) (hown : ∀ t, w.file=some t → t.userId=operator) (hmoves : Moves w.file content)
    (hcovers : ∀ r, Covers w.file r → Covers content r ∨ r.id∈w.completed ∨ (r.id,r.key)∈w.rolledBack) :
    Kept (w.write operator content ok) := by
  unfold World.write
  split
  · constructor
    · constructor
      · intro r hr
        rcases h.covered r hr with hdone | hfile | hback
        · exact .inl hdone
        · rcases hcovers r hfile with hkept | hdone | hback
          · exact .inr (.inl hkept)
          · exact .inl hdone
          · exact .inr (.inr hback)
        · exact .inr (.inr hback)
      · exact ⟨fun t ht hne => absurd (hown t ht) hne,hmoves,h.lawful⟩
    · exact h.working
  · exact h

theorem Kept.rewrite {t u : Transaction} (h : Kept w) (hfile : w.file=some t) (hid : u.id=t.id)
    (hchanges : u.changes=t.changes) (hphase : u.phase=t.phase ∨ t.phase.next u.phase=true) :
    Kept (w.write t.userId (some u) ok) := by
  refine h.write (fun t' ht' => ?_) ?_ fun r hr => ?_
  · rw [hfile] at ht'
    cases ht'
    rfl
  · rw [hfile]
    exact ⟨hid,hphase⟩
  · rw [hfile] at hr
    exact .inl (hr.of_same hid fun c hc => ⟨c,hchanges ▸ hc,rfl,rfl⟩)

theorem Kept.remove {t : Transaction} (h : Kept w) (hfile : w.file=some t) (hphase : t.phase ≠ .restarting)
    (hdone : t.id∈w.completed ∨ ∀ c∈t.changes,(t.id,c.key)∈w.rolledBack) : Kept (w.write t.userId none ok) := by
  refine h.write (fun t' ht' => ?_) ?_ fun r hr => ?_
  · rw [hfile] at ht'
    cases ht'
    rfl
  · rw [hfile]
    exact hphase
  · obtain ⟨t',ht',hid,c,hc,hkey,-⟩:=hr
    rw [hfile] at ht'
    cases ht'
    rcases hdone with hcompleted | hback
    · exact .inr (.inl (hid ▸ hcompleted))
    · exact .inr (.inr (hid ▸ hkey ▸ hback c hc))

end Write

theorem getRawForOperator_eq_some {w : World} {user : Option String} {id : ℕ} {t : Transaction}
    (h : w.getRawForOperator user id=some t) : w.file=some t ∧ t.id=id ∧ some t.userId=user := by
  obtain ⟨hfile,hmatch⟩:=Option.filter_eq_some_iff.mp h
  simp only [Bool.and_eq_true,decide_eq_true_eq] at hmatch
  exact ⟨hfile,hmatch⟩

section Calls
variable {w : World}

variable {rolledBack : List (ℕ × String)} {retry : String × Bool} {t : Transaction} {ok : Bool} {change : Change}
  {call : Rolling} {w' : World}

theorem addChange_eq_some {u : Transaction} (h : t.addChange change=some u) : u.id=t.id ∧ u.phase=t.phase ∧
    (∀ c∈t.changes, ∃ c'∈u.changes,c'.key=c.key ∧ c'.rollback=c.rollback) ∧
    ((t.changes.any fun c => c.key=change.key)=false →
      ∃ c∈u.changes,c.key=change.key ∧ c.rollback=change.rollback) := by
  unfold Transaction.addChange at h
  dsimp only at h
  split at h
  · rename_i hknown
    cases h
    refine ⟨rfl,rfl,fun c hc => ⟨_,mem_map_of_mem hc,?_,?_⟩,fun hnew => ?_⟩
    · split <;> rfl
    · split <;> rfl
    · rw [hnew] at hknown
      cases hknown
  · split at h
    · cases h
    · cases h
      refine ⟨rfl,rfl,fun c hc => ⟨c,mem_append_left _ hc,rfl,rfl⟩,fun _ => ?_⟩
      exact ⟨_,mem_append_right _ mem_cons_self,rfl,rfl⟩

theorem Kept.add (h : Kept w) {new : List Registered} (hnew : ∀ r∈new,Covers w.file r) (supply : ℕ) :
    Kept {w with
      supply := supply
      registered := new++w.registered} := by
  refine ⟨⟨fun r hr => ?_,h.lawful⟩,h.working⟩
  rcases mem_append.mp hr with hr | hr
  · exact .inr (.inl (hnew r hr))
  · exact h.covered r hr

theorem Kept.registerChange (h : Kept w) {user : Option String} {reads writes : Bool}
    (hcareful : Careful w (.register user change reads writes)) : Kept (w.registerChange user change reads writes) := by
  unfold World.registerChange
  split
  · exact h
  rename_i userId
  split
  · exact h
  rename_i hnamed
  cases writes with
  | false =>
    dsimp only
    split
    · exact h
    · exact h.add (fun r hr => absurd hr not_mem_nil) _
  | true =>
    cases hfile : w.file with
    | none =>
      have hstate : (if reads then (none : Option Transaction) else none).filter (fun t => t.phase=.pending)=none := by
        cases reads <;> rfl
      rw [hstate]
      dsimp only
      split
      · exact h
      · rename_i u hadded
        obtain ⟨hid,hphase,-,hnew⟩:=addChange_eq_some hadded
        have hkept : Kept (w.write userId (some u) true) := by
          refine h.write (fun t ht => ?_) ?_ fun r hr => ?_
          · rw [hfile] at ht
            cases ht
          · rw [hfile]
            exact hphase
          · obtain ⟨t,ht,-⟩:=hr
            rw [hfile] at ht
            cases ht
        refine hkept.add (fun r hr => ?_) _
        obtain rfl:=mem_singleton.mp hr
        exact ⟨u,rfl,rfl,hnew rfl⟩
    | some t =>
      obtain ⟨rfl,hpending⟩:=hcareful userId rfl hnamed rfl t hfile
      have hstate : (some t).filter (fun t => t.phase=.pending)=some t := by simp [hpending]
      rw [if_pos rfl,hstate]
      dsimp only
      split
      · exact h
      · rename_i u hadded
        split at hadded
        · cases hadded
        · rename_i howner
          obtain ⟨hid,hphase,hkeep,hnew⟩:=addChange_eq_some hadded
          rw [not_not] at howner
          have hkept : Kept (w.write userId (some u) true) := by
            refine h.write (fun t' ht' => ?_) ?_ fun r hr => ?_
            · rw [hfile] at ht'
              cases ht'
              exact howner
            · rw [hfile]
              exact ⟨hid,.inl hphase⟩
            · rw [hfile] at hr
              exact .inl (hr.of_same hid hkeep)
          refine hkept.add (fun r hr => ?_) _
          split at hr
          · rename_i hisNew
            obtain rfl:=mem_singleton.mp hr
            refine ⟨u,rfl,rfl,hnew ?_⟩
            simpa using hisNew
          · cases hr

theorem Kept.more (h : Kept w) {jobs : List Job}
    (hback : ∀ x∈w.rolledBack,x∈rolledBack) (hjobs : ∀ job∈jobs,Working rolledBack job) :
    Kept {w with
      jobs := jobs
      rolledBack := rolledBack} := by
  refine ⟨⟨fun r hr => ?_,h.lawful⟩,hjobs⟩
  rcases h.covered r hr with hdone | hfile | hrolled
  · exact .inl hdone
  · exact .inr (.inl hfile)
  · exact .inr (.inr (hback _ hrolled))

theorem Kept.finish {failures : List (String × String)}
    (h : Kept w) (hfile : w.file=some t) (hphase : t.phase=call.phase)
    (hdone : ∀ c∈t.changes,(∃ e, (c.key,e)∈failures) ∨ (t.id,c.key)∈w.rolledBack) :
    Kept (w.finish call t failures ok retry) := by
  unfold World.finish
  cases call with
  | cancel =>
    have hpending : t.phase=.pending := hphase
    dsimp only
    split
    · rename_i hnone
      subst hnone
      refine h.remove hfile (by simp [hpending]) (.inr fun c hc => ?_)
      rcases hdone c hc with ⟨e,he⟩ | hback
      · exact absurd he not_mem_nil
      · exact hback
    · exact h.rewrite hfile rfl rfl (.inr (by rw [hpending]; rfl))
  | confirm =>
    have hrestarting : t.phase=.restarting := hphase
    dsimp only
    split
    · exact h.rewrite hfile rfl rfl (.inr (by rw [hrestarting]; rfl))
    · exact h.rewrite hfile rfl rfl (.inr (by rw [hrestarting]; rfl))

theorem Kept.rollBack (h : Kept w)
    (hfile : w.file=some t) (hphase : t.phase=call.phase) : Kept (w.rollBack call t ok retry) := by
  unfold World.rollBack
  split
  · rename_i hnone
    exact h.finish hfile hphase fun c hc => absurd (hnone ▸ hc) not_mem_nil
  · refine h.more (fun _ hx => hx) fun job hjob => ?_
    rcases mem_append.mp hjob with hjob | hjob
    · exact h.working job hjob
    · rw [mem_singleton.mp hjob]
      exact ⟨hphase,fun c hc => .inl (mem_reverse.mpr hc)⟩

theorem Kept.cancel (h : Kept w) (user : Option String) (id : ℕ) (ok : Bool) : Kept (w.cancel user id ok) := by
  unfold World.cancel
  split
  · exact h
  · rename_i t ht
    split
    · rename_i hpending
      exact h.rollBack (getRawForOperator_eq_some ht).1 hpending
    · exact h

theorem Kept.confirm (h : Kept w) (user : Option String) (id : ℕ) (restart : RestartOutcome)
    (first second third : Bool) : Kept (w.confirm user id restart first second third) := by
  unfold World.confirm
  split
  · exact h
  rename_i t ht
  split
  · rename_i hphase
    have hsupply : Kept {w with supply := w.supply+1} := ⟨⟨h.covered,h.lawful⟩,h.working⟩
    have hfile : World.file {w with supply := w.supply+1}=some t := (getRawForOperator_eq_some ht).1
    dsimp only
    split
    · have hmove : t.phase.next .restarting=true := by
        rcases hphase with hphase | hphase <;> rw [hphase] <;> rfl
      -- the transaction as it is being restarted
      have hbegun : Kept (World.write {w with supply := w.supply+1} t.userId
          (some (t.restartedAt w.boot w.supply)) true) := hsupply.rewrite hfile rfl rfl (.inr hmove)
      have hfailed (ok : Bool) (message : String) : Kept ((World.write {w with supply := w.supply+1} t.userId
          (some (t.restartedAt w.boot w.supply)) true).write t.userId
            (some ((t.restartedAt w.boot w.supply).failedWith message)) ok) :=
        hbegun.rewrite (t := t.restartedAt w.boot w.supply) rfl rfl rfl (.inr rfl)
      split
      · exact hfailed _ _
      · split
        · exact hbegun.rollBack rfl rfl
        split
        · exact hbegun.rewrite (t := t.restartedAt w.boot w.supply) rfl rfl rfl (.inl rfl)
        · exact hfailed _ _
    · exact hsupply
  · exact h

theorem Kept.getPublicStatus (h : Kept w) (id token : ℕ) : Kept (w.getPublicStatus id token) := by
  unfold World.getPublicStatus
  split
  · exact h
  rename_i t ht
  split
  · rename_i hrestarting
    refine h.more (fun _ hx => hx) fun job hjob => ?_
    rcases mem_append.mp hjob with hjob | hjob
    · exact h.working job hjob
    · rw [mem_singleton.mp hjob]
      exact hrestarting.1
  · exact h

theorem Kept.complete (h : Kept w) {user : Option String} {id : ℕ}
    (hcareful : Careful w (.complete user id ok)) : Kept (w.complete user id ok) := by
  unfold World.complete
  split
  · exact h
  rename_i t ht
  obtain ⟨hfile,hid,howner⟩:=getRawForOperator_eq_some ht
  split
  · rename_i hphase
    cases ok with
    | false => exact ⟨⟨h.covered,h.lawful⟩,h.working⟩
    | true =>
      rcases hphase with hready | hfailed
      · have hdone : Kept {w with completed := t.id::w.completed} := by
          refine ⟨⟨fun r hr => ?_,h.lawful⟩,h.working⟩
          exact (h.covered r hr).imp_left (mem_cons_of_mem _)
        have hremoved : Kept (World.write {w with completed := t.id::w.completed} t.userId none true) :=
          hdone.remove hfile (by simp [hready]) (.inl mem_cons_self)
        rw [if_pos ⟨rfl,hready⟩]
        exact hremoved
      · rw [if_neg (by simp [hfailed])]
        have hback:=hcareful (by simp [hfile,hid]) t hfile hfailed howner rfl
        have hremoved : Kept (w.write t.userId none true) :=
          h.remove hfile (by simp [hfailed]) (.inr hback)
        exact hremoved
  · exact h

theorem Kept.dismissFailed (h : Kept w) {user : Option String} {key : String}
    (hcareful : Careful w (.dismiss user key ok)) : Kept (w.dismissFailed user key ok) := by
  unfold World.dismissFailed
  split
  · exact h
  rename_i t hfile
  split
  · rename_i hmatch
    obtain ⟨hfailed,howner,-⟩:=hmatch
    cases ok with
    | false => exact h
    | true =>
      exact h.remove hfile (by simp [hfailed]) (.inr (hcareful t hfile hfailed howner rfl))
  · exact h

theorem Working.mono {rolledBack' : List (ℕ × String)} (hsub : ∀ x∈rolledBack,x∈rolledBack') {job : Job}
    (h : Working rolledBack job) : Working rolledBack' job := by
  cases job with
  | rolling call t todo failures =>
    refine ⟨h.1,fun c hc => ?_⟩
    rcases h.2 c hc with htodo | hfailed | hback
    · exact .inl htodo
    · exact .inr (.inl hfailed)
    · exact .inr (.inr (hsub _ hback))
  | probing t => exact h

theorem Working.advance
    {rest : List Change} {failures : List (String × String)} (error : Option String)
    (h : Working rolledBack (.rolling call t (change::rest) failures)) :
    Working (if error=none then (t.id,change.key)::rolledBack else rolledBack)
      (.rolling call t rest (failures++(error.map fun e => (change.key,e)).toList)) := by
  refine ⟨h.1,fun c hc => ?_⟩
  rcases h.2 c hc with htodo | ⟨e,he⟩ | hback
  · rcases mem_cons.mp htodo with rfl | hrest
    · cases error with
      | none => exact .inr (.inr mem_cons_self)
      | some e => exact .inr (.inl ⟨e,mem_append_right _ mem_cons_self⟩)
    · exact .inl hrest
  · exact .inr (.inl ⟨e,mem_append_left _ he⟩)
  · refine .inr (.inr ?_)
    split
    · exact mem_cons_of_mem _ hback
    · exact hback

theorem Kept.advance (h : Kept w) {k : ℕ} {outcome : Option String}
    (hcareful : Careful w (.advance k outcome ok retry)) (hstep : w.advance k outcome ok retry=some w') : Kept w' := by
  unfold World.advance at hstep
  split at hstep
  · rename_i call t change rest failures hjob
    have hworking:=(h.working _ (mem_of_getElem? hjob)).advance (rollbackChange change outcome)
    have hmono : ∀ x∈w.rolledBack,x∈(if rollbackChange change outcome=none then (t.id,change.key)::w.rolledBack
        else w.rolledBack) := by
      intro x hx
      split
      · exact mem_cons_of_mem _ hx
      · exact hx
    dsimp only at hstep
    split at hstep
    · rename_i hlast
      subst hlast
      cases hstep
      have herased:=h.more hmono fun job (hmem : job∈w.jobs.eraseIdx k) =>
        (h.working job (mem_of_mem_eraseIdx hmem)).mono hmono
      refine herased.finish (hcareful _ hjob rfl) hworking.1 fun c hc => ?_
      exact (hworking.2 c hc).resolve_left not_mem_nil
    · cases hstep
      refine h.more hmono fun job hmem => ?_
      rcases mem_or_eq_of_mem_set hmem with hmem | rfl
      · exact (h.working job hmem).mono hmono
      · exact hworking
  · cases hstep

theorem Kept.answer (h : Kept w) {k : ℕ} {running : Bool}
    (hcareful : Careful w (.answer k running ok)) (hstep : w.answer k running ok=some w') : Kept w' := by
  unfold World.answer at hstep
  split at hstep
  · rename_i t hjob
    have hrestarting : t.phase=.restarting := h.working _ (mem_of_getElem? hjob)
    have herased:=h.more (fun _ hx => hx) fun job (hmem : job∈w.jobs.eraseIdx k) =>
      h.working job (mem_of_mem_eraseIdx hmem)
    cases hstep
    cases running with
    | false => exact herased
    | true =>
      rcases hcareful _ hjob rfl with hfile | hfile
      · exact herased.rewrite hfile rfl rfl (.inr (by rw [hrestarting]; rfl))
      · exact herased.rewrite (t := {t with phase := .ready}) hfile rfl rfl (.inl rfl)
  · cases hstep

theorem Kept.step (h : Kept w) {call : Call} (hcareful : Careful w call) (hstep : step w call=some w') : Kept w' := by
  cases call with
  | register user change reads writes =>
    cases hstep
    exact h.registerChange hcareful
  | cancel user id ok =>
    cases hstep
    exact h.cancel user id ok
  | confirm user id restart first second third =>
    cases hstep
    exact h.confirm user id restart first second third
  | status id token =>
    cases hstep
    exact h.getPublicStatus id token
  | complete user id ok =>
    cases hstep
    exact h.complete hcareful
  | dismiss user key ok =>
    cases hstep
    exact h.dismissFailed hcareful
  | advance k outcome ok retry => exact h.advance hcareful hstep
  | answer k running ok => exact h.answer hcareful hstep
  | reboot =>
    cases hstep
    exact ⟨⟨h.covered,h.lawful⟩,fun job hjob => absurd hjob not_mem_nil⟩

end Calls

def modeChange : Change := ⟨"connection-mode","Mode",⟨"connection-mode","p2p"⟩⟩
def clockChange : Change := ⟨"billing-clock","Clock",⟨"billing-clock","ntp"⟩⟩

/-- A change is registered twice, restarted, found ready and completed; another one canceled. -/
def orderlyCalls : List Call :=
  [.register (some "7") modeChange true true,
    .register (some "7") {modeChange with rollback := ⟨"connection-mode","relay"⟩} true true,
    .confirm (some "7") 0 (.returned ⟨some true,[true]⟩) true true true,.reboot,.status 0 2,.answer 0 true true,
    .complete (some "7") 0 true,.register (some "8") clockChange true true,.cancel (some "8") 3 true,
    .advance 0 none true ("",true)]

def failedCalls : List Call :=
  [.register (some "7") modeChange true true,.confirm (some "7") 0 (.returned ⟨some false,[]⟩) true true true,
    .advance 0 (some "EACCES") true ("",true)]

def overlappingCalls : List Call :=
  [.register (some "7") modeChange true true,.cancel (some "7") 0 true,.register (some "7") clockChange true true,
    .advance 0 none true ("",true)]

/-- Two health probes; the second is answered when the transaction is completed and operator 8
has another one. -/
def staleCalls : List Call :=
  [.register (some "7") modeChange true true,.confirm (some "7") 0 (.returned ⟨some true,[true]⟩) true true true,
    .reboot,.status 0 1,.status 0 1,.answer 0 true true,.complete (some "7") 0 true,
    .register (some "8") clockChange true true,.answer 0 true true]

def World.lost (w : World) (r : Registered) : Bool :=
  r∉w.registered||r.id∈w.completed||w.file.any (fun t => t.id=r.id)||(r.id,r.key)∈w.rolledBack

theorem not_intact_of_lost {w : World} {r : Registered} (h : w.lost r=false) : ¬ Intact w := by
  intro hintact
  simp only [World.lost,Bool.or_eq_false_iff,decide_eq_false_iff_not,not_not] at h
  obtain ⟨⟨⟨hr,hcompleted⟩,hfile⟩,hback⟩:=h
  rcases hintact.covered r hr with hdone | ⟨t,ht,hid,-⟩ | hrolled
  · exact hcompleted hdone
  · simp [ht,hid] at hfile
  · exact hback hrolled

end BetterDesk.Panel
