import BetterDesk.Billing.Conservation
import BetterDesk.Billing.WorkReports

/-! # The status of a session over a run -/

namespace BetterDesk.Billing
open List Option Nat

def SessionStatus.rank : SessionStatus → ℕ
  | .active => 0
  | .pendingReport => 1
  | .closed => 2

namespace Reports
open Exec Programs Text

variable {A : Type}

namespace Books
variable (s t : Books A)

def Closed (id : ℕ) : Prop := ∃ row, s.sessions[id]?=some row ∧ row.status=.closed

def Forward : Prop := ∀ (id : ℕ) (row : SessionRow A), s.sessions[id]?=some row →
  ∃ row', t.sessions[id]?=some row' ∧ row.status.rank≤row'.status.rank ∧ (row.status=.closed → row'=row)

theorem Forward.refl : s.Forward s := fun _ row h => ⟨row,h,le_refl _,fun _ => rfl⟩

variable {s t}

theorem Forward.trans {u : Books A} (h : s.Forward t) (h' : t.Forward u) : s.Forward u := by
  intro id row hrow
  obtain ⟨row',hrow',hle,hsame⟩:=h id row hrow
  obtain ⟨row'',hrow'',hle',hsame'⟩:=h' id row' hrow'
  refine ⟨row'',hrow'',le_trans hle hle',fun hc => ?_⟩
  obtain rfl:=hsame hc
  exact hsame' hc

theorem Forward.closed (h : s.Forward t) {id : ℕ} (hc : s.Closed id) : t.Closed id := by
  obtain ⟨row,hrow,hstatus⟩:=hc
  obtain ⟨row',hrow',-,hsame⟩:=h id row hrow
  exact ⟨row',hrow',by rw [hsame hstatus,hstatus]⟩

theorem Forward.length_le (h : s.Forward t) : s.sessions.length≤t.sessions.length := by
  by_contra hlt
  obtain ⟨row',hrow',-⟩:=h t.sessions.length _ (List.getElem?_eq_getElem (by omega))
  exact absurd (List.getElem?_eq_some_iff.mp hrow').1 (by omega)

end Books

abbrev History (A : Type) := List (Seen (@Res A))

def readRow : Seen (@Res A) → Option (ℕ × SessionRow A)
  | ⟨.getBillingSession id,row⟩ => row.map fun row => (id,row)
  | _ => none

def lastRow (seen : History A) : Option (ℕ × SessionRow A) := seen.findSome? readRow

def fileReport : Seen (@Res A) → Option ℕ
  | ⟨.createBillingWorkReport id _,true⟩ => some id
  | _ => none

def filed (seen : History A) : Option ℕ := seen.head?.bind fileReport

def Writes (op : Op A) : Prop := ∃ id row, op=.updateBillingSession id row

/-- After a report comes the write that closes its session. -/
def Allowed (seen : History A) (op : Op A) : Prop :=
  match filed seen with
  | some id => ∃ old row, lastRow seen=some (id,old) ∧ op=.updateBillingSession id row ∧ row.status=.closed
  | none => ∀ id row, op=.updateBillingSession id row →
    ∃ old, lastRow seen=some (id,old) ∧ (old.status ≠ .closed → old.status.rank≤row.status.rank)

abbrev writers (A : Type) : Monitor (Op A) Res (History A) := history Allowed

section Programs
variable {setup : Setup A} {seen : History A} {α : Type} {Q : α → History A → Prop}

theorem allowed_reading {op : Op A} (h : filed seen=none) (hop : ¬ Writes op) : Allowed seen op := by
  unfold Allowed
  rw [h]
  exact fun id row he => absurd ⟨id,row,he⟩ hop

theorem wp_ask {op : Op A} {Q : Res op → History A → Prop} :
    (writers A).wp Q (ask op) seen ↔ Allowed seen op ∧ ∀ r, Q r (⟨op,r⟩::seen) := by
  unfold ask
  rw [Monitor.wp_perform]
  exact and_congr_right fun _ => forall_congr' fun r => ⟨fun h => h _ rfl,fun h g' hg => hg ▸ h⟩

theorem wp_metered {x : Billing.Prog α} (h : filed seen=none)
    (hQ : ∀ a seen', filed seen'=none → lastRow seen'=lastRow seen → Q a seen') :
    (writers A).wp Q (metered x) seen := by
  unfold metered
  refine Monitor.wp_within (fun seen' => filed seen'=none ∧ lastRow seen'=lastRow seen) ?_ ?_ ⟨h,rfl⟩
  · intro op seen' hseen
    refine wp_ask.mpr ⟨allowed_reading hseen.1 ?_,fun r => ⟨rfl,hseen.2⟩⟩
    rintro ⟨id,row,he⟩
    cases he
  · exact fun a seen' hseen => hQ a seen' hseen.1 hseen.2

theorem wp_plain {op : Op A} {Q : Res op → History A → Prop} (h : filed seen=none) (hop : ¬ Writes op)
    (hfile : ∀ r, filed (⟨op,r⟩::seen)=none)
    (hQ : ∀ r seen', filed seen'=none → seen'=⟨op,r⟩::seen → Q r seen') : (writers A).wp Q (ask op) seen :=
  wp_ask.mpr ⟨allowed_reading h hop,fun r => hQ r _ (hfile r) rfl⟩

theorem overageRate_wp {contract : ContractRow} {hourly : A} {rate : Option A} {Q : A → History A → Prop}
    (h : filed seen=none) (hQ : ∀ a seen', filed seen'=none → Q a seen') :
    (writers A).wp Q (overageRate contract hourly rate) seen := by
  unfold overageRate
  cases rate with
  | some rate => exact hQ rate seen h
  | none =>
    rw [Monitor.wp_bind]
    refine wp_metered h fun pkg seen h _ => ?_
    cases pkg with
    | none => exact hQ hourly seen h
    | some pkg => exact wp_plain h (by rintro ⟨_,_,he⟩; cases he) (fun _ => rfl) fun r seen h _ => hQ r seen h

theorem activateRelay_wp {relayUUID : String} {Q : Unit → History A → Prop} (h : filed seen=none)
    (hQ : ∀ seen', filed seen'=none → Q () seen') : (writers A).wp Q (activateRelay setup relayUUID) seen := by
  unfold activateRelay
  split
  · exact hQ seen h
  · rw [Monitor.wp_bind]
    refine wp_metered h fun p seen h _ => ?_
    cases p with
    | none => exact hQ seen h
    | some p =>
      rw [Monitor.wp_bind]
      refine wp_metered h fun contract seen h _ => ?_
      cases contract with
      | none => exact hQ seen h
      | some contract =>
        dsimp only
        rw [Monitor.wp_bind]
        refine wp_metered h fun _ seen h _ => ?_
        rw [Monitor.wp_bind]
        refine wp_metered h fun contract seen h _ => ?_
        cases contract with
        | none => exact hQ seen h
        | some contract =>
          dsimp only
          rw [Monitor.wp_bind]
          refine wp_plain h (by rintro ⟨_,_,he⟩; cases he) (fun _ => rfl) fun rates seen h _ => ?_
          rw [Monitor.wp_bind]
          refine overageRate_wp h fun overage seen h => ?_
          rw [Monitor.wp_bind]
          refine wp_metered h fun now seen h _ => ?_
          rw [Monitor.wp_bind]
          refine wp_plain h (by rintro ⟨_,_,he⟩; cases he) (fun _ => rfl) fun id seen h _ => ?_
          cases id with
          | none => exact hQ seen h
          | some id =>
            exact wp_plain h (by rintro ⟨_,_,he⟩; cases he) (fun _ => rfl) fun r seen h _ => hQ seen h

theorem read_wp {id : ℕ} {k : Option (SessionRow A) → Prog A α} (h : filed seen=none)
    (hnone : ∀ seen', filed seen'=none → (writers A).wp Q (k none) seen')
    (hsome : ∀ sess seen', filed seen'=none → lastRow seen'=some (id,sess) → (writers A).wp Q (k (some sess)) seen') :
    (writers A).wp Q (ask (.getBillingSession id) >>= k) seen := by
  rw [Monitor.wp_bind]
  refine wp_plain h (by rintro ⟨_,_,he⟩; cases he) (fun _ => rfl) fun sess seen' h' hseen => ?_
  cases sess with
  | none => exact hnone seen' h'
  | some sess => exact hsome sess seen' h' (by rw [hseen]; rfl)

theorem write_wp {id : ℕ} {sess row : SessionRow A} {k : Bool → Prog A α} (h : filed seen=none)
    (hlast : lastRow seen=some (id,sess)) (hrank : sess.status ≠ .closed → sess.status.rank≤row.status.rank)
    (hk : ∀ r seen', filed seen'=none → (writers A).wp Q (k r) seen') :
    (writers A).wp Q (ask (.updateBillingSession id row) >>= k) seen := by
  rw [Monitor.wp_bind]
  refine wp_ask.mpr ⟨?_,fun r => hk r _ rfl⟩
  unfold Allowed
  rw [h]
  intro id' row' he
  cases he
  exact ⟨sess,hlast,hrank⟩

theorem settleSegment_wp {a : Running A} {boundary : ℕ} {Q : Running A → History A → Prop} (h : filed seen=none)
    (hQ : ∀ a seen', filed seen'=none → Q a seen') : (writers A).wp Q (settleSegment setup a boundary) seen := by
  unfold settleSegment
  rw [Monitor.wp_bind]
  refine wp_metered h fun roundMin seen h _ => ?_
  rw [Monitor.wp_bind]
  refine wp_metered h fun settled seen h _ => ?_
  rw [Monitor.wp_bind]
  refine wp_metered h fun _ seen h _ => ?_
  have hrest (seen' : History A) (h' : filed seen'=none) : (writers A).wp Q (do
      ask (.syncActive a.relayUUID boundary settled.2.2)
      pure (a.synced boundary settled.2.2)) seen' := by
    rw [Monitor.wp_bind]
    exact wp_plain h' (by rintro ⟨_,_,he⟩; cases he) (fun _ => rfl) fun _ seen h _ => hQ _ seen h
  refine read_wp h hrest fun sess seen h hlast => ?_
  exact write_wp h hlast (fun _ => le_refl _) fun _ => hrest

theorem settleMonths_wp {now fuel : ℕ} {a : Running A} {Q : Running A → History A → Prop} (h : filed seen=none)
    (hQ : ∀ a seen', filed seen'=none → Q a seen') : (writers A).wp Q (settleMonths setup now fuel a) seen := by
  induction fuel generalizing a seen with
  | zero => exact hQ a seen h
  | succ fuel ih =>
    unfold settleMonths
    split
    · exact hQ a seen h
    · rw [Monitor.wp_bind]
      exact settleSegment_wp h fun a seen h => ih h

theorem settleCrossingMonth_wp {a : Running A} {Q : Running A → History A → Prop} (h : filed seen=none)
    (hQ : ∀ a seen', filed seen'=none → Q a seen') : (writers A).wp Q (settleCrossingMonth setup a) seen := by
  unfold settleCrossingMonth
  rw [Monitor.wp_bind]
  exact wp_metered h fun now seen h _ => settleMonths_wp h hQ

theorem finalizeSession_wp {a : Running A} {Q : Unit → History A → Prop} (h : filed seen=none)
    (hQ : ∀ seen', filed seen'=none → Q () seen') : (writers A).wp Q (finalizeSession setup a) seen := by
  unfold finalizeSession
  rw [Monitor.wp_bind]
  refine settleCrossingMonth_wp h fun a seen h => ?_
  rw [Monitor.wp_bind]
  refine wp_metered h fun now seen h _ => ?_
  rw [Monitor.wp_bind]
  refine wp_metered h fun roundMin seen h _ => ?_
  refine read_wp h (fun seen h => hQ seen h) fun sess seen h hlast => ?_
  refine write_wp h hlast (fun hopen => ?_) fun _ seen h => wp_metered h fun _ seen h _ => hQ seen h
  -- a session that is not closed is active, or has been ended before
  dsimp only
  cases hstatus : sess.status with
  | closed => exact absurd hstatus hopen
  | active => exact zero_le _
  | pendingReport => split <;> decide

theorem endRelay_wp {relayUUID : String} {Q : Unit → History A → Prop} (h : filed seen=none)
    (hQ : ∀ seen', filed seen'=none → Q () seen') : (writers A).wp Q (endRelay setup relayUUID) seen := by
  unfold endRelay
  split
  · exact hQ seen h
  · rw [Monitor.wp_bind]
    refine wp_plain h (by rintro ⟨_,_,he⟩; cases he) (fun _ => rfl) fun a seen h _ => ?_
    cases a with
    | none => exact hQ seen h
    | some a => exact finalizeSession_wp h hQ

theorem tickCopies_wp {copies : List (Running A)} {Q : Unit → History A → Prop} (h : filed seen=none)
    (hQ : ∀ seen', filed seen'=none → Q () seen') : (writers A).wp Q (tickCopies setup copies) seen := by
  induction copies generalizing seen with
  | nil => exact hQ seen h
  | cons a rest ih =>
    unfold tickCopies
    rw [Monitor.wp_bind]
    refine settleCrossingMonth_wp h fun a seen h => ?_
    rw [Monitor.wp_bind]
    unfold updateActiveProgress
    rw [Monitor.wp_bind]
    refine wp_metered h fun now seen h _ => ?_
    exact wp_plain h (by rintro ⟨_,_,he⟩; cases he) (fun _ => rfl) fun _ seen h _ => ih h

theorem submitWorkReport_wp {id : ℕ} {operatorID summary category ticketRef : Bytes}
    {Q : Except Refusal Unit → History A → Prop} (h : filed seen=none) (hQ : ∀ r seen', filed seen'=none → Q r seen') :
    (writers A).wp Q (submitWorkReport id operatorID summary category ticketRef) seen := by
  unfold submitWorkReport
  split
  · exact hQ _ seen h
  · rw [Monitor.wp_bind]
    refine wp_plain h (by rintro ⟨_,_,he⟩; cases he) (fun _ => rfl) fun sess seen₁ h₁ hseen₁ => ?_
    cases sess with
    | none => exact hQ _ seen₁ h₁
    | some sess =>
      dsimp only
      split
      · exact hQ _ seen₁ h₁
      · rw [Monitor.wp_bind]
        refine wp_plain h₁ (by rintro ⟨_,_,he⟩; cases he) (fun _ => rfl) fun found seen₂ h₂ hseen₂ => ?_
        split
        · exact hQ _ seen₂ h₂
        · rw [Monitor.wp_bind]
          refine wp_ask.mpr ⟨allowed_reading h₂ (by rintro ⟨_,_,he⟩; cases he),fun created => ?_⟩
          cases created with
          | false => exact hQ _ _ rfl
          | true =>
            rw [if_neg Bool.noConfusion,Monitor.wp_bind]
            refine wp_ask.mpr ⟨⟨sess,_,?_,rfl,rfl⟩,fun r => ?_⟩
            · rw [hseen₂,hseen₁]
              rfl
            · split
              · exact hQ _ _ rfl
              · exact hQ _ _ rfl

theorem handle_wp (r : Request A) : (writers A).wp (fun _ seen => filed seen=none) (handle setup r) [] := by
  have h : filed ([] : History A)=none := rfl
  cases r with
  | checkConnection | prepareRelay =>
    unfold handle
    rw [Monitor.wp_bind]
    exact wp_metered h fun _ seen h _ => h
  | activateRelay relayUUID =>
    unfold handle
    rw [Monitor.wp_bind]
    exact activateRelay_wp h fun seen h => h
  | endRelay relayUUID =>
    unfold handle
    rw [Monitor.wp_bind]
    exact endRelay_wp h fun seen h => h
  | tick order =>
    unfold handle
    rw [Monitor.wp_bind]
    unfold tickActive
    rw [Monitor.wp_bind]
    refine wp_plain h (by rintro ⟨_,_,he⟩; cases he) (fun _ => rfl) fun snap seen h _ => ?_
    refine tickCopies_wp h fun seen h => ?_
    rw [Monitor.wp_bind]
    exact wp_metered h fun _ seen h _ => h
  | submitWorkReport sessionID operatorID summary category ticketRef =>
    exact submitWorkReport_wp h fun _ seen h => h

end Programs

/-- A call that writes a session row finds it open, and in the status that it has read. -/
def unbroken (s : Books A) (fails : Bool) (p : Process A) : Bool :=
  match p.prog.nextOp with
  | some (.updateBillingSession id _) =>
    match s.sessions[id]? with
    | none => true
    | some row =>
      if filed p.seen=some id then !fails&&row.status ≠ .closed
      else fails||row.status ≠ .closed&&(lastRow p.seen).map (fun read => read.2.status)=some row.status
  | _ => true

def Undisturbed (s : System A) : Act A → Prop
  | .step i fails => ∀ p∈s.procs[i]?, unbroken s.store fails p=true
  | _ => True

instance (s : System A) : (a : Act A) → Decidable (Undisturbed s a)
  | .begin _ => isTrue trivial
  | .env _ => isTrue trivial
  | .step i fails => inferInstanceAs (Decidable (∀ p∈s.procs[i]?, unbroken s.store fails p=true))

def ReportsClose (s : System A) : Prop := ∀ id, (s.store.reports id).isSome → s.store.Closed id ∨
  ∃ p∈s.procs, ∃ row, p.prog.nextOp=some (.updateBillingSession id row) ∧ row.status=.closed

variable {setup : Setup A}

structure Sound (setup : Setup A) (s : System A) : Prop where
  follows : ∀ p∈s.procs,p.Follows (run setup) (fun _ => Allowed) fun _ _ seen => filed seen=none
  known : ∀ p∈s.procs, ∀ id row, lastRow p.seen=some (id,row) → id < s.store.sessions.length
  reported : ∀ id, (s.store.reports id).isSome → s.store.Closed id ∨ ∃ p∈s.procs,filed p.seen=some id

theorem Sound.reportsClose {s : System A} (h : Sound setup s) : ReportsClose s := by
  intro id hid
  rcases h.reported id hid with hc | ⟨p,hp,hfiled⟩
  · exact .inl hc
  · refine .inr ⟨p,hp,?_⟩
    cases hprog : p.prog with
    | done r =>
      have hnone:=(h.follows p hp).ends hprog
      rw [hfiled] at hnone
      cases hnone
    | call op k =>
      have hmay:=(h.follows p hp).may hprog
      unfold Allowed at hmay
      rw [hfiled] at hmay
      obtain ⟨_,row,-,rfl,hstatus⟩:=hmay
      exact ⟨row,rfl,hstatus⟩

theorem Books.Forward.of_extends {s t : Books A} (h : s.sessions <+: t.sessions) : s.Forward t := by
  intro id row hrow
  obtain ⟨l,hl⟩:=h
  refine ⟨row,?_,le_refl _,fun _ => rfl⟩
  rw [← hl,List.getElem?_append_left (List.getElem?_eq_some_iff.mp hrow).1]
  exact hrow

theorem run_meter (s : Books A) (op : Billing.Op) (fails : Bool) :
    (run setup s (.meter op) fails).2={s with meter := (Billing.run s.meter op fails).2} := by
  cases fails with
  | false => rfl
  | true =>
    unfold run Billing.run
    rw [if_pos rfl,if_pos rfl]
    have hf : failure (.meter op : Op A)=Billing.failure op := rfl
    rw [hf]
    cases Billing.failure op <;> rfl

theorem run_sessions (s : Books A) {op : Op A} {fails : Bool} (h : fails=true ∨ ¬ Writes op) :
    s.sessions <+: (run setup s op fails).2.sessions := by
  have hsame : s.sessions <+: s.sessions := prefix_refl _
  have hactive (relayUUID : String) (f : Running A → Running A) : (s.updateActive relayUUID f).sessions=s.sessions := by
    unfold Books.updateActive
    split <;> rfl
  cases op with
  | meter op =>
    rw [run_meter]
  | createBillingSession row =>
    cases fails
    · exact prefix_append _ _
    · exact hsame
  | updateBillingSession id row =>
    rcases h with rfl | h
    · exact hsame
    · exact absurd ⟨id,row,rfl⟩ h
  | createBillingWorkReport id report =>
    cases fails
    · unfold run perform
      dsimp only
      split
      · exact hsame
      · split <;> exact hsame
    · exact hsame
  | syncActive relayUUID startedAt remainingAtStart =>
    have he:=hactive relayUUID fun cur => cur.synced startedAt remainingAtStart
    cases fails <;> exact he ▸ hsame
  | updateProgress relayUUID billedMin =>
    have he:=hactive relayUUID fun cur => cur.progressed billedMin
    cases fails <;> exact he ▸ hsame
  | _ => cases fails <;> exact hsame

theorem run_reports (s : Books A) (op : Op A) (fails : Bool) {id : ℕ}
    (h : ((run setup s op fails).2.reports id).isSome) :
    (s.reports id).isSome ∨ fileReport ⟨op,(run setup s op fails).1⟩=some id := by
  have hactive (relayUUID : String) (f : Running A → Running A) : (s.updateActive relayUUID f).reports=s.reports := by
    unfold Books.updateActive
    split <;> rfl
  cases op with
  | meter op =>
    rw [run_meter] at h
    exact .inl h
  | createBillingWorkReport id' report =>
    cases fails with
    | true => exact .inl h
    | false =>
      by_cases hstored : (s.reports id').isSome
      · have hrun : run setup s (.createBillingWorkReport id' report) false=(false,s) := if_pos hstored
        rw [hrun] at h
        exact .inl h
      · have hrun : run setup s (.createBillingWorkReport id' report) false =
            (true,{s with reports := Function.update s.reports id' (some report)}) := if_neg hstored
        rw [hrun] at h ⊢
        by_cases hid : id=id'
        · exact .inr (congrArg some hid.symm)
        · dsimp only at h
          rw [Function.update_of_ne hid] at h
          exact .inl h
  | syncActive relayUUID startedAt remainingAtStart =>
    have he:=hactive relayUUID fun cur => cur.synced startedAt remainingAtStart
    cases fails <;> exact .inl (he ▸ h)
  | updateProgress relayUUID billedMin =>
    have he:=hactive relayUUID fun cur => cur.progressed billedMin
    cases fails <;> exact .inl (he ▸ h)
  | _ => cases fails <;> exact .inl h

section Step
variable {s : Books A} {p : Process A} {op : Op A} {k : Res op → Prog A (Except Refusal Unit)} {fails : Bool}

theorem written_status {id : ℕ} {old row : SessionRow A} (hmay : Allowed p.seen (.updateBillingSession id row))
    (hopen : old.status ≠ .closed)
    (hread : filed p.seen=some id ∨ (lastRow p.seen).map (fun read => read.2.status)=some old.status) :
    old.status.rank≤row.status.rank := by
  have hle (status : SessionStatus) : status.rank≤SessionStatus.closed.rank := by
    cases status <;> decide
  unfold Allowed at hmay
  cases hfiled : filed p.seen with
  | some id' =>
    rw [hfiled] at hmay
    obtain ⟨_,row',-,he,hclosed⟩:=hmay
    cases he
    rw [hclosed]
    exact hle _
  | none =>
    rw [hfiled] at hmay hread
    obtain ⟨read,hlast,hrank⟩:=hmay id row rfl
    have hsame:=hread.resolve_left fun he => (by cases he)
    rw [hlast] at hsame
    have hstatus : read.status=old.status := Option.some.inj hsame
    rw [← hstatus] at hopen ⊢
    exact hrank hopen

theorem run_forward (hmay : Allowed p.seen op) (hprog : p.prog=.call op k) (hok : unbroken s fails p=true) :
    s.Forward (run setup s op fails).2 := by
  by_cases hop : fails=true ∨ ¬ Writes op
  · exact .of_extends (run_sessions s hop)
  · obtain ⟨hfails,⟨id,row,rfl⟩⟩ : ¬ fails=true ∧ Writes op := by
      rw [not_or,not_not] at hop
      exact hop
    obtain rfl : fails=false := Bool.not_eq_true fails ▸ hfails
    have hnext : p.prog.nextOp=some (.updateBillingSession id row) := by rw [hprog]; rfl
    unfold unbroken at hok
    rw [hnext] at hok
    intro id' old hold
    by_cases hid : id'=id
    · subst hid
      dsimp only at hok
      rw [hold] at hok
      have hlt:=(List.getElem?_eq_some_iff.mp hold).1
      refine ⟨row,List.getElem?_set_self hlt,?_,fun hc => ?_⟩
      · dsimp only at hok
        split at hok
        · rename_i hfiled
          simp only [Bool.not_false,Bool.true_and,decide_eq_true_eq] at hok
          exact written_status hmay hok (.inl hfiled)
        · simp only [Bool.false_or,Bool.and_eq_true,decide_eq_true_eq] at hok
          exact written_status hmay hok.1 (.inr hok.2)
      · dsimp only at hok
        split at hok <;> simp [hc] at hok
    · exact ⟨old,(List.getElem?_set_ne fun he => hid he.symm).trans hold,le_refl _,fun _ => rfl⟩

theorem run_closes {id : ℕ} (hmay : Allowed p.seen op) (hprog : p.prog=.call op k) (hok : unbroken s fails p=true)
    (hfiled : filed p.seen=some id) (hknown : ∀ id row, lastRow p.seen=some (id,row) → id < s.sessions.length) :
    (run setup s op fails).2.Closed id := by
  unfold Allowed at hmay
  rw [hfiled] at hmay
  obtain ⟨old,row,hlast,rfl,hclosed⟩:=hmay
  have hlt:=hknown id old hlast
  have hnext : p.prog.nextOp=some (.updateBillingSession id row) := by rw [hprog]; rfl
  unfold unbroken at hok
  rw [hnext] at hok
  dsimp only at hok
  rw [List.getElem?_eq_getElem hlt] at hok
  dsimp only at hok
  rw [if_pos hfiled,Bool.and_eq_true,Bool.not_eq_true'] at hok
  rw [hok.1]
  exact ⟨row,List.getElem?_set_self hlt,hclosed⟩

theorem lastRow_next {id : ℕ} {row : SessionRow A} (h : lastRow (p.next s (run setup s op fails).1 k).seen=some (id,row)) :
    lastRow p.seen=some (id,row) ∨ id < s.sessions.length := by
  have hcons : lastRow (p.next s (run setup s op fails).1 k).seen =
      (readRow ⟨op,(run setup s op fails).1⟩).or (lastRow p.seen) := by
    show lastRow (⟨op,(run setup s op fails).1⟩::p.seen)=_
    unfold lastRow
    rw [List.findSome?_cons]
    cases readRow ⟨op,(run setup s op fails).1⟩ <;> rfl
  rw [hcons] at h
  cases hread : readRow ⟨op,(run setup s op fails).1⟩ with
  | none =>
    rw [hread] at h
    exact .inl h
  | some read =>
    rw [hread] at h
    cases h
    cases op with
    | getBillingSession id' =>
      cases fails with
      | true => cases hread
      | false =>
        obtain ⟨row',hrow',he⟩:=map_eq_some_iff.mp hread
        cases he
        exact .inr (List.getElem?_eq_some_iff.mp (filter_eq_some_iff.mp hrow').1).1
    | _ => cases hread

end Step

theorem Sound.step {s t : System A} {a : Act A} (h : Sound setup s) (hok : Undisturbed s a)
    (hst : Reports.step setup s a=some t) : Sound setup t ∧ s.store.Forward t.store := by
  have hfollows:=follows_step handle_wp h.follows hst
  cases a with
  | begin r =>
    cases hst
    have hnew : (⟨r,[],handle setup r⟩ : Process A).seen=[] := rfl
    refine ⟨⟨hfollows,fun p hp id row hlast => ?_,fun id hid => ?_⟩,.refl _⟩
    · rcases mem_append.mp hp with hp | hp
      · exact h.known p hp id row hlast
      · rw [mem_singleton.mp hp,hnew] at hlast
        cases hlast
    · rcases h.reported id hid with hc | ⟨p,hp,hfiled⟩
      · exact .inl hc
      · exact .inr ⟨p,mem_append_left _ hp,hfiled⟩
  | env e =>
    cases hst
    exact ⟨⟨hfollows,h.known,h.reported⟩,fun id row hrow => ⟨row,hrow,le_refl _,fun _ => rfl⟩⟩
  | step i fails =>
    obtain ⟨p,op,k,hp,hprog,rfl⟩:=step_step hst
    have hmem:=mem_of_getElem? hp
    have hmay:=(h.follows p hmem).may hprog
    have hunbroken:=hok p hp
    have hforward : s.store.Forward (run setup s.store op fails).2 := run_forward hmay hprog hunbroken
    refine ⟨⟨hfollows,fun q hq id row hlast => ?_,fun id hid => ?_⟩,hforward⟩
    · refine lt_of_lt_of_le ?_ hforward.length_le
      rcases mem_or_eq_of_mem_set hq with hq | rfl
      · exact h.known q hq id row hlast
      · rcases lastRow_next hlast with hlast | hlt
        · exact h.known p hmem id row hlast
        · exact hlt
    · rcases run_reports s.store op fails hid with hold | hnew
      · rcases h.reported id hold with hc | ⟨q,hq,hfiled⟩
        · exact .inl (hforward.closed hc)
        · obtain ⟨j,hj⟩:=mem_iff_getElem?.mp hq
          by_cases hij : i=j
          · subst hij
            obtain rfl : p=q := Option.some.inj (hp.symm.trans hj)
            exact .inl (run_closes hmay hprog hunbroken hfiled (h.known p hmem))
          · refine .inr ⟨q,?_,hfiled⟩
            exact mem_of_getElem? ((List.getElem?_set_ne hij).trans hj)
      · exact .inr ⟨_,mem_set (List.getElem?_eq_some_iff.mp hp).1 _,hnew⟩

theorem sound_initial {s : Books A} (h : ∀ id, (s.reports id).isSome → s.Closed id) : Sound setup (initial s) :=
  ⟨fun _ hp => absurd hp not_mem_nil,fun _ hp => absurd hp not_mem_nil,fun id hid => .inl (h id hid)⟩

/-- Between any two states of a run the status of each session only moves forward and a
closed session is not changed; in every state a session with a report is closed, or about
to be. -/
theorem sessions_move_forward {s : Books A} {as bs : List (Act A)} {t u : System A}
    (hstart : ∀ id, (s.reports id).isSome → s.Closed id)
    (hok : Along (step setup) Undisturbed (initial s) (as++bs)) (ht : exec (step setup) (initial s) as=some t)
    (hu : exec (step setup) t bs=some u) : t.store.Forward u.store ∧ ReportsClose t ∧ ReportsClose u := by
  have hsound : Sound setup t := exec_invariant (Sound setup) (fun s a t hs hok hst => (hs.step hok hst).1)
    (sound_initial hstart) hok.before ht
  have hlast : Sound setup u ∧ t.store.Forward u.store := by
    refine exec_invariant (fun v => Sound setup v ∧ t.store.Forward v.store) (fun v a w hv hok hst => ?_)
      ⟨hsound,.refl _⟩ (hok.after ht) hu
    obtain ⟨hw,hforward⟩:=hv.1.step hok hst
    exact ⟨hw,hv.2.trans hforward⟩
  exact ⟨hlast.2,hsound.reportsClose,hlast.1.reportsClose⟩

def reportsRequired : Setup ℕ where
  cfg := {billing with requireReport := true}
  zero := 0
  add := Nat.add
  charge := Nat.mul
  scansNull := true

def newBooks : Books ℕ := ⟨newMeter,fun _ => (6,none),fun _ => 12,[],fun _ => none,[]⟩

/-- A call from its beginning to its end, as process `i` with `n` operations. -/
def call (i n : ℕ) (r : Request ℕ) : List (Act ℕ) := .begin r::List.replicate n (.step i false)

def tenMinutes : List (Act ℕ) := call 0 9 (.prepareRelay "relay-1" "device-1" "viewer-1") ++
  call 1 10 (.activateRelay "relay-1")++[.env (minutes 10)]

def reported (i : ℕ) : List (Act ℕ) := call i 4 (.submitWorkReport 0 [] [82] [] [])

def ended (i : ℕ) : List (Act ℕ) := call i 13 (.endRelay "relay-1")

theorem reported_after_end : ∃ t u, exec (step reportsRequired) (initial newBooks) (tenMinutes++ended 2)=some t ∧
    exec (step reportsRequired) t (reported 3)=some u ∧ t.store.Forward u.store ∧ ReportsClose t ∧ ReportsClose u := by
  obtain ⟨u,hrun⟩ : ∃ u, exec (step reportsRequired) (initial newBooks) (tenMinutes++ended 2++reported 3)=some u :=
    isSome_iff_exists.mp (by decide)
  have hsplit:=hrun
  rw [exec_append] at hsplit
  obtain ⟨t,ht,hu⟩:=bind_eq_some_iff.mp hsplit
  exact ⟨t,u,ht,hu,sessions_move_forward (fun id hid => by cases hid) (by decide) ht hu⟩

/-- With the report first, the end takes the closed session back to `pending_report`, and the
report stays without a closed session. -/
theorem reported_before_end : ¬ ∀ (setup : Setup ℕ) (s : Books ℕ) (as bs : List (Act ℕ)) (t u : System ℕ),
      (∀ id, (s.reports id).isSome → s.Closed id) → exec (step setup) (initial s) as=some t →
        exec (step setup) t bs=some u → t.store.Forward u.store ∧ ReportsClose t ∧ ReportsClose u := by
  intro hclaim
  obtain ⟨u,hrun⟩ : ∃ u, exec (step reportsRequired) (initial newBooks) (tenMinutes++reported 2++ended 3)=some u :=
    isSome_iff_exists.mp (by decide)
  have hafter : (exec (step reportsRequired) (initial newBooks) (tenMinutes++reported 2++ended 3)).map
      (fun u => u.store.sessions.map fun row => (row.status,row.endedAt.isSome,row.billedMinutes)) =
      some [(.pendingReport,true,10)] := by
    decide
  have hbefore : (exec (step reportsRequired) (initial newBooks) (tenMinutes++reported 2)).map
      (fun t => t.store.sessions.map fun row => (row.status,row.endedAt.isSome,row.billedMinutes)) =
      some [(.closed,false,0)] := by
    decide
  have hsplit:=hrun
  rw [exec_append] at hsplit
  obtain ⟨t,ht,hu⟩:=bind_eq_some_iff.mp hsplit
  rw [hrun] at hafter
  rw [ht] at hbefore
  have hu':=Option.some.inj hafter
  have ht':=Option.some.inj hbefore
  obtain ⟨row,hrow,hview⟩:=map_eq_singleton_iff.mp ht'
  have hclosed : row.status=.closed := congrArg Prod.fst hview
  have hstored : t.store.sessions[0]?=some row := by rw [hrow]; rfl
  obtain ⟨row',hrow',-,hsame⟩:=(hclaim reportsRequired newBooks _ _ t u (fun id hid => by cases hid) ht hu).1 0 row hstored
  obtain ⟨row'',hone,hview'⟩:=map_eq_singleton_iff.mp hu'
  rw [hone] at hrow'
  cases hrow'
  rw [hsame hclosed,hclosed] at hview'
  have hback : SessionStatus.closed=.pendingReport := congrArg Prod.fst hview'
  cases hback

end Reports
end BetterDesk.Billing
