import BetterDesk.Lib.Exec
import Mathlib.Data.PNat.Basic

/-! # Panel sessions (services/databaseSessionStore.js, services/panelSessionService.js) -/

namespace BetterDesk.Panel.SessionStore
open Exec Option Function Bool

inductive EndReason where
  | logout | replaced | idle | maxAge | revoked | destroyed

structure Policy where
  idleTimeoutMs : ℤ
  maxAgeMs : ℤ
  idle_pos : 60000 ≤ idleTimeoutMs
  idle_le : idleTimeoutMs ≤ maxAgeMs

def Policy.configured (idleTimeoutMs maxAgeMs : ℤ) : Policy where
  idleTimeoutMs := max 60000 idleTimeoutMs
  maxAgeMs := max (max 60000 idleTimeoutMs) maxAgeMs
  idle_pos := le_max_left _ _
  idle_le := le_max_left _ _

/-- What the store reads of a session object; `expires` is that of its cookie. -/
structure Sess where
  userId : Option ℕ
  createdAt : Option ℤ
  lastActivityAt : Option ℤ
  expires : Option ℤ

/-- The object that `'{}'` is parsed to. -/
def Sess.empty : Sess := ⟨none,none,none,none⟩

structure Row where
  session : Sess
  expiresAt : ℤ
  userId : Option ℕ
  createdAt : ℤ
  lastActivityAt : ℤ
  isActive : Bool
  endedAt : Option ℤ
  endReason : Option EndReason

structure State where
  now : ℤ
  rows : String → Option Row
  ended : String → Bool

/-- `Number(x) || d`. -/
def numberOr (x : Option ℤ) (d : ℤ) : ℤ := if x.getD 0=0 then d else x.getD 0

variable (p : Policy)

def expiresAt (now : ℤ) (sess : Sess) : ℤ :=
  match sess.expires with
  | some fromCookie => fromCookie
  | none => min (numberOr sess.createdAt now+p.maxAgeMs) (now+p.idleTimeoutMs)

def rowExpired (row : Row) (now : ℤ) : Option EndReason :=
  if !row.isActive then some (row.endReason.getD .revoked)
  else
    let created:=row.createdAt
    let last:=numberOr (some row.lastActivityAt) (numberOr (some created) now)
    if created≠0 ∧ now-created>p.maxAgeMs then some .maxAge
    else if last≠0 ∧ now-last>p.idleTimeoutMs then some .idle
    else if row.expiresAt≤now then
      if created≠0 ∧ now-created>p.maxAgeMs then some .maxAge else some .idle
    else none

/-- The update of `markEnded` on one row. -/
def Row.marked (now : ℤ) (reason : EndReason) (row : Row) : Row :=
  if row.isActive then
    {row with isActive := false,endedAt := some now,endReason := row.endReason <|> some reason}
  else row

def markEnded (s : State) (sid : String) (reason : EndReason) : State :=
  {s with rows := update s.rows sid ((s.rows sid).map (Row.marked s.now reason))}

def get (s : State) (sid : String) : State × Option Sess :=
  match s.rows sid with
  | none => (s,none)
  | some row => match rowExpired p row s.now with
    | some reason => (if row.isActive then markEnded s sid reason else s,none)
    | none => (s,some row.session)

def set (s : State) (sid : String) (sess : Sess) : State :=
  let inserted : Row :=
    { session := sess
      expiresAt := expiresAt p s.now sess
      userId := sess.userId
      createdAt := numberOr sess.createdAt s.now
      lastActivityAt := numberOr sess.lastActivityAt s.now
      isActive := true
      endedAt := none
      endReason := none}
  let stored := match s.rows sid with
    | none => inserted
    | some row => {row with
        session := sess
        expiresAt := inserted.expiresAt
        userId := inserted.userId <|> row.userId
        lastActivityAt := inserted.lastActivityAt}
  {s with rows := update s.rows sid (some stored)}

def touch (s : State) (sid : String) (sess : Sess) : State :=
  {s with rows := update s.rows sid ((s.rows sid).map fun row =>
      if row.isActive then {row with
        expiresAt := expiresAt p s.now sess
        lastActivityAt := numberOr sess.lastActivityAt s.now}
      else row)}

def destroy (s : State) (sid : String) : State :=
  let t:=markEnded s sid .destroyed
  {t with rows := update t.rows sid ((t.rows sid).map fun row =>
      {row with session := .empty,endReason := row.endReason <|> some .destroyed})}

def activateExclusiveSession (s : State) (sid : String) (userId : ℕ) (createdAt lastActivityAt : Option ℤ) : State :=
  let created:=numberOr createdAt s.now
  {s with rows := fun other => (s.rows other).map fun row =>
      if other=sid then {row with
        userId := some userId
        createdAt := created
        lastActivityAt := numberOr lastActivityAt s.now
        expiresAt := min (created+p.maxAgeMs) (s.now+p.idleTimeoutMs)
        endedAt := none
        endReason := none
        isActive := true}
      else if row.userId=some userId ∧ row.isActive=true then
        {row with isActive := false,endedAt := some s.now,endReason := some .replaced}
      else row}

def endSession (s : State) (sid : String) (reason : EndReason) : State :=
  let t:=markEnded s sid reason
  {t with rows := update t.rows sid ((t.rows sid).map fun row => {row with session := .empty})}

/-- The first statement of `cleanup`. -/
def expireStale (s : State) : State :=
  {s with rows := fun sid => (s.rows sid).map fun row =>
      if row.isActive ∧ (row.expiresAt ≤ s.now ∨ s.now-row.createdAt>p.maxAgeMs ∨
          s.now-row.lastActivityAt>p.idleTimeoutMs) then
        { row with
          isActive := false
          endedAt := row.endedAt <|> some s.now
          endReason := row.endReason <|> some .idle}
      else row}

def deleteAnonymous (s : State) : State :=
  {s with rows := fun sid => (s.rows sid).filter fun row =>
      ¬ (row.userId=none ∧ row.expiresAt ≤ s.now-24*60*60*1000)}

/-- What `establishAuthenticatedSession` makes of the request's session. -/
def loginSession (now : ℤ) (userId : ℕ) : Sess where
  userId := some userId
  createdAt := some now
  lastActivityAt := some now
  expires := some (now+min p.idleTimeoutMs p.maxAgeMs)

/-- `establishAuthenticatedSession`, when no other request is served before it is through. -/
def establishAuthenticatedSession (s : State) (sid : String) (userId : ℕ) : State :=
  activateExclusiveSession p (set p s sid (loginSession p s.now userId)) sid userId (some s.now) (some s.now)

def touchActivity (now : ℤ) (sess : Sess) : Except EndReason Sess :=
  match sess.userId with
  | none => .ok sess
  | some _ =>
    let createdAt:=numberOr sess.createdAt now
    if now-createdAt>p.maxAgeMs then .error .maxAge
    else if now-numberOr sess.lastActivityAt createdAt>p.idleTimeoutMs then .error .idle
    else
      let nextIdle:=min p.idleTimeoutMs (createdAt+p.maxAgeMs-now)
      if nextIdle≤0 then .error .maxAge
      else .ok {sess with
        createdAt := some createdAt
        lastActivityAt := some now
        expires := some (now+nextIdle)}

inductive Event where
  | advance (ms : ℕ)
  | get (sid : String)
  | set (sid : String) (sess : Sess)
  | touch (sid : String) (sess : Sess)
  | destroy (sid : String)
  | regenerate (sid : String)
  | activate (sid : String) (userId : ℕ) (createdAt lastActivityAt : Option ℤ)
  | login (sid : String) (userId : ℕ)
  | endSession (sid : String) (reason : EndReason)
  | cleanup

/-- The row shows that its session ended: it was marked, or is idle or too old now. -/
def Row.over (now : ℤ) (row : Row) : Bool :=
  !row.isActive||decide (now-row.createdAt>p.maxAgeMs)||decide (now-row.lastActivityAt>p.idleTimeoutMs)

def record (s : State) : State :=
  {s with ended := fun sid => s.ended sid||(s.rows sid).any (Row.over p s.now)}

def State.ending (s : State) (sid : String) : State := {s with ended := update s.ended sid true}

def operate (s : State) : Event → State
  | .advance ms => {s with now := s.now+ms}
  | .get sid => (get p s sid).1
  | .set sid sess => set p s sid sess
  | .touch sid sess => touch p s sid sess
  | .destroy sid => (destroy s sid).ending sid
  | .regenerate sid => (destroy s sid).ending sid
  | .activate sid userId createdAt lastActivityAt =>
    activateExclusiveSession p s sid userId createdAt lastActivityAt
  | .login sid userId => establishAuthenticatedSession p s sid userId
  | .endSession sid reason => (endSession s sid reason).ending sid
  | .cleanup => deleteAnonymous (record p (expireStale p s))

def step (s : State) (e : Event) : Option State := some (record p (operate p s e))

def start (clock : ℕ+) : State := ⟨clock,fun _ => none,fun _ => false⟩

def Exclusive (s : State) : Prop :=
  ∀ sid sid' row row' user, s.rows sid=some row → s.rows sid'=some row' → row.isActive=true →
    row'.isActive=true → row.userId=some user → row'.userId=some user → sid=sid'

structure Holds (s : State) : Prop where
  exclusive : Exclusive s
  gone : ∀ sid, s.ended sid=true → (get p s sid).2=none
  bounded : ∀ sid sess, (get p s sid).2=some sess →
    ∃ row, s.rows sid=some row ∧ s.now≤row.createdAt+p.maxAgeMs

def Fresh (now created last expires : ℤ) : Prop :=
  now≤created+p.maxAgeMs ∧ now≤last+p.idleTimeoutMs ∧ now<expires

def Alone (s : State) (sid : String) (user : Option ℕ) : Prop :=
  ∀ other row, other≠sid → s.rows other=some row → row.isActive=true → user≠none → row.userId≠user

def StepOk (s : State) : Event → Prop
  | .set sid sess => match s.rows sid with
    | none => Alone s sid sess.userId ∧ (s.ended sid=true →
        ¬ Fresh p s.now (numberOr sess.createdAt s.now) (numberOr sess.lastActivityAt s.now) (expiresAt p s.now sess))
    | some row => row.isActive=true → Alone s sid (sess.userId <|> row.userId) ∧ (s.ended sid=true →
        ¬ Fresh p s.now row.createdAt (numberOr sess.lastActivityAt s.now) (expiresAt p s.now sess))
  | .touch sid sess => ∀ row, s.rows sid=some row → row.isActive=true → s.ended sid=true →
      ¬ Fresh p s.now row.createdAt (numberOr sess.lastActivityAt s.now) (expiresAt p s.now sess)
  | .activate sid _ createdAt lastActivityAt => s.ended sid=true → s.rows sid≠none →
      ¬ Fresh p s.now (numberOr createdAt s.now) (numberOr lastActivityAt s.now)
        (min (numberOr createdAt s.now+p.maxAgeMs) (s.now+p.idleTimeoutMs))
  | .login sid _ => s.ended sid=false
  | _ => True

/-- The row is one that `get` returns. -/
def Row.live (now : ℤ) (row : Row) : Prop :=
  row.isActive=true ∧ Fresh p now row.createdAt row.lastActivityAt row.expiresAt

structure Inv (s : State) : Prop where
  clock : 0 < s.now
  created : ∀ sid row, s.rows sid=some row → row.createdAt≠0
  active : ∀ sid row, s.rows sid=some row → row.lastActivityAt≠0

variable {p} {s t : State} {sid : String} {row : Row}

theorem numberOr_ne_zero {x : Option ℤ} {d : ℤ} (h : d≠0) : numberOr x d≠0 := by
  unfold numberOr
  split
  · exact h
  · assumption

theorem rowExpired_eq_none_iff {now : ℤ} (hcreated : row.createdAt≠0) (hactive : row.lastActivityAt≠0) :
    rowExpired p row now=none ↔ row.live p now := by
  have hlast : numberOr (some row.lastActivityAt) (numberOr (some row.createdAt) now)=row.lastActivityAt := by
    simp [numberOr,hactive]
  unfold rowExpired Row.live Fresh
  simp only [hlast]
  cases row.isActive with
  | false => simp
  | true =>
    by_cases hage : now-row.createdAt>p.maxAgeMs
    · simp [hcreated,hage]
      omega
    · by_cases hidle : now-row.lastActivityAt>p.idleTimeoutMs
      · simp [hcreated,hactive,hage,hidle]
        omega
      · by_cases hexpires : row.expiresAt≤now
        · simp [hage,hidle,hexpires]
        · simp [hage,hidle,hexpires]
          omega

theorem Row.live_earlier {now now' : ℤ} (hle : now≤now') (h : row.live p now') : row.live p now := by
  obtain ⟨hactive,hage,hidle,hexpires⟩:=h
  exact ⟨hactive,by omega,by omega,by omega⟩

theorem Row.not_live_of_over {now : ℤ} (h : row.over p now=true) : ¬ row.live p now := by
  unfold Row.over at h
  unfold Row.live Fresh
  simp only [or_eq_true,not_eq_true',decide_eq_true_eq] at h
  rcases h with (h | h) | h
  · simp [h]
  · omega
  · omega

theorem get_eq_none_iff (hinv : Inv s) : (get p s sid).2=none ↔ ∀ row, s.rows sid=some row → ¬ row.live p s.now := by
  unfold get
  cases hrow : s.rows sid with
  | none => simp
  | some row =>
    have hiff := @rowExpired_eq_none_iff p row s.now (hinv.created sid row hrow) (hinv.active sid row hrow)
    cases hexpired : rowExpired p row s.now with
    | none =>
      have hlive:=hiff.mp hexpired
      simp [hexpired,hlive]
    | some reason =>
      have hlive : ¬ row.live p s.now := fun h => by
        rw [hiff.mpr h] at hexpired
        cases hexpired
      simp [hexpired,hlive]

theorem get_eq_some (hinv : Inv s) {sess : Sess} (h : (get p s sid).2=some sess) :
    ∃ row, s.rows sid=some row ∧ row.live p s.now := by
  by_contra hnone
  have hget:=(@get_eq_none_iff p s sid hinv).mpr fun row hrow hlive => hnone ⟨row,hrow,hlive⟩
  rw [hget] at h
  cases h

theorem touchActivity_eq {now start last : ℤ} {sess : Sess} (huser : sess.userId≠none)
    (hcreated : sess.createdAt=some start) (hlast : sess.lastActivityAt=some last) (hs : start≠0) (hl : last≠0) :
    (touchActivity p now sess).toOption = if now≤last+p.idleTimeoutMs ∧ now<start+p.maxAgeMs then
        some {sess with
          lastActivityAt := some now
          expires := some (now+min p.idleTimeoutMs (start+p.maxAgeMs-now))}
      else none := by
  obtain ⟨user,huser⟩:=ne_none_iff_exists'.mp huser
  have hidle:=p.idle_pos
  simp only [touchActivity,huser,hcreated,hlast,numberOr,getD_some,if_neg hs,if_neg hl]
  by_cases hok : now≤last+p.idleTimeoutMs ∧ now<start+p.maxAgeMs
  · rw [if_neg (by omega),if_neg (by omega),if_neg (by omega),if_pos hok]
    rfl
  · rw [if_neg hok]
    split
    · rfl
    · split
      · rfl
      · rw [if_pos (by omega)]
        rfl

/-- Requests keep a session alive exactly when each comes within the idle timeout of the one before it
and none when the session is of its full age. -/
theorem alive_iff {start last : ℤ} {sess : Sess} {times : List ℤ} (huser : sess.userId≠none)
    (hcreated : sess.createdAt=some start) (hlast : sess.lastActivityAt=some last) (hs : start≠0) (hl : last≠0)
    (ht : ∀ t∈times,t≠0) : (exec (fun sess now => (touchActivity p now sess).toOption) sess times).isSome=true ↔
      List.IsChain (fun a b => b≤a+p.idleTimeoutMs) (last::times) ∧ ∀ t∈times,t<start+p.maxAgeMs := by
  induction times generalizing sess last with
  | nil => simp
  | cons now rest ih =>
    rw [exec_cons,touchActivity_eq huser hcreated hlast hs hl,List.isChain_cons_cons,List.forall_mem_cons]
    obtain ⟨hnow,hrest⟩:=List.forall_mem_cons.mp ht
    by_cases hok : now≤last+p.idleTimeoutMs ∧ now<start+p.maxAgeMs
    · rw [if_pos hok,bind_some]
      apply Iff.trans
      · exact ih huser hcreated rfl hnow hrest
      · simp [hok]
    · rw [if_neg hok]
      simp only [bind_none,isSome_none]
      grind

/-- Half an hour idle and eight hours in all. -/
def office : Policy := .configured 1800000 28800000

theorem alive_at_desk :
    (exec (fun sess now => (touchActivity office now sess).toOption) (loginSession office 1 7) [1800001,3600000]).isSome=true ↔
      List.IsChain (fun a b => b≤a+office.idleTimeoutMs) [1,1800001,3600000] ∧
        ∀ t∈[1800001,3600000],t<1+office.maxAgeMs :=
  alive_iff nofun rfl rfl one_ne_zero one_ne_zero (by decide)

/-- The promise for all sessions but those that `out` leaves out. -/
structure KeptBut (p : Policy) (out : String → Prop) (s : State) : Prop where
  exclusive : ∀ sid sid' row row' user, ¬ out sid → ¬ out sid' → s.rows sid=some row → s.rows sid'=some row' →
    row.isActive=true → row'.isActive=true → row.userId=some user → row'.userId=some user → sid=sid'
  gone : ∀ sid row, ¬ out sid → s.ended sid=true → s.rows sid=some row → ¬ row.live p s.now

def Kept (p : Policy) (s : State) : Prop := KeptBut p (fun _ => False) s

theorem Kept.but (h : Kept p s) (out : String → Prop) : KeptBut p out s where
  exclusive sid sid' row row' user _ _ := h.exclusive sid sid' row row' user id id
  gone sid row _ := h.gone sid row id

theorem holds_iff (hinv : Inv s) : Holds p s ↔ Kept p s := by
  constructor
  · intro h
    exact ⟨fun sid sid' row row' user _ _ => h.exclusive sid sid' row row' user,
      fun sid row _ hended => (get_eq_none_iff hinv).mp (h.gone sid hended) row⟩
  · intro h
    refine ⟨fun sid sid' row row' user => h.exclusive sid sid' row row' user id id,fun sid hended => ?_,
      fun sid sess hget => ?_⟩
    · exact (get_eq_none_iff hinv).mpr fun row => h.gone sid row id hended
    · obtain ⟨row,hrow,hlive⟩:=get_eq_some hinv hget
      exact ⟨row,hrow,hlive.2.1⟩

theorem kept_record : Kept p (record p s) ↔ Kept p s := by
  constructor
  · intro h
    refine ⟨h.exclusive,fun sid row hout hended => h.gone sid row hout ?_⟩
    simp [record,hended]
  · intro h
    refine ⟨h.exclusive,fun sid row hout hended hrow => ?_⟩
    have hrow' : s.rows sid=some row := hrow
    simp only [record,hrow',any_some,or_eq_true] at hended
    cases hended with
    | inl hended => exact h.gone sid row hout hended hrow
    | inr hover => exact Row.not_live_of_over hover

/-- Active rows were there before, the times in the rows stay, and what ends has no active row. -/
structure Quiet (s t : State) : Prop where
  now : s.now≤t.now
  rows : ∀ sid row, t.rows sid=some row → row.isActive=true → s.rows sid=some row
  times : ∀ sid row, t.rows sid=some row → ∃ row0, s.rows sid=some row0 ∧
    row.createdAt=row0.createdAt ∧ row.lastActivityAt=row0.lastActivityAt
  ended : ∀ sid row, t.ended sid=true → t.rows sid=some row → row.isActive=true → s.ended sid=true

theorem Quiet.kept (h : Quiet s t) (hk : Kept p s) : Kept p t where
  exclusive sid sid' row row' user hout hout' hrow hrow' ha ha' :=
    hk.exclusive sid sid' row row' user hout hout' (h.rows sid row hrow ha) (h.rows sid' row' hrow' ha') ha ha'
  gone sid row hout hended hrow hlive :=
    hk.gone sid row hout (h.ended sid row hended hrow hlive.1) (h.rows sid row hrow hlive.1)
      (Row.live_earlier h.now hlive)

theorem Quiet.inv (h : Quiet s t) (hinv : Inv s) : Inv t where
  clock := by
    have hnow:=h.now
    have hclock:=hinv.clock
    omega
  created sid row hrow := by
    obtain ⟨row0,hrow0,hcreated,-⟩:=h.times sid row hrow
    rw [hcreated]
    exact hinv.created sid row0 hrow0
  active sid row hrow := by
    obtain ⟨row0,hrow0,-,hactive⟩:=h.times sid row hrow
    rw [hactive]
    exact hinv.active sid row0 hrow0

theorem quiet_self (s : State) : Quiet s s :=
  ⟨le_refl _,fun _ _ hrow _ => hrow,fun _ row hrow => ⟨row,hrow,rfl,rfl⟩,fun _ _ hended _ _ => hended⟩

theorem quiet_map (s : State) (f : String → Row → Row) (hf : ∀ sid row, f sid row=row ∨ (f sid row).isActive=false)
    (htimes : ∀ sid row, (f sid row).createdAt=row.createdAt ∧ (f sid row).lastActivityAt=row.lastActivityAt) :
    Quiet s {s with rows := fun sid => (s.rows sid).map (f sid)} := by
  refine ⟨le_refl _,fun sid row hrow hactive => ?_,fun sid row hrow => ?_,fun sid row hended _ _ => hended⟩
  · obtain ⟨row0,hrow0,rfl⟩:=map_eq_some_iff.mp hrow
    rcases hf sid row0 with h | h
    · rw [h]
      exact hrow0
    · rw [h] at hactive
      cases hactive
  · obtain ⟨row0,hrow0,rfl⟩:=map_eq_some_iff.mp hrow
    exact ⟨row0,hrow0,htimes sid row0⟩

theorem Row.marked_inactive (now : ℤ) (reason : EndReason) (row : Row) : (row.marked now reason).isActive=false := by
  unfold Row.marked
  split
  · rfl
  · exact not_eq_true _ |>.mp ‹_›

theorem Row.marked_times (now : ℤ) (reason : EndReason) (row : Row) :
    (row.marked now reason).createdAt=row.createdAt ∧ (row.marked now reason).lastActivityAt=row.lastActivityAt := by
  unfold Row.marked
  split <;> exact ⟨rfl,rfl⟩

theorem update_map_eq (rows : String → Option Row) (sid : String) (f : Row → Row) :
    update rows sid ((rows sid).map f) = fun other => (rows other).map (if other=sid then f else id) := by
  funext other
  by_cases hother : other=sid
  · subst hother
    simp
  · simp [hother]

theorem quiet_close (s : State) (sid : String) (f : Row → Row) (hf : ∀ row, (f row).isActive=false)
    (htimes : ∀ row, (f row).createdAt=row.createdAt ∧ (f row).lastActivityAt=row.lastActivityAt) :
    Quiet s {s with rows := update s.rows sid ((s.rows sid).map f)} := by
  rw [update_map_eq]
  apply quiet_map
  · intro other row
    by_cases hother : other=sid
    · simp [hother,hf]
    · simp [hother]
  · intro other row
    by_cases hother : other=sid
    · simpa [hother] using htimes row
    · simp [hother]

theorem Quiet.ending (h : Quiet s t) (hclosed : ∀ row, t.rows sid=some row → row.isActive=false) :
    Quiet s (t.ending sid) := by
  refine ⟨h.now,h.rows,h.times,fun other row hended hrow hactive => ?_⟩
  by_cases hother : other=sid
  · subst hother
    rw [hclosed row hrow] at hactive
    cases hactive
  · refine h.ended other row ?_ hrow hactive
    simpa [State.ending,hother] using hended

theorem quiet_markEnded (s : State) (sid : String) (reason : EndReason) (f : Row → Row)
    (hf : ∀ row, (f row).isActive=row.isActive)
    (htimes : ∀ row, (f row).createdAt=row.createdAt ∧ (f row).lastActivityAt=row.lastActivityAt) :
    Quiet s (State.ending {markEnded s sid reason with
      rows := update (markEnded s sid reason).rows sid (((markEnded s sid reason).rows sid).map f)} sid) := by
  have hrows : update (markEnded s sid reason).rows sid (((markEnded s sid reason).rows sid).map f) =
      update s.rows sid ((s.rows sid).map fun row => f (row.marked s.now reason)) := by
    simp only [markEnded,update_self,update_idem,map_map]
    rfl
  have hclosed (row : Row) : (f (row.marked s.now reason)).isActive=false := by
    rw [hf,Row.marked_inactive]
  rw [hrows]
  apply Quiet.ending
  · apply quiet_close s sid _ hclosed
    intro row
    rw [(htimes _).1,(htimes _).2]
    exact Row.marked_times s.now reason row
  · intro row hrow
    dsimp only at hrow
    rw [update_self] at hrow
    obtain ⟨row0,-,rfl⟩:=map_eq_some_iff.mp hrow
    exact hclosed row0

theorem quiet_destroy (s : State) (sid : String) : Quiet s ((destroy s sid).ending sid) :=
  quiet_markEnded s sid .destroyed _ (fun _ => rfl) fun _ => ⟨rfl,rfl⟩

theorem quiet_endSession (s : State) (sid : String) (reason : EndReason) :
    Quiet s ((endSession s sid reason).ending sid) :=
  quiet_markEnded s sid reason _ (fun _ => rfl) fun _ => ⟨rfl,rfl⟩

theorem quiet_get (s : State) (sid : String) : Quiet s (get p s sid).1 := by
  unfold get
  split
  · exact quiet_self s
  · split
    · split
      · exact quiet_close s sid _ (Row.marked_inactive _ _) (Row.marked_times _ _)
      · exact quiet_self s
    · exact quiet_self s

theorem quiet_advance (s : State) (ms : ℕ) : Quiet s {s with now := s.now+ms} :=
  ⟨by dsimp only; omega,fun _ _ hrow _ => hrow,fun _ row hrow => ⟨row,hrow,rfl,rfl⟩,fun _ _ hended _ _ => hended⟩

theorem quiet_expireStale (s : State) : Quiet s (expireStale p s) := by
  apply quiet_map
  · intro sid row
    split
    · exact .inr rfl
    · exact .inl rfl
  · intro sid row
    split <;> exact ⟨rfl,rfl⟩

theorem quiet_deleteAnonymous (s : State) : Quiet s (deleteAnonymous s) := by
  refine ⟨le_refl _,fun sid row hrow _ => (filter_eq_some_iff.mp hrow).1,fun sid row hrow => ?_,
    fun sid row hended _ _ => hended⟩
  exact ⟨row,(filter_eq_some_iff.mp hrow).1,rfl,rfl⟩

theorem kept_update (hk : Kept p s) :
    Kept p {s with rows := update s.rows sid (some row)} ↔
      (row.isActive=true → Alone s sid row.userId ∧
        (s.ended sid=true → ¬ Fresh p s.now row.createdAt row.lastActivityAt row.expiresAt)) := by
  constructor
  · intro h hactive
    constructor
    · intro other row' hother hrow' hactive' huser hsame
      obtain ⟨user,huser⟩:=ne_none_iff_exists'.mp huser
      refine hother (h.exclusive other sid row' row user id id ?_ ?_ hactive' hactive (hsame.trans huser) huser)
      · simpa [hother] using hrow'
      · simp
    · intro hended hfresh
      exact h.gone sid row id hended (by simp) ⟨hactive,hfresh⟩
  · intro h
    have hother {other : String} {row' : Row} (hne : other≠sid)
        (hrow : (update s.rows sid (some row)) other=some row') : s.rows other=some row' := by
      rwa [update_of_ne hne] at hrow
    have hself {row' : Row} (hrow : (update s.rows sid (some row)) sid=some row') : row'=row := by
      simpa using hrow.symm
    constructor
    · intro a b rowa rowb user _ _ hrowa hrowb ha hb hua hub
      by_cases hasid : a=sid
      · by_cases hbsid : b=sid
        · rw [hasid,hbsid]
        · subst hasid
          have hrow:=hself hrowa
          subst hrow
          exact absurd (hub.trans hua.symm) ((h ha).1 b rowb hbsid (hother hbsid hrowb) hb (by simp [hua]))
      · by_cases hbsid : b=sid
        · subst hbsid
          have hrow:=hself hrowb
          subst hrow
          exact absurd (hua.trans hub.symm) ((h hb).1 a rowa hasid (hother hasid hrowa) ha (by simp [hub]))
        · exact hk.exclusive a b rowa rowb user id id (hother hasid hrowa) (hother hbsid hrowb) ha hb hua hub
    · intro a rowa _ hended hrowa hlive
      by_cases hasid : a=sid
      · subst hasid
        have hrow:=hself hrowa
        subst hrow
        exact (h hlive.1).2 hended hlive.2
      · exact hk.gone a rowa id hended (hother hasid hrowa) hlive

theorem kept_set_iff (hk : Kept p s) (sess : Sess) : Kept p (set p s sid sess) ↔ StepOk p s (.set sid sess) := by
  unfold set StepOk
  rw [kept_update hk]
  cases hrow : s.rows sid with
  | none | some => simp [hrow]

theorem kept_touch_iff (hk : Kept p s) (sess : Sess) : Kept p (touch p s sid sess) ↔ StepOk p s (.touch sid sess) := by
  unfold touch StepOk
  cases hrow : s.rows sid with
  | none =>
    have hsame : update s.rows sid none=s.rows := by
      rw [← hrow,update_eq_self]
    simp [hsame,hk,hrow]
  | some row =>
    rw [map_some,kept_update hk]
    cases hactive : row.isActive with
    | false => simp [hactive,hrow]
    | true =>
      have halone : Alone s sid row.userId := by
        intro other row' hother hrow' hactive' huser hsame
        obtain ⟨user,huser⟩:=ne_none_iff_exists'.mp huser
        exact hother (hk.exclusive other sid row' row user id id hrow' hrow hactive' hactive (hsame.trans huser) huser)
      simp [hactive,halone,hrow]

theorem kept_activate_iff (hk : KeptBut p (·=sid) s) (userId : ℕ) (createdAt lastActivityAt : Option ℤ) :
    Kept p (activateExclusiveSession p s sid userId createdAt lastActivityAt) ↔
      StepOk p s (.activate sid userId createdAt lastActivityAt) := by
  unfold StepOk
  constructor
  · intro h hended hrow hfresh
    obtain ⟨row,hrow⟩:=ne_none_iff_exists'.mp hrow
    have hwritten : ∃ row', (activateExclusiveSession p s sid userId createdAt lastActivityAt).rows sid=some row' ∧
        row'.live p s.now := by
      refine ⟨_,by simp only [activateExclusiveSession,hrow,map_some,if_true]; rfl,rfl,hfresh⟩
    obtain ⟨row',hrow',hlive⟩:=hwritten
    exact h.gone sid row' id hended hrow' hlive
  · intro h
    -- an active row of another session is as it was, and not of this user
    have hother {other : String} {row' : Row} (hne : other≠sid)
        (hrow : (activateExclusiveSession p s sid userId createdAt lastActivityAt).rows other=some row')
        (hactive : row'.isActive=true) : s.rows other=some row' ∧ row'.userId≠some userId := by
      obtain ⟨row,hrow0,rfl⟩:=map_eq_some_iff.mp hrow
      rw [if_neg hne] at hactive ⊢
      split at hactive
      · cases hactive
      · rename_i hnot
        rw [if_neg hnot]
        exact ⟨hrow0,fun huser => hnot ⟨huser,hactive⟩⟩
    have hself {row' : Row}
        (hrow : (activateExclusiveSession p s sid userId createdAt lastActivityAt).rows sid=some row') :
        row'.userId=some userId := by
      obtain ⟨row,-,rfl⟩:=map_eq_some_iff.mp hrow
      rw [if_pos rfl]
    constructor
    · intro a b rowa rowb user _ _ hrowa hrowb ha hb hua hub
      by_cases hasid : a=sid
      · by_cases hbsid : b=sid
        · rw [hasid,hbsid]
        · subst hasid
          exact absurd (hub.trans (hua.symm.trans (hself hrowa))) (hother hbsid hrowb hb).2
      · by_cases hbsid : b=sid
        · subst hbsid
          exact absurd (hua.trans (hub.symm.trans (hself hrowb))) (hother hasid hrowa ha).2
        · exact hk.exclusive a b rowa rowb user hasid hbsid (hother hasid hrowa ha).1 (hother hbsid hrowb hb).1 ha hb
            hua hub
    · intro a rowa _ hended hrowa hlive
      by_cases hasid : a=sid
      · subst hasid
        obtain ⟨row,hrow0,rfl⟩:=map_eq_some_iff.mp hrowa
        refine h hended (by simp [hrow0]) ?_
        have hfresh:=hlive.2
        rwa [if_pos rfl] at hfresh
      · exact hk.gone a rowa hasid hended (hother hasid hrowa hlive.1).1 hlive

theorem kept_login_iff (hk : Kept p s) (userId : ℕ) :
    Kept p (establishAuthenticatedSession p s sid userId) ↔ s.ended sid=false := by
  have hset : KeptBut p (·=sid) (set p s sid (loginSession p s.now userId)) := by
    constructor
    · intro a b rowa rowb user ha hb hrowa hrowb
      refine hk.exclusive a b rowa rowb user id id ?_ ?_
      · simpa [set,update_of_ne ha] using hrowa
      · simpa [set,update_of_ne hb] using hrowb
    · intro a rowa ha hended hrowa
      refine hk.gone a rowa id hended ?_
      simpa [set,update_of_ne ha] using hrowa
  unfold establishAuthenticatedSession
  rw [kept_activate_iff hset]
  have hidle:=p.idle_pos
  have hle:=p.idle_le
  have hfresh : numberOr (some s.now) s.now=s.now := by
    unfold numberOr
    split
    · rfl
    · rfl
  have hwritten : Fresh p s.now s.now s.now (min (s.now+p.maxAgeMs) (s.now+p.idleTimeoutMs)) :=
    ⟨by omega,by omega,by omega⟩
  show ((set p s sid (loginSession p s.now userId)).ended sid=true →
    (set p s sid (loginSession p s.now userId)).rows sid≠none → ¬ Fresh p s.now (numberOr (some s.now) s.now)
      (numberOr (some s.now) s.now) (min (numberOr (some s.now) s.now+p.maxAgeMs) (s.now+p.idleTimeoutMs))) ↔ _
  rw [hfresh]
  constructor
  · intro h
    by_contra hended
    exact h (eq_true_of_not_eq_false hended) (by simp [set]) hwritten
  · intro hopen hended
    exact absurd (hended.symm.trans hopen) (by decide)

theorem inv_update (hinv : Inv s) (hcreated : row.createdAt≠0) (hactive : row.lastActivityAt≠0) :
    Inv {s with rows := update s.rows sid (some row)} := by
  refine ⟨hinv.clock,fun other row' hrow => ?_,fun other row' hrow => ?_⟩
  all_goals
    by_cases hother : other=sid
    · subst hother
      have hsame : row'=row := by simpa using hrow.symm
      rw [hsame]
      assumption
    · simp only [update_of_ne hother] at hrow
      first
        | exact hinv.created other row' hrow
        | exact hinv.active other row' hrow

theorem inv_set (hinv : Inv s) (sid : String) (sess : Sess) : Inv (set p s sid sess) := by
  have hnow : s.now≠0 := ne_of_gt hinv.clock
  unfold set
  apply inv_update hinv
  · split
    · exact numberOr_ne_zero hnow
    · rename_i row hrow
      exact hinv.created sid row hrow
  · split
    · exact numberOr_ne_zero hnow
    · exact numberOr_ne_zero hnow

theorem inv_touch (hinv : Inv s) (sid : String) (sess : Sess) : Inv (touch p s sid sess) := by
  unfold touch
  cases hrow : s.rows sid with
  | none =>
    rw [map_none,← hrow,update_eq_self]
    exact hinv
  | some row =>
    rw [map_some]
    apply inv_update hinv
    · split
      · exact hinv.created sid row hrow
      · exact hinv.created sid row hrow
    · split
      · exact numberOr_ne_zero (ne_of_gt hinv.clock)
      · exact hinv.active sid row hrow

theorem inv_activate (hinv : Inv s) (sid : String) (userId : ℕ) (createdAt lastActivityAt : Option ℤ) :
    Inv (activateExclusiveSession p s sid userId createdAt lastActivityAt) := by
  have hnow : s.now≠0 := ne_of_gt hinv.clock
  refine ⟨hinv.clock,fun other row' hrow => ?_,fun other row' hrow => ?_⟩
  · obtain ⟨row,hrow0,rfl⟩:=map_eq_some_iff.mp hrow
    have hcreated:=hinv.created other row hrow0
    split
    · exact numberOr_ne_zero hnow
    · split <;> exact hcreated
  · obtain ⟨row,hrow0,rfl⟩:=map_eq_some_iff.mp hrow
    have hactive:=hinv.active other row hrow0
    split
    · exact numberOr_ne_zero hnow
    · split <;> exact hactive

theorem inv_operate (e : Event) (hinv : Inv s) : Inv (operate p s e) := by
  cases e with
  | advance ms => exact (quiet_advance s ms).inv hinv
  | get sid => exact (quiet_get s sid).inv hinv
  | set sid sess => exact inv_set hinv sid sess
  | touch sid sess => exact inv_touch hinv sid sess
  | destroy sid | regenerate sid => exact (quiet_destroy s sid).inv hinv
  | activate sid userId createdAt lastActivityAt => exact inv_activate hinv sid userId createdAt lastActivityAt
  | login sid userId => exact inv_activate (inv_set hinv sid _) sid userId _ _
  | endSession sid reason => exact (quiet_endSession s sid reason).inv hinv
  | cleanup =>
    have hexpired:=(quiet_expireStale (p := p) s).inv hinv
    have hrecorded : Inv (record p (expireStale p s)) := ⟨hexpired.clock,hexpired.created,hexpired.active⟩
    exact (quiet_deleteAnonymous _).inv hrecorded

theorem kept_operate_iff (e : Event) (hk : Kept p s) : Kept p (operate p s e) ↔ StepOk p s e := by
  cases e with
  | advance ms => exact iff_of_true ((quiet_advance s ms).kept hk) trivial
  | get sid => exact iff_of_true ((quiet_get s sid).kept hk) trivial
  | set sid sess => exact kept_set_iff hk sess
  | touch sid sess => exact kept_touch_iff hk sess
  | destroy sid | regenerate sid => exact iff_of_true ((quiet_destroy s sid).kept hk) trivial
  | activate sid userId createdAt lastActivityAt =>
    exact kept_activate_iff (hk.but _) userId createdAt lastActivityAt
  | login sid userId => exact kept_login_iff hk userId
  | endSession sid reason => exact iff_of_true ((quiet_endSession s sid reason).kept hk) trivial
  | cleanup =>
    have hrecorded:=kept_record.mpr ((quiet_expireStale (p := p) s).kept hk)
    exact iff_of_true ((quiet_deleteAnonymous _).kept hrecorded) trivial

theorem inv_step {e : Event} (hinv : Inv s) (h : step p s e=some t) : Inv t := by
  cases h
  have hoperate:=inv_operate (p := p) e hinv
  exact ⟨hoperate.clock,hoperate.created,hoperate.active⟩

theorem holds_step_iff {e : Event} (hinv : Inv s) (hk : Holds p s) :
    (∀ t, step p s e=some t → Holds p t) ↔ StepOk p s e := by
  have hinv' : Inv (record p (operate p s e)) := inv_step hinv rfl
  rw [← kept_operate_iff e ((holds_iff hinv).mp hk),← kept_record,← holds_iff hinv']
  constructor
  · intro h
    exact h _ rfl
  · intro h t ht
    cases ht
    exact h

theorem inv_start (clock : ℕ+) : Inv (start clock) := by
  refine ⟨?_,fun sid row hrow => ?_,fun sid row hrow => ?_⟩
  · have hpos:=clock.pos
    unfold start
    dsimp only
    omega
  · cases hrow
  · cases hrow

theorem holds_start (clock : ℕ+) : Holds p (start clock) := by
  rw [holds_iff (inv_start clock)]
  constructor
  · intro sid sid' row row' user _ _ hrow
    cases hrow
  · intro sid row _ hended
    cases hended

/-- A store's sessions are exclusive and stay ended through a run exactly when no write gives a user
a second active row, and no write or activation opens a session that has ended. -/
theorem sessions_exclusive_and_ended_iff (p : Policy) (clock : ℕ+) (es : List Event) :
    (∀ pre, pre <+: es → ∀ s, exec (step p) (start clock) pre=some s → Holds p s) ↔
      Along (step p) (StepOk p) (start clock) es := by
  rw [along_reached_iff (holds_start clock)]
  apply along_iff_of_keep (fun s => Inv s ∧ Holds p s)
  · intro s e t hs hok ht
    exact ⟨inv_step hs.1 ht,hok t ht⟩
  · intro s e hs
    exact holds_step_iff hs.1 hs.2
  · exact ⟨inv_start clock,holds_start clock⟩

def testPolicy : Policy := .configured 60000 86400000

/-- A session object of a user, as a request writes it at `now`. -/
def written (now : ℤ) (user : ℕ) : Sess := ⟨some user,some now,some now,some (now+60000)⟩

/-- A second login of user 7, up to its `set`: both sessions are active. -/
def secondLogin : List Event := [.login "a" 7,.advance 1000,.set "b" (written 1001 7)]

/-- No request for over a minute, and then the end of one that read the session before that. -/
def lateTouch : List Event := [.login "a" 7,.advance 61000,.touch "a" (written 61001 7)]

/-- Two logins at the same time; the one that writes last displaces the other one, which then
activates its own session again. -/
def crossedLogins : List Event :=
  [.set "a" (written 1 7),.set "b" (written 1 7),.activate "b" 7 (some 1) (some 1),.activate "a" 7 (some 1) (some 1)]

theorem logins_and_touches_break_the_promise :
    ¬ (∀ (es : List Event) (s : State), exec (step testPolicy) (start 1) es=some s → Holds testPolicy s) ∧
    (∃ s, exec (step testPolicy) (start 1) secondLogin=some s ∧
      (get testPolicy s "a").2.isSome=true ∧ (get testPolicy s "b").2.isSome=true) ∧
    (∃ s, exec (step testPolicy) (start 1) lateTouch=some s ∧
      s.ended "a" = true ∧ (get testPolicy s "a").2.isSome=true) ∧
    (∃ s, exec (step testPolicy) (start 1) crossedLogins=some s ∧
      s.ended "a" = true ∧ (get testPolicy s "a").2.isSome=true) := by
  have hlate : ∃ s, exec (step testPolicy) (start 1) lateTouch=some s ∧
      s.ended "a" = true ∧ (get testPolicy s "a").2.isSome=true := ⟨_,rfl,by decide,by decide⟩
  refine ⟨fun h => ?_,⟨_,rfl,by decide,by decide⟩,hlate,⟨_,rfl,by decide,by decide⟩⟩
  obtain ⟨s,hs,hended,hget⟩:=hlate
  rw [(h lateTouch s hs).gone "a" hended] at hget
  cases hget

end BetterDesk.Panel.SessionStore
