import BetterDesk.Signal.Fallbacks

/-! # What a call has at hand between two operations -/

namespace BetterDesk.Signal.Fallbacks
open Db Programs Monitor Function

namespace Actor

def exchange : Actor → Option ℕ
  | .timer n => some n
  | .superseding n => some n
  | .failedSend n => some n
  | .localAddr n => some n
  | .punchHoleSent _ _ => none
  | .sweep => none

/-- It may answer the initiator of `n`. -/
def AnswersFor (n : ℕ) : Actor → Prop
  | .timer m => m=n
  | .failedSend m => m=n
  | .localAddr m => m=n
  | _ => False

end Actor

def Slot.isLAN : Slot → Bool
  | .punch _ => false
  | .lan _ _ => true

/-- `took` has taken `m` out of the map, `removing` and `closing` have set its flag. -/
inductive Stage
  | idle
  | made (slot : Slot) (n : ℕ)
  | displacing (slot : Slot) (n : ℕ)
  | took (slot : Slot) (m : ℕ) (a : Actor)
  | storing (slot : Slot) (n : ℕ)
  | sending (slot : Slot) (n : ℕ)
  | loaded (slot : Slot) (n : ℕ)
  | started (slot : Slot) (n : ℕ)
  | removing (slot : Slot) (n : ℕ)
  | closing (slot : Slot) (m : Option ℕ) (a : Actor)
  | finished

namespace Stage

def Takes (slot : Slot) : Actor → Prop
  | .punchHoleSent _ initiator => slot=.punch initiator
  | _ => False

def Retakes (slot : Slot) (n : ℕ) : Actor → Prop
  | .localAddr m => slot.isLAN=true ∧ m=n
  | .sweep => slot.isLAN=false
  | _ => False

def Allowed : Stage → Op → Prop
  | .idle, .sendToPeer _ => True
  | .idle, .create _ _ => True
  | .idle, .load _ => True
  | .idle, .startTimer _ => True
  | .idle, .loadAndDelete slot a => Takes slot a
  | .made slot n, .loadOrStore slot' n' => slot.isLAN=true ∧ slot'=slot ∧ n'=n
  | .made slot n, .swap slot' n' => slot.isLAN=false ∧ slot'=slot ∧ n'=n
  | .displacing slot n, .loadAndDelete slot' a => slot'=slot ∧ a=.superseding n
  | .took slot m a, .swapFired slot' m' a' => slot'=slot ∧ m'=m ∧ a'=a ∧ (slot.isLAN=false → a.exchange=none)
  | .took slot m a, .storeFired slot' m' a' => slot.isLAN=false ∧ slot'=slot ∧ m'=m ∧ a'=a
  | .storing slot n, .stopTimer slot' _ a => slot'=slot ∧ a=.superseding n
  | .storing slot n, .store slot' n' => slot'=slot ∧ n'=n
  | .sending _ _, .sendToPeer _ => True
  | .sending slot n, .loadAndDelete slot' a => slot'=slot ∧ a=.failedSend n
  | .loaded slot n, .outdated slot' n' => slot'=slot ∧ n'=n
  | .loaded slot n, .accepts slot' n' => slot'=slot ∧ n'=n
  | .loaded slot n, .loadAndDelete slot' a => slot'=slot ∧ Retakes slot n a
  | .started slot n, .swapFired slot' n' a => slot'=slot ∧ n'=n ∧ a=.timer n
  | .removing slot n, .delete slot' n' => slot'=slot ∧ n'=n
  | .closing _ _ _, .stopTimer _ _ _ => True
  | .closing _ _ a, .answer n a' => a'=a ∧ a.AnswersFor n
  | .finished, .stopTimer _ _ _ => True
  | _, _ => False

def marked (slot : Slot) (m : ℕ) (a : Actor) (found : Bool) : Stage := match a with
  | .superseding n => .storing slot n
  | .failedSend _ => .closing slot (if found then none else some m) a
  | .localAddr _ => if found then .finished else .closing slot (some m) a
  | _ => .finished

def after : Stage → (op : Op) → Res op → Stage
  | .idle, .create slot _, n => .made slot n
  | .idle, .load slot, some n => .loaded slot n
  | .idle, .load _, none => .finished
  | .idle, .startTimer n, some slot => .started slot n
  | .idle, .startTimer _, none => .finished
  | .idle, .loadAndDelete slot a, some m => .took slot m a
  | .idle, .loadAndDelete _ _, none => .finished
  | .made slot n, .loadOrStore _ _, none => .sending slot n
  | .made slot n, .loadOrStore _ _, some _ => .displacing slot n
  | .made _ _, .swap _ _, none => .finished
  | .made slot n, .swap _ _, some old => .took slot old (.superseding n)
  | .displacing slot n, .loadAndDelete _ _, none => .storing slot n
  | .displacing slot n, .loadAndDelete _ _, some m => .took slot m (.superseding n)
  | .took slot m a, .swapFired _ _ _, found => marked slot m a found
  | .took _ _ _, .storeFired _ _ _, _ => .finished
  | .storing slot n, .store _ _, _ => .sending slot n
  | .sending slot n, .loadAndDelete _ _, none => .closing slot none (.failedSend n)
  | .sending slot n, .loadAndDelete _ _, some m => .took slot m (.failedSend n)
  | .loaded slot n, .outdated _ _, old => if slot.isLAN||old then .loaded slot n else .finished
  | .loaded slot n, .accepts _ _, accepted => if accepted then .loaded slot n else .finished
  | .loaded slot _, .loadAndDelete _ a, some m => .took slot m a
  | .loaded _ _, .loadAndDelete _ _, none => .finished
  | .started _ _, .swapFired _ _ _, true => .finished
  | .started slot n, .swapFired _ _ _, false => .removing slot n
  | .removing slot n, .delete _ _, _ => .closing slot (some n) (.timer n)
  | .closing _ _ _, .answer _ _, _ => .finished
  | st, _, _ => st

end Stage

def monitor : Monitor Op Res Stage := ⟨Stage.Allowed,fun st op r st' => st'=st.after op r⟩

def Ends : Stage → Prop
  | .finished => True
  | .sending _ _ => True
  | .closing _ _ _ => True
  | _ => False

theorem wp_do {op : Op} {Q : Res op → Stage → Prop} {st : Stage} (hallowed : st.Allowed op)
    (hQ : ∀ r, Q r (st.after op r)) : monitor.wp Q (perform op) st :=
  wp_perform.mpr ⟨hallowed,fun r _ hst => hst ▸ hQ r⟩

theorem wp_cancel {slot : Slot} {a : Actor} {st : Stage} {Q : Bool → Stage → Prop}
    (hallowed : st.Allowed (.loadAndDelete slot a)) (hslot : slot.isLAN=false → a.exchange=none)
    (htook : ∀ m, st.after (.loadAndDelete slot a) (some m)=.took slot m a)
    (hnone : Q false (st.after (.loadAndDelete slot a) none)) (hfound : ∀ m, Q false (.marked slot m a true))
    (hstop : ∀ m, (Stage.marked slot m a false).Allowed (.stopTimer slot m a))
    (hset : ∀ m, Q true ((Stage.marked slot m a false).after (.stopTimer slot m a) ())) :
    monitor.wp Q (cancel slot a) st := by
  refine wp_bind.mpr (wp_do hallowed fun r => ?_)
  cases r with
  | none => exact hnone
  | some m =>
    dsimp only
    rw [htook m]
    refine wp_bind.mpr (wp_do ⟨rfl,rfl,rfl,hslot⟩ fun found => ?_)
    cases found with
    | true => exact hfound m
    | false => exact wp_bind.mpr (wp_do (hstop m) fun _ => hset m)

theorem wp_expire (n : ℕ) : monitor.wp (fun _ => Ends) (expire n) .idle := by
  refine wp_bind.mpr (wp_do trivial fun r => ?_)
  cases r with
  | none => trivial
  | some slot =>
    refine wp_bind.mpr (wp_do ⟨rfl,rfl,rfl⟩ fun found => ?_)
    cases found with
    | true => trivial
    | false =>
      refine wp_bind.mpr (wp_do ⟨rfl,rfl⟩ fun _ => ?_)
      exact wp_do ⟨rfl,rfl⟩ fun _ => trivial

theorem wp_schedulePunchFallback (initiator : Addr) (targetID : PeerID) :
    monitor.wp (fun _ => Ends) (schedulePunchFallback initiator targetID) .idle := by
  refine wp_bind.mpr (wp_do trivial fun n => ?_)
  refine wp_bind.mpr (wp_do ⟨rfl,rfl,rfl⟩ fun r => ?_)
  cases r with
  | none => trivial
  | some old =>
    refine wp_bind.mpr (wp_do ⟨rfl,rfl,rfl,rfl⟩ fun _ => ?_)
    exact wp_do trivial fun _ => trivial

variable (targetID : PeerID)

theorem wp_beginLANExchange (initiator : Addr) :
    monitor.wp (fun r st => if r.2 then Ends st else ∃ m, st=.closing (.lan targetID initiator) m (.failedSend r.1))
      (beginLANExchange targetID initiator) .idle := by
  refine wp_bind.mpr (wp_do trivial fun n => ?_)
  -- once the exchange is in the map
  have hsend : monitor.wp (fun r st => if r.2 then Ends st else ∃ m, st=.closing (.lan targetID initiator) m (.failedSend r.1))
      (do
        if ← perform (.sendToPeer targetID) then pure (n,true)
        else
          let _ ← cancelPendingLAN targetID initiator (.failedSend n)
          pure (n,false)) (.sending (.lan targetID initiator) n) := by
    refine wp_bind.mpr (wp_do trivial fun sent => ?_)
    cases sent with
    | true => trivial
    | false =>
      refine wp_bind.mpr (wp_cancel ⟨rfl,rfl⟩ (fun h => (by cases h)) (fun _ => rfl) ?_ ?_ (fun _ => trivial) ?_)
      · exact ⟨_,rfl⟩
      · exact fun m => ⟨_,rfl⟩
      · exact fun m => ⟨_,rfl⟩
  refine wp_bind.mpr (wp_do ⟨rfl,rfl,rfl⟩ fun r => ?_)
  cases r with
  | none => exact hsend
  | some old =>
    refine wp_bind.mpr (wp_cancel ⟨rfl,rfl⟩ (fun h => (by cases h)) (fun _ => rfl) ?_ ?_ (fun _ => ⟨rfl,rfl⟩) ?_)
    · exact wp_bind.mpr (wp_do ⟨rfl,rfl⟩ fun _ => hsend)
    · exact fun m => wp_bind.mpr (wp_do ⟨rfl,rfl⟩ fun _ => hsend)
    · exact fun m => wp_bind.mpr (wp_do ⟨rfl,rfl⟩ fun _ => hsend)

theorem wp_completeLANAddr (initiator : Addr) :
    monitor.wp (fun _ => Ends) (completeLANAddr targetID initiator) .idle := by
  refine wp_bind.mpr (wp_do trivial fun r => ?_)
  cases r with
  | none => trivial
  | some n =>
    have hlan : (Slot.lan targetID initiator).isLAN=false → (Actor.localAddr n).exchange=none := fun h => (by cases h)
    refine wp_bind.mpr (wp_do ⟨rfl,rfl⟩ fun old => ?_)
    cases old with
    | true =>
      exact wp_bind.mpr (wp_cancel ⟨rfl,rfl,rfl⟩ hlan (fun _ => rfl) trivial (fun _ => trivial) (fun _ => trivial)
        fun _ => trivial)
    | false =>
      refine wp_bind.mpr (wp_do ⟨rfl,rfl⟩ fun accepted => ?_)
      cases accepted with
      | false => trivial
      | true =>
        refine wp_bind.mpr (wp_cancel ⟨rfl,rfl,rfl⟩ hlan (fun _ => rfl) trivial (fun _ => trivial) (fun _ => trivial) ?_)
        exact fun m => wp_do ⟨rfl,rfl⟩ fun _ => trivial

theorem wp_lanPunchHoleRequest (initiator : Addr) :
    monitor.wp (fun _ => Ends) (lanPunchHoleRequest targetID initiator) .idle := by
  refine wp_bind.mpr (wp_mono ?_ (wp_beginLANExchange targetID initiator))
  rintro ⟨n,started⟩ st hst
  cases started with
  | true => exact hst
  | false =>
    obtain ⟨m,rfl⟩:=hst
    exact wp_do ⟨rfl,rfl⟩ fun _ => trivial

theorem wp_sweepPunch (initiator : Addr) : monitor.wp (fun _ => Ends) (sweepPunch initiator) .idle := by
  refine wp_bind.mpr (wp_do trivial fun r => ?_)
  cases r with
  | none => trivial
  | some n =>
    refine wp_bind.mpr (wp_do ⟨rfl,rfl⟩ fun old => ?_)
    cases old with
    | false => trivial
    | true =>
      refine wp_bind.mpr (wp_do ⟨rfl,rfl⟩ fun r => ?_)
      cases r with
      | none => trivial
      | some stale =>
        refine wp_bind.mpr (wp_do ⟨rfl,rfl,rfl,rfl⟩ fun _ => ?_)
        exact wp_do trivial fun _ => trivial

theorem wp_handle (r : Request) : monitor.wp (fun _ => Ends) (handle r) .idle := by
  cases r with
  | punchHole initiator targetID =>
    exact wp_bind.mpr (wp_do trivial fun _ => wp_schedulePunchFallback initiator targetID)
  | lanPunchHole targetID initiator => exact wp_lanPunchHoleRequest targetID initiator
  | punchHoleSent targetID initiator =>
    exact wp_bind.mpr (wp_cancel rfl (fun _ => rfl) (fun _ => rfl) trivial (fun _ => trivial) (fun _ => trivial)
      fun _ => trivial)
  | localAddr targetID initiator => exact wp_completeLANAddr targetID initiator
  | timer n => exact wp_expire n
  | sweep initiator => exact wp_sweepPunch initiator

namespace Pendings
variable (s : Pendings)

def slotOf (n : ℕ) : Option Slot := (s.cells n).map Pending.slot

def endedBy (n : ℕ) : Option Actor := (s.cells n).bind Pending.endedBy

def removedBy (n : ℕ) : Option Actor := (s.cells n).bind Pending.removedBy

def answers (n : ℕ) : List Actor := ((s.cells n).map Pending.answers).getD []

variable {s}

theorem fired_eq (n : ℕ) : s.fired n=(s.endedBy n).isSome := by
  unfold fired endedBy
  cases s.cells n <;> rfl

theorem modify_cells (n m : ℕ) (f : Pending → Pending) :
    (s.modify n f).cells m = if m=n then (s.cells m).map f else s.cells m := by
  show update s.cells n _ m=_
  rw [update_apply]
  by_cases h : m=n
  · rw [if_pos h,if_pos h,h]
  · rw [if_neg h,if_neg h]

theorem modify_bind {β : Type} {f : Pending → Pending} {g : Pending → Option β} (n m : ℕ) (hf : ∀ p, g (f p)=g p) :
    ((s.modify n f).cells m).bind g=(s.cells m).bind g := by
  rw [modify_cells]
  by_cases h : m=n
  · rw [if_pos h]
    cases s.cells m with
    | none => rfl
    | some p => exact hf p
  · rw [if_neg h]

theorem modify_map {β : Type} {f : Pending → Pending} {g : Pending → β} (n m : ℕ) (hf : ∀ p, g (f p)=g p) :
    ((s.modify n f).cells m).map g=(s.cells m).map g := by
  simp only [Option.map_eq_bind]
  exact modify_bind n m fun p => congrArg some (hf p)

theorem modify_slotOf (n m : ℕ) (f : Pending → Pending) (hf : ∀ p, (f p).slot=p.slot) :
    (s.modify n f).slotOf m=s.slotOf m := modify_map n m hf

theorem modify_endedBy (n m : ℕ) (f : Pending → Pending) (hf : ∀ p, (f p).endedBy=p.endedBy) :
    (s.modify n f).endedBy m=s.endedBy m := modify_bind n m hf

theorem modify_removedBy (n m : ℕ) (f : Pending → Pending) (hf : ∀ p, (f p).removedBy=p.removedBy) :
    (s.modify n f).removedBy m=s.removedBy m := modify_bind n m hf

theorem modify_answers (n m : ℕ) (f : Pending → Pending) (hf : ∀ p, (f p).answers=p.answers) :
    (s.modify n f).answers m=s.answers m := congrArg (Option.getD · []) (modify_map n m hf)

theorem ended_endedBy (n m : ℕ) (a : Actor) : (s.modify n fun p => p.ended a).endedBy m =
    if m=n ∧ (s.slotOf n).isSome then s.endedBy m <|> some a else s.endedBy m := by
  unfold endedBy slotOf
  rw [modify_cells]
  by_cases h : m=n
  · subst h
    rw [if_pos rfl]
    cases s.cells m <;> simp [Pending.ended]
  · rw [if_neg h,if_neg fun hm => h hm.1]

theorem removed_removedBy (n m : ℕ) (a : Actor) : (s.modify n fun p => p.removed a).removedBy m =
    if m=n ∧ (s.slotOf n).isSome then some a else s.removedBy m := by
  unfold removedBy slotOf
  rw [modify_cells]
  by_cases h : m=n
  · subst h
    rw [if_pos rfl]
    cases s.cells m <;> simp [Pending.removed]
  · rw [if_neg h,if_neg fun hm => h hm.1]

theorem answered_answers (n m : ℕ) (a : Actor) : (s.modify n fun p => p.answered a).answers m =
    if m=n ∧ (s.slotOf n).isSome then a::s.answers m else s.answers m := by
  unfold answers slotOf
  rw [modify_cells]
  by_cases h : m=n
  · subst h
    rw [if_pos rfl]
    cases s.cells m <;> simp [Pending.answered]
  · rw [if_neg h,if_neg fun hm => h hm.1]

variable (slot : Slot)

theorem take_slotOf (a : Actor) (m : ℕ) : (s.take slot a).slotOf m=s.slotOf m := by
  unfold take
  split
  · rfl
  · exact modify_slotOf _ _ _ fun _ => rfl

theorem take_endedBy (a : Actor) (m : ℕ) : (s.take slot a).endedBy m=s.endedBy m := by
  unfold take
  split
  · rfl
  · exact modify_endedBy _ _ _ fun _ => rfl

theorem take_answers (a : Actor) (m : ℕ) : (s.take slot a).answers m=s.answers m := by
  unfold take
  split
  · rfl
  · exact modify_answers _ _ _ fun _ => rfl

theorem take_entries (slot slot' : Slot) (a : Actor) :
    (s.take slot a).entries slot' = if slot'=slot then none else s.entries slot' := by
  unfold take
  split
  · rename_i h
    by_cases hs : slot'=slot
    · rw [if_pos hs,hs,h]
    · rw [if_neg hs]
  · exact update_apply ..

theorem put_entries (slot slot' : Slot) (n : ℕ) :
    (s.put slot n).entries slot' = if slot'=slot then some n else s.entries slot' := update_apply ..

theorem create_slotOf (targetID : PeerID) (m : ℕ) :
    (s.create slot targetID).slotOf m = if m=s.count then some slot else s.slotOf m := by
  unfold slotOf
  show (update s.cells s.count _ m).map _=_
  rw [update_apply]
  by_cases h : m=s.count
  · rw [if_pos h,if_pos h]
    rfl
  · rw [if_neg h,if_neg h]

end Pendings

end BetterDesk.Signal.Fallbacks
