import BetterDesk.Signal.FallbackEntries

/-! # Exchanges of LAN addresses (signal/lan_exchange.go) -/

namespace BetterDesk.Signal.Fallbacks
open Db Programs Exec List

namespace Op

def actsOn : Op → Option Slot
  | .delete slot _ => some slot
  | .outdated slot _ => some slot
  | .accepts slot _ => some slot
  | .loadAndDelete slot (.localAddr _) => some slot
  | .swapFired _ _ (.timer _) => none
  | .swapFired slot _ _ => some slot
  | .stopTimer slot _ (.superseding _) => some slot
  | .store slot _ => some slot
  | _ => none

def enters : Op → Option ℕ
  | .loadOrStore _ n => some n
  | .loadAndDelete _ (.superseding n) => some n
  | .swapFired _ _ (.superseding n) => some n
  | .stopTimer slot _ (.superseding n) => if slot.isLAN then some n else none
  | .store _ n => some n
  | _ => none

/-- An exchange is put under a key on which no other call is about to act. -/
def Safe (s : Pendings) (others : List Op) : Op → Prop
  | .store slot _ => ∀ op∈others,op.actsOn≠some slot
  | .loadOrStore slot _ => s.entries slot=none → ∀ op∈others,op.actsOn≠some slot
  | .startTimer n => ∀ op∈others,op.enters≠some n
  | .loadAndDelete slot (.failedSend n) => s.entries slot=some n
  | .swapFired _ m (.failedSend _) => s.fired m=false
  | _ => True

instance (s : Pendings) (others : List Op) (op : Op) : Decidable (op.Safe s others) := by
  unfold Safe
  split <;> infer_instance

end Op

def others (s : System) (i : ℕ) : List Op := (s.procs.eraseIdx i).filterMap fun p => p.prog.nextOp

def Safe (s : System) : Action → Prop
  | .step i _ => ∀ p∈s.procs[i]?, ∀ op∈p.prog.nextOp,op.Safe s.store (others s i)
  | _ => True

instance (s : System) (a : Action) : Decidable (Safe s a) := by
  unfold Safe
  split <;> infer_instance

namespace Stage

def Clears (slot : Slot) : Stage → Prop
  | .took slot' _ _ => slot'=slot
  | .storing slot' _ => slot'=slot
  | _ => False

/-- It has seen `n` there. -/
def Saw (slot : Slot) (n : ℕ) : Stage → Prop
  | .removing slot' n' => slot'=slot ∧ n'=n
  | .loaded slot' n' => slot'=slot ∧ n'=n
  | _ => False

/-- It is going to put `n` there. -/
def Enters (n : ℕ) : Stage → Prop
  | .made slot n' => slot.isLAN=true ∧ n'=n
  | .displacing _ n' => n'=n
  | .took slot _ (.superseding n') => slot.isLAN=true ∧ n'=n
  | .storing _ n' => n'=n
  | _ => False

end Stage

def Actor.Owns (n : ℕ) (a : Actor) : Prop := a.AnswersFor n ∨ ∃ m, a=.superseding m

structure Exchanges (s : Pendings) (gs : List Stage) : Prop where
  base : Base s gs
  credit : ∀ n, Credit s gs n
  closing : ∀ slot m a, .closing slot m a∈gs → ∀ n, a.AnswersFor n → m=some n
  took : ∀ slot m a, .took slot m a∈gs → slot.isLAN=true → ∀ n, a.AnswersFor n → m=n
  cleared : ∀ g∈gs, ∀ slot, slot.isLAN=true → g.Clears slot → s.entries slot=none
  saw : ∀ g∈gs, ∀ slot n, slot.isLAN=true → g.Saw slot n → ∀ m, s.entries slot=some m → m=n
  live : ∀ n slot, slot.isLAN=true → s.slotOf n=some slot → s.endedBy n=none →
    s.entries slot=some n ∨ (∃ g∈gs,g.Enters n) ∨ ∃ a, .took slot n a∈gs
  started : ∀ slot n, .started slot n∈gs → ∀ g∈gs,¬ g.Enters n
  ended : ∀ n slot, slot.isLAN=true → s.slotOf n=some slot → ∀ a, s.endedBy n=some a → a.Owns n
  removed : ∀ n slot, slot.isLAN=true → s.slotOf n=some slot → ∀ a, s.removedBy n=some a → a.Owns n

section Frames
variable {s : Pendings} {fails : Bool}

theorem run_keeps_entry (op : Op) {slot : Slot} {n : ℕ} (h : s.entries slot=some n) :
    (run s op fails).2.entries slot=some n ∨ (∃ a, op=.loadAndDelete slot a) ∨ (∃ k, op=.delete slot k) ∨
      (∃ k, op=.swap slot k) ∨ ∃ k, op=.store slot k := by
  have htake (slot' : Slot) (a : Actor) (hne : slot≠slot') : (s.take slot' a).entries slot=some n := by
    rw [Pendings.take_entries,if_neg hne,h]
  cases op with
  | loadOrStore slot' k =>
    refine .inl ?_
    show (if s.entries slot'=none then s.put slot' k else s).entries slot=some n
    split
    · rename_i he
      rw [Pendings.put_entries,if_neg,h]
      rintro rfl
      rw [h] at he
      cases he
    · exact h
  | swap slot' k =>
    by_cases hs : slot=slot'
    · exact .inr (.inr (.inr (.inl ⟨k,by rw [hs]⟩)))
    · refine .inl ?_
      show ((s.take slot' (.superseding k)).put slot' k).entries slot=some n
      rw [Pendings.put_entries,if_neg hs,htake slot' _ hs]
  | store slot' k =>
    by_cases hs : slot=slot'
    · exact .inr (.inr (.inr (.inr ⟨k,by rw [hs]⟩)))
    · refine .inl ?_
      show (s.put slot' k).entries slot=some n
      rw [Pendings.put_entries,if_neg hs,h]
  | loadAndDelete slot' a =>
    by_cases hs : slot=slot'
    · exact .inr (.inl ⟨a,by rw [hs]⟩)
    · exact .inl (htake slot' a hs)
  | delete slot' k =>
    by_cases hs : slot=slot'
    · exact .inr (.inr (.inl ⟨k,by rw [hs]⟩))
    · exact .inl (htake slot' (.timer k) hs)
  | create | load | swapFired | storeFired | stopTimer | startTimer | outdated | accepts | sendToPeer | answer =>
    exact .inl h

theorem take_removedBy {slot : Slot} {a : Actor} {n : ℕ} {b : Actor} (h : (s.take slot a).removedBy n=some b) :
    s.removedBy n=some b ∨ s.entries slot=some n ∧ b=a := by
  unfold Pendings.take at h
  split at h
  · exact .inl h
  · rename_i m he
    rw [Pendings.removed_removedBy] at h
    split at h
    · rename_i hm
      cases h
      exact .inr ⟨by rw [hm.1,he],rfl⟩
    · exact .inl h

theorem run_removedBy (op : Op) {n : ℕ} {a : Actor}
    (h : (run s op fails).2.removedBy n=some a) : s.removedBy n=some a ∨
      ∃ slot, s.entries slot=some n ∧ (op=.loadAndDelete slot a ∨ (∃ k, op=.delete slot k ∧ a=.timer k) ∨
        ∃ k, op=.swap slot k) := by
  have hmodify (k : ℕ) (f : Pending → Pending) (hf : ∀ p, (f p).removedBy=p.removedBy)
      (h : (s.modify k f).removedBy n=some a) : s.removedBy n=some a := by
    rwa [Pendings.modify_removedBy k n f hf] at h
  cases op with
  | create slot targetID =>
    refine .inl ?_
    have h : (Function.update s.cells s.count _ n).bind Pending.removedBy=some a := h
    rw [Function.update_apply] at h
    split at h
    · cases h
    · exact h
  | loadOrStore slot k =>
    have h : (if s.entries slot=none then s.put slot k else s).removedBy n=some a := h
    split at h <;> exact .inl h
  | swap slot k =>
    rcases @take_removedBy s slot (.superseding k) _ _ h with h | ⟨he,rfl⟩
    · exact .inl h
    · exact .inr ⟨slot,he,.inr (.inr ⟨k,rfl⟩)⟩
  | loadAndDelete slot b =>
    rcases @take_removedBy s slot b _ _ h with h | ⟨he,rfl⟩
    · exact .inl h
    · exact .inr ⟨slot,he,.inl rfl⟩
  | delete slot k =>
    rcases @take_removedBy s slot (.timer k) _ _ h with h | ⟨he,rfl⟩
    · exact .inl h
    · exact .inr ⟨slot,he,.inr (.inl ⟨k,rfl,rfl⟩)⟩
  | swapFired _ k b | storeFired _ k b => exact .inl (hmodify k (fun p => p.ended b) (fun _ => rfl) h)
  | stopTimer _ k | startTimer k => exact .inl (hmodify k Pending.stopped (fun _ => rfl) h)
  | answer k b => exact .inl (hmodify k (fun p => p.answered b) (fun _ => rfl) h)
  | store | load | outdated | accepts | sendToPeer => exact .inl h

end Frames

section Others
variable {p : Process Pendings Request Op Res Unit} {g : Stage}

theorem nextOp_of_wp (h : monitor.wp (fun _ => Ends) p.prog g) (hends : ¬ Ends g) :
    ∃ op, p.prog.nextOp=some op ∧ g.Allowed op := by
  cases hp : p.prog with
  | done a =>
    rw [hp] at h
    exact absurd h hends
  | call op k =>
    rw [hp] at h
    exact ⟨op,rfl,h.1⟩

theorem actsOn_of_stage {s : Pendings} {slot : Slot} (h : monitor.wp (fun _ => Ends) p.prog g) (hknows : g.Knows s)
    (hlan : slot.isLAN=true) (hg : g.Clears slot ∨ ∃ n, g.Saw slot n) :
    ∃ op, p.prog.nextOp=some op ∧ op.actsOn=some slot := by
  cases g with
  | took slot' m a =>
    obtain rfl : slot'=slot := hg.resolve_right fun ⟨_,h⟩ => h
    obtain ⟨op,hop,hallowed⟩:=nextOp_of_wp h id
    refine ⟨op,hop,?_⟩
    cases op with
    | swapFired slot' m' a' =>
      obtain ⟨rfl,rfl,rfl,-⟩:=hallowed
      cases a' with
      | timer n => exact hknows.2.elim
      | _ => rfl
    | storeFired slot' m' a' => exact absurd hallowed.1 (by rw [hlan]; decide)
    | _ => exact hallowed.elim
  | storing slot' n =>
    obtain rfl : slot'=slot := hg.resolve_right fun ⟨_,h⟩ => h
    obtain ⟨op,hop,hallowed⟩:=nextOp_of_wp h id
    refine ⟨op,hop,?_⟩
    cases op with
    | stopTimer | store =>
      obtain ⟨rfl,rfl⟩:=hallowed
      rfl
    | _ => exact hallowed.elim
  | removing slot' n =>
    obtain ⟨-,rfl,-⟩:=hg.resolve_left id
    obtain ⟨op,hop,hallowed⟩:=nextOp_of_wp h id
    refine ⟨op,hop,?_⟩
    cases op with
    | delete slot'' n' =>
      obtain ⟨rfl,rfl⟩:=hallowed
      rfl
    | _ => exact hallowed.elim
  | loaded slot' n =>
    obtain ⟨-,rfl,-⟩:=hg.resolve_left id
    obtain ⟨op,hop,hallowed⟩:=nextOp_of_wp h id
    refine ⟨op,hop,?_⟩
    cases op with
    | outdated | accepts =>
      obtain ⟨rfl,rfl⟩:=hallowed
      rfl
    | loadAndDelete slot'' a =>
      obtain ⟨rfl,hretakes⟩:=hallowed
      cases a with
      | localAddr k => rfl
      | sweep => exact absurd hretakes (by simp [Stage.Retakes,hlan])
      | _ => exact hretakes.elim
    | _ => exact hallowed.elim
  | _ => exact (hg.elim id fun ⟨_,h⟩ => h).elim

theorem enters_of_stage {s : Pendings} {n : ℕ} (h : monitor.wp (fun _ => Ends) p.prog g) (hknows : g.Knows s)
    (hg : g.Enters n) : ∃ op, p.prog.nextOp=some op ∧ op.enters=some n := by
  cases g with
  | made slot m =>
    obtain ⟨hlan,rfl⟩:=hg
    obtain ⟨op,hop,hallowed⟩:=nextOp_of_wp h id
    refine ⟨op,hop,?_⟩
    cases op with
    | loadOrStore slot' n' =>
      obtain ⟨-,rfl,rfl⟩:=hallowed
      rfl
    | swap slot' n' => exact absurd hallowed.1 (by rw [hlan]; decide)
    | _ => exact hallowed.elim
  | displacing slot m =>
    obtain rfl : m=n := hg
    obtain ⟨op,hop,hallowed⟩:=nextOp_of_wp h id
    refine ⟨op,hop,?_⟩
    cases op with
    | loadAndDelete slot' a =>
      obtain ⟨rfl,rfl⟩:=hallowed
      rfl
    | _ => exact hallowed.elim
  | took slot m a =>
    cases a with
    | superseding k =>
      obtain ⟨hlan,rfl⟩:=hg
      obtain ⟨op,hop,hallowed⟩:=nextOp_of_wp h id
      refine ⟨op,hop,?_⟩
      cases op with
      | swapFired slot' m' a' =>
        obtain ⟨rfl,rfl,rfl,-⟩:=hallowed
        rfl
      | storeFired slot' m' a' => exact absurd hallowed.1 (by rw [hlan]; decide)
      | _ => exact hallowed.elim
    | _ => exact hg.elim
  | storing slot m =>
    obtain rfl : m=n := hg
    obtain ⟨op,hop,hallowed⟩:=nextOp_of_wp h id
    refine ⟨op,hop,?_⟩
    cases op with
    | stopTimer slot' k a =>
      obtain ⟨rfl,rfl⟩:=hallowed
      exact if_pos hknows.1
    | store slot' n' =>
      obtain ⟨rfl,rfl⟩:=hallowed
      rfl
    | _ => exact hallowed.elim
  | _ => exact hg.elim

end Others

inductive Moves (s : Pendings) : Stage → Op → Stage → Prop
  | sendToPeer (targetID : PeerID) : Moves s .idle (.sendToPeer targetID) .idle
  | create (slot : Slot) (targetID : PeerID) : Moves s .idle (.create slot targetID) (.made slot s.count)
  | load (slot : Slot) (n : ℕ) (h : s.entries slot=some n) : Moves s .idle (.load slot) (.loaded slot n)
  | startTimer (slot : Slot) (n : ℕ) : Moves s .idle (.startTimer n) (.started slot n)
  | cancel (targetID : PeerID) (initiator : Addr) (m : ℕ) : Moves s .idle
      (.loadAndDelete (.punch initiator) (.punchHoleSent targetID initiator))
      (.took (.punch initiator) m (.punchHoleSent targetID initiator))
  | put (slot : Slot) (n : ℕ) (hlan : slot.isLAN=true) (h : s.entries slot=none) :
    Moves s (.made slot n) (.loadOrStore slot n) (.sending slot n)
  | meet (slot : Slot) (n m : ℕ) (hlan : slot.isLAN=true) (h : s.entries slot=some m) :
    Moves s (.made slot n) (.loadOrStore slot n) (.displacing slot n)
  | swap (initiator : Addr) (n old : ℕ) :
    Moves s (.made (.punch initiator) n) (.swap (.punch initiator) n) (.took (.punch initiator) old (.superseding n))
  | swapNone (initiator : Addr) (n : ℕ) : Moves s (.made (.punch initiator) n) (.swap (.punch initiator) n) .finished
  | displace (slot : Slot) (n m : ℕ) (h : s.entries slot=some m) :
    Moves s (.displacing slot n) (.loadAndDelete slot (.superseding n)) (.took slot m (.superseding n))
  | displaceNone (slot : Slot) (n : ℕ) (h : s.entries slot=none) :
    Moves s (.displacing slot n) (.loadAndDelete slot (.superseding n)) (.storing slot n)
  | mark (slot : Slot) (m : ℕ) (a : Actor) (hlan : slot.isLAN=false → a.exchange=none) :
    Moves s (.took slot m a) (.swapFired slot m a) (.marked slot m a (s.fired m))
  | replace (initiator : Addr) (m : ℕ) (a : Actor) : Moves s (.took (.punch initiator) m a) (.storeFired (.punch initiator) m a) .finished
  | stop (slot : Slot) (n m : ℕ) : Moves s (.storing slot n) (.stopTimer slot m (.superseding n)) (.storing slot n)
  | store (slot : Slot) (n : ℕ) : Moves s (.storing slot n) (.store slot n) (.sending slot n)
  | send (slot : Slot) (n : ℕ) (targetID : PeerID) : Moves s (.sending slot n) (.sendToPeer targetID) (.sending slot n)
  | giveUp (slot : Slot) (n m : ℕ) (h : s.entries slot=some m) :
    Moves s (.sending slot n) (.loadAndDelete slot (.failedSend n)) (.took slot m (.failedSend n))
  | giveUpNone (slot : Slot) (n : ℕ) (h : s.entries slot=none) :
    Moves s (.sending slot n) (.loadAndDelete slot (.failedSend n)) (.closing slot none (.failedSend n))
  | outdated (slot : Slot) (n : ℕ) : Moves s (.loaded slot n) (.outdated slot n) (.loaded slot n)
  | accepts (slot : Slot) (n : ℕ) : Moves s (.loaded slot n) (.accepts slot n) (.loaded slot n)
  | leaveOld (slot : Slot) (n : ℕ) : Moves s (.loaded slot n) (.outdated slot n) .finished
  | refuse (slot : Slot) (n : ℕ) : Moves s (.loaded slot n) (.accepts slot n) .finished
  | retakeNone (slot : Slot) (n : ℕ) (a : Actor) (h : s.entries slot=none) :
    Moves s (.loaded slot n) (.loadAndDelete slot a) .finished
  | retake (slot : Slot) (n m : ℕ) (a : Actor) (ha : Stage.Retakes slot n a) (h : s.entries slot=some m) :
    Moves s (.loaded slot n) (.loadAndDelete slot a) (.took slot m a)
  | beat (slot : Slot) (n : ℕ) (h : s.fired n=false) :
    Moves s (.started slot n) (.swapFired slot n (.timer n)) (.removing slot n)
  | beaten (slot : Slot) (n : ℕ) (h : s.fired n=true) : Moves s (.started slot n) (.swapFired slot n (.timer n)) .finished
  | delete (slot : Slot) (n : ℕ) : Moves s (.removing slot n) (.delete slot n) (.closing slot (some n) (.timer n))
  | stopClosing (slot slot' : Slot) (m : Option ℕ) (n : ℕ) (a b : Actor) :
    Moves s (.closing slot m a) (.stopTimer slot' n b) (.closing slot m a)
  | answer (slot : Slot) (m : Option ℕ) (n : ℕ) (a : Actor) : Moves s (.closing slot m a) (.answer n a) .finished
  | loadNone (slot : Slot) : Moves s .idle (.load slot) .finished
  | timerOff (n : ℕ) : Moves s .idle (.startTimer n) .finished
  | cancelNone (slot : Slot) (a : Actor) (h : s.entries slot=none) : Moves s .idle (.loadAndDelete slot a) .finished
  | stopOver (slot : Slot) (n : ℕ) (a : Actor) : Moves s .finished (.stopTimer slot n a) .finished

theorem Slot.eq_punch {slot : Slot} (h : slot.isLAN=false) : ∃ initiator, slot=.punch initiator := by
  cases slot with
  | punch initiator => exact ⟨initiator,rfl⟩
  | lan => cases h

theorem moves_after {s : Pendings} {g : Stage} {op : Op} {fails : Bool} (hallowed : g.Allowed op) :
    Moves s g op (g.after op (run s op fails).1) := by
  cases g with
  | idle =>
    cases op with
    | sendToPeer targetID => exact .sendToPeer targetID
    | create slot targetID => exact .create slot targetID
    | load slot =>
      show Moves s _ _ (Stage.after .idle (.load slot) (s.entries slot))
      cases he : s.entries slot with
      | none => exact .loadNone slot
      | some n => exact .load slot n he
    | startTimer n =>
      show Moves s _ _ (Stage.after .idle (.startTimer n) (s.timerDue n))
      cases s.timerDue n with
      | none => exact .timerOff n
      | some slot => exact .startTimer slot n
    | loadAndDelete slot a =>
      show Moves s _ _ (Stage.after .idle (.loadAndDelete slot a) (s.entries slot))
      cases a with
      | punchHoleSent targetID initiator =>
        obtain rfl : slot=.punch initiator := hallowed
        cases he : s.entries (.punch initiator) with
        | none => exact .cancelNone _ _ he
        | some m => exact .cancel targetID initiator m
      | _ => exact hallowed.elim
    | _ => exact hallowed.elim
  | made slot n =>
    cases op with
    | loadOrStore slot' n' =>
      obtain ⟨hlan,rfl,rfl⟩:=hallowed
      show Moves s _ _ (Stage.after (.made slot' n') (.loadOrStore slot' n') (s.entries slot'))
      cases he : s.entries slot' with
      | none => exact .put slot' n' hlan he
      | some m => exact .meet slot' n' m hlan he
    | swap slot' n' =>
      obtain ⟨hpunch,rfl,rfl⟩:=hallowed
      obtain ⟨initiator,rfl⟩:=Slot.eq_punch hpunch
      show Moves s _ _ (Stage.after (.made (.punch initiator) n') (.swap (.punch initiator) n') (s.entries (.punch initiator)))
      cases s.entries (.punch initiator) with
      | none => exact .swapNone initiator n'
      | some old => exact .swap initiator n' old
    | _ => exact hallowed.elim
  | displacing slot n =>
    cases op with
    | loadAndDelete slot' a =>
      obtain ⟨rfl,rfl⟩:=hallowed
      show Moves s _ _ (Stage.after (.displacing slot' n) (.loadAndDelete slot' (.superseding n)) (s.entries slot'))
      cases he : s.entries slot' with
      | none => exact .displaceNone slot' n he
      | some m => exact .displace slot' n m he
    | _ => exact hallowed.elim
  | took slot m a =>
    cases op with
    | swapFired slot' m' a' =>
      obtain ⟨rfl,rfl,rfl,hlan⟩:=hallowed
      exact .mark slot' m' a' hlan
    | storeFired slot' m' a' =>
      obtain ⟨hpunch,rfl,rfl,rfl⟩:=hallowed
      obtain ⟨initiator,rfl⟩:=Slot.eq_punch hpunch
      exact .replace initiator m' a'
    | _ => exact hallowed.elim
  | storing slot n =>
    cases op with
    | stopTimer slot' m a =>
      obtain ⟨rfl,rfl⟩:=hallowed
      exact .stop slot' n m
    | store slot' n' =>
      obtain ⟨rfl,rfl⟩:=hallowed
      exact .store slot' n'
    | _ => exact hallowed.elim
  | sending slot n =>
    cases op with
    | sendToPeer targetID => exact .send slot n targetID
    | loadAndDelete slot' a =>
      obtain ⟨rfl,rfl⟩:=hallowed
      show Moves s _ _ (Stage.after (.sending slot' n) (.loadAndDelete slot' (.failedSend n)) (s.entries slot'))
      cases he : s.entries slot' with
      | none => exact .giveUpNone slot' n he
      | some m => exact .giveUp slot' n m he
    | _ => exact hallowed.elim
  | loaded slot n =>
    cases op with
    | outdated slot' n' =>
      obtain ⟨rfl,rfl⟩:=hallowed
      show Moves s _ _ (if slot'.isLAN||s.outdated slot' n' then Stage.loaded slot' n' else .finished)
      split
      · exact .outdated slot' n'
      · exact .leaveOld slot' n'
    | accepts slot' n' =>
      obtain ⟨rfl,rfl⟩:=hallowed
      show Moves s _ _ (if !fails then Stage.loaded slot' n' else .finished)
      split
      · exact .accepts slot' n'
      · exact .refuse slot' n'
    | loadAndDelete slot' a =>
      obtain ⟨rfl,hretakes⟩:=hallowed
      show Moves s _ _ (Stage.after (.loaded slot' n) (.loadAndDelete slot' a) (s.entries slot'))
      cases he : s.entries slot' with
      | none => exact .retakeNone slot' n a he
      | some m => exact .retake slot' n m a hretakes he
    | _ => exact hallowed.elim
  | started slot n =>
    cases op with
    | swapFired slot' n' a =>
      obtain ⟨rfl,rfl,rfl⟩:=hallowed
      show Moves s _ _ (Stage.after (.started slot' n') (.swapFired slot' n' (.timer n')) (s.fired n'))
      cases hf : s.fired n' with
      | true => exact .beaten slot' n' hf
      | false => exact .beat slot' n' hf
    | _ => exact hallowed.elim
  | removing slot n =>
    cases op with
    | delete slot' n' =>
      obtain ⟨rfl,rfl⟩:=hallowed
      exact .delete slot' n'
    | _ => exact hallowed.elim
  | closing slot m a =>
    cases op with
    | stopTimer slot' k b => exact .stopClosing slot slot' m k a b
    | answer n a' =>
      obtain ⟨rfl,-⟩:=hallowed
      exact .answer slot m n a'
    | _ => exact hallowed.elim
  | finished =>
    cases op with
    | stopTimer slot k a => exact .stopOver slot k a
    | _ => exact hallowed.elim

theorem slotOf_of_endedBy {s : Pendings} {n : ℕ} {a : Actor} (h : s.endedBy n=some a) : ∃ slot, s.slotOf n=some slot := by
  unfold Pendings.endedBy at h
  unfold Pendings.slotOf
  cases hc : s.cells n with
  | none =>
    rw [hc] at h
    cases h
  | some p => exact ⟨p.slot,rfl⟩

theorem slotOf_of_removedBy {s : Pendings} {n : ℕ} {a : Actor} (h : s.removedBy n=some a) :
    ∃ slot, s.slotOf n=some slot := by
  unfold Pendings.removedBy at h
  unfold Pendings.slotOf
  cases hc : s.cells n with
  | none =>
    rw [hc] at h
    cases h
  | some p => exact ⟨p.slot,rfl⟩

theorem slotOf_run {s : Pendings} {op : Op} {fails : Bool} {n : ℕ} {slot : Slot}
    (h : (run s op fails).2.slotOf n=some slot) : s.slotOf n=some slot ∨ ∃ targetID, op=.create slot targetID ∧ n=s.count := by
  cases op with
  | create slot' targetID =>
    have h : (s.create slot' targetID).slotOf n=some slot := h
    rw [Pendings.create_slotOf] at h
    split at h
    · cases h
      exact .inr ⟨targetID,rfl,‹_›⟩
    · exact .inl h
  | loadOrStore slot' k =>
    have h : (if s.entries slot'=none then s.put slot' k else s).slotOf n=some slot := h
    split at h <;> exact .inl h
  | swap slot' k => exact .inl ((Pendings.take_slotOf slot' (.superseding k) n).symm.trans h)
  | loadAndDelete slot' a => exact .inl ((Pendings.take_slotOf slot' a n).symm.trans h)
  | delete slot' k => exact .inl ((Pendings.take_slotOf slot' (.timer k) n).symm.trans h)
  | swapFired _ k a | storeFired _ k a =>
      exact .inl ((Pendings.modify_slotOf k n (fun p => p.ended a) fun _ => rfl).symm.trans h)
  | stopTimer _ k | startTimer k =>
      exact .inl ((Pendings.modify_slotOf k n Pending.stopped fun _ => rfl).symm.trans h)
  | answer k a => exact .inl ((Pendings.modify_slotOf k n (fun p => p.answered a) fun _ => rfl).symm.trans h)
  | store | load | outdated | accepts | sendToPeer => exact .inl h

section Moves
variable {s : Pendings} {gs : List Stage} {g g' : Stage} {op : Op} {fails : Bool} {ops : List Op}

theorem Moves.quiet (hmove : Moves s g op g') (hsafe : op.Safe s ops) {slot : Slot} (hlan : slot.isLAN=true)
    (hacts : ∃ op'∈ops,op'.actsOn=some slot) {n : ℕ} (h : (run s op fails).2.entries slot=some n) :
    s.entries slot=some n := by
  obtain ⟨op',hop',hacts⟩:=hacts
  rcases run_entries op h with h | rfl | rfl | rfl
  · exact h
  · cases he : s.entries slot with
    | none => exact absurd hacts (hsafe he op' hop')
    | some m =>
      have h : (if s.entries slot=none then s.put slot n else s).entries slot=some n := h
      rw [if_neg (by rw [he]; simp),he] at h
      exact h
  · cases hmove with
    | swap => cases hlan
    | swapNone => cases hlan
  · exact absurd hacts (hsafe op' hop')

theorem Moves.enters (hmove : Moves s g op g') {n : ℕ} (h : g'.Enters n) : g.Enters n ∨ n=s.count := by
  cases hmove with
  | create slot targetID => exact .inr h.2.symm
  | meet slot k m hlan he => exact .inl ⟨hlan,h⟩
  | displace slot k m he => exact .inl h.2
  | displaceNone | stop => exact .inl h
  | mark slot m a hlan =>
    cases a with
    | superseding k =>
      refine .inl ⟨?_,h⟩
      cases hs : slot.isLAN with
      | true => rfl
      | false => cases hlan hs
    | failedSend k => exact h.elim
    | localAddr k =>
      unfold Stage.marked at h
      dsimp only at h
      split at h <;> exact h.elim
    | timer | punchHoleSent | sweep => exact h.elim
  | swap initiator k old => cases h.1
  | retake slot k m a ha he =>
    cases a with
    | superseding k => exact ha.elim
    | _ => exact h.elim
  | _ => exact h.elim

theorem Stage.marked_clears {slot slot' : Slot} {m : ℕ} {a : Actor} {found : Bool}
    (h : (marked slot m a found).Clears slot') : slot=slot' := by
  cases a with
  | superseding k => exact h
  | failedSend k => exact h.elim
  | localAddr k => cases found <;> exact h.elim
  | timer | punchHoleSent | sweep => exact h.elim

theorem Stage.marked_saw {slot slot' : Slot} {m n : ℕ} {a : Actor} {found : Bool}
    (h : (marked slot m a found).Saw slot' n) : False := by
  cases a with
  | localAddr k => cases found <;> exact h
  | timer | superseding | failedSend | punchHoleSent | sweep => exact h

theorem taken_entries {slot : Slot} {a : Actor} : (s.take slot a).entries slot=none := by
  rw [Pendings.take_entries,if_pos rfl]

theorem Exchanges.cleared_after (h : Exchanges s gs) (hmove : Moves s g op g') (hg : g∈gs) {slot : Slot}
    (hlan : slot.isLAN=true) (hc : g'.Clears slot) : (run s op fails).2.entries slot=none := by
  cases hmove with
  | cancel | swap =>
    cases hc
    cases hlan
  | displace slot' n m he =>
    obtain rfl : slot'=slot := hc
    exact taken_entries
  | displaceNone slot' n he =>
    obtain rfl : slot'=slot := hc
    exact taken_entries
  | giveUp slot' n m he =>
    obtain rfl : slot'=slot := hc
    exact taken_entries
  | retake slot' n m a ha he =>
    obtain rfl : slot'=slot := hc
    exact taken_entries
  | mark slot' m a _ =>
    obtain rfl:=Stage.marked_clears hc
    exact h.cleared _ hg slot' hlan rfl
  | stop slot' n m =>
    obtain rfl : slot'=slot := hc
    exact h.cleared _ hg slot' hlan rfl
  | _ => exact hc.elim

theorem Exchanges.saw_after (h : Exchanges s gs) (hmove : Moves s g op g') (hg : g∈gs) {slot : Slot} {n : ℕ}
    (hlan : slot.isLAN=true) (hsaw : g'.Saw slot n) (m : ℕ) (hm : (run s op fails).2.entries slot=some m) : m=n := by
  cases hmove with
  | load slot' n' he =>
    obtain ⟨rfl,rfl⟩:=hsaw
    exact Option.some.inj (Eq.trans (Eq.symm hm) he)
  | outdated | accepts => exact h.saw _ hg slot n hlan hsaw m hm
  | mark slot' k a _ => exact (Stage.marked_saw hsaw).elim
  | beat slot' n' hf =>
    obtain ⟨rfl,rfl⟩:=hsaw
    have hm : s.entries slot'=some m := hm
    have hunset : s.endedBy n'=none := by
      rw [Pendings.fired_eq] at hf
      simpa using hf
    rcases h.live n' slot' hlan (h.base.stages _ hg) hunset with he | ⟨g'',hg'',hn⟩ | ⟨a,ht⟩
    · rw [he] at hm
      exact (Option.some.inj hm).symm
    · exact absurd hn (h.started slot' n' hg g'' hg'')
    · rw [h.cleared _ ht slot' hlan rfl] at hm
      cases hm
  | _ => exact hsaw.elim

theorem Exchanges.took_after (h : Exchanges s gs) (hmove : Moves s g op g') (hg : g∈gs) (hsafe : op.Safe s ops) {slot : Slot}
    {m : ℕ} {a : Actor} (hg' : g'=.took slot m a) (hlan : slot.isLAN=true) (n : ℕ) (ha : a.AnswersFor n) : m=n := by
  cases hmove with
  | cancel | swap =>
    cases hg'
    cases hlan
  | displace slot' k m' he =>
    cases hg'
    exact ha.elim
  | giveUp slot' k m' he =>
    cases hg'
    have hsafe : s.entries slot=some k := hsafe
    rw [he] at hsafe
    exact (Option.some.inj hsafe).trans ha
  | retake slot' k m' b hb he =>
    cases hg'
    cases a with
    | localAddr j =>
      obtain ⟨-,rfl⟩:=hb
      exact (h.saw _ hg slot j hlan ⟨rfl,rfl⟩ m he).trans ha
    | sweep => exact ha.elim
    | timer | superseding | failedSend | punchHoleSent => exact hb.elim
  | mark slot' k b _ =>
    cases b with
    | localAddr j =>
      exfalso
      revert hg'
      cases s.fired k <;> exact fun hg' => (by cases hg')
    | timer | superseding | failedSend | punchHoleSent | sweep => cases hg'
  | _ => cases hg'

theorem Exchanges.closing_after (h : Exchanges s gs) (hmove : Moves s g op g') (hg : g∈gs) (hsafe : op.Safe s ops)
    {slot : Slot} {m : Option ℕ} {a : Actor} (hg' : g'=.closing slot m a) (n : ℕ) (ha : a.AnswersFor n) : m=some n := by
  cases hmove with
  | mark slot' k b _ =>
    have hsuits:=(h.base.stages _ hg).2
    cases b with
    | failedSend j =>
      have hunset : s.fired k=false := hsafe
      rw [hunset] at hg'
      cases hg'
      exact congrArg some (h.took _ k _ hg hsuits.1 n ha)
    | localAddr j =>
      revert hg'
      cases s.fired k with
      | true => exact fun hg' => (by cases hg')
      | false =>
        intro hg'
        cases hg'
        exact congrArg some (h.took _ k _ hg hsuits.1 n ha)
    | timer | superseding | punchHoleSent | sweep => cases hg'
  | giveUpNone slot' k he =>
    have hsafe : s.entries slot'=some k := hsafe
    rw [he] at hsafe
    cases hsafe
  | delete slot' k =>
    cases hg'
    exact congrArg some ha
  | stopClosing slot' slot'' m' k b c =>
    cases hg'
    exact h.closing _ _ _ hg n ha
  | _ => cases hg'

theorem Exchanges.live_after (h : Exchanges s gs) (hmove : Moves s g op g') {i : ℕ} (hg : gs[i]?=some g) {n : ℕ} {slot : Slot}
    (hlan : slot.isLAN=true) (hslot : (run s op fails).2.slotOf n=some slot)
    (hunset : (run s op fails).2.endedBy n=none) :
    (run s op fails).2.entries slot=some n ∨ (∃ g''∈gs.set i g', g''.Enters n) ∨ ∃ a, .took slot n a∈gs.set i g' := by
  have hgs:=mem_of_getElem? hg
  have hself : g'∈gs.set i g' := by
    obtain ⟨hi,-⟩:=List.getElem?_eq_some_iff.mp hg
    exact mem_set hi g'
  have hother {g'' : Stage} (hg'' : g''∈gs) : g''=g ∨ g''∈gs.set i g' := by
    obtain ⟨j,hj⟩:=mem_iff_getElem?.mp hg''
    by_cases hij : i=j
    · subst hij
      rw [hg] at hj
      exact .inl (Option.some.inj hj).symm
    · exact .inr (mem_iff_getElem?.mpr ⟨j,by rw [List.getElem?_set_ne hij,hj]⟩)
  have hfresh:=h.base.fresh s.count (Nat.le_refl _)
  rcases slotOf_run hslot with hs | ⟨targetID,rfl,rfl⟩
  · have hunset' : s.endedBy n=none := by
      cases he : s.endedBy n with
      | none => rfl
      | some a =>
        rw [run_endedBy op hfresh,he] at hunset
        split at hunset
        · split at hunset <;> cases hunset
        · cases hunset
    rcases h.live n slot hlan hs hunset' with he | ⟨g'',hg'',hn⟩ | ⟨a,ht⟩
    · have hkept := @run_keeps_entry s fails op _ _ he
      rcases hkept with he' | ⟨a,rfl⟩ | ⟨k,rfl⟩ | ⟨k,rfl⟩ | ⟨k,rfl⟩
      · exact .inl he'
      · -- taken by somebody who has it now
        refine .inr (.inr ⟨a,?_⟩)
        have htook (m : ℕ) (hm : s.entries slot=some m) (ht : Stage.took slot m a∈gs.set i g') :
            Stage.took slot n a∈gs.set i g' := by
          rw [he] at hm
          cases hm
          exact ht
        cases hmove with
        | cancel => cases hlan
        | displace _ _ m hm | giveUp _ _ m hm | retake _ _ m _ _ hm => exact htook m hm hself
        | displaceNone _ _ hm | giveUpNone _ _ hm | retakeNone _ _ _ hm | cancelNone _ _ hm =>
          rw [he] at hm
          cases hm
      · cases hmove with
        | delete =>
          obtain rfl:=h.saw _ hgs slot k hlan ⟨rfl,rfl⟩ n he
          have hwon:=(h.credit n).won _ hgs (.timer n) (if_pos rfl)
          rw [hunset'] at hwon
          cases hwon
      · cases hmove with
        | swap | swapNone => cases hlan
      · cases hmove with
        | store =>
          rw [h.cleared _ hgs slot hlan rfl] at he
          cases he
    · rcases hother hg'' with rfl | hg''
      · -- on the way into the map
        cases hmove with
        | put slot' m hlan' he =>
          obtain ⟨-,rfl⟩:=hn
          have hknows : s.slotOf m=some slot' := h.base.stages _ hgs
          rw [hs] at hknows
          cases hknows
          refine .inl ?_
          show (if s.entries slot=none then s.put slot m else s).entries slot=some m
          rw [if_pos he,Pendings.put_entries,if_pos rfl]
        | meet slot' m k hlan' he => exact .inr (.inl ⟨_,hself,hn.2⟩)
        | displace slot' m k he => exact .inr (.inl ⟨_,hself,(h.base.stages _ hgs).1,hn⟩)
        | displaceNone | stop => exact .inr (.inl ⟨_,hself,hn⟩)
        | mark slot' m a _ =>
          cases a with
          | superseding k => exact .inr (.inl ⟨_,hself,hn.2⟩)
          | _ => exact hn.elim
        | store slot' m =>
          obtain rfl : m=n := hn
          have hknows : s.slotOf m=some slot' := (h.base.stages _ hgs).2
          rw [hs] at hknows
          cases hknows
          refine .inl ?_
          show (s.put slot m).entries slot=some m
          rw [Pendings.put_entries,if_pos rfl]
        | swap | swapNone => cases hn.1
        | replace initiator m a =>
          cases a with
          | superseding k => cases hn.1
          | _ => exact hn.elim
        | _ => exact hn.elim
      · exact .inr (.inl ⟨g'',hg'',hn⟩)
    · rcases hother ht with rfl | ht
      · cases hmove with
        | mark =>
          rw [run_endedBy (.swapFired slot n a) hfresh] at hunset
          have hunset : (if n=n ∧ (s.slotOf n).isSome then s.endedBy n <|> some a else s.endedBy n)=none := hunset
          rw [if_pos ⟨rfl,by rw [hs]; rfl⟩,hunset'] at hunset
          cases hunset
        | replace => cases hlan
      · exact .inr (.inr ⟨a,ht⟩)
  · cases hmove with
    | create => exact .inr (.inl ⟨_,hself,hlan,rfl⟩)

theorem Exchanges.ended_after (h : Exchanges s gs) (hmove : Moves s g op g') (hg : g∈gs) {n : ℕ} {slot : Slot}
    (hlan : slot.isLAN=true) (hslot : (run s op fails).2.slotOf n=some slot) {a : Actor}
    (ha : (run s op fails).2.endedBy n=some a) : a.Owns n := by
  have hfresh:=h.base.fresh s.count (Nat.le_refl _)
  have hold (hs : s.endedBy n=some a) : a.Owns n := by
    obtain ⟨slot',hs'⟩:=slotOf_of_endedBy hs
    rcases slotOf_run hslot with hs'' | ⟨targetID,rfl,rfl⟩
    · exact h.ended n slot hlan hs'' a hs
    · unfold Pendings.slotOf at hs'
      rw [hfresh] at hs'
      cases hs'
  have hslot' (m : ℕ) (slot' : Slot) (hm : n=m) (hk : s.slotOf m=some slot') : slot'=slot := by
    rcases slotOf_run hslot with hs | ⟨targetID,rfl,rfl⟩
    · rw [hm,hk] at hs
      exact Option.some.inj hs
    · unfold Pendings.slotOf at hk
      rw [← hm,hfresh] at hk
      cases hk
  rw [run_endedBy op hfresh] at ha
  cases hends : op.ends with
  | none =>
    rw [hends] at ha
    exact hold ha
  | some e =>
    obtain ⟨m,b⟩:=e
    rw [hends] at ha
    dsimp only at ha
    split at ha
    · rename_i hm
      cases hb : s.endedBy n with
      | some c =>
        rw [hb] at ha
        cases ha
        exact hold hb
      | none =>
        rw [hb] at ha
        cases ha
        cases hmove with
        | mark slot' k b _ =>
          cases hends
          obtain ⟨hk,hsuits⟩:=h.base.stages _ hg
          obtain rfl:=hslot' m slot' hm.1 hk
          cases a with
          | timer j => exact hsuits.elim
          | superseding j => exact .inr ⟨j,rfl⟩
          | failedSend j | localAddr j => exact .inl ((h.took _ m _ hg hlan j rfl).symm.trans hm.1.symm)
          | punchHoleSent targetID initiator =>
            cases hsuits
            cases hlan
          | sweep =>
            rw [show slot'.isLAN=false from hsuits] at hlan
            cases hlan
        | replace initiator k b =>
          cases hends
          cases hslot' m _ hm.1 (h.base.stages _ hg).1
          cases hlan
        | beat | beaten =>
          cases hends
          exact .inl hm.1.symm
        | _ => cases hends
    · exact hold ha

theorem Exchanges.removed_after (h : Exchanges s gs) (hmove : Moves s g op g') (hg : g∈gs) (hsafe : op.Safe s ops) {n : ℕ}
    {slot : Slot} (hlan : slot.isLAN=true) (hslot : (run s op fails).2.slotOf n=some slot) {a : Actor}
    (ha : (run s op fails).2.removedBy n=some a) : a.Owns n := by
  have hfresh:=h.base.fresh s.count (Nat.le_refl _)
  have hs (slot' : Slot) (hs' : s.slotOf n=some slot') : s.slotOf n=some slot := by
    rcases slotOf_run hslot with hs | ⟨targetID,rfl,rfl⟩
    · exact hs
    · unfold Pendings.slotOf at hs'
      rw [hfresh] at hs'
      cases hs'
  rcases run_removedBy op ha with hr | ⟨slot',he,hop⟩
  · obtain ⟨slot',hs'⟩:=slotOf_of_removedBy hr
    exact h.removed n slot hlan (hs slot' hs') a hr
  · have hs':=h.base.entries slot' n he
    have hsame:=hs slot' hs'
    rw [hs'] at hsame
    cases hsame
    rcases hop with rfl | ⟨k,rfl,rfl⟩ | ⟨k,rfl⟩
    · cases hmove with
      | cancel => cases hlan
      | displace _ k m hm => exact .inr ⟨k,rfl⟩
      | giveUp _ k m hm =>
        have hsafe : s.entries slot=some k := hsafe
        rw [he] at hsafe
        exact .inl (Option.some.inj hsafe).symm
      | retake _ k m _ hb hm =>
        cases a with
        | localAddr j =>
          obtain ⟨-,rfl⟩:=hb
          exact .inl (h.saw _ hg slot j hlan ⟨rfl,rfl⟩ n he).symm
        | sweep =>
          rw [show slot.isLAN=false from hb] at hlan
          cases hlan
        | timer | superseding | failedSend | punchHoleSent => exact hb.elim
      | displaceNone _ _ hm | giveUpNone _ _ hm | retakeNone _ _ _ hm | cancelNone _ _ hm =>
        rw [he] at hm
        cases hm
    · cases hmove with
      | delete => exact .inl (h.saw _ hg slot k hlan ⟨rfl,rfl⟩ n he).symm
    · cases hmove with
      | swap | swapNone => cases hlan

theorem Exchanges.step (h : Exchanges s gs) {i : ℕ} (hg : gs[i]?=some g) (hallowed : g.Allowed op) (hsafe : op.Safe s ops)
    (hacts : ∀ j g'', j≠i → gs[j]?=some g'' → ∀ slot, slot.isLAN=true →
      (g''.Clears slot ∨ ∃ n, g''.Saw slot n) → ∃ op'∈ops,op'.actsOn=some slot)
    (henters : ∀ j g'', j≠i → gs[j]?=some g'' → ∀ n, g''.Enters n → ∃ op'∈ops,op'.enters=some n) :
    Exchanges (run s op fails).2 (gs.set i (g.after op (run s op fails).1)) := by
  have hgs:=mem_of_getElem? hg
  have hmove : Moves s g op (g.after op (run s op fails).1) := moves_after hallowed
  have hbase : Base (run s op fails).2 _ := h.base.step hg hallowed
  have hcredit (n : ℕ) : Credit (run s op fails).2 (gs.set i (g.after op (run s op fails).1)) n := by
    refine (h.credit n).step h.base hg hallowed ?_
    rintro slot m a rfl ha
    exact h.closing slot m a hgs n ha
  generalize g.after op (run s op fails).1=g' at hmove hbase hcredit
  have hmem {g'' : Stage} (hg'' : g''∈gs.set i g') : g''=g' ∨ g''∈gs ∧ ∃ j, j≠i ∧ gs[j]?=some g'' := by
    obtain ⟨j,hj⟩:=mem_iff_getElem?.mp hg''
    by_cases hij : i=j
    · subst hij
      rw [List.getElem?_set_self (List.getElem?_eq_some_iff.mp hg).1] at hj
      exact .inl (Option.some.inj hj).symm
    · rw [List.getElem?_set_ne hij] at hj
      exact .inr ⟨mem_of_getElem? hj,j,fun h => hij h.symm,hj⟩
  refine ⟨hbase,hcredit,fun slot m a hg'' n ha => ?_,fun slot m a hg'' hlan n ha => ?_,fun g'' hg'' slot hlan hc => ?_,
    fun g'' hg'' slot n hlan hsaw m hm => ?_,fun n slot hlan hs he => h.live_after hmove hg hlan hs he,
    fun slot n hg'' g'' hother => ?_,fun n slot hlan hs a ha => h.ended_after hmove hgs hlan hs ha,
    fun n slot hlan hs a ha => h.removed_after hmove hgs hsafe hlan hs ha⟩
  · rcases hmem hg'' with heq | ⟨hold,-⟩
    · exact h.closing_after hmove hgs hsafe heq.symm n ha
    · exact h.closing slot m a hold n ha
  · rcases hmem hg'' with heq | ⟨hold,-⟩
    · exact h.took_after hmove hgs hsafe heq.symm hlan n ha
    · exact h.took slot m a hold hlan n ha
  · rcases hmem hg'' with rfl | ⟨hold,j,hj,hgj⟩
    · exact h.cleared_after hmove hgs hlan hc
    · cases he : (run s op fails).2.entries slot with
      | none => rfl
      | some m =>
        have hq:=hmove.quiet hsafe hlan (hacts j g'' hj hgj slot hlan (.inl hc)) he
        rw [h.cleared g'' hold slot hlan hc] at hq
        cases hq
  · rcases hmem hg'' with rfl | ⟨hold,j,hj,hgj⟩
    · exact h.saw_after hmove hgs hlan hsaw m hm
    · exact h.saw g'' hold slot n hlan hsaw m (hmove.quiet hsafe hlan (hacts j g'' hj hgj slot hlan (.inr ⟨n,hsaw⟩)) hm)
  · intro hn
    rcases hmem hg'' with rfl | ⟨hold,j,hj,hgj⟩
    · -- a timer begins when its exchange is in the map
      rcases hmem hother with rfl | ⟨-,k,hk,hgk⟩
      · exact hn
      · obtain ⟨op',hop',henter⟩:=henters k g'' hk hgk n hn
        generalize hst : Stage.started slot n=g' at hmove
        cases hmove with
        | startTimer slot' n' =>
          cases hst
          exact hsafe op' hop' henter
        | mark slot' m a _ =>
          cases a with
          | localAddr k =>
            revert hst
            cases s.fired m <;> exact fun hst => (by cases hst)
          | timer | superseding | failedSend | punchHoleSent | sweep => cases hst
        | _ => cases hst
    · rcases hmem hother with rfl | ⟨hold',-⟩
      · rcases hmove.enters hn with hn | rfl
        · exact h.started slot n hold g hgs hn
        · have hknows : s.slotOf s.count=some slot := h.base.stages _ hold
          unfold Pendings.slotOf at hknows
          rw [h.base.fresh s.count (Nat.le_refl _)] at hknows
          cases hknows
      · exact h.started slot n hold g'' hold' hn

end Moves

theorem start_exchanges (now : ℕ) (p2pFallbackMs : ℤ) : Exchanges (start now p2pFallbackMs) [] where
  base := start_base now p2pFallbackMs
  credit := start_credit now p2pFallbackMs
  closing _ _ _ h := nomatch h
  took _ _ _ h := nomatch h
  cleared _ h := nomatch h
  saw _ h := nomatch h
  live _ _ _ h := nomatch h
  started _ _ h := nomatch h
  ended _ _ _ h := nomatch h
  removed _ _ _ h := nomatch h

theorem Exchanges.begin {s : Pendings} {gs : List Stage} (h : Exchanges s gs) : Exchanges s (gs++[.idle]) := by
  have hmem {g : Stage} (hg : g∈gs++[.idle]) (hidle : g ≠ .idle) : g∈gs :=
    (mem_append.mp hg).resolve_right fun hg => hidle (mem_singleton.mp hg)
  have hor {g : Stage} (hg : g∈gs++[.idle]) : g∈gs ∨ g=.idle :=
    (mem_append.mp hg).imp_right mem_singleton.mp
  refine ⟨h.base.begin,fun n => (h.credit n).begin,fun slot m a hg => h.closing slot m a (hmem hg (by simp)),
    fun slot m a hg => h.took slot m a (hmem hg (by simp)),fun g hg => ?_,fun g hg => ?_,
    fun n slot hlan hs he => ?_,fun slot n hg g hg' => ?_,h.ended,h.removed⟩
  · rcases hor hg with hg | rfl
    · exact h.cleared g hg
    · exact fun _ _ hc => hc.elim
  · rcases hor hg with hg | rfl
    · exact h.saw g hg
    · exact fun _ _ _ hc => hc.elim
  · rcases h.live n slot hlan hs he with he | ⟨g,hg,hn⟩ | ⟨a,hg⟩
    · exact .inl he
    · exact .inr (.inl ⟨g,mem_append_left _ hg,hn⟩)
    · exact .inr (.inr ⟨a,mem_append_left _ hg⟩)
  · rcases hor hg' with hg' | rfl
    · exact h.started slot n (hmem hg (by simp)) g hg'
    · exact id

theorem Exchanges.move {s : Pendings} {gs : List Stage} (h : Exchanges s gs) (e : Outside) : Exchanges (move s e) gs := by
  cases e <;>
    exact ⟨h.base.move _,fun n => (h.credit n).move _,h.closing,h.took,h.cleared,h.saw,h.live,h.started,h.ended,
      h.removed⟩

theorem mem_others {s : System} {i j : ℕ} {p : Process Pendings Request Op Res Unit} {op : Op} (hij : j≠i)
    (hp : s.procs[j]?=some p) (hop : p.prog.nextOp=some op) : op∈others s i :=
  mem_filterMap.mpr ⟨p,mem_eraseIdx_iff_getElem?.mpr ⟨j,hij,hp⟩,hop⟩

theorem keeps_exchanges : Keeps run handle move monitor (fun _ _ => Ends) Safe (fun s gs => Exchanges s.store gs) where
  begin s gs r _ h _ := ⟨.idle,wp_handle r,h.begin⟩
  env s gs e _ h _ := h.move e
  step s gs i fails p op k g htr h hok hp hg hprog hallowed _ := by
    have hproc {j : ℕ} {g'' : Stage} (hgj : gs[j]?=some g'') : ∃ q, s.procs[j]?=some q ∧
        monitor.wp (fun _ => Ends) q.prog g'' := by
      obtain ⟨hj,rfl⟩:=List.getElem?_eq_some_iff.mp hgj
      have hlen:=List.Forall₂.length_eq htr
      have hq : s.procs[j]?=some s.procs[j] := List.getElem?_eq_getElem (by omega)
      obtain ⟨g'',hg'',hwp⟩:=forall₂_getElem? htr hq
      rw [hgj] at hg''
      cases hg''
      exact ⟨_,hq,hwp⟩
    refine ⟨_,rfl,h.step hg hallowed (hok p hp op (by rw [hprog]; rfl)) ?_ ?_⟩
    · intro j g'' hj hgj slot hlan hstage
      obtain ⟨q,hq,hwp⟩:=hproc hgj
      obtain ⟨op',hop',hacts⟩:=actsOn_of_stage hwp (h.base.stages g'' (mem_of_getElem? hgj)) hlan hstage
      exact ⟨op',mem_others hj hq hop',hacts⟩
    · intro j g'' hj hgj n hn
      obtain ⟨q,hq,hwp⟩:=hproc hgj
      obtain ⟨op',hop',henters⟩:=enters_of_stage hwp (h.base.stages g'' (mem_of_getElem? hgj)) hn
      exact ⟨op',mem_others hj hq hop',henters⟩

/-- Nobody but those that act for the exchange `n`, and an exchange that supersedes it, ends it or
takes it out of the map; nobody else answers for it. -/
structure AnsweredOnce (s : Pendings) (n : ℕ) : Prop where
  once : (s.answers n).length≤1
  own : ∀ a∈s.answers n, s.endedBy n=some a ∧ a.AnswersFor n
  ended : ∀ a, s.endedBy n=some a → a.Owns n
  removed : ∀ a, s.removedBy n=some a → a.Owns n

theorem exchanges_answered_once (now : ℕ) (p2pFallbackMs : ℤ) (as : List Action) (t : System)
    (hsafe : Along step Safe (initial (start now p2pFallbackMs)) as)
    (hrun : exec step (initial (start now p2pFallbackMs)) as=some t) (n : ℕ) (targetID : PeerID) (initiator : Addr)
    (hslot : t.store.slotOf n=some (.lan targetID initiator)) : AnsweredOnce t.store n := by
  obtain ⟨gs,-,h⟩:=keeps_exchanges.exec_tracked (start_exchanges now p2pFallbackMs) hsafe hrun
  refine ⟨?_,(h.credit n).signed,fun a ha => h.ended n _ rfl hslot a ha,fun a ha => h.removed n _ rfl hslot a ha⟩
  have honce:=(h.credit n).once
  split at honce <;> omega

def lanCaller : Addr := ⟨.v4 3232235786,50000⟩

def lateRun : List Action :=
  .begin (.lanPunchHole "device-b" lanCaller)::List.replicate 3 (.step 0 false) ++
    .env (.tick 2000) :: .begin (.localAddr "device-b" lanCaller)::List.replicate 3 (.step 1 false) ++
      .begin (.timer 0)::List.replicate 2 (.step 2 false)++List.replicate 2 (.step 1 false) ++
        List.replicate 2 (.step 2 false)

theorem exchanges_answered_once_late : ∃ t, exec step (initial (start 0 2000)) lateRun=some t ∧
    AnsweredOnce t.store 0 ∧ t.store.answers 0=[.timer 0] := by
  obtain ⟨t,ht⟩ : ∃ t, exec step (initial (start 0 2000)) lateRun=some t := ⟨_,rfl⟩
  have hslot : t.store.slotOf 0=some (.lan "device-b" lanCaller) ∧ t.store.answers 0=[.timer 0] := by
    cases ht
    decide
  exact ⟨t,ht,exchanges_answered_once 0 2000 lateRun t (by decide) ht 0 "device-b" lanCaller hslot.1,hslot.2⟩

def supersededRun : List Action :=
  .begin (.lanPunchHole "device-b" lanCaller)::List.replicate 3 (.step 0 false) ++
    .env (.tick 2000) :: .begin (.timer 0)::List.replicate 2 (.step 1 false) ++
      .begin (.lanPunchHole "device-b" lanCaller)::List.replicate 6 (.step 2 false)++[.step 1 false]

theorem superseded_timer_removes_newer : ¬ ∀ (now : ℕ) (p2pFallbackMs : ℤ) (as : List Action) (t : System),
    exec step (initial (start now p2pFallbackMs)) as=some t →
      ∀ (n : ℕ) (targetID : PeerID) (initiator : Addr), t.store.slotOf n=some (.lan targetID initiator) →
        AnsweredOnce t.store n := by
  intro h
  have hanswered:=h 0 2000 supersededRun _ rfl 1 "device-b" lanCaller (by decide)
  rcases hanswered.removed (.timer 0) (by decide) with hown | ⟨m,hm⟩
  · cases hown
  · cases hm

end BetterDesk.Signal.Fallbacks
