import BetterDesk.Signal.FallbackStages

/-! # The entries of the two maps over a run -/

namespace BetterDesk.Signal.Fallbacks
open Db Programs Exec List Option Function Nat

section Frames
variable {s : Pendings} {fails : Bool}

def Op.ends : Op → Option (ℕ × Actor)
  | .swapFired _ n a => some (n,a)
  | .storeFired _ n a => some (n,a)
  | _ => none

theorem run_slotOf (op : Op) (hfresh : s.slotOf s.count=none) {m : ℕ} {slot : Slot} (h : s.slotOf m=some slot) :
    (run s op fails).2.slotOf m=some slot := by
  have hmodify (n : ℕ) (f : Pending → Pending) (hf : ∀ p, (f p).slot=p.slot) : (s.modify n f).slotOf m=some slot :=
    (Pendings.modify_slotOf n m f hf).trans h
  cases op with
  | create slot' targetID =>
    refine (Pendings.create_slotOf slot' targetID m).trans ?_
    rw [if_neg,h]
    rintro rfl
    rw [hfresh] at h
    cases h
  | loadOrStore slot' n =>
    show (if s.entries slot'=none then s.put slot' n else s).slotOf m=_
    split <;> exact h
  | swap slot' n => exact (Pendings.take_slotOf slot' (.superseding n) m).trans h
  | loadAndDelete slot' a => exact (Pendings.take_slotOf slot' a m).trans h
  | delete slot' n => exact (Pendings.take_slotOf slot' (.timer n) m).trans h
  | swapFired _ n | storeFired _ n | stopTimer _ n | startTimer n | answer n => exact hmodify n _ fun _ => rfl
  | store | load | outdated | accepts | sendToPeer => exact h

theorem run_fresh (op : Op) (hfresh : ∀ n, s.count≤n → s.cells n=none) (n : ℕ) (hn : (run s op fails).2.count≤n) :
    (run s op fails).2.cells n=none := by
  have hmodify (t : Pendings) (k : ℕ) (f : Pending → Pending) (ht : t.cells=s.cells) (hcount : s.count≤n) :
      (t.modify k f).cells n=none := by
    rw [Pendings.modify_cells,ht,hfresh n hcount]
    split <;> rfl
  have htake (slot : Slot) (a : Actor) : (s.take slot a).count=s.count ∧
      (s.count≤n → (s.take slot a).cells n=none) := by
    unfold Pendings.take
    split
    · exact ⟨rfl,hfresh n⟩
    · exact ⟨rfl,hmodify _ _ _ rfl⟩
  cases op with
  | create slot' targetID =>
    have hn : s.count+1≤n := hn
    show update s.cells s.count _ n=none
    rw [update_of_ne (by omega)]
    exact hfresh n (by omega)
  | loadOrStore slot' k =>
    have hn : (if s.entries slot'=none then s.put slot' k else s).count≤n := hn
    show (if s.entries slot'=none then s.put slot' k else s).cells n=none
    have hn : s.count≤n := by
      split at hn <;> exact hn
    split <;> exact hfresh n hn
  | swap slot' k => exact (htake slot' (.superseding k)).2 ((htake slot' (.superseding k)).1 ▸ hn)
  | loadAndDelete slot' a => exact (htake slot' a).2 ((htake slot' a).1 ▸ hn)
  | delete slot' k => exact (htake slot' (.timer k)).2 ((htake slot' (.timer k)).1 ▸ hn)
  | swapFired _ k | storeFired _ k | stopTimer _ k | startTimer k | answer k => exact hmodify s k _ rfl hn
  | store | load | outdated | accepts | sendToPeer => exact hfresh n hn

theorem run_entries (op : Op) {slot : Slot} {n : ℕ} (h : (run s op fails).2.entries slot=some n) :
    s.entries slot=some n ∨ op=.loadOrStore slot n ∨ op=.swap slot n ∨ op=.store slot n := by
  cases op with
  | loadOrStore slot' n' =>
    have h : (if s.entries slot'=none then s.put slot' n' else s).entries slot=some n := h
    split at h
    · rw [Pendings.put_entries] at h
      split at h
      · rename_i heq
        cases h
        exact .inr (.inl (by rw [heq]))
      · exact .inl h
    · exact .inl h
  | swap slot' n' =>
    have h : ((s.take slot' (.superseding n')).put slot' n').entries slot=some n := h
    rw [Pendings.put_entries,Pendings.take_entries] at h
    split at h
    · rename_i heq
      cases h
      exact .inr (.inr (.inl (by rw [heq])))
    · exact .inl h
  | store slot' n' =>
    have h : (s.put slot' n').entries slot=some n := h
    rw [Pendings.put_entries] at h
    split at h
    · rename_i heq
      cases h
      exact .inr (.inr (.inr (by rw [heq])))
    · exact .inl h
  | loadAndDelete slot' a =>
    have h : (s.take slot' a).entries slot=some n := h
    rw [Pendings.take_entries] at h
    split at h
    · cases h
    · exact .inl h
  | delete slot' n' =>
    have h : (s.take slot' (.timer n')).entries slot=some n := h
    rw [Pendings.take_entries] at h
    split at h
    · cases h
    · exact .inl h
  | create | load | swapFired | storeFired | stopTimer | startTimer | outdated | accepts | sendToPeer | answer =>
    exact .inl h

theorem run_endedBy (op : Op) (hfresh : s.cells s.count=none) (m : ℕ) : (run s op fails).2.endedBy m =
    match op.ends with
    | some (n,a) => if m=n ∧ (s.slotOf n).isSome then s.endedBy m <|> some a else s.endedBy m
    | none => s.endedBy m := by
  cases op with
  | create slot' targetID =>
    show (update s.cells s.count _ m).bind Pending.endedBy=(s.cells m).bind Pending.endedBy
    rw [update_apply]
    split
    · rename_i heq
      rw [heq,hfresh]
      rfl
    · rfl
  | loadOrStore slot' n =>
    show (if s.entries slot'=none then s.put slot' n else s).endedBy m=_
    split <;> rfl
  | swap slot' n => exact Pendings.take_endedBy slot' (.superseding n) m
  | loadAndDelete slot' a => exact Pendings.take_endedBy slot' a m
  | delete slot' n => exact Pendings.take_endedBy slot' (.timer n) m
  | swapFired _ n a | storeFired _ n a => exact Pendings.ended_endedBy n m a
  | stopTimer _ n | startTimer n | answer n => exact Pendings.modify_endedBy n m _ fun _ => rfl
  | store | load | outdated | accepts | sendToPeer => rfl

theorem run_answers (op : Op) (hfresh : s.cells s.count=none) (m : ℕ) : (run s op fails).2.answers m =
    match op with
    | .answer n a => if m=n ∧ (s.slotOf n).isSome then a::s.answers m else s.answers m
    | _ => s.answers m := by
  cases op with
  | create slot' targetID =>
    show ((update s.cells s.count _ m).map Pending.answers).getD []=((s.cells m).map Pending.answers).getD []
    rw [update_apply]
    split
    · rename_i heq
      rw [heq,hfresh]
      rfl
    · rfl
  | loadOrStore slot' n =>
    show (if s.entries slot'=none then s.put slot' n else s).answers m=_
    split <;> rfl
  | swap slot' n => exact Pendings.take_answers slot' (.superseding n) m
  | loadAndDelete slot' a => exact Pendings.take_answers slot' a m
  | delete slot' n => exact Pendings.take_answers slot' (.timer n) m
  | swapFired _ n | storeFired _ n | stopTimer _ n | startTimer n => exact Pendings.modify_answers n m _ fun _ => rfl
  | answer n a => exact Pendings.answered_answers n m a
  | store | load | outdated | accepts | sendToPeer => rfl

end Frames

def Actor.Suits (s : Pendings) (slot : Slot) : Actor → Prop
  | .timer _ => False
  | .superseding n => s.slotOf n=some slot
  | .failedSend n => slot.isLAN=true ∧ s.slotOf n=some slot
  | .localAddr n => slot.isLAN=true ∧ s.slotOf n=some slot
  | .punchHoleSent _ initiator => slot=.punch initiator
  | .sweep => slot.isLAN=false

def Stage.Closes (s : Pendings) (slot : Slot) (m : Option ℕ) (a : Actor) : Prop :=
  (∃ n, a=.timer n ∧ m=some n ∧ s.slotOf n=some slot) ∨
    slot.isLAN=true ∧ (∃ n, (a=.failedSend n ∨ a=.localAddr n) ∧ s.slotOf n=some slot) ∧
      ∀ k∈m,s.slotOf k=some slot

def Stage.Knows (s : Pendings) : Stage → Prop
  | .idle => True
  | .made slot n => s.slotOf n=some slot
  | .displacing slot n => slot.isLAN=true ∧ s.slotOf n=some slot
  | .took slot m a => s.slotOf m=some slot ∧ a.Suits s slot
  | .storing slot n => slot.isLAN=true ∧ s.slotOf n=some slot
  | .sending slot n => slot.isLAN=true ∧ s.slotOf n=some slot
  | .loaded slot n => s.slotOf n=some slot
  | .started slot n => s.slotOf n=some slot
  | .removing slot n => s.slotOf n=some slot
  | .closing slot m a => Closes s slot m a
  | .finished => True

structure Base (s : Pendings) (gs : List Stage) : Prop where
  fresh : ∀ n, s.count≤n → s.cells n=none
  entries : ∀ slot n, s.entries slot=some n → s.slotOf n=some slot
  stages : ∀ g∈gs,g.Knows s

theorem Base.keeps_slot (h : Base s gs) (op : Op) (fails : Bool) (m : ℕ) (slot : Slot) (hm : s.slotOf m=some slot) :
    (run s op fails).2.slotOf m=some slot :=
  run_slotOf op (congrArg (Option.map Pending.slot) (h.fresh _ (le_refl _))) hm

section Knows
variable {s s' : Pendings} (hmono : ∀ m slot, s.slotOf m=some slot → s'.slotOf m=some slot)
include hmono

theorem Actor.Suits.mono {slot : Slot} {a : Actor} (h : a.Suits s slot) : a.Suits s' slot := by
  cases a with
  | timer | punchHoleSent | sweep => exact h
  | superseding n => exact hmono n slot h
  | failedSend n => exact ⟨h.1,hmono n slot h.2⟩
  | localAddr n => exact ⟨h.1,hmono n slot h.2⟩

theorem Stage.Knows.mono {g : Stage} (h : g.Knows s) : g.Knows s' := by
  cases g with
  | idle | finished => trivial
  | made slot n | loaded slot n | started slot n | removing slot n => exact hmono n slot h
  | displacing slot n | storing slot n | sending slot n => exact ⟨h.1,hmono n slot h.2⟩
  | took slot m a => exact ⟨hmono m slot h.1,h.2.mono hmono⟩
  | closing slot m a =>
    rcases h with ⟨n,ha,hm,hn⟩ | ⟨hlan,⟨n,ha,hn⟩,hk⟩
    · exact .inl ⟨n,ha,hm,hmono n slot hn⟩
    · exact .inr ⟨hlan,⟨n,ha,hmono n slot hn⟩,fun k hk' => hmono k slot (hk k hk')⟩

end Knows

variable {gs : List Stage} {s : Pendings} {g : Stage} {n i m : ℕ} {a : Actor} {fails : Bool} {slot : Slot} {op : Op}

theorem Stage.knows_marked {found : Bool}
    (hm : s.slotOf m=some slot) (ha : a.Suits s slot) (hlan : slot.isLAN=false → a.exchange=none) :
    (marked slot m a found).Knows s := by
  cases a with
  | timer n => exact ha.elim
  | superseding n =>
    refine ⟨?_,ha⟩
    cases h : slot.isLAN with
    | true => rfl
    | false => cases hlan h
  | failedSend n =>
    refine .inr ⟨ha.1,⟨n,.inl rfl,ha.2⟩,fun k hk => ?_⟩
    cases found with
    | true => cases hk
    | false =>
      cases hk
      exact hm
  | localAddr n =>
    cases found with
    | true => trivial
    | false =>
      refine .inr ⟨ha.1,⟨n,.inr rfl,ha.2⟩,fun k hk => ?_⟩
      cases hk
      exact hm
  | punchHoleSent | sweep => trivial

theorem knows_after (h : Base s gs) (hg : g∈gs)
    (hallowed : g.Allowed op) : (g.after op (run s op fails).1).Knows (run s op fails).2 := by
  have hmono:=h.keeps_slot op fails
  have hknows:=h.stages g hg
  cases g with
  | idle =>
    cases op with
    | sendToPeer => trivial
    | create slot targetID =>
      refine (Pendings.create_slotOf slot targetID s.count).trans ?_
      rw [if_pos rfl]
    | load slot =>
      show (Stage.after .idle (.load slot) (s.entries slot)).Knows s
      cases he : s.entries slot with
      | none => trivial
      | some n => exact h.entries slot n he
    | startTimer n =>
      show (Stage.after .idle (.startTimer n) (s.timerDue n)).Knows (s.modify n Pending.stopped)
      cases hdue : s.timerDue n with
      | none => trivial
      | some slot =>
        obtain ⟨p,hp,hslot⟩:=map_eq_some_iff.mp hdue
        refine hmono n slot ?_
        unfold Pendings.slotOf
        rw [(filter_eq_some_iff.mp hp).1]
        exact congrArg some hslot
    | loadAndDelete slot a =>
      show (Stage.after .idle (.loadAndDelete slot a) (s.entries slot)).Knows (s.take slot a)
      cases he : s.entries slot with
      | none => trivial
      | some m =>
        refine ⟨hmono m slot (h.entries slot m he),?_⟩
        cases a with
        | punchHoleSent targetID initiator => exact hallowed
        | timer | superseding | failedSend | localAddr | sweep => exact hallowed.elim
    | _ => exact hallowed.elim
  | made slot n =>
    cases op with
    | loadOrStore slot' n' =>
      obtain ⟨hlan,rfl,rfl⟩:=hallowed
      show (Stage.after (.made slot' n') (.loadOrStore slot' n') (s.entries slot')).Knows _
      cases he : s.entries slot' with
      | none | some => exact ⟨hlan,hmono n' slot' hknows⟩
    | swap slot' n' =>
      obtain ⟨hlan,rfl,rfl⟩:=hallowed
      show (Stage.after (.made slot' n') (.swap slot' n') (s.entries slot')).Knows _
      cases he : s.entries slot' with
      | none => trivial
      | some old => exact ⟨hmono old slot' (h.entries slot' old he),hmono n' slot' hknows⟩
    | _ => exact hallowed.elim
  | displacing slot n =>
    cases op with
    | loadAndDelete slot' a =>
      obtain ⟨rfl,rfl⟩:=hallowed
      show (Stage.after (.displacing slot' n) (.loadAndDelete slot' (.superseding n)) (s.entries slot')).Knows _
      cases he : s.entries slot' with
      | none => exact ⟨hknows.1,hmono n slot' hknows.2⟩
      | some m => exact ⟨hmono m slot' (h.entries slot' m he),hmono n slot' hknows.2⟩
    | _ => exact hallowed.elim
  | took slot m a =>
    cases op with
    | swapFired slot' m' a' =>
      obtain ⟨rfl,rfl,rfl,hlan⟩:=hallowed
      exact Stage.knows_marked (hmono m' slot' hknows.1) (hknows.2.mono hmono) hlan
    | storeFired slot' m' a' => trivial
    | _ => exact hallowed.elim
  | storing slot n =>
    cases op with
    | stopTimer | store => exact ⟨hknows.1,hmono n slot hknows.2⟩
    | _ => exact hallowed.elim
  | sending slot n =>
    cases op with
    | sendToPeer => exact ⟨hknows.1,hmono n slot hknows.2⟩
    | loadAndDelete slot' a =>
      obtain ⟨rfl,rfl⟩:=hallowed
      show (Stage.after (.sending slot' n) (.loadAndDelete slot' (.failedSend n)) (s.entries slot')).Knows _
      cases he : s.entries slot' with
      | none => exact .inr ⟨hknows.1,⟨n,.inl rfl,hmono n slot' hknows.2⟩,fun k hk => (by cases hk)⟩
      | some m => exact ⟨hmono m slot' (h.entries slot' m he),hknows.1,hmono n slot' hknows.2⟩
    | _ => exact hallowed.elim
  | loaded slot n =>
    cases op with
    | outdated slot' n' =>
      show (Stage.after (.loaded slot n) (.outdated slot' n') (s.outdated slot' n')).Knows s
      unfold Stage.after
      dsimp only
      split
      · exact hknows
      · trivial
    | accepts slot' n' =>
      show (Stage.after (.loaded slot n) (.accepts slot' n') (!fails)).Knows s
      cases fails with
      | true => trivial
      | false => exact hknows
    | loadAndDelete slot' a =>
      obtain ⟨rfl,hretakes⟩:=hallowed
      show (Stage.after (.loaded slot' n) (.loadAndDelete slot' a) (s.entries slot')).Knows _
      cases he : s.entries slot' with
      | none => trivial
      | some m =>
        refine ⟨hmono m slot' (h.entries slot' m he),?_⟩
        cases a with
        | localAddr k =>
          obtain ⟨hlan,rfl⟩:=hretakes
          exact ⟨hlan,hmono k slot' hknows⟩
        | sweep => exact hretakes
        | timer | superseding | failedSend | punchHoleSent => exact hretakes.elim
    | _ => exact hallowed.elim
  | started slot n =>
    cases op with
    | swapFired slot' n' a =>
      show (Stage.after (.started slot n) (.swapFired slot' n' a) (s.fired n')).Knows _
      cases s.fired n' with
      | true => trivial
      | false => exact hmono n slot hknows
    | _ => exact hallowed.elim
  | removing slot n =>
    cases op with
    | delete slot' n' => exact .inl ⟨n,rfl,rfl,hmono n slot hknows⟩
    | _ => exact hallowed.elim
  | closing slot m a =>
    cases op with
    | stopTimer slot' m' a' => exact Stage.Knows.mono hmono (g := .closing slot m a) hknows
    | answer n a' => trivial
    | _ => exact hallowed.elim
  | finished =>
    cases op with
    | stopTimer slot' m' a' => trivial
    | _ => exact hallowed.elim

theorem Base.step (h : Base s gs) (hg : gs[i]?=some g) (hallowed : g.Allowed op) :
    Base (run s op fails).2 (gs.set i (g.after op (run s op fails).1)) := by
  have hgs:=mem_of_getElem? hg
  have hmono:=h.keeps_slot op fails
  refine ⟨run_fresh op h.fresh,fun slot n he => ?_,fun g' hg' => ?_⟩
  · rcases run_entries op he with he | rfl | rfl | rfl
    · exact hmono n slot (h.entries slot n he)
    · cases g with
      | made slot' n' =>
        obtain ⟨-,rfl,rfl⟩:=hallowed
        exact hmono n slot (h.stages _ hgs)
      | _ => exact hallowed.elim
    · cases g with
      | made slot' n' =>
        obtain ⟨-,rfl,rfl⟩:=hallowed
        exact hmono n slot (h.stages _ hgs)
      | _ => exact hallowed.elim
    · cases g with
      | storing slot' n' =>
        obtain ⟨rfl,rfl⟩:=hallowed
        exact hmono n slot (h.stages _ hgs).2
      | _ => exact hallowed.elim
  · rcases mem_or_eq_of_mem_set hg' with hg' | rfl
    · exact (h.stages g' hg').mono hmono
    · exact knows_after h hgs hallowed

theorem Base.begin (h : Base s gs) : Base s (gs++[.idle]) := by
  refine ⟨h.fresh,h.entries,fun g hg => ?_⟩
  rcases mem_append.mp hg with hg | hg
  · exact h.stages g hg
  · obtain rfl:=mem_singleton.mp hg
    trivial

theorem Base.move (h : Base s gs) (e : Outside) : Base (move s e) gs := by
  cases e with
  | tick | configure => exact ⟨h.fresh,h.entries,fun g hg => (h.stages g hg).mono fun _ _ hm => hm⟩

theorem start_base (now : ℕ) (p2pFallbackMs : ℤ) : Base (start now p2pFallbackMs) [] :=
  ⟨fun _ _ => rfl,fun _ _ h => (by cases h),fun _ h => (by cases h)⟩

/-- The call has set the flag of `n` and is going to answer. -/
def Stage.winner (n : ℕ) : Stage → Option Actor
  | .removing _ m => if m=n then some (.timer m) else none
  | .closing _ (some m) a => if m=n then some a else none
  | _ => none

def Stage.wins (n : ℕ) (g : Stage) : Bool := (g.winner n).isSome

/-- The flag of `n` covers its answers, those given and those to come. -/
structure Credit (s : Pendings) (gs : List Stage) (n : ℕ) : Prop where
  once : (s.answers n).length+gs.countP (Stage.wins n) ≤ if (s.endedBy n).isSome then 1 else 0
  signed : ∀ a∈s.answers n, s.endedBy n=some a ∧ a.AnswersFor n
  won : ∀ g∈gs, ∀ a, g.winner n=some a → s.endedBy n=some a

theorem countP_after (p : Stage → Bool) (g' : Stage) (hg : gs[i]?=some g) :
    (gs.set i g').countP p+(if p g then 1 else 0)=gs.countP p + if p g' then 1 else 0 := by
  obtain ⟨hi,rfl⟩:=List.getElem?_eq_some_iff.mp hg
  rw [countP_set hi]
  have hpos : p gs[i]=true → 0<gs.countP p := fun h => countP_pos_iff.mpr ⟨_,getElem_mem hi,h⟩
  by_cases h : p gs[i]=true
  · have hle:=hpos h
    simp only [h,if_true]
    omega
  · simp only [h]
    simp

theorem Credit.same {s' : Pendings} {g' : Stage} (h : Credit s gs n)
    (hg : gs[i]?=some g) (hanswers : s'.answers n=s.answers n) (hended : ∀ a, s.endedBy n=some a → s'.endedBy n=some a)
    (hwins : ∀ a, g'.winner n=some a → g.winner n=some a) : Credit s' (gs.set i g') n := by
  have hcount:=countP_after (Stage.wins n) g' hg
  have hle : (if g'.wins n then 1 else 0) ≤ if g.wins n then 1 else 0 := by
    unfold Stage.wins
    cases hw : g'.winner n with
    | none => simp
    | some a =>
      rw [hwins a hw]
  refine ⟨?_,fun a ha => ?_,fun g'' hg'' a ha => ?_⟩
  · have honce:=h.once
    rw [hanswers]
    cases he : s.endedBy n with
    | none =>
      rw [he] at honce
      simp only [isSome_none,Bool.false_eq_true,if_false] at honce
      omega
    | some a =>
      rw [he] at honce
      rw [hended a he]
      simp only [isSome_some,if_true] at honce ⊢
      omega
  · rw [hanswers] at ha
    obtain ⟨he,hx⟩:=h.signed a ha
    exact ⟨hended a he,hx⟩
  · rcases mem_or_eq_of_mem_set hg'' with hg'' | rfl
    · exact hended a (h.won g'' hg'' a ha)
    · exact hended a (h.won g (mem_of_getElem? hg) a (hwins a ha))

theorem Stage.winner_after {r : Res op} (hallowed : g.Allowed op)
    (hends : op.ends=none) (h : (g.after op r).winner n=some a) : g.winner n=some a := by
  cases g with
  | idle =>
    cases op with
    | load | startTimer | loadAndDelete => cases r <;> cases h
    | create | sendToPeer => cases h
    | _ => exact hallowed.elim
  | made slot m =>
    cases op with
    | loadOrStore | swap => cases r <;> cases h
    | _ => exact hallowed.elim
  | displacing slot m =>
    cases op with
    | loadAndDelete => cases r <;> cases h
    | _ => exact hallowed.elim
  | took slot m b =>
    cases op with
    | swapFired => cases hends
    | storeFired => cases hends
    | _ => exact hallowed.elim
  | storing slot m =>
    cases op with
    | stopTimer => cases h
    | store => cases h
    | _ => exact hallowed.elim
  | sending slot m =>
    cases op with
    | sendToPeer => cases h
    | loadAndDelete => cases r <;> cases h
    | _ => exact hallowed.elim
  | loaded slot m =>
    cases op with
    | outdated =>
      revert h
      show (if slot.isLAN||r then Stage.loaded slot m else .finished).winner n=some a → _
      split <;> exact fun h => (by cases h)
    | accepts =>
      revert h
      show (if r then Stage.loaded slot m else .finished).winner n=some a → _
      split <;> exact fun h => (by cases h)
    | loadAndDelete => cases r <;> cases h
    | _ => exact hallowed.elim
  | started slot m =>
    cases op with
    | swapFired => cases hends
    | _ => exact hallowed.elim
  | removing slot m =>
    cases op with
    | delete => exact h
    | _ => exact hallowed.elim
  | closing slot m b =>
    cases op with
    | stopTimer => exact h
    | answer => cases h
    | _ => exact hallowed.elim
  | finished =>
    cases op with
    | stopTimer => cases h
    | _ => exact hallowed.elim

theorem Stage.winner_marked {b : Actor} {found : Bool}
    (h : (marked slot m a found).winner n=some b) : found=false ∧ m=n ∧ b=a := by
  have hclosing (h : (Stage.closing slot (some m) a).winner n=some b) : m=n ∧ b=a := by
    unfold Stage.winner at h
    dsimp only at h
    split at h
    · exact ⟨‹_›,(Option.some.inj h).symm⟩
    · cases h
  cases a with
  | failedSend | localAddr =>
    cases found with
    | true => cases h
    | false => exact ⟨rfl,hclosing h⟩
  | timer | superseding | punchHoleSent | sweep => cases h

theorem Credit.mark {g' : Stage} (h : Credit s gs n) (hg : gs[i]?=some g) (hm : (s.slotOf m).isSome)
    (hwins : ∀ b, g'.winner n=some b → m=n ∧ b=a ∧ s.endedBy n=none) :
    Credit (s.modify m fun p => p.ended a) (gs.set i g') n := by
  have hended:=s.ended_endedBy m n a
  have hanswers:=s.modify_answers m n (fun p => p.ended a) fun _ => rfl
  have hkeeps (b : Actor) (hb : s.endedBy n=some b) : (s.modify m fun p => p.ended a).endedBy n=some b := by
    rw [hended,hb]
    split <;> rfl
  cases hw : g'.winner n with
  | none => exact h.same hg hanswers hkeeps fun b hb => (by rw [hw] at hb; cases hb)
  | some b =>
    obtain ⟨rfl,rfl,hnone⟩:=hwins b hw
    have hset : (s.modify m fun p => p.ended b).endedBy m=some b := by
      rw [hended,if_pos ⟨rfl,hm⟩,hnone]
      rfl
    have honce:=h.once
    rw [hnone] at honce
    simp only [isSome_none,Bool.false_eq_true,if_false,Nat.le_zero,Nat.add_eq_zero_iff] at honce
    have hcount:=countP_after (Stage.wins m) g' hg
    have hwon : g'.wins m=true := by
      unfold Stage.wins
      rw [hw]
      rfl
    refine ⟨?_,fun c hc => ?_,fun g'' hg'' c hc => ?_⟩
    · rw [hset,hanswers,honce.1]
      rw [honce.2,hwon] at hcount
      simp only [isSome_some,if_true] at hcount ⊢
      omega
    · rw [hanswers,length_eq_zero_iff.mp honce.1] at hc
      cases hc
    · rcases mem_or_eq_of_mem_set hg'' with hg'' | rfl
      · have hno:=h.won g'' hg'' c hc
        rw [hnone] at hno
        cases hno
      · rw [hset,← hw,hc]

theorem Credit.answer (h : Credit s gs n) (hg : gs[i]?=some (.closing slot (some n) a)) (hx : a.AnswersFor n) :
    Credit (s.modify n fun p => p.answered a) (gs.set i .finished) n := by
  have hwinner : (Stage.closing slot (some n) a).winner n=some a := if_pos rfl
  have hended : s.endedBy n=some a := h.won _ (mem_of_getElem? hg) a hwinner
  have hsome : (s.slotOf n).isSome := by
    unfold Pendings.endedBy at hended
    unfold Pendings.slotOf
    cases hc : s.cells n with
    | none =>
      rw [hc] at hended
      cases hended
    | some p => rfl
  have hkept:=s.modify_endedBy n n (fun p => p.answered a) fun _ => rfl
  have hanswers : (s.modify n fun p => p.answered a).answers n=a::s.answers n := by
    rw [s.answered_answers n n a,if_pos ⟨rfl,hsome⟩]
  have hcount:=countP_after (Stage.wins n) .finished hg
  have hwins : (Stage.closing slot (some n) a).wins n=true := by
    unfold Stage.wins
    rw [hwinner]
    rfl
  refine ⟨?_,fun b hb => ?_,fun g hg' b hb => ?_⟩
  · have honce:=h.once
    rw [hwins,show Stage.wins n .finished=false from rfl] at hcount
    rw [hkept,hanswers,hended] at *
    simp only [isSome_some,if_true,length_cons,Bool.false_eq_true,if_false] at honce hcount ⊢
    omega
  · rw [hkept]
    rw [hanswers] at hb
    rcases mem_cons.mp hb with rfl | hb
    · exact ⟨hended,hx⟩
    · exact h.signed b hb
  · rw [hkept]
    rcases mem_or_eq_of_mem_set hg' with hg' | rfl
    · exact h.won g hg' b hb
    · cases hb

theorem Credit.step (h : Credit s gs n) (hbase : Base s gs) (hg : gs[i]?=some g) (hallowed : g.Allowed op)
    (hclosing : ∀ slot m a, g=.closing slot m a → a.AnswersFor n → m=some n) :
    Credit (run s op fails).2 (gs.set i (g.after op (run s op fails).1)) n := by
  have hfresh:=hbase.fresh s.count (le_refl _)
  have hknows:=hbase.stages g (mem_of_getElem? hg)
  have hrest (hends : op.ends=none) (hans : ∀ a, op ≠ .answer n a) :
      Credit (run s op fails).2 (gs.set i (g.after op (run s op fails).1)) n := by
    refine h.same hg ?_ (fun a ha => ?_) fun a ha => Stage.winner_after hallowed hends ha
    · rw [run_answers op hfresh]
      split
      · rename_i k a
        rw [if_neg]
        rintro ⟨rfl,-⟩
        exact hans a rfl
      · rfl
    · rw [run_endedBy op hfresh,hends]
      exact ha
  cases op with
  | swapFired slot m a =>
    have hset : s.fired m=false → n=m → s.endedBy n=none := by
      rintro hf rfl
      rw [Pendings.fired_eq] at hf
      simpa using hf
    cases g with
    | took slot' m' a' =>
      obtain ⟨rfl,rfl,rfl,-⟩:=hallowed
      refine h.mark hg (by rw [hknows.1]; rfl) fun b hb => ?_
      obtain ⟨hf,rfl,rfl⟩:=Stage.winner_marked hb
      exact ⟨rfl,rfl,hset hf rfl⟩
    | started slot' m' =>
      obtain ⟨rfl,rfl,rfl⟩:=hallowed
      refine h.mark hg (by rw [show s.slotOf m=some slot from hknows]; rfl) fun b hb => ?_
      revert hb
      show (Stage.after (.started slot m) (.swapFired slot m (.timer m)) (s.fired m)).winner n=some b → _
      cases hf : s.fired m with
      | true => exact fun hb => (by cases hb)
      | false =>
        intro hb
        have hb : (if m=n then some (Actor.timer m) else none)=some b := hb
        split at hb
        · rename_i heq
          exact ⟨heq,(Option.some.inj hb).symm,hset hf heq.symm⟩
        · cases hb
    | _ => exact hallowed.elim
  | storeFired slot m a =>
    cases g with
    | took slot' m' a' =>
      obtain ⟨-,rfl,rfl,rfl⟩:=hallowed
      exact h.mark hg (by rw [hknows.1]; rfl) fun b hb => (by cases hb)
    | _ => exact hallowed.elim
  | answer k a =>
    cases g with
    | closing slot m a' =>
      obtain ⟨rfl,hx⟩:=hallowed
      by_cases hk : k=n
      · subst hk
        obtain rfl:=hclosing slot m a rfl hx
        exact h.answer hg hx
      · exact hrest rfl fun b hb => (by cases hb; exact hk rfl)
    | _ => exact hallowed.elim
  | create | loadOrStore | swap | store | load | loadAndDelete | delete | stopTimer | startTimer | outdated | accepts
  | sendToPeer => exact hrest rfl fun b hb => (by cases hb)

theorem Credit.begin (h : Credit s gs n) : Credit s (gs++[.idle]) n := by
  refine ⟨?_,h.signed,fun g hg a ha => ?_⟩
  · rw [countP_append]
    exact h.once
  · rcases mem_append.mp hg with hg | hg
    · exact h.won g hg a ha
    · obtain rfl:=mem_singleton.mp hg
      cases ha

theorem Credit.move (h : Credit s gs n) (e : Outside) : Credit (move s e) gs n := by
  cases e <;> exact ⟨h.once,h.signed,h.won⟩

theorem start_credit (now : ℕ) (p2pFallbackMs : ℤ) (n : ℕ) : Credit (start now p2pFallbackMs) [] n :=
  ⟨le_refl _,fun _ h => (by cases h),fun _ h => (by cases h)⟩

end BetterDesk.Signal.Fallbacks
