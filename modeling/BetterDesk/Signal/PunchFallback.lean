import BetterDesk.Signal.FallbackEntries

/-! # The fallback of an initiator (signal/server.go, `schedulePunchFallback`) -/

namespace BetterDesk.Signal.Fallbacks
open Db Programs Exec

/-- A session that waits in `pendingPunches`, or no session yet. -/
def Pendings.Punched (s : Pendings) (n : ℕ) : Prop := ∀ slot, s.slotOf n=some slot → slot.isLAN=false

structure PunchesKept (s : Pendings) (gs : List Stage) : Prop where
  base : Base s gs
  credit : ∀ n, s.Punched n → Credit s gs n
  ended : ∀ n initiator, s.slotOf n=some (.punch initiator) → ∀ a, s.endedBy n=some a →
    a=.timer n ∨ a.Suits s (.punch initiator)

theorem start_punchesKept (now : ℕ) (p2pFallbackMs : ℤ) : PunchesKept (start now p2pFallbackMs) [] :=
  ⟨start_base now p2pFallbackMs,fun n _ => start_credit now p2pFallbackMs n,fun _ _ h => (by cases h)⟩

variable {s : Pendings} {gs : List Stage} {op : Op}

theorem endedBy_step {fails : Bool} {n : ℕ} {a : Actor} (hfresh : s.cells s.count=none)
    (h : s.endedBy n=some a) : (run s op fails).2.endedBy n=some a := by
  rw [run_endedBy op hfresh,h]
  split
  · split <;> rfl
  · rfl

theorem ends_suits {g : Stage} {m : ℕ} {a : Actor} (h : Base s gs) (hg : g∈gs)
    (hallowed : g.Allowed op) (hends : op.ends=some (m,a)) :
    ∃ slot, s.slotOf m=some slot ∧ (a=.timer m ∨ a.Suits s slot) := by
  have hknows:=h.stages g hg
  cases op with
  | swapFired slot m' a' =>
    cases hends
    cases g with
    | took slot' m' a' =>
      obtain ⟨rfl,rfl,rfl,-⟩:=hallowed
      exact ⟨slot,hknows.1,.inr hknows.2⟩
    | started slot' n =>
      obtain ⟨rfl,rfl,rfl⟩:=hallowed
      exact ⟨slot,hknows,.inl rfl⟩
    | _ => exact hallowed.elim
  | storeFired slot m' a' =>
    cases hends
    cases g with
    | took slot' m' a' =>
      obtain ⟨-,rfl,rfl,rfl⟩:=hallowed
      exact ⟨slot,hknows.1,.inr hknows.2⟩
    | _ => exact hallowed.elim
  | _ => cases hends

theorem PunchesKept.step {g : Stage} {i : ℕ} {fails : Bool}
    (h : PunchesKept s gs) (hg : gs[i]?=some g) (hallowed : g.Allowed op) :
    PunchesKept (run s op fails).2 (gs.set i (g.after op (run s op fails).1)) := by
  have hgs:=List.mem_of_getElem? hg
  have hfresh:=h.base.fresh s.count (Nat.le_refl _)
  have hmono:=h.base.keeps_slot op fails
  refine ⟨h.base.step hg hallowed,fun n hn => ?_,fun n initiator hslot a ha => ?_⟩
  · have hpunched : s.Punched n := fun slot hs => hn slot (hmono n slot hs)
    refine (h.credit n hpunched).step h.base hg hallowed ?_
    rintro slot m a rfl hx
    rcases h.base.stages _ hgs with ⟨k,rfl,rfl,-⟩ | ⟨hlan,⟨k,ha,hk⟩,-⟩
    · exact congrArg some hx
    · -- those that answer for an exchange know its key
      have hkn : k=n := by
        rcases ha with rfl | rfl
        · exact hx
        · exact hx
      rw [hpunched slot (hkn ▸ hk)] at hlan
      cases hlan
  · have hold (b : Actor) (hb : s.endedBy n=some b) : b=.timer n ∨ b.Suits (run s op fails).2 (.punch initiator) := by
      have hs : s.slotOf n=some (.punch initiator) := by
        cases hs : s.slotOf n with
        | none =>
          unfold Pendings.slotOf at hs
          unfold Pendings.endedBy at hb
          rw [Option.map_eq_none_iff.mp hs] at hb
          cases hb
        | some slot =>
          have hslot':=hmono n slot hs
          rw [hslot] at hslot'
          exact hslot'.symm
      exact (h.ended n initiator hs b hb).imp_right fun hsuits => hsuits.mono hmono
    rw [run_endedBy op hfresh] at ha
    cases hends : op.ends with
    | none =>
      rw [hends] at ha
      exact hold a ha
    | some e =>
      obtain ⟨m,b⟩:=e
      rw [hends] at ha
      dsimp only at ha
      split at ha
      · rename_i hm
        cases hb : s.endedBy n with
        | some c =>
          rw [hb] at ha
          cases ha
          exact hold a hb
        | none =>
          rw [hb] at ha
          cases ha
          obtain ⟨slot,hs,hsuits⟩:=ends_suits h.base hgs hallowed hends
          rw [← hm.1] at hs hsuits
          have hslot':=hmono n slot hs
          rw [hslot] at hslot'
          cases hslot'
          exact hsuits.imp_right fun hsuits => hsuits.mono hmono
      · exact hold a ha

theorem keeps_punches : Keeps run handle move monitor (fun _ _ => Ends) (fun _ _ => True)
    (fun s gs => PunchesKept s.store gs) where
  begin s gs r _ h _ := ⟨.idle,wp_handle r,h.base.begin,fun n hn => (h.credit n hn).begin,h.ended⟩
  env s gs e _ h _ := by
    refine ⟨h.base.move e,fun n hn => ?_,?_⟩
    · refine (h.credit n ?_).move e
      cases e <;> exact hn
    · cases e <;> exact h.ended
  step s gs i fails p op k g _ h _ _ hg _ hallowed _ := ⟨_,rfl,h.step hg hallowed⟩

/-- What holds of the session `n` of an initiator. -/
structure FallbackKept (s : Pendings) (n : ℕ) (initiator : Addr) : Prop where
  once : (s.answers n).length≤1
  own : ∀ a∈s.answers n, a=.timer n ∧ s.endedBy n=some (.timer n)
  ended : ∀ a, s.endedBy n=some a → a=.timer n ∨ (∃ targetID, a=.punchHoleSent targetID initiator) ∨
    (∃ m, a=.superseding m ∧ s.slotOf m=some (.punch initiator)) ∨ a=.sweep

theorem PunchesKept.fallbackKept {n : ℕ} {initiator : Addr} (h : PunchesKept s gs)
    (hslot : s.slotOf n=some (.punch initiator)) : FallbackKept s n initiator := by
  have hpunched : s.Punched n := by
    intro slot hs
    rw [hslot] at hs
    cases hs
    rfl
  have hcredit:=h.credit n hpunched
  have hended (a : Actor) (ha : s.endedBy n=some a) : a=.timer n ∨ (∃ targetID, a=.punchHoleSent targetID initiator) ∨
      (∃ m, a=.superseding m ∧ s.slotOf m=some (.punch initiator)) ∨ a=.sweep := by
    refine (h.ended n initiator hslot a ha).imp_right fun hsuits => ?_
    cases a with
    | timer k => exact hsuits.elim
    | superseding m => exact .inr (.inl ⟨m,rfl,hsuits⟩)
    | failedSend | localAddr => cases hsuits.1
    | punchHoleSent targetID initiator' =>
      cases hsuits
      exact .inl ⟨targetID,rfl⟩
    | sweep => exact .inr (.inr rfl)
  refine ⟨?_,fun a ha => ?_,hended⟩
  · have honce:=hcredit.once
    split at honce <;> omega
  · obtain ⟨he,hx⟩:=hcredit.signed a ha
    obtain rfl | ⟨targetID,rfl⟩ | ⟨m,rfl,-⟩ | rfl:=hended a he
    · exact ⟨rfl,he⟩
    · exact hx.elim
    · exact hx.elim
    · exact hx.elim

theorem keeps_ended (n : ℕ) (a : Actor) : Keeps run handle move monitor (fun _ _ => Ends) (fun _ _ => True)
    (fun s gs => PunchesKept s.store gs ∧ s.store.endedBy n=some a) where
  begin s gs r htr h hok :=
    have ⟨g,hg,hbegin⟩:=keeps_punches.begin s gs r htr h.1 hok
    ⟨g,hg,hbegin,h.2⟩
  env s gs e htr h hok := by
    refine ⟨keeps_punches.env s gs e htr h.1 hok,?_⟩
    cases e <;> exact h.2
  step s gs i fails p op k g _ h _ _ hg _ hallowed _ :=
    ⟨_,rfl,h.1.step hg hallowed,endedBy_step (h.1.base.fresh _ (Nat.le_refl _)) h.2⟩

/-- One fallback for each address, whatever the order of the calls. -/
theorem punch_fallback_kept (now : ℕ) (p2pFallbackMs : ℤ) (as bs : List Action) (s t : System) (n : ℕ) (initiator : Addr)
    (has : exec step (initial (start now p2pFallbackMs)) as=some s) (hbs : exec step s bs=some t)
    (hslot : t.store.slotOf n=some (.punch initiator)) :
    FallbackKept t.store n initiator ∧ ∀ a, s.store.endedBy n=some a → a ≠ .timer n → t.store.answers n=[] := by
  obtain ⟨gs,htracked,hs⟩:=keeps_punches.exec_tracked (start_punchesKept now p2pFallbackMs)
    (along_of_forall (fun _ _ _ => trivial) _) has
  obtain ⟨gs',-,ht⟩:=exec_invariant_all (fun s => ∃ gs, Tracked monitor (fun _ _ => Ends) s.procs gs ∧ PunchesKept s.store gs)
    (fun _ _ _ hs hst => keeps_punches.tracked_step hs trivial hst) ⟨gs,htracked,hs⟩ hbs
  have hkept:=ht.fallbackKept hslot
  refine ⟨hkept,fun a ha hne => ?_⟩
  obtain ⟨gs'',-,-,hended⟩:=exec_invariant_all (fun s => ∃ gs, Tracked monitor (fun _ _ => Ends) s.procs gs ∧
      PunchesKept s.store gs ∧ s.store.endedBy n=some a)
    (fun _ _ _ hs hst => (keeps_ended n a).tracked_step hs trivial hst) ⟨gs,htracked,hs,ha⟩ hbs
  cases hans : t.store.answers n with
  | nil => rfl
  | cons b rest =>
    have hb:=(hkept.own b (by rw [hans]; exact List.mem_cons_self ..)).2
    rw [hended] at hb
    exact absurd (Option.some.inj hb) hne

def caller : Addr := ⟨.v4 3325256809,50000⟩

/-- A call from its first operation to its `k`-th. -/
def whole (r : Request) (i k : ℕ) : List Action := .begin r::List.replicate k (.step i false)

def requestRun : List Action := whole (.punchHole caller "device-b") 0 3

def expiryRun : List Action := .env (.tick 2000)::whole (.timer 0) 1 4

/-- The target stays silent. -/
theorem punch_fallback_kept_silent : ∃ s t, exec step (initial (start 0 2000)) requestRun=some s ∧
    exec step s expiryRun=some t ∧ FallbackKept t.store 0 caller ∧ t.store.answers 0=[.timer 0] := by
  obtain ⟨s,hs⟩ : ∃ s, exec step (initial (start 0 2000)) requestRun=some s := ⟨_,rfl⟩
  obtain ⟨t,ht⟩ : ∃ t, exec step s expiryRun=some t := by
    cases hs
    exact ⟨_,rfl⟩
  have hslot : t.store.slotOf 0=some (.punch caller) ∧ t.store.answers 0=[.timer 0] := by
    cases hs
    cases ht
    decide
  exact ⟨s,t,hs,ht,(punch_fallback_kept 0 2000 requestRun expiryRun s t 0 caller hs ht hslot.1).1,hslot.2⟩

/-- Two requests from one address: the response of the first target gives up the fallback of
the second. -/
theorem other_target_cancels : ¬ ∀ (now : ℕ) (p2pFallbackMs : ℤ) (as : List Action) (t : System),
    exec step (initial (start now p2pFallbackMs)) as=some t →
      ∀ n p initiator, t.store.cells n=some p → p.slot=.punch initiator →
        ∀ a, p.endedBy=some a → a=.timer n ∨ a=.punchHoleSent p.targetID initiator := by
  intro h
  have hended:=h 0 2000 (whole (.punchHole caller "device-b") 0 3++whole (.punchHole caller "device-c") 1 5 ++
    whole (.punchHoleSent "device-b" caller) 2 3) _ rfl 1 _ caller rfl rfl (.punchHoleSent "device-b" caller) rfl
  revert hended
  decide

end BetterDesk.Signal.Fallbacks
