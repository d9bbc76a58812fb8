import BetterDesk.Lib.Exec
import BetterDesk.Signal.PendingStore

/-! # The indexes of the pending relay sessions (signal/server.go) -/

namespace BetterDesk.Signal
open Exec Db List

inductive PendingAct
  | add (x : PendingUUID)
  | lookup (uuid : Relay.UUID)
  | expire (now : ℕ) (key : PendingKey)

namespace Pending
variable (p : Pending)

def empty : Pending := ⟨[],[],[]⟩

/-- `storePendingRelay`, its guard included. -/
def add (x : PendingUUID) : Pending := if x.targetID="" ∧ x.uuid="" then p else p.store x

def getPendingRelayByUUID (uuid : Relay.UUID) : Option PendingUUID := if uuid="" then none else p.byUUID.load uuid

def step : PendingAct → Option Pending
  | .add x => some (p.add x)
  | .lookup _ => some p
  | .expire now key => some (p.evict now key)

/-- Every live session is the one that its UUID leads to, and every index entry leads to a
live session. -/
structure Consistent : Prop where
  found : ∀ y∈p.pairs,y.2.uuid≠"" → p.getPendingRelayByUUID y.2.uuid=some y.2
  byUUID : ∀ y∈p.byUUID,(y.2.key,y.2)∈p.pairs
  byAdvertised : ∀ y∈p.byAdvertised,(y.2.key,y.2)∈p.pairs

def NewUUID : PendingAct → Prop
  | .add x => x.uuid="" ∨ ∀ y∈p.pairs,y.2.uuid=x.uuid → y.1=x.key
  | _ => True

end Pending

structure Sound (p : Pending) : Prop where
  keys : (p.pairs.map Prod.fst).Nodup
  indexed : ∃ stored, Indexed stored p

variable {p q : Pending} {x : PendingUUID}

theorem Sound.filed (h : Sound p) {y : PendingKey × PendingUUID} (hy : y∈p.pairs) : y.2.key=y.1 := by
  obtain ⟨stored,hi⟩:=h.indexed
  exact hi.filed y.1 y.2 (SyncMap.load_of_mem h.keys hy)

theorem Sound.byUUID (h : Sound p) {y : Relay.UUID × PendingUUID} (hy : y∈p.byUUID) : (y.2.key,y.2)∈p.pairs := by
  obtain ⟨stored,hi⟩:=h.indexed
  exact SyncMap.mem_of_load (hi.byUUID y hy).2.2

theorem Sound.byAdvertised (h : Sound p) {y : PendingKey × PendingUUID} (hy : y∈p.byAdvertised) :
    (y.2.key,y.2)∈p.pairs := by
  obtain ⟨stored,hi⟩:=h.indexed
  exact SyncMap.mem_of_load (hi.byAdvertised y hy).2

theorem sound_empty : Sound .empty := ⟨nodup_nil,[],empty_indexed⟩

theorem Sound.store (h : Sound p) (x : PendingUUID) : Sound (p.store x) := by
  obtain ⟨stored,hi⟩:=h.indexed
  exact ⟨SyncMap.nodup_store h.keys _ _,x::stored,hi.store x⟩

theorem Sound.evict (h : Sound p) (now : ℕ) (key : PendingKey) : Sound (p.evict now key) := by
  obtain ⟨stored,hi⟩:=h.indexed
  refine ⟨?_,stored,hi.evict now key⟩
  unfold Pending.evict
  split
  · exact h.keys
  · split
    · exact SyncMap.nodup_delete h.keys key
    · exact h.keys

theorem Sound.step (h : Sound p) {a : PendingAct} (hst : p.step a=some q) : Sound q := by
  cases a with
  | add x =>
    cases hst
    unfold Pending.add
    split
    · exact h
    · exact h.store x
  | lookup uuid =>
    cases hst
    exact h
  | expire now key =>
    cases hst
    exact h.evict now key

theorem Sound.consistent (h : Sound p)
    (hfound : ∀ y∈p.pairs,y.2.uuid≠"" → p.getPendingRelayByUUID y.2.uuid=some y.2) : p.Consistent :=
  ⟨hfound,fun _ hy => h.byUUID hy,fun _ hy => h.byAdvertised hy⟩

theorem Pending.Consistent.uuid_inj (h : p.Consistent) {y z : PendingKey × PendingUUID} (hy : y∈p.pairs)
    (hz : z∈p.pairs) (hne : y.2.uuid≠"") (heq : y.2.uuid=z.2.uuid) : y.2=z.2 := by
  have hfy:=h.found y hy hne
  have hfz:=h.found z hz (heq ▸ hne)
  rw [heq,hfz] at hfy
  exact (Option.some.inj hfy).symm

theorem byUUID_of_found {y : PendingUUID} (hne : y.uuid≠"") (h : p.getPendingRelayByUUID y.uuid=some y) :
    p.byUUID.load y.uuid=some y := by
  unfold Pending.getPendingRelayByUUID at h
  rwa [if_neg hne] at h

theorem found_of_byUUID {y : PendingUUID} (hne : y.uuid≠"") (h : p.byUUID.load y.uuid=some y) :
    p.getPendingRelayByUUID y.uuid=some y := by
  unfold Pending.getPendingRelayByUUID
  rwa [if_neg hne]

theorem Pending.Consistent.store (h : p.Consistent) (hs : Sound p) (hnew : p.NewUUID (.add x)) :
    (p.store x).Consistent := by
  refine (hs.store x).consistent fun y hy hne => found_of_byUUID hne ?_
  have huuid:=mergePending_uuid (x := x) (p.pairs.load x.key)
  simp only [Pending.store] at hy ⊢
  generalize hm : Server.mergePending (p.pairs.load x.key) x=e at huuid hy
  rcases SyncMap.of_mem_store hy with rfl | ⟨hy,hother⟩
  · exact load_reindexUUID_self p.byUUID (p.pairs.load x.key) hne
  · -- what stood under the key of the new session has another UUID
    have hold (o : PendingUUID) (ho : p.pairs.load x.key=some o) : y.2.uuid≠o.uuid := by
      intro heq
      have hmem:=SyncMap.mem_of_load ho
      have hsame:=h.uuid_inj hy hmem hne heq
      exact hother ((hs.filed hy).symm.trans ((congrArg PendingUUID.key hsame).trans (hs.filed hmem)))
    have hself : y.2.uuid≠e.uuid := by
      intro heq
      rcases huuid with hx | ⟨o,ho,heo,-⟩
      · rcases hnew with hnil | hnew
        · exact hne (heq.trans (hx.trans hnil))
        · exact hother (hnew y hy (heq.trans hx))
      · exact hold o ho (heq.trans heo)
    rw [load_reindexUUID_of_ne hself hold]
    exact byUUID_of_found hne (h.found y hy hne)

theorem not_consistent_store (hs : Sound p) (hclash : ¬ p.NewUUID (.add x)) : ¬ (p.store x).Consistent := by
  intro h
  simp only [Pending.NewUUID,not_or,not_forall] at hclash
  obtain ⟨hne,y,hy,hyu,hkey⟩:=hclash
  have hyne : y.2.uuid≠"" := hyu ▸ hne
  have hkept : y∈(p.store x).pairs := mem_cons_of_mem _ (mem_filter.mpr ⟨hy,by simpa using hkey⟩)
  have hnew : (x.key,Server.mergePending (p.pairs.load x.key) x)∈(p.store x).pairs := mem_cons_self
  have huuid : (Server.mergePending (p.pairs.load x.key) x).uuid=x.uuid :=
    (mergePending_uuid (p.pairs.load x.key)).resolve_right fun ⟨_,_,_,hnil⟩ => hne hnil
  have hsame:=h.uuid_inj hkept hnew hyne (hyu.trans huuid.symm)
  have hfiled:=(hs.store x).filed hkept
  rw [hsame,(hs.store x).filed hnew] at hfiled
  exact hkey hfiled.symm

theorem Pending.Consistent.evict (h : p.Consistent) (hs : Sound p) (now : ℕ) (key : PendingKey) :
    (p.evict now key).Consistent := by
  refine (hs.evict now key).consistent ?_
  unfold Pending.evict
  split
  · exact h.found
  · rename_i pu hpu
    split
    · intro y hy hne
      obtain ⟨hy,hother⟩:=SyncMap.of_mem_delete hy
      have hmem:=SyncMap.mem_of_load hpu
      have hdiff : y.2.uuid≠pu.uuid := by
        intro heq
        have hsame:=h.uuid_inj hy hmem hne heq
        exact hother ((hs.filed hy).symm.trans ((congrArg PendingUUID.key hsame).trans (hs.filed hmem)))
      refine found_of_byUUID hne ?_
      dsimp only
      have hload:=byUUID_of_found hne (h.found y hy hne)
      split
      · exact hload
      · rw [SyncMap.load_delete_of_ne _ hdiff]
        exact hload
    · exact h.found

theorem consistent_step (h : p.Consistent) (hs : Sound p) {a : PendingAct} (hst : p.step a=some q) :
    q.Consistent ↔ p.NewUUID a := by
  cases a with
  | add x =>
    cases hst
    unfold Pending.add
    split
    · rename_i hskip
      exact ⟨fun _ => .inl hskip.2,fun _ => h⟩
    · exact ⟨fun hq => by_contra fun hclash => not_consistent_store hs hclash hq,fun hnew => h.store hs hnew⟩
  | lookup uuid =>
    cases hst
    exact ⟨fun _ => trivial,fun _ => h⟩
  | expire now key =>
    cases hst
    exact ⟨fun _ => trivial,fun _ => h.evict hs now key⟩

/-- The indexes are consistent in every state of a sequence exactly when no session was
stored with the UUID of another live one. -/
theorem pending_consistent_iff (as : List PendingAct) :
    (∀ bs, bs <+: as → ∀ q, exec Pending.step .empty bs=some q → q.Consistent) ↔
      Along Pending.step Pending.NewUUID .empty as := by
  have hstart : Pending.Consistent .empty :=
    ⟨fun y hy => (nomatch hy),fun y hy => (nomatch hy),fun y hy => (nomatch hy)⟩
  suffices hgen : ∀ p : Pending, p.Consistent → Sound p →
      ((∀ bs, bs <+: as → ∀ q, exec Pending.step p bs=some q → q.Consistent) ↔
        Along Pending.step Pending.NewUUID p as) from hgen .empty hstart sound_empty
  induction as with
  | nil =>
    intro p h hs
    refine ⟨fun _ => trivial,fun _ bs hbs q hq => ?_⟩
    rw [prefix_nil.mp hbs] at hq
    cases hq
    exact h
  | cons a as ih =>
    intro p h hs
    constructor
    · intro hall
      refine ⟨?_,fun q hq => ?_⟩
      · obtain ⟨q,hq⟩ : ∃ q, p.step a=some q := by cases a <;> exact ⟨_,rfl⟩
        refine (consistent_step h hs hq).mp (hall [a] ⟨as,rfl⟩ q ?_)
        rw [exec_cons,hq]
        rfl
      · have hafter (bs : List PendingAct) (hbs : bs <+: as) (r : Pending) (hr : exec Pending.step q bs=some r) :
            r.Consistent := by
          refine hall (a::bs) ((prefix_cons_inj a).mpr hbs) r ?_
          rw [exec_cons,hq]
          exact hr
        exact (ih q (hafter [] nil_prefix q rfl) (hs.step hq)).mp hafter
    · rintro ⟨hnew,hrest⟩ bs hbs r hr
      cases bs with
      | nil =>
        cases hr
        exact h
      | cons b bs =>
        obtain ⟨rfl,hpre⟩:=cons_prefix_cons.mp hbs
        obtain ⟨q,hq,hr⟩:=exec_cons_some hr
        exact (ih q ((consistent_step h hs hq).mpr hnew) (hs.step hq)).mpr (hrest q hq) bs hpre r hr

/-- Retried from another port: the first session is hidden, and when it expires the second
one is no longer found either. -/
theorem retried_from_another_port :
    let a : PendingUUID := ⟨"u","TARGET1","INIT1",⟨.v4 1,5000⟩,⟨.v4 1,5000⟩,0⟩
    let b : PendingUUID := ⟨"u","TARGET1","INIT1",⟨.v4 1,5001⟩,⟨.v4 1,5001⟩,60⟩
    (∃ q, exec Pending.step .empty [.add a,.add b]=some q ∧ (a.key,a)∈q.pairs ∧
      q.getPendingRelayByUUID "u" = some b) ∧
    ∃ q, exec Pending.step .empty [.add a,.add b,.expire 121 a.key]=some q ∧ q.pairs=[(b.key,b)] ∧
      q.getPendingRelayByUUID "u" = none ∧ ¬ q.Consistent := by
  refine ⟨⟨_,rfl,by decide,by decide⟩,⟨_,rfl,by decide,by decide,fun h => ?_⟩⟩
  have hfound:=h.found (("TARGET1",⟨.v4 1,5001⟩),⟨"u","TARGET1","INIT1",⟨.v4 1,5001⟩,⟨.v4 1,5001⟩,60⟩)
    (by decide) (by decide)
  revert hfound
  decide

end BetterDesk.Signal
