import BetterDesk.Signal.Responses

/-! # The store of pending relay sessions (signal/server.go) -/

namespace BetterDesk.Signal
open Db Text List

/-- `maxTTL` of the clean-up, in seconds. -/
def maxTTL : ℕ := 120

structure Pending where
  pairs : SyncMap PendingKey PendingUUID
  byUUID : SyncMap Relay.UUID PendingUUID
  byAdvertised : SyncMap PendingKey PendingUUID

def PendingUUID.key (e : PendingUUID) : PendingKey := (e.targetID,e.correlationAddr)

def PendingUUID.advertisedKey (e : PendingUUID) : PendingKey := (e.targetID,e.advertisedAddr)

namespace Pending
variable (p : Pending)

/-- `storePendingRelay` on the three maps. -/
def store (x : PendingUUID) : Pending :=
  let old:=p.pairs.load x.key
  let entry:=Server.mergePending old x
  { pairs := p.pairs.store x.key entry
    byUUID := Server.indexUUID (Server.dropUUID p.byUUID old entry) entry
    byAdvertised := (Server.dropAdvertised p.byAdvertised old entry).store entry.advertisedKey entry}

def evict (now : ℕ) (key : PendingKey) : Pending := match p.pairs.load key with
  | none => p
  | some pu =>
    if maxTTL<now-pu.createdAt then
      { pairs := p.pairs.delete key
        byUUID := if pu.uuid="" then p.byUUID else p.byUUID.delete pu.uuid
        byAdvertised := p.byAdvertised.delete pu.advertisedKey}
    else p

end Pending

namespace Server
variable (s : Server)

def pending : Pending := ⟨s.pendingRelayUUIDs,s.pendingRelayByUUID,s.pendingRelayByAdvertised⟩

def evictPending (key : PendingKey) : Server :=
  let p:=s.pending.evict s.now key
  { s with
    pendingRelayUUIDs := p.pairs
    pendingRelayByUUID := p.byUUID
    pendingRelayByAdvertised := p.byAdvertised}

theorem storePendingRelay_pending {targetID : PeerID} (ht : targetID≠"") (corr adv : Addr) (uuid : Relay.UUID)
    (initiatorID : PeerID) : (s.storePendingRelay targetID corr adv uuid initiatorID).pending =
      s.pending.store ⟨uuid,targetID,initiatorID,corr,adv,s.now⟩ := by
  unfold storePendingRelay
  rw [if_neg fun h => ht h.1]
  rfl

end Server

/-- `stored` are the sessions that were stored so far, merged or replaced since then or not. -/
structure Indexed (stored : List PendingUUID) (p : Pending) : Prop where
  filed : ∀ k e, p.pairs.load k=some e → e.key=k
  address : ∀ k e, p.pairs.load k=some e → ∃ x∈stored,x.key=k ∧ x.advertisedAddr=e.advertisedAddr
  uuid : ∀ k e, p.pairs.load k=some e → e.uuid≠"" → ∃ x∈stored,x.key=k ∧ x.uuid=e.uuid
  byUUID : ∀ x∈p.byUUID,x.1≠"" ∧ x.2.uuid=x.1 ∧ p.pairs.load x.2.key=some x.2
  byAdvertised : ∀ x∈p.byAdvertised,x.2.advertisedKey=x.1 ∧ p.pairs.load x.2.key=some x.2
  ownUUID : ∀ u k e, u≠"" → (∀ x∈stored,x.uuid=u → x.key=k) → p.pairs.load k=some e → e.uuid=u →
    p.byUUID.load u=some e
  ownAddress : ∀ a k e, (∀ x∈stored,x.advertisedKey=a → x.key=k) → p.pairs.load k=some e →
    e.advertisedKey=a → p.byAdvertised.load a=some e

theorem empty_indexed : Indexed [] ⟨[],[],[]⟩ := by
  constructor <;> simp [SyncMap.load]

variable {stored : List PendingUUID} {p : Pending} {x : PendingUUID}

section Merge
open Server

theorem mergePending_key (h : ∀ o, p.pairs.load x.key=some o → o.key=x.key) :
    (mergePending (p.pairs.load x.key) x).key=x.key := by
  cases ho : p.pairs.load x.key with
  | none => rfl
  | some o =>
    have hkey:=h o ho
    simp only [PendingUUID.key,Prod.mk.injEq] at hkey ⊢
    simp only [mergePending,and_true]
    split
    · exact hkey.1
    · rfl

theorem mergePending_advertisedAddr (old : Option PendingUUID) : (mergePending old x).advertisedAddr=x.advertisedAddr := by
  cases old <;> rfl

theorem mergePending_uuid (old : Option PendingUUID) : (mergePending old x).uuid=x.uuid ∨
    ∃ o, old=some o ∧ (mergePending old x).uuid=o.uuid ∧ x.uuid="" := by
  cases old with
  | none => exact .inl rfl
  | some o =>
    by_cases hu : x.uuid=""
    · exact .inr ⟨o,rfl,by simp [mergePending,hu],hu⟩
    · exact .inl (by simp [mergePending,hu])

end Merge

section Reindex
open Server
variable {old : Option PendingUUID} {e : PendingUUID}

theorem of_mem_reindexUUID {m : SyncMap Relay.UUID PendingUUID} {y : Relay.UUID × PendingUUID}
    (hy : y∈indexUUID (dropUUID m old e) e) : y=(e.uuid,e) ∧ e.uuid≠"" ∨
      y∈m ∧ (y.1≠"" → y.1≠e.uuid ∧ ∀ o, old=some o → y.1≠o.uuid) := by
  have hindex : y=(e.uuid,e) ∧ e.uuid≠"" ∨ y∈dropUUID m old e ∧ (y.1≠"" → y.1≠e.uuid) := by
    unfold indexUUID at hy
    split at hy
    · rename_i hu
      exact .inr ⟨hy,fun hne he => hne (he.trans hu)⟩
    · rename_i hu
      rcases SyncMap.of_mem_store hy with hy | ⟨hy,hne⟩
      · exact .inl ⟨hy,hu⟩
      · exact .inr ⟨hy,fun _ => hne⟩
  rcases hindex with hnew | ⟨hy,hne⟩
  · exact .inl hnew
  · refine .inr ?_
    cases old with
    | none => exact ⟨hy,fun h => ⟨hne h,fun o ho => by cases ho⟩⟩
    | some o =>
      simp only [dropUUID] at hy
      split at hy
      · obtain ⟨hy,hdel⟩:=SyncMap.of_mem_delete hy
        exact ⟨hy,fun h => ⟨hne h,fun o' ho => by cases ho; exact hdel⟩⟩
      · rename_i hkeep
        refine ⟨hy,fun h => ⟨hne h,fun o' ho hyo => ?_⟩⟩
        cases ho
        have hsame : o.uuid=e.uuid := by
          by_contra hdiff
          exact hkeep ⟨hyo ▸ h,hdiff⟩
        exact hne h (hyo.trans hsame)

theorem load_reindexUUID_self (m : SyncMap Relay.UUID PendingUUID) (old : Option PendingUUID) (hu : e.uuid≠"") :
    (indexUUID (dropUUID m old e) e).load e.uuid=some e := by
  unfold indexUUID
  rw [if_neg hu,SyncMap.load_store_self]

theorem load_reindexUUID_of_ne {m : SyncMap Relay.UUID PendingUUID} {u : Relay.UUID} (hne : u≠e.uuid)
    (hold : ∀ o, old=some o → u≠o.uuid) : (indexUUID (dropUUID m old e) e).load u=m.load u := by
  have hdrop : (dropUUID m old e).load u=m.load u := by
    unfold dropUUID
    split
    · rfl
    · rename_i o
      split
      · exact SyncMap.load_delete_of_ne _ (hold o rfl)
      · rfl
  unfold indexUUID
  split
  · exact hdrop
  · rw [SyncMap.load_store_of_ne _ _ hne,hdrop]

theorem of_mem_dropAdvertised {m : SyncMap PendingKey PendingUUID} {y : PendingKey × PendingUUID}
    (hy : y∈dropAdvertised m old e) : y∈m ∧ ∀ o, old=some o → o.advertisedAddr≠e.advertisedAddr →
      y.1≠o.advertisedKey := by
  cases old with
  | none => exact ⟨hy,fun o ho => by cases ho⟩
  | some o =>
    simp only [dropAdvertised] at hy
    split at hy
    · obtain ⟨hy,hdel⟩:=SyncMap.of_mem_delete hy
      exact ⟨hy,fun o' ho _ => by cases ho; exact hdel⟩
    · rename_i hsame
      exact ⟨hy,fun o' ho hdiff => by cases ho; exact absurd hdiff hsame⟩

theorem load_dropAdvertised_of_ne {m : SyncMap PendingKey PendingUUID} {a : PendingKey}
    (hold : ∀ o, old=some o → a≠o.advertisedKey) : (dropAdvertised m old e).load a=m.load a := by
  unfold dropAdvertised
  split
  · rfl
  · rename_i o
    split
    · exact SyncMap.load_delete_of_ne _ (hold o rfl)
    · rfl

end Reindex

theorem Indexed.store (h : Indexed stored p) (x : PendingUUID) : Indexed (x::stored) (p.store x) := by
  have hkey:=mergePending_key (x := x) fun o ho => h.filed x.key o ho
  have haddr:=mergePending_advertisedAddr (x := x) (p.pairs.load x.key)
  have huuid:=mergePending_uuid (x := x) (p.pairs.load x.key)
  simp only [Pending.store]
  generalize hm : Server.mergePending (p.pairs.load x.key) x=e at hkey haddr huuid
  have hkept {k : PendingKey} (hkx : k≠x.key) (f : PendingUUID) (hf : p.pairs.load k=some f) :
      (p.pairs.store x.key e).load k=some f := by rw [SyncMap.load_store_of_ne _ _ hkx,hf]
  -- an UUID of the new entry was stored under its key
  have hown (hu : e.uuid≠"") : ∃ y∈x::stored, y.key=x.key ∧ y.uuid=e.uuid := by
    rcases huuid with hx | ⟨o,ho,hou,-⟩
    · exact ⟨x,mem_cons_self,rfl,hx.symm⟩
    · obtain ⟨y,hy,hyk,hyu⟩:=h.uuid x.key o ho (hou ▸ hu)
      exact ⟨y,mem_cons_of_mem x hy,hyk,hyu.trans hou.symm⟩
  refine ⟨?_,?_,?_,?_,?_,?_,?_⟩
  · intro k f hf
    rcases SyncMap.of_load_store hf with ⟨rfl,rfl⟩ | ⟨-,hf⟩
    · exact hkey
    · exact h.filed k f hf
  · intro k f hf
    rcases SyncMap.of_load_store hf with ⟨rfl,rfl⟩ | ⟨-,hf⟩
    · exact ⟨x,mem_cons_self,rfl,haddr.symm⟩
    · obtain ⟨y,hy,hrest⟩:=h.address k f hf
      exact ⟨y,mem_cons_of_mem x hy,hrest⟩
  · intro k f hf hu
    rcases SyncMap.of_load_store hf with ⟨rfl,rfl⟩ | ⟨-,hf⟩
    · exact hown hu
    · obtain ⟨y,hy,hrest⟩:=h.uuid k f hf hu
      exact ⟨y,mem_cons_of_mem x hy,hrest⟩
  · intro y hy
    rcases of_mem_reindexUUID hy with ⟨rfl,hne⟩ | ⟨hy,hother⟩
    · exact ⟨hne,rfl,by rw [hkey,SyncMap.load_store_self]⟩
    · obtain ⟨hne,hyu,hyl⟩:=h.byUUID y hy
      refine ⟨hne,hyu,hkept ?_ y.2 hyl⟩
      intro hyk
      rw [hyk] at hyl
      exact (hother hne).2 y.2 hyl hyu.symm
  · intro y hy
    rcases SyncMap.of_mem_store hy with rfl | ⟨hy,hne⟩
    · exact ⟨rfl,by rw [hkey,SyncMap.load_store_self]⟩
    · obtain ⟨hy,hdropped⟩:=of_mem_dropAdvertised hy
      obtain ⟨hya,hyl⟩:=h.byAdvertised y hy
      refine ⟨hya,hkept ?_ y.2 hyl⟩
      intro hyk
      rw [hyk] at hyl
      -- the session that is replaced has left the index under its old address
      have htarget : y.2.targetID=e.targetID := congrArg Prod.fst (hyk.trans hkey.symm)
      by_cases ha : y.2.advertisedAddr=e.advertisedAddr
      · exact hne (hya.symm.trans (Prod.ext htarget ha))
      · exact hdropped y.2 hyl ha hya.symm
  · intro u k f hu hall hf hfu
    rcases SyncMap.of_load_store hf with ⟨rfl,rfl⟩ | ⟨hkx,hf⟩
    · subst hfu
      exact load_reindexUUID_self _ _ hu
    · have helse (y : PendingUUID) (hy : y∈x::stored) (hyk : y.key=x.key) : y.uuid≠u :=
        fun hyu => hkx ((hall y hy hyu).symm.trans hyk)
      rw [load_reindexUUID_of_ne]
      · exact h.ownUUID u k f hu (fun y hy => hall y (mem_cons_of_mem x hy)) hf hfu
      · rintro rfl
        obtain ⟨y,hy,hyk,hyu⟩:=hown hu
        exact helse y hy hyk hyu
      · rintro o ho rfl
        obtain ⟨y,hy,hyk,hyu⟩:=h.uuid x.key o ho hu
        exact helse y (mem_cons_of_mem x hy) hyk hyu
  · intro a k f hall hf hfa
    rcases SyncMap.of_load_store hf with ⟨rfl,rfl⟩ | ⟨hkx,hf⟩
    · rw [← hfa,SyncMap.load_store_self]
    · have helse (y : PendingUUID) (hy : y∈x::stored) (hyk : y.key=x.key) : y.advertisedKey≠a :=
        fun hya => hkx ((hall y hy hya).symm.trans hyk)
      have hea : a≠e.advertisedKey := by
        have htarget : e.targetID=x.targetID := congrArg Prod.fst hkey
        intro ha
        have hxa : x.advertisedKey=e.advertisedKey := Prod.ext htarget.symm haddr.symm
        exact helse x mem_cons_self rfl (hxa.trans ha.symm)
      rw [SyncMap.load_store_of_ne _ _ hea,load_dropAdvertised_of_ne]
      · exact h.ownAddress a k f (fun y hy => hall y (mem_cons_of_mem x hy)) hf hfa
      · rintro o ho rfl
        obtain ⟨y,hy,hyk,hya⟩:=h.address x.key o ho
        have htarget : y.targetID=o.targetID := congrArg Prod.fst (hyk.trans (h.filed x.key o ho).symm)
        exact helse y (mem_cons_of_mem x hy) hyk (Prod.ext htarget hya)

theorem Indexed.evict (h : Indexed stored p) (now : ℕ) (key : PendingKey) : Indexed stored (p.evict now key) := by
  unfold Pending.evict
  split
  · exact h
  · rename_i pu hpu
    split
    · have hload {k : PendingKey} {f : PendingUUID} (hk : (p.pairs.delete key).load k=some f) :
          k≠key ∧ p.pairs.load k=some f := by
        by_cases hkk : k=key
        · rw [hkk,SyncMap.load_delete_self] at hk
          cases hk
        · rw [SyncMap.load_delete_of_ne _ hkk] at hk
          exact ⟨hkk,hk⟩
      have hkept {f : PendingUUID} (hf : p.pairs.load f.key=some f) (hne : f≠pu) :
          (p.pairs.delete key).load f.key=some f := by
        rw [SyncMap.load_delete_of_ne,hf]
        intro hk
        rw [hk,hpu] at hf
        exact hne (Option.some.inj hf).symm
      refine ⟨?_,?_,?_,?_,?_,?_,?_⟩
      · intro k f hf
        exact h.filed k f (hload hf).2
      · intro k f hf
        exact h.address k f (hload hf).2
      · intro k f hf
        exact h.uuid k f (hload hf).2
      · intro y hy
        have hy' : y∈p.byUUID ∧ (pu.uuid≠"" → y.1≠pu.uuid) := by
          split at hy
          · rename_i hu
            exact ⟨hy,fun hne => absurd hu hne⟩
          · exact (SyncMap.of_mem_delete hy).imp_right fun hne _ => hne
        obtain ⟨hne,hyu,hyl⟩:=h.byUUID y hy'.1
        refine ⟨hne,hyu,hkept hyl ?_⟩
        rintro hpu
        rw [← hpu,hyu] at hy'
        exact hy'.2 hne rfl
      · intro y hy
        obtain ⟨hy,hne⟩:=SyncMap.of_mem_delete hy
        obtain ⟨hya,hyl⟩:=h.byAdvertised y hy
        refine ⟨hya,hkept hyl ?_⟩
        rintro hpu
        rw [← hpu,hya] at hne
        exact hne rfl
      · intro u k f hu hall hf hfu
        obtain ⟨hkk,hf⟩:=hload hf
        have hpuu : u≠pu.uuid := by
          rintro rfl
          obtain ⟨y,hy,hyk,hyu⟩:=h.uuid key pu hpu hu
          exact hkk ((hall y hy hyu).symm.trans hyk)
        have hown:=h.ownUUID u k f hu hall hf hfu
        split
        · exact hown
        · rw [SyncMap.load_delete_of_ne _ hpuu]
          exact hown
      · intro a k f hall hf hfa
        obtain ⟨hkk,hf⟩:=hload hf
        have hpua : a≠pu.advertisedKey := by
          rintro rfl
          obtain ⟨y,hy,hyk,hya⟩:=h.address key pu hpu
          have htarget : y.targetID=pu.targetID := congrArg Prod.fst (hyk.trans (h.filed key pu hpu).symm)
          exact hkk ((hall y hy (Prod.ext htarget hya)).symm.trans hyk)
        rw [SyncMap.load_delete_of_ne _ hpua]
        exact h.ownAddress a k f hall hf hfa
    · exact h

/-- No other connection has used what the response is matched by: its UUID, else the
advertised address for its target, else the advertised address alone. -/
def Unshared (stored : List PendingUUID) (e : PendingUUID) (rr : RelayResponseIn) : Prop :=
  if rr.uuid≠"" then ∀ x∈stored,x.uuid=e.uuid → x.key=e.key
  else if rr.id≠"" then ∀ x∈stored,x.targetID=e.targetID →
    x.advertisedAddr=e.advertisedAddr ∨ x.correlationAddr=e.advertisedAddr → x.key=e.key
  else ∀ x∈stored,x.advertisedAddr=e.advertisedAddr ∨ x.correlationAddr=e.advertisedAddr → x.key=e.key

structure AnswersSession (e : PendingUUID) (rr : RelayResponseIn) : Prop where
  address : rr.socketAddr=some e.advertisedAddr
  target : rr.id=e.targetID ∨ rr.id=""
  uuid : rr.uuid=e.uuid ∨ rr.uuid=""

theorem pendingOf_own {s : Server} {e : PendingUUID} {rr : RelayResponseIn} (h : Indexed stored s.pending)
    (hload : s.pendingRelayUUIDs.load e.key=some e) (ha : AnswersSession e rr) (hun : Unshared stored e rr) :
    s.pendingOf rr e.advertisedAddr=some e := by
  unfold Unshared at hun
  unfold Server.pendingOf
  by_cases hu : rr.uuid=""
  · rw [if_neg (by simpa using hu)] at hun ⊢
    by_cases hid : rr.id=""
    · rw [if_neg (by simpa using hid)] at hun ⊢
      -- the first session with this address, for whatever target, is the own one
      have hfound : ∃ x, s.pendingRelayByAdvertised.find? (fun x => x.2.advertisedAddr=e.advertisedAddr)=some x ∧ x.2=e := by
        have hown:=h.ownAddress e.advertisedKey e.key e
          (fun x hx hxa => hun x hx (.inl (congrArg Prod.snd hxa))) hload rfl
        have hmem:=SyncMap.mem_of_load hown
        cases hf : s.pendingRelayByAdvertised.find? fun x => x.2.advertisedAddr=e.advertisedAddr with
        | none =>
          have hmiss:=List.find?_eq_none.mp hf _ hmem
          simp at hmiss
        | some x =>
          refine ⟨x,rfl,?_⟩
          have hxa : x.2.advertisedAddr=e.advertisedAddr := by simpa using List.find?_some hf
          obtain ⟨-,hxl⟩:=h.byAdvertised x (mem_of_find?_eq_some hf)
          obtain ⟨y,hy,hyk,hya⟩:=h.address x.2.key x.2 hxl
          have hkey:=hun y hy (.inl (hya.trans hxa))
          rw [← hyk,hkey] at hxl
          exact Option.some.inj (hxl.symm.trans hload)
      obtain ⟨x,hx,rfl⟩:=hfound
      simp [Server.getPendingRelayByAdvertised,hid,hx]
    · rw [if_pos hid] at hun ⊢
      have hid' : rr.id=e.targetID := ha.target.resolve_right hid
      have hown:=h.ownAddress e.advertisedKey e.key e
        (fun x hx hxa => hun x hx (congrArg Prod.fst hxa) (.inl (congrArg Prod.snd hxa))) hload rfl
      have hbyAdv : s.getPendingRelayByAdvertised rr.id e.advertisedAddr=some e := by
        unfold Server.getPendingRelayByAdvertised
        rw [if_pos hid,hid']
        exact hown
      rw [hbyAdv]
      cases hpair : s.pendingRelayUUIDs.load (rr.id,e.advertisedAddr) with
      | none => rfl
      | some f =>
        -- a connection with the advertised address is the own one
        obtain ⟨y,hy,hyk,-⟩:=h.address _ f hpair
        have hkey:=hun y hy ((congrArg Prod.fst hyk).trans hid') (.inr (congrArg Prod.snd hyk))
        rw [← hyk,hkey] at hpair
        obtain rfl:=Option.some.inj (hpair.symm.trans hload)
        rfl
  · rw [if_pos hu] at hun ⊢
    have hu' : rr.uuid=e.uuid := ha.uuid.resolve_right hu
    have hown:=h.ownUUID e.uuid e.key e (hu' ▸ hu) hun hload rfl
    have hbyUUID : s.pendingRelayByUUID.load rr.uuid=some e := by
      rw [hu']
      exact hown
    rw [hbyUUID]
    rfl

end BetterDesk.Signal
