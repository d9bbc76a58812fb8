import BetterDesk.GuestAccess.Monitor
import BetterDesk.Lib.Table

/-! # The limits of guest links -/

namespace BetterDesk.GuestAccess
open Programs Exec Text Table List

namespace Stage

def link : Stage → Option (String × String)
  | .drawn key id => some (key,id)
  | .stored key g => some (key,g.id)
  | _ => none

def wonAt (key : String) : Stage → Bool
  | .won key' _ _ => key'=key
  | _ => false

def holding : Stage → Option (String × Grant)
  | .read key g => some (key,g)
  | .timed key g _ => some (key,g)
  | .won key g _ => some (key,g)
  | _ => none

end Stage

def Grant.terms (g : Grant) : Grant := {g with revokedAt := none,useCount := 0}

def wins (gs : List Stage) (key : String) : ℕ := gs.countP (Stage.wonAt key)

def Dead (id : String) (s : Store) : Prop := ∀ key g, s.config.load key=some g → g.id=id → g.revokedAt≠none

def Logged (log : List (Entry Store Op Res)) : Stage → Prop
  | .read key g => ∃ s rest, log=⟨s,.getConfig key,some g⟩::rest ∧ s.config.load key=some g
  | .timed key g now => ∃ s₁ s rest, log=⟨s₁,.now,now⟩::⟨s,.getConfig key,some g⟩::rest ∧
      s₁.clock=now ∧ s.config.load key=some g
  | .won key g now => ∃ s₂ s₁ s rest, log=⟨s₂,.compareAndSwapConfig key g g.used,some true⟩ ::
      ⟨s₁,.now,now⟩::⟨s,.getConfig key,some g⟩::rest ∧ s₁.clock=now ∧ s₂.config.load key=some g
  | _ => True

structure Rows (config : SyncMap String Grant) (gs : List Stage) : Prop where
  row : ∀ key g, config.load key=some g → .stored key g.terms∈gs ∧ g.useCount=wins gs key
  held : ∀ st∈gs, ∀ x∈st.holding, .stored x.1 x.2.terms∈gs
  won : ∀ key, 0<wins gs key → ∃ g, .stored key g∈gs
  limit : ∀ key g, .stored key g∈gs → 0<g.maxUses → wins gs key≤g.maxUses
  fresh : ∀ key g, .stored key g∈gs → g.useCount=0 ∧ g.revokedAt=none
  revoked : ∀ key g, .revoked key g∈gs →
    (∃ key' g', .stored key' g'∈gs ∧ g'.id=g.id) ∧
      ∀ key' g', config.load key'=some g' → g'.id=g.id → g'.revokedAt≠none

section
variable (hashToken : String → String)

structure Kept (s : System) (gs : List Stage) : Prop where
  logged : List.Forall₂ (fun p st => Logged p.log st) s.procs gs
  issued : List.Forall₂ (fun p st => ∀ l∈st.link,Request.issues hashToken p.request=some l) s.procs gs
  keys : (gs.filterMap fun st => st.link.map Prod.fst).Nodup
  ids : (gs.filterMap fun st => st.link.map Prod.snd).Nodup
  rows : Rows s.store.config gs

end

variable {hashToken : String → String} {s : System} {gs : List Stage} {i : ℕ} {st st' : Stage} {p : Client}
  {config : SyncMap String Grant}

theorem wins_set (h : gs[i]?=some st) (st' : Stage) (key : String) :
    wins (gs.set i st') key+(st.wonAt key).toNat=wins gs key+(st'.wonAt key).toNat :=
  countP_set_add (Stage.wonAt key) h st'

theorem wins_set_same (h : gs[i]?=some st) (hst : ∀ key, st.wonAt key=false) (hst' : ∀ key, st'.wonAt key=false)
    (key : String) : wins (gs.set i st') key=wins gs key := by
  have hset:=wins_set h st' key
  rw [hst,hst'] at hset
  exact hset

theorem wins_append (key : String) (h : st.wonAt key=false) : wins (gs++[st]) key=wins gs key := by
  unfold wins
  rw [countP_append,countP_singleton,h]
  rfl

structure Stage.Plain (st : Stage) : Prop where
  stored : ∀ key g, st ≠ .stored key g
  won : ∀ key, st.wonAt key=false
  revoked : ∀ key g, st ≠ .revoked key g

theorem Rows.append (h : Rows config gs) (hst : st.Plain) (hhold : st.holding=none) : Rows config (gs++[st]) := by
  have hmem {x : Stage} (hx : x∈gs++[st]) : x∈gs ∨ x=st := (mem_append.mp hx).imp_right mem_singleton.mp
  have hold {x : Stage} (hx : x∈gs) : x∈gs++[st] := mem_append_left _ hx
  have hwins (key : String) : wins (gs++[st]) key=wins gs key := wins_append key (hst.won key)
  refine ⟨?_,?_,?_,?_,?_,?_⟩
  · intro key g hg
    obtain ⟨hstored,hcount⟩:=h.row key g hg
    exact ⟨hold hstored,by rw [hcount,hwins]⟩
  · intro x hx y hy
    rcases hmem hx with hx | rfl
    · exact hold (h.held x hx y hy)
    · rw [hhold] at hy
      cases hy
  · intro key hpos
    rw [hwins] at hpos
    obtain ⟨g,hg⟩:=h.won key hpos
    exact ⟨g,hold hg⟩
  · intro key g hg hmax
    rw [hwins]
    exact h.limit key g ((hmem hg).resolve_right fun heq => hst.stored key g heq.symm) hmax
  · intro key g hg
    exact h.fresh key g ((hmem hg).resolve_right fun heq => hst.stored key g heq.symm)
  · intro key g hg
    obtain ⟨⟨key',g',hg',hid⟩,hdead⟩:=h.revoked key g ((hmem hg).resolve_right fun heq => hst.revoked key g heq.symm)
    exact ⟨⟨key',g',hold hg',hid⟩,hdead⟩

theorem Rows.set_plain (h : Rows config gs) {config' : SyncMap String Grant} (hi : gs[i]?=some st) (hst : st.Plain)
    (hst' : st'.Plain) (hsub : ∀ key g, config'.load key=some g → config.load key=some g)
    (hhold : ∀ x∈st'.holding, .stored x.1 x.2.terms∈gs) : Rows config' (gs.set i st') := by
  have hkept {key : String} {g : Grant} (hg : Stage.stored key g∈gs) : Stage.stored key g∈gs.set i st' :=
    mem_set_of_ne hi hg fun heq => hst.stored key g heq.symm
  have hback {x : Stage} (hx : x∈gs.set i st') : x∈gs ∨ x=st' := mem_or_eq_of_mem_set hx
  have hwins (key : String) := wins_set_same hi hst.won hst'.won key
  refine ⟨?_,?_,?_,?_,?_,?_⟩
  · intro key g hg
    obtain ⟨hstored,hcount⟩:=h.row key g (hsub key g hg)
    exact ⟨hkept hstored,by rw [hcount,hwins]⟩
  · intro x hx y hy
    rcases hback hx with hx | rfl
    · exact hkept (h.held x hx y hy)
    · exact hkept (hhold y hy)
  · intro key hpos
    rw [hwins] at hpos
    obtain ⟨g,hg⟩:=h.won key hpos
    exact ⟨g,hkept hg⟩
  · intro key g hg hmax
    rw [hwins]
    exact h.limit key g ((hback hg).resolve_right fun heq => hst'.stored key g heq.symm) hmax
  · intro key g hg
    exact h.fresh key g ((hback hg).resolve_right fun heq => hst'.stored key g heq.symm)
  · intro key g hg
    obtain ⟨⟨key',g',hg',hid⟩,hdead⟩ :=
      h.revoked key g ((hback hg).resolve_right fun heq => hst'.revoked key g heq.symm)
    exact ⟨⟨key',g',hkept hg',hid⟩,fun key' g' hg' => hdead key' g' (hsub key' g' hg')⟩

section Links
variable (hkeys : (gs.filterMap fun st => st.link.map Prod.fst).Nodup) (hids : (gs.filterMap fun st => st.link.map Prod.snd).Nodup)
include hkeys

theorem link_key {x y : Stage} {a b : String × String} (hx : x∈gs) (hy : y∈gs) (ha : x.link=some a)
    (hb : y.link=some b) (hab : a.1=b.1) : x=y :=
  eq_of_filterMap_key hkeys hx hy (by rw [ha]; rfl) (by rw [hb,Option.map_some,hab])

theorem stored_key {key : String} {g g' : Grant} (hg : .stored key g∈gs) (hg' : .stored key g'∈gs) : g=g' := by
  have heq:=link_key hkeys hg hg' rfl rfl rfl
  cases heq
  rfl

omit hkeys
include hids

theorem link_id {x y : Stage} {a b : String × String} (hx : x∈gs) (hy : y∈gs) (ha : x.link=some a)
    (hb : y.link=some b) (hab : a.2=b.2) : x=y :=
  eq_of_filterMap_key hids hx hy (by rw [ha]; rfl) (by rw [hb,Option.map_some,hab])

theorem stored_id {key key' : String} {g g' : Grant} (hg : .stored key g∈gs) (hg' : .stored key' g'∈gs)
    (hid : g.id=g'.id) : key=key' := by
  have heq:=link_id hids hg hg' rfl rfl hid
  cases heq
  rfl

end Links

theorem Rows.store (h : Rows config gs) (hkeys : (gs.filterMap fun st => st.link.map Prod.fst).Nodup)
    (hids : (gs.filterMap fun st => st.link.map Prod.snd).Nodup) {key : String} {g : Grant}
    (hi : gs[i]?=some (.drawn key g.id)) (hcount : g.useCount=0) (hrev : g.revokedAt=none) :
    Rows (config.store key g) (gs.set i (.stored key g)) := by
  have hlt : i<gs.length := (List.getElem?_eq_some_iff.mp hi).1
  have hdrawn : Stage.drawn key g.id∈gs := mem_of_getElem? hi
  have hkept {x : Stage} (hx : x∈gs) (hne : x ≠ .drawn key g.id) : x∈gs.set i (.stored key g) := mem_set_of_ne hi hx hne
  have hback {x : Stage} (hx : x∈gs.set i (.stored key g)) : x∈gs ∨ x=.stored key g := mem_or_eq_of_mem_set hx
  have hwins (key' : String) : wins (gs.set i (.stored key g)) key'=wins gs key' :=
    wins_set_same hi (fun _ => rfl) (fun _ => rfl) key'
  have hself : Stage.stored key g∈gs.set i (.stored key g) := mem_set hlt _
  have hnone (g' : Grant) : Stage.stored key g'∉gs := fun hg' => nomatch link_key hkeys hg' hdrawn rfl rfl rfl
  have hnoid (key' : String) (g' : Grant) (hg' : Stage.stored key' g'∈gs) : g'.id≠g.id := fun hid =>
    nomatch link_id hids hg' hdrawn rfl rfl hid
  have hzero : wins gs key=0 := by
    by_contra hpos
    obtain ⟨g',hg'⟩:=h.won key (by omega)
    exact hnone g' hg'
  have hterms : g.terms=g := by
    unfold Grant.terms
    rw [← hcount,← hrev]
  refine ⟨?_,?_,?_,?_,?_,?_⟩
  · intro key' g' hg'
    rw [hwins]
    rcases SyncMap.of_load_store hg' with ⟨rfl,rfl⟩ | ⟨hk,hg'⟩
    · exact ⟨by rw [hterms]; exact hself,by omega⟩
    · obtain ⟨hstored,hc⟩:=h.row key' g' hg'
      exact ⟨hkept hstored (fun heq => nomatch heq),hc⟩
  · intro x hx y hy
    rcases hback hx with hx | rfl
    · exact hkept (h.held x hx y hy) (fun heq => nomatch heq)
    · cases hy
  · intro key' hpos
    rw [hwins] at hpos
    obtain ⟨g',hg'⟩:=h.won key' hpos
    exact ⟨g',hkept hg' (fun heq => nomatch heq)⟩
  · intro key' g' hg' hmax
    rw [hwins]
    rcases hback hg' with hg' | heq
    · exact h.limit key' g' hg' hmax
    · cases heq
      omega
  · intro key' g' hg'
    rcases hback hg' with hg' | heq
    · exact h.fresh key' g' hg'
    · cases heq
      exact ⟨hcount,hrev⟩
  · intro key' g' hg'
    obtain ⟨⟨key₀,g₀,hg₀,hid⟩,hdead⟩:=h.revoked key' g' ((hback hg').resolve_right fun heq => nomatch heq)
    refine ⟨⟨key₀,g₀,hkept hg₀ (fun heq => nomatch heq),hid⟩,fun key₁ g₁ hg₁ hid₁ => ?_⟩
    rcases SyncMap.of_load_store hg₁ with ⟨rfl,rfl⟩ | ⟨hk,hg₁⟩
    · exact absurd (hid.trans hid₁.symm) (hnoid key₀ g₀ hg₀)
    · exact hdead key₁ g₁ hg₁ hid₁

theorem Rows.win (h : Rows config gs) (hkeys : (gs.filterMap fun st => st.link.map Prod.fst).Nodup) {key : String}
    {g : Grant} {now : ℕ} (hi : gs[i]?=some (.timed key g now)) (hactive : g.ActiveAt now)
    (hload : config.load key=some g) : Rows (config.store key g.used) (gs.set i (.won key g now)) := by
  have hkept {x : Stage} (hx : x∈gs) (hne : x ≠ .timed key g now) : x∈gs.set i (.won key g now) := mem_set_of_ne hi hx hne
  have hback {x : Stage} (hx : x∈gs.set i (.won key g now)) : x∈gs ∨ x=.won key g now := mem_or_eq_of_mem_set hx
  have hwins (key' : String) : wins (gs.set i (.won key g now)) key'=wins gs key' + if key'=key then 1 else 0 := by
    have hset:=wins_set hi (.won key g now) key'
    by_cases hk : key'=key
    · simp only [hk,Stage.wonAt,decide_true,Bool.toNat_true,Bool.toNat_false,if_true] at hset ⊢
      omega
    · simp only [Ne.symm hk,hk,Stage.wonAt,decide_false,Bool.toNat_false,if_false] at hset ⊢
      omega
  obtain ⟨hstored,hcount⟩:=h.row key g hload
  refine ⟨?_,?_,?_,?_,?_,?_⟩
  · intro key' g' hg'
    rw [hwins]
    rcases SyncMap.of_load_store hg' with ⟨rfl,rfl⟩ | ⟨hk,hg'⟩
    · refine ⟨hkept hstored (fun heq => nomatch heq),?_⟩
      rw [if_pos rfl,← hcount]
      rfl
    · obtain ⟨hs,hc⟩:=h.row key' g' hg'
      exact ⟨hkept hs (fun heq => nomatch heq),by rw [if_neg hk,hc,Nat.add_zero]⟩
  · intro x hx y hy
    rcases hback hx with hx | rfl
    · exact hkept (h.held x hx y hy) (fun heq => nomatch heq)
    · cases hy
      exact hkept hstored (fun heq => nomatch heq)
  · intro key' hpos
    rw [hwins] at hpos
    by_cases hk : key'=key
    · subst hk
      exact ⟨g.terms,hkept hstored (fun heq => nomatch heq)⟩
    · rw [if_neg hk] at hpos
      obtain ⟨g',hg'⟩:=h.won key' hpos
      exact ⟨g',hkept hg' (fun heq => nomatch heq)⟩
  · intro key' g' hg' hmax
    have hold:=(hback hg').resolve_right fun heq => nomatch heq
    rw [hwins]
    by_cases hk : key'=key
    · subst hk
      obtain rfl:=stored_key hkeys hold hstored
      have hleft : g.useCount<g.maxUses := hactive.unused hmax
      rw [if_pos rfl,← hcount]
      exact hleft
    · rw [if_neg hk]
      exact h.limit key' g' hold hmax
  · exact fun key' g' hg' => h.fresh key' g' ((hback hg').resolve_right fun heq => nomatch heq)
  · intro key' g' hg'
    obtain ⟨⟨key₀,g₀,hg₀,hid⟩,hdead⟩:=h.revoked key' g' ((hback hg').resolve_right fun heq => nomatch heq)
    refine ⟨⟨key₀,g₀,hkept hg₀ (fun heq => nomatch heq),hid⟩,fun key₁ g₁ hg₁ hid₁ => ?_⟩
    rcases SyncMap.of_load_store hg₁ with ⟨rfl,rfl⟩ | ⟨hk,hg₁⟩
    · exact hdead key₁ g hload hid₁
    · exact hdead key₁ g₁ hg₁ hid₁

theorem Rows.revoke (h : Rows config gs) (hids : (gs.filterMap fun st => st.link.map Prod.snd).Nodup) {key : String}
    {g : Grant} (now : ℕ) (hi : gs[i]?=some .revoking) (hload : config.load key=some g) :
    Rows (config.store key (g.revoke now)) (gs.set i (.revoked key g)) := by
  have hkept {x : Stage} (hx : x∈gs) (hne : x ≠ .revoking) : x∈gs.set i (.revoked key g) := mem_set_of_ne hi hx hne
  have hback {x : Stage} (hx : x∈gs.set i (.revoked key g)) : x∈gs ∨ x=.revoked key g := mem_or_eq_of_mem_set hx
  have hwins (key' : String) : wins (gs.set i (.revoked key g)) key'=wins gs key' :=
    wins_set_same hi (fun _ => rfl) (fun _ => rfl) key'
  obtain ⟨hstored,hcount⟩:=h.row key g hload
  refine ⟨?_,?_,?_,?_,?_,?_⟩
  · intro key' g' hg'
    rw [hwins]
    rcases SyncMap.of_load_store hg' with ⟨rfl,rfl⟩ | ⟨hk,hg'⟩
    · exact ⟨hkept hstored (fun heq => nomatch heq),hcount⟩
    · obtain ⟨hs,hc⟩:=h.row key' g' hg'
      exact ⟨hkept hs (fun heq => nomatch heq),hc⟩
  · intro x hx y hy
    rcases hback hx with hx | rfl
    · exact hkept (h.held x hx y hy) (fun heq => nomatch heq)
    · cases hy
  · intro key' hpos
    rw [hwins] at hpos
    obtain ⟨g',hg'⟩:=h.won key' hpos
    exact ⟨g',hkept hg' (fun heq => nomatch heq)⟩
  · intro key' g' hg' hmax
    rw [hwins]
    exact h.limit key' g' ((hback hg').resolve_right fun heq => nomatch heq) hmax
  · exact fun key' g' hg' => h.fresh key' g' ((hback hg').resolve_right fun heq => nomatch heq)
  · intro key' g' hg'
    rcases hback hg' with hg' | heq
    · obtain ⟨⟨key₀,g₀,hg₀,hid⟩,hdead⟩:=h.revoked key' g' hg'
      refine ⟨⟨key₀,g₀,hkept hg₀ (fun heq => nomatch heq),hid⟩,fun key₁ g₁ hg₁ hid₁ => ?_⟩
      rcases SyncMap.of_load_store hg₁ with ⟨rfl,rfl⟩ | ⟨hk,hg₁⟩
      · exact fun hrev => nomatch hrev
      · exact hdead key₁ g₁ hg₁ hid₁
    · cases heq
      refine ⟨⟨key,g.terms,hkept hstored (fun heq => nomatch heq),rfl⟩,fun key₁ g₁ hg₁ hid₁ => ?_⟩
      rcases SyncMap.of_load_store hg₁ with ⟨rfl,rfl⟩ | ⟨hk,hg₁⟩
      · exact fun hrev => nomatch hrev
      · exact absurd (stored_id hids (h.row key₁ g₁ hg₁).1 hstored hid₁) hk

theorem Kept.set {store : Store} {e : Entry Store Op Res} {prog : Prog Reply} (h : Kept hashToken s gs)
    (hp : s.procs[i]?=some p) (hst : gs[i]?=some st) (hlog : Logged p.log st → Logged (e::p.log) st')
    (hlink : st'.link=st.link ∨ st'.link=none) (hrows : Rows store.config (gs.set i st')) :
    Kept hashToken ⟨store,s.procs.set i ⟨p.request,e::p.log,prog⟩⟩ (gs.set i st') := by
  have hpair {R : Client → Stage → Prop} (hR : List.Forall₂ R s.procs gs) : R p st := by
    obtain ⟨st₀,hst₀,hRst⟩:=forall₂_getElem? hR hp
    rw [hst] at hst₀
    cases hst₀
    exact hRst
  have hkey {β : Type} (f : String × String → β) : st'.link.map f=st.link.map f ∨ st'.link.map f=none := by
    rcases hlink with hsame | hnone
    · exact .inl (by rw [hsame])
    · exact .inr (by rw [hnone]; rfl)
  refine ⟨forall₂_set h.logged (hlog (hpair h.logged)),forall₂_set h.issued ?_,?_,?_,hrows⟩
  · intro l hl
    rcases hlink with hsame | hnone
    · exact hpair h.issued l (hsame ▸ hl)
    · rw [hnone] at hl
      cases hl
  · exact h.keys.sublist (filterMap_set_sublist hst (hkey Prod.fst))
  · exact h.ids.sublist (filterMap_set_sublist hst (hkey Prod.snd))

theorem plain_idle : Stage.Plain .idle := ⟨fun _ _ h => (nomatch h),fun _ => rfl,fun _ _ h => (nomatch h)⟩

theorem plain_drawn (key id : String) : Stage.Plain (.drawn key id) :=
  ⟨fun _ _ h => (nomatch h),fun _ => rfl,fun _ _ h => (nomatch h)⟩

theorem plain_read (key : String) (g : Grant) : Stage.Plain (.read key g) :=
  ⟨fun _ _ h => (nomatch h),fun _ => rfl,fun _ _ h => (nomatch h)⟩

theorem plain_timed (key : String) (g : Grant) (now : ℕ) : Stage.Plain (.timed key g now) :=
  ⟨fun _ _ h => (nomatch h),fun _ => rfl,fun _ _ h => (nomatch h)⟩

theorem plain_revoking : Stage.Plain .revoking := ⟨fun _ _ h => (nomatch h),fun _ => rfl,fun _ _ h => (nomatch h)⟩

theorem Kept.rest {e : Entry Store Op Res} {prog : Prog Reply} (h : Kept hashToken s gs) (hp : s.procs[i]?=some p)
    (hst : gs[i]?=some st) (hplain : st.Plain) (hplain' : st'.Plain) (hhold : st'.holding=none)
    (hlog : ∀ log, Logged log st') (hlink : st'.link=st.link ∨ st'.link=none) {store : Store}
    (hconfig : ∀ key g, store.config.load key=some g → s.store.config.load key=some g) :
    Kept hashToken ⟨store,s.procs.set i ⟨p.request,e::p.log,prog⟩⟩ (gs.set i st') := by
  refine h.set hp hst (fun _ => hlog _) hlink (h.rows.set_plain hst hplain hplain' hconfig fun x hx => ?_)
  rw [hhold] at hx
  cases hx

theorem kept_swap {key : String} {g g' : Grant} {r : Option Bool} {store : Store} {fails : Bool}
    (hr : run s.store (.compareAndSwapConfig key g g') fails=(r,store)) :
    (r≠some true ∧ store=s.store) ∨
      r=some true ∧ s.store.config.load key=some g ∧ store={s.store with config := s.store.config.store key g'} := by
  unfold run at hr
  cases fails with
  | true =>
    cases hr
    exact .inl ⟨fun h => (nomatch h),rfl⟩
  | false =>
    dsimp only at hr
    rw [if_neg Bool.false_ne_true] at hr
    by_cases hload : s.store.config.load key=some g
    · rw [if_pos hload] at hr
      cases hr
      exact .inr ⟨rfl,hload,rfl⟩
    · rw [if_neg hload] at hr
      cases hr
      exact .inl ⟨by simp,rfl⟩

theorem after_swap_lost {key key' : String} {g old new : Grant} {now : ℕ} {r : Option Bool} (hr : r≠some true) :
    (Stage.timed key g now).after (.compareAndSwapConfig key' old new) r=.idle := by
  rcases r with _ | _ | _
  · rfl
  · rfl
  · exact absurd rfl hr

theorem after_revoke_lost {key : String} {old new : Grant} {r : Option Bool} (hr : r≠some true) :
    Stage.revoking.after (.compareAndSwapConfig key old new) r=.revoking := by
  rcases r with _ | _ | _
  · rfl
  · rfl
  · exact absurd rfl hr

theorem kept_step {op : Op} {r : Res op} {store : Store} {fails : Bool} {prog : Prog Reply} (h : Kept hashToken s gs)
    (hp : s.procs[i]?=some p) (hst : gs[i]?=some st) (hallowed : st.Allowed op) (hr : run s.store op fails=(r,store)) :
    Kept hashToken ⟨store,s.procs.set i ⟨p.request,⟨s.store,op,r⟩::p.log,prog⟩⟩ (gs.set i (st.after op r)) := by
  cases st with
  | idle =>
    cases op with
    | getConfig key =>
      cases hr
      cases hload : (if fails then none else s.store.config.load key : Option Grant) with
      | none => exact h.rest hp hst plain_idle plain_idle rfl (fun _ => trivial) (.inl rfl) fun _ _ hg => hg
      | some g =>
        have hg : s.store.config.load key=some g := by
          cases fails with
          | true => cases hload
          | false => exact hload
        refine h.set hp hst (fun _ => ⟨s.store,p.log,rfl,hg⟩) (.inl rfl) ?_
        refine h.rows.set_plain hst plain_idle (plain_read key g) (fun _ _ hg' => hg') ?_
        rintro x hx
        cases hx
        exact (h.rows.row key g hg).1
    | _ => exact hallowed.elim
  | drawn key id =>
    cases op with
    | now =>
      cases hr
      exact h.rest hp hst (plain_drawn key id) (plain_drawn key id) rfl (fun _ => trivial) (.inl rfl) fun _ _ hg => hg
    | setConfig key' g =>
      obtain ⟨rfl,rfl,hcount,hrev⟩:=hallowed
      cases fails with
      | true =>
        cases hr
        exact h.rest hp hst (plain_drawn key' g.id) plain_idle rfl (fun _ => trivial) (.inr rfl) fun _ _ hg => hg
      | false =>
        cases hr
        exact h.set hp hst (fun _ => trivial) (.inl rfl) (h.rows.store h.keys h.ids hst hcount hrev)
    | _ => exact hallowed.elim
  | read key g =>
    cases op with
    | now =>
      cases hr
      refine h.set hp hst ?_ (.inl rfl) ?_
      · rintro ⟨s₀,rest,hlog,hload⟩
        exact ⟨s.store,s₀,rest,by rw [hlog],rfl,hload⟩
      · refine h.rows.set_plain hst (plain_read key g) (plain_timed key g _) (fun _ _ hg => hg) ?_
        rintro x hx
        exact h.rows.held _ (mem_of_getElem? hst) x hx
    | _ => exact hallowed.elim
  | timed key g now =>
    cases op with
    | deleteConfig key' =>
      refine h.rest hp hst (plain_timed key g now) plain_idle rfl (fun _ => trivial) (.inr rfl) fun key₁ g₁ hg₁ => ?_
      cases fails with
      | true =>
        cases hr
        exact hg₁
      | false =>
        cases hr
        by_cases hk : key₁=key'
        · rw [hk,SyncMap.load_delete_self] at hg₁
          cases hg₁
        · rwa [SyncMap.load_delete_of_ne _ hk] at hg₁
    | compareAndSwapConfig key' expected replacement =>
      obtain ⟨rfl,rfl,rfl,hactive⟩:=hallowed
      rcases kept_swap hr with ⟨hlost,rfl⟩ | ⟨rfl,hload,rfl⟩
      · rw [after_swap_lost hlost]
        exact h.rest hp hst (plain_timed _ _ _) plain_idle rfl (fun _ => trivial) (.inr rfl) fun _ _ hg => hg
      · refine h.set hp hst ?_ (.inl rfl) (h.rows.win h.keys hst hactive hload)
        rintro ⟨s₁,s₀,rest,hlog,hclock,-⟩
        exact ⟨s.store,s₁,s₀,rest,by rw [hlog],hclock,hload⟩
    | _ => exact hallowed.elim
  | revoking =>
    cases op with
    | now | listConfigByPrefix =>
      cases hr
      exact h.rest hp hst plain_revoking plain_revoking rfl (fun _ => trivial) (.inl rfl) fun _ _ hg => hg
    | compareAndSwapConfig key g replacement =>
      obtain ⟨now,rfl⟩:=hallowed
      rcases kept_swap hr with ⟨hlost,rfl⟩ | ⟨rfl,hload,rfl⟩
      · rw [after_revoke_lost hlost]
        exact h.rest hp hst plain_revoking plain_revoking rfl (fun _ => trivial) (.inl rfl) fun _ _ hg => hg
      · exact h.set hp hst (fun _ => trivial) (.inl rfl) (h.rows.revoke h.ids now hst hload)
    | _ => exact hallowed.elim
  | stored key g | won key g now | revoked key g => cases op <;> exact hallowed.elim

theorem start_plain (r : Request) : (r.start hashToken).Plain := by
  cases r with
  | create => exact plain_drawn _ _
  | revokeByID => exact plain_revoking
  | _ => exact plain_idle

theorem start_link (r : Request) : ∀ l∈(r.start hashToken).link, r.issues hashToken=some l := by
  intro l hl
  cases r with
  | create token id peerIDs createdBy ttlMinutes viewOnly label maxUses => exact hl
  | _ => cases hl

theorem kept_begin (h : Kept hashToken s gs) {r : Request} (hok : NewLink hashToken s (.begin r)) :
    Kept hashToken {s with procs := s.procs++[⟨r,[],handle hashToken r⟩]} (gs++[r.start hashToken]) := by
  -- links of earlier requests are not those of the new one
  have hnew {l l' : String × String} (hl : l∈(r.start hashToken).link) {st : Stage} (hst : st∈gs) (hl' : st.link=some l') :
      l'.1≠l.1 ∧ l'.2≠l.2 := by
    obtain ⟨j,hj⟩:=mem_iff_getElem?.mp hst
    obtain ⟨p,hp,hissued⟩:=forall₂_getElem? (List.Forall₂.flip h.issued) hj
    exact hok l (start_link r l hl) p (mem_of_getElem? hp) l' (hissued l' hl')
  have hnodup {β : Type} (f : String × String → β) (hdiff : ∀ l l', l'.1≠l.1 ∧ l'.2≠l.2 → f l'≠f l)
      (hold : (gs.filterMap fun st => st.link.map f).Nodup) :
      ((gs++[r.start hashToken]).filterMap fun st => st.link.map f).Nodup := by
    rw [filterMap_append]
    cases hl : (r.start hashToken).link with
    | none =>
      rw [filterMap_cons_none (by rw [hl]; rfl),filterMap_nil,append_nil]
      exact hold
    | some l =>
      rw [filterMap_cons_some (by rw [hl]; rfl),filterMap_nil]
      refine List.Nodup.append hold (nodup_singleton _) ?_
      intro k hk hk'
      obtain ⟨st,hst,hkst⟩:=mem_filterMap.mp hk
      obtain ⟨l',hl',rfl⟩:=Option.map_eq_some_iff.mp hkst
      exact hdiff l l' (hnew hl hst hl') (mem_singleton.mp hk')
  refine ⟨?_,?_,?_,?_,?_⟩
  · exact rel_append h.logged (.cons (by cases r <;> exact trivial) .nil)
  · exact rel_append h.issued (.cons (start_link r) .nil)
  · exact hnodup Prod.fst (fun _ _ hd => hd.1) h.keys
  · exact hnodup Prod.snd (fun _ _ hd => hd.2) h.ids
  · exact h.rows.append (start_plain r) (by cases r <;> rfl)

theorem keeps : Keeps run (handle hashToken) move clientMonitor (Ends hashToken) (NewLink hashToken) (Kept hashToken) := by
  refine ⟨?_,?_,?_⟩
  · intro s gs r _ h hok
    exact ⟨r.start hashToken,wp_handle r,kept_begin h hok⟩
  · intro s gs e _ h _
    exact ⟨h.logged,h.issued,h.keys,h.ids,h.rows⟩
  · intro s gs i fails p op k st _ h _ hp hst _ hallowed _
    exact ⟨st.after op _,rfl,kept_step h hp hst hallowed rfl⟩

end BetterDesk.GuestAccess
