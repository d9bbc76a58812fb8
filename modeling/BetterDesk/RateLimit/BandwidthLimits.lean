import BetterDesk.RateLimit.BandwidthRuns

/-! # The limits that the server sets (main.go, config/constants.go) -/

namespace BetterDesk.RateLimit.Bandwidth
open Exec Bucket Option

namespace Relay

/-- `DefaultTotalBandwidth` and `DefaultSingleBandwidth`. -/
def deployed : Relay := start (1024*1024*1024) (16*1024*1024)

theorem seconds_near {d : ℤ} (h : 0≤d) : 0 ≤ seconds d ∧ d/10^9*(1-1/2^53)^2 ≤ seconds d ∧
    seconds d≤d/10^9*(1+1/2^53)^2 := by
  have hsplit : (d : ℚ)/10^9=(d/10^9 : ℤ)+((d%10^9 : ℤ) : ℚ)/10^9 := by
    have hint:=(Int.mul_ediv_add_emod d (10^9)).symm
    generalize d/10^9=sec at hint ⊢
    generalize d%10^9=nsec at hint ⊢
    rw [hint]
    push_cast
    ring
  have hsec : (0 : ℚ)≤(d/10^9 : ℤ) := by exact_mod_cast Int.ediv_nonneg h (by norm_num)
  have hnsec : (0 : ℚ)≤((d%10^9 : ℤ) : ℚ)/10^9 := by
    have hmod : (0 : ℚ)≤(d%10^9 : ℤ) := by exact_mod_cast Int.emod_nonneg d (by norm_num)
    positivity
  obtain ⟨h1,h1'⟩:=abs_le.mp (Float64.round_near hsec)
  obtain ⟨h2,h2'⟩:=abs_le.mp (Float64.round_near hnsec)
  have hsum:=add_nonneg (Float64.round_nonneg hsec) (Float64.round_nonneg hnsec)
  obtain ⟨h3,h3'⟩:=abs_le.mp (Float64.round_near hsum)
  refine ⟨Float64.round_nonneg hsum,?_,?_⟩
  · unfold seconds
    rw [hsplit]
    linarith
  · unfold seconds
    rw [hsplit]
    linarith

theorem product_near {limit d : ℤ} (hl : 0≤limit) (hexact : Float64.round limit=limit) (h : 0≤d) :
    0≤Float64.round (seconds d*Float64.round limit) ∧
      earned limit d*(1-1/2^53)^3≤Float64.round (seconds d*Float64.round limit) ∧
      Float64.round (seconds d*Float64.round limit)≤earned limit d*(1+1/2^53)^3 := by
  obtain ⟨hpos,hge,hle⟩:=seconds_near h
  have hlimit : (0 : ℚ)≤limit := by exact_mod_cast hl
  have hprod : 0 ≤ seconds d*limit := mul_nonneg hpos hlimit
  obtain ⟨hbelow,habove⟩:=abs_le.mp (Float64.round_near hprod)
  have hmul : seconds d*limit≤d/10^9*(1+1/2^53)^2*limit := mul_le_mul_of_nonneg_right hle hlimit
  have hmul' : d/10^9*(1-1/2^53)^2*limit ≤ seconds d*limit := mul_le_mul_of_nonneg_right hge hlimit
  rw [hexact]
  refine ⟨Float64.round_nonneg hprod,?_,?_⟩
  · unfold earned
    linarith
  · unfold earned
    linarith

/-- The limits and the gaps between two fills for which the arithmetic is exact enough. -/
structure Usual (b : Bucket) (now : ℤ) : Prop where
  range : b.InRange
  limit : b.limit=1024*1024*1024 ∨ b.limit=16*1024*1024
  gap : now-b.lastFill≤2^32*10^9

variable {now : ℤ} {b : Bucket}

theorem Usual.exact (h : Usual b now) : Float64.round b.limit=b.limit := by
  rcases h.limit with hl | hl
  · rw [hl]
    decide +kernel
  · rw [hl]
    decide +kernel

theorem Usual.limit_le (h : Usual b now) : 0≤b.limit ∧ b.limit≤2^30 := by
  rcases h.limit with hl | hl
  · omega
  · omega

theorem Usual.refill_eq (h : Usual b now) (hlater : 0<now-b.lastFill) :
    refill b.limit (now-b.lastFill) = ⌊Float64.round (seconds (now-b.lastFill)*Float64.round b.limit)⌋ ∧
      0≤refill b.limit (now-b.lastFill) ∧ refill b.limit (now-b.lastFill)<2^63-2^30 := by
  obtain ⟨hl0,hl⟩:=h.limit_le
  obtain ⟨hpos,-,hle⟩:=product_near hl0 h.exact hlater.le
  have hgap : ((now-b.lastFill : ℤ) : ℚ)≤2^32*10^9 := by exact_mod_cast h.gap
  have hgap0 : (0 : ℚ)≤(now-b.lastFill : ℤ) := by exact_mod_cast hlater.le
  have hlimit : (b.limit : ℚ)≤2^30 := by exact_mod_cast hl
  have hearned : earned b.limit (now-b.lastFill)≤2^62 := by
    have hmul:=mul_le_mul hlimit hgap hgap0 (by positivity)
    unfold earned
    rw [div_le_iff₀ (by positivity)]
    linarith
  have hbelow : Float64.round (seconds (now-b.lastFill)*Float64.round b.limit)<((2^63-2^30 : ℤ) : ℚ) := by
    norm_num at hle hearned ⊢
    linarith
  have hfloor : ⌊Float64.round (seconds (now-b.lastFill)*Float64.round b.limit)⌋ < 2^63-2^30 :=
    Int.floor_lt.mpr hbelow
  have heq : refill b.limit (now-b.lastFill) =
      ⌊Float64.round (seconds (now-b.lastFill)*Float64.round b.limit)⌋ := by
    unfold refill toInt64
    rw [if_pos (by omega)]
  rw [heq]
  exact ⟨rfl,Int.floor_nonneg.mpr hpos,hfloor⟩

theorem Usual.fits (h : Usual b now) : b.Fits now := by
  intro hlater
  obtain ⟨-,hpos,hmax⟩:=h.refill_eq hlater
  have htop:=h.range.2
  have hl:=h.limit_le.2
  exact ⟨hpos,by omega⟩

theorem Usual.refill_le (h : Usual b now) (hl : b.limit=1024*1024*1024) (hlater : 0<now-b.lastFill)
    (hsecond : now-b.lastFill≤10^9) : (refill b.limit (now-b.lastFill) : ℚ)≤earned b.limit (now-b.lastFill) := by
  obtain ⟨heq,-,-⟩:=h.refill_eq hlater
  obtain ⟨-,-,hle⟩:=product_near h.limit_le.1 h.exact hlater.le
  set d:=now-b.lastFill
  have hfloor:=Int.floor_le (Float64.round (seconds d*Float64.round b.limit))
  rw [← heq] at hfloor
  have hd' : (d : ℚ)≤10^9 := by exact_mod_cast hsecond
  by_contra hmore
  -- a whole token more is at least the fifth power of a fifth beyond what was earned
  have hearned : earned b.limit d=d*2^21/5^9 := by
    unfold earned
    rw [hl]
    push_cast
    ring
  rw [hearned,not_le,div_lt_iff₀ (by positivity)] at hmore
  have hint : d*2^21+1≤refill b.limit d*5^9 := by exact_mod_cast hmore
  have hint' : (d*2^21+1 : ℚ)≤refill b.limit d*5^9 := by exact_mod_cast hint
  rw [hearned] at hle
  linarith

theorem Usual.notAhead (h : Usual b now) (hl : b.limit=1024*1024*1024) : b.NotAhead now := by
  intro hlater
  have hrange:=h.range
  unfold Bucket.room
  by_cases hsecond : now-b.lastFill≤10^9
  · have htoken:=h.refill_le hl hlater hsecond
    push_cast
    rw [le_min_iff]
    constructor
    · exact min_le_left _ _
    · exact (min_le_right _ _).trans (by linarith)
  · have hfull : (b.limit : ℚ)≤b.tokens+earned b.limit (now-b.lastFill) := by
      have hd' : (10^9 : ℚ)≤(now-b.lastFill : ℤ) := by exact_mod_cast (not_le.mp hsecond).le
      have htokens : (0 : ℚ)≤b.tokens := by exact_mod_cast hrange.1
      unfold earned
      rw [hl]
      push_cast at hd' ⊢
      linarith
    rw [min_eq_left hfull]
    exact_mod_cast min_le_left _ _

/-- A fill of a bucket that has room cuts off what it earned beyond whole tokens. -/
theorem Usual.cutOff (h : Usual b now) (hl : b.limit=1024*1024*1024) (hlater : 0<now-b.lastFill)
    (hroom : b.tokens+refill b.limit (now-b.lastFill)≤b.limit) :
    0≤earned b.limit (now-b.lastFill)-refill b.limit (now-b.lastFill) ∧
      earned b.limit (now-b.lastFill)-refill b.limit (now-b.lastFill)<1+1/2^20 := by
  obtain ⟨heq,-,-⟩:=h.refill_eq hlater
  obtain ⟨-,hge,-⟩:=product_near h.limit_le.1 h.exact hlater.le
  have hfloor:=Int.lt_floor_add_one (Float64.round (seconds (now-b.lastFill)*Float64.round b.limit))
  rw [← heq] at hfloor
  have hint : refill b.limit (now-b.lastFill)≤2^30 := by
    have htokens:=h.range.1
    omega
  have hfull : (refill b.limit (now-b.lastFill) : ℚ)≤2^30 := by exact_mod_cast hint
  constructor
  · by_cases hsecond : now-b.lastFill≤10^9
    · exact sub_nonneg.mpr (h.refill_le hl hlater hsecond)
    · have hd' : (10^9 : ℚ)<(now-b.lastFill : ℤ) := by exact_mod_cast not_le.mp hsecond
      have hearned : (2^30 : ℚ)≤earned b.limit (now-b.lastFill) := by
        unfold earned
        rw [hl]
        push_cast at hd' ⊢
        linarith
      linarith
  · norm_num at hge hfloor ⊢
    linarith

def Close (s : Relay) (e : Event) : Prop := match s.call e with
  | some (own,now,now',_) => now-own.lastFill≤2^32*10^9 ∧ now'-s.global.lastFill≤2^32*10^9
  | none => True

instance (s : Relay) (e : Event) : Decidable (s.Close e) := by
  unfold Close
  rcases s.call e with _ | ⟨_,_,_,_⟩ <;> infer_instance

theorem own_of_call {s : Relay} {total session : ℤ} (hv : s.Valid total session) {e : Event} {own : Bucket} {now' n : ℤ}
    (h : s.call e=some (own,now,now',n)) : s.IsOwn own := by
  cases e with
  | read d delay delay' m =>
    obtain ⟨dir,hdir,h⟩:=bind_eq_some_iff.mp h
    split at h
    · cases h
      exact (hv.own dir (List.mem_of_getElem? hdir)).1
    · cases h
  | charge d delay delay' =>
    obtain ⟨dir,hdir,h⟩:=map_eq_some_iff.mp h
    cases h
    exact (hv.own dir (List.mem_of_getElem? hdir)).2
  | openSession | tick | write => cases h

theorem fits_of_close {s : Relay} (hv : s.Valid (1024*1024*1024) (16*1024*1024)) {e : Event} (h : s.Close e) :
    s.Fits e := by
  unfold Close at h
  unfold Fits
  split
  · rename_i own now now' n hcall
    rw [hcall] at h
    obtain ⟨hrange,hlimit⟩:=own_of_call hv hcall
    have hown : Usual own now := ⟨hrange,.inr (hlimit.trans hv.sessionLimit),h.1⟩
    have hglobal : Usual s.global now' := ⟨hv.range,.inl hv.limit,h.2⟩
    exact ⟨hown.fits,hglobal.fits,hglobal.notAhead hv.limit⟩
  · trivial

theorem along_fits {es : List Event} (h : Along step Close deployed es) : Along step Fits deployed es := by
  apply Along.of_invariant (Valid · (1024*1024*1024) (16*1024*1024)) _ (fun s e hv hc => fits_of_close hv hc) _ h
  · intro s e t hv hc ht
    exact (step_change hv (fits_of_close hv hc) ht).1
  · exact valid_start (by norm_num) (by norm_num)

theorem cutOff_lt {s : Relay} (hv : s.Valid (1024*1024*1024) (16*1024*1024)) {e : Event} (h : s.Close e)
    (hroom : s.NotFull e) : 0 ≤ s.cutOff e ∧ s.cutOff e<1+1/2^20 := by
  unfold cutOff
  split
  · rename_i now' hfills
    have hfull:=hroom now' hfills
    obtain ⟨⟨own,now,_,n⟩,hcall,hasked⟩:=bind_eq_some_iff.mp hfills
    obtain ⟨hboth,hnow⟩:=ite_none_right_eq_some.mp hasked
    cases hnow
    unfold Close at h
    rw [hcall] at h
    exact Usual.cutOff ⟨hv.range,.inl hv.limit,h.2⟩ hv.limit hboth.2 hfull
  · norm_num

def messages : List Event :=
  [.openSession .ws,.read 0 0 0 5000,.charge 0 0 0,.write 0 5000,.tick 1000,.read 0 0 0 1,.charge 0 0 0,.write 0 1,
    .tick 1000,.read 0 0 0 1,.charge 0 0 0,.write 0 1]

def native : List Event := [.openSession .tcp,.read 0 0 0 5,.charge 0 0 0,.write 0 5]

theorem messages_fit : Along step Fits deployed messages := along_fits (by decide +kernel)

theorem accounting_messages : (∀ pre, pre <+: messages → ∀ t, exec step deployed pre=some t → t.ChargedOnce) ∧
    ∃ t, exec step deployed messages=some t ∧ t.forwarded=5002 ∧ ((t.forwarded-deployed.forwarded : ℤ) : ℚ) ≤
        deployed.held+((1024*1024*1024 : ℤ)+earned (1024*1024*1024) (t.clock-deployed.clock)) := by
  have haccount:=accounting (by norm_num) (by norm_num) messages (by decide +kernel :
    Along step Fits (start (1024*1024*1024) (16*1024*1024)) messages)
  refine ⟨haccount.1.mpr (by decide +kernel),?_⟩
  cases ht : exec step deployed messages with
  | none => exact absurd ht (by decide +kernel)
  | some t =>
    have hbytes : (exec step deployed messages).map Relay.forwarded=some 5002 := by decide +kernel
    rw [ht] at hbytes
    exact ⟨t,rfl,Option.some.inj hbytes,(haccount.2 [] messages deployed t List.prefix_rfl rfl ht).2.1⟩

/-- Two fills a microsecond apart lose more than a token, and the native relay is charged for each
byte twice and for the rest of its buffer besides. -/
theorem miscounted : ¬ (∀ es t, exec step deployed es=some t → t.ChargedOnce) ∧
    ¬ (∀ pre seg s t, exec step deployed pre=some s → exec step s seg=some t → Along step NotFull s seg →
      earned (1024*1024*1024) (t.global.lastFill-s.global.lastFill)-1≤((t.credited-s.credited : ℤ) : ℚ)) ∧
    (exec step deployed native).map (fun t => (t.directions.map Direction.relayed,deployed.global.tokens-t.global.tokens)) =
      some ([[2,2,2,2,2],[]],32768+5) ∧
    (exec step deployed messages).map (fun t => (t.global.lastFill,t.credited))=some (2000,2146) ∧
    earned (1024*1024*1024) 2000=2147.483648 := by
  refine ⟨fun h => ?_,fun h => ?_,by decide +kernel,by decide +kernel,by decide +kernel⟩
  · have hnative : (exec step deployed native).map (fun t => decide t.ChargedOnce)=some false := by decide
    obtain ⟨t,ht,honce⟩:=map_eq_some_iff.mp hnative
    exact absurd (h native t ht) (of_decide_eq_false honce)
  · have hsplit : messages=messages.take 4++messages.drop 4 := (List.take_append_drop 4 messages).symm
    have hrun : (exec step deployed (messages.take 4)).bind (fun s => (exec step s (messages.drop 4)).map fun t =>
        (decide (Along step NotFull s (messages.drop 4)),decide (earned (1024*1024*1024)
          (t.global.lastFill-s.global.lastFill)-1≤((t.credited-s.credited : ℤ) : ℚ))))=some (true,false) := by
      decide +kernel
    obtain ⟨s,hs,hrun⟩:=bind_eq_some_iff.mp hrun
    obtain ⟨t,ht,hboth⟩:=map_eq_some_iff.mp hrun
    simp only [Prod.mk.injEq,decide_eq_true_eq,decide_eq_false_iff_not] at hboth
    exact hboth.2 (h _ _ s t hs ht hboth.1)

end Relay

end BetterDesk.RateLimit.Bandwidth
