import BetterDesk.Lib.Framing

/-! # Records in a stream of chunks -/

namespace BetterDesk.Streams
open Text Framing List Option

structure Splitter (α : Type) where
  split : Bytes → Parsed α
  split_append : ∀ {t x r}, split t=.done x r → ∀ q, split (t++q)=.done x (r++q)
  split_length : ∀ {t x r}, split t=.done x r → r.length<t.length

variable {α σ : Type} {s : Splitter α}

/-- The records at the front of `t` and the bytes that are left, at most `fuel`
of them. -/
def drainFuel (s : Splitter α) : ℕ → Bytes → Option (List α × Bytes)
  | 0, t => some ([],t)
  | fuel+1, t => match s.split t with
    | .more => some ([],t)
    | .bad => none
    | .done x rest => (drainFuel s fuel rest).map fun p => (x::p.1,p.2)

def drain (s : Splitter α) (t : Bytes) : Option (List α × Bytes) := drainFuel s t.length t

theorem drainFuel_eq {fuel : ℕ} {t : Bytes} (h : t.length≤fuel) (hmore : s.split []=.more) :
    drainFuel s fuel t=drain s t := by
  suffices hboth : ∀ n m, t.length≤n → t.length ≤ m → drainFuel s n t=drainFuel s m t from
    hboth fuel t.length h (Nat.le_refl _)
  have hnil : ∀ k, drainFuel s k []=some ([],[]) := by
    intro k
    cases k with
    | zero => rfl
    | succ k => simp only [drainFuel,hmore]
  intro n m
  induction n generalizing m t with
  | zero =>
    intro hn _
    have ht : t=[] := length_eq_zero_iff.mp (by omega)
    rw [ht,hnil,hnil]
  | succ n ih =>
    intro hn hm
    cases m with
    | zero =>
      have ht : t=[] := length_eq_zero_iff.mp (by omega)
      rw [ht,hnil,hnil]
    | succ m =>
      simp only [drainFuel]
      cases hs : s.split t with
      | more => rfl
      | bad => rfl
      | done x rest =>
        have hlt:=s.split_length hs
        dsimp only
        rw [ih (t := rest) (by omega) m (by omega) (by omega)]

/-- `frame` writes what `s` reads: a whole record is read whatever follows it,
and of a part of one nothing is read. -/
structure Writes (s : Splitter α) (frame : α → Bytes) (ok : α → Prop) : Prop where
  whole : ∀ x, ok x → ∀ q, s.split (frame x++q)=.done x q
  part : ∀ x, ok x → ∀ t q, q≠[] → t++q=frame x → s.split t=.more
  none : s.split []=.more

/-- The bytes after the last whole record among the first `k` bytes. -/
def leftover (frame : α → Bytes) : List α → ℕ → ℕ
  | [], k => k
  | x::xs, k => if (frame x).length≤k then leftover frame xs (k-(frame x).length) else k

variable {frame : α → Bytes} {ok : α → Prop}

theorem drain_done (w : Writes s frame ok) {t rest : Bytes} {x : α} (h : s.split t=.done x rest) :
    drain s t=(drain s rest).map fun p => (x::p.1,p.2) := by
  have hlt:=s.split_length h
  obtain ⟨n,hn⟩ : ∃ n, t.length=n+1 := ⟨t.length-1,by omega⟩
  rw [drain,hn,drainFuel,h]
  dsimp only
  rw [drainFuel_eq (by omega) w.none]

theorem drain_more {t : Bytes} (h : s.split t=.more) : drain s t=some ([],t) := by
  rw [drain]
  cases t.length with
  | zero => rfl
  | succ n => rw [drainFuel,h]

theorem drain_bad (w : Writes s frame ok) {t : Bytes} (h : s.split t=.bad) : drain s t=none := by
  rw [drain]
  cases ht : t.length with
  | zero =>
    rw [length_eq_zero_iff.mp ht,w.none] at h
    cases h
  | succ m => rw [drainFuel,h]

theorem drain_append (w : Writes s frame ok) {t rest : Bytes} {xs : List α} (h : drain s t=some (xs,rest)) (q : Bytes) :
    drain s (t++q)=(drain s (rest++q)).map fun p => (xs++p.1,p.2) := by
  induction hn : t.length using Nat.strong_induction_on generalizing t xs with
  | _ n ih =>
    cases hs : s.split t with
    | bad =>
      rw [drain_bad w hs] at h
      cases h
    | more =>
      rw [drain_more hs] at h
      cases h
      simp
    | done x r =>
      rw [drain_done w hs] at h
      obtain ⟨⟨ys,rest'⟩,hys,heq⟩:=map_eq_some_iff.mp h
      cases heq
      rw [drain_done w (s.split_append hs q),ih r.length (hn ▸ s.split_length hs) hys rfl,Option.map_map]
      rfl

/-- A reader that has seen the first bytes of a stream of records has read the
whole records among them, and what it has left goes on with the others. -/
theorem drain_stream (w : Writes s frame ok) {xs : List α} (hok : ∀ x∈xs,ok x) {p q : Bytes}
    (h : p++q=xs.flatMap frame) :
    ∃ xs₁ xs₂ rest, xs=xs₁++xs₂ ∧ drain s p=some (xs₁,rest) ∧ rest++q=xs₂.flatMap frame ∧
      (∀ k, leftover frame xs (p.length+k)=leftover frame xs₂ (rest.length+k)) ∧
      leftover frame xs p.length=rest.length := by
  induction xs generalizing p with
  | nil =>
    obtain ⟨rfl,rfl⟩:=append_eq_nil_iff.mp h
    exact ⟨[],[],[],rfl,drain_more w.none,rfl,fun _ => rfl,rfl⟩
  | cons x xs ih =>
    have hx:=hok x mem_cons_self
    by_cases hlen : (frame x).length≤p.length
    · obtain ⟨p',rfl,hp'⟩ : ∃ p', p=frame x++p' ∧ p'++q=xs.flatMap frame := by
        rw [flatMap_cons] at h
        obtain ⟨p',hp⟩ : frame x <+: p :=
          prefix_of_prefix_length_le (h ▸ prefix_append _ _) (prefix_append p q) hlen
        refine ⟨p',hp.symm,?_⟩
        rw [← hp,append_assoc] at h
        exact append_cancel_left h
      obtain ⟨xs₁,xs₂,rest,hxs,hdrain,hrest,hleft,hat⟩ :=
        ih (fun y hy => hok y (mem_cons_of_mem _ hy)) hp'
      refine ⟨x::xs₁,xs₂,rest,by rw [hxs]; rfl,?_,hrest,fun k => ?_,?_⟩
      · rw [drain_done w (w.whole x hx p'),hdrain]
        rfl
      · rw [leftover,if_pos (by rw [length_append]; omega),← hleft]
        congr 1
        rw [length_append]
        omega
      · rw [leftover,if_pos (by rw [length_append]; omega),← hat]
        congr 1
        rw [length_append]
        omega
    · -- the first record is not whole yet
      obtain ⟨t,ht⟩ : p <+: frame x := by
        rw [flatMap_cons] at h
        exact prefix_of_prefix_length_le (h ▸ prefix_append p q) (prefix_append _ _) (by omega)
      have hne : t≠[] := by
        intro hnil
        rw [hnil,append_nil] at ht
        rw [ht] at hlen
        omega
      refine ⟨[],x::xs,p,rfl,drain_more (w.part x hx p t hne ht),h,fun _ => rfl,?_⟩
      rw [leftover,if_neg hlen]

theorem drain_written (w : Writes s frame ok) (xs : List α) (hok : ∀ x∈xs,ok x) :
    drain s (xs.flatMap frame)=some (xs,[]) := by
  induction xs with
  | nil => exact drain_more w.none
  | cons x xs ih =>
    rw [flatMap_cons,drain_done w (w.whole x (hok x mem_cons_self) _),
      ih fun y hy => hok y (mem_cons_of_mem _ hy)]
    rfl

/-- What a reader returns for the chunks, one after the other; `none` when it
gives up. -/
def feedAll (feed : σ → Bytes → Option (List α × σ)) : σ → List Bytes → Option (List α)
  | _, [] => some []
  | st, c::cs => (feed st c).bind fun r => (feedAll feed r.2 cs).map fun xs => r.1++xs

/-- `feed` keeps the bytes `view` and reads what the splitter reads, as long as
it has room for the chunk. -/
structure Reads (s : Splitter α) (view : σ → Bytes) (good : σ → Prop) (room : ℕ → ℕ → Prop)
    (feed : σ → Bytes → Option (List α × σ)) : Prop where
  reads : ∀ st c xs rest, good st → room (view st).length c.length → drain s (view st++c)=some (xs,rest) →
    ∃ st', feed st c=some (xs,st') ∧ view st'=rest ∧ good st'
  full : ∀ st c, good st → ¬room (view st).length c.length → feed st c=none

/-- There is room for every chunk when it comes, `held` bytes of the stream
having come before. -/
def Fits (frame : α → Bytes) (room : ℕ → ℕ → Prop) (xs : List α) : ℕ → List Bytes → Prop
  | _, [] => True
  | held, c::cs => room (leftover frame xs held) c.length ∧ Fits frame room xs (held+c.length) cs

instance decidableFits {room : ℕ → ℕ → Prop} [∀ m n, Decidable (room m n)] {xs : List α} :
    (held : ℕ) → (cs : List Bytes) → Decidable (Fits frame room xs held cs)
  | _, [] => isTrue trivial
  | held, c::cs =>
    have : Decidable (Fits frame room xs (held+c.length) cs) := decidableFits (held+c.length) cs
    inferInstanceAs (Decidable (_ ∧ _))

theorem fits_congr {room : ℕ → ℕ → Prop} {xs ys : List α} {m n : ℕ}
    (h : ∀ k, leftover frame xs (m+k)=leftover frame ys (n+k)) (cs : List Bytes) :
    Fits frame room xs m cs ↔ Fits frame room ys n cs := by
  induction cs generalizing m n with
  | nil => exact Iff.rfl
  | cons c cs ih =>
    have hnow : leftover frame xs m=leftover frame ys n := h 0
    have hlater : ∀ k, leftover frame xs (m+c.length+k)=leftover frame ys (n+c.length+k) := by
      intro k
      rw [Nat.add_assoc,Nat.add_assoc]
      exact h (c.length+k)
    simp only [Fits,hnow,ih hlater]

theorem leftover_lt {xs : List α} {k m : ℕ} (hk : k≤(xs.flatMap frame).length) (hm : 0 < m)
    (h : ∀ x∈xs,(frame x).length ≤ m) : leftover frame xs k < m := by
  induction xs generalizing k with
  | nil =>
    simp only [flatMap_nil,length_nil] at hk
    simp only [leftover]
    omega
  | cons x xs ih =>
    have hx:=h x mem_cons_self
    simp only [flatMap_cons,length_append] at hk
    rw [leftover]
    split
    · exact ih (by omega) fun y hy => h y (mem_cons_of_mem _ hy)
    · omega

theorem frame_ne_nil (w : Writes s frame ok) {x : α} (hx : ok x) : frame x≠[] := by
  intro hnil
  have hlt:=s.split_length (w.whole x hx [])
  simp [hnil] at hlt

theorem leftover_all {xs : List α} : leftover frame xs (xs.flatMap frame).length=0 := by
  induction xs with
  | nil => rfl
  | cons x xs ih =>
    rw [leftover,flatMap_cons,length_append,if_pos (by omega),Nat.add_sub_cancel_left]
    exact ih

/-- Every cut of the stream into chunks gives the same records, and the reader
gives up exactly when a chunk does not fit. -/
theorem feedAll_eq {view : σ → Bytes} {good : σ → Prop} {room : ℕ → ℕ → Prop}
    {feed : σ → Bytes → Option (List α × σ)} (w : Writes s frame ok) (rd : Reads s view good room feed)
    {xs : List α} (hok : ∀ x∈xs,ok x) {chunks : List Bytes} (st : σ) (hgood : good st)
    (h : view st++chunks.flatten=xs.flatMap frame)
    (hview : leftover frame xs (view st).length=(view st).length) :
    (Fits frame room xs (view st).length chunks → feedAll feed st chunks=some xs) ∧
      (¬Fits frame room xs (view st).length chunks → feedAll feed st chunks=none) := by
  induction chunks generalizing xs st with
  | nil =>
    refine ⟨fun _ => ?_,fun hn => absurd trivial hn⟩
    rw [flatten_nil,append_nil] at h
    have hzero : (xs.flatMap frame).length=0 := by rw [← h,← hview,h,leftover_all]
    have hxs : xs=[] := by
      cases xs with
      | nil => rfl
      | cons x xs =>
        have hne:=frame_ne_nil w (hok x mem_cons_self)
        rw [flatMap_cons,length_append] at hzero
        exact absurd (length_eq_zero_iff.mp (by omega)) hne
    rw [hxs]
    rfl
  | cons c cs ih =>
    rw [flatten_cons,← append_assoc] at h
    obtain ⟨xs₁,xs₂,rest,hxs,hdrain,hrest,hleft,hat⟩:=drain_stream w hok h
    rw [length_append] at hleft hat
    by_cases hroom : room (view st).length c.length
    · obtain ⟨st',hfeed,hst',hgood'⟩:=rd.reads st c xs₁ rest hgood hroom hdrain
      have hself : leftover frame xs₂ rest.length=rest.length := (hleft 0).symm.trans hat
      obtain ⟨hyes,hno⟩:=ih (fun y hy => hok y (hxs ▸ mem_append_right _ hy)) st' hgood' (by rw [hst']; exact hrest)
        (by rw [hst']; exact hself)
      rw [hst'] at hyes hno
      have hiff : Fits frame room xs (view st).length (c::cs) ↔ Fits frame room xs₂ rest.length cs := by
        rw [Fits,hview,fits_congr hleft]
        exact and_iff_right hroom
      rw [feedAll,hfeed,hiff]
      refine ⟨fun hf => ?_,fun hf => ?_⟩
      · simp [hyes hf,hxs]
      · simp [hno hf]
    · have hnot : ¬Fits frame room xs (view st).length (c::cs) := by
        rw [Fits,hview]
        exact fun hf => hroom hf.1
      refine ⟨fun hf => absurd hf hnot,fun _ => ?_⟩
      rw [feedAll,rd.full st c hgood hroom,bind_none]

theorem split_rest (w : Writes s frame ok) {t rest : Bytes} {xs : List α} (h : drain s t=some (xs,rest)) :
    s.split rest=.more := by
  induction hn : t.length using Nat.strong_induction_on generalizing t xs with
  | _ n ih =>
    cases hs : s.split t with
    | bad =>
      rw [drain_bad w hs] at h
      cases h
    | more =>
      rw [drain_more hs] at h
      cases h
      exact hs
    | done x r =>
      rw [drain_done w hs] at h
      obtain ⟨⟨ys,rest'⟩,hys,heq⟩:=map_eq_some_iff.mp h
      cases heq
      exact ih r.length (hn ▸ s.split_length hs) hys rfl

/-- A stream that goes wrong after some records is given up in every cut. -/
theorem feedAll_bad {view : σ → Bytes} {good : σ → Prop} {room : ℕ → ℕ → Prop}
    {feed : σ → Bytes → Option (List α × σ)} (w : Writes s frame ok) (rd : Reads s view good room feed)
    (hbad : ∀ st c, good st → room (view st).length c.length → drain s (view st++c)=none → feed st c=none)
    {chunks : List Bytes} (st : σ) (hgood : good st) (hmore : s.split (view st)=.more)
    (h : drain s (view st++chunks.flatten)=none) : feedAll feed st chunks=none := by
  induction chunks generalizing st with
  | nil =>
    rw [flatten_nil,append_nil,drain_more hmore] at h
    cases h
  | cons c cs ih =>
    rw [feedAll]
    by_cases hroom : room (view st).length c.length
    · cases hdrain : drain s (view st++c) with
      | none => rw [hbad st c hgood hroom hdrain,bind_none]
      | some r =>
        obtain ⟨xs,rest⟩:=r
        obtain ⟨st',hfeed,hst',hgood'⟩:=rd.reads st c xs rest hgood hroom hdrain
        rw [flatten_cons,← append_assoc,drain_append w hdrain,map_eq_none_iff,← hst'] at h
        rw [hfeed,bind_some,ih st' hgood' (hst' ▸ split_rest w hdrain) h]
        rfl
    · rw [rd.full st c hgood hroom,bind_none]

end BetterDesk.Streams
