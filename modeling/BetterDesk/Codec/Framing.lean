import Mathlib.Data.BitVec
import BetterDesk.Lib.Streams

/-! # The frames of the peer protocol -/

namespace BetterDesk.Codec
open Text (Bytes)
open List

def headerLength (n : ℕ) : ℕ := if n≤0x3F then 1 else if n≤0x3FFF then 2 else if n≤0x3FFFFF then 3 else 4

/-- The lowest `k` bytes of `n`. -/
def littleEndian : ℕ → ℕ → Bytes
  | 0, _ => []
  | k+1, n => UInt8.ofNat n::littleEndian k (n/256)

def ofLittleEndian : Bytes → ℕ
  | [] => 0
  | b::t => b.toNat+256*ofLittleEndian t

def header (n : ℕ) : Bytes := littleEndian (headerLength n) (4*n+(headerLength n-1))

def frame (p : Bytes) : Bytes := header p.length++p

@[simp] theorem length_littleEndian (k n : ℕ) : (littleEndian k n).length=k := by
  induction k generalizing n with
  | zero => rfl
  | succ k ih => simp [littleEndian,ih]

variable {limit : Option ℕ} {n : ℕ} {t p : Bytes}

theorem ofLittleEndian_littleEndian {k : ℕ} (h : n<256^k) : ofLittleEndian (littleEndian k n)=n := by
  induction k generalizing n with
  | zero =>
    simp only [Nat.pow_zero] at h
    have hn : n=0 := by omega
    simp [littleEndian,ofLittleEndian,hn]
  | succ k ih =>
    have hdiv : n/256<256^k := by
      rw [Nat.pow_succ] at h
      exact Nat.div_lt_of_lt_mul (by omega)
    simp only [littleEndian,ofLittleEndian,UInt8.toNat_ofNat',ih hdiv]
    omega

theorem headerLength_pos (n : ℕ) : 1≤headerLength n ∧ headerLength n≤4 := by
  unfold headerLength
  split
  · omega
  · split
    · omega
    · split <;> omega

theorem header_fits (h : n<2^30) : 4*n+(headerLength n-1)<256^headerLength n := by
  unfold headerLength
  split
  · omega
  · split
    · omega
    · split <;> omega

@[simp] theorem length_header (n : ℕ) : (header n).length=headerLength n := length_littleEndian _ _

theorem ofLittleEndian_header (h : n<2^30) : ofLittleEndian (header n)=4*n+(headerLength n-1) :=
  ofLittleEndian_littleEndian (header_fits h)

theorem header_cons (n : ℕ) : ∃ b t, header n=b::t ∧ b.toNat%4+1=headerLength n := by
  have hpos:=headerLength_pos n
  obtain ⟨k,hk⟩ : ∃ k, headerLength n=k+1 := ⟨headerLength n-1,by omega⟩
  refine ⟨UInt8.ofNat (4*n+(headerLength n-1)),littleEndian k ((4*n+(headerLength n-1))/256),?_,?_⟩
  · rw [header]
    conv_lhs => rw [hk,littleEndian]
    rw [hk]
  · rw [UInt8.toNat_ofNat']
    omega

/-- The payload of a frame whose header is `k` bytes and says `n`. -/
def splitPayload (limit : Option ℕ) (k n : ℕ) (t : Bytes) : Framing.Parsed Bytes :=
  if limit.any (·<n) then .bad
  else if t.length<k+n then .more
  else .done ((t.drop k).take n) (t.drop (k+n))

/-- The frame at the front of `t`. -/
def splitFrame (limit : Option ℕ) (t : Bytes) : Framing.Parsed Bytes :=
  match t with
  | [] => .more
  | b::_ =>
    if t.length<b.toNat%4+1 then .more
    else splitPayload limit (b.toNat%4+1) (ofLittleEndian (t.take (b.toNat%4+1))/4) t

theorem splitPayload_append {k : ℕ} {x r : Bytes} (h : splitPayload limit k n t=.done x r) (q : Bytes) :
    splitPayload limit k n (t++q)=.done x (r++q) ∧ (1≤k → r.length<t.length) := by
  unfold splitPayload at h ⊢
  split at h
  · cases h
  · rename_i hlimit
    split at h
    · cases h
    · rename_i hlen
      cases h
      rw [if_neg hlimit,if_neg (by rw [length_append]; omega)]
      rw [drop_append_of_le_length (by omega),drop_append_of_le_length (by omega),
        take_append_of_le_length (by rw [length_drop]; omega)]
      refine ⟨rfl,fun hk => ?_⟩
      rw [length_drop]
      omega

theorem splitFrame_append {x r : Bytes} (h : splitFrame limit t=.done x r) (q : Bytes) :
    splitFrame limit (t++q)=.done x (r++q) ∧ r.length<t.length := by
  cases t with
  | nil => cases h
  | cons b t =>
    simp only [splitFrame,cons_append] at h ⊢
    split at h
    · cases h
    · rename_i hlen
      obtain ⟨happ,hlt⟩:=splitPayload_append h q
      refine ⟨?_,hlt (by omega)⟩
      rw [if_neg (by rw [← cons_append,length_append]; omega),← cons_append,
        take_append_of_le_length (by omega)]
      exact happ

def frames (limit : Option ℕ) : Streams.Splitter Bytes where
  split := splitFrame limit
  split_append h q := (splitFrame_append h q).1
  split_length h := (splitFrame_append h []).2

def Payload (limit : Option ℕ) (p : Bytes) : Prop := p.length<2^30 ∧ ∀ l∈limit,p.length≤l

theorem payload_any (hp : Payload limit p) : limit.any (fun l => l<p.length)=false := by
  cases limit with
  | none => rfl
  | some l =>
    have hle:=hp.2 l rfl
    simp only [Option.any_some,decide_eq_false_iff_not]
    omega

theorem length_frame (p : Bytes) : (frame p).length=headerLength p.length+p.length := by
  rw [frame,length_append,length_header]

theorem splitFrame_header (hn : n<2^30) (t : Bytes) :
    splitFrame limit (header n++t)=splitPayload limit (headerLength n) n (header n++t) := by
  obtain ⟨b,u,hu,hb⟩:=header_cons n
  have htake : (header n++t).take (headerLength n)=header n := by
    rw [take_append_of_le_length (by simp),take_of_length_le (by simp)]
  have hval:=ofLittleEndian_header hn
  have hlen : ¬(header n++t).length<headerLength n := by simp
  have hpos:=headerLength_pos n
  rw [hu] at htake hval hlen ⊢
  rw [cons_append] at htake hlen ⊢
  rw [splitFrame,hb,if_neg hlen,htake,hval]
  congr 1
  omega

theorem splitFrame_frame (hp : Payload limit p) (q : Bytes) : splitFrame limit (frame p++q)=.done p q := by
  have htake : ((header p.length++(p++q)).drop (headerLength p.length)).take p.length=p := by
    rw [drop_left' (length_header _),take_left' rfl]
  have hdrop : (header p.length++(p++q)).drop (headerLength p.length+p.length)=q := by
    rw [← append_assoc]
    exact drop_left' (length_frame p)
  rw [frame,append_assoc,splitFrame_header hp.1,splitPayload,payload_any hp,if_neg Bool.false_ne_true,
    if_neg (by simp only [length_append,length_header]; omega),htake,hdrop]

theorem splitFrame_part (hp : Payload limit p) {q : Bytes} (hq : q≠[])
    (h : t++q=frame p) : splitFrame limit t=.more := by
  have hlen : t.length<headerLength p.length+p.length := by
    have hsum:=congrArg List.length h
    rw [length_append,length_frame] at hsum
    have := length_pos_iff.mpr hq
    omega
  by_cases hhead : headerLength p.length≤t.length
  · -- the header is there and says that more must come
    obtain ⟨u,rfl⟩ : header p.length <+: t := by
      rw [frame] at h
      exact prefix_of_prefix_length_le (h ▸ prefix_append _ _) (prefix_append t q) (by simpa using hhead)
    rw [splitFrame_header hp.1,splitPayload,payload_any hp,if_neg Bool.false_ne_true,if_pos hlen]
  · cases t with
    | nil => rfl
    | cons b t =>
      obtain ⟨b',u,hu,hb⟩:=header_cons p.length
      rw [frame,hu,cons_append,cons_append] at h
      obtain ⟨rfl,-⟩:=List.cons.inj h
      rw [splitFrame,hb,if_pos (by omega)]

theorem frames_written (limit : Option ℕ) : Streams.Writes (frames limit) frame (Payload limit) where
  whole _ hp q := splitFrame_frame hp q
  part _ hp _ _ hq h := splitFrame_part hp hq h
  none := rfl

end BetterDesk.Codec
