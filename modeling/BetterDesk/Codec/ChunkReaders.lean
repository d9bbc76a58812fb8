import BetterDesk.Codec.Decoders

/-! # The buffers of the Node bridge and the browser -/

namespace BetterDesk.Codec
open Text (Bytes)
open List Option Nat

/-- `dataLen` bytes of the buffer are in use. -/
structure StreamBuffer where
  buffer : Bytes
  dataLen : ℕ

def StreamBuffer.view (st : StreamBuffer) : Bytes := st.buffer.take st.dataLen

def StreamBuffer.Fit (st : StreamBuffer) : Prop := st.dataLen ≤ st.buffer.length

/-- `src.copy(target, at)`: what does not fit is not written. -/
def blit (target : Bytes) (i : ℕ) (src : Bytes) : Bytes :=
  target.take i++src.take (target.length-i)++target.drop (i+src.length)

def grow (st : StreamBuffer) (capacity : ℕ) : Bytes := st.view++List.replicate (capacity-st.dataLen) 0

/-- `while (offset < dataLen)`: a frame and the bytes it takes, `none` inside for
a frame that is not whole, `none` outside where the decoder throws. -/
def scanFrames (frameAt : ℕ → Option (Option (Bytes × ℕ))) (dataLen : ℕ) : ℕ → ℕ → Option (List Bytes × ℕ)
  | 0, offset => some ([],offset)
  | fuel+1, offset =>
    if dataLen≤offset then some ([],offset)
    else (frameAt offset).bind fun found => match found with
      | none => some ([],offset)
      | some (data,consumed) => (scanFrames frameAt dataLen fuel (offset+consumed)).map fun r => (data::r.1,r.2)

/-- The bytes after `offset`, moved to the front. -/
def compact (buffer : Bytes) (dataLen offset : ℕ) : StreamBuffer :=
  if 0<offset then
    { buffer := if 0<dataLen - offset then blit buffer 0 ((buffer.take dataLen).drop offset) else buffer
      dataLen := dataLen-offset}
  else {buffer := buffer,dataLen := dataLen}

/-- An empty buffer that has grown past `threshold` is dropped. -/
def release (threshold : ℕ) (st : StreamBuffer) : StreamBuffer :=
  if st.dataLen=0 ∧ threshold < st.buffer.length then {buffer := [],dataLen := 0} else st

def feedWith (room : ℕ → Bool) (capacity : ℕ → ℕ → ℕ) (frameAt : Bytes → ℕ → ℕ → Option (Option (Bytes × ℕ)))
    (threshold : ℕ) (st : StreamBuffer) (incoming : Bytes) : Option (List Bytes × StreamBuffer) :=
  let needed:=st.dataLen+incoming.length
  if room needed=false then none
  else
    let grown := if st.buffer.length<needed then grow st (capacity needed st.buffer.length) else st.buffer
    let buffer:=blit grown st.dataLen incoming
    (scanFrames (frameAt buffer needed) needed needed 0).map fun r => (r.1,release threshold (compact buffer needed r.2))

/-- The frame at `offset`. -/
def relayFrameAt (buffer : Bytes) (dataLen offset : ℕ) : Option (Option (Bytes × ℕ)) :=
  let headerLen:=headLen (byteAt buffer offset)
  if dataLen-offset<headerLen then some none
  else
    let encoded:=(List.range headerLen).foldl (fun e i => e+(byteAt buffer (offset+i)).toNat*2^(8*i)) 0
    let payloadLen:=encoded/4
    if MAX_RELAY_FRAME_SIZE<payloadLen then none
    else if dataLen-offset-headerLen<payloadLen then some none
    else some (some ((buffer.drop (offset+headerLen)).take payloadLen,headerLen+payloadLen))

/-- The reader of `createRelayFrameDecoder`. -/
def relayFeed : StreamBuffer → Bytes → Option (List Bytes × StreamBuffer) :=
  feedWith (fun needed => needed≤MAX_RELAY_FRAME_SIZE+4)
    (fun needed length => min (MAX_RELAY_FRAME_SIZE+4) (max (max needed (length*2)) 4096))
    relayFrameAt (1024*1024)

/-- The frame at `offset` and the bytes it takes. -/
def decodeFrame (bytes : Bytes) (offset : ℕ) : Option (Bytes × ℕ) :=
  if bytes.length≤offset then none
  else
    let headLen:=headLen (byteAt bytes offset)
    if bytes.length<offset+headLen then none
    else
      let n:=(headerBits headLen (byteAt bytes offset) (byteAt bytes (offset+1)) (byteAt bytes (offset+2))
        (byteAt bytes (offset+3)) >>> 2).toNat
      if bytes.length<offset+headLen+n then none
      else some ((bytes.drop (offset+headLen)).take n,headLen+n)

/-- The reader of `createStreamDecoder`. -/
def browserFeed : StreamBuffer → Bytes → Option (List Bytes × StreamBuffer) :=
  feedWith (fun _ => true) (fun needed length => max (max needed (length*2)) 4096)
    (fun buffer dataLen offset => some (decodeFrame (buffer.take dataLen) offset)) 65536

theorem view_length {st : StreamBuffer} (h : st.Fit) : st.view.length=st.dataLen := by
  rw [StreamBuffer.view,length_take]
  exact min_eq_left h

theorem take_blit {target : Bytes} (src : Bytes) {i : ℕ} (h : i+src.length≤target.length) :
    (blit target i src).take (i+src.length)=target.take i++src ∧ (blit target i src).length=target.length := by
  have hsrc : src.take (target.length-i)=src := take_of_length_le (by omega)
  have hlen : (target.take i++src).length=i+src.length := by
    rw [length_append,length_take]
    omega
  refine ⟨?_,?_⟩
  · rw [blit,hsrc,take_left' hlen]
  · rw [blit,hsrc,length_append,hlen,length_drop]
    omega

variable {frameAt : Bytes → ℕ → ℕ → Option (Option (Bytes × ℕ))} {limit : Option ℕ} {offset : ℕ}

theorem take_compact {buffer : Bytes} {dataLen : ℕ} (h : dataLen≤buffer.length) (ho : offset≤dataLen) :
    (compact buffer dataLen offset).view=(buffer.take dataLen).drop offset ∧ (compact buffer dataLen offset).Fit := by
  unfold compact
  split
  · split
    · have hlen : ((buffer.take dataLen).drop offset).length=dataLen-offset := by
        rw [length_drop,length_take]
        omega
      obtain ⟨htake,hsame⟩:=take_blit ((buffer.take dataLen).drop offset)
        (show 0+((buffer.take dataLen).drop offset).length≤buffer.length by omega)
      rw [hlen,zero_add] at htake
      refine ⟨htake,?_⟩
      rw [StreamBuffer.Fit,hsame]
      exact le_trans (sub_le _ _) h
    · rename_i hnone
      refine ⟨?_,le_trans (sub_le _ _) h⟩
      have hzero : dataLen-offset=0 := by omega
      rw [StreamBuffer.view,hzero,take_zero,drop_eq_nil_of_le]
      rw [length_take]
      omega
  · rename_i hzero
    have hz : offset=0 := by omega
    exact ⟨by rw [hz]; rfl,h⟩

theorem release_view (threshold : ℕ) {st : StreamBuffer} (h : st.Fit) :
    (release threshold st).view=st.view ∧ (release threshold st).Fit := by
  unfold release
  split
  · rename_i hempty
    refine ⟨?_,le_refl _⟩
    rw [StreamBuffer.view,StreamBuffer.view,hempty.1]
    rfl
  · exact ⟨rfl,h⟩

/-- `frameAt` finds the frames that the splitter finds. -/
structure Finds (limit : Option ℕ) (frameAt : Bytes → ℕ → ℕ → Option (Option (Bytes × ℕ))) : Prop where
  more : ∀ buffer dataLen offset, dataLen≤buffer.length → offset<dataLen →
    splitFrame limit ((buffer.take dataLen).drop offset)=.more → frameAt buffer dataLen offset=some none
  done : ∀ buffer dataLen offset p r, dataLen≤buffer.length → offset<dataLen →
    splitFrame limit ((buffer.take dataLen).drop offset)=.done p r →
    ∃ c, frameAt buffer dataLen offset=some (some (p,c)) ∧ (buffer.take dataLen).drop (offset+c)=r ∧
      offset+c≤dataLen

theorem scanFrames_eq
    (hfind : Finds limit frameAt) {buffer : Bytes} {dataLen : ℕ} (hlen : dataLen≤buffer.length) {fuel : ℕ}
    (ho : offset≤dataLen) {xs : List Bytes} {rest : Bytes}
    (h : Streams.drainFuel (frames limit) fuel ((buffer.take dataLen).drop offset)=some (xs,rest)) :
    ∃ stop, scanFrames (frameAt buffer dataLen) dataLen fuel offset=some (xs,stop) ∧
      (buffer.take dataLen).drop stop=rest ∧ stop≤dataLen := by
  induction fuel generalizing offset xs with
  | zero =>
    cases h
    exact ⟨offset,rfl,rfl,ho⟩
  | succ fuel ih =>
    rw [Streams.drainFuel] at h
    rw [scanFrames]
    by_cases hend : dataLen≤offset
    · have hnil : (buffer.take dataLen).drop offset=[] := by
        apply drop_eq_nil_of_le
        rw [length_take]
        omega
      rw [hnil] at h
      cases h
      rw [if_pos hend]
      exact ⟨offset,rfl,hnil,ho⟩
    · rw [if_neg hend]
      cases hs : splitFrame limit ((buffer.take dataLen).drop offset) with
      | bad =>
        have hs' : (frames limit).split ((buffer.take dataLen).drop offset)=.bad := hs
        rw [hs'] at h
        cases h
      | more =>
        have hs' : (frames limit).split ((buffer.take dataLen).drop offset)=.more := hs
        rw [hs'] at h
        cases h
        rw [hfind.more buffer dataLen offset hlen (by omega) hs]
        exact ⟨offset,rfl,rfl,ho⟩
      | done p r =>
        have hs' : (frames limit).split ((buffer.take dataLen).drop offset)=.done p r := hs
        rw [hs'] at h
        obtain ⟨⟨ys,rest'⟩,hys,heq⟩:=map_eq_some_iff.mp h
        cases heq
        obtain ⟨c,hframe,hr,hc⟩:=hfind.done buffer dataLen offset p r hlen (by omega) hs
        rw [← hr] at hys
        obtain ⟨stop,hscan,hstop,hle⟩:=ih hc hys
        refine ⟨stop,?_,hstop,hle⟩
        rw [hframe]
        simp [hscan]

theorem take_appended {st : StreamBuffer} (hfit : st.Fit) (c : Bytes) {capacity : ℕ}
    (hcap : st.dataLen+c.length≤capacity) :
    (blit (if st.buffer.length < st.dataLen+c.length then grow st capacity else st.buffer) st.dataLen c).take
        (st.dataLen+c.length)=st.view++c ∧
      st.dataLen+c.length≤(blit (if st.buffer.length < st.dataLen+c.length then grow st capacity else st.buffer)
        st.dataLen c).length := by
  obtain ⟨grown,hgrown⟩ : ∃ g, g=if st.buffer.length < st.dataLen+c.length then grow st capacity else st.buffer := ⟨_,rfl⟩
  have hkeep : grown.take st.dataLen=st.view ∧ st.dataLen+c.length≤grown.length := by
    rw [hgrown]
    split
    · refine ⟨?_,?_⟩
      · rw [grow,take_left' (view_length hfit)]
      · rw [grow,length_append,view_length hfit,length_replicate]
        omega
    · exact ⟨rfl,by omega⟩
  obtain ⟨htake,hlen⟩:=take_blit c hkeep.2
  rw [hkeep.1] at htake
  rw [← hgrown]
  exact ⟨htake,hlen ▸ hkeep.2⟩

theorem feedWith_reads (room : ℕ → Bool) (capacity : ℕ → ℕ → ℕ) (threshold : ℕ) (hfind : Finds limit frameAt)
    (hcap : ∀ needed length, room needed=true → needed≤capacity needed length) :
    Streams.Reads (frames limit) StreamBuffer.view StreamBuffer.Fit (fun held n => room (held+n)=true)
      (feedWith room capacity frameAt threshold) where
  reads := by
    intro st c xs rest hfit hroom hdrain
    rw [view_length hfit] at hroom
    obtain ⟨hview,hroomy⟩:=take_appended hfit c (hcap (st.dataLen+c.length) st.buffer.length hroom)
    rw [feedWith,hroom]
    simp only [Bool.true_eq_false,if_false]
    generalize blit _ _ _=buffer at hview hroomy ⊢
    have hfuel : Streams.drainFuel (frames limit) (st.dataLen+c.length)
        ((buffer.take (st.dataLen+c.length)).drop 0)=some (xs,rest) := by
      rw [hview,drop_zero]
      rw [Streams.drain,length_append,view_length hfit] at hdrain
      exact hdrain
    obtain ⟨stop,hscan,hrest,hstop⟩:=scanFrames_eq hfind hroomy (zero_le _) hfuel
    obtain ⟨hcompact,hcfit⟩:=take_compact hroomy hstop
    obtain ⟨hrelease,hrfit⟩:=release_view threshold hcfit
    refine ⟨_,?_,?_,hrfit⟩
    · rw [hscan]
      rfl
    · rw [hrelease,hcompact,hrest]
  full := by
    intro st c hfit hroom
    rw [view_length hfit,Bool.not_eq_true] at hroom
    rw [feedWith]
    simp [hroom]

theorem byteAt_drop (bytes : Bytes) (m i : ℕ) : byteAt (bytes.drop m) i=byteAt bytes (m+i) := by
  simp [byteAt,List.getD]

theorem byteAt_take {bytes : Bytes} {n i : ℕ} (h : i<n) : byteAt (bytes.take n) i=byteAt bytes i := by
  simp [byteAt,List.getD,h]

theorem splitFrame_eq {t : Bytes} (h : t≠[]) :
    splitFrame limit t = if t.length<headLen (byteAt t 0) then .more
      else splitPayload limit (headLen (byteAt t 0)) (ofLittleEndian (t.take (headLen (byteAt t 0)))/4) t := by
  obtain ⟨b,t,rfl⟩:=exists_cons_of_ne_nil h
  have hb : byteAt (b::t) 0=b := rfl
  rw [splitFrame,hb,headLen_eq]

theorem headLen_range (b : UInt8) : 1≤headLen b ∧ headLen b≤4 := by
  rw [headLen_eq]
  omega

theorem ofLittleEndian_concat (t : Bytes) (b : UInt8) :
    ofLittleEndian (t++[b])=ofLittleEndian t+b.toNat*2^(8*t.length) := by
  induction t with
  | nil => simp [ofLittleEndian]
  | cons c t ih =>
    simp only [cons_append,ofLittleEndian,ih,length_cons,Nat.mul_add,Nat.mul_one,Nat.pow_add]
    rw [Nat.mul_left_comm 256,Nat.mul_comm 256 (2^_),Nat.add_assoc]

theorem encoded_eq {k : ℕ} {t : Bytes} (h : k≤t.length) :
    (List.range k).foldl (fun e i => e+(byteAt t i).toNat*2^(8*i)) 0=ofLittleEndian (t.take k) := by
  induction k with
  | zero => rfl
  | succ k ih =>
    have hlen : (t.take k).length=k := by
      rw [length_take]
      omega
    have hbyte : byteAt t k=t[k] := by simp [byteAt,show k<t.length by omega]
    rw [range_succ,foldl_append,ih (by omega),take_succ_eq_append_getElem (by omega),
      ofLittleEndian_concat,hlen,← hbyte]
    rfl

/-- The frame at the front of `t` and the bytes it takes. -/
def frameIn (limit : Option ℕ) (t : Bytes) : Option (Option (Bytes × ℕ)) :=
  let k:=headLen (byteAt t 0)
  let n:=ofLittleEndian (t.take k)/4
  if t.length<k then some none
  else if limit.any (·<n) then none
  else if t.length<k+n then some none
  else some (some ((t.drop k).take n,k+n))

theorem finds_of_frameIn (h : ∀ buffer dataLen offset, dataLen≤buffer.length → offset<dataLen →
      frameAt buffer dataLen offset=frameIn limit ((buffer.take dataLen).drop offset)) : Finds limit frameAt := by
  have hlength (buffer : Bytes) (dataLen offset : ℕ) (hlen : dataLen≤buffer.length) :
      ((buffer.take dataLen).drop offset).length=dataLen-offset := by
    rw [length_drop,length_take,min_eq_left hlen]
  have hne (buffer : Bytes) (dataLen offset : ℕ) (hlen : dataLen≤buffer.length) (ho : offset<dataLen) :
      (buffer.take dataLen).drop offset≠[] := by
    intro hnil
    have hl:=hlength buffer dataLen offset hlen
    rw [hnil,length_nil] at hl
    omega
  constructor
  · intro buffer dataLen offset hlen ho hsplit
    rw [splitFrame_eq (hne buffer dataLen offset hlen ho)] at hsplit
    rw [h buffer dataLen offset hlen ho,frameIn]
    split at hsplit
    · rename_i hhead
      rw [if_pos hhead]
    · rename_i hhead
      rw [if_neg hhead]
      unfold splitPayload at hsplit
      split at hsplit
      · cases hsplit
      · rename_i hlimit
        rw [if_neg hlimit]
        split at hsplit
        · rename_i hbody
          rw [if_pos hbody]
        · cases hsplit
  · intro buffer dataLen offset p r hlen ho hsplit
    rw [splitFrame_eq (hne buffer dataLen offset hlen ho)] at hsplit
    rw [h buffer dataLen offset hlen ho,frameIn]
    split at hsplit
    · cases hsplit
    · rename_i hhead
      rw [if_neg hhead]
      unfold splitPayload at hsplit
      split at hsplit
      · cases hsplit
      · rename_i hlimit
        rw [if_neg hlimit]
        split at hsplit
        · cases hsplit
        · rename_i hbody
          cases hsplit
          rw [if_neg hbody]
          refine ⟨_,rfl,drop_drop.symm,?_⟩
          rw [hlength buffer dataLen offset hlen] at hbody
          omega

theorem decodeFrame_eq {bytes : Bytes} (h : offset<bytes.length) :
    some (decodeFrame bytes offset)=frameIn none (bytes.drop offset) := by
  have hb : byteAt (bytes.drop offset) 0=byteAt bytes offset := by rw [byteAt_drop,add_zero]
  have hrange:=headLen_range (byteAt bytes offset)
  rw [decodeFrame,frameIn,if_neg (by omega),hb,length_drop]
  obtain ⟨k,hk⟩ : ∃ k, headLen (byteAt bytes offset)=k := ⟨_,rfl⟩
  rw [hk] at hrange ⊢
  by_cases hlen : bytes.length<offset+k
  · rw [if_pos hlen,if_pos (by omega)]
  · have hval:=headerBits_take (t := bytes.drop offset) hrange.1 hrange.2 (by rw [length_drop]; omega)
    simp only [byteAt_drop,add_zero] at hval
    rw [if_neg hlen,shiftRight_two,hval,drop_drop]
    dsimp only
    obtain ⟨n,hn⟩ : ∃ n, ofLittleEndian ((bytes.drop offset).take k)/4=n := ⟨_,rfl⟩
    rw [if_neg (show ¬bytes.length-offset<k by omega),hn,any_none,if_neg Bool.false_ne_true]
    by_cases hbody : bytes.length<offset+k+n
    · rw [if_pos hbody,if_pos (by omega)]
    · rw [if_neg hbody,if_neg (by omega)]

theorem browser_finds : Finds none fun buffer dataLen offset => some (decodeFrame (buffer.take dataLen) offset) :=
  finds_of_frameIn fun buffer dataLen offset hlen ho =>
    decodeFrame_eq (by rw [length_take]; omega)

theorem relayFrameAt_eq {buffer : Bytes} {dataLen : ℕ} (hlen : dataLen≤buffer.length) (ho : offset<dataLen) :
    relayFrameAt buffer dataLen offset=frameIn (some MAX_RELAY_FRAME_SIZE) ((buffer.take dataLen).drop offset) := by
  have hbyte (i : ℕ) (hi : i<dataLen-offset) :
      byteAt ((buffer.take dataLen).drop offset) i=byteAt buffer (offset+i) := by
    rw [byteAt_drop,byteAt_take (by omega)]
  have hlength : ((buffer.take dataLen).drop offset).length=dataLen-offset := by
    rw [length_drop,length_take,min_eq_left hlen]
  have hb:=hbyte 0 (by omega)
  rw [add_zero] at hb
  rw [relayFrameAt,frameIn,hb,hlength]
  obtain ⟨k,hk⟩ : ∃ k, headLen (byteAt buffer offset)=k := ⟨_,rfl⟩
  rw [hk]
  dsimp only
  by_cases hhead : dataLen-offset<k
  · rw [if_pos hhead,if_pos hhead]
  · have hsum : (List.range k).foldl (fun e i => e+(byteAt buffer (offset+i)).toNat*2^(8*i)) 0 =
        ofLittleEndian (((buffer.take dataLen).drop offset).take k) := by
      rw [← encoded_eq (by rw [hlength]; omega)]
      refine foldl_ext _ _ _ fun e i hi => ?_
      rw [hbyte i (by have := mem_range.mp hi; omega)]
    rw [if_neg hhead,if_neg hhead,hsum]
    obtain ⟨n,hn⟩ : ∃ n, ofLittleEndian (((buffer.take dataLen).drop offset).take k)/4=n := ⟨_,rfl⟩
    rw [hn]
    simp only [any_some,decide_eq_true_eq]
    by_cases hmax : MAX_RELAY_FRAME_SIZE<n
    · rw [if_pos hmax,if_pos hmax]
    · rw [if_neg hmax,if_neg hmax]
      by_cases hbody : dataLen-offset-k<n
      · rw [if_pos hbody,if_pos (by omega)]
      · rw [if_neg hbody,if_neg (by omega),drop_drop,drop_take,take_take,min_eq_left (by omega)]

theorem relay_finds : Finds (some MAX_RELAY_FRAME_SIZE) relayFrameAt :=
  finds_of_frameIn fun _ _ _ hlen ho => relayFrameAt_eq hlen ho

theorem frameIn_bad {t : Bytes} (h : splitFrame limit t=.bad) : frameIn limit t=none := by
  have hne : t≠[] := by
    intro hnil
    rw [hnil] at h
    cases h
  rw [splitFrame_eq hne] at h
  rw [frameIn]
  split at h
  · cases h
  · rename_i hhead
    rw [if_neg hhead]
    unfold splitPayload at h
    split at h
    · rename_i hlimit
      rw [if_pos hlimit]
    · split at h <;> cases h

theorem scanFrames_bad {buffer : Bytes} {dataLen : ℕ} (hlen : dataLen≤buffer.length) {fuel : ℕ} (ho : offset≤dataLen)
    (h : Streams.drainFuel (frames (some MAX_RELAY_FRAME_SIZE)) fuel ((buffer.take dataLen).drop offset)=none) :
    scanFrames (relayFrameAt buffer dataLen) dataLen fuel offset=none := by
  induction fuel generalizing offset with
  | zero => cases h
  | succ fuel ih =>
    rw [Streams.drainFuel] at h
    have hin : offset<dataLen := by
      by_contra hend
      have hnil : (buffer.take dataLen).drop offset=[] := by
        apply drop_eq_nil_of_le
        rw [length_take]
        omega
      rw [hnil] at h
      cases h
    rw [scanFrames,if_neg (by omega)]
    cases hs : (frames (some MAX_RELAY_FRAME_SIZE)).split ((buffer.take dataLen).drop offset) with
    | bad => rw [relayFrameAt_eq hlen hin,frameIn_bad hs,bind_none]
    | more =>
      rw [hs] at h
      cases h
    | done p r =>
      obtain ⟨c,hframe,hr,hc⟩:=relay_finds.done buffer dataLen offset p r hlen hin hs
      rw [hs] at h
      simp only [map_eq_none_iff] at h
      rw [← hr] at h
      simp [hframe,ih hc h]

theorem relayFeed_bad {st : StreamBuffer} (hfit : st.Fit) {c : Bytes}
    (h : Streams.drain (frames (some MAX_RELAY_FRAME_SIZE)) (st.view++c)=none) : relayFeed st c=none := by
  rw [relayFeed,feedWith]
  by_cases hroom : st.dataLen+c.length≤MAX_RELAY_FRAME_SIZE+4
  · obtain ⟨hview,hroomy⟩:=take_appended hfit c
      (show _ ≤ min (MAX_RELAY_FRAME_SIZE+4) (max (max (st.dataLen+c.length) (st.buffer.length*2)) 4096) by omega)
    simp only [hroom,decide_true,Bool.true_eq_false,if_false]
    generalize blit _ _ _=buffer at hview hroomy ⊢
    rw [scanFrames_bad hroomy (zero_le _),map_none]
    rw [hview,drop_zero]
    rw [Streams.drain,length_append,view_length hfit] at h
    exact h
  · simp [hroom]

end BetterDesk.Codec
