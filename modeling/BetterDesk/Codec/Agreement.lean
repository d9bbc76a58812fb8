import BetterDesk.Codec.ChunkReaders

/-! # One stream, three decoders -/

namespace BetterDesk.Codec
open Text (Bytes)
open List Nat

def StreamBuffer.empty : StreamBuffer := {buffer := [],dataLen := 0}

/-- The Node bridge has room for `n` more bytes. -/
def RelayRoom (held n : ℕ) : Prop := held+n≤MAX_RELAY_FRAME_SIZE+4

instance (held n : ℕ) : Decidable (RelayRoom held n) := inferInstanceAs (Decidable (_≤_))

theorem payload_small {limit : Option ℕ} (hlimit : ∀ l∈limit,MaxPeerFrameSize≤l) {p : Bytes}
    (h : p.length≤MaxPeerFrameSize) : Payload limit p := by
  have hmax : MaxPeerFrameSize=16777216 := rfl
  refine ⟨by omega,fun l hl => ?_⟩
  have hle:=hlimit l hl
  omega

theorem small_none : ∀ l∈(none : Option ℕ), MaxPeerFrameSize≤l := by
  intro l hl
  cases hl

theorem small_some {m : ℕ} (h : MaxPeerFrameSize ≤ m) : ∀ l∈some m, MaxPeerFrameSize≤l := by
  intro l hl
  cases hl
  exact h

theorem relay_reads : Streams.Reads (frames (some MAX_RELAY_FRAME_SIZE)) StreamBuffer.view StreamBuffer.Fit RelayRoom
    relayFeed := by
  have h:=feedWith_reads (fun needed => needed≤MAX_RELAY_FRAME_SIZE+4)
    (fun needed length => min (MAX_RELAY_FRAME_SIZE+4) (max (max needed (length*2)) 4096)) (1024*1024) relay_finds (by
      intro needed length hroom
      simp only [decide_eq_true_eq] at hroom
      omega)
  simp only [decide_eq_true_eq] at h
  exact h

theorem browser_reads : Streams.Reads (frames none) StreamBuffer.view StreamBuffer.Fit (fun _ _ => True) browserFeed := by
  have h:=feedWith_reads (fun _ => true) (fun needed length => max (max needed (length*2)) 4096) 65536 browser_finds (by
      intro needed length _
      omega)
  simp only at h
  exact h

theorem fits_always {ps : List Bytes} {held : ℕ} {chunks : List Bytes} :
    Streams.Fits frame (fun _ _ => True) ps held chunks := by
  induction chunks generalizing held with
  | nil => trivial
  | cons c chunks ih => exact ⟨trivial,ih⟩

theorem fits_small {ps : List Bytes} (hps : ∀ p∈ps,p.length≤MaxPeerFrameSize) {chunks : List Bytes}
    (hsmall : ∀ c∈chunks,c.length≤48*1024*1024) {held : ℕ}
    (hlen : held+chunks.flatten.length=(ps.flatMap frame).length) : Streams.Fits frame RelayRoom ps held chunks := by
  induction chunks generalizing held with
  | nil => trivial
  | cons c chunks ih =>
    have hmax : MaxPeerFrameSize=16777216 := rfl
    have hrelay : MAX_RELAY_FRAME_SIZE=67108864 := rfl
    have hc:=hsmall c mem_cons_self
    rw [flatten_cons,length_append] at hlen
    refine ⟨?_,ih (fun d hd => hsmall d (mem_cons_of_mem _ hd)) (by omega)⟩
    have hleft : Streams.leftover frame ps held<MaxPeerFrameSize+4 := by
      refine Streams.leftover_lt (by omega) (by omega) fun p hp => ?_
      have hple:=hps p hp
      have hpos:=headerLength_pos p.length
      rw [length_frame]
      omega
    rw [RelayRoom]
    omega

structure FrameAgrees (p : Bytes) : Prop where
  go : writeRawBytesMax p MaxPeerFrameSize=some (frame p)
  node : encodeRelayFrame p=some (frame p)
  browser : encodeFrame p=some (frame p)
  goRead : ∃ rest, readRawBytesMax [frame p] MaxPeerFrameSize=some (p,rest) ∧ rest.flatten=[]
  nodeRead : ∃ st, relayFeed .empty (frame p)=some ([p],st) ∧ st.view=[]
  browserRead : decodeFrame (frame p) 0=some (p,(frame p).length)

theorem frameAgrees {p : Bytes} (h : p.length≤MaxPeerFrameSize) : FrameAgrees p := by
  have hmax : MaxPeerFrameSize=16777216 := rfl
  have hrelay : MAX_RELAY_FRAME_SIZE=67108864 := rfl
  have hpos:=headerLength_pos p.length
  have hsplit (limit : Option ℕ) (hl : ∀ l∈limit,MaxPeerFrameSize≤l) : splitFrame limit (frame p)=.done p [] := by
    have hframe:=splitFrame_frame (payload_small hl h) []
    rwa [append_nil] at hframe
  have hlen:=length_frame p
  refine ⟨writeRawBytesMax_eq (by omega) h,encodeRelayFrame_eq (by omega),encodeFrame_eq (by omega),?_,?_,?_⟩
  · refine readRawBytesMax_eq ?_
    rw [flatten_cons,flatten_nil,append_nil]
    exact hsplit _ (small_some (le_refl _))
  · have hdrain:=Streams.drain_written (frames_written (some MAX_RELAY_FRAME_SIZE)) [p] fun q hq => by
      rw [mem_singleton.mp hq]
      exact payload_small (small_some (by omega)) h
    rw [flatMap_cons,flatMap_nil,append_nil] at hdrain
    obtain ⟨st,hfeed,hview,-⟩:=relay_reads.reads .empty (frame p) [p] [] (le_refl _) (by
      show (0 : ℕ)+(frame p).length≤MAX_RELAY_FRAME_SIZE+4
      omega) hdrain
    exact ⟨st,hfeed,hview⟩
  · obtain ⟨c,hfound,hrest,hc⟩:=browser_finds.done (frame p) (frame p).length 0 p [] (le_refl _) (by omega) (by
      rw [take_length,drop_zero]
      exact hsplit none small_none)
    rw [take_length,zero_add] at hrest
    rw [take_length,Option.some.injEq] at hfound
    have hge:=drop_eq_nil_iff.mp hrest
    rw [hfound,le_antisymm (by omega : c≤(frame p).length) hge]

/-- The encoders write the same bytes, each decoder takes a frame apart, and
every cut of a stream of frames reads as its payloads: by the Go server and the
browser always, by the Node bridge exactly when it has room for every chunk. -/
theorem framing_agrees (ps : List Bytes) (hps : ∀ p∈ps,p.length≤MaxPeerFrameSize) (chunks : List Bytes)
    (hcut : chunks.flatten=ps.flatMap frame) : (∀ p∈ps,FrameAgrees p) ∧ readAll MaxPeerFrameSize chunks=ps ∧
      Streams.feedAll browserFeed .empty chunks=some ps ∧
      (Streams.Fits frame RelayRoom ps 0 chunks → Streams.feedAll relayFeed .empty chunks=some ps) ∧
      (¬Streams.Fits frame RelayRoom ps 0 chunks → Streams.feedAll relayFeed .empty chunks=none) ∧
      ((∀ c∈chunks,c.length≤48*1024*1024) → Streams.Fits frame RelayRoom ps 0 chunks) := by
  have hmax : MaxPeerFrameSize=16777216 := rfl
  have hrelay : MAX_RELAY_FRAME_SIZE=67108864 := rfl
  have hzero : Streams.leftover frame ps 0=0 := by
    cases ps with
    | nil => rfl
    | cons p ps =>
      have hpos:=headerLength_pos p.length
      rw [Streams.leftover,if_neg (by rw [length_frame]; omega)]
  have hgo : readAll MaxPeerFrameSize chunks=ps :=
    readAll_eq (fun p hp => payload_small (small_some (le_refl _)) (hps p hp)) hcut
  have hbrowser:=(Streams.feedAll_eq (frames_written none) browser_reads (fun p hp => payload_small small_none (hps p hp))
    .empty (le_refl _) hcut hzero).1 fits_always
  obtain ⟨hfits,hfull⟩:=Streams.feedAll_eq (frames_written (some MAX_RELAY_FRAME_SIZE)) relay_reads
    (fun p hp => payload_small (small_some (by omega)) (hps p hp)) .empty (le_refl _) hcut hzero
  refine ⟨fun p hp => frameAgrees (hps p hp),hgo,hbrowser,hfits,hfull,fun hsmall => ?_⟩
  refine fits_small hps hsmall ?_
  rw [zero_add,hcut]

theorem framing_agrees_split_header : readAll MaxPeerFrameSize [[8],[1,2,0]]=[[1,2],[]] ∧
      Streams.feedAll relayFeed .empty [[8],[1,2,0]]=some [[1,2],[]] := by
  have h:=framing_agrees [[1,2],[]] (by decide) [[8],[1,2,0]] (by decide)
  exact ⟨h.2.1,h.2.2.2.1 (by decide)⟩

/-- A chunk of empty frames that is larger than the largest frame: the bridge
refuses it before it takes the first of them out. -/
theorem relay_refuses_many_frames :
    ¬∀ (ps chunks : List Bytes), (∀ p∈ps,p.length≤MaxPeerFrameSize) → chunks.flatten=ps.flatMap frame →
      Streams.feedAll relayFeed .empty chunks=some ps := by
  intro hall
  obtain ⟨n,hn⟩ : ∃ n, n=MAX_RELAY_FRAME_SIZE+5 := ⟨_,rfl⟩
  have hstream : [List.replicate n (0 : UInt8)].flatten=(List.replicate n ([] : Bytes)).flatMap frame := by
    have hone : frame []=[0] := rfl
    rw [flatten_cons,flatten_nil,append_nil]
    clear hn
    induction n with
    | zero => rfl
    | succ n ih => rw [replicate_succ,replicate_succ,flatMap_cons,hone,ih,singleton_append]
  have hread:=hall (List.replicate n []) [List.replicate n 0] (by
    intro p hp
    rw [(mem_replicate.mp hp).2]
    exact zero_le _) hstream
  have hfull:=relay_reads.full .empty (List.replicate n 0) (le_refl _) (by
    rw [RelayRoom,length_replicate]
    have hview : (StreamBuffer.empty.view).length=0 := rfl
    omega)
  rw [Streams.feedAll,hfull] at hread
  cases hread

/-- The Node decoder over every cut of a stream of its own frames: their payloads, as long as it
has room for each chunk. A length over its limit after them is refused in every cut. -/
theorem relay_decoder_cuts (ps : List Bytes) (hps : ∀ p∈ps,p.length≤MAX_RELAY_FRAME_SIZE) (chunks : List Bytes) :
    (∀ p∈ps,encodeRelayFrame p=some (frame p)) ∧
    (chunks.flatten=ps.flatMap frame → Streams.feedAll relayFeed .empty chunks =
      if Streams.Fits frame RelayRoom ps 0 chunks then some ps else none) ∧
    ∀ n rest, MAX_RELAY_FRAME_SIZE < n → n<2^30 → chunks.flatten=ps.flatMap frame++(header n++rest) →
      Streams.feedAll relayFeed .empty chunks=none := by
  have hrelay : MAX_RELAY_FRAME_SIZE=67108864 := rfl
  have hok : ∀ p∈ps,Payload (some MAX_RELAY_FRAME_SIZE) p := by
    intro p hp
    have hle:=hps p hp
    refine ⟨by omega,?_⟩
    intro l hl
    cases hl
    exact hle
  refine ⟨fun p hp => encodeRelayFrame_eq (hps p hp),?_,?_⟩
  · intro hcut
    have hzero : Streams.leftover frame ps 0=0 := by
      cases ps with
      | nil => rfl
      | cons p ps =>
        have hpos:=headerLength_pos p.length
        rw [Streams.leftover,if_neg (by rw [length_frame]; omega)]
    obtain ⟨hfits,hfull⟩:=Streams.feedAll_eq (frames_written (some MAX_RELAY_FRAME_SIZE)) relay_reads hok
      .empty (le_refl _) hcut hzero
    split
    · exact hfits ‹_›
    · exact hfull ‹_›
  · intro n rest hn hlt hcut
    apply Streams.feedAll_bad (frames_written (some MAX_RELAY_FRAME_SIZE)) relay_reads
      (fun st c hfit _ h => relayFeed_bad hfit h) .empty (le_refl _) rfl
    have hview : StreamBuffer.empty.view=[] := rfl
    have hbad : Streams.drain (frames (some MAX_RELAY_FRAME_SIZE)) (header n++rest)=none := by
      have hsplit : (frames (some MAX_RELAY_FRAME_SIZE)).split (header n++rest)=.bad := by
        show splitFrame _ _=_
        rw [splitFrame_header hlt,splitPayload,if_pos (by simpa using hn)]
      exact Streams.drain_bad (frames_written _) hsplit
    rw [hview,nil_append,hcut,
      Streams.drain_append (frames_written _) (Streams.drain_written (frames_written _) ps hok),nil_append,hbad]
    rfl

theorem relay_decoder_cuts_split_header : Streams.feedAll relayFeed .empty [[8],[1,2,0]]=some [[1,2],[]] := by
  have h:=relay_decoder_cuts [[1,2],[]] (by decide) [[8],[1,2,0]]
  exact h.2.1 (by decide)

/-- Two frames of the largest size in one chunk. -/
theorem relay_refuses_two_frames :
    ¬∀ (ps chunks : List Bytes), (∀ p∈ps,p.length≤MAX_RELAY_FRAME_SIZE) → chunks.flatten=ps.flatMap frame →
      Streams.feedAll relayFeed .empty chunks=some ps := by
  intro hall
  obtain ⟨p,hp⟩ : ∃ p : Bytes, p.length=MAX_RELAY_FRAME_SIZE :=
    ⟨replicate MAX_RELAY_FRAME_SIZE 0,length_replicate ..⟩
  have hread:=hall [p,p] [frame p++frame p] (by
    intro q hq
    simp only [mem_cons,not_mem_nil,or_false,or_self] at hq
    rw [hq,hp]) (by simp)
  have hfull:=relay_reads.full .empty (frame p++frame p) (le_refl _) (by
    have hview : (StreamBuffer.empty.view).length=0 := rfl
    have hrelay : MAX_RELAY_FRAME_SIZE=67108864 := rfl
    rw [RelayRoom,length_append,length_frame,hp]
    omega)
  rw [Streams.feedAll,hfull] at hread
  cases hread

end BetterDesk.Codec
