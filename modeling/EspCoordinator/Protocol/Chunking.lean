import EspCoordinator.Protocol.Frame
import Mathlib.Data.List.Induction

namespace EspCoordinator.Protocol

def Delivered (frames : List (List UInt8)) (actions : List Action) : Prop :=
  dispatched actions = frames.map payload ∧ acked actions = frames.map frameSeq

-- The frames that lie within the first `count` bytes of the stream.
def completed : List (List UInt8) → Nat → List (List UInt8)
  | [], _ => []
  | frame :: rest, count =>
      if count < frame.length then [] else frame :: completed rest (count - frame.length)

-- What the first `count` bytes of the stream hold of the next frame.
def leftover : List (List UInt8) → Nat → List UInt8
  | [], _ => []
  | frame :: rest, count =>
      if count < frame.length then frame.take count else leftover rest (count - frame.length)

-- Whenever a chunk arrives, it fits behind the incomplete frame before it.
def NeverFull (frames chunks : List (List UInt8)) : Prop :=
  ∀ past chunk, past ++ [chunk] <+: chunks →
    (leftover frames past.flatten.length).length + chunk.length ≤ RX_BUFFER_SIZE

theorem neverFull_concat {frames past : List (List UInt8)} {chunk : List UInt8} :
    NeverFull frames (past ++ [chunk]) ↔ NeverFull frames past ∧
      (leftover frames past.flatten.length).length + chunk.length ≤ RX_BUFFER_SIZE := by
  constructor
  · exact fun h => ⟨fun before next hb => h before next (hb.trans (List.prefix_append _ _)),
      h past chunk (List.prefix_refl _)⟩
  · rintro ⟨hpast, hlast⟩ before next hb
    rcases List.prefix_concat_iff.mp hb with heq | hb
    · obtain ⟨rfl, hnext⟩ := List.append_inj' heq rfl
      obtain rfl := List.singleton_inj.mp hnext
      exact hlast
    · exact hpast before next hb

def frameItem (frame : List UInt8) : Item :=
  .packet (NcpHeader.read frame) (payload frame)

theorem mem_of_mem_completed {frames : List (List UInt8)} {count : Nat} {frame : List UInt8}
    (h : frame ∈ completed frames count) : frame ∈ frames := by
  induction frames generalizing count with
  | nil => exact h
  | cons first rest ih =>
      simp only [completed] at h
      split at h
      · simp at h
      · rcases List.mem_cons.mp h with rfl | h
        · simp
        · exact List.mem_cons_of_mem _ (ih h)

theorem completed_flatten (frames : List (List UInt8)) :
    completed frames frames.flatten.length = frames := by
  induction frames with
  | nil => rfl
  | cons frame rest ih =>
      rw [List.flatten_cons, List.length_append, completed, if_neg (by omega),
        Nat.add_sub_cancel_left, ih]

theorem take_flatten (frames : List (List UInt8)) (count : Nat) :
    frames.flatten.take count = (completed frames count).flatten ++ leftover frames count := by
  induction frames generalizing count with
  | nil => simp [completed, leftover]
  | cons frame rest ih =>
      simp only [completed, leftover, List.flatten_cons, List.take_append]
      split
      · rw [show count - frame.length = 0 by omega]
        simp
      · rw [List.take_of_length_le (by omega), ih]
        simp

theorem cut_nil : scanner.cut [] = ([], []) :=
  scanner.cut_wait (by simp [scanner, scan])

theorem cut_append_frames {frames : List (List UInt8)} (hf : ∀ frame ∈ frames, IsDataFrame frame)
    (rxData : List UInt8) :
    scanner.cut (frames.flatten ++ rxData) =
      (frames.map frameItem ++ (scanner.cut rxData).1, (scanner.cut rxData).2) := by
  induction frames with
  | nil => simp
  | cons frame rest ih =>
      have hs := (hf frame (by simp)).scan_append (rest.flatten ++ rxData)
      rw [List.flatten_cons, List.append_assoc, scanner.cut_item hs,
        ih fun frame hm => hf frame (by simp [hm])]
      rfl

theorem cut_take_frames {frames : List (List UInt8)} (hf : ∀ frame ∈ frames, IsDataFrame frame)
    (count : Nat) :
    scanner.cut (frames.flatten.take count) =
      ((completed frames count).map frameItem, leftover frames count) := by
  induction frames generalizing count with
  | nil => simpa [completed, leftover] using cut_nil
  | cons frame rest ih =>
      have hframe := hf frame (by simp)
      simp only [completed, leftover, List.flatten_cons, List.take_append]
      split
      · rename_i hcount
        rw [show count - frame.length = 0 by omega, List.take_zero, List.append_nil]
        exact scanner.cut_wait (hframe.scan_take hcount)
      · rw [List.take_of_length_le (by omega), scanner.cut_item (hframe.scan_append _),
          ih fun frame hm => hf frame (by simp [hm])]
        rfl

theorem handle_frameItem {frame : List UInt8} (hf : IsDataFrame frame) (link : Link) :
    ∃ next rsp, handle link (frameItem frame) = (next, [.send rsp, .onRxData (payload frame)]) ∧
      rsp.isAck = true ∧ rsp.isNack = false ∧ rsp.ackSeq = frameSeq frame := by
  simp only [frameItem, handle, onRxPacket, hf.isAck, hf.isNack, hf.packetType, sendAck, reply,
    frameSeq]
  exact ⟨_, _, rfl, rfl, rfl, rfl⟩

theorem delivered_handleAll {frames : List (List UInt8)}
    (hf : ∀ frame ∈ frames, IsDataFrame frame) (link : Link) :
    Delivered frames (handleAll link (frames.map frameItem)).2 := by
  induction frames generalizing link with
  | nil => exact ⟨rfl, rfl⟩
  | cons frame rest ih =>
      obtain ⟨next, rsp, hh, hack, hnack, hseq⟩ := handle_frameItem (hf frame (by simp)) link
      obtain ⟨hd, ha⟩ := ih (fun frame hm => hf frame (by simp [hm])) next
      simp only [List.map_cons, handleAll, hh, Delivered, dispatched_append, acked_append, hd, ha]
      simp [acked, NcpHeader.ack?, hack, hnack, hseq]

-- The receiver has handled the complete frames and holds the incomplete one.
def Exact (frames past : List (List UInt8)) : Prop :=
  let items := (completed frames past.flatten.length).map frameItem
  onRx initInt past =
    ({ rxBuffer := leftover frames past.flatten.length
       link := (handleAll initInt.link items).1 },
      (handleAll initInt.link items).2)

theorem Exact.concat {frames past : List (List UInt8)} {chunk : List UInt8}
    (hf : ∀ frame ∈ frames, IsDataFrame frame)
    (hpre : (past ++ [chunk]).flatten <+: frames.flatten) (h : Exact frames past)
    (hfits : (leftover frames past.flatten.length).length + chunk.length ≤ RX_BUFFER_SIZE) :
    Exact frames (past ++ [chunk]) := by
  have hnext := cut_take_frames hf (past ++ [chunk]).flatten.length
  have hpast : frames.flatten.take past.flatten.length = past.flatten :=
    List.prefix_iff_eq_take.mp ((by simp : past.flatten <+: (past ++ [chunk]).flatten).trans
      hpre) |>.symm
  have hsplit : (past ++ [chunk]).flatten =
      (completed frames past.flatten.length).flatten ++
        (leftover frames past.flatten.length ++ chunk) := by
    rw [← List.append_assoc, ← take_flatten, hpast]
    simp
  have hsub : ∀ frame ∈ completed frames past.flatten.length, IsDataFrame frame :=
    fun frame hm => hf frame (mem_of_mem_completed hm)
  rw [← List.prefix_iff_eq_take.mp hpre, hsplit, cut_append_frames hsub, ← hsplit] at hnext
  obtain ⟨hitems, htail⟩ := Prod.mk.inj hnext
  unfold Exact at h ⊢
  rw [onRx_append, h]
  simp only [onRx, onRxInt_eq, appendRx_fits hfits, ← hitems, htail, handleAll_append,
    List.append_nil]

-- As long as no call overflows, the receiver is exact.
theorem exact_of_fits {frames past : List (List UInt8)} (hf : ∀ frame ∈ frames, IsDataFrame frame)
    (hpre : past.flatten <+: frames.flatten)
    (hfits : NeverFull frames past) : Exact frames past := by
  induction past using List.reverseRecOn with
  | nil =>
      have hzero := cut_take_frames hf 0
      rw [List.take_zero, cut_nil] at hzero
      obtain ⟨hitems, htail⟩ := Prod.mk.inj hzero
      simp only [Exact, List.flatten_nil, List.length_nil, ← hitems, ← htail]
      rfl
  | append_singleton past chunk ih =>
      obtain ⟨hbefore, hlast⟩ := neverFull_concat.mp hfits
      have hpast : past.flatten <+: (past ++ [chunk]).flatten := by simp
      exact Exact.concat hf hpre (ih (hpast.trans hpre) hbefore) hlast

-- What the dispatched payloads took on the wire at the least.
def wireSize (payloads : List (List UInt8)) : Nat :=
  (payloads.map fun data => data.length + 9).sum

theorem wireSize_append (first second : List (List UInt8)) :
    wireSize (first ++ second) = wireSize first + wireSize second := by
  simp [wireSize]

theorem wireSize_payload {frames : List (List UInt8)} (hf : ∀ frame ∈ frames, IsDataFrame frame) :
    wireSize (frames.map payload) = frames.flatten.length := by
  induction frames with
  | nil => rfl
  | cons frame rest ih =>
      have hlen := (hf frame (by simp)).length_ge
      have hrest := ih fun frame hm => hf frame (by simp [hm])
      simp only [wireSize, List.map_cons, List.sum_cons, payload, List.length_drop,
        List.flatten_cons, List.length_append] at hrest ⊢
      omega

theorem wireSize_handle (link : Link) (it : Item) :
    wireSize (dispatched (handle link it).2) ≤ it.size := by
  cases it with
  | skip => simp [handle, wireSize]
  | empty hdr => by_cases hack : hdr.isAck <;> simp [handle, onRxPacket, hack, wireSize]
  | badData hdr => simp [handle, sendNack, reply, wireSize]
  | packet hdr data =>
      simp only [handle, onRxPacket, sendAck, sendNack, reply]
      split_ifs <;> simp [wireSize, Item.size]

theorem wireSize_handleAll (link : Link) (items : List Item) :
    wireSize (dispatched (handleAll link items).2) ≤ (items.map Item.size).sum := by
  induction items generalizing link with
  | nil => simp [handleAll, wireSize]
  | cons it rest ih =>
      have hfirst := wireSize_handle link it
      have hrest := ih (handle link it).1
      simp only [handleAll, dispatched_append, wireSize_append, List.map_cons, List.sum_cons]
      omega

-- A call never gets more out of the buffer than is in it.
theorem wireSize_onRxInt (s : State) (data : List UInt8) :
    wireSize (dispatched (onRxInt s data).2) + (onRxInt s data).1.rxBuffer.length ≤
      (appendRx s.rxBuffer data).length := by
  have hcut := scanner.sum_size_cut Item.size scan_wait_length scan_item_size
    (appendRx s.rxBuffer data)
  have hsize := wireSize_handleAll s.link (scanner.cut (appendRx s.rxBuffer data)).1
  rw [onRxInt_eq]
  dsimp only
  omega

theorem wireSize_onRx (s : State) {chunks : List (List UInt8)}
    (hc : ∀ chunk ∈ chunks, chunk.length ≤ RX_BUFFER_SIZE) :
    wireSize (dispatched (onRx s chunks).2) ≤ s.rxBuffer.length + chunks.flatten.length := by
  induction chunks generalizing s with
  | nil => simp [onRx, wireSize]
  | cons chunk rest ih =>
      have hstep := wireSize_onRxInt s chunk
      have hrest := ih (onRxInt s chunk).1 fun chunk hm => hc chunk (by simp [hm])
      rw [length_appendRx (hc chunk (by simp))] at hstep
      simp only [onRx, dispatched_append, wireSize_append, List.flatten_cons, List.length_append]
      omega

-- Bytes that give way are missing in the end, so some frame is not delivered.
theorem fits_of_delivered {frames past rest : List (List UInt8)} {chunk : List UInt8}
    (hf : ∀ frame ∈ frames, IsDataFrame frame)
    (hc : ∀ piece ∈ past ++ chunk :: rest, piece.length ≤ RX_BUFFER_SIZE)
    (hcut : (past ++ chunk :: rest).flatten = frames.flatten) (hexact : Exact frames past)
    (h : Delivered frames (onRx initInt (past ++ chunk :: rest)).2) :
    (leftover frames past.flatten.length).length + chunk.length ≤ RX_BUFFER_SIZE := by
  have hpast : past.flatten <+: frames.flatten := by simp [← hcut]
  have htake := congrArg List.length (take_flatten frames past.flatten.length)
  rw [← List.prefix_iff_eq_take.mp hpast, List.length_append] at htake
  have hdone : wireSize (dispatched (onRx initInt past).2) =
      (completed frames past.flatten.length).flatten.length := by
    have hsub : ∀ frame ∈ completed frames past.flatten.length, IsDataFrame frame :=
      fun frame hm => hf frame (mem_of_mem_completed hm)
    rw [hexact, (delivered_handleAll hsub _).1, wireSize_payload hsub]
  have hstate : (onRx initInt past).1.rxBuffer = leftover frames past.flatten.length := by
    rw [hexact]
  have hstep := wireSize_onRxInt (onRx initInt past).1 chunk
  have hrest : ∀ piece ∈ rest, piece.length ≤ RX_BUFFER_SIZE :=
    fun piece hm => hc piece (by simp [hm])
  have hlater := wireSize_onRx (onRxInt (onRx initInt past).1 chunk).1 hrest
  have hall := congrArg wireSize h.1
  rw [wireSize_payload hf, ← hcut, onRx_append, onRx] at hall
  rw [length_appendRx (hc chunk (by simp)), hstate] at hstep
  simp only [dispatched_append, wireSize_append, List.flatten_append, List.flatten_cons,
    List.length_append] at hall
  omega

theorem neverFull_of_delivered {frames chunks : List (List UInt8)}
    (hf : ∀ frame ∈ frames, IsDataFrame frame)
    (hc : ∀ chunk ∈ chunks, chunk.length ≤ RX_BUFFER_SIZE)
    (hcut : chunks.flatten = frames.flatten) (h : Delivered frames (onRx initInt chunks).2) :
    NeverFull frames chunks := by
  have hpre : ∀ past, past <+: chunks → NeverFull frames past := by
    intro past
    induction past using List.reverseRecOn with
    | nil => exact fun _ before chunk hb => by simp at hb
    | append_singleton past chunk ih =>
        rintro ⟨rest, rfl⟩
        have hpast := ih (by simp)
        simp only [List.append_assoc, List.singleton_append] at hc hcut h
        have hexact := exact_of_fits hf (by simp [← hcut]) hpast
        exact neverFull_concat.mpr ⟨hpast, fits_of_delivered hf hc hcut hexact h⟩
  exact hpre chunks (List.prefix_refl _)

theorem delivered_of_neverFull {frames chunks : List (List UInt8)}
    (hf : ∀ frame ∈ frames, IsDataFrame frame) (hcut : chunks.flatten = frames.flatten)
    (h : NeverFull frames chunks) : Delivered frames (onRx initInt chunks).2 := by
  have hexact := exact_of_fits hf (by simp [hcut]) h
  have hdone := completed_flatten frames
  rw [← hcut] at hdone
  rw [hexact, hdone]
  exact delivered_handleAll hf _

-- Every frame arrives, in order and acknowledged, exactly when no chunk makes
-- the buffered part of a frame overflow.
theorem delivered_iff_neverFull {frames chunks : List (List UInt8)}
    (hf : ∀ frame ∈ frames, IsDataFrame frame)
    (hc : ∀ chunk ∈ chunks, chunk.length ≤ RX_BUFFER_SIZE)
    (hcut : chunks.flatten = frames.flatten) :
    Delivered frames (onRx initInt chunks).2 ↔ NeverFull frames chunks :=
  ⟨neverFull_of_delivered hf hc hcut, delivered_of_neverFull hf hcut⟩

-- A frame of the host that carries `size` zero bytes.
def zeroFrame (size : Nat) : List UInt8 :=
  encodeFrame
    { packetLen := 0, packetType := ZBOSS_NCP_API_HL, isAck := false, isNack := false
      packetSeq := 1, ackSeq := 0, firstFragment := true, lastFragment := true, headerCrc := 0 }
    (List.replicate size 0)

theorem isDataFrame_zeroFrame {size : Nat} (h : size + 7 < 65536) :
    IsDataFrame (zeroFrame size) :=
  isDataFrame_encodeFrame _ _ rfl rfl rfl (by simpa using h)

theorem length_zeroFrame (size : Nat) : (zeroFrame size).length = size + 9 := by
  simp [zeroFrame]

theorem delivered_iff_neverFull_split :
    Delivered [zeroFrame 20] (onRx initInt [(zeroFrame 20).take 11, (zeroFrame 20).drop 11]).2 :=
  (delivered_iff_neverFull (by simp [isDataFrame_zeroFrame])
    (by simp [length_zeroFrame, RX_BUFFER_SIZE]) (by simp)).mpr (by
      intro past chunk hpre
      have hsub : (past ++ [chunk]).flatten.length ≤ 29 := by
        obtain ⟨rest, hrest⟩ := hpre
        have hlen := congrArg (fun chunks => chunks.flatten.length) hrest
        simp [length_zeroFrame] at hlen ⊢
        omega
      have htake := congrArg List.length (take_flatten [zeroFrame 20] past.flatten.length)
      simp [length_zeroFrame] at htake hsub
      simp only [List.length_flatten, RX_BUFFER_SIZE]
      omega)

-- Two frames of 600 bytes in flight, read as 500 and then 700 bytes: the
-- second read pushes the start of the first frame out of the buffer.
theorem not_delivered_of_read_ahead :
    let frames := [zeroFrame 591, zeroFrame 591]
    let chunks := [frames.flatten.take 500, frames.flatten.drop 500]
    (∀ frame ∈ frames, IsDataFrame frame ∧ frame.length ≤ RX_BUFFER_SIZE) ∧
      (∀ chunk ∈ chunks, 1 ≤ chunk.length ∧ chunk.length ≤ RX_BUFFER_SIZE) ∧
      chunks.flatten = frames.flatten ∧ ¬Delivered frames (onRx initInt chunks).2 := by
  intro frames chunks
  have hframes : ∀ frame ∈ frames, IsDataFrame frame := by
    simp [frames, isDataFrame_zeroFrame]
  have hchunks : ∀ chunk ∈ chunks, 1 ≤ chunk.length ∧ chunk.length ≤ RX_BUFFER_SIZE := by
    simp [frames, chunks, length_zeroFrame, RX_BUFFER_SIZE]
  have hcut : chunks.flatten = frames.flatten := by simp [chunks]
  refine ⟨fun frame hm => ⟨hframes frame hm, ?_⟩, hchunks, hcut, fun h => ?_⟩
  · simp only [frames, List.mem_cons, List.not_mem_nil, or_false, or_self] at hm
    simp [hm, length_zeroFrame, RX_BUFFER_SIZE]
  · have hfits := neverFull_of_delivered hframes (fun chunk hm => (hchunks chunk hm).2) hcut h
      [frames.flatten.take 500] (frames.flatten.drop 500) (by simp [chunks])
    simp [frames, leftover, length_zeroFrame, RX_BUFFER_SIZE] at hfits

end EspCoordinator.Protocol
