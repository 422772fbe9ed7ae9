import Libvmm.Virtq

/-! src/src/virtio/virtio_net_emul.c | virtio_net_emul_init / _reset / _handle_queue_notify_tx | scheme:gather

    A TX notify walks each new chain, drops the first `sizeof(struct virtio_net_hdr_mrg_rxbuf)`
    bytes (counting `skipped` across descriptors), gathers the rest into `temp_buf` up to
    `BUF_SIZE`, hands it to the transport layer's `tx` and gives the head back. The gather's
    do-while tests the flags of the descriptor it has just moved to, so it stops before a
    chain's last descriptor (`tx_drops_last_descriptor`, `tx_notify_never_returns`). Every
    iteration it runs is in bounds on every table (`TxGatherCall.gatherAt`,
    `tx_gather_in_bounds`), never writes `temp_buf` past `BUF_SIZE` (`txGather_frame`), and
    appends exactly its buffer's bytes past the header (`TxGathered.step`). -/

namespace Libvmm.Net

/-- `BUF_SIZE`, the capacity of `temp_buf`. -/
def bufSize : Nat := 0x1000

/-- `sizeof(struct virtio_net_hdr_mrg_rxbuf)`. -/
def virtioNetHdrSize : Nat := 12

/-- The state of `virtio_net_emul.c`: both queues, guest RAM, `temp_buf`, whether
    `tt_interface` is set, the frames given to its `tx`, `InterruptStatus` and the injections. -/
structure VirtioNet where
  rx : VirtqHandler
  tx : VirtqHandler
  mem : Mem
  tempBuf : Nat → UInt8
  ttInterface : Bool
  sent : List (List UInt8)
  interruptStatus : Nat
  virqInjected : Nat

/-- `virtio_net_emul_reset`. -/
def virtioNetEmulReset (net : VirtioNet) : VirtioNet :=
  { net with
    rx := { net.rx with ready := false, lastIdx := 1 }
    tx := { net.tx with ready := false, lastIdx := 0 } }

/-- `virtio_net_emul_init`; `ttInterface` is whether `get_virtio_net_tt_interface()`, not in
    the tree, returned an interface. -/
def virtioNetEmulInit (net : VirtioNet) (ttInterface : Bool) : VirtioNet :=
  { net with rx := { net.rx with lastIdx := 1 }, ttInterface := ttInterface }

/-- `virtio_net_emul_tx_complete(desc_head)`; the injection always succeeds. -/
def virtioNetEmulTxComplete (net : VirtioNet) (descHead : Nat) : VirtioNet :=
  { net with
    interruptStatus := 1
    tx := { net.tx with vring := net.tx.vring.addUsed ⟨descHead, 0⟩ }
    virqInjected := net.virqInjected + 1 }

/-! ### TX -/

/-- The gather do-while of `virtio_net_emul_handle_queue_notify_tx`; `none` when `fuel` runs
    out. -/
def txGather (desc : Nat → VringDesc) (mem : Mem) :
    (fuel curr written skipped : Nat) → (Nat → UInt8) → Option ((Nat → UInt8) × Nat)
  | 0, _, _, _, _ => none
  | fuel + 1, curr, written, skipped, tempBuf =>
    let d := desc curr
    let skipping := if skipped < virtioNetHdrSize then min (virtioNetHdrSize - skipped) d.len else 0
    let skipped := skipped + skipping
    let writing := min (bufSize - written) (d.len - skipping)
    let tempBuf := memcpy tempBuf written mem (d.addr + skipping) writing
    let written := written + writing
    if (desc d.next).hasNext then txGather desc mem fuel d.next written skipped tempBuf
    else some (tempBuf, written)

/-- The `for` loop over the new heads; `false` when it stops at `tt_interface == NULL`. -/
def txLoop (fuel : Nat) : List Nat → VirtioNet → Option (VirtioNet × Bool)
  | [], net => some (net, true)
  | descHead :: heads, net =>
    (txGather net.tx.vring.desc net.mem fuel descHead 0 0 net.tempBuf).bind fun (tempBuf, written) =>
      if net.ttInterface then
        txLoop fuel heads (virtioNetEmulTxComplete
          { net with tempBuf := tempBuf, sent := net.sent ++ [bytesAt tempBuf 0 written] } descHead)
      else some ({ net with tempBuf := tempBuf }, false)

/-- `virtio_net_emul_handle_queue_notify_tx`. -/
def virtioNetEmulHandleQueueNotifyTx (fuel : Nat) (net : VirtioNet) : Option (VirtioNet × Nat) :=
  let guestIdx := net.tx.vring.availIdx
  let heads := net.tx.vring.availFrom net.tx.lastIdx (availCount guestIdx net.tx.lastIdx)
  (txLoop fuel heads net).map fun (net', done) =>
    if done then ({ net' with tx := { net'.tx with lastIdx := guestIdx } }, 1) else (net', 0)

/-- Modelled from the VirtIO specification: the frame a TX chain `l` carries, its buffers
    without the header, cut at `BUF_SIZE`. -/
def txPayloadSpec (desc : Nat → VringDesc) (mem : Mem) (l : List Nat) : List UInt8 :=
  (((l.map fun i => bytesAt mem (desc i).addr (desc i).len).flatten).drop virtioNetHdrSize).take
    bufSize

theorem txGather_self_loop {desc : Nat → VringDesc} {i : Nat} (hn : (desc i).hasNext)
    (hi : (desc i).next = i) (mem : Mem) :
    ∀ fuel written skipped tempBuf, txGather desc mem fuel i written skipped tempBuf = none
  | 0, _, _, _ => rfl
  | fuel + 1, written, skipped, tempBuf => by
    simp only [txGather, hi, hn, if_true]
    exact txGather_self_loop hn hi mem fuel _ _ _

/-! ### Bounds of one gather iteration -/

/-- `skipping` of the iteration that reads descriptor `d` with `skipped` header bytes behind. -/
def txSkipping (d : VringDesc) (skipped : Nat) : Nat :=
  if skipped < virtioNetHdrSize then min (virtioNetHdrSize - skipped) d.len else 0

/-- `writing` of that iteration, with `written` bytes already in `temp_buf`. -/
def txWriting (d : VringDesc) (written skipped : Nat) : Nat :=
  min (bufSize - written) (d.len - txSkipping d skipped)

theorem txGather_succ (desc : Nat → VringDesc) (mem : Mem) (fuel curr written skipped : Nat)
    (tempBuf : Nat → UInt8) :
    txGather desc mem (fuel + 1) curr written skipped tempBuf =
      let d := desc curr
      let tempBuf := memcpy tempBuf written mem (d.addr + txSkipping d skipped)
        (txWriting d written skipped)
      if (desc d.next).hasNext then
        txGather desc mem fuel d.next (written + txWriting d written skipped)
          (skipped + txSkipping d skipped) tempBuf
      else some (tempBuf, written + txWriting d written skipped) := rfl

/-- The `(curr_desc_head, written, skipped)` with which the gather from `head` starts an
    iteration. -/
inductive TxGatherAt (desc : Nat → VringDesc) (head : Nat) : Nat → Nat → Nat → Prop
  | start : TxGatherAt desc head head 0 0
  | next {curr written skipped : Nat} : TxGatherAt desc head curr written skipped →
      (desc (desc curr).next).hasNext →
      TxGatherAt desc head (desc curr).next (written + txWriting (desc curr) written skipped)
        (skipped + txSkipping (desc curr) skipped)

/-- The arithmetic of one iteration that reads `d`: no subtraction wraps, the copy stays inside
    `temp_buf` and the buffer, and `skipped` within the header. -/
structure TxIterBounds (d : VringDesc) (written skipped : Nat) : Prop where
  written_le : written ≤ bufSize
  skipping_le : txSkipping d skipped ≤ d.len
  write_fits : written + txWriting d written skipped ≤ bufSize
  read_fits : txSkipping d skipped + txWriting d written skipped ≤ d.len
  skipped_le : skipped + txSkipping d skipped ≤ virtioNetHdrSize

theorem txIterBounds_of {d : VringDesc} {written skipped : Nat} (hw : written ≤ bufSize)
    (hs : skipped ≤ virtioNetHdrSize) : TxIterBounds d written skipped := by
  refine ⟨hw, ?_, ?_, ?_, ?_⟩ <;> simp only [txWriting, txSkipping] <;> split_ifs <;> omega

theorem TxGatherAt.bounds {desc : Nat → VringDesc} {head curr written skipped : Nat}
    (h : TxGatherAt desc head curr written skipped) :
    written ≤ bufSize ∧ skipped ≤ virtioNetHdrSize := by
  induction h with
  | start => decide
  | @next curr _ _ _ _ ih =>
    have hb := @txIterBounds_of (desc curr) _ _ ih.1 ih.2
    exact ⟨hb.write_fits, hb.skipped_le⟩

/-- Every iteration of the TX gather, on every descriptor table, is within its bounds. -/
theorem tx_gather_in_bounds {desc : Nat → VringDesc} {head curr written skipped : Nat}
    (h : TxGatherAt desc head curr written skipped) : TxIterBounds (desc curr) written skipped :=
  txIterBounds_of h.bounds.1 h.bounds.2

/-- The arguments of the calls `txGather desc mem fuel₀ head 0 0 tempBuf₀` makes, itself first:
    each is an iteration the gather from `head` runs. -/
inductive TxGatherCall (desc : Nat → VringDesc) (mem : Mem) (fuel₀ head : Nat)
    (tempBuf₀ : Nat → UInt8) : Nat → Nat → Nat → Nat → (Nat → UInt8) → Prop
  | start : TxGatherCall desc mem fuel₀ head tempBuf₀ fuel₀ head 0 0 tempBuf₀
  | next {fuel curr written skipped : Nat} {tempBuf : Nat → UInt8} :
      TxGatherCall desc mem fuel₀ head tempBuf₀ (fuel + 1) curr written skipped tempBuf →
      (desc (desc curr).next).hasNext →
      TxGatherCall desc mem fuel₀ head tempBuf₀ fuel (desc curr).next
        (written + txWriting (desc curr) written skipped) (skipped + txSkipping (desc curr) skipped)
        (memcpy tempBuf written mem ((desc curr).addr + txSkipping (desc curr) skipped)
          (txWriting (desc curr) written skipped))

section GatherCall

variable {desc : Nat → VringDesc} {mem : Mem} {fuel₀ head : Nat} {tempBuf₀ : Nat → UInt8}
  {fuel curr written skipped : Nat} {tempBuf : Nat → UInt8}

/-- The gather from `head` is the gather from each of its calls. -/
theorem TxGatherCall.txGather_eq
    (h : TxGatherCall desc mem fuel₀ head tempBuf₀ fuel curr written skipped tempBuf) :
    txGather desc mem fuel₀ head 0 0 tempBuf₀ = txGather desc mem fuel curr written skipped tempBuf := by
  induction h with
  | start => rfl
  | next _ hn ih => rw [ih, txGather_succ]; exact if_pos hn

/-- Every iteration the gather from `head` runs is a `TxGatherAt` state. -/
theorem TxGatherCall.gatherAt
    (h : TxGatherCall desc mem fuel₀ head tempBuf₀ fuel curr written skipped tempBuf) :
    TxGatherAt desc head curr written skipped := by
  induction h with
  | start => exact .start
  | next _ hn ih => exact ih.next hn

end GatherCall

/-- An 8-byte entry with `VRING_DESC_F_NEXT` pointing to itself. -/
def txSelfLoopDesc : Nat → VringDesc := fun _ => ⟨0x1000, 8, vringDescFNext, 0⟩

/-- The second iteration of the gather from that entry, 8 header bytes behind. -/
theorem tx_gather_in_bounds_second :
    TxGatherAt txSelfLoopDesc 0 0 0 8 ∧ TxIterBounds (txSelfLoopDesc 0) 0 8 :=
  have h : TxGatherAt txSelfLoopDesc 0 0 0 8 :=
    (@TxGatherCall.next txSelfLoopDesc (fun _ => 0) 2 0 (fun _ => 0) 1 _ _ _ _ .start
      (by decide)).gatherAt
  ⟨h, tx_gather_in_bounds h⟩

/-- The gather from an iteration state writes no byte of `temp_buf` at or past `BUF_SIZE` and
    returns a length of at most `BUF_SIZE`. -/
theorem txGather_frame {desc : Nat → VringDesc} {mem : Mem} {head : Nat} {fuel curr written skipped : Nat}
    {tempBuf tempBuf' : Nat → UInt8} {n : Nat} (h : TxGatherAt desc head curr written skipped)
    (hg : txGather desc mem fuel curr written skipped tempBuf = some (tempBuf', n)) :
    n ≤ bufSize ∧ ∀ a, bufSize ≤ a → tempBuf' a = tempBuf a := by
  induction fuel generalizing curr written skipped tempBuf with
  | zero => cases hg
  | succ fuel ih =>
    have hb := @txIterBounds_of (desc curr) _ _ h.bounds.1 h.bounds.2
    have hcopy : ∀ a, bufSize ≤ a → memcpy tempBuf written mem ((desc curr).addr +
        txSkipping (desc curr) skipped) (txWriting (desc curr) written skipped) a = tempBuf a :=
      fun a ha => if_neg (by have := hb.write_fits; omega)
    rw [txGather_succ] at hg
    dsimp only at hg
    split at hg
    · rename_i hn
      obtain ⟨hn', hf⟩ := ih (h.next hn) hg
      exact ⟨hn', fun a ha => (hf a ha).trans (hcopy a ha)⟩
    · cases hg
      exact ⟨hb.write_fits, hcopy⟩

/-! ### What the gather collects -/

/-- The buffers of the descriptors `l`, in order, concatenated. -/
def chainBytes (desc : Nat → VringDesc) (mem : Mem) (l : List Nat) : List UInt8 :=
  (l.map fun i => bytesAt mem (desc i).addr (desc i).len).flatten

theorem chainBytes_append_singleton (desc : Nat → VringDesc) (mem : Mem) (l : List Nat)
    (i : Nat) : chainBytes desc mem (l ++ [i]) =
      chainBytes desc mem l ++ bytesAt mem (desc i).addr (desc i).len := by
  simp [chainBytes]

/-- The gather after reading the buffers `ds`: the header bytes skipped, and the payload so far
    in the first `written` bytes of `temp_buf`. -/
structure TxGathered (desc : Nat → VringDesc) (mem : Mem) (ds : List Nat)
    (written skipped : Nat) (tempBuf : Nat → UInt8) : Prop where
  skipped_eq : skipped = min virtioNetHdrSize (chainBytes desc mem ds).length
  bytes_eq : bytesAt tempBuf 0 written =
    ((chainBytes desc mem ds).drop virtioNetHdrSize).take bufSize

theorem TxGathered.nil (desc : Nat → VringDesc) (mem : Mem) (tempBuf : Nat → UInt8) :
    TxGathered desc mem [] 0 0 tempBuf := ⟨rfl, rfl⟩

theorem TxGathered.written_eq {desc : Nat → VringDesc} {mem : Mem} {ds : List Nat}
    {written skipped : Nat} {tempBuf : Nat → UInt8}
    (h : TxGathered desc mem ds written skipped tempBuf) :
    written = min ((chainBytes desc mem ds).length - virtioNetHdrSize) bufSize := by
  simpa [Nat.min_comm] using congrArg List.length h.bytes_eq

theorem TxGathered.step {desc : Nat → VringDesc} {mem : Mem} {ds : List Nat}
    {written skipped : Nat} {tempBuf : Nat → UInt8}
    (h : TxGathered desc mem ds written skipped tempBuf) (i : Nat) :
    TxGathered desc mem (ds ++ [i]) (written + txWriting (desc i) written skipped)
      (skipped + txSkipping (desc i) skipped)
      (memcpy tempBuf written mem ((desc i).addr + txSkipping (desc i) skipped)
        (txWriting (desc i) written skipped)) := by
  have hw := h.written_eq
  have hs := h.skipped_eq
  have hb := h.bytes_eq
  have hk : txSkipping (desc i) skipped =
      min (virtioNetHdrSize - (chainBytes desc mem ds).length) (desc i).len := by
    rw [hs, txSkipping]; split_ifs <;> omega
  refine ⟨?_, ?_⟩ <;> rw [chainBytes_append_singleton] <;>
    generalize chainBytes desc mem ds = F at hw hs hb hk ⊢
  · rw [List.length_append, bytesAt_length, hk]; omega
  · -- the bytes before `written` stay; the new ones are the buffer's after the skipped ones
    have hlow : bytesAt (memcpy tempBuf written mem ((desc i).addr + txSkipping (desc i) skipped)
        (txWriting (desc i) written skipped)) 0 written = bytesAt tempBuf 0 written :=
      bytesAt_congr fun j _ hj => if_neg fun h' => by omega
    rw [bytesAt_add, Nat.zero_add, bytesAt_memcpy, hlow, hb, List.drop_append_eq_append_drop,
      List.take_append_eq_append_take, bytesAt_drop, bytesAt_take, txWriting, hk, List.length_drop,
      show bufSize - written = bufSize - (F.length - virtioNetHdrSize) by omega,
      show (desc i).len - min (virtioNetHdrSize - F.length) (desc i).len =
        (desc i).len - (virtioNetHdrSize - F.length) by omega]
    exact congrArg _ (bytesAt_eq_of_count rfl (by omega))

/-! ### The source at fixed inputs -/

/-- A TX chain `[0, 1]` published at slot 0: the header in 0, the payload `1 2 3 4` in 1. -/
def netTxTwoDesc : VirtioNet where
  rx := ⟨false, 1, ⟨1, fun _ => ⟨0, 0, 0, 0⟩, 0, fun _ => 0, 0, fun _ => ⟨0, 0⟩⟩⟩
  tx := ⟨true, 0, ⟨2, fun i => if i = 0 then ⟨0x1000, 12, 1, 1⟩ else ⟨0x2000, 4, 0, 0⟩, 1,
    fun _ => 0, 0, fun _ => ⟨0, 0⟩⟩⟩
  mem := fun a => if 0x2000 ≤ a ∧ a < 0x2004 then (a - 0x1fff).toUInt8 else 0
  tempBuf := fun _ => 0
  ttInterface := true
  sent := []
  interruptStatus := 0
  virqInjected := 0

/-- DEFECT: the gather stops on reaching descriptor 1 of the chain `[0, 1]`, before copying
    it, and `tx` gets the empty frame instead of `1 2 3 4`. -/
theorem tx_drops_last_descriptor :
    WellFormed 2 netTxTwoDesc.tx.vring.desc 0 [0, 1] ∧
    txPayloadSpec netTxTwoDesc.tx.vring.desc netTxTwoDesc.mem [0, 1] = [1, 2, 3, 4] ∧
    (virtioNetEmulHandleQueueNotifyTx 2 netTxTwoDesc).map (fun r => r.1.sent) = some [[]] :=
  ⟨⟨.cons rfl (.last rfl), by decide, by decide⟩, by decide, by decide⟩

/-- The gather on `netTxTwoDesc` stays within `BUF_SIZE`. -/
theorem txGather_frame_twoDesc :
    ∃ r, txGather netTxTwoDesc.tx.vring.desc netTxTwoDesc.mem 2 0 0 0 netTxTwoDesc.tempBuf = some r ∧
      r.2 ≤ bufSize ∧ ∀ a, bufSize ≤ a → r.1 a = netTxTwoDesc.tempBuf a := by
  obtain ⟨r, hr⟩ : ∃ r, txGather netTxTwoDesc.tx.vring.desc netTxTwoDesc.mem 2 0 0 0
      netTxTwoDesc.tempBuf = some r := ⟨_, rfl⟩
  exact ⟨r, hr, txGather_frame .start hr⟩

/-- A one-entry TX table whose head has no `VRING_DESC_F_NEXT` but `next` 1; the RAM past the
    table, read as descriptor 1, has the flag and points to itself. -/
def netTxPastTable : VirtioNet :=
  { netTxTwoDesc with
    tx := ⟨true, 0, ⟨1, fun i => if i = 0 then ⟨0x1000, 64, 0, 1⟩ else ⟨0x2000, 64, 1, 1⟩, 1,
      fun _ => 0, 0, fun _ => ⟨0, 0⟩⟩⟩ }

/-- DEFECT: the TX notify for that published head never returns: from descriptor 0 the gather
    moves to `next` = 1 regardless of the flags and then loops there. -/
theorem tx_notify_never_returns :
    WellFormed 1 netTxPastTable.tx.vring.desc 0 [0] ∧
    ∀ fuel, virtioNetEmulHandleQueueNotifyTx fuel netTxPastTable = none := by
  refine ⟨⟨.last rfl, by decide, by decide⟩, fun fuel => ?_⟩
  cases fuel with
  | zero => rfl
  | succ fuel =>
    have h := @txGather_self_loop netTxPastTable.tx.vring.desc 1 rfl rfl netTxPastTable.mem fuel
    simp [virtioNetEmulHandleQueueNotifyTx, availCount, Vring.availFrom, txLoop, txGather,
      netTxPastTable, netTxTwoDesc, VringDesc.hasNext, vringDescFNext] at h ⊢
    simp [h]

end Libvmm.Net
