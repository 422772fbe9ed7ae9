import Libvmm.Block.Device

/-! src/src/virtio/block.c | virtio_blk_mmio_queue_notify over a run | scheme:protocol

    `BlkRun` is every interleaving of the guest publishing heads and restarting `avail->idx`
    after a reset with the device's resets, notifies and response drains, and records the heads
    published (`pub`) and read (`taken`) since the last reset. Each step is a step of `AvailRun`
    (`BlkRun.availRun`), so each notify reads exactly the heads published and not yet read, in
    order (`blk_notify_fifo`). -/

namespace Libvmm.Block

/-- The guest publishes `head` on the block queue. -/
def blkGuestPublish (dev : VirtioBlk) (head : Nat) : VirtioBlk :=
  { dev with vq := dev.vq.guestPublish head }

/-- The guest restarts the block queue's `avail->idx` at 0 after a reset. -/
def blkGuestRestart (dev : VirtioBlk) : VirtioBlk := { dev with vq := dev.vq.guestRestart }

/-- Runs of the block queue of `num` entries from a reset. -/
inductive BlkRun (num : Nat) : VirtioBlk → List Nat → List Nat → Prop
  | reset (dev : VirtioBlk) : dev.vq.vring.num = num →
      BlkRun num (blkGuestRestart (virtioBlkMmioReset dev)) [] []
  | publish {dev : VirtioBlk} {pub taken : List Nat} (head : Nat) : BlkRun num dev pub taken →
      pub.length < taken.length + num →
      BlkRun num (blkGuestPublish dev head) (pub ++ [head]) taken
  | notify {dev : VirtioBlk} {pub taken : List Nat} : BlkRun num dev pub taken →
      BlkRun num (virtioBlkMmioQueueNotify dev).1 pub (taken ++ virtioBlkConsumedHeads dev)
  | resp {dev dev' : VirtioBlk} {pub taken : List Nat} (sentCmdsAddr fuel : Nat) :
      BlkRun num dev pub taken → virtioBlkHandleResp sentCmdsAddr fuel dev = some dev' →
      BlkRun num dev' pub taken

theorem virtioBlkHandleResp_vq {a fuel : Nat} {dev dev' : VirtioBlk}
    (h : virtioBlkHandleResp a fuel dev = some dev') :
    dev.vq.KeepsAvail dev'.vq ∧ dev'.vq.lastIdx = dev.vq.lastIdx := by
  obtain ⟨mem, rfl⟩ := virtioBlkHandleResp_eq_some h
  exact ⟨⟨by simp, by simp, by simp⟩, rfl⟩

/-- REFINEMENT: the queue of every block run follows the avail-ring protocol. -/
theorem BlkRun.availRun {num : Nat} {dev : VirtioBlk} {pub taken : List Nat}
    (h : BlkRun num dev pub taken) : AvailRun num dev.vq pub taken := by
  induction h with
  | reset dev hn => exact .start hn rfl rfl
  | publish head _ hlt ih => exact .publish head ih hlt
  | notify _ ih => exact .consume ih ⟨rfl, rfl, rfl⟩ rfl
  | resp _ _ _ hr ih => exact .idle ih (virtioBlkHandleResp_vq hr).1 (virtioBlkHandleResp_vq hr).2

/-- FIFO: in every block run the heads the notifies have read, then those the next notify
    reads, are the heads published since the last reset, in order, counted mod `2^16` by
    `last_idx` and `avail->idx`. -/
theorem blk_notify_fifo {num : Nat} (hdvd : num ∣ 2 ^ 15) {dev : VirtioBlk} {pub taken : List Nat}
    (h : BlkRun num dev pub taken) :
    taken ++ virtioBlkConsumedHeads dev = pub ∧ dev.vq.lastIdx = taken.length % 2 ^ 16 ∧
      dev.vq.vring.availIdx = pub.length % 2 ^ 16 :=
  h.availRun.fifo hdvd

/-- A run from a reset of `blkOneRead`: heads 0 and 2 are published and read by a notify,
    then 1 and 3 are published, and the next notify reads them in that order. -/
theorem blk_notify_fifo_second_notify :
    4 ∣ 2 ^ 15 ∧ ∃ dev, BlkRun 4 dev [0, 2, 1, 3] [0, 2] ∧ virtioBlkConsumedHeads dev = [1, 3] ∧
      [0, 2] ++ virtioBlkConsumedHeads dev = [0, 2, 1, 3] ∧
      dev.vq.lastIdx = [0, 2].length % 2 ^ 16 ∧
      dev.vq.vring.availIdx = [0, 2, 1, 3].length % 2 ^ 16 := by
  have h0 := ((BlkRun.reset blkOneRead rfl).publish 0 (by decide)).publish 2 (by decide)
  have h1 := (h0.notify.publish 1 (by decide)).publish 3 (by decide)
  exact ⟨by decide, _, h1, by decide, blk_notify_fifo (by decide) h1⟩

end Libvmm.Block
