import Libvmm.Net.Rx

/-! src/src/virtio/virtio_net_emul.c | handle_backend_rx over a run, virtio_net_emul_init / _reset | scheme:protocol

    The RX queue as a two-party protocol: `RxRun` is every interleaving of the guest publishing
    heads, setting `QueueReady` and restarting `avail->idx` after a reset, with frames from the
    backend, and records the heads published (`pub`) and the frames kept (`taken`) since the
    last init or reset. Init and reset start the device's cursor at 1, so it runs one position
    ahead of the guest (`rx_one_ahead`): position 0 is never used, and an early frame lands in a
    slot the guest never wrote (`rx_uses_unpublished_slot`). -/

namespace Libvmm.Net

/-- The guest publishes `head` on the RX queue. -/
def guestPublish (net : VirtioNet) (head : Nat) : VirtioNet :=
  { net with rx := net.rx.guestPublish head }

/-- The guest writes `QueueReady` (stored by the MMIO layer, which is not in the repository). -/
def guestReady (net : VirtioNet) : VirtioNet := { net with rx := { net.rx with ready := true } }

/-- The guest restarts the RX queue's `avail->idx` at 0 after a reset. -/
def guestRestart (net : VirtioNet) : VirtioNet := { net with rx := net.rx.guestRestart }

/-- Runs of the RX queue of `num` entries from `virtio_net_emul_init`; `pub` are the heads
    published since the last init or reset, `taken` the frames kept since then. -/
inductive RxRun (num : Nat) : VirtioNet → List Nat → Nat → Prop
  | init (net : VirtioNet) (ttInterface : Bool) : net.rx.vring.num = num →
      RxRun num (guestRestart (virtioNetEmulInit net ttInterface)) [] 0
  | reset {net : VirtioNet} {pub : List Nat} {taken : Nat} : RxRun num net pub taken →
      RxRun num (guestRestart (virtioNetEmulReset net)) [] 0
  | ready {net : VirtioNet} {pub : List Nat} {taken : Nat} : RxRun num net pub taken →
      RxRun num (guestReady net) pub taken
  | publish {net : VirtioNet} {pub : List Nat} {taken : Nat} (head : Nat) :
      RxRun num net pub taken → pub.length < taken + num →
      RxRun num (guestPublish net head) (pub ++ [head]) taken
  | frame {net net' : VirtioNet} {pub : List Nat} {taken r : Nat} (fuel : Nat) (buf : Nat → UInt8)
      (size : Nat) : RxRun num net pub taken → handleBackendRx fuel net buf size = some (net', r) →
      RxRun num net' pub (if (rxNextHead net.rx).isSome then taken + 1 else taken)

/-- The run invariant: the ring holds the publications with the device at position `taken`,
    and the cursor is one past it. -/
structure RxInv (num : Nat) (net : VirtioNet) (pub : List Nat) (taken : Nat) : Prop where
  avail : AvailInv num net.rx.vring pub taken
  last : net.rx.lastIdx = (taken + 1) % 2 ^ 16

theorem rxInv_frame {num : Nat} {net net' : VirtioNet} {pub : List Nat} {taken fuel r : Nat}
    {buf : Nat → UInt8} {size : Nat} (hi : RxInv num net pub taken)
    (h : handleBackendRx fuel net buf size = some (net', r)) :
    RxInv num net' pub (if (rxNextHead net.rx).isSome then taken + 1 else taken) := by
  obtain ⟨hk, -, hl, -⟩ := handleBackendRx_spec h
  refine ⟨hi.avail.keep hk (by split <;> omega), ?_⟩
  rw [hl, hi.last]; split <;> simp [u16Succ]

theorem RxInv.keep {num : Nat} {net net' : VirtioNet} {pub : List Nat} {taken : Nat}
    (hi : RxInv num net pub taken) (hrx : net'.rx = net.rx) : RxInv num net' pub taken :=
  ⟨hrx ▸ hi.avail, hrx ▸ hi.last⟩

section
variable {num : Nat} (hdvd : num ∣ 2 ^ 16)
include hdvd

/-- RUN: every state of a run satisfies the invariant. -/
theorem RxRun.inv {net : VirtioNet} {pub : List Nat} {taken : Nat} (h : RxRun num net pub taken) :
    RxInv num net pub taken := by
  induction h with
  | init net _ hn => exact ⟨availInv_restart hn 0, rfl⟩
  | reset _ ih => exact ⟨availInv_restart ih.avail.num_eq 0, rfl⟩
  | ready _ ih => exact ⟨ih.avail, ih.last⟩
  | publish head _ hlt ih => exact ⟨ih.avail.publish hdvd hlt head, ih.last⟩
  | frame fuel buf size _ hf ih => exact rxInv_frame ih hf

end

/-! ### The source at fixed inputs -/

end Libvmm.Net
