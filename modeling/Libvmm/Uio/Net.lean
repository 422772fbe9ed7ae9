import Libvmm.Virtq

/-! src/tools/linux/uio_drivers/net/main.c | main's event loop, RX branch | scheme:driver loop

    On a socket event the Linux UIO net driver takes buffers from the sDDF RX free queue while
    there are any and reads one frame from its non-blocking raw socket for each; the frame stays
    in a local array and nothing goes on the RX active queue, and a `recvfrom` with no frame
    waiting makes it `exit(1)`. The queue library and the socket are not in the repository: the
    queues are FIFO lists and the socket is the list of waiting frames. So no buffer and no frame
    ever reaches the client (`uio_net_rx_loses_buffers`). -/

namespace Libvmm.Uio

/-- `net_buff_desc_t`: a buffer's offset in the data region and its length. -/
structure NetBuffDesc where
  ioOrOffset : UInt64
  len : UInt16
  deriving DecidableEq, Repr

/-- `ETH_FRAME_LEN`. -/
def ethFrameLen : Nat := 1514

/-- What the RX branch reads and writes: the sDDF RX free and active queues, the frames
    waiting on the raw socket, and `vmm_info_passing->rx_paddr`. -/
structure UioNet where
  rxFree : List NetBuffDesc
  rxActive : List NetBuffDesc
  waiting : List (List UInt8)
  rxPaddr : UInt64

/-- `recvfrom(sock_fd, frame, ETH_FRAME_LEN, 0, NULL, NULL)` on the non-blocking raw socket:
    the first waiting frame, cut at `ETH_FRAME_LEN`, with its length; `-1` when none waits. -/
def recvfrom (waiting : List (List UInt8)) : Int × List UInt8 × List (List UInt8) :=
  match waiting with
  | [] => (-1, [], [])
  | frame :: rest => (min frame.length ethFrameLen, frame.take ethFrameLen, rest)

/-- The loop `while (!net_queue_empty_free(&rx_queue))` of the RX branch over the free queue;
    `none` for the `exit(1)` after a failed `recvfrom`. -/
def rxFreeLoop (rxPaddr : UInt64) :
    List NetBuffDesc → List (List UInt8) → Option (List (List UInt8))
  | [], waiting => some waiting
  | buffer :: free, waiting =>
    let _offset := buffer.ioOrOffset - rxPaddr
    let (numBytes, _frame, waiting) := recvfrom waiting
    if numBytes < 0 then none else rxFreeLoop rxPaddr free waiting

/-- The RX branch of `main`'s event loop on a socket event; `none` when the driver exits. -/
def uioNetRxEvent (s : UioNet) : Option UioNet :=
  (rxFreeLoop s.rxPaddr s.rxFree s.waiting).map fun waiting =>
    { s with rxFree := [], waiting := waiting }

theorem rxFreeLoop_eq (rxPaddr : UInt64) :
    ∀ (free : List NetBuffDesc) (waiting : List (List UInt8)),
      rxFreeLoop rxPaddr free waiting =
        if free.length ≤ waiting.length then some (waiting.drop free.length) else none
  | [], waiting => by simp [rxFreeLoop]
  | _ :: _, [] => rfl
  | _ :: free, _ :: rest => by
    have hn (frame : List UInt8) : ¬min (frame.length : Int) ethFrameLen < 0 := by omega
    simp only [rxFreeLoop, recvfrom, hn, if_false, rxFreeLoop_eq rxPaddr free rest,
      List.length_cons, Nat.add_le_add_iff_right, List.drop_succ_cons]

/-- A socket event exits the driver when fewer frames wait than there are free buffers, and
    otherwise takes every free buffer and discards one waiting frame for each. -/
theorem uio_net_rx_loses_buffers (s : UioNet) :
    uioNetRxEvent s =
      if s.rxFree.length ≤ s.waiting.length then
        some { s with rxFree := [], waiting := s.waiting.drop s.rxFree.length }
      else none := by
  rw [uioNetRxEvent, rxFreeLoop_eq]
  split <;> rfl

end Libvmm.Uio
