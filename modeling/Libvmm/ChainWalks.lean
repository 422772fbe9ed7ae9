import Libvmm.Block.Device
import Libvmm.Net.Rx

/-! src/src/virtio | virtio_blk_set_cmd_fail, the TX gather, the RX scatter | scheme:termination

    Three loops walk a guest descriptor chain, and none counts its hops or compares an index
    with `num`: a one-entry table that points to itself keeps all three going forever
    (`walks_diverge_on_self_loop`). On a well-formed chain the status search stops at the last
    entry within `num` hops and reads nothing else of the table (`setCmdFail_walk_bounded`). -/

namespace Libvmm

/-- A table whose every entry is a zero-length buffer with `VRING_DESC_F_NEXT` set and `next`
    0: entry 0 points to itself. -/
def selfLoopDesc : Nat → VringDesc := fun _ => ⟨0x1000, 0, vringDescFNext, 0⟩

theorem chainLast_self_loop {desc : Nat → VringDesc} {i : Nat} (hn : (desc i).hasNext)
    (hi : (desc i).next = i) : ∀ fuel, Block.chainLast desc fuel i = none
  | 0 => rfl
  | fuel + 1 => by simp only [Block.chainLast, hn, hi, if_true]; exact chainLast_self_loop hn hi fuel

/-- On the self-loop table, from head 0, none of the three walks ever stops: the status
    search, the TX gather, and the RX scatter of a 60-byte frame each run out of any fuel. -/
theorem walks_diverge_on_self_loop :
    (∀ fuel, Block.chainLast selfLoopDesc fuel 0 = none) ∧
    (∀ fuel, Net.txGather selfLoopDesc (fun _ => 0) fuel 0 0 0 (fun _ => 0) = none) ∧
    (∀ fuel, Net.rxScatter selfLoopDesc (fun _ => 0) 60 fuel 0 0 0 false (fun _ => 0) = none) :=
  ⟨@chainLast_self_loop selfLoopDesc 0 rfl rfl,
    fun fuel => @Net.txGather_self_loop selfLoopDesc 0 rfl rfl _ fuel _ _ _,
    fun fuel => @Net.rxScatter_self_loop selfLoopDesc 0 rfl rfl rfl _ _ fuel _⟩

/-- On a well-formed chain `l`, of at most `num` entries below `num`, the status search of
    `virtio_blk_set_cmd_fail` stops at the last entry once it has fuel for `l`, on every table
    that agrees with this one on `l`. -/
theorem setCmdFail_walk_bounded {num head : Nat} {desc : Nat → VringDesc} {l : List Nat}
    (hw : WellFormed num desc head l) :
    l.length ≤ num ∧ (∀ i ∈ l, i < num) ∧
    ∀ desc' : Nat → VringDesc, (∀ i ∈ l, desc' i = desc i) →
      ∀ fuel, l.length ≤ fuel → Block.chainLast desc' fuel head = l.getLast? :=
  ⟨hw.length_le, hw.lt_num, fun _ he _ hf => Block.chainLast_of_chain (hw.chain.congr he) hf⟩

/-- The bound at the read chain `[0, 1, 2]` of `blkOneRead`. -/
theorem setCmdFail_walk_bounded_blkOneRead :
    WellFormed 4 Block.blkOneRead.vq.vring.desc 0 [0, 1, 2] ∧
    [0, 1, 2].length ≤ 4 ∧ (∀ i ∈ [0, 1, 2], i < 4) ∧
    ∀ desc' : Nat → VringDesc, (∀ i ∈ [0, 1, 2], desc' i = Block.blkOneRead.vq.vring.desc i) →
      ∀ fuel, [0, 1, 2].length ≤ fuel → Block.chainLast desc' fuel 0 = [0, 1, 2].getLast? :=
  have hw : WellFormed 4 Block.blkOneRead.vq.vring.desc 0 [0, 1, 2] :=
    ⟨.cons rfl (.cons rfl (.last rfl)), by decide, by decide⟩
  ⟨hw, setCmdFail_walk_bounded hw⟩

end Libvmm
