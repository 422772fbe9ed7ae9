import Libvmm.Block.CmdStore
import Libvmm.Block.DataRegion
import Libvmm.Ring

/-! src/src/virtio/block.c | virtio_blk_mmio_queue_notify / virtio_blk_handle_resp | scheme:device

    The block device between the guest's virtqueue and the sDDF block rings. The source is a
    work in progress and the model follows it as written: the cases of the notify loop are
    comments, so a consumed command is neither sent nor failed (`queue_notify_drops_command`);
    a response drain answers each response in order and injects once (`handle_resp_batch`),
    but with an address for a head (`handle_resp_used_id_is_slot_address`) and the status
    written two hops after the head, or not at all for `VIRTIO_BLK_T_IN`
    (`handle_resp_status_misplaced`). -/

namespace Libvmm.Block

/-- `VIRTIO_BLK_T_IN`, `_T_OUT`, `_T_FLUSH`, `_S_OK`, `_S_IOERR`, with the VirtIO values. -/
def virtioBlkTIn : Nat := 0
def virtioBlkTOut : Nat := 1
def virtioBlkTFlush : Nat := 4
def virtioBlkSOk : UInt8 := 0
def virtioBlkSIoerr : UInt8 := 1

/-- Modelled from the spec: `sddf_blk_response_status_t`, of which only the error is tested. -/
inductive SddfBlkResponseStatus
  | ok
  | error
  deriving DecidableEq, Repr

/-- Modelled from the spec: one entry of the sDDF response ring. -/
structure SddfBlkResponse where
  status : SddfBlkResponseStatus
  addr : Nat
  count : Nat
  id : Nat
  deriving DecidableEq, Repr

/-- Modelled from the spec: one entry of the sDDF request ring. -/
structure SddfBlkRequest where
  code : Nat
  addr : Nat
  blockNumber : Nat
  count : Nat
  id : Nat
  deriving DecidableEq, Repr

/-- The block device: its virtqueue, guest RAM, the bookkeeping, the sDDF rings as FIFO lists,
    and the interrupt and notify counts. -/
structure VirtioBlk where
  vq : VirtqHandler
  mem : Mem
  cmdStore : CmdStore
  dataRegion : DataRegion
  reqRing : List SddfBlkRequest
  respRing : List SddfBlkResponse
  interruptStatus : Nat
  virqInjected : Nat
  sddfNotified : Nat

/-- `virtio_blk_init`'s bookkeeping, with `SDDF_BLK_NUM_DATA_BUFFERS` a parameter. -/
def virtioBlkInit (sddfBlkNumDataBuffers : Nat) (dev : VirtioBlk) (dataRegionAddr : Nat) :
    VirtioBlk :=
  { dev with
    cmdStore := virtioBlkCmdStoreInit dev.cmdStore sddfBlkNumDataBuffers
    dataRegion := dataRegionInit dev.dataRegion sddfBlkNumDataBuffers dataRegionAddr }

/-- `virtio_blk_mmio_reset`. -/
def virtioBlkMmioReset (dev : VirtioBlk) : VirtioBlk :=
  { dev with vq := { dev.vq with ready := false, lastIdx := 0 } }

/-- `virtio_blk_used_buffer(dev, desc)`: give `desc` back with length 0. -/
def virtioBlkUsedBuffer (dev : VirtioBlk) (desc : Nat) : VirtioBlk :=
  { dev with vq := { dev.vq with vring := dev.vq.vring.addUsed ⟨desc, 0⟩ } }

/-- `virtio_blk_used_buffer_virq_inject`; the injection always succeeds. -/
def virtioBlkUsedBufferVirqInject (dev : VirtioBlk) : VirtioBlk :=
  { dev with interruptStatus := 1, virqInjected := dev.virqInjected + 1 }

/-- The `type` field of `struct virtio_blk_outhdr` at `addr`, a little-endian `uint32_t`. -/
def readU32 (mem : Mem) (addr : Nat) : Nat :=
  (mem addr).toNat + 2 ^ 8 * (mem (addr + 1)).toNat + 2 ^ 16 * (mem (addr + 2)).toNat +
    2 ^ 24 * (mem (addr + 3)).toNat

/-! ### The guest notify -/

/-- The heads `for (; idx != avail->idx; idx++)` reads in `virtio_blk_mmio_queue_notify`. -/
def virtioBlkConsumedHeads (dev : VirtioBlk) : List Nat :=
  dev.vq.vring.availFrom dev.vq.lastIdx (availCount dev.vq.vring.availIdx dev.vq.lastIdx)

/-- `virtio_blk_mmio_queue_notify`: the cases of its loop are comments, so it moves `last_idx`
    to `avail->idx`, notifies the sDDF channel and returns 1. -/
def virtioBlkMmioQueueNotify (dev : VirtioBlk) : VirtioBlk × Nat :=
  ({ dev with
    vq := { dev.vq with lastIdx := dev.vq.vring.availIdx }
    sddfNotified := dev.sddfNotified + 1 }, 1)

theorem queueNotify_frame (dev : VirtioBlk) :
    (virtioBlkMmioQueueNotify dev).1.cmdStore = dev.cmdStore ∧
    (virtioBlkMmioQueueNotify dev).1.reqRing = dev.reqRing ∧
    (virtioBlkMmioQueueNotify dev).1.vq.vring = dev.vq.vring ∧
    (virtioBlkMmioQueueNotify dev).1.mem = dev.mem ∧
    (virtioBlkMmioQueueNotify dev).1.vq.lastIdx = dev.vq.vring.availIdx :=
  ⟨rfl, rfl, rfl, rfl, rfl⟩

/-! ### The failure path -/

/-- The loop of `virtio_blk_set_cmd_fail`; `none` when `fuel` runs out. -/
def chainLast (desc : Nat → VringDesc) : Nat → Nat → Option Nat
  | 0, _ => none
  | fuel + 1, i => if (desc i).hasNext then chainLast desc fuel (desc i).next else some i

/-- `virtio_blk_set_cmd_fail(dev, desc)`. -/
def virtioBlkSetCmdFail (fuel : Nat) (vr : Vring) (mem : Mem) (desc : Nat) : Option Mem :=
  (chainLast vr.desc fuel desc).map fun i => Function.update mem (vr.desc i).addr virtioBlkSIoerr

theorem chainLast_of_chain {desc : Nat → VringDesc} {i : Nat} {l : List Nat}
    (h : Chain desc i l) {fuel : Nat} (hf : l.length ≤ fuel) :
    chainLast desc fuel i = l.getLast? := by
  induction h generalizing fuel with
  | last hn =>
    obtain ⟨f, rfl⟩ : ∃ f, fuel = f + 1 := ⟨fuel - 1, by simp at hf; omega⟩
    simp [chainLast, hn]
  | cons hn hc ih =>
    obtain ⟨f, rfl⟩ : ∃ f, fuel = f + 1 := ⟨fuel - 1, by simp at hf; omega⟩
    obtain ⟨a, l', rfl⟩ := List.exists_cons_of_ne_nil hc.ne_nil
    simp only [chainLast, hn, if_true, List.getLast?_cons_cons]
    exact ih (by simpa using hf)

theorem setCmdFail_chain {vr : Vring} {head : Nat} {l : List Nat}
    (hw : WellFormed vr.num vr.desc head l) (mem : Mem) {fuel : Nat} (hf : l.length ≤ fuel) :
    ∃ last, l.getLast? = some last ∧
      virtioBlkSetCmdFail fuel vr mem head =
        some (Function.update mem (vr.desc last).addr virtioBlkSIoerr) := by
  obtain ⟨a, l', rfl⟩ := List.exists_cons_of_ne_nil hw.chain.ne_nil
  obtain ⟨last, hl⟩ := Option.isSome_iff_exists.1 (by simp [List.getLast?_isSome] :
    (a :: l').getLast?.isSome)
  exact ⟨last, hl, by simp [virtioBlkSetCmdFail, chainLast_of_chain hw.chain hf, hl]⟩

/-! ### The backend notify -/

/-- The `else` branch of `virtio_blk_handle_resp`. -/
def virtioBlkRespondOk (vr : Vring) (mem : Mem) (virtioDesc : Nat) : Mem :=
  let currVirtioDesc := (vr.desc virtioDesc).next
  let type := readU32 mem (vr.desc virtioDesc).addr
  if type = virtioBlkTIn then mem
  else if type = virtioBlkTOut then
    Function.update mem (vr.desc (vr.desc currVirtioDesc).next).addr virtioBlkSOk
  else if type = virtioBlkTFlush then
    Function.update mem (vr.desc (vr.desc currVirtioDesc).next).addr virtioBlkSOk
  else mem

/-- One iteration of the `virtio_blk_handle_resp` loop on the dequeued response `r`. -/
def virtioBlkHandleRespOne (sentCmdsAddr fuel : Nat) (dev : VirtioBlk) (r : SddfBlkResponse) :
    Option VirtioBlk :=
  let (virtioDesc, cs) := virtioBlkCmdStoreRetrieve sentCmdsAddr dev.cmdStore r.id
  let mem? := if r.status = .error then virtioBlkSetCmdFail fuel dev.vq.vring dev.mem virtioDesc
    else some (virtioBlkRespondOk dev.vq.vring dev.mem virtioDesc)
  mem?.map fun mem => virtioBlkUsedBuffer { dev with cmdStore := cs, mem := mem } virtioDesc

/-- `virtio_blk_handle_resp`; `sentCmdsAddr` is the link address of `cmd_store`. -/
def virtioBlkHandleResp (sentCmdsAddr fuel : Nat) (dev : VirtioBlk) : Option VirtioBlk :=
  (dev.respRing.foldlM (virtioBlkHandleRespOne sentCmdsAddr fuel) { dev with respRing := [] }).map
    virtioBlkUsedBufferVirqInject

/-- The used entry `virtio_blk_handle_resp` gives back for response `r`. -/
def respUsedElem (sentCmdsAddr : Nat) (r : SddfBlkResponse) : VringUsedElem :=
  ⟨(virtioBlkCmdStoreRetrieve sentCmdsAddr cmdStoreStatic r.id).1, 0⟩

theorem virtioBlkHandleRespOne_eq_some {a fuel : Nat} {dev dev' : VirtioBlk} {r : SddfBlkResponse}
    (h : virtioBlkHandleRespOne a fuel dev r = some dev') :
    ∃ mem, dev' = { dev with
      mem := mem
      cmdStore := dev.cmdStore.pushFree r.id
      vq := { dev.vq with vring := dev.vq.vring.addUsed (respUsedElem a r) } } := by
  simp only [virtioBlkHandleRespOne, Option.map_eq_some'] at h
  obtain ⟨mem, -, rfl⟩ := h
  exact ⟨mem, rfl⟩

theorem virtioBlkHandleRespOne_isSome {a fuel : Nat} {dev : VirtioBlk} {r : SddfBlkResponse}
    (hw : r.status = .error →
      (chainLast dev.vq.vring.desc fuel ((a + 2 * r.id) % 2 ^ 16)).isSome) :
    (virtioBlkHandleRespOne a fuel dev r).isSome := by
  unfold virtioBlkHandleRespOne virtioBlkCmdStoreRetrieve virtioBlkSetCmdFail
  by_cases he : r.status = .error
  · simpa [he] using hw he
  · simp [he]

theorem handleRespFold_eq_some {a fuel : Nat} {rs : List SddfBlkResponse} {dev dev' : VirtioBlk}
    (h : rs.foldlM (virtioBlkHandleRespOne a fuel) dev = some dev') :
    ∃ mem, dev' = { dev with
      mem := mem
      cmdStore := (rs.map SddfBlkResponse.id).foldl CmdStore.pushFree dev.cmdStore
      vq := { dev.vq with vring := dev.vq.vring.addUsedList (rs.map (respUsedElem a)) } } := by
  induction rs generalizing dev with
  | nil => cases h; exact ⟨_, rfl⟩
  | cons r rs ih =>
    simp only [List.foldlM_cons, Option.bind_eq_bind, Option.bind_eq_some] at h
    obtain ⟨d, hd, hrest⟩ := h
    obtain ⟨_, rfl⟩ := virtioBlkHandleRespOne_eq_some hd
    obtain ⟨mem, rfl⟩ := ih hrest
    exact ⟨mem, rfl⟩

theorem handleRespFold_isSome {a fuel : Nat} {rs : List SddfBlkResponse} {dev : VirtioBlk}
    (hw : ∀ r ∈ rs, r.status = .error →
      (chainLast dev.vq.vring.desc fuel ((a + 2 * r.id) % 2 ^ 16)).isSome) :
    (rs.foldlM (virtioBlkHandleRespOne a fuel) dev).isSome := by
  induction rs generalizing dev with
  | nil => rfl
  | cons r rs ih =>
    obtain ⟨d, hd⟩ := Option.isSome_iff_exists.1
      (virtioBlkHandleRespOne_isSome (hw r (List.mem_cons_self _ _)))
    obtain ⟨mem, rfl⟩ := virtioBlkHandleRespOne_eq_some hd
    simpa [hd] using ih fun r' hr' => by simpa using hw r' (List.mem_cons_of_mem _ hr')

theorem virtioBlkHandleResp_eq_some {a fuel : Nat} {dev dev' : VirtioBlk}
    (h : virtioBlkHandleResp a fuel dev = some dev') :
    ∃ mem, dev' = { dev with
      mem := mem
      cmdStore := (dev.respRing.map SddfBlkResponse.id).foldl CmdStore.pushFree dev.cmdStore
      vq := { dev.vq with vring := dev.vq.vring.addUsedList (dev.respRing.map (respUsedElem a)) }
      respRing := []
      interruptStatus := 1
      virqInjected := dev.virqInjected + 1 } := by
  obtain ⟨d, hd, rfl⟩ := Option.map_eq_some'.1 h
  obtain ⟨mem, rfl⟩ := handleRespFold_eq_some hd
  exact ⟨mem, rfl⟩

/-- BATCH: `virtio_blk_handle_resp` returns when every error's status walk has fuel, fills the
    used slots with the responses in dequeue order, retrieves every id, empties the ring and
    injects once. -/
theorem handle_resp_batch (a fuel : Nat) (dev : VirtioBlk) (hdvd : dev.vq.vring.num ∣ 2 ^ 16)
    (hlen : dev.respRing.length ≤ dev.vq.vring.num)
    (hw : ∀ r ∈ dev.respRing, r.status = .error →
      (chainLast dev.vq.vring.desc fuel ((a + 2 * r.id) % 2 ^ 16)).isSome) :
    ∃ dev', virtioBlkHandleResp a fuel dev = some dev' ∧
      dev'.vq.vring.usedFrom dev.vq.vring.usedIdx dev.respRing.length =
        dev.respRing.map (respUsedElem a) ∧
      dev'.vq.vring.usedIdx % 2 ^ 16 = (dev.vq.vring.usedIdx + dev.respRing.length) % 2 ^ 16 ∧
      dev'.cmdStore = (dev.respRing.map SddfBlkResponse.id).foldl CmdStore.pushFree dev.cmdStore ∧
      (∀ N A, Reachable N dev.cmdStore A → (dev.respRing.map SddfBlkResponse.id).Nodup →
        (∀ r ∈ dev.respRing, r.id ∈ A) →
        Reachable N dev'.cmdStore ((dev.respRing.map SddfBlkResponse.id).foldl List.erase A)) ∧
      dev'.respRing = [] ∧ dev'.interruptStatus = 1 ∧
      dev'.virqInjected = dev.virqInjected + 1 := by
  obtain ⟨d, hd⟩ := Option.isSome_iff_exists.1
    (@handleRespFold_isSome a fuel dev.respRing { dev with respRing := [] } hw)
  have h : virtioBlkHandleResp a fuel dev = some (virtioBlkUsedBufferVirqInject d) := by
    simp [virtioBlkHandleResp, hd]
  refine ⟨_, h, ?_⟩
  obtain ⟨mem, hdev⟩ := virtioBlkHandleResp_eq_some h
  rw [hdev]
  have hes : (dev.respRing.map (respUsedElem a)).length = dev.respRing.length := List.length_map _ _
  refine ⟨?_, hes ▸ Vring.addUsedList_usedIdx _ _, rfl, fun N A hr hnd hA => ?_, rfl, rfl,
    rfl⟩
  · rw [← hes]; exact Vring.usedFrom_addUsedList hdvd (hes ▸ hlen)
  · exact hr.retrieveAll hnd (by simpa using hA)

/-! ### The source at fixed inputs -/

/-- After `virtio_blk_init` with four buffers, one `VIRTIO_BLK_T_IN` chain `[0, 1, 2]` published. -/
def blkOneRead : VirtioBlk where
  vq := ⟨true, 0,
    { num := 4
      desc := fun i => if i = 0 then ⟨0x1000, 16, 1, 1⟩ else if i = 1 then ⟨0x2000, 512, 3, 2⟩
        else ⟨0x3000, 1, 2, 0⟩
      availIdx := 1
      availRing := fun _ => 0
      usedIdx := 0
      usedRing := fun _ => ⟨0, 0⟩ }⟩
  mem := fun _ => 0
  cmdStore := virtioBlkCmdStoreInit cmdStoreStatic 4
  dataRegion := dataRegionInit dataRegionStatic 4 0x100000
  reqRing := []
  respRing := []
  interruptStatus := 0
  virqInjected := 0
  sddfNotified := 0

/-- DEFECT: the notify consumes the published read, yet the command is neither recorded in
    `cmd_store`, nor sent, nor answered. -/
theorem queue_notify_drops_command :
    readU32 blkOneRead.mem (blkOneRead.vq.vring.desc 0).addr = virtioBlkTIn ∧
    virtioBlkConsumedHeads blkOneRead = [0] ∧
    (virtioBlkMmioQueueNotify blkOneRead).1.vq.lastIdx = 1 ∧
    (virtioBlkMmioQueueNotify blkOneRead).1.cmdStore.numFree = 4 ∧
    (virtioBlkMmioQueueNotify blkOneRead).1.reqRing = [] ∧
    (virtioBlkMmioQueueNotify blkOneRead).1.vq.vring.usedIdx = 0 := by
  decide

/-- The read of `blkOneRead` recorded under id 0, its status byte `0xff`, a success queued. -/
def blkReadAnswered : VirtioBlk :=
  { blkOneRead with
    cmdStore := ((virtioBlkCmdStoreAllocate blkOneRead.cmdStore 0).map Prod.snd).getD cmdStoreStatic
    mem := fun a => if a = 0x3000 then 0xff else 0
    respRing := [⟨.ok, 0x100000, 1, 0⟩] }

/-- A second command under id 1, and a success for id 1 queued before an error for id 0. -/
def blkTwoAnswered : VirtioBlk :=
  { blkReadAnswered with
    cmdStore := ((virtioBlkCmdStoreAllocate blkReadAnswered.cmdStore 1).map Prod.snd).getD
      cmdStoreStatic
    respRing := [⟨.ok, 0x100400, 1, 1⟩, ⟨.error, 0x100000, 1, 0⟩] }

/-- The two responses fill used slots 0 and 1 in dequeue order, and ids 1 and 0 go back to the
    free list in that order. -/
theorem handle_resp_batch_out_of_order :
    blkTwoAnswered.vq.vring.num ∣ 2 ^ 16 ∧
    blkTwoAnswered.respRing.length ≤ blkTwoAnswered.vq.vring.num ∧
    (∀ r ∈ blkTwoAnswered.respRing, r.status = .error →
      (chainLast blkTwoAnswered.vq.vring.desc 3 ((0x10000 + 2 * r.id) % 2 ^ 16)).isSome) ∧
    ∃ dev', virtioBlkHandleResp 0x10000 3 blkTwoAnswered = some dev' ∧
      dev'.vq.vring.usedFrom 0 2 = [⟨2, 0⟩, ⟨0, 0⟩] ∧ dev'.vq.vring.usedIdx % 2 ^ 16 = 2 ∧
      dev'.cmdStore.freeList = [2, 3, 1, 0] ∧ Reachable 4 dev'.cmdStore [] ∧
      dev'.respRing = [] ∧ dev'.interruptStatus = 1 ∧ dev'.virqInjected = 1 := by
  have h4 : blkTwoAnswered.vq.vring.num ∣ 2 ^ 16 := by decide
  have hl : blkTwoAnswered.respRing.length ≤ blkTwoAnswered.vq.vring.num := by decide
  have hw : ∀ r ∈ blkTwoAnswered.respRing, r.status = .error →
      (chainLast blkTwoAnswered.vq.vring.desc 3 ((0x10000 + 2 * r.id) % 2 ^ 16)).isSome := by
    decide
  have hA : Reachable 4 blkTwoAnswered.cmdStore [1, 0] :=
    @Reachable.allocate 4 _ _ _ 1 _ (@Reachable.allocate 4 _ _ _ 0 _ (.init cmdStoreStatic) rfl) rfl
  obtain ⟨d, hd, hu, hi, hcs, hr, hring, hint, hv⟩ :=
    handle_resp_batch 0x10000 3 blkTwoAnswered h4 hl hw
  exact ⟨h4, hl, hw, d, hd, hu.trans (by decide), hi.trans (by decide), by rw [hcs]; decide,
    hr 4 [1, 0] hA (by decide) (by decide), hring, hint, hv⟩

/-- A `VIRTIO_BLK_T_FLUSH` chain `[0, 1]` whose status descriptor's unused `next` is 2. -/
def blkFlushAnswered : VirtioBlk :=
  { blkReadAnswered with
    vq := { blkOneRead.vq with vring := { blkOneRead.vq.vring with
      desc := fun i => if i = 0 then ⟨0x1000, 16, 1, 1⟩ else if i = 1 then ⟨0x3000, 1, 2, 2⟩
        else ⟨0x4000, 1, 2, 0⟩ } }
    mem := fun a => if a = 0x1000 then 4 else if a = 0x3000 ∨ a = 0x4000 then 0xff else 0 }

/-- DEFECT: on the well-formed read chain the success path leaves the status byte at `0xff`;
    on the flush chain `[0, 1]` it writes `VIRTIO_BLK_S_OK` to descriptor 2, outside the chain. -/
theorem handle_resp_status_misplaced :
    WellFormed 4 blkReadAnswered.vq.vring.desc 0 [0, 1, 2] ∧
    (virtioBlkCmdStoreAllocate blkOneRead.cmdStore 0).map Prod.fst = some 0 ∧
    (virtioBlkHandleResp 0x10000 0 blkReadAnswered).map
        (fun d => (d.mem 0x3000, d.vq.vring.usedRing 0, d.virqInjected)) =
      some (0xff, ⟨0, 0⟩, 1) ∧
    WellFormed 4 blkFlushAnswered.vq.vring.desc 0 [0, 1] ∧
    (virtioBlkHandleResp 0x10000 0 blkFlushAnswered).map (fun d => (d.mem 0x3000, d.mem 0x4000)) =
      some (0xff, virtioBlkSOk) ∧
    virtioBlkSOk ≠ 0xff :=
  ⟨⟨.cons rfl (.cons rfl (.last rfl)), by decide, by decide⟩, by decide, by decide,
    ⟨.cons rfl (.last rfl), by decide, by decide⟩, by decide, by decide⟩

/-- DEFECT: wherever `cmd_store` is linked, the used entry for id 0 carries the low bits of
    `&cmd_store.sent_cmds[0]`, not the descriptor recorded there. -/
theorem handle_resp_used_id_is_slot_address (a : Nat) :
    (virtioBlkCmdStoreAllocate blkOneRead.cmdStore ((a + 1) % 2 ^ 16)).map Prod.fst = some 0 ∧
    (virtioBlkHandleResp a 0
        { blkOneRead with
          cmdStore := ((virtioBlkCmdStoreAllocate blkOneRead.cmdStore ((a + 1) % 2 ^ 16)).map
            Prod.snd).getD cmdStoreStatic
          respRing := [⟨.ok, 0, 0, 0⟩] }).map (fun d => (d.vq.vring.usedRing 0).id) =
      some (a % 2 ^ 16) ∧
    a % 2 ^ 16 ≠ (a + 1) % 2 ^ 16 := by
  refine ⟨rfl, ?_, by omega⟩
  simp [virtioBlkHandleResp, virtioBlkHandleRespOne, virtioBlkCmdStoreRetrieve,
    virtioBlkUsedBuffer, virtioBlkUsedBufferVirqInject, Vring.addUsed, blkOneRead]

end Libvmm.Block
