import Libvmm.Virtq

/-! src/tools/linux/uio_drivers/blk.c | driver_init / driver_notified | scheme:driver loop

    The Linux UIO block driver serves the sDDF block queues from a storage file. The queue
    library and the POSIX calls are not in the repository: the queues are FIFO lists, the
    response queue full at `BLK_RESP_QUEUE_SIZE` entries, and the storage file is an oracle
    `StorageIo` on an abstract world. Over every interleaving of the client with
    `driver_notified` (`UioBlkRun`) the responses answer the requests in order
    (`uio_blk_run_safe`); the seek offset wraps in 32 bits and nothing checks the block
    number (`driver_notified_wraps_block_numbers`). -/

namespace Libvmm.Uio

/-- `blk_request_code_t`; `unknown` is any other value, which the `switch` sends to
    `default`. -/
inductive BlkRequestCode
  | readBlocks
  | writeBlocks
  | flush
  | barrier
  | unknown (code : Nat)
  deriving DecidableEq, Repr

/-- The codes the `switch` of `driver_notified` has a case for. -/
def BlkRequestCode.handled : BlkRequestCode → Bool
  | .unknown _ => false
  | _ => true

/-- `blk_response_status_t`, the two values the driver uses. -/
inductive BlkResponseStatus
  | success
  | seekError
  deriving DecidableEq, Repr

/-- One request, as `blk_dequeue_req` returns it. -/
structure BlkRequest where
  code : BlkRequestCode
  addr : UInt64
  blockNumber : UInt32
  count : UInt16
  id : UInt32
  deriving DecidableEq, Repr

/-- One response, as `blk_enqueue_resp` takes it. -/
structure BlkResponse where
  status : BlkResponseStatus
  addr : UInt64
  count : UInt16
  successCount : UInt16
  id : UInt32
  deriving DecidableEq, Repr

/-- What a response carries over from its request. -/
def BlkRequest.key (req : BlkRequest) : UInt64 × UInt16 × UInt32 := (req.addr, req.count, req.id)

/-- What a response carries over from its request. -/
def BlkResponse.key (resp : BlkResponse) : UInt64 × UInt16 × UInt32 :=
  (resp.addr, resp.count, resp.id)

/-- `blk_storage_info_t`: the fields the driver writes. -/
structure BlkStorageInfo where
  ready : Bool
  size : Nat
  blocksize : UInt16
  readOnly : Bool
  deriving DecidableEq, Repr

/-- The storage file, modelled from POSIX as an oracle on an abstract world: `open` gives a
    descriptor or a negative error; `read` and `write` move up to `n` bytes between the file and
    the buffer at a virtual address and give the count moved or a negative error. -/
structure StorageIo (World : Type) where
  openFile : World → String → World × Int
  lseek : World → Int → Nat → World
  read : World → Int → UInt64 → Nat → World × Int
  write : World → Int → UInt64 → Nat → World × Int
  fsync : World → Int → World

/-- The driver's globals (`storage_fd`, `blk_config`, `blk_data`, `blk_data_phys`), the two
    queues and the count of `uio_notify` calls, over the world the file lives in. -/
structure UioBlk (World : Type) where
  world : World
  storageFd : Int
  blkConfig : BlkStorageInfo
  blkData : UInt64
  blkDataPhys : UInt64
  reqQueue : List BlkRequest
  respQueue : List BlkResponse
  uioNotified : Nat

/-- `STORAGE_MAX_PATHNAME`. -/
def storageMaxPathname : Nat := 64

variable {World : Type}

/-- `data_phys_to_virt(phys_addr)`, in `uintptr_t`. -/
def dataPhysToVirt (s : UioBlk World) (physAddr : UInt64) : UInt64 :=
  physAddr - s.blkDataPhys + s.blkData

/-- `driver_init(driver_id, maps, maps_phys, num_maps, argc, argv)`, with `blk_data` and
    `blk_data_phys` from `maps[3]` and `maps_phys[3]`; `snprintf` returns the byte length of the
    path it formats. -/
def driverInit (io : StorageIo World) (s : UioBlk World) (driverId numMaps : Int)
    (argv : List String) (blkData blkDataPhys : UInt64) : UioBlk World × Int :=
  if numMaps ≠ 4 then (s, -1)
  else if argv.length ≠ 1 then (s, -1)
  else
    let s := { s with
      blkData := blkData
      blkDataPhys := blkDataPhys
      blkConfig := { s.blkConfig with size := 1000, blocksize := 1024, readOnly := false } }
    let storagePath := argv.headD "" ++ "/storage_" ++ toString driverId
    if storageMaxPathname ≤ storagePath.utf8ByteSize then (s, -1)
    else
      let (w, fd) := io.openFile s.world storagePath
      let s := { s with world := w, storageFd := fd }
      if fd < 0 then (s, -1)
      else ({ s with blkConfig := { s.blkConfig with ready := true } }, 0)

/-- `req_block_number * blocksize`, the offset given to `lseek`: `blocksize` is promoted to
    `int` and the product taken in `unsigned int`. -/
def seekOffset (blockNumber : UInt32) (blocksize : UInt16) : Nat :=
  (blockNumber * blocksize.toUInt32).toNat

/-- `status` and `success_count` after a transfer that returned `bytes`. -/
def transferResult (blocksize : UInt16) (bytes : Int) : BlkResponseStatus × UInt16 :=
  if bytes < 0 then (.seekError, 0) else (.success, (bytes.toNat / blocksize.toNat).toUInt16)

/-- The `READ_BLOCKS` and `WRITE_BLOCKS` cases, with `transfer` the `read` or the `write`:
    `lseek` (its result ignored), then move `req_count * blocksize` bytes, an `int` product that
    holds for the `blocksize` of 1024 `driver_init` sets. -/
def blkTransfer (io : StorageIo World) (transfer : World → Int → UInt64 → Nat → World × Int)
    (s : UioBlk World) (blocksize : UInt16) (w : World) (req : BlkRequest) :
    World × BlkResponseStatus × UInt16 :=
  let w := io.lseek w s.storageFd (seekOffset req.blockNumber blocksize)
  let (w, bytes) := transfer w s.storageFd (dataPhysToVirt s req.addr)
    (req.count.toNat * blocksize.toNat)
  (w, transferResult blocksize bytes)

/-- The `switch` of one iteration of `driver_notified`: the world after the request with its
    `status` and `success_count`, or `none` for the `continue` of `default`. -/
def driverNotifiedRequest (io : StorageIo World) (s : UioBlk World) (blocksize : UInt16)
    (w : World) (req : BlkRequest) : Option (World × BlkResponseStatus × UInt16) :=
  match req.code with
  | .readBlocks => some (blkTransfer io io.read s blocksize w req)
  | .writeBlocks => some (blkTransfer io io.write s blocksize w req)
  | .flush => some (io.fsync w s.storageFd, .success, 0)
  | .barrier => some (io.fsync w s.storageFd, .success, 0)
  | .unknown _ => none

/-- The loop `while (!blk_req_queue_empty(&h))` over the requests, with the response queue
    full at `blkRespQueueSize` entries: a request met with a full response queue, or with an
    unknown code, is dropped. -/
def driverNotifiedLoop (io : StorageIo World) (blkRespQueueSize : Nat) (s : UioBlk World)
    (blocksize : UInt16) : List BlkRequest → World → List BlkResponse → World × List BlkResponse
  | [], w, resp => (w, resp)
  | req :: reqs, w, resp =>
    if blkRespQueueSize ≤ resp.length then
      driverNotifiedLoop io blkRespQueueSize s blocksize reqs w resp
    else
      match driverNotifiedRequest io s blocksize w req with
      | none => driverNotifiedLoop io blkRespQueueSize s blocksize reqs w resp
      | some (w, status, successCount) =>
        driverNotifiedLoop io blkRespQueueSize s blocksize reqs w
          (resp ++ [⟨status, req.addr, req.count, successCount, req.id⟩])

/-- `driver_notified()`: read `blocksize`, drain the request queue, then `uio_notify()`. -/
def driverNotified (io : StorageIo World) (blkRespQueueSize : Nat) (s : UioBlk World) :
    UioBlk World :=
  let (w, resp) := driverNotifiedLoop io blkRespQueueSize s s.blkConfig.blocksize s.reqQueue
    s.world s.respQueue
  { s with world := w, reqQueue := [], respQueue := resp, uioNotified := s.uioNotified + 1 }

/-! ### `driver_init` -/

theorem driverInit_ok {io : StorageIo World} {s₀ s : UioBlk World} {driverId numMaps : Int}
    {argv : List String} {blkData blkDataPhys : UInt64}
    (h : driverInit io s₀ driverId numMaps argv blkData blkDataPhys = (s, 0)) :
    s.blkConfig = ⟨true, 1000, 1024, false⟩ ∧ s.reqQueue = s₀.reqQueue ∧
      s.respQueue = s₀.respQueue := by
  unfold driverInit at h
  dsimp only at h
  split_ifs at h <;> obtain ⟨rfl, hret⟩ := Prod.mk.inj h
  -- the four early returns give `-1`
  iterate 4 exact absurd hret (by decide)
  exact ⟨rfl, rfl, rfl⟩

/-! ### One request -/

theorem driverNotifiedRequest_isSome (io : StorageIo World) (s : UioBlk World) (blocksize : UInt16)
    (w : World) (req : BlkRequest) :
    (driverNotifiedRequest io s blocksize w req).isSome = req.code.handled := by
  unfold driverNotifiedRequest
  cases req.code <;> rfl

theorem transferResult_le {blocksize : UInt16} {count : UInt16}
    {bytes : Int} (hb : bytes ≤ count.toNat * blocksize.toNat) :
    (transferResult blocksize bytes).2.toNat ≤ count.toNat := by
  unfold transferResult
  split_ifs
  · exact Nat.zero_le _
  · have hdiv : bytes.toNat / blocksize.toNat ≤ count.toNat :=
      Nat.div_le_of_le_mul (by rw [Nat.mul_comm]; omega)
    show (bytes.toNat / blocksize.toNat) % UInt16.size ≤ count.toNat
    rw [Nat.mod_eq_of_lt (lt_of_le_of_lt hdiv count.toNat_lt_size)]
    exact hdiv

theorem blkTransfer_successCount_le (io : StorageIo World)
    {transfer : World → Int → UInt64 → Nat → World × Int}
    (htransfer : ∀ w fd a n, (transfer w fd a n).2 ≤ n) (s : UioBlk World) (blocksize : UInt16)
    (w : World) (req : BlkRequest) :
    (blkTransfer io transfer s blocksize w req).2.2.toNat ≤ req.count.toNat :=
  transferResult_le (htransfer _ _ _ _)

section Oracle

variable {io : StorageIo World}
  (hread : ∀ w fd a n, (io.read w fd a n).2 ≤ n) (hwrite : ∀ w fd a n, (io.write w fd a n).2 ≤ n)
include hread hwrite

theorem driverNotifiedRequest_successCount_le {s : UioBlk World} {blocksize : UInt16}
    {w w' : World} {req : BlkRequest} {status : BlkResponseStatus}
    {successCount : UInt16}
    (h : driverNotifiedRequest io s blocksize w req = some (w', status, successCount)) :
    successCount.toNat ≤ req.count.toNat := by
  have hsc {r : World × BlkResponseStatus × UInt16} (hr : some r = some (w', status, successCount)) :
      r.2.2 = successCount := by cases hr; rfl
  unfold driverNotifiedRequest at h
  split at h
  · rw [← hsc h]; exact blkTransfer_successCount_le io hread s blocksize w req
  · rw [← hsc h]; exact blkTransfer_successCount_le io hwrite s blocksize w req
  · rw [← hsc h]; exact Nat.zero_le _
  · rw [← hsc h]; exact Nat.zero_le _
  · cases h

end Oracle

/-! ### One call -/

theorem driverNotifiedLoop_answers (io : StorageIo World) (blkRespQueueSize : Nat)
    (s : UioBlk World) (blocksize : UInt16) :
    ∀ (reqs : List BlkRequest) (w : World) (resp : List BlkResponse),
      ∃ rs, (driverNotifiedLoop io blkRespQueueSize s blocksize reqs w resp).2 = resp ++ rs ∧
        rs.map BlkResponse.key = ((reqs.filter (·.code.handled)).take
          (blkRespQueueSize - resp.length)).map BlkRequest.key
  | [], _, resp => ⟨[], (List.append_nil resp).symm, by simp⟩
  | req :: reqs, w, resp => by
    unfold driverNotifiedLoop
    split_ifs with hfull
    · -- full: every later request is dropped too
      obtain ⟨rs, hrs, hkeys⟩ := driverNotifiedLoop_answers io blkRespQueueSize s blocksize reqs w resp
      rw [Nat.sub_eq_zero_of_le hfull, List.take_zero, List.map_nil] at hkeys ⊢
      exact ⟨rs, hrs, hkeys⟩
    · have hreq := driverNotifiedRequest_isSome io s blocksize w req
      split
      · -- unknown code
        next hn =>
        rw [hn] at hreq
        obtain ⟨rs, hrs, hkeys⟩ := driverNotifiedLoop_answers io blkRespQueueSize s blocksize reqs w resp
        refine ⟨rs, hrs, ?_⟩
        rw [List.filter_cons_of_neg (by simpa using hreq.symm)]
        exact hkeys
      · -- answered
        next w' status successCount hs =>
        rw [hs] at hreq
        obtain ⟨rs, hrs, hkeys⟩ := driverNotifiedLoop_answers io blkRespQueueSize s blocksize reqs w'
          (resp ++ [⟨status, req.addr, req.count, successCount, req.id⟩])
        refine ⟨⟨status, req.addr, req.count, successCount, req.id⟩ :: rs, by simpa using hrs, ?_⟩
        rw [List.filter_cons_of_pos (by simpa using hreq.symm),
          show blkRespQueueSize - resp.length = (blkRespQueueSize - (resp.length + 1)) + 1 by omega,
          List.take_succ_cons, List.map_cons, List.map_cons]
        simp only [List.length_append, List.length_singleton] at hkeys
        exact congrArg₂ _ rfl hkeys

theorem driverNotifiedLoop_forall (io : StorageIo World) (blkRespQueueSize : Nat)
    (s : UioBlk World) (blocksize : UInt16) (P : BlkResponse → Prop)
    (hstep : ∀ w req w' status successCount,
      driverNotifiedRequest io s blocksize w req = some (w', status, successCount) →
        P ⟨status, req.addr, req.count, successCount, req.id⟩) :
    ∀ (reqs : List BlkRequest) (w : World) (resp : List BlkResponse), (∀ r ∈ resp, P r) →
      ∀ r ∈ (driverNotifiedLoop io blkRespQueueSize s blocksize reqs w resp).2, P r
  | [], _, _, hresp => hresp
  | req :: reqs, w, resp, hresp => by
    unfold driverNotifiedLoop
    split_ifs
    · exact driverNotifiedLoop_forall io blkRespQueueSize s blocksize P hstep reqs w resp hresp
    · split
      · exact driverNotifiedLoop_forall io blkRespQueueSize s blocksize P hstep reqs w resp hresp
      · next w' status successCount hs =>
        refine driverNotifiedLoop_forall io blkRespQueueSize s blocksize P hstep reqs w' _ ?_
        intro r hr
        rcases List.mem_append.1 hr with hr | hr
        · exact hresp r hr
        · rw [List.mem_singleton.1 hr]; exact hstep w req w' status successCount hs

/-- `driver_notified` empties the request queue, keeps the response queue's entries, and
    appends responses whose `addr`, `count` and `id` are those of the first requests with a
    known code that fit in the response queue, in order; every other request is dropped. -/
theorem driverNotified_answers (io : StorageIo World) (blkRespQueueSize : Nat) (s : UioBlk World) :
    (driverNotified io blkRespQueueSize s).reqQueue = [] ∧
      ∃ rs, (driverNotified io blkRespQueueSize s).respQueue = s.respQueue ++ rs ∧
        rs.map BlkResponse.key = ((s.reqQueue.filter (·.code.handled)).take
          (blkRespQueueSize - s.respQueue.length)).map BlkRequest.key :=
  ⟨rfl, driverNotifiedLoop_answers io blkRespQueueSize s _ _ _ _⟩

/-! ### Runs of the driver with its client -/

section Run

variable (io : StorageIo World) (blkRespQueueSize : Nat)

/-- The states after a successful `driver_init` with empty queues and any interleaving of the
    client enqueuing a request, the client dequeuing the oldest response, and
    `driver_notified`. `sent` is every request the client enqueued and `answered` every response
    the driver enqueued, in order. -/
inductive UioBlkRun : UioBlk World → List BlkRequest → List BlkResponse → Prop
  | init {s₀ s : UioBlk World} {driverId numMaps : Int} {argv : List String}
      {blkData blkDataPhys : UInt64} :
      driverInit io s₀ driverId numMaps argv blkData blkDataPhys = (s, 0) →
      s.reqQueue = [] → s.respQueue = [] → UioBlkRun s [] []
  | request {s : UioBlk World} {sent : List BlkRequest} {answered : List BlkResponse}
      (req : BlkRequest) :
      UioBlkRun s sent answered →
      UioBlkRun { s with reqQueue := s.reqQueue ++ [req] } (sent ++ [req]) answered
  | response {s : UioBlk World} {sent : List BlkRequest} {answered : List BlkResponse}
      {r : BlkResponse} {rs : List BlkResponse} :
      UioBlkRun s sent answered → s.respQueue = r :: rs →
      UioBlkRun { s with respQueue := rs } sent answered
  | notified {s : UioBlk World} {sent : List BlkRequest} {answered : List BlkResponse} :
      UioBlkRun s sent answered →
      UioBlkRun (driverNotified io blkRespQueueSize s) sent
        (answered ++ (driverNotified io blkRespQueueSize s).respQueue.drop s.respQueue.length)

/-- What every run keeps: the `blocksize` `driver_init` wrote; a response queue within its size
    holding the responses not yet dequeued; the requests not yet dequeued at the end of `sent`,
    the responses a sublist of the requests before them; and no response reporting more blocks
    than it was asked for. -/
structure UioBlkInv (s : UioBlk World) (sent : List BlkRequest) (answered : List BlkResponse) :
    Prop where
  blocksize_eq : s.blkConfig.blocksize = 1024
  resp_le : s.respQueue.length ≤ blkRespQueueSize
  resp_suffix : s.respQueue <:+ answered
  sent_split : ∃ taken, sent = taken ++ s.reqQueue ∧
    (answered.map BlkResponse.key).Sublist (taken.map BlkRequest.key)
  count_le : ∀ r ∈ answered, r.successCount.toNat ≤ r.count.toNat

variable {io blkRespQueueSize}

theorem UioBlkInv.init {s₀ s : UioBlk World} {driverId numMaps : Int} {argv : List String}
    {blkData blkDataPhys : UInt64}
    (h : driverInit io s₀ driverId numMaps argv blkData blkDataPhys = (s, 0))
    (hreq : s.reqQueue = []) (hresp : s.respQueue = []) : UioBlkInv blkRespQueueSize s [] [] where
  blocksize_eq := by rw [(driverInit_ok h).1]
  resp_le := by rw [hresp]; exact Nat.zero_le _
  resp_suffix := hresp ▸ List.suffix_refl _
  sent_split := ⟨[], by rw [hreq]; rfl, .slnil⟩
  count_le := fun _ hr => absurd hr (List.not_mem_nil _)

theorem UioBlkInv.request {s : UioBlk World} {sent : List BlkRequest} {answered : List BlkResponse}
    (hinv : UioBlkInv blkRespQueueSize s sent answered) (req : BlkRequest) :
    UioBlkInv blkRespQueueSize { s with reqQueue := s.reqQueue ++ [req] } (sent ++ [req])
      answered := by
  obtain ⟨taken, hsent, hsub⟩ := hinv.sent_split
  exact ⟨hinv.blocksize_eq, hinv.resp_le, hinv.resp_suffix,
    ⟨taken, by rw [hsent, List.append_assoc], hsub⟩, hinv.count_le⟩

theorem UioBlkInv.response {s : UioBlk World} {sent : List BlkRequest} {answered : List BlkResponse}
    {r : BlkResponse} {rs : List BlkResponse} (hinv : UioBlkInv blkRespQueueSize s sent answered)
    (hq : s.respQueue = r :: rs) :
    UioBlkInv blkRespQueueSize { s with respQueue := rs } sent answered := by
  have hsuffix := hinv.resp_suffix
  have hle := hinv.resp_le
  rw [hq] at hsuffix hle
  exact ⟨hinv.blocksize_eq, Nat.le_of_succ_le hle, (List.suffix_cons r rs).trans hsuffix,
    hinv.sent_split, hinv.count_le⟩

section Oracle

variable (hread : ∀ w fd a n, (io.read w fd a n).2 ≤ n)
  (hwrite : ∀ w fd a n, (io.write w fd a n).2 ≤ n)
include hread hwrite

theorem UioBlkInv.notified {s : UioBlk World} {sent : List BlkRequest}
    {answered : List BlkResponse} (hinv : UioBlkInv blkRespQueueSize s sent answered) :
    UioBlkInv blkRespQueueSize (driverNotified io blkRespQueueSize s) sent
      (answered ++ (driverNotified io blkRespQueueSize s).respQueue.drop s.respQueue.length) := by
  obtain ⟨rs, hq, hkeys⟩ : ∃ rs, (driverNotified io blkRespQueueSize s).respQueue = s.respQueue ++ rs ∧
      rs.map BlkResponse.key = ((s.reqQueue.filter (·.code.handled)).take
        (blkRespQueueSize - s.respQueue.length)).map BlkRequest.key :=
    driverNotifiedLoop_answers io blkRespQueueSize s _ _ _ _
  obtain ⟨taken, hsent, hsub⟩ := hinv.sent_split
  have hlen : rs.length ≤ blkRespQueueSize - s.respQueue.length := by
    have := congrArg List.length hkeys
    rw [List.length_map, List.length_map, List.length_take] at this
    omega
  -- the new responses satisfy the count bound, as every result of the `switch` does
  have hcount : ∀ r ∈ (driverNotified io blkRespQueueSize s).respQueue,
      r.successCount.toNat ≤ r.count.toNat :=
    driverNotifiedLoop_forall io blkRespQueueSize s _ (fun r => r.successCount.toNat ≤ r.count.toNat)
      (fun _ _ _ _ _ h => driverNotifiedRequest_successCount_le hread hwrite h) _ _ _
      (fun r hr => hinv.count_le r (hinv.resp_suffix.subset hr))
  rw [hq, List.drop_left]
  rw [hq] at hcount
  refine ⟨hinv.blocksize_eq, ?_, ?_, ⟨taken ++ s.reqQueue, ?_, ?_⟩, ?_⟩
  · rw [hq, List.length_append]
    have := hinv.resp_le
    omega
  · obtain ⟨pre, hpre⟩ := hinv.resp_suffix
    exact ⟨pre, by rw [hq, ← hpre, List.append_assoc]⟩
  · rw [hsent]; exact (List.append_nil _).symm
  · rw [List.map_append, List.map_append, hkeys]
    exact hsub.append (((List.take_sublist _ _).trans (List.filter_sublist _)).map _)
  · intro r hr
    rcases List.mem_append.1 hr with hr | hr
    · exact hinv.count_le r hr
    · exact hcount r (List.mem_append_right _ hr)

/-- Over every interleaving of the client's enqueues and dequeues with `driver_notified`, from a
    successful `driver_init` with empty queues: the response queue never holds more than its
    size; the responses the driver produced answer distinct requests, in the order they were
    sent, with their `addr`, `count` and `id`; no response reports more blocks than its request
    asked for; and the `blocksize` the driver divides by stays 1024. -/
theorem uio_blk_run_safe {s : UioBlk World} {sent : List BlkRequest} {answered : List BlkResponse}
    (h : UioBlkRun io blkRespQueueSize s sent answered) :
    s.respQueue.length ≤ blkRespQueueSize ∧
      (answered.map BlkResponse.key).Sublist (sent.map BlkRequest.key) ∧
      (∀ r ∈ answered, r.successCount.toNat ≤ r.count.toNat) ∧ s.blkConfig.blocksize = 1024 := by
  have hinv : UioBlkInv blkRespQueueSize s sent answered := by
    induction h with
    | init hinit hreq hresp => exact .init hinit hreq hresp
    | request req _ ih => exact ih.request req
    | response _ hq ih => exact ih.response hq
    | notified _ ih => exact ih.notified hread hwrite
  obtain ⟨taken, hsent, hsub⟩ := hinv.sent_split
  refine ⟨hinv.resp_le, ?_, hinv.count_le, hinv.blocksize_eq⟩
  rw [hsent, List.map_append]
  exact hsub.trans (List.sublist_append_left _ _)

end Oracle

end Run

/-- A storage file that always opens as descriptor 3 and moves every byte asked for. -/
def wholeStorageIo : StorageIo Unit where
  openFile _ _ := ((), 3)
  lseek _ _ _ := ()
  read _ _ _ n := ((), n)
  write _ _ _ n := ((), n)
  fsync _ _ := ()

/-- The driver's zero-initialised globals, with empty queues. -/
def uioBlkStatic : UioBlk Unit := ⟨(), 0, ⟨false, 0, 0, false⟩, 0, 0, [], [], 0⟩

/-- A read of two blocks from block 5 into the buffer at `0x1000`. -/
def oneRead : BlkRequest := ⟨.readBlocks, 0x1000, 5, 2, 7⟩

/-- A run with two notifications: a read and a write are answered in order; the client takes
    the first response; a request with an unknown code is dropped and the flush after it is
    answered. -/
theorem uio_blk_run_safe_interleaved :
    ∃ s sent answered, UioBlkRun wholeStorageIo 4 s sent answered ∧
      sent = [oneRead, ⟨.writeBlocks, 0x3000, 9, 1, 8⟩, ⟨.unknown 7, 0x5000, 0, 1, 9⟩,
        ⟨.flush, 0, 0, 0, 10⟩] ∧
      answered = [⟨.success, 0x1000, 2, 2, 7⟩, ⟨.success, 0x3000, 1, 1, 8⟩,
        ⟨.success, 0, 0, 0, 10⟩] ∧
      (s.respQueue.length ≤ 4 ∧ (answered.map BlkResponse.key).Sublist (sent.map BlkRequest.key) ∧
        (∀ r ∈ answered, r.successCount.toNat ≤ r.count.toNat) ∧ s.blkConfig.blocksize = 1024) := by
  have hinit : driverInit wholeStorageIo uioBlkStatic 0 4 ["/var/lib/blk"] 0x40000000 0x80000000 =
      ({ uioBlkStatic with
        storageFd := 3, blkData := 0x40000000, blkDataPhys := 0x80000000
        blkConfig := ⟨true, 1000, 1024, false⟩ }, 0) := rfl
  have h0 : UioBlkRun wholeStorageIo 4 _ [] [] := .init hinit rfl rfl
  have h1 := ((h0.request oneRead).request ⟨.writeBlocks, 0x3000, 9, 1, 8⟩).notified
  have h2 := (((h1.response rfl).request ⟨.unknown 7, 0x5000, 0, 1, 9⟩).request
    ⟨.flush, 0, 0, 0, 10⟩).notified
  exact ⟨_, _, _, h2, rfl, rfl,
    uio_blk_run_safe (fun _ _ _ _ => le_refl _) (fun _ _ _ _ => le_refl _) h2⟩

/-! ### The seek offset -/

theorem seekOffset_eq (blockNumber : UInt32) (blocksize : UInt16) :
    seekOffset blockNumber blocksize = blockNumber.toNat * blocksize.toNat % 2 ^ 32 := by
  show (blockNumber.toBitVec * blocksize.toUInt32.toBitVec).toNat = _
  rw [BitVec.toNat_mul]
  rfl

theorem seekOffset_exact_iff (blockNumber : UInt32) :
    seekOffset blockNumber 1024 = blockNumber.toNat * 1024 ↔ blockNumber.toNat < 2 ^ 22 := by
  rw [seekOffset_eq]
  show blockNumber.toNat * 1024 % 2 ^ 32 = _ ↔ _
  omega

example : seekOffset 4194304 1024 = 0 := by decide

theorem seekOffset_add_wrap (blockNumber : UInt32) :
    seekOffset (blockNumber + 0x400000) 1024 = seekOffset blockNumber 1024 := by
  show ((blockNumber.toBitVec + (0x400000 : UInt32).toBitVec) *
      (1024 : UInt16).toUInt32.toBitVec).toNat =
    (blockNumber.toBitVec * (1024 : UInt16).toUInt32.toBitVec).toNat
  rw [BitVec.mul_comm, BitVec.mul_add,
    show (1024 : UInt16).toUInt32.toBitVec * (0x400000 : UInt32).toBitVec = 0#32 by decide,
    BitVec.add_zero, BitVec.mul_comm]

/-- The request with its block number raised by `2^22`. -/
def BlkRequest.wrapBlock (req : BlkRequest) : BlkRequest :=
  { req with blockNumber := req.blockNumber + 0x400000 }

section Wrap

variable (io : StorageIo World) (s : UioBlk World) (q : List BlkRequest)

theorem driverNotifiedRequest_wrapBlock (w : World) (req : BlkRequest) :
    driverNotifiedRequest io { s with reqQueue := q } 1024 w req.wrapBlock =
      driverNotifiedRequest io s 1024 w req := by
  obtain ⟨code, addr, blockNumber, count, id⟩ := req
  cases code <;>
    simp only [driverNotifiedRequest, blkTransfer, BlkRequest.wrapBlock, seekOffset_add_wrap] <;> rfl

theorem driverNotifiedLoop_wrapBlock (blkRespQueueSize : Nat) :
    ∀ (reqs : List BlkRequest) (w : World) (resp : List BlkResponse),
      driverNotifiedLoop io blkRespQueueSize { s with reqQueue := q } 1024
        (reqs.map BlkRequest.wrapBlock) w resp = driverNotifiedLoop io blkRespQueueSize s 1024 reqs w resp
  | [], _, _ => rfl
  | ⟨code, addr, blockNumber, count, id⟩ :: reqs, w, resp => by
    rw [List.map_cons, driverNotifiedLoop, driverNotifiedLoop, driverNotifiedRequest_wrapBlock]
    simp only [driverNotifiedLoop_wrapBlock blkRespQueueSize reqs, BlkRequest.wrapBlock]

/-- Nothing checks a request's block number: at the `blocksize` of 1024 `driver_init` sets,
    `lseek` gets `req_block_number * blocksize` in 32 bits, so `driver_notified` on requests whose
    block numbers are all raised by `2^22` makes the same storage calls and the same responses,
    and block `2^22 + b`, far past the 1000 blocks the storage info announces, is served as
    block `b`. -/
theorem driver_notified_wraps_block_numbers (blkRespQueueSize : Nat)
    (hbs : s.blkConfig.blocksize = 1024) :
    driverNotified io blkRespQueueSize { s with reqQueue := s.reqQueue.map BlkRequest.wrapBlock } =
      driverNotified io blkRespQueueSize s := by
  unfold driverNotified
  simp only [hbs, driverNotifiedLoop_wrapBlock]

end Wrap

/-- A storage file that logs every seek offset and moves every byte asked for. -/
def seekLogIo : StorageIo (List Nat) where
  openFile w _ := (w, 3)
  lseek w _ off := w ++ [off]
  read w _ _ n := (w, n)
  write w _ _ n := (w, n)
  fsync w _ := w

/-- The driver after `driver_init`, with `oneRead` queued, over `seekLogIo`. -/
def uioBlkOneRead : UioBlk (List Nat) :=
  ⟨[], 3, ⟨true, 1000, 1024, false⟩, 0x40000000, 0x80000000, [oneRead], [], 0⟩

/-- The read of block `5 + 2^22` seeks to offset 5120, as the read of block 5 does. -/
theorem driver_notified_wraps_oneRead :
    uioBlkOneRead.blkConfig.blocksize = 1024 ∧
    driverNotified seekLogIo 4 { uioBlkOneRead with
        reqQueue := uioBlkOneRead.reqQueue.map BlkRequest.wrapBlock } =
      driverNotified seekLogIo 4 uioBlkOneRead ∧
    (driverNotified seekLogIo 4 uioBlkOneRead).world = [5120] :=
  ⟨rfl, driver_notified_wraps_block_numbers seekLogIo uioBlkOneRead 4 rfl, rfl⟩

end Libvmm.Uio
