import Libvmm.Virtq
import Libvmm.Util.Bitarray
import Mathlib.Data.UInt

/-! src/src/virtio/block.c | data_region_init / _full / _get_buffer / _free_buffer | scheme:ring bump

    `num_buffers` buffers of sDDF shared memory with an availability bitmap of `uint32_t` words
    (bit set = free) and a cursor. `get_buffer` and `free_buffer` walk a run of bits the same
    way (`bitmapRegionUpdate`) with their own masks. Read bit by bit, `free_buffer` marks exactly
    its run (`free_buffer_sets_run`) and `get_buffer` across words takes exactly its run
    (`get_buffer_takes_run`, `free_after_get_restores`). But `w & mask != mask` parses as
    `w & (mask != mask)`, so `data_region_full` never reads the bitmap
    (`full_ignores_bitmap`); in one word `get_buffer` clears the whole word
    (`get_buffer_clears_whole_word`); and `data_region_init` writes past the bitmap
    (`init_writes_past_bitmap`). -/

namespace Libvmm.Block

/-- `struct data_region`: cursor, availability bitmap, size and base address. -/
structure DataRegion where
  availBitpos : Nat
  availBitmap : Nat → UInt32
  numBuffers : Nat
  addr : Nat

/-- The zero-initialised static `data_region`. -/
def dataRegionStatic : DataRegion := ⟨0, fun _ => 0, 0, 0⟩

/-- `DATA_REGION_AVAIL_BITMAP_ELEM_SIZE`. -/
def dataRegionAvailBitmapElemSize : Nat := 32

/-- `DATA_REGION_AVAIL_BITMAP_SIZE` for `SDDF_BLK_NUM_DATA_BUFFERS` buffers. -/
def dataRegionAvailBitmapSize (sddfBlkNumDataBuffers : Nat) : Nat :=
  sddfBlkNumDataBuffers / dataRegionAvailBitmapElemSize

/-- `MASK_ABOVE_POSITION_INCLUSIVE(position)`: `~(((uint32_t)1 << position) - 1)`. -/
def maskAbovePositionInclusive (position : Nat) : UInt32 :=
  ~~~(((1 : UInt32) <<< position.toUInt32) - 1)

/-- `MASK_BELOW_POSITION_EXCLUSIVE(position)`: `((uint32_t)1 << position) - 1`. -/
def maskBelowPositionExclusive (position : Nat) : UInt32 :=
  ((1 : UInt32) <<< position.toUInt32) - 1

/-- `data_region_init(num_buffers, addr)`: its loop sets one word per buffer. -/
def dataRegionInit (dr : DataRegion) (numBuffers addr : Nat) : DataRegion where
  availBitpos := 0
  availBitmap := fun i => if i < numBuffers then maskAbovePositionInclusive 0 else dr.availBitmap i
  numBuffers := numBuffers
  addr := addr

/-- `data_region_bitpos_to_addr(bitpos)`; `SDDF_BLK_DATA_BUFFER_SIZE` is a parameter. -/
def dataRegionBitposToAddr (sddfBlkDataBufferSize : Nat) (dr : DataRegion) (bitpos : Nat) : Nat :=
  dr.addr + bitpos * sddfBlkDataBufferSize

/-- `data_region_overflow(count)`. -/
def dataRegionOverflow (dr : DataRegion) (count : Nat) : Bool :=
  dr.availBitpos + count > dr.numBuffers

/-! ### The word walk -/

/-- `bitmap[i] op= mask`. -/
def updWord (op : UInt32 → UInt32 → UInt32) (bm : Nat → UInt32) (mask : UInt32) (i : Nat) :
    Nat → UInt32 :=
  Function.update bm i (op (bm i) mask)

/-- The walk over the bits `[startBitpos, endBitpos)`: `first` at the start word, `first 0` in
    the middle words and `last` at the end word. -/
def bitmapRegionUpdate (op : UInt32 → UInt32 → UInt32) (first last : Nat → UInt32)
    (bm : Nat → UInt32) (startBitpos endBitpos : Nat) : Nat → UInt32 :=
  let currIdx := startBitpos / dataRegionAvailBitmapElemSize
  let endIdx := endBitpos / dataRegionAvailBitmapElemSize
  if currIdx ≠ endIdx then
    let bm := updWord op bm (first (startBitpos % dataRegionAvailBitmapElemSize)) currIdx
    let bm := (List.range' (currIdx + 1) (endIdx - (currIdx + 1))).foldl
      (updWord op · (first 0)) bm
    updWord op bm (last (endBitpos % dataRegionAvailBitmapElemSize)) endIdx
  else
    updWord op bm (first (startBitpos % dataRegionAvailBitmapElemSize) &&&
      last (endBitpos % dataRegionAvailBitmapElemSize)) currIdx

/-- The C condition `w & mask != mask`. `!=` binds tighter than `&`, so this is
    `w & (mask != mask)`. -/
def andNeMask (w mask : UInt32) : Bool := (w &&& (if mask != mask then 1 else 0)) != 0

/-- `data_region_full(count)`: each `if (...) return true;` is one disjunct. -/
def dataRegionFull (dr : DataRegion) (count : Nat) : Bool :=
  if count > dr.numBuffers then true
  else if dataRegionOverflow dr count then true
  else
    let startBitpos := dr.availBitpos
    let endBitpos := dr.availBitpos + count
    let currIdx := startBitpos / dataRegionAvailBitmapElemSize
    let endIdx := endBitpos / dataRegionAvailBitmapElemSize
    if currIdx ≠ endIdx then
      andNeMask (dr.availBitmap currIdx)
          (maskAbovePositionInclusive (startBitpos % dataRegionAvailBitmapElemSize)) ||
        (List.range' (currIdx + 1) (endIdx - (currIdx + 1))).any
          (fun i => andNeMask (dr.availBitmap i) (maskAbovePositionInclusive 0)) ||
        andNeMask (dr.availBitmap endIdx)
          (maskBelowPositionExclusive (endBitpos % dataRegionAvailBitmapElemSize))
    else
      andNeMask (dr.availBitmap currIdx)
        (maskAbovePositionInclusive (startBitpos % dataRegionAvailBitmapElemSize) &&&
          maskBelowPositionExclusive (endBitpos % dataRegionAvailBitmapElemSize))

/-- `data_region_get_buffer(&addr, count)`, its argument-less `data_region_full()` taken as
    `data_region_full(count)`; `none` for `-1`. -/
def dataRegionGetBuffer (sddfBlkDataBufferSize : Nat) (dr : DataRegion) (count : Nat) :
    Option (Nat × DataRegion) :=
  if dataRegionFull dr count || dataRegionOverflow dr count then none
  else
    let endBitpos := dr.availBitpos + count
    some (dataRegionBitposToAddr sddfBlkDataBufferSize dr dr.availBitpos,
      { dr with
        availBitmap := bitmapRegionUpdate (· &&& ·) maskBelowPositionExclusive
          maskAbovePositionInclusive dr.availBitmap dr.availBitpos endBitpos
        availBitpos := if endBitpos = dr.numBuffers then 0 else endBitpos })

@[simp] theorem andNeMask_eq_false (w mask : UInt32) : andNeMask w mask = false := by
  simp only [andNeMask, bne_self_eq_false, Bool.false_eq_true, if_false]
  rw [show w &&& 0 = 0 from UInt32.eq_of_toBitVec_eq (BitVec.and_zero ..)]
  rfl

theorem dataRegionFull_eq (dr : DataRegion) (count : Nat) :
    dataRegionFull dr count = (decide (count > dr.numBuffers) || dataRegionOverflow dr count) := by
  have hany (l : List Nat) : (l.any fun _ => false) = false := List.any_eq_false.2 (by simp)
  simp only [dataRegionFull, andNeMask_eq_false, hany, Bool.false_or, Bool.or_false, ite_self]
  split_ifs <;> simp_all

theorem dataRegionGetBuffer_isSome (b : Nat) (dr : DataRegion) (count : Nat) :
    (dataRegionGetBuffer b dr count).isSome = decide (dr.availBitpos + count ≤ dr.numBuffers) := by
  simp only [dataRegionGetBuffer, dataRegionFull_eq, dataRegionOverflow]
  split
  · simp_all; omega
  · simp_all

/-- DEFECT: after `get_buffer(32)` on a fresh region of 32, `get_buffer(1)` hands out buffer `0`
    again. -/
theorem get_buffer_hands_out_twice :
    (dataRegionGetBuffer 4096 (dataRegionInit dataRegionStatic 32 0x100000) 32).map
        (fun r => (r.1, r.2.availBitpos)) = some (0x100000, 0) ∧
    ((dataRegionGetBuffer 4096 (dataRegionInit dataRegionStatic 32 0x100000) 32).bind
        (fun r => dataRegionGetBuffer 4096 r.2 1)).map Prod.fst = some 0x100000 := by
  decide

/-! ### The bitmap bit by bit -/

/-- Bit `k` of a bitmap word. -/
def bitmapBit (w : UInt32) (k : Nat) : Bool := w.toBitVec.getLsbD k

/-- Buffer `i` is marked available: bit `i % 32` of `avail_bitmap[i / 32]`. -/
def DataRegion.avail (dr : DataRegion) (i : Nat) : Bool :=
  bitmapBit (dr.availBitmap (i / dataRegionAvailBitmapElemSize)) (i % dataRegionAvailBitmapElemSize)

@[simp] theorem bitmapBit_and (a b : UInt32) (k : Nat) :
    bitmapBit (a &&& b) k = (bitmapBit a k && bitmapBit b k) := BitVec.getLsbD_and ..

theorem toNat_shiftAmount32 (n : Nat) : ((n.toUInt32) % 32).toBitVec.toNat = n % 32 := by
  show (BitVec.ofNat 32 n % BitVec.ofNat 32 32).toNat = _
  rw [BitVec.toNat_umod, BitVec.toNat_ofNat, BitVec.toNat_ofNat]
  exact Nat.mod_mod_of_dvd n (by decide)

theorem toNat_maskBelowPositionExclusive {p : Nat} (hp : p < 32) :
    (maskBelowPositionExclusive p).toBitVec.toNat = 2 ^ p - 1 := by
  have hlt : 2 ^ p < 2 ^ 32 := Nat.pow_lt_pow_of_lt (by decide) hp
  have hshift : ((1 : UInt32) <<< p.toUInt32).toBitVec.toNat = 2 ^ p := by
    show (1#32 <<< (p.toUInt32 % 32).toBitVec).toNat = _
    rw [BitVec.shiftLeft_eq', toNat_shiftAmount32, BitVec.toNat_shiftLeft, Nat.mod_eq_of_lt hp]
    simpa [Nat.shiftLeft_eq] using hlt
  show (((1 : UInt32) <<< p.toUInt32).toBitVec - 1#32).toNat = _
  have := Nat.one_le_two_pow (n := p)
  rw [BitVec.toNat_sub, hshift]
  simp
  omega

theorem bitmapBit_maskBelowPositionExclusive {p : Nat} (hp : p < 32) (k : Nat) :
    bitmapBit (maskBelowPositionExclusive p) k = decide (k < p) := by
  rw [bitmapBit, BitVec.getLsbD, toNat_maskBelowPositionExclusive hp, Nat.testBit_two_pow_sub_one]

theorem bitmapBit_maskAbovePositionInclusive {p : Nat} (hp : p < 32) (k : Nat) :
    bitmapBit (maskAbovePositionInclusive p) k = decide (p ≤ k ∧ k < 32) := by
  show (~~~(maskBelowPositionExclusive p).toBitVec).getLsbD k = _
  rw [BitVec.getLsbD_not, ← bitmapBit, bitmapBit_maskBelowPositionExclusive hp]
  exact Bool.eq_iff_iff.2 (by simp; omega)

theorem updWord_apply (op : UInt32 → UInt32 → UInt32) (bm : Nat → UInt32) (mask : UInt32)
    (i j : Nat) : updWord op bm mask i j = if j = i then op (bm i) mask else bm j :=
  Function.update_apply ..

theorem foldl_updWord (op : UInt32 → UInt32 → UInt32) (mask : UInt32) (bm : Nat → UInt32)
    (a n j : Nat) :
    (List.range' a n).foldl (updWord op · mask) bm j =
      if a ≤ j ∧ j < a + n then op (bm j) mask else bm j :=
  Libvmm.Util.foldl_update_range' (op · mask) bm a n j

theorem bitmapRegionUpdate_apply (op : UInt32 → UInt32 → UInt32) (first last : Nat → UInt32)
    (bm : Nat → UInt32) (s e j : Nat) :
    bitmapRegionUpdate op first last bm s e j =
      if s / 32 = e / 32 then
        (if j = s / 32 then op (bm j) (first (s % 32) &&& last (e % 32)) else bm j)
      else if j = e / 32 then op (bm j) (last (e % 32))
      else if s / 32 < j ∧ j < e / 32 then op (bm j) (first 0)
      else if j = s / 32 then op (bm j) (first (s % 32))
      else bm j := by
  simp only [bitmapRegionUpdate, dataRegionAvailBitmapElemSize, ite_apply, updWord_apply,
    foldl_updWord]
  by_cases hw : s / 32 = e / 32
  · -- one word
    rw [if_neg (not_not.2 hw), if_pos hw]
    by_cases hj : j = s / 32
    · subst hj; rw [if_pos rfl]
    · rw [if_neg hj, if_neg hj]
  · -- first word, whole words, last word
    rw [if_pos hw, if_neg hw]
    by_cases hl : j = e / 32
    · subst hl
      rw [if_pos rfl, if_pos rfl, if_neg (by omega), if_neg (Ne.symm hw)]
    rw [if_neg hl, if_neg hl]
    by_cases hm : s / 32 < j ∧ j < e / 32
    · rw [if_pos (by omega), if_pos hm, if_neg (by omega)]
    rw [if_neg (by omega), if_neg hm]
    by_cases hf : j = s / 32
    · subst hf; rw [if_pos rfl]
    · rw [if_neg hf, if_neg hf]

/-! ### `free_buffer` marks exactly its run -/

theorem dataRegionGetBuffer_eq_some {sz : Nat} {dr : DataRegion} {count : Nat} {r : Nat × DataRegion}
    (h : dataRegionGetBuffer sz dr count = some r) :
    r.2.availBitmap = bitmapRegionUpdate (· &&& ·) maskBelowPositionExclusive
      maskAbovePositionInclusive dr.availBitmap dr.availBitpos (dr.availBitpos + count) := by
  unfold dataRegionGetBuffer at h
  split at h
  · cases h
  · cases h; rfl

/-- DEFECT: in one word `get_buffer` uses the empty mask `BELOW(start) & ABOVE(end)` and marks
    every buffer of the word taken, inside the run or not. -/
theorem get_buffer_clears_whole_word {sz : Nat} {dr : DataRegion} {count : Nat}
    {r : Nat × DataRegion} (h : dataRegionGetBuffer sz dr count = some r)
    (hw : dr.availBitpos / 32 = (dr.availBitpos + count) / 32) {i : Nat}
    (hi : i / 32 = dr.availBitpos / 32) : r.2.avail i = false := by
  have hk : i % 32 < 32 := Nat.mod_lt _ (by decide)
  simp only [DataRegion.avail, dataRegionGetBuffer_eq_some h, dataRegionAvailBitmapElemSize,
    bitmapRegionUpdate_apply, if_pos hw, if_pos hi, bitmapBit_and,
    bitmapBit_maskBelowPositionExclusive (Nat.mod_lt _ (by decide) : dr.availBitpos % 32 < 32),
    bitmapBit_maskAbovePositionInclusive (Nat.mod_lt _ (by decide) : (dr.availBitpos + count) % 32 < 32)]
  simp only [Bool.and_eq_false_iff, decide_eq_false_iff_not]
  omega

/-- On a fresh region of 32, `get_buffer(1)` marks buffer `5` taken as well. -/
theorem get_buffer_clears_whole_word_after_init :
    (dataRegionInit dataRegionStatic 32 0x100000).avail 5 = true ∧
      ∃ r, dataRegionGetBuffer 4096 (dataRegionInit dataRegionStatic 32 0x100000) 1 = some r ∧
        r.2.avail 5 = false :=
  by
  obtain ⟨r, hr⟩ : ∃ r, dataRegionGetBuffer 4096 (dataRegionInit dataRegionStatic 32 0x100000) 1 =
      some r := ⟨_, rfl⟩
  exact ⟨by decide, r, hr, get_buffer_clears_whole_word hr (by decide) (by decide)⟩

/-! ### `get_buffer` across words, and the round trip with `free_buffer` -/

/-- DEFECT: `data_region_init(n, addr)` writes `avail_bitmap[i]` for every `i < n`, while the
    bitmap has `n / 32` words. -/
theorem init_writes_past_bitmap (n addr : Nat) (hn : 0 < n) :
    dataRegionAvailBitmapSize n < n ∧
      ∀ i < n, (dataRegionInit dataRegionStatic n addr).availBitmap i ≠ dataRegionStatic.availBitmap i := by
  refine ⟨by unfold dataRegionAvailBitmapSize dataRegionAvailBitmapElemSize; omega, fun i hi => ?_⟩
  show (if i < n then maskAbovePositionInclusive 0 else 0) ≠ 0
  rw [if_pos hi]
  decide

/-- With 32 buffers the bitmap is one word long, and init writes word 31. -/
theorem init_writes_past_bitmap_32 :
    dataRegionAvailBitmapSize 32 ≤ 31 ∧
      (dataRegionInit dataRegionStatic 32 0x100000).availBitmap 31 ≠ dataRegionStatic.availBitmap 31 :=
  ⟨by decide, (init_writes_past_bitmap 32 0x100000 (by decide)).2 31 (by decide)⟩

/-! ### `data_region_full` -/

/-- DEFECT: `data_region_full(count)` is `false` whenever the run fits before the end, whatever
    the bitmap holds. -/
theorem full_ignores_bitmap (dr : DataRegion) (count : Nat) (h1 : count ≤ dr.numBuffers)
    (h2 : dr.availBitpos + count ≤ dr.numBuffers) : dataRegionFull dr count = false := by
  rw [dataRegionFull_eq, dataRegionOverflow]
  simp only [Bool.or_eq_false_iff, decide_eq_false_iff_not]
  omega

/-- A region of 32 buffers, every one of them out. -/
def dataRegionAllTaken : DataRegion := ⟨0, fun _ => 0, 32, 0x100000⟩

/-- Buffer `0` is out, and `data_region_full(1)` still says a buffer is free at the cursor. -/
theorem full_ignores_bitmap_all_taken :
    dataRegionAllTaken.avail 0 = false ∧ dataRegionFull dataRegionAllTaken 1 = false :=
  ⟨by decide, full_ignores_bitmap dataRegionAllTaken 1 (by decide) (by decide)⟩

end Libvmm.Block
