import Mathlib.Logic.Function.Basic

/-! src/src/util/bitarray.c | bitarray_get_bit / _set_region / bitarray_cmp_region | scheme:word walk

    A bit array is `num_of_words` 64-bit words; bit `i` is bit `i % 64` of word `i / 64`.
    `_set_region` applies an action to `[start, start + len)` word by word, and
    `bitarray_cmp_region` compares two runs chunk by chunk. `bitarray.h` is not in the tree:
    `word_t` is `uint64_t`, as `bitmask64` and the `>> 6` / `& 63` split assume.

    After `_set_region` each bit is the action's inside the run and the old one outside
    (`wordBit_setRegion`), and the comparison is bitwise (`cmpRegionLoop_eq`). So toggling
    twice is the identity, the last set or clear wins, and operations on disjoint regions
    commute, even inside one word. -/

namespace Libvmm.Util

/-! ### Updating a run of words -/

theorem foldl_update_range' {α : Type} (f : α → α) (ws : Nat → α) (a n j : Nat) :
    (List.range' a n).foldl (fun ws i => Function.update ws i (f (ws i))) ws j =
      if a ≤ j ∧ j < a + n then f (ws j) else ws j := by
  induction n generalizing a ws with
  | zero => exact (if_neg (by omega)).symm
  | succ n ih =>
    rw [List.range'_succ, List.foldl_cons, ih]
    by_cases hj : j = a
    · subst hj
      rw [if_neg (by omega), if_pos (by omega), Function.update_same]
    · simp only [Function.update_noteq hj]
      congr 1
      exact propext (by omega)

/-! ### Words and bits -/

/-- `bitarray_t`. -/
structure Bitarray where
  words : Nat → UInt64
  numOfWords : Nat
  numOfBits : Nat

/-- `bitarray_init(bitarr, words, num_of_words)`. -/
def bitarrayInit (words : Nat → UInt64) (numOfWords : Nat) : Bitarray :=
  ⟨words, numOfWords, numOfWords * 64⟩

/-- `WORD_MAX`. -/
def wordMax : UInt64 := ~~~0

/-- `bitmask64(nbits)`: the low `nbits` bits set. -/
def bitmask64 (nbits : Nat) : UInt64 :=
  if nbits ≠ 0 then ~~~(0 : UInt64) >>> (64 - nbits).toUInt64 else 0

/-- `bitset64_wrd(pos)`. -/
def bitset64Wrd (pos : Nat) : Nat := pos >>> 6

/-- `bitset64_idx(pos)`. -/
def bitset64Idx (pos : Nat) : Nat := pos &&& 63

/-- `bitarray_get_bit(bitarr, index)`, a `char` holding `0` or `1`. -/
def bitarrayGetBit (ba : Bitarray) (index : Nat) : UInt8 :=
  ((ba.words (bitset64Wrd index) >>> (bitset64Idx index).toUInt64) &&& 1).toUInt8

theorem bitset64Wrd_eq (pos : Nat) : bitset64Wrd pos = pos / 64 :=
  Nat.shiftRight_eq_div_pow pos 6

theorem bitset64Idx_eq (pos : Nat) : bitset64Idx pos = pos % 64 :=
  Nat.and_pow_two_sub_one_eq_mod pos 6

/-- Bit `k` of a word. -/
def wordBit (w : UInt64) (k : Nat) : Bool := w.toBitVec.getLsbD k

theorem word_ext {a b : UInt64} (h : ∀ k < 64, wordBit a k = wordBit b k) : a = b :=
  UInt64.eq_of_toBitVec_eq (BitVec.eq_of_getLsbD_eq fun i => h i i.2)

@[simp] theorem wordBit_and (a b : UInt64) (k : Nat) :
    wordBit (a &&& b) k = (wordBit a k && wordBit b k) := BitVec.getLsbD_and ..

@[simp] theorem wordBit_or (a b : UInt64) (k : Nat) :
    wordBit (a ||| b) k = (wordBit a k || wordBit b k) := BitVec.getLsbD_or ..

@[simp] theorem wordBit_xor (a b : UInt64) (k : Nat) :
    wordBit (a ^^^ b) k = (wordBit a k ^^ wordBit b k) := BitVec.getLsbD_xor ..

@[simp] theorem wordBit_not (a : UInt64) (k : Nat) :
    wordBit (~~~a) k = (decide (k < 64) && !wordBit a k) := BitVec.getLsbD_not

@[simp] theorem wordBit_zero (k : Nat) : wordBit 0 k = false := BitVec.getLsbD_zero

@[simp] theorem wordBit_one (k : Nat) : wordBit 1 k = decide (k = 0) := by
  cases k <;> simp [wordBit, BitVec.getLsbD_ofNat, Nat.testBit_succ]

@[simp] theorem wordBit_wordMax (k : Nat) : wordBit wordMax k = decide (k < 64) := by
  simp [wordMax]

theorem toNat_shiftAmount (n : Nat) : ((n.toUInt64) % 64).toBitVec.toNat = n % 64 := by
  show (BitVec.ofNat 64 n % BitVec.ofNat 64 64).toNat = _
  rw [BitVec.toNat_umod, BitVec.toNat_ofNat, BitVec.toNat_ofNat]
  exact Nat.mod_mod_of_dvd n (by decide)

theorem wordBit_shiftLeft (a : UInt64) (n k : Nat) :
    wordBit (a <<< n.toUInt64) k =
      (decide (k < 64) && !decide (k < n % 64) && wordBit a (k - n % 64)) := by
  show (a.toBitVec <<< (n.toUInt64 % 64).toBitVec).getLsbD k = _
  rw [BitVec.shiftLeft_eq', toNat_shiftAmount, BitVec.getLsbD_shiftLeft]; rfl

theorem wordBit_shiftRight (a : UInt64) (n k : Nat) :
    wordBit (a >>> n.toUInt64) k = wordBit a (n % 64 + k) := by
  show (a.toBitVec >>> (n.toUInt64 % 64).toBitVec).getLsbD k = _
  rw [BitVec.ushiftRight_eq', toNat_shiftAmount, BitVec.getLsbD_ushiftRight]; rfl

theorem wordBit_bitmask64 {n : Nat} (hn : n ≤ 64) (k : Nat) :
    wordBit (bitmask64 n) k = decide (k < n) := by
  unfold bitmask64
  split
  · rw [wordBit_shiftRight, wordBit_not, wordBit_zero]
    simp only [Bool.not_false, Bool.and_true, decide_eq_decide]
    omega
  · simp_all

theorem bitarrayGetBit_eq (ba : Bitarray) (i : Nat) :
    bitarrayGetBit ba i = if wordBit (ba.words (i / 64)) (i % 64) then 1 else 0 := by
  have hw : (ba.words (i / 64) >>> (i % 64).toUInt64) &&& 1 =
      if wordBit (ba.words (i / 64)) (i % 64) then 1 else 0 :=
    word_ext fun k _ => by
      rcases Nat.eq_zero_or_pos k with rfl | hk
      · split <;> simp_all [wordBit_shiftRight]
      · split <;> simp [Nat.ne_of_gt hk]
  rw [bitarrayGetBit, bitset64Wrd_eq, bitset64Idx_eq, hw]
  split <;> rfl

/-! ### `_set_region` -/

/-- `FillAction`. -/
inductive FillAction
  | zeroRegion
  | fillRegion
  | swapRegion

/-- What an action does to one bit of the region. -/
def FillAction.bit : FillAction → Bool → Bool
  | .zeroRegion, _ => false
  | .fillRegion, _ => true
  | .swapRegion, b => !b

/-- The switch on a single word and on the last word: `&= ~mask`, `|= mask`, `^= mask`. -/
def FillAction.apply : FillAction → UInt64 → UInt64 → UInt64
  | .zeroRegion, w, mask => w &&& ~~~mask
  | .fillRegion, w, mask => w ||| mask
  | .swapRegion, w, mask => w ^^^ mask

/-- The switch on the first word, with `foffset`. -/
def FillAction.applyFirst : FillAction → UInt64 → Nat → UInt64
  | .zeroRegion, w, foffset => w &&& bitmask64 foffset
  | .fillRegion, w, foffset => w ||| ~~~bitmask64 foffset
  | .swapRegion, w, foffset => w ^^^ ~~~bitmask64 foffset

/-- The switch on the whole words between the first and the last. -/
def FillAction.applyWhole : FillAction → UInt64 → UInt64
  | .zeroRegion, _ => 0
  | .fillRegion, _ => wordMax
  | .swapRegion, w => w ^^^ wordMax

/-- `_set_region(bitarr, start, length, action)`. -/
def setRegion (ba : Bitarray) (start length : Nat) (action : FillAction) : Bitarray :=
  if length = 0 then ba
  else
    let firstWord := bitset64Wrd start
    let lastWord := bitset64Wrd (start + length - 1)
    let foffset := bitset64Idx start
    let loffset := bitset64Idx (start + length - 1)
    if firstWord = lastWord then
      let mask := bitmask64 length <<< foffset.toUInt64
      { ba with
        words := Function.update ba.words firstWord (action.apply (ba.words firstWord) mask) }
    else
      let ws := Function.update ba.words firstWord (action.applyFirst (ba.words firstWord) foffset)
      let ws := (List.range' (firstWord + 1) (lastWord - (firstWord + 1))).foldl
        (fun ws i => Function.update ws i (action.applyWhole (ws i))) ws
      { ba with
        words := Function.update ws lastWord (action.apply (ws lastWord) (bitmask64 (loffset + 1))) }

/-- `bitarray_set_region(bitarr, start, len)`. -/
def bitarraySetRegion (ba : Bitarray) (start len : Nat) : Bitarray := setRegion ba start len .fillRegion

/-- `bitarray_clear_region(bitarr, start, len)`. -/
def bitarrayClearRegion (ba : Bitarray) (start len : Nat) : Bitarray :=
  setRegion ba start len .zeroRegion

/-- `bitarray_toggle_region(bitarr, start, len)`. -/
def bitarrayToggleRegion (ba : Bitarray) (start len : Nat) : Bitarray :=
  setRegion ba start len .swapRegion

theorem wordBit_bitmask64_shiftLeft {n o : Nat} (hn : o + n ≤ 64) (ho : o < 64) (k : Nat) :
    wordBit (bitmask64 n <<< o.toUInt64) k = decide (o ≤ k ∧ k < o + n) := by
  rw [wordBit_shiftLeft, wordBit_bitmask64 (by omega), Nat.mod_eq_of_lt ho]
  exact Bool.eq_iff_iff.2 (by simp; omega)

theorem wordBit_apply (a : FillAction) (w mask : UInt64) {k : Nat} (hk : k < 64) :
    wordBit (a.apply w mask) k = if wordBit mask k then a.bit (wordBit w k) else wordBit w k := by
  cases a <;> cases h : wordBit mask k <;> simp [FillAction.apply, FillAction.bit, hk, h]

theorem wordBit_applyFirst (a : FillAction) (w : UInt64) {f k : Nat} (hf : f ≤ 64) (hk : k < 64) :
    wordBit (a.applyFirst w f) k = if f ≤ k then a.bit (wordBit w k) else wordBit w k := by
  by_cases h : f ≤ k
  · cases a <;> simp [FillAction.applyFirst, FillAction.bit, wordBit_bitmask64 hf, hk, h, Nat.not_lt.2 h]
  · cases a <;> simp [FillAction.applyFirst, FillAction.bit, wordBit_bitmask64 hf, hk, h,
      Nat.lt_of_not_le h]

theorem wordBit_applyWhole (a : FillAction) (w : UInt64) {k : Nat} (hk : k < 64) :
    wordBit (a.applyWhole w) k = a.bit (wordBit w k) := by
  cases a <;> simp [FillAction.applyWhole, FillAction.bit, hk]

theorem wordBit_setRegion (ba : Bitarray) (start len : Nat) (action : FillAction) (i : Nat) :
    wordBit ((setRegion ba start len action).words (i / 64)) (i % 64) =
      if start ≤ i ∧ i < start + len then action.bit (wordBit (ba.words (i / 64)) (i % 64))
      else wordBit (ba.words (i / 64)) (i % 64) := by
  have hk : i % 64 < 64 := Nat.mod_lt _ (by decide)
  unfold setRegion
  simp only [bitset64Wrd_eq, bitset64Idx_eq]
  by_cases h0 : len = 0
  · rw [if_pos h0, if_neg (by omega)]
  rw [if_neg h0]
  by_cases hw : start / 64 = (start + len - 1) / 64
  · -- the run lies in one word
    rw [if_pos hw]
    dsimp only
    by_cases hi : i / 64 = start / 64
    · rw [hi, Function.update_same, wordBit_apply _ _ _ hk,
        wordBit_bitmask64_shiftLeft (by omega) (by omega)]
      simp only [decide_eq_true_eq]
      exact if_congr (by omega) rfl rfl
    · rw [Function.update_noteq hi, if_neg (by omega)]
  · -- first word, whole words, last word
    rw [if_neg hw]
    dsimp only
    by_cases hl : i / 64 = (start + len - 1) / 64
    · rw [hl, Function.update_same, foldl_update_range', if_neg (by omega),
        Function.update_noteq (Ne.symm hw), wordBit_apply _ _ _ hk, wordBit_bitmask64 (by omega)]
      simp only [decide_eq_true_eq]
      exact if_congr (by omega) rfl rfl
    rw [Function.update_noteq hl, foldl_update_range']
    by_cases hm : start / 64 + 1 ≤ i / 64 ∧
        i / 64 < start / 64 + 1 + ((start + len - 1) / 64 - (start / 64 + 1))
    · rw [if_pos hm, Function.update_noteq (by omega), wordBit_applyWhole _ _ hk, if_pos (by omega)]
    rw [if_neg hm]
    by_cases hf : i / 64 = start / 64
    · rw [hf, Function.update_same, wordBit_applyFirst _ _ (by omega) hk]
      exact if_congr (by omega) rfl rfl
    · rw [Function.update_noteq hf, if_neg (by omega)]

theorem setRegion_words_of_outside (ba : Bitarray) (start len : Nat) (action : FillAction)
    {j : Nat} (hj : j < start / 64 ∨ (start + len - 1) / 64 < j) :
    (setRegion ba start len action).words j = ba.words j := by
  unfold setRegion
  simp only [bitset64Wrd_eq, bitset64Idx_eq]
  split_ifs
  · rfl
  · exact Function.update_noteq (by omega) _ _
  · dsimp only
    rw [Function.update_noteq (by omega), foldl_update_range', if_neg (by omega),
      Function.update_noteq (by omega)]

theorem bitarrayGetBit_setRegion (ba : Bitarray) (start len : Nat) (action : FillAction) (i : Nat) :
    bitarrayGetBit (setRegion ba start len action) i =
      if start ≤ i ∧ i < start + len then
        (if action.bit (wordBit (ba.words (i / 64)) (i % 64)) then 1 else 0)
      else bitarrayGetBit ba i := by
  rw [bitarrayGetBit_eq, bitarrayGetBit_eq, wordBit_setRegion]
  split <;> rfl

/-- The three region operations agree with the bit-by-bit operation at every index: set
    gives `1`, clear `0` and toggle the negation inside the region, every other bit is kept,
    no word outside the region is written, and an empty region changes nothing. -/
theorem region_ops_bitwise (ba : Bitarray) (start len i : Nat) :
    bitarrayGetBit (bitarraySetRegion ba start len) i =
      (if start ≤ i ∧ i < start + len then 1 else bitarrayGetBit ba i) ∧
    bitarrayGetBit (bitarrayClearRegion ba start len) i =
      (if start ≤ i ∧ i < start + len then 0 else bitarrayGetBit ba i) ∧
    bitarrayGetBit (bitarrayToggleRegion ba start len) i =
      (if start ≤ i ∧ i < start + len then 1 - bitarrayGetBit ba i else bitarrayGetBit ba i) ∧
    (∀ action j, j < start / 64 ∨ (start + len - 1) / 64 < j →
      (setRegion ba start len action).words j = ba.words j) ∧
    ∀ action, setRegion ba start 0 action = ba := by
  refine ⟨?_, ?_, ?_, fun action _ hj => setRegion_words_of_outside ba start len action hj,
    fun _ => rfl⟩
  · exact (bitarrayGetBit_setRegion ..).trans (if_congr Iff.rfl rfl rfl)
  · exact (bitarrayGetBit_setRegion ..).trans (if_congr Iff.rfl rfl rfl)
  · refine (bitarrayGetBit_setRegion ..).trans (if_congr Iff.rfl ?_ rfl)
    rw [bitarrayGetBit_eq]
    cases wordBit (ba.words (i / 64)) (i % 64) <;> rfl

/-! ### `bitarray_cmp_region` -/

/-- `bits_to_compare`: `len`, capped by the bits left in the current word of each array. -/
def bitsToCompare (len bitOffset1 bitOffset2 : Nat) : Nat :=
  let bitsInCurrentWord1 := 64 - bitOffset1
  let bitsInCurrentWord2 := 64 - bitOffset2
  let n := len
  let n := if n > bitsInCurrentWord1 then bitsInCurrentWord1 else n
  if n > bitsInCurrentWord2 then bitsInCurrentWord2 else n

/-- `(words[word_idx] & (bitmask64(n) << bit_offset)) >> bit_offset`. -/
def extractBits (w : UInt64) (n bitOffset : Nat) : UInt64 :=
  (w &&& (bitmask64 n <<< bitOffset.toUInt64)) >>> bitOffset.toUInt64

/-- The `while (len > 0)` loop of `bitarray_cmp_region`, one chunk per unit of fuel; `none`
    when the fuel runs out. -/
def cmpRegionLoop (bitarr1 bitarr2 : Bitarray) (fuel start1 start2 len : Nat) : Option Bool :=
  if len > 0 then
    match fuel with
    | 0 => none
    | fuel + 1 =>
      let wordIdx1 := bitset64Wrd start1
      let bitOffset1 := bitset64Idx start1
      let wordIdx2 := bitset64Wrd start2
      let bitOffset2 := bitset64Idx start2
      let n := bitsToCompare len bitOffset1 bitOffset2
      let bits1 := extractBits (bitarr1.words wordIdx1) n bitOffset1
      let bits2 := extractBits (bitarr2.words wordIdx2) n bitOffset2
      if bits1 != bits2 then some false
      else cmpRegionLoop bitarr1 bitarr2 fuel (start1 + n) (start2 + n) (len - n)
  else some true

/-- `bitarray_cmp_region(bitarr1, start1, bitarr2, start2, len)`. -/
def bitarrayCmpRegion (bitarr1 : Bitarray) (start1 : Nat) (bitarr2 : Bitarray)
    (start2 len fuel : Nat) : Option Bool :=
  if len = 0 then some true else cmpRegionLoop bitarr1 bitarr2 fuel start1 start2 len

theorem bitsToCompare_spec {len o1 o2 : Nat} (hlen : 0 < len) (h1 : o1 < 64) (h2 : o2 < 64) :
    0 < bitsToCompare len o1 o2 ∧ bitsToCompare len o1 o2 ≤ len ∧
      o1 + bitsToCompare len o1 o2 ≤ 64 ∧ o2 + bitsToCompare len o1 o2 ≤ 64 := by
  dsimp only [bitsToCompare]
  split_ifs <;> omega

theorem wordBit_extractBits (w : UInt64) {n o : Nat} (hn : o + n ≤ 64) (ho : o < 64) (k : Nat) :
    wordBit (extractBits w n o) k = (decide (k < n) && wordBit w (o + k)) := by
  rw [extractBits, wordBit_shiftRight, wordBit_and, wordBit_bitmask64_shiftLeft hn ho,
    Nat.mod_eq_of_lt ho, Bool.and_comm]
  congr 1
  exact decide_eq_decide.2 (by omega)

theorem bitarrayGetBit_eq_iff (ba1 ba2 : Bitarray) (i j : Nat) :
    bitarrayGetBit ba1 i = bitarrayGetBit ba2 j ↔
      wordBit (ba1.words (i / 64)) (i % 64) = wordBit (ba2.words (j / 64)) (j % 64) := by
  rw [bitarrayGetBit_eq, bitarrayGetBit_eq]
  cases wordBit (ba1.words (i / 64)) (i % 64) <;> cases wordBit (ba2.words (j / 64)) (j % 64) <;>
    decide

theorem chunk_eq_iff (ba1 ba2 : Bitarray) {start1 start2 n : Nat} (h1 : start1 % 64 + n ≤ 64)
    (h2 : start2 % 64 + n ≤ 64) :
    extractBits (ba1.words (start1 / 64)) n (start1 % 64) =
        extractBits (ba2.words (start2 / 64)) n (start2 % 64) ↔
      ∀ i < n, bitarrayGetBit ba1 (start1 + i) = bitarrayGetBit ba2 (start2 + i) := by
  have hbit (ba : Bitarray) (start i : Nat) (hi : start % 64 + i < 64) :
      wordBit (ba.words (start / 64)) (start % 64 + i) =
        wordBit (ba.words ((start + i) / 64)) ((start + i) % 64) := by
    rw [show (start + i) / 64 = start / 64 by omega, show (start + i) % 64 = start % 64 + i by omega]
  constructor
  · intro h i hi
    have := congrArg (wordBit · i) h
    simp only [wordBit_extractBits _ h1 (Nat.mod_lt _ (by decide)),
      wordBit_extractBits _ h2 (Nat.mod_lt _ (by decide)), hi, decide_True, Bool.true_and] at this
    rwa [bitarrayGetBit_eq_iff, ← hbit ba1 _ _ (by omega), ← hbit ba2 _ _ (by omega)]
  · intro h
    refine word_ext fun i _ => ?_
    rw [wordBit_extractBits _ h1 (Nat.mod_lt _ (by decide)),
      wordBit_extractBits _ h2 (Nat.mod_lt _ (by decide))]
    by_cases hi : i < n
    · rw [hbit ba1 _ _ (by omega), hbit ba2 _ _ (by omega), (bitarrayGetBit_eq_iff ..).1 (h i hi)]
    · simp [hi]

theorem forall_lt_split {P : Nat → Prop} {n len : Nat} (h : n ≤ len) :
    (∀ i < len, P i) ↔ (∀ i < n, P i) ∧ ∀ i < len - n, P (n + i) := by
  refine ⟨fun hp => ⟨fun i hi => hp i (by omega), fun i hi => hp _ (by omega)⟩,
    fun ⟨hp, hq⟩ i hi => ?_⟩
  by_cases hin : i < n
  · exact hp i hin
  · simpa [Nat.add_sub_cancel' (Nat.le_of_not_lt hin)] using hq (i - n) (by omega)

theorem cmpRegionLoop_eq (ba1 ba2 : Bitarray) {fuel : Nat} (start1 start2 len : Nat)
    (hfuel : len ≤ fuel) :
    cmpRegionLoop ba1 ba2 fuel start1 start2 len =
      some (decide (∀ i < len, bitarrayGetBit ba1 (start1 + i) = bitarrayGetBit ba2 (start2 + i))) := by
  induction fuel generalizing start1 start2 len with
  | zero =>
    obtain rfl : len = 0 := by omega
    simp [cmpRegionLoop]
  | succ fuel ih =>
    rw [cmpRegionLoop]
    split
    · rename_i hlen
      obtain ⟨hpos, hle, h1, h2⟩ := bitsToCompare_spec hlen (Nat.mod_lt start1 (by decide))
        (Nat.mod_lt start2 (by decide))
      dsimp only
      simp only [bitset64Wrd_eq, bitset64Idx_eq]
      split
      · rename_i hne
        rw [bne_iff_ne, ne_eq, chunk_eq_iff ba1 ba2 h1 h2] at hne
        exact congrArg some (decide_eq_false fun h => hne fun i hi => h i (by omega)).symm
      · rename_i heq
        rw [bne_iff_ne, ne_eq, not_not, chunk_eq_iff ba1 ba2 h1 h2] at heq
        rw [ih _ _ _ (by omega)]
        refine congrArg some (decide_eq_decide.2 ?_)
        rw [forall_lt_split hle]
        simp only [Nat.add_assoc]
        exact ⟨fun h => ⟨heq, h⟩, And.right⟩
    · obtain rfl : len = 0 := by omega
      simp

theorem cmpRegionLoop_congr {ba1 ba2 ba1' ba2' : Bitarray} {fuel : Nat} (start1 start2 len : Nat)
    (h1 : ∀ i < len, ba1'.words ((start1 + i) / 64) = ba1.words ((start1 + i) / 64))
    (h2 : ∀ i < len, ba2'.words ((start2 + i) / 64) = ba2.words ((start2 + i) / 64)) :
    cmpRegionLoop ba1' ba2' fuel start1 start2 len = cmpRegionLoop ba1 ba2 fuel start1 start2 len := by
  induction fuel generalizing start1 start2 len with
  | zero => rfl
  | succ fuel ih =>
    rw [cmpRegionLoop, cmpRegionLoop]
    split
    · rename_i hlen
      dsimp only
      simp only [bitset64Wrd_eq, bitset64Idx_eq]
      rw [show start1 = start1 + 0 from rfl, h1 0 hlen, show start2 = start2 + 0 from rfl, h2 0 hlen,
        ih]
      · intro i hi; rw [Nat.add_assoc]; exact h1 _ (by omega)
      · intro i hi; rw [Nat.add_assoc]; exact h2 _ (by omega)
    · rfl

/-- `bitarray_cmp_region` returns, given fuel for `len` chunks, whether the two runs agree bit
    by bit, for aligned and misaligned starts alike; and it reads only the words that hold
    bits of the two runs. -/
theorem cmp_region_bitwise (ba1 ba2 : Bitarray) (start1 start2 len fuel : Nat) (hfuel : len ≤ fuel) :
    bitarrayCmpRegion ba1 start1 ba2 start2 len fuel =
        some (decide (∀ i < len, bitarrayGetBit ba1 (start1 + i) = bitarrayGetBit ba2 (start2 + i))) ∧
      ∀ ba1' ba2' : Bitarray,
        (∀ i < len, ba1'.words ((start1 + i) / 64) = ba1.words ((start1 + i) / 64)) →
        (∀ i < len, ba2'.words ((start2 + i) / 64) = ba2.words ((start2 + i) / 64)) →
        ∀ fuel', bitarrayCmpRegion ba1' start1 ba2' start2 len fuel' =
          bitarrayCmpRegion ba1 start1 ba2 start2 len fuel' := by
  refine ⟨?_, fun ba1' ba2' h1 h2 fuel' => ?_⟩ <;> unfold bitarrayCmpRegion <;> split
  · simp_all
  · exact cmpRegionLoop_eq ba1 ba2 start1 start2 len hfuel
  · rfl
  · exact cmpRegionLoop_congr start1 start2 len h1 h2

/-- Word 0 has bits 61 and 63 set and word 1 bits 0 and 2, so bits 60 to 67 read
    `0 1 0 1 1 0 1 0`. -/
def bitsAcrossWords : Bitarray := ⟨fun w => if w = 0 then 0xA000000000000000 else 0x5, 2, 128⟩

/-- The same eight bits as the low byte of one word. -/
def bitsLowByte : Bitarray := ⟨fun _ => 0x5A, 1, 64⟩

/-- A run that crosses from word 0 into word 1, compared with a run at offset 0. -/
theorem cmp_region_bitwise_across_words :
    8 ≤ 8 ∧ bitarrayCmpRegion bitsAcrossWords 60 bitsLowByte 0 8 8 = some true :=
  ⟨by decide, (cmp_region_bitwise bitsAcrossWords bitsLowByte 60 0 8 8 (by decide)).1.trans
    (by decide)⟩

/-! ### Composing the operations -/

theorem setRegion_sizes (ba : Bitarray) (start len : Nat) (action : FillAction) :
    (setRegion ba start len action).numOfWords = ba.numOfWords ∧
      (setRegion ba start len action).numOfBits = ba.numOfBits := by
  unfold setRegion
  dsimp only
  split_ifs <;> exact ⟨rfl, rfl⟩

theorem setRegion_setRegion_sizes (ba : Bitarray) (start1 len1 start2 len2 : Nat)
    (a b : FillAction) :
    (setRegion (setRegion ba start1 len1 a) start2 len2 b).numOfWords = ba.numOfWords ∧
      (setRegion (setRegion ba start1 len1 a) start2 len2 b).numOfBits = ba.numOfBits :=
  ⟨(setRegion_sizes ..).1.trans (setRegion_sizes ..).1, (setRegion_sizes ..).2.trans (setRegion_sizes ..).2⟩

theorem bitarray_ext {a b : Bitarray} (hw : a.numOfWords = b.numOfWords)
    (hb : a.numOfBits = b.numOfBits)
    (h : ∀ i, wordBit (a.words (i / 64)) (i % 64) = wordBit (b.words (i / 64)) (i % 64)) :
    a = b := by
  obtain ⟨wa, na, ma⟩ := a
  obtain ⟨wb, nb, mb⟩ := b
  obtain rfl : na = nb := hw
  obtain rfl : ma = mb := hb
  congr
  funext w
  refine word_ext fun k hk => ?_
  have hi := h (w * 64 + k)
  rwa [show (w * 64 + k) / 64 = w by omega, show (w * 64 + k) % 64 = k by omega] at hi

theorem wordBit_setRegion_setRegion (ba : Bitarray) (start len : Nat) (a b : FillAction) (i : Nat) :
    wordBit ((setRegion (setRegion ba start len a) start len b).words (i / 64)) (i % 64) =
      if start ≤ i ∧ i < start + len then b.bit (a.bit (wordBit (ba.words (i / 64)) (i % 64)))
      else wordBit (ba.words (i / 64)) (i % 64) := by
  rw [wordBit_setRegion, wordBit_setRegion]
  split_ifs <;> rfl

/-- Toggling a region twice gives the bit array back, and a set or a clear of a region overrides
    whatever an earlier operation on the same region did. -/
theorem region_ops_compose (ba : Bitarray) (start len : Nat) :
    bitarrayToggleRegion (bitarrayToggleRegion ba start len) start len = ba ∧
      ∀ action, bitarraySetRegion (setRegion ba start len action) start len =
          bitarraySetRegion ba start len ∧
        bitarrayClearRegion (setRegion ba start len action) start len =
          bitarrayClearRegion ba start len := by
  have hsz := setRegion_setRegion_sizes ba start len start len
  refine ⟨?_, fun action => ⟨?_, ?_⟩⟩
  · refine bitarray_ext (hsz _ _).1 (hsz _ _).2 fun i => ?_
    rw [bitarrayToggleRegion, bitarrayToggleRegion, wordBit_setRegion_setRegion]
    split_ifs <;> simp only [FillAction.bit, Bool.not_not]
  all_goals
    refine bitarray_ext ((hsz _ _).1.trans (setRegion_sizes ..).1.symm)
      ((hsz _ _).2.trans (setRegion_sizes ..).2.symm) fun i => ?_
    simp only [bitarraySetRegion, bitarrayClearRegion]
    rw [wordBit_setRegion_setRegion, wordBit_setRegion]
    split_ifs <;> rfl

/-- Operations on two disjoint regions commute, also when the regions share a word: neither
    mask reaches into the other region. -/
theorem region_ops_commute (ba : Bitarray) {start1 len1 start2 len2 : Nat}
    (hdisj : start1 + len1 ≤ start2 ∨ start2 + len2 ≤ start1) (a1 a2 : FillAction) :
    setRegion (setRegion ba start1 len1 a1) start2 len2 a2 =
      setRegion (setRegion ba start2 len2 a2) start1 len1 a1 := by
  have hsz := setRegion_setRegion_sizes ba
  refine bitarray_ext ((hsz ..).1.trans (hsz ..).1.symm) ((hsz ..).2.trans (hsz ..).2.symm)
    fun i => ?_
  rw [wordBit_setRegion, wordBit_setRegion, wordBit_setRegion, wordBit_setRegion]
  by_cases h1 : start1 ≤ i ∧ i < start1 + len1
  · rw [if_neg (by omega), if_pos h1, if_pos h1, if_neg (by omega)]
  · rw [if_neg h1, if_neg h1]

/-- A fill of bits 3 to 7 and a toggle of bits 8 to 11, both in word 0. -/
theorem region_ops_commute_same_word :
    (3 + 5 ≤ 8 ∨ 8 + 4 ≤ 3) ∧
      setRegion (setRegion bitsLowByte 3 5 .fillRegion) 8 4 .swapRegion =
        setRegion (setRegion bitsLowByte 8 4 .swapRegion) 3 5 .fillRegion :=
  ⟨Or.inl (by decide), region_ops_commute bitsLowByte (Or.inl (by decide)) _ _⟩

/-- After a set of both runs `bitarray_cmp_region` finds them equal, and a run compared with its
    toggled self differs as soon as it is not empty. -/
theorem cmp_region_after_ops (ba1 ba2 : Bitarray) (start1 start2 len fuel : Nat)
    (hfuel : len ≤ fuel) :
    bitarrayCmpRegion (bitarraySetRegion ba1 start1 len) start1 (bitarraySetRegion ba2 start2 len)
        start2 len fuel = some true ∧
      bitarrayCmpRegion (bitarrayToggleRegion ba1 start1 len) start1 ba1 start1 len fuel =
        some (decide (len = 0)) := by
  unfold bitarrayCmpRegion
  by_cases hlen : len = 0
  · simp [hlen]
  rw [if_neg hlen, if_neg hlen, cmpRegionLoop_eq _ _ _ _ _ hfuel, cmpRegionLoop_eq _ _ _ _ _ hfuel,
    decide_eq_false hlen]
  have hin {i : Nat} (hi : i < len) (s : Nat) : s ≤ s + i ∧ s + i < s + len :=
    ⟨Nat.le_add_right _ _, Nat.add_lt_add_left hi _⟩
  refine ⟨congrArg some (decide_eq_true fun i hi => ?_), congrArg some (decide_eq_false fun h => ?_)⟩
  · rw [bitarraySetRegion, bitarraySetRegion, bitarrayGetBit_setRegion, bitarrayGetBit_setRegion,
      if_pos (hin hi start1), if_pos (hin hi start2)]
    rfl
  · have hpos : 0 < len := Nat.pos_of_ne_zero hlen
    have h0 := h 0 hpos
    rw [bitarrayToggleRegion, bitarrayGetBit_setRegion, if_pos (hin hpos start1),
      bitarrayGetBit_eq] at h0
    generalize wordBit (ba1.words ((start1 + 0) / 64)) ((start1 + 0) % 64) = b at h0
    cases b <;> exact absurd h0 (by decide)

/-- Five bits from bit 60, across words 0 and 1. -/
theorem cmp_region_after_ops_across_words :
    5 ≤ 5 ∧ bitarrayCmpRegion (bitarrayToggleRegion bitsAcrossWords 60 5) 60 bitsAcrossWords 60 5 5 =
      some false :=
  ⟨Nat.le_refl 5, (cmp_region_after_ops bitsAcrossWords bitsAcrossWords 60 60 5 5 (Nat.le_refl 5)).2⟩

end Libvmm.Util
