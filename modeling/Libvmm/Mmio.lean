import Libvmm.Block.Device
import Libvmm.Net.Emul

/-! src/src/virtio/block.c, src/src/virtio/virtio_net_emul.c | get_device_features /
    set_driver_features / get_device_config / set_device_config | scheme:register callbacks

    The callbacks the MMIO dispatcher (not in the tree) calls for the feature and configuration
    registers. Both `set_driver_features` handlers share one shape (`setDriverFeatures`) with
    their own window-0 test; a nonzero `success` sets `features_happy` for good
    (`features_happy_sticky`). The block device's configuration space is an unchecked store of
    `uint32_t` fields (`blk_config_offset_unchecked`, `blk_config_read_back`); the net device's
    words are the bytes of the MAC (`net_config_mac_layout`). The constants carry the VirtIO
    specification's values, their headers not being in the tree. -/

namespace Libvmm

/-- `BIT_LOW(n)`: `1ul << n`. -/
def bitLow (n : Nat) : Nat := 1 <<< n

/-- `BIT_HIGH(n)`: `1ul << (n - 32)`. -/
def bitHigh (n : Nat) : Nat := 1 <<< (n - 32)

/-- `VIRTIO_F_VERSION_1`. -/
def virtioFVersion1 : Nat := 32

/-- `VIRTIO_BLK_F_FLUSH`. -/
def virtioBlkFFlush : Nat := 9

/-- `VIRTIO_NET_F_MAC`. -/
def virtioNetFMac : Nat := 5

/-- The fields of the device's MMIO register file that the callbacks read or write. -/
structure MmioData where
  deviceFeaturesSel : Nat
  driverFeaturesSel : Nat
  featuresHappy : Bool

/-! ### Feature windows -/

/-- Both `get_device_features` callbacks: `window0`, then `BIT_HIGH(VIRTIO_F_VERSION_1)`. -/
def getDeviceFeatures (window0 : Nat) (d : MmioData) : Nat × Option Nat :=
  match d.deviceFeaturesSel with
  | 0 => (1, some window0)
  | 1 => (1, some (bitHigh virtioFVersion1))
  | _ => (0, none)

/-- `virtio_blk_mmio_get_device_features`. -/
def virtioBlkMmioGetDeviceFeatures : MmioData → Nat × Option Nat :=
  getDeviceFeatures (bitLow virtioBlkFFlush)

/-- `virtio_net_emul_get_device_features`. -/
def virtioNetEmulGetDeviceFeatures : MmioData → Nat × Option Nat :=
  getDeviceFeatures (bitLow virtioNetFMac)

/-- `success` of a `set_driver_features` call on window `sel`. -/
def driverFeaturesSuccess (window0 : UInt32 → Nat) (sel : Nat) (features : UInt32) : Nat :=
  match sel with
  | 0 => window0 features
  | 1 => if features.toNat = bitHigh virtioFVersion1 then 1 else 0
  | _ => 0

/-- Both `set_driver_features` callbacks: a nonzero `success` sets `features_happy`. -/
def setDriverFeatures (window0 : UInt32 → Nat) (d : MmioData) (features : UInt32) :
    MmioData × Nat :=
  let success := driverFeaturesSuccess window0 d.driverFeaturesSel features
  (if success ≠ 0 then { d with featuresHappy := true } else d, success)

/-- The block device's window-0 test: `success = (features & BIT_LOW(VIRTIO_BLK_F_FLUSH))`. -/
def virtioBlkWindow0 (features : UInt32) : Nat := features.toNat &&& bitLow virtioBlkFFlush

/-- The net device's window-0 test: `success = (features == BIT_LOW(VIRTIO_NET_F_MAC))`. -/
def virtioNetWindow0 (features : UInt32) : Nat :=
  if features.toNat = bitLow virtioNetFMac then 1 else 0

/-- `virtio_blk_mmio_set_driver_features`. -/
def virtioBlkMmioSetDriverFeatures : MmioData → UInt32 → MmioData × Nat :=
  setDriverFeatures virtioBlkWindow0

/-- `virtio_net_emul_set_driver_features`. -/
def virtioNetEmulSetDriverFeatures : MmioData → UInt32 → MmioData × Nat :=
  setDriverFeatures virtioNetWindow0

/-- A guest's run of feature writes, each to window `sel` of `DriverFeaturesSel`. -/
def driverFeaturesRun (set : MmioData → UInt32 → MmioData × Nat) (d : MmioData) :
    List (Nat × UInt32) → MmioData
  | [] => d
  | (sel, features) :: ws =>
    driverFeaturesRun set (set { d with driverFeaturesSel := sel } features).1 ws

/-- A value is a subset of the window a device reports. -/
def featuresSubset (features : UInt32) (reported : Nat) : Prop :=
  features.toNat &&& reported = features.toNat

instance (features : UInt32) (reported : Nat) : Decidable (featuresSubset features reported) :=
  inferInstanceAs (Decidable (_ = _))

theorem virtioBlkWindow0_ne_zero_iff (features : UInt32) :
    virtioBlkWindow0 features ≠ 0 ↔ features.toNat.testBit virtioBlkFFlush = true := by
  have hbit (i : Nat) : (virtioBlkWindow0 features).testBit i =
      (features.toNat.testBit i && decide (virtioBlkFFlush = i)) := by
    rw [virtioBlkWindow0, Nat.testBit_and, bitLow, Nat.one_shiftLeft, Nat.testBit_two_pow]
  constructor
  · intro h
    by_contra hb
    exact h (Nat.eq_of_testBit_eq fun i => by
      rw [hbit, Nat.zero_testBit]; by_cases hi : virtioBlkFFlush = i <;> simp_all)
  · intro h he
    have := hbit virtioBlkFFlush
    rw [he, Nat.zero_testBit, h] at this
    simp at this

theorem virtioNetWindow0_ne_zero_iff (features : UInt32) :
    virtioNetWindow0 features ≠ 0 ↔ features.toNat = bitLow virtioNetFMac := by
  unfold virtioNetWindow0
  split <;> simp_all

theorem setDriverFeatures_featuresHappy (window0 : UInt32 → Nat) (d : MmioData)
    (features : UInt32) :
    (setDriverFeatures window0 d features).1.featuresHappy =
      (d.featuresHappy || driverFeaturesSuccess window0 d.driverFeaturesSel features != 0) := by
  unfold setDriverFeatures
  dsimp only
  split <;> simp_all

theorem driverFeaturesRun_featuresHappy (window0 : UInt32 → Nat) (d : MmioData)
    (ws : List (Nat × UInt32)) :
    (driverFeaturesRun (setDriverFeatures window0) d ws).featuresHappy =
      (d.featuresHappy || ws.any fun w => driverFeaturesSuccess window0 w.1 w.2 != 0) := by
  induction ws generalizing d with
  | nil => simp [driverFeaturesRun]
  | cons w ws ih =>
    rw [driverFeaturesRun, ih, setDriverFeatures_featuresHappy]
    simp [Bool.or_assoc]

/-- On both devices `features_happy` is sticky: from any start and after any run of writes it
    is the start value or whether some write was accepted; and the block device's window-0 test
    accepts every value with the flush bit set. -/
theorem features_happy_sticky (d : MmioData) (ws : List (Nat × UInt32)) :
    (driverFeaturesRun virtioBlkMmioSetDriverFeatures d ws).featuresHappy =
        (d.featuresHappy || ws.any fun w => driverFeaturesSuccess virtioBlkWindow0 w.1 w.2 != 0) ∧
      (driverFeaturesRun virtioNetEmulSetDriverFeatures d ws).featuresHappy =
        (d.featuresHappy || ws.any fun w => driverFeaturesSuccess virtioNetWindow0 w.1 w.2 != 0) ∧
      ∀ features : UInt32, driverFeaturesSuccess virtioBlkWindow0 0 features ≠ 0 ↔
        features.toNat.testBit virtioBlkFFlush = true :=
  ⟨driverFeaturesRun_featuresHappy _ d ws, driverFeaturesRun_featuresHappy _ d ws,
    virtioBlkWindow0_ne_zero_iff⟩

/-- The register file after reset: both selectors and `features_happy` zero. -/
def mmioDataReset : MmioData := ⟨0, 0, false⟩

/-- A rejected net window-0 write after an accepted version write leaves `features_happy`
    set; the block device accepts `0xffffffff`, not a subset of what it reports. -/
theorem features_happy_sticky_runs :
    driverFeaturesSuccess virtioNetWindow0 0 0 = 0 ∧
      (driverFeaturesRun virtioNetEmulSetDriverFeatures mmioDataReset [(1, 1), (0, 0)]).featuresHappy ∧
      ¬featuresSubset 0xffffffff ((virtioBlkMmioGetDeviceFeatures mmioDataReset).2.getD 0) ∧
      (driverFeaturesRun virtioBlkMmioSetDriverFeatures mmioDataReset [(0, 0xffffffff)]).featuresHappy :=
  ⟨by decide, by decide, by decide, by decide⟩

/-! ### Configuration space -/

/-- `REG_VIRTIO_MMIO_CONFIG`. -/
def regVirtioMmioConfig : UInt32 := 0x100

/-- `config_field_offset`: `offset - REG_VIRTIO_MMIO_CONFIG` in `uint32_t`. -/
def configFieldOffset (offset : UInt32) : Nat := (offset - regVirtioMmioConfig).toNat

/-- `*(uint32_t *)addr = val` on a little-endian machine. -/
def writeU32 (m : Mem) (addr : Nat) (val : UInt32) : Mem :=
  fun j => if addr ≤ j ∧ j < addr + 4 then (val >>> (8 * (j - addr)).toUInt32).toUInt8 else m j

/-- `virtio_blk_mmio_get_device_config`, with `blk_config` at `configBaseAddr` in `vmm`: the
    return value and what it writes to `*ret_val`. -/
def virtioBlkMmioGetDeviceConfig (vmm : Mem) (configBaseAddr : Nat) (offset : UInt32) :
    Nat × Option Nat :=
  let configFieldAddr := configBaseAddr + configFieldOffset offset
  (1, some (Block.readU32 vmm configFieldAddr))

/-- `virtio_blk_mmio_set_device_config(dev, offset, val)`: the return value and the memory. -/
def virtioBlkMmioSetDeviceConfig (vmm : Mem) (configBaseAddr : Nat) (offset val : UInt32) :
    Nat × Mem :=
  let configFieldAddr := configBaseAddr + configFieldOffset offset
  (1, writeU32 vmm configFieldAddr val)

/-- `virtio_net_emul_get_device_config`, with `get_mac` giving `mac`. -/
def virtioNetEmulGetDeviceConfig (net : Net.VirtioNet) (mac : Nat → UInt8) (offset : UInt32) :
    Nat × Option Nat :=
  if 0x100 ≤ offset.toNat ∧ offset.toNat < 0x104 then
    if !net.ttInterface then (0, none)
    else (1, some ((mac 0).toNat ||| (mac 1).toNat <<< 8 ||| (mac 2).toNat <<< 16 |||
      (mac 3).toNat <<< 24))
  else if 0x104 ≤ offset.toNat ∧ offset.toNat < 0x108 then
    if !net.ttInterface then (0, none)
    else (1, some ((mac 4).toNat ||| (mac 5).toNat <<< 8))
  else (0, none)

/-- `virtio_net_emul_set_device_config`: the configuration is read-only. -/
def virtioNetEmulSetDeviceConfig (net : Net.VirtioNet) (_offset _val : UInt32) :
    Nat × Net.VirtioNet :=
  (0, net)

theorem configFieldOffset_of_lt {offset : UInt32} (h : offset.toNat < 0x100) :
    2 ^ 32 - 0x100 ≤ configFieldOffset offset := by
  show 2 ^ 32 - 0x100 ≤ (offset.toBitVec - regVirtioMmioConfig.toBitVec).toNat
  rw [BitVec.toNat_sub]
  show 2 ^ 32 - 0x100 ≤ (2 ^ 32 - 0x100 + offset.toNat) % 2 ^ 32
  omega

/-- DEFECT: below `REG_VIRTIO_MMIO_CONFIG` both accessors succeed, and `set` writes `val` at
    `&blk_config + 2^32 - 0x100` or beyond, outside any `struct virtio_blk_config`. -/
theorem blk_config_offset_unchecked (vmm : Mem) (configBaseAddr : Nat) (offset val : UInt32)
    (hoff : offset.toNat < 0x100) :
    2 ^ 32 - 0x100 ≤ configFieldOffset offset ∧
      (virtioBlkMmioGetDeviceConfig vmm configBaseAddr offset).1 = 1 ∧
      (virtioBlkMmioSetDeviceConfig vmm configBaseAddr offset val).1 = 1 ∧
      (virtioBlkMmioSetDeviceConfig vmm configBaseAddr offset val).2
        (configBaseAddr + configFieldOffset offset) = val.toUInt8 := by
  refine ⟨configFieldOffset_of_lt hoff, rfl, rfl, ?_⟩
  show (if _ then _ else _) = _
  rw [if_pos ⟨le_rfl, by omega⟩, Nat.sub_self, Nat.mul_zero]
  rfl

/-- Offset `0` writes the low byte of `val` at `&blk_config + 0xffffff00`. -/
theorem blk_config_offset_unchecked_zero :
    (0 : UInt32).toNat < 0x100 ∧ configFieldOffset 0 = 0xffffff00 ∧
      (virtioBlkMmioSetDeviceConfig (fun _ => 0) 0x10000 0 0xffffffff).2 (0x10000 + 0xffffff00) =
        0xff :=
  ⟨by decide, by decide, (blk_config_offset_unchecked (fun _ => 0) 0x10000 0 0xffffffff
    (by decide)).2.2.2.trans (by decide)⟩

theorem toNat_shiftRight_toUInt8 (v : UInt32) (k : Nat) :
    (v >>> k.toUInt32).toUInt8.toNat = v.toNat / 2 ^ (k % 32) % 256 := by
  show (BitVec.ofNat 8 (v.toBitVec >>> (k.toUInt32 % 32).toBitVec).toNat).toNat = _
  rw [BitVec.toNat_ofNat, BitVec.ushiftRight_eq', BitVec.toNat_ushiftRight,
    Block.toNat_shiftAmount32, Nat.shiftRight_eq_div_pow]
  rfl

theorem readU32_writeU32 (m : Mem) (addr : Nat) (v : UInt32) :
    Block.readU32 (writeU32 m addr v) addr = v.toNat := by
  have hv := v.toNat_lt_size
  simp (disch := omega) only [Block.readU32, writeU32, if_pos, Nat.add_sub_cancel_left,
    Nat.sub_self, toNat_shiftRight_toUInt8]
  simp only [UInt32.size, Nat.reduceMul, Nat.reduceMod, Nat.reducePow] at hv ⊢
  omega

theorem readU32_writeU32_of_disjoint (m : Mem) {a a' : Nat} (v : UInt32)
    (h : a + 4 ≤ a' ∨ a' + 4 ≤ a) :
    Block.readU32 (writeU32 m a' v) a = Block.readU32 m a := by
  simp only [Block.readU32, writeU32]
  rw [if_neg (by omega), if_neg (by omega), if_neg (by omega), if_neg (by omega)]

theorem readU32_setConfigRun {configBaseAddr a : Nat} (ws : List (UInt32 × UInt32)) (m : Mem)
    (hdisj : ∀ w ∈ ws, a + 4 ≤ configBaseAddr + configFieldOffset w.1 ∨
      configBaseAddr + configFieldOffset w.1 + 4 ≤ a) :
    Block.readU32
        (ws.foldl (fun m w => (virtioBlkMmioSetDeviceConfig m configBaseAddr w.1 w.2).2) m) a =
      Block.readU32 m a := by
  induction ws generalizing m with
  | nil => rfl
  | cons w ws ih =>
    rw [List.foldl_cons, ih _ fun w' hw' => hdisj w' (List.mem_cons_of_mem _ hw')]
    exact readU32_writeU32_of_disjoint m w.2 (hdisj w (List.mem_cons_self _ _))

/-- After any run of `set_device_config` calls, `get_device_config` at `offset` returns the
    value last written there, when no later write overlaps its four bytes. -/
theorem blk_config_read_back (vmm : Mem) (configBaseAddr : Nat) (ws ws' : List (UInt32 × UInt32))
    (offset val : UInt32)
    (hdisj : ∀ w ∈ ws', configFieldOffset offset + 4 ≤ configFieldOffset w.1 ∨
      configFieldOffset w.1 + 4 ≤ configFieldOffset offset) :
    virtioBlkMmioGetDeviceConfig
        ((ws ++ (offset, val) :: ws').foldl
          (fun m w => (virtioBlkMmioSetDeviceConfig m configBaseAddr w.1 w.2).2) vmm)
        configBaseAddr offset = (1, some val.toNat) := by
  rw [List.foldl_append, List.foldl_cons, virtioBlkMmioGetDeviceConfig,
    readU32_setConfigRun _ _ fun w hw => by have := hdisj w hw; omega]
  exact congrArg (fun n => (1, some n)) (readU32_writeU32 _ _ _)

/-- `0xdeadbeef` written at `0x100`, then `7` at `0x108`, reads back at `0x100`. -/
theorem blk_config_read_back_capacity :
    (∀ w ∈ [((0x108 : UInt32), (7 : UInt32))],
      configFieldOffset 0x100 + 4 ≤ configFieldOffset w.1 ∨
        configFieldOffset w.1 + 4 ≤ configFieldOffset 0x100) ∧
    virtioBlkMmioGetDeviceConfig
        (([] ++ ((0x100 : UInt32), (0xdeadbeef : UInt32)) :: [(0x108, 7)]).foldl
          (fun m (w : UInt32 × UInt32) => (virtioBlkMmioSetDeviceConfig m 0x10000 w.1 w.2).2)
          fun _ => 0)
        0x10000 0x100 = (1, some (0xdeadbeef : UInt32).toNat) :=
  ⟨by decide, blk_config_read_back (fun _ => 0) 0x10000 [] [(0x108, 7)] 0x100 0xdeadbeef
    (by decide)⟩

theorem or_shiftLeft_eq_add {x : Nat} (a : Nat) {i : Nat} (hx : x < 2 ^ i) :
    x ||| a <<< i = 2 ^ i * a + x := by
  apply Nat.eq_of_testBit_eq
  intro j
  rw [Nat.testBit_or, Nat.testBit_shiftLeft, Nat.testBit_mul_pow_two_add a hx]
  by_cases hj : j < i
  · simp [hj]
  · have hx' : x < 2 ^ j := lt_of_lt_of_le hx (Nat.pow_le_pow_right (by omega) (by omega))
    simp [hj, Nat.testBit_lt_two_pow hx', Nat.le_of_not_lt hj]

/-- Modelled from the VirtIO specification: byte `i` of `struct virtio_net_config` as this
    device fills it, the six bytes of `mac` and nothing after them. -/
def virtioNetConfigByte (mac : Nat → UInt8) (i : Nat) : Nat := if i < 6 then (mac i).toNat else 0

/-- The net device's configuration words are the little-endian bytes of the MAC: with the
    interface installed, `get_device_config` at any offset in `0x100`-`0x107` succeeds with a
    `uint32_t` whose four bytes are those of `struct virtio_net_config` from the word's start,
    `mac[0..3]` below `0x104`, `mac[4..5]` and two zero bytes from there. -/
theorem net_config_mac_layout (net : Net.VirtioNet) (mac : Nat → UInt8)
    (htt : net.ttInterface = true) (offset : UInt32)
    (hoff : 0x100 ≤ offset.toNat ∧ offset.toNat < 0x108) :
    ∃ v < 2 ^ 32, virtioNetEmulGetDeviceConfig net mac offset = (1, some v) ∧
      ∀ j < 4, v / 2 ^ (8 * j) % 256 =
        virtioNetConfigByte mac (4 * ((offset.toNat - 0x100) / 4) + j) := by
  have hb (k : Nat) : (mac k).toNat < 2 ^ 8 := (mac k).toNat_lt_size
  have h0 := hb 0; have h1 := hb 1; have h2 := hb 2; have h3 := hb 3; have h4 := hb 4
  have h5 := hb 5
  unfold virtioNetEmulGetDeviceConfig
  simp only [htt, Bool.not_true, Bool.false_eq_true, if_false]
  by_cases hlo : offset.toNat < 0x104
  · rw [if_pos ⟨hoff.1, hlo⟩]
    simp (disch := omega) only [or_shiftLeft_eq_add]
    refine ⟨_, by omega, rfl, fun j hj => ?_⟩
    rw [show (offset.toNat - 0x100) / 4 = 0 by omega]
    rcases j with _ | _ | _ | _ | j <;> simp [virtioNetConfigByte] <;> omega
  · rw [if_neg (by omega), if_pos ⟨by omega, hoff.2⟩, or_shiftLeft_eq_add _ h4]
    refine ⟨_, by omega, rfl, fun j hj => ?_⟩
    rw [show (offset.toNat - 0x100) / 4 = 1 by omega]
    rcases j with _ | _ | _ | _ | j <;> simp [virtioNetConfigByte] <;> omega

/-- The high word of a device set up by `virtio_net_emul_init`, read at `0x105`. -/
theorem net_config_mac_layout_high :
    (Net.virtioNetEmulInit Net.netTxTwoDesc true).ttInterface = true ∧
    (0x100 ≤ (0x105 : UInt32).toNat ∧ (0x105 : UInt32).toNat < 0x108) ∧
    ∃ v < 2 ^ 32, virtioNetEmulGetDeviceConfig (Net.virtioNetEmulInit Net.netTxTwoDesc true)
        (fun i => (0x50 + i).toUInt8) 0x105 = (1, some v) ∧
      ∀ j < 4, v / 2 ^ (8 * j) % 256 = virtioNetConfigByte (fun i => (0x50 + i).toUInt8) (4 + j) :=
  ⟨rfl, by decide, net_config_mac_layout _ _ rfl 0x105 (by decide)⟩

end Libvmm
