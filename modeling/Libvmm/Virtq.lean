import Mathlib.Logic.Function.Basic
import Mathlib.Data.List.Nodup
import Mathlib.Algebra.Group.Nat.Basic

/-! src/src/virtio | struct vring, struct vring_desc, struct vring_used_elem | shared by block and net

    The split virtqueue as the emulators see it: the guest owns the descriptor table and the
    avail ring, the device owns `last_idx` and the used ring. Ring indices are `uint16_t`,
    slots are taken `mod num`, and guest RAM is a byte map kept apart from the rings. `Chain`
    is what following `next` while `VRING_DESC_F_NEXT` is set visits, and `WellFormed` adds
    that it repeats no entry and stays below `num`. -/

namespace Libvmm

/-- `VRING_DESC_F_NEXT`: the descriptor continues through its `next` field. -/
def vringDescFNext : Nat := 1

/-- `VRING_DESC_F_WRITE`: the buffer is device-writable (every RX buffer has it). -/
def vringDescFWrite : Nat := 2

/-- `struct vring_desc`: buffer address, length, flags and the next index. -/
structure VringDesc where
  addr : Nat
  len : Nat
  flags : Nat
  next : Nat
  deriving DecidableEq, Repr

/-- The loop test `desc.flags & VRING_DESC_F_NEXT`. -/
def VringDesc.hasNext (d : VringDesc) : Bool := d.flags &&& vringDescFNext != 0

/-- `struct vring_used_elem`: the chain head given back and the bytes written into it. -/
structure VringUsedElem where
  id : Nat
  len : Nat
  deriving DecidableEq, Repr

/-- Guest RAM, byte-addressed. -/
abbrev Mem := Nat → UInt8

/-- `memcpy(dst + d, src + s, n)` of `util.h`. -/
def memcpy (dst : Nat → UInt8) (d : Nat) (src : Nat → UInt8) (s n : Nat) : Nat → UInt8 :=
  fun j => if d ≤ j ∧ j < d + n then src (s + (j - d)) else dst j

@[simp] theorem memcpy_zero (dst : Nat → UInt8) (d : Nat) (src : Nat → UInt8) (s : Nat) :
    memcpy dst d src s 0 = dst :=
  funext fun _ => if_neg fun h => by omega

theorem memcpy_changed {dst src : Nat → UInt8} {d s n j : Nat} (h : memcpy dst d src s n j ≠ dst j) :
    d ≤ j ∧ j < d + n :=
  of_not_not fun hj => h (if_neg hj)

/-- The `n` bytes of `m` from `a` on. -/
def bytesAt (m : Nat → UInt8) (a n : Nat) : List UInt8 := (List.range n).map fun j => m (a + j)

@[simp] theorem bytesAt_length (m : Nat → UInt8) (a n : Nat) : (bytesAt m a n).length = n := by
  simp [bytesAt]

theorem bytesAt_add (m : Nat → UInt8) (a n k : Nat) :
    bytesAt m a (n + k) = bytesAt m a n ++ bytesAt m (a + n) k := by
  simp only [bytesAt, List.range_add, List.map_append, List.map_map, Function.comp_def,
    Nat.add_assoc]

theorem bytesAt_drop (m : Nat → UInt8) (a n k : Nat) :
    (bytesAt m a n).drop k = bytesAt m (a + k) (n - k) :=
  List.ext_getElem (by simp) fun _ _ _ => by simp [bytesAt, Nat.add_assoc]

theorem bytesAt_take (m : Nat → UInt8) (a n k : Nat) :
    (bytesAt m a n).take k = bytesAt m a (min k n) := by
  rw [bytesAt, ← List.map_take, List.take_range]; rfl

theorem bytesAt_eq_of_count {m : Nat → UInt8} {a a' n n' : Nat} (hn : n = n')
    (ha : n = 0 ∨ a = a') : bytesAt m a n = bytesAt m a' n' := by
  subst hn; rcases ha with rfl | rfl <;> rfl

theorem bytesAt_congr {m m' : Nat → UInt8} {a n : Nat}
    (h : ∀ j, a ≤ j → j < a + n → m j = m' j) : bytesAt m a n = bytesAt m' a n :=
  List.map_congr_left fun _ hj => h _ (Nat.le_add_right _ _) (by simp at hj; omega)

theorem bytesAt_memcpy (dst : Nat → UInt8) (d : Nat) (src : Nat → UInt8) (s n : Nat) :
    bytesAt (memcpy dst d src s n) d n = bytesAt src s n :=
  List.map_congr_left fun j hj => by simp at hj; simp [memcpy, hj]

/-- `uint16_t` increment. -/
def u16Succ (i : Nat) : Nat := (i + 1) % 2 ^ 16

/-- One split virtqueue: `num`, the descriptor table, the avail ring and the used ring. -/
structure Vring where
  num : Nat
  desc : Nat → VringDesc
  availIdx : Nat
  availRing : Nat → Nat
  usedIdx : Nat
  usedRing : Nat → VringUsedElem

/-- The per-queue handler state of the emulator (`virtqueue_t`, `virtio_queue_handler_t`). -/
structure VirtqHandler where
  ready : Bool
  lastIdx : Nat
  vring : Vring

/-! ### The used ring -/

/-- `used->ring[used->idx % num] = e; used->idx++`. -/
def Vring.addUsed (vr : Vring) (e : VringUsedElem) : Vring :=
  { vr with usedRing := Function.update vr.usedRing (vr.usedIdx % vr.num) e,
            usedIdx := u16Succ vr.usedIdx }

@[simp] theorem Vring.addUsed_desc (vr : Vring) (e : VringUsedElem) :
    (vr.addUsed e).desc = vr.desc := rfl

@[simp] theorem Vring.addUsed_num (vr : Vring) (e : VringUsedElem) :
    (vr.addUsed e).num = vr.num := rfl

@[simp] theorem Vring.addUsed_availIdx (vr : Vring) (e : VringUsedElem) :
    (vr.addUsed e).availIdx = vr.availIdx := rfl

@[simp] theorem Vring.addUsed_availRing (vr : Vring) (e : VringUsedElem) :
    (vr.addUsed e).availRing = vr.availRing := rfl

@[simp] theorem Vring.addUsed_usedIdx (vr : Vring) (e : VringUsedElem) :
    (vr.addUsed e).usedIdx = u16Succ vr.usedIdx := rfl

/-- Appending a batch of used entries one after the other. -/
def Vring.addUsedList (vr : Vring) (es : List VringUsedElem) : Vring := es.foldl Vring.addUsed vr

@[simp] theorem Vring.addUsedList_nil (vr : Vring) : vr.addUsedList [] = vr := rfl

@[simp] theorem Vring.addUsedList_cons (vr : Vring) (e : VringUsedElem) (es : List VringUsedElem) :
    vr.addUsedList (e :: es) = (vr.addUsed e).addUsedList es := rfl

@[simp] theorem Vring.addUsedList_desc (vr : Vring) (es : List VringUsedElem) :
    (vr.addUsedList es).desc = vr.desc := by
  induction es generalizing vr <;> simp [*]

@[simp] theorem Vring.addUsedList_num (vr : Vring) (es : List VringUsedElem) :
    (vr.addUsedList es).num = vr.num := by
  induction es generalizing vr <;> simp [*]

@[simp] theorem Vring.addUsedList_availIdx (vr : Vring) (es : List VringUsedElem) :
    (vr.addUsedList es).availIdx = vr.availIdx := by
  induction es generalizing vr <;> simp [*]

@[simp] theorem Vring.addUsedList_availRing (vr : Vring) (es : List VringUsedElem) :
    (vr.addUsedList es).availRing = vr.availRing := by
  induction es generalizing vr <;> simp [*]

/-- The used entries at slots `usedIdx, usedIdx + 1, ...` (`mod 2^16`, `mod num`), `n` of them. -/
def Vring.usedFrom (vr : Vring) (idx : Nat) : Nat → List VringUsedElem
  | 0 => []
  | n + 1 => vr.usedRing (idx % vr.num) :: vr.usedFrom (u16Succ idx) n

/-! ### The avail ring -/

/-- The heads in avail-ring positions `idx, idx + 1, ...` (`mod 2^16`, `mod num`), `n` of them. -/
def Vring.availFrom (vr : Vring) (idx : Nat) : Nat → List Nat
  | 0 => []
  | n + 1 => vr.availRing (idx % vr.num) :: vr.availFrom (u16Succ idx) n

/-- How many times `for (idx = last; idx != avail->idx; idx++)` runs over `uint16_t`. -/
def availCount (availIdx lastIdx : Nat) : Nat := (availIdx + 2 ^ 16 - lastIdx) % 2 ^ 16

/-! ### Descriptor chains -/

/-- From `i`, following `next` while `VRING_DESC_F_NEXT` is set visits `l`. -/
inductive Chain (desc : Nat → VringDesc) : Nat → List Nat → Prop
  | last {i : Nat} : (desc i).hasNext = false → Chain desc i [i]
  | cons {i : Nat} {l : List Nat} :
      (desc i).hasNext = true → Chain desc (desc i).next l → Chain desc i (i :: l)

/-- A well-formed chain: acyclic and inside the table. -/
structure WellFormed (num : Nat) (desc : Nat → VringDesc) (head : Nat) (l : List Nat) : Prop where
  chain : Chain desc head l
  nodup : l.Nodup
  lt_num : ∀ i ∈ l, i < num

theorem Chain.ne_nil {desc : Nat → VringDesc} {i : Nat} {l : List Nat} (h : Chain desc i l) :
    l ≠ [] := by
  cases h <;> simp

theorem Chain.tail_of_two_le {desc : Nat → VringDesc} {i : Nat} {l : List Nat}
    (hc : Chain desc i l) (h2 : 2 ≤ l.length) :
    l = i :: l.tail ∧ Chain desc (desc i).next l.tail := by
  cases hc with
  | last => simp at h2
  | cons _ hc => exact ⟨rfl, hc⟩

theorem Chain.congr {desc desc' : Nat → VringDesc} {i : Nat} {l : List Nat} (h : Chain desc i l)
    (he : ∀ j ∈ l, desc' j = desc j) : Chain desc' i l := by
  induction h with
  | last hn => exact .last (by rw [he _ (List.mem_singleton_self _)]; exact hn)
  | cons hn _ ih =>
    have e := he _ (List.mem_cons_self _ _)
    exact .cons (by rw [e]; exact hn)
      (by rw [e]; exact ih fun j hj => he j (List.mem_cons_of_mem _ hj))

theorem WellFormed.length_le {num : Nat} {desc : Nat → VringDesc} {head : Nat} {l : List Nat}
    (h : WellFormed num desc head l) : l.length ≤ num := by
  have hsub : l.Subperm (List.range num) :=
    List.subperm_of_subset h.nodup (fun i hi => List.mem_range.2 (h.lt_num i hi))
  simpa using hsub.length_le

end Libvmm
