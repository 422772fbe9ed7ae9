import Libvmm.Virtq
import Mathlib.Data.Nat.ModEq

/-! src/src/virtio | the avail and used rings over a run | scheme:protocol

    One virtqueue between the guest and a device, as sequences. `AvailInv` ties the avail ring
    to the ghost list `pub` of heads published since the guest last restarted `avail->idx`.
    `AvailRun` is the protocol with a device that takes every pending head at once; with `num`
    a power of two at most `2^15` such a device takes the heads published, in order
    (`AvailRun.fifo`), and a batch of used appends fills consecutive slots
    (`Vring.usedFrom_addUsedList`). The block and TX notifies refine it (`BlkRun.availRun`,
    `TxRun.inv`). -/

namespace Libvmm

/-! ### Slot arithmetic -/

theorem mod_add_mod_of_dvd {n m : Nat} (h : n ∣ m) (a k : Nat) : (a % m + k) % n = (a + k) % n :=
  ((Nat.mod_modEq a m).of_dvd h).add_right k

theorem mod_ne_of_lt_of_lt_add {p q num : Nat} (h1 : p < q) (h2 : q < p + num) :
    p % num ≠ q % num := fun h => by
  have := Nat.le_of_dvd (by omega) ((Nat.modEq_iff_dvd' h1.le).1 h)
  omega

theorem u16Succ_add_mod {num : Nat} (hdvd : num ∣ 2 ^ 16) (i k : Nat) :
    (u16Succ i + k) % num = (i + (k + 1)) % num := by
  rw [u16Succ, mod_add_mod_of_dvd hdvd, Nat.add_right_comm, Nat.add_assoc]

/-! ### The rings as lists -/

theorem Vring.availFrom_eq_map {vr : Vring} (hdvd : vr.num ∣ 2 ^ 16) (idx n : Nat) :
    vr.availFrom idx n = (List.range n).map fun k => vr.availRing ((idx + k) % vr.num) := by
  induction n generalizing idx with
  | zero => rfl
  | succ n ih => simp [Vring.availFrom, List.range_succ_eq_map, ih, u16Succ_add_mod hdvd]

theorem Vring.usedFrom_eq_map {vr : Vring} (hdvd : vr.num ∣ 2 ^ 16) (idx n : Nat) :
    vr.usedFrom idx n = (List.range n).map fun k => vr.usedRing ((idx + k) % vr.num) := by
  induction n generalizing idx with
  | zero => rfl
  | succ n ih => simp [Vring.usedFrom, List.range_succ_eq_map, ih, u16Succ_add_mod hdvd]

section
variable {vr : Vring} (hdvd : vr.num ∣ 2 ^ 16)
include hdvd

theorem Vring.addUsedList_usedRing_of_ne {es : List VringUsedElem} {s : Nat}
    (hs : ∀ k < es.length, (vr.usedIdx + k) % vr.num ≠ s) :
    (vr.addUsedList es).usedRing s = vr.usedRing s := by
  induction es generalizing vr with
  | nil => rfl
  | cons e es ih =>
    rw [Vring.addUsedList_cons, @ih (vr.addUsed e) hdvd fun k hk => by
      simpa [u16Succ_add_mod hdvd] using hs (k + 1) (by simp; omega)]
    exact Function.update_noteq (by simpa using (hs 0 (by simp)).symm) _ _

theorem Vring.addUsedList_usedRing {es : List VringUsedElem} (hlen : es.length ≤ vr.num)
    {k : Nat} (hk : k < es.length) :
    (vr.addUsedList es).usedRing ((vr.usedIdx + k) % vr.num) = es[k] := by
  induction es generalizing vr k with
  | nil => simp at hk
  | cons e es ih =>
    simp only [List.length_cons] at hlen hk
    rw [Vring.addUsedList_cons]
    cases k with
    | zero =>
      rw [Vring.addUsedList_usedRing_of_ne (by simpa using hdvd) fun j hj => by
        simpa [u16Succ_add_mod hdvd] using (mod_ne_of_lt_of_lt_add (by omega) (by omega)).symm]
      simp [Vring.addUsed]
    | succ k =>
      rw [← u16Succ_add_mod hdvd]
      exact ih (by simpa using hdvd) (by simpa using hlen.trans' (by omega)) (by omega)

theorem Vring.usedFrom_addUsedList {es : List VringUsedElem} (hlen : es.length ≤ vr.num) :
    (vr.addUsedList es).usedFrom vr.usedIdx es.length = es := by
  rw [Vring.usedFrom_eq_map (by simpa using hdvd)]
  exact List.ext_getElem (by simp) fun k h _ => by
    simpa using Vring.addUsedList_usedRing hdvd hlen (by simpa using h)

end

theorem Vring.addUsedList_usedIdx (vr : Vring) (es : List VringUsedElem) :
    (vr.addUsedList es).usedIdx % 2 ^ 16 = (vr.usedIdx + es.length) % 2 ^ 16 := by
  induction es generalizing vr with
  | nil => rfl
  | cons e es ih => rw [Vring.addUsedList_cons, ih]; simp [u16Succ]; omega

/-! ### The guest -/

/-- The guest publishes `head`: `ring[avail->idx % num] = head; avail->idx++`. -/
def VirtqHandler.guestPublish (vq : VirtqHandler) (head : Nat) : VirtqHandler :=
  { vq with vring := { vq.vring with
    availRing := Function.update vq.vring.availRing (vq.vring.availIdx % vq.vring.num) head
    availIdx := u16Succ vq.vring.availIdx } }

/-- The guest restarts `avail->idx` at 0 after a reset. -/
def VirtqHandler.guestRestart (vq : VirtqHandler) : VirtqHandler :=
  { vq with vring := { vq.vring with availIdx := 0 } }

/-- The device left the guest's side of the queue alone. -/
structure VirtqHandler.KeepsAvail (vq vq' : VirtqHandler) : Prop where
  num : vq'.vring.num = vq.vring.num
  availIdx : vq'.vring.availIdx = vq.vring.availIdx
  availRing : vq'.vring.availRing = vq.vring.availRing

/-- The heads `for (idx = last_idx; idx != avail->idx; idx++)` reads. -/
def VirtqHandler.pendingHeads (vq : VirtqHandler) : List Nat :=
  vq.vring.availFrom vq.lastIdx (availCount vq.vring.availIdx vq.lastIdx)

/-- The ring holds the publications `pub`, at most `num` of them ahead of the device's
    position `c`. -/
structure AvailInv (num : Nat) (vr : Vring) (pub : List Nat) (c : Nat) : Prop where
  num_eq : vr.num = num
  idx : vr.availIdx = pub.length % 2 ^ 16
  bound : pub.length ≤ c + num
  slots : ∀ p (hp : p < pub.length), pub.length ≤ p + num → vr.availRing (p % num) = pub[p]

theorem availInv_restart {num : Nat} {vq : VirtqHandler} (hn : vq.vring.num = num) (c : Nat) :
    AvailInv num vq.guestRestart.vring [] c :=
  ⟨hn, rfl, by simp, fun p hp => by simp at hp⟩

theorem AvailInv.keep {num c : Nat} {vq vq' : VirtqHandler} {pub : List Nat}
    (hi : AvailInv num vq.vring pub c) (hk : vq.KeepsAvail vq') {c' : Nat} (hc : c ≤ c') :
    AvailInv num vq'.vring pub c' :=
  ⟨hk.num ▸ hi.num_eq, hk.availIdx ▸ hi.idx, by have := hi.bound; omega,
    fun p hp hpn => hk.availRing ▸ hi.slots p hp hpn⟩

theorem AvailInv.publish {num c : Nat} {vq : VirtqHandler} {pub : List Nat} (hdvd : num ∣ 2 ^ 16)
    (hi : AvailInv num vq.vring pub c) (hlt : pub.length < c + num) (head : Nat) :
    AvailInv num (vq.guestPublish head).vring (pub ++ [head]) c := by
  have hslot : vq.vring.availIdx % vq.vring.num = pub.length % num := by
    rw [hi.idx, hi.num_eq, Nat.mod_mod_of_dvd _ hdvd]
  refine ⟨hi.num_eq, ?_, by simp; omega, fun p hp hpn => ?_⟩
  · simp only [VirtqHandler.guestPublish, u16Succ, hi.idx, List.length_append,
      List.length_singleton]
    omega
  · simp only [VirtqHandler.guestPublish, hslot]
    simp only [List.length_append, List.length_singleton] at hp hpn
    by_cases hpl : p = pub.length
    · subst hpl; simp
    · have hp' : p < pub.length := by omega
      rw [Function.update_noteq (mod_ne_of_lt_of_lt_add hp' (by omega)),
        List.getElem_append_left hp']
      exact hi.slots p hp' (by omega)

theorem AvailInv.pendingHeads {num c : Nat} {vq : VirtqHandler} {pub : List Nat}
    (hdvd : num ∣ 2 ^ 15) (hi : AvailInv num vq.vring pub c) (hc : c ≤ pub.length)
    (hl : vq.lastIdx = c % 2 ^ 16) : vq.pendingHeads = pub.drop c := by
  have h16 : num ∣ 2 ^ 16 := hdvd.trans (pow_dvd_pow 2 (by omega))
  have hnum : num ≤ 2 ^ 15 := Nat.le_of_dvd (Nat.two_pow_pos 15) hdvd
  have hcount : availCount vq.vring.availIdx vq.lastIdx = pub.length - c := by
    rw [hi.idx, hl, availCount]; have := hi.bound; omega
  rw [VirtqHandler.pendingHeads, hcount, Vring.availFrom_eq_map (hi.num_eq ▸ h16)]
  refine List.ext_getElem (by simp) fun k h _ => ?_
  simp only [List.length_map, List.length_range] at h
  simp only [List.getElem_map, List.getElem_range, List.getElem_drop, hl, hi.num_eq,
    mod_add_mod_of_dvd h16]
  exact hi.slots _ _ (by have := hi.bound; omega)

/-! ### The avail-ring protocol -/

/-- Runs of a queue whose device takes every pending head at once. -/
inductive AvailRun (num : Nat) : VirtqHandler → List Nat → List Nat → Prop
  | start {vq : VirtqHandler} : vq.vring.num = num → vq.lastIdx = 0 → vq.vring.availIdx = 0 →
      AvailRun num vq [] []
  | publish {vq : VirtqHandler} {pub taken : List Nat} (head : Nat) : AvailRun num vq pub taken →
      pub.length < taken.length + num → AvailRun num (vq.guestPublish head) (pub ++ [head]) taken
  | consume {vq vq' : VirtqHandler} {pub taken : List Nat} : AvailRun num vq pub taken →
      vq.KeepsAvail vq' → vq'.lastIdx = vq.vring.availIdx →
      AvailRun num vq' pub (taken ++ vq.pendingHeads)
  | idle {vq vq' : VirtqHandler} {pub taken : List Nat} : AvailRun num vq pub taken →
      vq.KeepsAvail vq' → vq'.lastIdx = vq.lastIdx → AvailRun num vq' pub taken

theorem AvailRun.num_eq {num : Nat} {vq : VirtqHandler} {pub taken : List Nat}
    (h : AvailRun num vq pub taken) : vq.vring.num = num := by
  induction h with
  | start hn => exact hn
  | publish _ _ _ ih => exact ih
  | consume _ hk _ ih | idle _ hk _ ih => exact hk.num.trans ih

/-- The run invariant: the ring holds `pub`, the cursor at the end of its prefix `taken`. -/
structure ConsumeInv (num : Nat) (vq : VirtqHandler) (pub taken : List Nat) : Prop where
  avail : AvailInv num vq.vring pub taken.length
  last : vq.lastIdx = taken.length % 2 ^ 16
  taken_first : taken <+: pub

section
variable {num : Nat} (hdvd : num ∣ 2 ^ 15)
include hdvd

theorem ConsumeInv.fifo {vq : VirtqHandler} {pub taken : List Nat}
    (hi : ConsumeInv num vq pub taken) : taken ++ vq.pendingHeads = pub := by
  have hle := hi.taken_first.length_le
  rw [hi.avail.pendingHeads hdvd hle hi.last, List.prefix_iff_eq_take.1 hi.taken_first,
    List.length_take, Nat.min_eq_left hle, List.take_append_drop]

theorem AvailRun.inv {vq : VirtqHandler} {pub taken : List Nat} (h : AvailRun num vq pub taken) :
    ConsumeInv num vq pub taken := by
  induction h with
  | start hn hl ha =>
    exact ⟨⟨hn, by simp [ha], by simp, fun p hp => by simp at hp⟩, hl, List.nil_prefix⟩
  | publish head _ hlt ih =>
    exact ⟨ih.avail.publish (hdvd.trans (pow_dvd_pow 2 (by omega))) hlt head, ih.last,
      ih.taken_first.trans (List.prefix_append _ _)⟩
  | consume _ hk hl ih =>
    rw [ih.fifo hdvd]
    exact ⟨ih.avail.keep hk ih.taken_first.length_le, by rw [hl, ih.avail.idx],
      List.prefix_refl _⟩
  | idle _ hk hl ih => exact ⟨ih.avail.keep hk le_rfl, hl ▸ ih.last, ih.taken_first⟩

/-- FIFO: the heads read, then those read next, are the heads published, in order. -/
theorem AvailRun.fifo {vq : VirtqHandler} {pub taken : List Nat} (h : AvailRun num vq pub taken) :
    taken ++ vq.pendingHeads = pub ∧ vq.lastIdx = taken.length % 2 ^ 16 ∧
      vq.vring.availIdx = pub.length % 2 ^ 16 :=
  have hi := h.inv hdvd
  ⟨hi.fifo hdvd, hi.last, hi.avail.idx⟩

end

end Libvmm
