import Libvmm.Net.Emul
import Libvmm.Ring

/-! src/src/virtio/virtio_net_emul.c | handle_backend_rx | scheme:scatter

    A frame goes into the next RX chain the guest offered, a zeroed header first, and the head
    goes back with the bytes written. Two slips show in the scatter loop
    (`rx_scatter_misplaces_bytes`): `!desc.flags & VRING_DESC_F_NEXT` parses as
    `(!desc.flags) & 1`, so a full last descriptor of an RX chain is left through `next`; and
    `copied == sizeof(hdr)` also fires in the payload, restarting the frame. Every iteration the
    loop runs is in bounds all the same (`RxScatterCall.scatterAt`, `rx_scatter_in_bounds`) and
    writes only buffers it reaches (`rxScatter_frame`); a frame that fits in the head's buffer
    lands as it should (`rx_single_buffer`); every frame is reported whole
    (`rx_reports_whole_frame`), and a header-sized one hangs the loop
    (`rx_header_sized_frame_hangs`). -/

namespace Libvmm.Net

/-- C's `!x` on an integer. -/
def cNot (x : Nat) : Nat := if x = 0 then 1 else 0

/-- The scatter do-while of `handle_backend_rx` over the frame `buf` of `size` bytes; `none`
    when `fuel` runs out. -/
def rxScatter (desc : Nat → VringDesc) (buf : Nat → UInt8) (size : Nat) :
    (fuel curr descCopied copied : Nat) → Bool → Mem → Option (Mem × Nat × Bool)
  | 0, _, _, _, _, _ => none
  | fuel + 1, curr, descCopied, copied, processed, mem =>
    let d := desc curr
    -- the header is `memzero`ed, so its bytes are all 0
    let bufBase : Nat → UInt8 := if processed then buf else fun _ => 0
    let copying := if processed then size - copied else virtioNetHdrSize - copied
    let copying := min copying (d.len - descCopied)
    let mem := memcpy mem (d.addr + descCopied) bufBase copied copying
    let copied := copied + copying
    let descCopied := descCopied + copying
    if descCopied = d.len ∧ cNot d.flags &&& vringDescFNext ≠ 0 then some (mem, copied, processed)
    else
      let (curr, descCopied) := if descCopied = d.len then (d.next, 0) else (curr, descCopied)
      let (copied, processed) := if copied = virtioNetHdrSize then (0, true) else (copied, processed)
      if !processed || copied < size then rxScatter desc buf size fuel curr descCopied copied processed mem
      else some (mem, copied, processed)

/-- The head `handle_backend_rx` takes, or `none` when it drops the frame. -/
def rxNextHead (rx : VirtqHandler) : Option Nat :=
  if !rx.ready then none
  else if rx.lastIdx = rx.vring.availIdx then none
  else some (rx.vring.availRing (rx.lastIdx % rx.vring.num))

/-- `handle_backend_rx(buf, size)`. -/
def handleBackendRx (fuel : Nat) (net : VirtioNet) (buf : Nat → UInt8) (size : Nat) :
    Option (VirtioNet × Nat) :=
  match rxNextHead net.rx with
  | none => some (net, 1)
  | some descHead =>
    (rxScatter net.rx.vring.desc buf size fuel descHead 0 0 false net.mem).map
      fun (mem, copied, processed) =>
        let copied := if processed then copied + virtioNetHdrSize else copied
        ({ net with
          mem := mem
          rx := { net.rx with
            vring := net.rx.vring.addUsed ⟨descHead, copied % 2 ^ 32⟩
            lastIdx := u16Succ net.rx.lastIdx }
          interruptStatus := 1
          virqInjected := net.virqInjected + 1 }, 0)

theorem handleBackendRx_spec {fuel : Nat} {net net' : VirtioNet} {buf : Nat → UInt8}
    {size r : Nat} (h : handleBackendRx fuel net buf size = some (net', r)) :
    net.rx.KeepsAvail net'.rx ∧ net'.rx.ready = net.rx.ready ∧
    net'.rx.lastIdx =
      (if (rxNextHead net.rx).isSome then u16Succ net.rx.lastIdx else net.rx.lastIdx) ∧
    net'.tx = net.tx ∧ net'.ttInterface = net.ttInterface := by
  unfold handleBackendRx at h
  split at h
  · next hn => cases h; simp [hn]; exact ⟨rfl, rfl, rfl⟩
  · next hn =>
    obtain ⟨⟨mem, copied, processed⟩, -, he⟩ := Option.map_eq_some'.1 h
    cases he
    simp [hn]; exact ⟨rfl, rfl, rfl⟩

theorem rxScatter_self_loop {desc : Nat → VringDesc} {i : Nat} (hlen : (desc i).len = 0)
    (hn : (desc i).flags = vringDescFNext) (hi : (desc i).next = i) (buf : Nat → UInt8)
    (size : Nat) : ∀ fuel mem, rxScatter desc buf size fuel i 0 0 false mem = none
  | 0, _ => rfl
  | fuel + 1, mem => by
    simp only [rxScatter, hlen, hn, hi, cNot, vringDescFNext]
    simpa [virtioNetHdrSize] using rxScatter_self_loop hlen hn hi buf size fuel _

/-! ### Bounds of one scatter iteration -/

/-- `copying` of the iteration that writes descriptor `d`. -/
def rxCopying (d : VringDesc) (size descCopied copied : Nat) (processed : Bool) : Nat :=
  min (if processed then size - copied else virtioNetHdrSize - copied) (d.len - descCopied)

/-- The length of what the iteration copies from: the zeroed header, or the frame. -/
def rxSourceLen (size : Nat) (processed : Bool) : Nat :=
  if processed then size else virtioNetHdrSize

/-- `(curr_desc_head, desc_copied, copied, net_header_processed)` after an iteration. -/
def rxAdvance (desc : Nat → VringDesc) (size curr descCopied copied : Nat) (processed : Bool) :
    Nat × Nat × Nat × Bool :=
  let d := desc curr
  let copying := rxCopying d size descCopied copied processed
  let (curr, descCopied) :=
    if descCopied + copying = d.len then (d.next, 0) else (curr, descCopied + copying)
  let (copied, processed) :=
    if copied + copying = virtioNetHdrSize then (0, true) else (copied + copying, processed)
  (curr, descCopied, copied, processed)

theorem rxScatter_succ (desc : Nat → VringDesc) (buf : Nat → UInt8) (size fuel curr descCopied
    copied : Nat) (processed : Bool) (mem : Mem) :
    rxScatter desc buf size (fuel + 1) curr descCopied copied processed mem =
      let d := desc curr
      let copying := rxCopying d size descCopied copied processed
      let mem := memcpy mem (d.addr + descCopied) (if processed then buf else fun _ => 0)
        copied copying
      if descCopied + copying = d.len ∧ cNot d.flags &&& vringDescFNext ≠ 0 then
        some (mem, copied + copying, processed)
      else
        let s := rxAdvance desc size curr descCopied copied processed
        if !s.2.2.2 || s.2.2.1 < size then rxScatter desc buf size fuel s.1 s.2.1 s.2.2.1 s.2.2.2 mem
        else some (mem, s.2.2.1, s.2.2.2) := by
  rfl

/-- The iteration states the scatter from `head` reaches. -/
inductive RxScatterAt (desc : Nat → VringDesc) (size head : Nat) :
    Nat → Nat → Nat → Bool → Prop
  | start : RxScatterAt desc size head head 0 0 false
  | next {curr descCopied copied : Nat} {processed : Bool} {s : Nat × Nat × Nat × Bool} :
      RxScatterAt desc size head curr descCopied copied processed →
      rxAdvance desc size curr descCopied copied processed = s →
      RxScatterAt desc size head s.1 s.2.1 s.2.2.1 s.2.2.2

/-- The arithmetic of one iteration that writes `d`: no subtraction wraps, and the bytes
    written and read stay inside the buffer and the header or frame. -/
structure RxIterBounds (d : VringDesc) (size descCopied copied : Nat) (processed : Bool) :
    Prop where
  descCopied_le : descCopied ≤ d.len
  copied_le : copied ≤ rxSourceLen size processed
  write_fits : descCopied + rxCopying d size descCopied copied processed ≤ d.len
  read_fits : copied + rxCopying d size descCopied copied processed ≤ rxSourceLen size processed

theorem rxIterBounds_of {d : VringDesc} {size descCopied copied : Nat} {processed : Bool}
    (hd : descCopied ≤ d.len) (hc : copied ≤ rxSourceLen size processed) :
    RxIterBounds d size descCopied copied processed := by
  refine ⟨hd, hc, ?_, ?_⟩ <;> cases processed <;>
    simp only [rxCopying, rxSourceLen, if_true, Bool.false_eq_true, if_false] at hc ⊢ <;> omega

theorem rxAdvance_bounds {desc : Nat → VringDesc} {size curr descCopied copied : Nat}
    {processed : Bool} (hd : descCopied ≤ (desc curr).len)
    (hc : copied ≤ rxSourceLen size processed) :
    let s := rxAdvance desc size curr descCopied copied processed
    s.2.1 ≤ (desc s.1).len ∧ s.2.2.1 ≤ rxSourceLen size s.2.2.2 := by
  have hb := rxIterBounds_of hd hc
  simp only [rxAdvance]
  constructor
  · split_ifs
    · exact Nat.zero_le _
    · exact hb.write_fits
  · split_ifs
    · exact Nat.zero_le _
    · exact hb.read_fits

theorem RxScatterAt.bounds {desc : Nat → VringDesc} {size head curr descCopied copied : Nat}
    {processed : Bool} (h : RxScatterAt desc size head curr descCopied copied processed) :
    descCopied ≤ (desc curr).len ∧ copied ≤ rxSourceLen size processed := by
  induction h with
  | start => exact ⟨Nat.zero_le _, Nat.zero_le _⟩
  | next _ hs ih => subst hs; exact rxAdvance_bounds ih.1 ih.2

/-- Every iteration of the RX scatter, on every table and frame size, is within its bounds. -/
theorem rx_scatter_in_bounds {desc : Nat → VringDesc} {size head curr descCopied copied : Nat}
    {processed : Bool} (h : RxScatterAt desc size head curr descCopied copied processed) :
    RxIterBounds (desc curr) size descCopied copied processed :=
  rxIterBounds_of h.bounds.1 h.bounds.2

/-- The arguments of the calls `rxScatter desc buf size fuel₀ head 0 0 false mem₀` makes, itself
    first: each is an iteration the scatter from `head` runs. -/
inductive RxScatterCall (desc : Nat → VringDesc) (buf : Nat → UInt8) (size fuel₀ head : Nat)
    (mem₀ : Mem) : Nat → Nat → Nat → Nat → Bool → Mem → Prop
  | start : RxScatterCall desc buf size fuel₀ head mem₀ fuel₀ head 0 0 false mem₀
  | next {fuel curr descCopied copied : Nat} {processed : Bool} {mem : Mem}
      {s : Nat × Nat × Nat × Bool} :
      RxScatterCall desc buf size fuel₀ head mem₀ (fuel + 1) curr descCopied copied processed mem →
      ¬(descCopied + rxCopying (desc curr) size descCopied copied processed = (desc curr).len ∧
        cNot (desc curr).flags &&& vringDescFNext ≠ 0) →
      rxAdvance desc size curr descCopied copied processed = s →
      (!s.2.2.2 || decide (s.2.2.1 < size)) = true →
      RxScatterCall desc buf size fuel₀ head mem₀ fuel s.1 s.2.1 s.2.2.1 s.2.2.2
        (memcpy mem ((desc curr).addr + descCopied) (if processed then buf else fun _ => 0) copied
          (rxCopying (desc curr) size descCopied copied processed))

section ScatterCall

variable {desc : Nat → VringDesc} {buf : Nat → UInt8} {size fuel₀ head : Nat} {mem₀ : Mem}
  {fuel curr descCopied copied : Nat} {processed : Bool} {mem : Mem}

/-- The scatter from `head` is the scatter from each of its calls. -/
theorem RxScatterCall.rxScatter_eq
    (h : RxScatterCall desc buf size fuel₀ head mem₀ fuel curr descCopied copied processed mem) :
    rxScatter desc buf size fuel₀ head 0 0 false mem₀ =
      rxScatter desc buf size fuel curr descCopied copied processed mem := by
  induction h with
  | start => rfl
  | next _ hb hs hc ih =>
    subst hs
    rw [ih, rxScatter_succ]
    exact (if_neg hb).trans (if_pos hc)

/-- Every iteration the scatter from `head` runs is an `RxScatterAt` state. -/
theorem RxScatterCall.scatterAt
    (h : RxScatterCall desc buf size fuel₀ head mem₀ fuel curr descCopied copied processed mem) :
    RxScatterAt desc size head curr descCopied copied processed := by
  induction h with
  | start => exact .start
  | next _ _ hs _ ih => exact ih.next hs

end ScatterCall

/-- The scatter from an iteration state changes guest RAM only inside the buffers of the
    descriptors it reaches from the head. -/
theorem rxScatter_frame {desc : Nat → VringDesc} {buf : Nat → UInt8} {size head fuel curr
    descCopied copied : Nat} {processed : Bool} {mem mem' : Mem} {r : Nat × Bool}
    (h : RxScatterAt desc size head curr descCopied copied processed)
    (hs : rxScatter desc buf size fuel curr descCopied copied processed mem = some (mem', r))
    {a : Nat} (ha : mem' a ≠ mem a) :
    ∃ i dc c p, RxScatterAt desc size head i dc c p ∧
      (desc i).addr ≤ a ∧ a < (desc i).addr + (desc i).len := by
  induction fuel generalizing curr descCopied copied processed mem with
  | zero => cases hs
  | succ fuel ih =>
    have hw := (rxIterBounds_of h.bounds.1 h.bounds.2).write_fits
    -- a byte this iteration's `memcpy` changes lies in the current descriptor's buffer
    have hhere : memcpy mem ((desc curr).addr + descCopied) (if processed then buf else fun _ => 0)
        copied (rxCopying (desc curr) size descCopied copied processed) a ≠ mem a →
        ∃ i dc c p, RxScatterAt desc size head i dc c p ∧
          (desc i).addr ≤ a ∧ a < (desc i).addr + (desc i).len := fun hne => by
      have := memcpy_changed hne
      exact ⟨curr, descCopied, copied, processed, h, by omega, by omega⟩
    rw [rxScatter_succ] at hs
    dsimp only at hs
    split at hs
    · cases hs; exact hhere ha
    · split at hs
      · -- the byte is this iteration's, or a later one's
        by_cases hm : mem' a = memcpy mem ((desc curr).addr + descCopied)
            (if processed then buf else fun _ => 0) copied
            (rxCopying (desc curr) size descCopied copied processed) a
        · exact hhere (hm ▸ ha)
        · exact ih (h.next rfl) hs hm
      · cases hs; exact hhere ha

/-! ### A frame in one buffer -/

theorem rxScatter_single_buffer {desc : Nat → VringDesc} {buf : Nat → UInt8}
    {size head fuel : Nat} (hfit : virtioNetHdrSize + size ≤ (desc head).len) (hsize : size ≠ virtioNetHdrSize)
    (hfuel : 2 ≤ fuel) (mem : Mem) :
    ∃ copied processed, rxScatter desc buf size fuel head 0 0 false mem =
        some (memcpy (memcpy mem (desc head).addr (fun _ => 0) 0 virtioNetHdrSize)
          ((desc head).addr + virtioNetHdrSize) buf 0 size, copied, processed) ∧
      (if processed then copied + virtioNetHdrSize else copied) = virtioNetHdrSize + size := by
  obtain ⟨f, rfl⟩ : ∃ f, fuel = f + 1 + 1 := ⟨fuel - 2, by omega⟩
  have hc1 : rxCopying (desc head) size 0 0 false = virtioNetHdrSize := by
    simp only [rxCopying, if_false, Bool.false_eq_true, Nat.sub_zero]; omega
  rw [rxScatter_succ]
  simp only [hc1, Nat.add_zero, Nat.zero_add, Bool.false_eq_true, if_false]
  split_ifs with hbreak hloop
  · -- a 12-byte buffer with its flags clear ends the loop after the header: the frame is empty
    obtain rfl : size = 0 := by omega
    exact ⟨virtioNetHdrSize, false, by rw [memcpy_zero], rfl⟩
  · -- the payload, from the header's end in the same buffer
    have hpos : 0 < size := by simpa [rxAdvance, hc1] using hloop
    have hlen : virtioNetHdrSize ≠ (desc head).len := by omega
    have hadv : rxAdvance desc size head 0 0 false = (head, virtioNetHdrSize, 0, true) := by
      simp [rxAdvance, hc1, hlen]
    have hc2 : rxCopying (desc head) size virtioNetHdrSize 0 true = size := by
      simp only [rxCopying, if_true, Nat.sub_zero]; omega
    rw [hadv, rxScatter_succ]
    dsimp only
    rw [hc2, Nat.zero_add, if_pos rfl]
    split_ifs with hbreak2 hloop2
    · exact ⟨size, true, rfl, by simp only [if_true]; omega⟩
    · simp [rxAdvance, hc2, hsize] at hloop2
    · refine ⟨_, _, rfl, ?_⟩
      simp only [rxAdvance, hc2, Nat.zero_add, if_neg hsize, if_true]; omega
  · -- an empty frame: the loop ends after the header
    obtain rfl : size = 0 := by simpa [rxAdvance, hc1] using hloop
    refine ⟨_, _, by rw [memcpy_zero], ?_⟩
    simp [rxAdvance, hc1]

/-- A frame whose length is not the header's and that fits with the header in the next head's
    buffer lands as it should: the zero header, the frame, and `12 + size` on the used ring. -/
theorem rx_single_buffer {net : VirtioNet} {buf : Nat → UInt8} {size head fuel : Nat}
    (hhead : rxNextHead net.rx = some head)
    (hfit : virtioNetHdrSize + size ≤ (net.rx.vring.desc head).len)
    (hsize : size ≠ virtioNetHdrSize) (hfuel : 2 ≤ fuel) :
    ∃ net', handleBackendRx fuel net buf size = some (net', 0) ∧
      net'.rx.vring = net.rx.vring.addUsed ⟨head, (virtioNetHdrSize + size) % 2 ^ 32⟩ ∧
      ∀ j, net'.mem j =
        let addr := (net.rx.vring.desc head).addr
        if addr + virtioNetHdrSize ≤ j ∧ j < addr + virtioNetHdrSize + size then
          buf (j - (addr + virtioNetHdrSize))
        else if addr ≤ j ∧ j < addr + virtioNetHdrSize then 0 else net.mem j := by
  obtain ⟨copied, processed, hs, hcopied⟩ :=
    @rxScatter_single_buffer _ buf _ _ _ hfit hsize hfuel net.mem
  refine ⟨_, by simp only [handleBackendRx, hhead, hs, Option.map_some']; rfl,
    by rw [← hcopied], fun j => ?_⟩
  simp only [memcpy, Nat.zero_add]

/-! ### A header-sized frame -/

theorem cNot_and_next_of_ne_zero {flags : Nat} (h : flags ≠ 0) :
    cNot flags &&& vringDescFNext = 0 := by
  simp [cNot, h]

theorem rxScatter_header_sized {desc : Nat → VringDesc} {num : Nat}
    (htab : ∀ i < num, (desc i).flags ≠ 0 ∧ (desc i).next < num) (buf : Nat → UInt8) :
    ∀ fuel curr descCopied copied processed mem, curr < num → copied < virtioNetHdrSize →
      rxScatter desc buf virtioNetHdrSize fuel curr descCopied copied processed mem = none
  | 0, _, _, _, _, _, _, _ => rfl
  | fuel + 1, curr, descCopied, copied, processed, mem, hcurr, hc => by
    obtain ⟨hf, hn⟩ := htab curr hcurr
    rw [rxScatter_succ]
    simp only [cNot_and_next_of_ne_zero hf, ne_eq, not_true_eq_false, and_false, if_false]
    have hcopy : copied + rxCopying (desc curr) virtioNetHdrSize descCopied copied processed ≤
        virtioNetHdrSize := by
      simp only [rxCopying]; split_ifs <;> omega
    rw [if_pos]
    · apply rxScatter_header_sized htab buf fuel
      · simp only [rxAdvance]; split_ifs <;> assumption
      · simp only [rxAdvance]; split_ifs <;> omega
    · simp only [rxAdvance]; split_ifs <;> simp <;> omega

theorem rxScatter_whole_frame {desc : Nat → VringDesc} {num size head : Nat}
    (htab : ∀ i < num, (desc i).flags ≠ 0 ∧ (desc i).next < num) {buf : Nat → UInt8} :
    ∀ {fuel curr descCopied copied : Nat} {processed : Bool} {mem mem' : Mem} {r : Nat × Bool},
      RxScatterAt desc size head curr descCopied copied processed → curr < num →
      rxScatter desc buf size fuel curr descCopied copied processed mem = some (mem', r) →
      r = (size, true)
  | 0, _, _, _, _, _, _, _, _, _, hs => by cases hs
  | fuel + 1, curr, descCopied, copied, processed, mem, mem', r, h, hcurr, hs => by
    obtain ⟨hf, hn⟩ := htab curr hcurr
    rw [rxScatter_succ] at hs
    simp only [cNot_and_next_of_ne_zero hf, ne_eq, not_true_eq_false, and_false, if_false] at hs
    have hnext : (rxAdvance desc size curr descCopied copied processed).1 < num := by
      simp only [rxAdvance]; split_ifs <;> assumption
    split at hs
    · exact rxScatter_whole_frame htab (h.next rfl) hnext hs
    · -- the loop ends with the frame done: `copied` is `size`, which it never passes
      next hexit =>
      cases hs
      have hb := (rxAdvance_bounds h.bounds.1 h.bounds.2).2
      revert hexit hb
      generalize rxAdvance desc size curr descCopied copied processed = s
      obtain ⟨_, _, c, p⟩ := s
      cases p
      · simp
      · simp only [rxSourceLen, if_true]; simp; omega

/-- On every RX table closed under `next` whose entries have a flag set, a frame taken is given
    back with length `12 + size`, however little the chain holds. -/
theorem rx_reports_whole_frame {net net' : VirtioNet} {head fuel size r : Nat}
    {buf : Nat → UInt8} (hhead : rxNextHead net.rx = some head) (hlt : head < net.rx.vring.num)
    (htab : ∀ i < net.rx.vring.num,
      (net.rx.vring.desc i).flags ≠ 0 ∧ (net.rx.vring.desc i).next < net.rx.vring.num)
    (h : handleBackendRx fuel net buf size = some (net', r)) :
    r = 0 ∧ net'.rx.vring = net.rx.vring.addUsed ⟨head, (virtioNetHdrSize + size) % 2 ^ 32⟩ := by
  simp only [handleBackendRx, hhead, Option.map_eq_some'] at h
  obtain ⟨⟨mem, copied, processed⟩, hs, he⟩ := h
  obtain ⟨rfl, rfl⟩ := Prod.mk.inj (rxScatter_whole_frame htab .start hlt hs)
  cases he
  exact ⟨rfl, by rw [if_pos rfl, Nat.add_comm]⟩

/-- On every RX table closed under `next` whose entries have a flag set, a frame of exactly
    `sizeof(struct virtio_net_hdr_mrg_rxbuf)` bytes makes the scatter run out of any fuel. -/
theorem rx_header_sized_frame_hangs {net : VirtioNet} {head : Nat}
    (hhead : rxNextHead net.rx = some head) (hlt : head < net.rx.vring.num)
    (htab : ∀ i < net.rx.vring.num,
      (net.rx.vring.desc i).flags ≠ 0 ∧ (net.rx.vring.desc i).next < net.rx.vring.num)
    (buf : Nat → UInt8) (fuel : Nat) :
    handleBackendRx fuel net buf virtioNetHdrSize = none := by
  simp only [handleBackendRx, hhead,
    rxScatter_header_sized htab buf fuel head 0 0 false net.mem hlt (by decide), Option.map_none']

/-! ### The source at fixed inputs -/

/-- A ready RX queue with the chain `[0]` of one 12-byte buffer published; descriptor 1 is
    outside it. -/
def netRxShortChain : VirtioNet where
  rx := ⟨true, 0, ⟨2, fun i => if i = 0 then ⟨0x1000, 12, 2, 1⟩ else ⟨0x2000, 100, 2, 0⟩, 1,
    fun _ => 0, 0, fun _ => ⟨0, 0⟩⟩⟩
  tx := ⟨false, 0, ⟨1, fun _ => ⟨0, 0, 0, 0⟩, 0, fun _ => 0, 0, fun _ => ⟨0, 0⟩⟩⟩
  mem := fun _ => 0
  tempBuf := fun _ => 0
  ttInterface := true
  sent := []
  interruptStatus := 0
  virqInjected := 0

/-- `netRxShortChain` whose chain is `[0, 1]`, descriptor 0 holding 24 bytes. -/
def netRxTwoDesc : VirtioNet :=
  { netRxShortChain with
    rx := ⟨true, 0, ⟨2, fun i => if i = 0 then ⟨0x1000, 24, 3, 1⟩ else ⟨0x2000, 100, 2, 0⟩, 1,
      fun _ => 0, 0, fun _ => ⟨0, 0⟩⟩⟩ }

/-- DEFECT: a one-byte frame into the chain `[0]` is written at `0x2000`, outside the chain,
    and reported with length 13; a 14-byte frame into `[0, 1]` puts `0 1`, not `12 13`, into
    descriptor 1. -/
theorem rx_scatter_misplaces_bytes :
    WellFormed 2 netRxShortChain.rx.vring.desc 0 [0] ∧
    (handleBackendRx 3 netRxShortChain (fun _ => 0xab) 1).map
        (fun r => (r.1.mem 0x2000, r.1.rx.vring.usedRing 0)) = some (0xab, ⟨0, 13⟩) ∧
    WellFormed 2 netRxTwoDesc.rx.vring.desc 0 [0, 1] ∧
    (handleBackendRx 4 netRxTwoDesc (fun j => j.toUInt8) 14).map
        (fun r => (r.1.mem 0x2000, r.1.mem 0x2001)) = some (0, 1) :=
  ⟨⟨.last rfl, by decide, by decide⟩, by decide,
    ⟨.cons rfl (.last rfl), by decide, by decide⟩, by decide⟩

/-- The third iteration of a 14-byte frame into `netRxTwoDesc`, the payload restarted. -/
theorem rx_scatter_in_bounds_third :
    RxScatterAt netRxTwoDesc.rx.vring.desc 14 0 1 0 0 true ∧
      RxIterBounds (netRxTwoDesc.rx.vring.desc 1) 14 0 0 true := by
  have h := (((@RxScatterCall.start netRxTwoDesc.rx.vring.desc (fun j => j.toUInt8) 14 4 0
    netRxTwoDesc.mem).next (by decide) rfl rfl).next (by decide) rfl rfl).scatterAt
  exact ⟨h, rx_scatter_in_bounds h⟩

/-- The one-byte frame into `netRxShortChain` writes `0x2000`, in descriptor 1. -/
theorem rxScatter_frame_shortChain :
    ∃ mem' r, rxScatter netRxShortChain.rx.vring.desc (fun _ => 0xab) 1 3 0 0 0 false
        netRxShortChain.mem = some (mem', r) ∧ mem' 0x2000 = 0xab ∧
      ∃ i dc c p, RxScatterAt netRxShortChain.rx.vring.desc 1 0 i dc c p ∧
        (netRxShortChain.rx.vring.desc i).addr ≤ 0x2000 ∧
        0x2000 < (netRxShortChain.rx.vring.desc i).addr + (netRxShortChain.rx.vring.desc i).len := by
  obtain ⟨⟨mem', r⟩, hs⟩ : ∃ x, rxScatter netRxShortChain.rx.vring.desc (fun _ => 0xab) 1 3 0 0 0
      false netRxShortChain.mem = some x := ⟨_, rfl⟩
  have hab : mem' 0x2000 = 0xab :=
    Option.some.inj ((congrArg (Option.map fun x : Mem × Nat × Bool => x.1 0x2000) hs).symm.trans
      (by decide))
  exact ⟨mem', r, hs, hab, rxScatter_frame .start hs (by rw [hab]; decide)⟩

/-- A 5-byte frame into `netRxTwoDesc`'s 24-byte first buffer. -/
theorem rx_single_buffer_twoDesc :
    rxNextHead netRxTwoDesc.rx = some 0 ∧
      virtioNetHdrSize + 5 ≤ (netRxTwoDesc.rx.vring.desc 0).len ∧ 5 ≠ virtioNetHdrSize ∧
      2 ≤ 2 ∧ ∃ net', handleBackendRx 2 netRxTwoDesc (fun _ => 0xab) 5 = some (net', 0) ∧
        net'.rx.vring = netRxTwoDesc.rx.vring.addUsed ⟨0, (virtioNetHdrSize + 5) % 2 ^ 32⟩ ∧
        ∀ j, net'.mem j =
          let addr := (netRxTwoDesc.rx.vring.desc 0).addr
          if addr + virtioNetHdrSize ≤ j ∧ j < addr + virtioNetHdrSize + 5 then 0xab
          else if addr ≤ j ∧ j < addr + virtioNetHdrSize then 0 else netRxTwoDesc.mem j :=
  ⟨rfl, by decide, by decide, Nat.le_refl 2,
    rx_single_buffer rfl (by decide) (by decide) (Nat.le_refl 2)⟩

theorem netRxShortChain_closed :
    ∀ i < netRxShortChain.rx.vring.num, (netRxShortChain.rx.vring.desc i).flags ≠ 0 ∧
      (netRxShortChain.rx.vring.desc i).next < netRxShortChain.rx.vring.num := by
  decide

/-- A 12-byte frame into `netRxShortChain` exhausts any fuel. -/
theorem rx_header_sized_frame_hangs_shortChain :
    rxNextHead netRxShortChain.rx = some 0 ∧ 0 < netRxShortChain.rx.vring.num ∧
      (∀ i < netRxShortChain.rx.vring.num, (netRxShortChain.rx.vring.desc i).flags ≠ 0 ∧
        (netRxShortChain.rx.vring.desc i).next < netRxShortChain.rx.vring.num) ∧
      handleBackendRx 1000 netRxShortChain (fun _ => 0xab) virtioNetHdrSize = none :=
  ⟨rfl, by decide, netRxShortChain_closed,
    @rx_header_sized_frame_hangs netRxShortChain 0 rfl (by decide) netRxShortChain_closed _ 1000⟩

/-- A one-byte frame into the 12 bytes of `netRxShortChain` is reported with length 13. -/
theorem rx_reports_whole_frame_shortChain :
    ∃ net' r, rxNextHead netRxShortChain.rx = some 0 ∧ 0 < netRxShortChain.rx.vring.num ∧
      (∀ i < netRxShortChain.rx.vring.num, (netRxShortChain.rx.vring.desc i).flags ≠ 0 ∧
        (netRxShortChain.rx.vring.desc i).next < netRxShortChain.rx.vring.num) ∧
      handleBackendRx 3 netRxShortChain (fun _ => 0xab) 1 = some (net', r) ∧
      r = 0 ∧ net'.rx.vring =
        netRxShortChain.rx.vring.addUsed ⟨0, (virtioNetHdrSize + 1) % 2 ^ 32⟩ := by
  obtain ⟨⟨net', r⟩, h⟩ : ∃ x, handleBackendRx 3 netRxShortChain (fun _ => 0xab) 1 = some x :=
    ⟨_, rfl⟩
  exact ⟨net', r, rfl, by decide, netRxShortChain_closed, h,
    rx_reports_whole_frame rfl (by decide) netRxShortChain_closed h⟩

end Libvmm.Net
