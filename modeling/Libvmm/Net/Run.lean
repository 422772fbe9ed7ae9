import Libvmm.Net.RxRun
import Libvmm.Net.TxRun

/-! src/src/virtio/virtio_net_emul.c | the net device over a run | scheme:protocol

    `NetRun` is every interleaving of the guest's side of both queues, init and reset, TX
    notifies and backend frames, with the ghost lists of `RxRun` and `TxRun`. Each operation
    changes one queue and leaves the other as it was (`RxInv.keep`, `TxInv.keep`), so both
    queues keep their invariants in every state: neither queue's traffic disturbs the other
    (`net_run_safe`). -/

namespace Libvmm.Net

/-- Runs of the net device from a `virtio_net_emul_init` that found a transport interface. -/
inductive NetRun (numRx numTx : Nat) : VirtioNet → List Nat → Nat → List Nat → List Nat → Prop
  | init (net : VirtioNet) : net.rx.vring.num = numRx → net.tx.vring.num = numTx →
      net.tx.lastIdx = 0 →
      NetRun numRx numTx (guestRestartTx (guestRestart (virtioNetEmulInit net true))) [] 0 [] []
  | reset {net : VirtioNet} {rxPub : List Nat} {rxTaken : Nat} {txPub txTaken : List Nat} :
      NetRun numRx numTx net rxPub rxTaken txPub txTaken →
      NetRun numRx numTx (guestRestartTx (guestRestart (virtioNetEmulReset net))) [] 0 [] []
  | rxReady {net : VirtioNet} {rxPub : List Nat} {rxTaken : Nat} {txPub txTaken : List Nat} :
      NetRun numRx numTx net rxPub rxTaken txPub txTaken →
      NetRun numRx numTx (guestReady net) rxPub rxTaken txPub txTaken
  | rxPublish {net : VirtioNet} {rxPub : List Nat} {rxTaken : Nat} {txPub txTaken : List Nat}
      (head : Nat) : NetRun numRx numTx net rxPub rxTaken txPub txTaken →
      rxPub.length < rxTaken + numRx →
      NetRun numRx numTx (guestPublish net head) (rxPub ++ [head]) rxTaken txPub txTaken
  | txPublish {net : VirtioNet} {rxPub : List Nat} {rxTaken : Nat} {txPub txTaken : List Nat}
      (head : Nat) : NetRun numRx numTx net rxPub rxTaken txPub txTaken → head < numTx →
      txPub.length < txTaken.length + numTx →
      NetRun numRx numTx (guestPublishTx net head) rxPub rxTaken (txPub ++ [head]) txTaken
  | txNotify {net net' : VirtioNet} {rxPub : List Nat} {rxTaken : Nat} {txPub txTaken : List Nat}
      {r : Nat} (fuel : Nat) : NetRun numRx numTx net rxPub rxTaken txPub txTaken →
      virtioNetEmulHandleQueueNotifyTx fuel net = some (net', r) →
      NetRun numRx numTx net' rxPub rxTaken txPub (txTaken ++ net.tx.pendingHeads)
  | frame {net net' : VirtioNet} {rxPub : List Nat} {rxTaken : Nat} {txPub txTaken : List Nat}
      {r : Nat} (fuel : Nat) (buf : Nat → UInt8) (size : Nat) :
      NetRun numRx numTx net rxPub rxTaken txPub txTaken →
      handleBackendRx fuel net buf size = some (net', r) →
      NetRun numRx numTx net' rxPub (if (rxNextHead net.rx).isSome then rxTaken + 1 else rxTaken)
        txPub txTaken

/-- Both invariants hold in every state of every interleaving, and the TX heads processed,
    then the pending ones, are the heads published since the last reset, in order. -/
theorem net_run_safe {numRx numTx : Nat} (hrx : numRx ∣ 2 ^ 16) (htx : numTx ∣ 2 ^ 15)
    {net : VirtioNet} {rxPub : List Nat} {rxTaken : Nat} {txPub txTaken : List Nat}
    (h : NetRun numRx numTx net rxPub rxTaken txPub txTaken) :
    RxInv numRx net rxPub rxTaken ∧ TxInv numTx net txPub txTaken ∧
      txTaken ++ net.tx.pendingHeads = txPub := by
  have hinv : RxInv numRx net rxPub rxTaken ∧ TxInv numTx net txPub txTaken := by
    induction h with
    | init net hn htn h0 => exact ⟨⟨availInv_restart hn 0, rfl⟩, .restart htn h0 rfl⟩
    | reset _ ih =>
      exact ⟨⟨availInv_restart ih.1.avail.num_eq 0, rfl⟩,
        .restart ih.2.availRun.num_eq rfl ih.2.tt⟩
    | rxReady _ ih => exact ⟨⟨ih.1.avail, ih.1.last⟩, ih.2.keep rfl rfl⟩
    | rxPublish head _ hlt ih =>
      exact ⟨⟨ih.1.avail.publish hrx hlt head, ih.1.last⟩, ih.2.keep rfl rfl⟩
    | txPublish head _ hd hlt ih => exact ⟨ih.1.keep rfl, ih.2.publish head hd hlt⟩
    | txNotify fuel _ hn ih =>
      obtain ⟨htx', hrx'⟩ := ih.2.notify hn
      exact ⟨ih.1.keep hrx', htx'⟩
    | frame fuel buf size _ hf ih =>
      obtain ⟨-, -, -, htx', htt⟩ := handleBackendRx_spec hf
      exact ⟨rxInv_frame ih.1 hf, ih.2.keep htx' htt⟩
  exact ⟨hinv.1, hinv.2, (hinv.2.availRun.inv htx).fifo htx⟩

/-- An RX frame dropped one ahead, a kept one, and a TX notify between two publications. -/
theorem net_run_safe_interleaved :
    2 ∣ 2 ^ 16 ∧ 1 ∣ 2 ^ 15 ∧ ∃ net, NetRun 2 1 net [0, 1] 1 [0, 0] [0] ∧
      net.tx.pendingHeads = [0] ∧
      RxInv 2 net [0, 1] 1 ∧ TxInv 1 net [0, 0] [0] ∧ [0] ++ net.tx.pendingHeads = [0, 0] := by
  have h0 : NetRun 2 1 _ [] 0 [] [] := .init netRxShortChain rfl rfl rfl
  have h1 := (h0.rxReady.rxPublish 0 (by decide)).txPublish 0 (by decide) (by decide)
  have h2 := @NetRun.frame 2 1 _ _ _ _ _ _ _ 5 (fun _ => 0xab) 1 h1 rfl
  have h3 := @NetRun.frame 2 1 _ _ _ _ _ _ _ 5 (fun _ => 0xab) 1 (h2.rxPublish 1 (by decide)) rfl
  have h4 := (@NetRun.txNotify 2 1 _ _ _ _ _ _ _ 2 h3 rfl).txPublish 0 (by decide) (by decide)
  exact ⟨by decide, by decide, _, h4, by decide, net_run_safe (by decide) (by decide) h4⟩

end Libvmm.Net
