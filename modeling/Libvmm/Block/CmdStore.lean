import Libvmm.Virtq
import Mathlib.Data.List.Range

/-! src/src/virtio/block.c | virtio_blk_cmd_store_init / _allocate / _retrieve | scheme:free list

    The command store maps an sDDF request id to the virtio chain head it came from. The free
    ids form a list threaded through `freelist` from `head` to `tail`: `allocate` pops at
    `head`, `retrieve` appends at `tail`, and repairs `head` when the list was empty.

    `Inv` holds on every run from `init` whose retrieves take ids that are out
    (`Reachable`), and there the free list is a queue (`free_list_fifo`). `retrieve` does not
    return what `allocate` stored (`virtioBlkCmdStoreRetrieve`). -/

namespace Libvmm.Block

/-- `struct virtio_blk_cmd_store`: descriptor per id, free-list links, ends and count. -/
structure CmdStore where
  sentCmds : Nat → Nat
  freelist : Nat → Nat
  head : Nat
  tail : Nat
  numFree : Nat

/-- The zero-initialised static `cmd_store`. -/
def cmdStoreStatic : CmdStore := ⟨fun _ => 0, fun _ => 0, 0, 0, 0⟩

/-- `(uint32_t)-1`, which `virtio_blk_cmd_store_init` writes as the last link. -/
def uint32Max : Nat := 2 ^ 32 - 1

/-- `virtio_blk_cmd_store_init(num_buffers)` over the store `cs` it overwrites. It is called
    with `SDDF_BLK_NUM_DATA_BUFFERS ≥ 1`, so `num_buffers - 1` does not wrap. -/
def virtioBlkCmdStoreInit (cs : CmdStore) (numBuffers : Nat) : CmdStore :=
  { cs with
    head := 0
    tail := numBuffers - 1
    numFree := numBuffers
    freelist := fun i => if i < numBuffers - 1 then i + 1
      else if i = numBuffers - 1 then uint32Max else cs.freelist i }

/-- `virtio_blk_cmd_store_full()`. -/
def virtioBlkCmdStoreFull (cs : CmdStore) : Bool := cs.numFree == 0

/-- `virtio_blk_cmd_store_allocate(desc, &id)`: `none` for the `-1` return. -/
def virtioBlkCmdStoreAllocate (cs : CmdStore) (desc : Nat) : Option (Nat × CmdStore) :=
  if virtioBlkCmdStoreFull cs then none
  else some (cs.head, { cs with
    sentCmds := Function.update cs.sentCmds cs.head desc
    head := cs.freelist cs.head
    numFree := cs.numFree - 1 })

/-- The store update of `virtio_blk_cmd_store_retrieve(id)`: repair a stale `head`, link `id`
    after `tail`. Its `assert(num_free < N)` compiles to nothing in the default build. -/
def CmdStore.pushFree (cs : CmdStore) (id : Nat) : CmdStore :=
  let cs := if cs.numFree = 0 then { cs with head := id } else cs
  { cs with freelist := Function.update cs.freelist cs.tail id, tail := id,
            numFree := cs.numFree + 1 }

/-- `virtio_blk_cmd_store_retrieve(id)`. The function returns `&cmd_store.sent_cmds[id]`
    converted to its `uint16_t` return type: the low 16 bits of the slot's address, where
    `sentCmdsAddr` is the link address of `cmd_store`, and not the descriptor stored there. -/
def virtioBlkCmdStoreRetrieve (sentCmdsAddr : Nat) (cs : CmdStore) (id : Nat) : Nat × CmdStore :=
  ((sentCmdsAddr + 2 * id) % 2 ^ 16, cs.pushFree id)

/-- The free list as the code walks it: `n` ids from `i` through `freelist`. -/
def freeIds (freelist : Nat → Nat) (i : Nat) : Nat → List Nat
  | 0 => []
  | n + 1 => i :: freeIds freelist (freelist i) n

/-- The free list of a store: `num_free` ids from `head`. -/
def CmdStore.freeList (cs : CmdStore) : List Nat := freeIds cs.freelist cs.head cs.numFree

@[simp] theorem freeIds_length (f : Nat → Nat) (i n : Nat) : (freeIds f i n).length = n := by
  induction n generalizing i <;> simp [freeIds, *]

theorem freeIds_eq_range' {f : Nat → Nat} {i n : Nat}
    (hf : ∀ j, i ≤ j → j + 1 < i + n → f j = j + 1) : freeIds f i n = List.range' i n := by
  induction n generalizing i with
  | zero => rfl
  | succ n ih =>
    cases n with
    | zero => rfl
    | succ n =>
      rw [freeIds, hf i le_rfl (by omega), ih (fun j hj hjn => hf j (by omega) (by omega))]
      rfl

theorem freeIds_update_append {f : Nat → Nat} {t x : Nat} :
    ∀ {h n : Nat}, (freeIds f h (n + 1)).Nodup → (freeIds f h (n + 1)).getLast? = some t →
      freeIds (Function.update f t x) h (n + 2) = freeIds f h (n + 1) ++ [x]
  | h, 0, _, hl => by
    simp only [freeIds, List.getLast?_singleton, Option.some.injEq] at hl
    subst hl; simp [freeIds]
  | h, n + 1, hnd, hl => by
    have e : freeIds f h (n + 2) = h :: freeIds f (f h) (n + 1) := rfl
    have e' : freeIds f (f h) (n + 1) = f h :: freeIds f (f (f h)) n := rfl
    rw [e, List.nodup_cons] at hnd
    rw [e, e', List.getLast?_cons_cons, ← e'] at hl
    have hne : h ≠ t := by rintro rfl; exact hnd.1 (List.mem_of_getLast?_eq_some hl)
    show h :: freeIds (Function.update f t x) (Function.update f t x h) (n + 2) = _
    rw [Function.update_noteq hne, freeIds_update_append hnd.2 hl, e, List.cons_append]

/-! ### One lemma per operation -/

@[simp] theorem init_numFree (cs : CmdStore) (N : Nat) :
    (virtioBlkCmdStoreInit cs N).numFree = N := rfl

@[simp] theorem init_tail (cs : CmdStore) (N : Nat) :
    (virtioBlkCmdStoreInit cs N).tail = N - 1 := rfl

theorem init_freeList (cs : CmdStore) (N : Nat) :
    (virtioBlkCmdStoreInit cs N).freeList = List.range' 0 N :=
  freeIds_eq_range' (i := 0) (n := N)
    (fun j _ hj => by simp [virtioBlkCmdStoreInit, show j < N - 1 by omega])

theorem allocate_eq_some {cs cs' : CmdStore} {desc id : Nat}
    (h : virtioBlkCmdStoreAllocate cs desc = some (id, cs')) :
    id = cs.head ∧ cs.numFree = cs'.numFree + 1 ∧ cs'.tail = cs.tail ∧
      cs.freeList = id :: cs'.freeList := by
  unfold virtioBlkCmdStoreAllocate virtioBlkCmdStoreFull at h
  split at h
  · cases h
  · cases h
    obtain ⟨k, hk⟩ : ∃ k, cs.numFree = k + 1 := ⟨cs.numFree - 1, by simp_all; omega⟩
    refine ⟨rfl, by simp [hk], rfl, ?_⟩
    simp only [CmdStore.freeList, hk, Nat.add_sub_cancel]; rfl

theorem allocate_eq_none {cs : CmdStore} {desc : Nat} :
    virtioBlkCmdStoreAllocate cs desc = none ↔ cs.numFree = 0 := by
  unfold virtioBlkCmdStoreAllocate virtioBlkCmdStoreFull
  split <;> simp_all

@[simp] theorem pushFree_numFree (cs : CmdStore) (id : Nat) :
    (cs.pushFree id).numFree = cs.numFree + 1 := by
  unfold CmdStore.pushFree; split <;> rfl

@[simp] theorem pushFree_tail (cs : CmdStore) (id : Nat) : (cs.pushFree id).tail = id := by
  unfold CmdStore.pushFree; split <;> rfl

theorem pushFree_freeList_of_empty {cs : CmdStore} (h0 : cs.numFree = 0) (id : Nat) :
    (cs.pushFree id).freeList = [id] := by
  simp [CmdStore.pushFree, CmdStore.freeList, h0, freeIds]

theorem pushFree_freeList {cs : CmdStore} (hpos : 0 < cs.numFree) (hnd : cs.freeList.Nodup)
    (hl : cs.freeList.getLast? = some cs.tail) (id : Nat) :
    (cs.pushFree id).freeList = cs.freeList ++ [id] := by
  obtain ⟨k, hk⟩ : ∃ k, cs.numFree = k + 1 := ⟨cs.numFree - 1, by omega⟩
  simp only [CmdStore.freeList, hk] at hnd hl ⊢
  simp only [CmdStore.pushFree, hk, Nat.add_one_ne_zero, if_false]
  exact freeIds_update_append hnd hl

/-! ### The invariant -/

/-- What the free list holds while it is nonempty: each free id once, ending at `tail`. -/
structure FreeListOk (N : Nat) (cs : CmdStore) (A : List Nat) : Prop where
  nodup : cs.freeList.Nodup
  mem : ∀ i, i ∈ cs.freeList ↔ i < N ∧ i ∉ A
  last : cs.freeList.getLast? = some cs.tail

/-- Store invariant with `A` the ids handed out and not yet retrieved. -/
structure Inv (N : Nat) (cs : CmdStore) (A : List Nat) : Prop where
  nodup : A.Nodup
  lt : ∀ a ∈ A, a < N
  count : cs.numFree + A.length = N
  list : 0 < cs.numFree → FreeListOk N cs A

/-- Runs from `init`: each retrieve gets an id that is out (`A` is the ghost record of them). -/
inductive Reachable (N : Nat) : CmdStore → List Nat → Prop
  | init (cs : CmdStore) : Reachable N (virtioBlkCmdStoreInit cs N) []
  | allocate {cs cs' : CmdStore} {A : List Nat} {desc id : Nat} :
      Reachable N cs A → virtioBlkCmdStoreAllocate cs desc = some (id, cs') →
      Reachable N cs' (id :: A)
  | retrieve {cs : CmdStore} {A : List Nat} {id : Nat} :
      Reachable N cs A → id ∈ A → Reachable N (cs.pushFree id) (A.erase id)

theorem Inv.mem_of_full {N : Nat} {cs : CmdStore} {A : List Nat} (hi : Inv N cs A)
    (h0 : cs.numFree = 0) {i : Nat} (hi' : i < N) : i ∈ A := by
  have hsub : A.Subperm (List.range N) :=
    List.subperm_of_subset hi.nodup (fun a ha => List.mem_range.2 (hi.lt a ha))
  have hperm := hsub.perm_of_length_le (by simp; have := hi.count; omega)
  exact hperm.mem_iff.2 (List.mem_range.2 hi')

theorem inv_init (cs : CmdStore) (N : Nat) : Inv N (virtioBlkCmdStoreInit cs N) [] := by
  refine ⟨List.nodup_nil, by simp, by simp, fun hN => ?_⟩
  simp only [init_numFree] at hN
  obtain ⟨n, rfl⟩ : ∃ n, N = n + 1 := ⟨N - 1, by omega⟩
  refine ⟨?_, fun i => ?_, ?_⟩ <;> rw [init_freeList]
  · exact List.nodup_range' 0 _
  · simp [List.mem_range'_1]
  · simp [List.range'_concat]

theorem inv_allocate {N : Nat} {cs cs' : CmdStore} {A : List Nat} {desc id : Nat}
    (hi : Inv N cs A) (h : virtioBlkCmdStoreAllocate cs desc = some (id, cs')) :
    Inv N cs' (id :: A) := by
  obtain ⟨-, hn, ht, hl⟩ := allocate_eq_some h
  obtain ⟨hnd, hmem, hlast⟩ := hi.list (by omega)
  rw [hl, List.nodup_cons] at hnd
  rw [hl] at hmem hlast
  have hid := (hmem id).1 (List.mem_cons_self _ _)
  refine ⟨List.nodup_cons.2 ⟨hid.2, hi.nodup⟩, ?_, ?_, fun hpos => ⟨hnd.2, fun i => ?_, ?_⟩⟩
  · simpa [hid.1] using hi.lt
  · simp only [List.length_cons]; have := hi.count; omega
  · by_cases e : i = id
    · subst e; simp [hnd.1]
    · simpa [e] using hmem i
  · obtain ⟨a, l, hal⟩ := List.exists_cons_of_ne_nil
      (show cs'.freeList ≠ [] from List.ne_nil_of_length_pos (by simpa [CmdStore.freeList]))
    rw [hal, List.getLast?_cons_cons] at hlast
    rwa [hal, ht]

theorem inv_retrieve {N : Nat} {cs : CmdStore} {A : List Nat} {id : Nat}
    (hi : Inv N cs A) (hid : id ∈ A) : Inv N (cs.pushFree id) (A.erase id) := by
  have hlen := List.length_erase_of_mem hid
  have hA : 0 < A.length := List.length_pos_of_mem hid
  have hmemA : ∀ i, i ∈ A.erase id ↔ i ≠ id ∧ i ∈ A := fun i => hi.nodup.mem_erase_iff
  refine ⟨hi.nodup.erase id, fun a ha => hi.lt a (List.mem_of_mem_erase ha), ?_, fun _ => ?_⟩
  · simp only [pushFree_numFree]; have := hi.count; omega
  by_cases h0 : cs.numFree = 0
  · -- the list was empty: it restarts as `[id]`
    refine ⟨?_, fun i => ?_, ?_⟩ <;> rw [pushFree_freeList_of_empty h0]
    · exact List.nodup_singleton _
    · by_cases e : i = id
      · subst e; simp [hmemA, hi.lt _ hid]
      · simpa [e, hmemA] using fun hN => hi.mem_of_full h0 hN
    · simp
  · -- the list grows by `id` at its tail
    have hfl := hi.list (by omega)
    have hnot : id ∉ cs.freeList := fun h => ((hfl.mem id).1 h).2 hid
    refine ⟨?_, fun i => ?_, ?_⟩ <;> rw [pushFree_freeList (by omega) hfl.nodup hfl.last]
    · exact List.nodup_append.2 ⟨hfl.nodup, List.nodup_singleton _, by simpa using hnot⟩
    · by_cases e : i = id
      · subst e; simp [hmemA, hi.lt _ hid]
      · simp [e, hmemA, hfl.mem]
    · simp

theorem Reachable.retrieveAll {N : Nat} {cs : CmdStore} {A ids : List Nat} (h : Reachable N cs A)
    (hnd : ids.Nodup) (hA : ∀ id ∈ ids, id ∈ A) :
    Reachable N (ids.foldl CmdStore.pushFree cs) (ids.foldl List.erase A) := by
  induction ids generalizing cs A with
  | nil => exact h
  | cons id ids ih =>
    rw [List.nodup_cons] at hnd
    exact ih (h.retrieve (hA id (List.mem_cons_self _ _))) hnd.2 fun j hj =>
      (List.mem_erase_of_ne fun e : j = id => hnd.1 (e ▸ hj)).2 (hA j (List.mem_cons_of_mem _ hj))

/-- RUN: every reachable store satisfies the invariant. -/
theorem Reachable.inv {N : Nat} {cs : CmdStore} {A : List Nat} (h : Reachable N cs A) :
    Inv N cs A := by
  induction h with
  | init cs => exact inv_init cs N
  | allocate _ ha ih => exact inv_allocate ih ha
  | retrieve _ hid ih => exact inv_retrieve ih hid

/-- INVARIANT: on every run from `virtio_blk_cmd_store_init(N)` whose retrieves take ids that
    are out, `num_free` counts the ids not out, `allocate` fails exactly when all `N` are
    out and otherwise returns a free id below `N`, and a nonempty free list holds each free
    id once and ends at `tail`. -/
theorem free_list_invariant {N : Nat} {cs : CmdStore} {A : List Nat} (h : Reachable N cs A)
    (desc : Nat) :
    cs.numFree = N - A.length ∧
    ((virtioBlkCmdStoreAllocate cs desc = none ↔ A.length = N) ∧
      ∀ id cs', virtioBlkCmdStoreAllocate cs desc = some (id, cs') → id < N ∧ id ∉ A) ∧
    (0 < cs.numFree →
      (freeIds cs.freelist cs.head cs.numFree).length = cs.numFree ∧
      (freeIds cs.freelist cs.head cs.numFree).getLast? = some cs.tail ∧
      (freeIds cs.freelist cs.head cs.numFree).Nodup ∧
      ∀ i, i ∈ freeIds cs.freelist cs.head cs.numFree ↔ i < N ∧ i ∉ A) := by
  have hi := h.inv
  have hc := hi.count
  refine ⟨by omega, ⟨by rw [allocate_eq_none]; omega, fun id cs' ha => ?_⟩, fun hpos => ?_⟩
  · obtain ⟨rfl, hn, -, hl⟩ := allocate_eq_some ha
    exact ((hi.list (by omega)).mem cs.head).1 (hl ▸ List.mem_cons_self _ _)
  · have hfl := hi.list hpos
    exact ⟨freeIds_length _ _ _, hfl.last, hfl.nodup, hfl.mem⟩

/-- A run from `init(3)` that hands out all three ids, leaving `head` stale, then takes back
    1, which repairs `head`, and 0, out of order: the free list is `[1, 0]`. -/
theorem free_list_invariant_after_repair :
    ∃ cs, Reachable 3 cs [2] ∧ cs.freeList = [1, 0] ∧
    cs.numFree = 3 - [2].length ∧
    ((virtioBlkCmdStoreAllocate cs 7 = none ↔ [2].length = 3) ∧
      ∀ id cs', virtioBlkCmdStoreAllocate cs 7 = some (id, cs') → id < 3 ∧ id ∉ [2]) ∧
    (0 < cs.numFree →
      (freeIds cs.freelist cs.head cs.numFree).length = cs.numFree ∧
      (freeIds cs.freelist cs.head cs.numFree).getLast? = some cs.tail ∧
      (freeIds cs.freelist cs.head cs.numFree).Nodup ∧
      ∀ i, i ∈ freeIds cs.freelist cs.head cs.numFree ↔ i < 3 ∧ i ∉ [2]) := by
  have h1 := @Reachable.allocate 3 _ _ _ 10 _ (.init cmdStoreStatic) rfl
  have h2 := @Reachable.allocate 3 _ _ _ 11 _ h1 rfl
  have h3 := @Reachable.allocate 3 _ _ _ 12 _ h2 rfl
  have h4 := @Reachable.retrieve 3 _ _ 1 h3 (by decide)
  have h5 := @Reachable.retrieve 3 _ _ 0 h4 (by decide)
  exact ⟨_, h5, by decide, free_list_invariant h5 7⟩

/-! ### Ids come back in the order they were freed -/

/-- The runs of `Reachable`, with the ids `allocate` handed out and the ids `retrieve` took
    back, in order. -/
inductive CmdStoreLog (N : Nat) : CmdStore → List Nat → List Nat → List Nat → Prop
  | init (cs : CmdStore) : CmdStoreLog N (virtioBlkCmdStoreInit cs N) [] [] []
  | allocate {cs cs' : CmdStore} {A handed returned : List Nat} {desc id : Nat} :
      CmdStoreLog N cs A handed returned → virtioBlkCmdStoreAllocate cs desc = some (id, cs') →
      CmdStoreLog N cs' (id :: A) (handed ++ [id]) returned
  | retrieve {cs : CmdStore} {A handed returned : List Nat} {id : Nat} :
      CmdStoreLog N cs A handed returned → id ∈ A →
      CmdStoreLog N (cs.pushFree id) (A.erase id) handed (returned ++ [id])

theorem CmdStoreLog.reachable {N : Nat} {cs : CmdStore} {A handed returned : List Nat}
    (h : CmdStoreLog N cs A handed returned) : Reachable N cs A := by
  induction h with
  | init cs => exact .init cs
  | allocate _ ha ih => exact ih.allocate ha
  | retrieve _ hid ih => exact ih.retrieve hid

theorem Inv.freeList_pushFree {N : Nat} {cs : CmdStore} {A : List Nat} (hi : Inv N cs A)
    (id : Nat) : (cs.pushFree id).freeList = cs.freeList ++ [id] := by
  by_cases h0 : cs.numFree = 0
  · rw [pushFree_freeList_of_empty h0, CmdStore.freeList, h0]; rfl
  · have hfl := hi.list (Nat.pos_of_ne_zero h0)
    exact pushFree_freeList (Nat.pos_of_ne_zero h0) hfl.nodup hfl.last id

/-- FIFO: the free list is a queue of ids. On every run from
    `virtio_blk_cmd_store_init(N)` whose retrieves take ids that are out, the ids handed out so
    far followed by the free list are `0, ..., N - 1` followed by the retrieved ids, in order:
    `allocate` hands out the ids in the order they became free. -/
theorem free_list_fifo {N : Nat} {cs : CmdStore} {A handed returned : List Nat}
    (h : CmdStoreLog N cs A handed returned) :
    handed ++ cs.freeList = List.range' 0 N ++ returned := by
  induction h with
  | init cs => rw [List.nil_append, init_freeList, List.append_nil]
  | allocate _ ha ih =>
    rw [List.append_assoc, List.singleton_append, ← (allocate_eq_some ha).2.2.2]
    exact ih
  | retrieve hrun _ ih =>
    rw [hrun.reachable.inv.freeList_pushFree, ← List.append_assoc, ih, List.append_assoc]

/-- After `init(2)`, allocating id 0 and retrieving it, the free list is `[1, 0]`: the next
    `allocate` hands out 1, not the id just freed. -/
theorem free_list_fifo_reuse :
    ∃ cs, CmdStoreLog 2 cs [] [0] [0] ∧ [0] ++ cs.freeList = List.range' 0 2 ++ [0] := by
  obtain ⟨cs1, h1⟩ : ∃ cs1, virtioBlkCmdStoreAllocate (virtioBlkCmdStoreInit cmdStoreStatic 2) 5 =
      some (0, cs1) := ⟨_, rfl⟩
  have h : CmdStoreLog 2 (cs1.pushFree 0) [] [0] [0] :=
    .retrieve (.allocate (.init cmdStoreStatic) h1) (List.mem_singleton_self 0)
  exact ⟨_, h, free_list_fifo h⟩

end Libvmm.Block
