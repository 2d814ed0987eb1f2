import PgBalancer.Lib.LinkedChain
import PgBalancer.QueryCache.HashTable

/-!
# The hash table in memory

`PgBalancer.QueryCache.HashTable` says what the index holds.  Here is how it lies in shared memory:
an array of elements, each with a pointer to another one, an array of pointers to the first element
of each bucket, and a list of the free elements that hangs off element 0.  The loops over a chain,
the pointer to a pointer by which an element is unlinked and the head of the free list are those of
`pool_memqcache.c`.

* `Represents.search`, `Represents.insert`, `Represents.delete`, `represents_reset` — **every
  operation on the memory ends, returns what the operation on the table returns, and leads to a
  memory that holds the resulting table**.
-/

namespace PgBalancer.QueryCache

open LinkedChain ChainedTable List Function

/-- `POOL_HASH_ELEMENT`; a pointer is an index into `hash_elements`. -/
structure HashElement where
  /-- link to next entry -/
  next : Option Nat
  hashkey : QueryHash
  cacheid : CacheId

/-- An element that `memset` has cleared. -/
def HashElement.zero : HashElement := ⟨none, ⟨List.replicate 32 0, rfl⟩, ⟨0, 0⟩⟩

/-- The hash table on shared memory. -/
structure HashMemory where
  /-- `hash_header->nhash` -/
  nhash : Nat
  /-- `hash_header->mask` -/
  mask : Nat
  /-- `hash_header->elements[i].element` -/
  head : Nat → Option Nat
  /-- `hash_elements` -/
  elements : Nat → HashElement
  /-- `hash_free` -/
  hashFree : Nat

namespace HashMemory

/-- The element behind an element. -/
def next (m : HashMemory) (i : Nat) : Option Nat := (m.elements i).next

/-- Write an element. -/
def setElement (m : HashMemory) (i : Nat) (e : HashElement) : HashMemory :=
  { m with elements := Function.update m.elements i e }

/-- `element->next = v` -/
def setNext (m : HashMemory) (i : Nat) (v : Option Nat) : HashMemory :=
  m.setElement i { m.elements i with next := v }

/-- `*delete_point = v`, where the pointer is one of the chain of the bucket `b` -/
def setLink (m : HashMemory) (b : Nat) : Link Nat → Option Nat → HashMemory
  | .head, v => { m with head := Function.update m.head b v }
  | .after i, v => m.setNext i v

/-- Both arrays are cleared, and then every element is linked to the one behind it; the first one
becomes the head of the free list. -/
def cleared (m : HashMemory) (nelements2 shift : Nat) : HashMemory where
  nhash := nelements2
  mask := (2 ^ 32 - 1) >>> shift
  head i := if i < nelements2 then none else m.head i
  elements i :=
    if i < nelements2 then
      { HashElement.zero with next := if i < nelements2 - 1 then some (i + 1) else none }
    else m.elements i
  hashFree := 0

/-- `pool_hash_reset` -/
def poolHashReset (m : HashMemory) (nelements : Nat) : Option HashMemory :=
  if nelements = 0 then none
  else (roundUpLoop nelements 30 1 32).map fun (nelements2, shift) => m.cleared nelements2 shift

/-- `pool_hash_init`; the memory segment it is given comes cleared from the system. -/
def poolHashInit (nelements : Nat) : Option HashMemory :=
  poolHashReset
    { nhash := 0, mask := 0, head := fun _ => none, elements := fun _ => .zero, hashFree := 0 }
    nelements

/-- `is_free_hash_element` -/
def isFreeHashElement (m : HashMemory) : Bool := (m.next m.hashFree).isSome

/-- `get_new_hash_element` -/
def getNewHashElement (m : HashMemory) : Option Nat × HashMemory :=
  match m.next m.hashFree with
  | none => (none, m)
  | some elm => (some elm, m.setNext m.hashFree (m.next elm))

/-- `put_back_hash_element` -/
def putBackHashElement (m : HashMemory) (element : Nat) : HashMemory :=
  let elm := m.next m.hashFree
  (m.setNext m.hashFree (some element)).setNext element elm

/-- `memcmp` of the key of an element -/
def hasKey (m : HashMemory) (key : QueryHash) (i : Nat) : Bool := (m.elements i).hashkey = key

/-- `pool_hash_search`.  `none` when the loop over the chain does not end within `nhash` turns. -/
def poolHashSearch (m : HashMemory) (key : QueryHash) : Option (Option CacheId) :=
  let hashKey := createHashKey m.mask key
  if m.nhash ≤ hashKey then some none
  else
    (find m.next (m.hasKey key) m.nhash (m.head hashKey)).map fun element =>
      element.map fun i => (m.elements i).cacheid

/-- `pool_hash_insert`, on the memory. -/
def poolHashInsert (m : HashMemory) (key : QueryHash) (cacheid : CacheId) (update : Bool) :
    Option (Int × HashMemory) :=
  let hashKey := createHashKey m.mask key
  if m.nhash ≤ hashKey then some (-1, m)
  else
    (find m.next (m.hasKey key) m.nhash (m.head hashKey)).map fun
      | some element =>
        if update then (0, m.setElement element { m.elements element with cacheid }) else (-1, m)
      | none =>
        match m.getNewHashElement with
        | (none, m) => (-1, m)
        | (some newElement, m) =>
          let element := m.head hashKey
          (0, (m.setLink hashKey .head (some newElement)).setElement newElement
            ⟨element, key, cacheid⟩)

/-- `pool_hash_delete`, on the memory. -/
def poolHashDelete (m : HashMemory) (key : QueryHash) : Option (Int × HashMemory) :=
  let hashKey := createHashKey m.mask key
  if m.nhash ≤ hashKey then some (-1, m)
  else
    (findLink m.next (m.hasKey key) m.nhash .head (m.head hashKey)).map fun
      | none => (-1, m)
      | some (deletePoint, element) =>
        (0, (m.setLink hashKey deletePoint (m.next element)).putBackHashElement element)

/-- What an element says about its entry. -/
def entry (m : HashMemory) (i : Nat) : Sigma fun _ : QueryHash => CacheId :=
  ⟨(m.elements i).hashkey, (m.elements i).cacheid⟩

section Fields

variable (m : HashMemory) (i b : Nat) (e : HashElement) (v : Option Nat)

@[simp] theorem next_setElement : (m.setElement i e).next = Function.update m.next i e.next := by
  funext k
  by_cases hk : k = i
  · subst hk
    simp [next, setElement]
  · simp [next, setElement, hk]

@[simp] theorem entry_setElement :
    (m.setElement i e).entry = Function.update m.entry i ⟨e.hashkey, e.cacheid⟩ := by
  funext k
  by_cases hk : k = i
  · subst hk
    simp [entry, setElement]
  · simp [entry, setElement, hk]

@[simp] theorem next_setNext : (m.setNext i v).next = Function.update m.next i v :=
  next_setElement m i _

@[simp] theorem entry_setNext : (m.setNext i v).entry = m.entry := by
  rw [setNext, entry_setElement]
  exact update_eq_self i m.entry

theorem next_cleared {n shift i : Nat} (hi : i < n) :
    (m.cleared n shift).next i = if i < n - 1 then some (i + 1) else none := by
  simp only [next, cleared]
  rw [if_pos hi]

end Fields

end HashMemory

/-! ## What the memory holds -/

/-- The memory holds the table, with the elements of `free` on the free list and those of `chains b`
in the chain of the bucket `b`. -/
structure Represents (m : HashMemory) (t : HashTable) (free : List Nat) (chains : Nat → List Nat) :
    Prop where
  nhash_eq : m.nhash = t.nhash
  mask_eq : m.mask = t.mask
  sentinel : m.hashFree = 0
  free_linked : Linked m.next (m.next 0) free
  chain_linked : ∀ b < m.nhash, Linked m.next (m.head b) (chains b)
  /-- every element is the sentinel, on the free list or in one chain, and nowhere twice -/
  partition : (0 :: (free ++ (List.range m.nhash).flatMap chains)).Perm (List.range m.nhash)
  entries : ∀ b < m.nhash, (t.table.chain b).entries = (chains b).map m.entry
  free_length : free.length = t.table.free

namespace Represents

variable {m : HashMemory} {t : HashTable} {free : List Nat} {chains : Nat → List Nat}
  {key : QueryHash} {b b' i : Nat}

section

variable (h : Represents m t free chains)
include h

theorem nodup : (0 :: (free ++ (List.range m.nhash).flatMap chains)).Nodup :=
  h.partition.nodup_iff.2 nodup_range

theorem zero_notMem_chain (hb : b < m.nhash) : 0 ∉ chains b :=
  fun hmem => (nodup_cons.1 h.nodup).1
    (mem_append_right _ (mem_flatMap.2 ⟨b, mem_range.2 hb, hmem⟩))

theorem zero_notMem_free : 0 ∉ free :=
  fun hmem => (nodup_cons.1 h.nodup).1 (mem_append_left _ hmem)

theorem notMem_chain_of_free (hi : i ∈ free) (hb : b < m.nhash) : i ∉ chains b :=
  fun hmem => (nodup_append.1 (nodup_cons.1 h.nodup).2).2.2 i hi i
    (mem_flatMap.2 ⟨b, mem_range.2 hb, hmem⟩) rfl

theorem nodup_free : free.Nodup :=
  (nodup_append.1 (nodup_cons.1 h.nodup).2).1

theorem nodup_chain (hb : b < m.nhash) : (chains b).Nodup :=
  (nodup_flatMap.1 (nodup_append.1 (nodup_cons.1 h.nodup).2).2.1).1 b
    (mem_range.2 hb)

theorem notMem_other_chain (hb : b < m.nhash) (hb' : b' < m.nhash)
    (hne : b ≠ b') (hi : i ∈ chains b) : i ∉ chains b' := by
  have hpair := (nodup_flatMap.1 (nodup_append.1 (nodup_cons.1 h.nodup).2).2.1).2
  have : Std.Symm (Function.onFun List.Disjoint chains) := ⟨fun _ _ hxy => List.Disjoint.symm hxy⟩
  have hdisj := hpair.forall (mem_range.2 hb) (mem_range.2 hb') hne
  exact fun hi' => hdisj hi hi'

/-- A chain and the sentinel are no more than there are elements, so a chain ends within `nhash`
turns. -/
theorem length_chain_lt (hb : b < m.nhash) : (chains b).length < m.nhash := by
  have hnodup : (0 :: chains b).Nodup := nodup_cons.2 ⟨h.zero_notMem_chain hb, h.nodup_chain hb⟩
  have hsub : 0 :: chains b ⊆ List.range m.nhash := by
    intro i hi
    refine h.partition.subset ?_
    rcases mem_cons.1 hi with rfl | hi
    · exact mem_cons_self
    · exact mem_cons_of_mem _ (mem_append_right _
        (mem_flatMap.2 ⟨b, mem_range.2 hb, hi⟩))
  have hlen := (hnodup.subperm hsub).length_le
  simpa using hlen

theorem createHashKey_lt (hwf : t.Wf) (key : QueryHash) : createHashKey m.mask key < m.nhash := by
  rw [h.mask_eq, h.nhash_eq]
  exact QueryCache.createHashKey_lt hwf key

end

/-! ## Searching -/

theorem dlookup_map_entry (l : List Nat) :
    (l.map m.entry).dlookup key = (l.find? (m.hasKey key)).map fun i => (m.elements i).cacheid := by
  induction l with
  | nil => rfl
  | cons i l ih =>
    rw [map_cons, List.find?_cons]
    by_cases hkey : (m.elements i).hashkey = key
    · subst hkey
      simp [HashMemory.entry, HashMemory.hasKey]
    · have hne : m.hasKey key i = false := decide_eq_false hkey
      rw [hne]
      simp only [HashMemory.entry] at ih ⊢
      rw [dlookup_cons_ne _ _ (Ne.symm hkey)]
      exact ih

theorem find_chain (h : Represents m t free chains) (hwf : t.Wf) :
    find m.next (m.hasKey key) m.nhash (m.head (createHashKey m.mask key)) =
        some ((chains (createHashKey m.mask key)).find? (m.hasKey key)) ∧
      t.table.lookup (createHashKey t.mask) key =
        ((chains (createHashKey m.mask key)).find? (m.hasKey key)).map fun i =>
          (m.elements i).cacheid := by
  have hb := h.createHashKey_lt hwf key
  refine ⟨(h.chain_linked _ hb).find_eq (h.length_chain_lt hb), ?_⟩
  rw [← dlookup_map_entry, ← h.entries _ hb, h.mask_eq]
  rfl

/-- **A search ends and returns what the table holds.** -/
theorem search (h : Represents m t free chains) (hwf : t.Wf) (key : QueryHash) :
    m.poolHashSearch key = some (QueryCache.poolHashSearch t key) := by
  obtain ⟨hfind, hlookup⟩ := h.find_chain hwf
  have hb := h.createHashKey_lt hwf key
  unfold HashMemory.poolHashSearch
  dsimp only
  rw [if_neg (by omega), hfind, poolHashSearch_eq hwf, hlookup]
  rfl

/-! ## Inserting -/

theorem entries_other (h : Represents m t free chains) (hb : b < m.nhash)
    {entry : Nat → Sigma fun _ : QueryHash => CacheId}
    (hentry : ∀ k ∈ chains b, entry k = m.entry k) :
    (t.table.chain b).entries = (chains b).map entry := by
  rw [h.entries b hb]
  exact map_congr_left fun k hk => (hentry k hk).symm

theorem kreplace_map_entry {id : CacheId} {l : List Nat}
    (hfind : l.find? (m.hasKey key) = some i) (hnodup : l.Nodup) :
    (l.map m.entry).kreplace key id = l.map (Function.update m.entry i ⟨key, id⟩) := by
  induction l with
  | nil => cases hfind
  | cons j l ih =>
    obtain ⟨hj, hnodup⟩ := nodup_cons.1 hnodup
    rw [List.find?_cons] at hfind
    by_cases hkey : (m.elements j).hashkey = key
    · have hhas : m.hasKey key j = true := decide_eq_true hkey
      have hreplace : ((m.entry j :: l.map m.entry).kreplace key id) = ⟨key, id⟩ :: l.map m.entry :=
        lookmap_cons_some _ _ (by simp [HashMemory.entry, hkey])
      rw [hhas] at hfind
      obtain rfl := Option.some.inj hfind
      rw [map_cons, map_cons, update_self, hreplace]
      congr 1
      refine map_congr_left fun k hk => ?_
      rw [update_of_ne fun (hkj : k = j) => hj (hkj ▸ hk)]
    · have hhas : m.hasKey key j = false := decide_eq_false hkey
      have hkeep : ((m.entry j :: l.map m.entry).kreplace key id) =
          m.entry j :: (l.map m.entry).kreplace key id :=
        lookmap_cons_none _ _ (by simp [HashMemory.entry, Ne.symm hkey])
      rw [hhas] at hfind
      have hij : j ≠ i := fun hji => hj (hji ▸ mem_of_find?_eq_some hfind)
      rw [map_cons, map_cons, update_of_ne hij, hkeep, ih hfind hnodup]

/-- An element is given another item. -/
theorem update (h : Represents m t free chains) (hb : b < m.nhash) (id : CacheId)
    (hfind : (chains b).find? (m.hasKey key) = some i) :
    Represents (m.setElement i { m.elements i with cacheid := id })
      { t with table.chain := Function.update t.table.chain b ((t.table.chain b).replace key id) }
      free chains := by
  have hnext : (m.setElement i { m.elements i with cacheid := id }).next = m.next := by
    rw [HashMemory.next_setElement]
    exact update_eq_self i m.next
  have hkey : (m.elements i).hashkey = key := by
    simpa [HashMemory.hasKey] using List.find?_some hfind
  refine ⟨h.nhash_eq, h.mask_eq, h.sentinel, ?_, ?_, h.partition, fun b' hb' => ?_, h.free_length⟩
  · rw [hnext]
    exact h.free_linked
  · rw [hnext]
    exact h.chain_linked
  · rw [HashMemory.entry_setElement, hkey]
    by_cases hbb : b' = b
    · subst hbb
      dsimp only
      rw [update_self, show ((t.table.chain b').replace key id).entries =
        (t.table.chain b').entries.kreplace key id from rfl, h.entries b' hb]
      exact kreplace_map_entry hfind (h.nodup_chain hb)
    · dsimp only
      rw [update_of_ne hbb]
      refine h.entries_other hb' fun k hk => update_of_ne ?_ _ _
      rintro rfl
      exact h.notMem_other_chain hb hb' (Ne.symm hbb) (mem_of_find?_eq_some hfind) hk

/-- A free element becomes the first one of a chain. -/
theorem link {e : Nat} (h : Represents m t (e :: free) chains) (hb : b < m.nhash) (id : CacheId)
    (hbucket : createHashKey t.mask key = b)
    (hkey : t.table.lookup (createHashKey t.mask) key = none) : Represents
      (((m.setNext 0 (m.next e)).setLink b .head (some e)).setElement e ⟨m.head b, key, id⟩)
      { t with table := t.table.insert (createHashKey t.mask) key id }
      free (Function.update chains b (e :: chains b)) := by
  have hzero := h.zero_notMem_free
  have he0 : 0 ≠ e := fun h0 => hzero (h0 ▸ mem_cons_self)
  have hefree : e ∉ free := (nodup_cons.1 h.nodup_free).1
  have hechain : ∀ b' < m.nhash, e ∉ chains b' := fun b' hb' =>
    h.notMem_chain_of_free mem_cons_self hb'
  set m' := ((m.setNext 0 (m.next e)).setLink b .head (some e)).setElement e ⟨m.head b, key, id⟩
  have hnext : m'.next = Function.update (Function.update m.next 0 (m.next e)) e (m.head b) := by
    rw [← HashMemory.next_setNext]
    exact HashMemory.next_setElement _ e _
  have hentry : m'.entry = Function.update m.entry e ⟨key, id⟩ := by
    rw [← HashMemory.entry_setNext m 0 (m.next e)]
    exact HashMemory.entry_setElement _ e _
  have hhead : m'.head = Function.update m.head b (some e) := rfl
  refine ⟨h.nhash_eq, h.mask_eq, h.sentinel, ?_, fun b' hb' => ?_, ?_, fun b' hb' => ?_, ?_⟩
  · rw [hnext, update_of_ne he0, update_self]
    exact (h.free_linked.pop.update fun hmem => hzero (mem_cons_of_mem _ hmem)).update hefree
  · have hlinked := (h.chain_linked b' hb').update (v := m.next e) (h.zero_notMem_chain hb')
    rw [hnext, hhead]
    by_cases hbb : b' = b
    · subst hbb
      rw [update_self, update_self]
      exact hlinked.push (hechain _ hb')
    · rw [update_of_ne hbb, update_of_ne hbb]
      exact hlinked.update (hechain _ hb')
  · refine List.Perm.trans (List.Perm.cons 0 ?_) h.partition
    exact ((flatMap_update_perm hb (List.Perm.refl _)).append_left _).trans perm_middle
  · have hothers : (t.table.chain b').entries = (chains b').map m'.entry := by
      refine h.entries_other hb' fun k hk => ?_
      rw [hentry, update_of_ne fun hke : k = e => hechain b' hb' (hke ▸ hk)]
    dsimp only [Table.insert]
    rw [hbucket]
    by_cases hbb : b' = b
    · subst hbb
      have hnew : key ∉ t.table.chain b' := by
        rw [← hbucket]
        exact AList.lookup_eq_none.1 hkey
      rw [update_self, update_self, AList.entries_insert_of_notMem hnew, map_cons, hothers, hentry,
        update_self]
    · rw [update_of_ne hbb, update_of_ne hbb, hothers]
  · have hlen := h.free_length
    simp only [length_cons] at hlen
    simp only [Table.insert]
    omega

/-- The insertion in memory is the one in the table. -/
theorem insert (h : Represents m t free chains) (hwf : t.Wf) (key : QueryHash) (id : CacheId)
    (upd : Bool) : ∃ m' free' chains',
      m.poolHashInsert key id upd = some ((QueryCache.poolHashInsert t key id upd).1, m') ∧
      Represents m' (QueryCache.poolHashInsert t key id upd).2 free' chains' ∧
      ((QueryCache.poolHashInsert t key id upd).1 = -1 → m' = m) := by
  obtain ⟨hfind, hlookup⟩ := h.find_chain hwf
  have hb := h.createHashKey_lt hwf key
  have hbt := QueryCache.createHashKey_lt hwf key
  unfold HashMemory.poolHashInsert QueryCache.poolHashInsert
  dsimp only
  rw [if_neg (by omega), if_neg (by omega), hfind, hlookup, Option.map_some]
  cases hfound : (chains (createHashKey m.mask key)).find? (m.hasKey key) with
  | some i =>
    cases upd with
    | false => exact ⟨m, free, chains, rfl, h, fun _ => rfl⟩
    | true =>
      refine ⟨_, free, chains, rfl, ?_, fun hfail => absurd hfail (by simp)⟩
      have hupdate := h.update hb id hfound
      rw [h.mask_eq] at hupdate
      exact hupdate
  | none =>
    rw [hfound] at hlookup
    have hlen := h.free_length
    have hlinked := h.free_linked
    simp only [HashMemory.getNewHashElement, h.sentinel, Option.map_none, Option.isSome_none]
    cases free with
    | nil =>
      have hnofree : ¬ QueryCache.isFreeHashElement t = true := by
        simp [QueryCache.isFreeHashElement, ← hlen]
      rw [hlinked.eq_none, if_neg hnofree]
      exact ⟨m, [], chains, rfl, h, fun _ => rfl⟩
    | cons e free =>
      have hfree : QueryCache.isFreeHashElement t = true := by
        simp [QueryCache.isFreeHashElement, ← hlen]
      rw [hlinked.eq_some, if_pos hfree]
      refine ⟨_, free, _, rfl, h.link hb id (by rw [h.mask_eq]) hlookup, fun hfail => ?_⟩
      exact absurd hfail (by simp)

/-! ## Deleting -/

variable {l₁ l₂ : List Nat}

theorem kerase_map_entry (hnone : ∀ j ∈ l₁, m.hasKey key j = false) (hi : m.hasKey key i = true) :
    ((l₁ ++ i :: l₂).map m.entry).kerase key = (l₁ ++ l₂).map m.entry := by
  induction l₁ with
  | nil =>
    have hkey : key = (m.entry i).1 := (of_decide_eq_true hi).symm
    exact kerase_cons_eq hkey
  | cons j l₁ ih =>
    obtain ⟨hj, hnone⟩ := forall_mem_cons.1 hnone
    have hkey : key ≠ (m.entry j).1 := Ne.symm (of_decide_eq_false hj)
    rw [cons_append, map_cons, kerase_cons_ne hkey, ih hnone]
    rfl

section

variable (h : Represents m t free chains)
include h

/-- What `*delete_point = element->next` does: the element is out of its chain, and no other chain
is touched. -/
theorem setLink (hb : b < m.nhash) (hsplit : chains b = l₁ ++ i :: l₂) :
    ∃ m', m.setLink b (lastLink .head l₁) (m.next i) = m' ∧ m'.nhash = m.nhash ∧ m'.mask = m.mask ∧
      m'.hashFree = m.hashFree ∧ m'.entry = m.entry ∧ m'.next 0 = m.next 0 ∧
      Linked m'.next (m'.head b) (l₁ ++ l₂) ∧ (∀ b', b' ≠ b → m'.head b' = m.head b') ∧
      ∀ s l, (∀ j ∈ chains b, j ∉ l) → Linked m.next s l → Linked m'.next s l := by
  have hlinked := h.chain_linked b hb
  have hnodup := h.nodup_chain hb
  have hzero := h.zero_notMem_chain hb
  rw [hsplit] at hlinked hnodup hzero ⊢
  rcases hlinked.unlink hnodup with ⟨hlink, hrest⟩ | ⟨j, hj, hlink, hrest⟩
  · rw [hlink]
    refine ⟨_, rfl, rfl, rfl, rfl, rfl, rfl, ?_, fun b' hb' => ?_, fun s l _ hl => hl⟩
    · simp only [HashMemory.setLink, update_self]
      exact hrest
    · exact update_of_ne hb' _ _
  · rw [hlink]
    have hj0 : 0 ≠ j := fun h0 => hzero (h0 ▸ mem_append_left _ hj)
    refine ⟨_, rfl, rfl, rfl, rfl, HashMemory.entry_setNext m j _, ?_, ?_, fun _ _ => rfl,
      fun s l hdisj hl => ?_⟩
    · rw [HashMemory.setLink, HashMemory.next_setNext, update_of_ne hj0]
    · rw [HashMemory.setLink, HashMemory.next_setNext]
      exact hrest
    · rw [HashMemory.setLink, HashMemory.next_setNext]
      exact hl.update (hdisj j (mem_append_left _ hj))

/-- An element is taken out of its chain. -/
theorem unlink (hb : b < m.nhash)
    (hsplit : chains b = l₁ ++ i :: l₂) (hbucket : createHashKey t.mask key = b)
    (hnone : ∀ j ∈ l₁, m.hasKey key j = false) (hi : m.hasKey key i = true) :
    Represents ((m.setLink b (lastLink .head l₁) (m.next i)).putBackHashElement i)
      { t with table := t.table.erase (createHashKey t.mask) key }
      (i :: free) (Function.update chains b (l₁ ++ l₂)) := by
  have hmem : i ∈ chains b := by
    rw [hsplit]
    exact mem_append_right _ mem_cons_self
  have hi0 : 0 ≠ i := fun h0 => h.zero_notMem_chain hb (h0 ▸ hmem)
  have hifree : i ∉ free := fun hfree => h.notMem_chain_of_free hfree hb hmem
  obtain ⟨m₁, hm₁, hnhash, hmask, hfree, hentry, hnext0, hchain, hhead, hframe⟩ :=
    h.setLink hb hsplit
  rw [hm₁]
  have hnext : (m₁.putBackHashElement i).next =
      Function.update (Function.update m₁.next 0 (some i)) i (m.next 0) := by
    rw [HashMemory.putBackHashElement, HashMemory.next_setNext, HashMemory.next_setNext, hfree,
      h.sentinel, hnext0]
  have hentry' : (m₁.putBackHashElement i).entry = m.entry := by
    rw [HashMemory.putBackHashElement, HashMemory.entry_setNext, HashMemory.entry_setNext, hentry]
  refine ⟨hnhash.trans h.nhash_eq, hmask.trans h.mask_eq, hfree.trans h.sentinel, ?_,
    fun b' hb' => ?_, ?_, fun b' hb' => ?_, ?_⟩
  · rw [hnext, update_of_ne hi0, update_self]
    have hlinked := hframe _ _ (fun j hj hfree => h.notMem_chain_of_free hfree hb hj) h.free_linked
    exact (hlinked.update h.zero_notMem_free).push hifree
  · change b' < m₁.nhash at hb'
    change Linked _ (m₁.head b') _
    rw [hnhash] at hb'
    rw [hnext]
    by_cases hbb : b' = b
    · subst hbb
      have hzero := h.zero_notMem_chain hb
      have hnodup := h.nodup_chain hb
      rw [hsplit] at hzero hnodup
      have hnot : i ∉ l₁ ++ l₂ := (nodup_middle.1 hnodup).notMem
      have hzero' : 0 ∉ l₁ ++ l₂ := fun h0 =>
        hzero (((sublist_cons_self i l₂).append_left l₁).subset h0)
      rw [update_self]
      exact (hchain.update hzero').update hnot
    · have hdisj : ∀ j ∈ chains b, j ∉ chains b' := fun j hj =>
        h.notMem_other_chain hb hb' (Ne.symm hbb) hj
      rw [update_of_ne hbb, hhead b' hbb]
      have hlinked := hframe _ _ hdisj (h.chain_linked b' hb')
      exact (hlinked.update (h.zero_notMem_chain hb')).update (hdisj i hmem)
  · change (0 :: (i :: free ++ (List.range m₁.nhash).flatMap _)).Perm (List.range m₁.nhash)
    rw [hnhash]
    refine List.Perm.trans (List.Perm.cons 0 ?_) h.partition
    have hperm := flatMap_update_perm (f := Function.update chains b (l₁ ++ l₂)) (i := i) hb
      (l := chains b) (by rw [update_self, hsplit]; exact perm_middle)
    rw [update_idem, update_eq_self] at hperm
    exact (perm_middle.symm.trans (hperm.symm.append_left _))
  · rw [hentry']
    change b' < m₁.nhash at hb'
    rw [hnhash] at hb'
    dsimp only [Table.erase]
    rw [hbucket]
    by_cases hbb : b' = b
    · subst hbb
      rw [update_self, update_self, ← kerase_map_entry hnone hi, ← hsplit,
        ← h.entries b' hb]
      rfl
    · rw [update_of_ne hbb, update_of_ne hbb]
      exact h.entries b' hb'
  · rw [length_cons, h.free_length]
    rfl

/-- The deletion in memory is the one in the table. -/
theorem delete (hwf : t.Wf) (key : QueryHash) : ∃ m' free' chains',
      m.poolHashDelete key = some ((QueryCache.poolHashDelete t key).1, m') ∧
      Represents m' (QueryCache.poolHashDelete t key).2 free' chains' := by
  have hb := h.createHashKey_lt hwf key
  have hbt := QueryCache.createHashKey_lt hwf key
  obtain ⟨-, hlookup⟩ := h.find_chain hwf
  unfold HashMemory.poolHashDelete QueryCache.poolHashDelete
  dsimp only
  rw [if_neg (by omega), if_neg (by omega), hlookup]
  rcases (h.chain_linked _ hb).findLink_eq (p := m.hasKey key) (h.length_chain_lt hb) .head with
    ⟨hfind, hall⟩ | ⟨l₁, i, l₂, hsplit, hnone, hi, hfind⟩
  · have hnot : (chains (createHashKey m.mask key)).find? (m.hasKey key) = none := by
      refine List.find?_eq_none.2 fun j hj => ?_
      rw [hall j hj]
      exact Bool.false_ne_true
    rw [hfind, hnot]
    exact ⟨m, free, chains, rfl, h⟩
  · have hfound : (chains (createHashKey m.mask key)).find? (m.hasKey key) = some i := by
      rw [hsplit, List.find?_append, List.find?_eq_none.2 fun j hj => by simp [hnone j hj],
        List.find?_cons_of_pos hi]
      rfl
    rw [hfind, hfound]
    exact ⟨_, _, _, rfl, h.unlink hb hsplit (by rw [h.mask_eq]) hnone hi⟩

end

end Represents

/-! ## Starting over -/

theorem linked_range' {next : Nat → Option Nat} {n : Nat}
    (hnext : ∀ i < n, next i = if i < n - 1 then some (i + 1) else none) :
    ∀ k start, start + k = n →
      Linked next (if k = 0 then none else some start) (List.range' start k) := by
  intro k
  induction k with
  | zero => exact fun start _ => .nil
  | succ k ih =>
    intro start hstart
    rw [if_neg (Nat.succ_ne_zero k), List.range'_succ]
    refine .cons ?_
    rw [hnext start (by omega)]
    have hrest := ih (start + 1) (by omega)
    rcases Nat.eq_zero_or_pos k with rfl | hk
    · rw [if_neg (by omega)]
      exact hrest
    · rw [if_pos (by omega)]
      rw [if_neg (by omega)] at hrest
      exact hrest

/-- **`pool_hash_reset` leads to a memory that holds the empty table.** -/
theorem represents_reset {nelements : Nat} {t : HashTable} (m : HashMemory)
    (h : poolHashInit nelements = some t) :
    ∃ m' free chains, m.poolHashReset nelements = some m' ∧ Represents m' t free chains := by
  have htwo := (wf_poolHashInit h).two_le
  unfold poolHashInit at h
  unfold HashMemory.poolHashReset
  split_ifs at h ⊢ with hzero
  obtain ⟨⟨n, shift⟩, hloop, rfl⟩ := Option.map_eq_some_iff.1 h
  dsimp only at htwo
  rw [hloop, Option.map_some]
  refine ⟨m.cleared n shift, List.range' 1 (n - 1), fun _ => [], rfl, rfl, rfl, rfl, ?_,
    fun b hb => ?_, ?_, fun b hb => rfl, ?_⟩
  · have hnext : ∀ i < n, (m.cleared n shift).next i = if i < n - 1 then some (i + 1) else none :=
      fun i => m.next_cleared
    have hlinked := linked_range' hnext (n - 1) 1 (by omega)
    rw [if_neg (by omega)] at hlinked
    rw [m.next_cleared (by omega), if_pos (by omega)]
    exact hlinked
  · change b < n at hb
    change Linked _ (if b < n then none else m.head b) []
    rw [if_pos hb]
    exact .nil
  · change (0 :: (List.range' 1 (n - 1) ++ (List.range n).flatMap fun _ => [])).Perm (List.range n)
    obtain ⟨k, rfl⟩ : ∃ k, n = k + 1 := ⟨n - 1, by omega⟩
    have hnil : (List.range (k + 1)).flatMap (fun _ => ([] : List Nat)) = [] :=
      flatMap_eq_nil_iff.2 fun _ _ => rfl
    rw [hnil, append_nil, range_eq_range']
    exact List.Perm.refl _
  · simp [Table.empty]

end PgBalancer.QueryCache
