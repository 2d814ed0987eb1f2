import Mathlib

/-!
# Chained hash tables over a bounded pool of elements

A table is an array of chains together with the number of elements that are
still free.  Elements are taken from the pool when a key is inserted and given
back when it is erased, so the pool never grows: what a table holds plus what is
free is always its capacity.

The bucket of a key is a parameter.  Uniqueness of the keys of one chain is
carried by Mathlib's `AList`; that every key sits in its own bucket, and that no
element is lost, is `Table.Wf`.

* `lookup_insert`, `lookup_erase`, `lookup_replace` — the updates, seen through `lookup`.
* `Wf.insert`, `Wf.erase`, `Wf.replace` — all keep the table well formed.
* `Wf.free_eq_capacity` — a table in which nothing can be found has its whole
  pool free.
-/

namespace ChainedTable

open Finset

open Function (update update_self update_of_ne update_apply)

/-- An array of chains and a pool of free elements. -/
structure Table (κ ν : Type) where
  /-- The elements hanging off each bucket, youngest first. -/
  chain : Nat → AList fun _ : κ => ν
  /-- How many elements are left in the pool. -/
  free : Nat

namespace Table

variable {κ ν : Type}

/-- The empty table with `cap` free elements. -/
def empty (κ ν : Type) (cap : Nat) : Table κ ν := ⟨fun _ => ∅, cap⟩

section Bucket

variable [DecidableEq κ] (bucket : κ → Nat)

/-- Walk the chain of the key's bucket. -/
def lookup (t : Table κ ν) (k : κ) : Option ν := (t.chain (bucket k)).lookup k

/-- Take an element from the pool and hang it at the front of the key's chain. -/
def insert (t : Table κ ν) (k : κ) (v : ν) : Table κ ν where
  chain := Function.update t.chain (bucket k) ((t.chain (bucket k)).insert k v)
  free := t.free - 1

/-- Unlink the key's element and give it back to the pool. -/
def erase (t : Table κ ν) (k : κ) : Table κ ν where
  chain := Function.update t.chain (bucket k) ((t.chain (bucket k)).erase k)
  free := t.free + 1

variable {bucket} {t : Table κ ν} {k k' : κ} {v : ν}

@[simp] theorem lookup_empty (cap : Nat) (k : κ) : (empty κ ν cap).lookup bucket k = none := by
  simp [lookup, empty]

theorem lookup_insert (t : Table κ ν) (k k' : κ) (v : ν) :
    (t.insert bucket k v).lookup bucket k' = if k' = k then some v else t.lookup bucket k' := by
  unfold lookup insert
  by_cases hk : k' = k
  · subst hk
    simp
  · by_cases hb : bucket k' = bucket k
    · simp [hb, hk, AList.lookup_insert_ne hk]
    · simp [hb, hk]

theorem lookup_erase (t : Table κ ν) (k k' : κ) :
    (t.erase bucket k).lookup bucket k' = if k' = k then none else t.lookup bucket k' := by
  unfold lookup erase
  by_cases hk : k' = k
  · subst hk
    simp
  · by_cases hb : bucket k' = bucket k
    · simp [hb, hk, AList.lookup_erase_ne hk]
    · simp [hb, hk]

theorem dlookup_kreplace {l : List (Sigma fun _ : κ => ν)} (hk : k ∈ l.keys) (k' : κ) (v : ν) :
    (l.kreplace k v).dlookup k' = if k' = k then some v else l.dlookup k' := by
  induction l with
  | nil => cases hk
  | cons e l ih =>
    obtain ⟨a, b⟩ := e
    by_cases hak : k = a
    · subst hak
      have hfirst : List.kreplace k v (⟨k, b⟩ :: l) = ⟨k, v⟩ :: l :=
        List.lookmap_cons_some _ _ (by simp)
      rw [hfirst]
      by_cases hk' : k' = k
      · subst hk'
        rw [List.dlookup_cons_eq, if_pos rfl]
      · rw [List.dlookup_cons_ne _ _ hk', List.dlookup_cons_ne _ _ hk', if_neg hk']
    · have hlater : List.kreplace k v (⟨a, b⟩ :: l) = ⟨a, b⟩ :: List.kreplace k v l :=
        List.lookmap_cons_none _ _ (by simp [hak])
      have hmem : k ∈ l.keys := by
        rcases List.mem_cons.1 hk with h | h
        · exact absurd h hak
        · exact h
      rw [hlater]
      by_cases hk' : k' = a
      · subst hk'
        rw [List.dlookup_cons_eq, List.dlookup_cons_eq, if_neg (Ne.symm hak)]
      · rw [List.dlookup_cons_ne _ _ hk', List.dlookup_cons_ne _ _ hk', ih hmem]

theorem lookup_replace (hk : (t.lookup bucket k).isSome) (k' : κ) (v : ν) : lookup bucket { t with
      chain := update t.chain (bucket k) ((t.chain (bucket k)).replace k v) } k' =
        if k' = k then some v else t.lookup bucket k' := by
  unfold lookup
  by_cases hb : bucket k' = bucket k
  · simp only [hb, update_self]
    exact dlookup_kreplace (AList.lookup_isSome.1 hk) k' v
  · have hne : k' ≠ k := fun h => hb (h ▸ rfl)
    simp [hb, hne]

/-! ## Well-formedness -/

/-- A table of `n` buckets over a pool of `cap` elements. -/
structure Wf (bucket : κ → Nat) (n cap : Nat) (t : Table κ ν) : Prop where
  /-- every key hangs off its own bucket -/
  placed : ∀ b k, k ∈ t.chain b → bucket k = b
  /-- no element is lost: those in use and the free ones make up the pool -/
  count : ∑ b ∈ range n, (t.chain b).entries.length + t.free = cap

variable {n cap : Nat}

omit [DecidableEq κ] in
theorem wf_empty (bucket : κ → Nat) (n cap : Nat) : Wf bucket n cap (empty κ ν cap) where
  placed b k hk := absurd hk (AList.notMem_empty k)
  count := by simp [empty]

omit [DecidableEq κ] in
/-- Replacing one chain changes the number of elements in use by that chain only. -/
theorem sum_length_update {b : Nat} (hb : b < n) (t : Table κ ν) (c : AList fun _ : κ => ν) :
    ∑ x ∈ range n, (update t.chain b c x).entries.length + (t.chain b).entries.length =
      ∑ x ∈ range n, (t.chain x).entries.length + c.entries.length := by
  have hmem : b ∈ range n := mem_range.2 hb
  rw [← add_sum_erase _ _ hmem,
    ← add_sum_erase (range n) (fun x => (t.chain x).entries.length) hmem]
  have hrest : ∑ x ∈ (range n).erase b, (update t.chain b c x).entries.length =
      ∑ x ∈ (range n).erase b, (t.chain x).entries.length := by
    refine sum_congr rfl fun x hx => ?_
    rw [update_of_ne (ne_of_mem_erase hx)]
  rw [hrest, update_self]
  omega

section

variable (h : Wf bucket n cap t)
include h

omit [DecidableEq κ] in
theorem Wf.placed_update {c : AList fun _ : κ => ν}
    (hc : ∀ k' ∈ c, k' = k ∨ k' ∈ t.chain (bucket k)) (b : Nat) (k' : κ)
    (hmem : k' ∈ update t.chain (bucket k) c b) : bucket k' = b := by
  rw [update_apply] at hmem
  split_ifs at hmem with hb
  · rcases hc k' hmem with rfl | hmem
    · exact hb.symm
    · exact hb ▸ h.placed _ _ hmem
  · exact h.placed _ _ hmem

theorem Wf.insert (hb : bucket k < n) (hfree : 0 < t.free)
    (hk : t.lookup bucket k = none) : Wf bucket n cap (t.insert bucket k v) where
  placed := h.placed_update fun _ => (AList.mem_insert _).1
  count := by
    have hlen : ((t.chain (bucket k)).insert k v).entries.length =
        (t.chain (bucket k)).entries.length + 1 := by
      rw [AList.entries_insert_of_notMem (AList.lookup_eq_none.1 hk), List.length_cons]
    have hsum := sum_length_update hb t ((t.chain (bucket k)).insert k v)
    have hcount := h.count
    simp only [Table.insert]
    omega

theorem Wf.erase (hb : bucket k < n) (hk : t.lookup bucket k = some v) :
    Wf bucket n cap (t.erase bucket k) where
  placed := h.placed_update fun _ hmem => .inr (AList.mem_erase.1 hmem).2
  count := by
    have hmem : k ∈ t.chain (bucket k) := AList.lookup_isSome.1 (Option.isSome_of_mem hk)
    have hlen : ((t.chain (bucket k)).erase k).entries.length + 1 =
        (t.chain (bucket k)).entries.length := by
      have hkeys : ((t.chain (bucket k)).erase k).keys.length + 1 =
          (t.chain (bucket k)).keys.length := by
        rw [AList.keys_erase]
        exact List.length_erase_add_one hmem
      simpa [AList.keys, List.keys] using hkeys
    have hsum := sum_length_update hb t ((t.chain (bucket k)).erase k)
    have hcount := h.count
    simp only [Table.erase]
    omega

theorem Wf.replace (hb : bucket k < n) (v : ν) : Wf bucket n cap { t with
      chain := update t.chain (bucket k) ((t.chain (bucket k)).replace k v) } where
  placed := h.placed_update fun _ hmem => .inr (AList.mem_replace.1 hmem)
  count := by
    have hlen : ((t.chain (bucket k)).replace k v).entries.length =
        (t.chain (bucket k)).entries.length := by
      have hkeys := congrArg List.length (AList.keys_replace k v (t.chain (bucket k)))
      simpa [AList.keys, List.keys] using hkeys
    have hsum := sum_length_update hb t ((t.chain (bucket k)).replace k v)
    have hcount := h.count
    dsimp only
    omega

theorem Wf.free_eq_capacity (hnone : ∀ k, t.lookup bucket k = none) : t.free = cap := by
  have hempty : ∀ b ∈ range n, (t.chain b).entries.length = 0 := by
    intro b _
    rw [List.length_eq_zero_iff, List.eq_nil_iff_forall_not_mem]
    rintro ⟨k, v⟩ hmem
    have hk : k ∈ t.chain b := List.mem_keys_of_mem hmem
    have hb : bucket k = b := h.placed b k hk
    subst hb
    exact AList.lookup_eq_none.1 (hnone k) hk
  have hcount := h.count
  rw [sum_eq_zero hempty] at hcount
  omega

end

end Bucket

end Table

end ChainedTable
