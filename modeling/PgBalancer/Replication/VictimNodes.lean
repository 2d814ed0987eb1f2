import Mathlib

/-!
# Deciding by majority which backends are degenerated

When the backends report different numbers of affected rows for one write,
`ReadyForQuery` asks `find_victim_nodes` which of them to degenerate.  The
numbers come as an array with one entry for each backend; a negative entry stands
for a backend that is down.  The function counts for each healthy backend how
many agree with it, and lets the largest group survive when it is large enough.
Otherwise the main node's number survives.

* `decidesByMajority_iff` — **the decision is the majority's, or else the main
  node's, exactly when no spurious majority arises.**  The test for a majority
  counts the nodes of all largest groups together, so that two groups of two in a
  cluster of four pass for a majority, and the first of them wins.
-/

namespace PgBalancer.Replication

open List

/-! ## The source -/

/-- The local variables of the counting loops; `votes` has one entry for each node
visited so far. -/
structure Tally where
  healthyNodes : Nat
  votes : List Int
  maxvotes : Nat
  majorityNtuples : Int

/-- The inner loop for node `i` with `me` affected rows, over the remaining nodes
`j`, from the values of `votes[i]`, `maxvotes` and `majority_ntuples`. -/
def countVotes (i : Nat) (me : Int) : List (Int × Nat) → Nat × Nat × Int → Nat × Nat × Int
  | [], s => s
  | (x, j) :: nodes, (votes, maxvotes, majority) =>
    if i ≠ j ∧ me = x then
      if votes + 1 > maxvotes then countVotes i me nodes (votes + 1, votes + 1, me)
      else countVotes i me nodes (votes + 1, maxvotes, majority)
    else countVotes i me nodes (votes, maxvotes, majority)

/-- One round of the outer loop. -/
def tallyNode (ntuples : List Int) (t : Tally) : Int × Nat → Tally
  | (me, i) =>
    if me < 0 then { t with votes := t.votes ++ [-1] }
    else
      let (votes, maxvotes, majority) :=
        countVotes i me ntuples.zipIdx (1, t.maxvotes, t.majorityNtuples)
      ⟨t.healthyNodes + 1, t.votes ++ [(votes : Int)], maxvotes, majority⟩

/-- The outer loop. -/
def tally (ntuples : List Int) : Tally := ntuples.zipIdx.foldl (tallyNode ntuples) ⟨0, [], 0, 0⟩

/-- The last loop: the healthy nodes that differ from `majority`. -/
def victimNodes (ntuples : List Int) (majority : Int) : List Nat :=
  (ntuples.zipIdx.filter fun (x, _) => 0 ≤ x ∧ x ≠ majority).map (·.2)

/-- `find_victim_nodes`; a negative `mainNode` stands for none. -/
def findVictimNodes (ntuples : List Int) (mainNode : Int) : Option (List Nat) :=
  let t := tally ntuples
  let byMain :=
    if mainNode < 0 then none else some (victimNodes ntuples (ntuples.getD mainNode.toNat 0))
  if t.maxvotes = 1 then byMain
  -- `cnt <= healthy_nodes / 2.0`, without the fractions
  else if 2 * t.votes.count (t.maxvotes : Int) ≤ t.healthyNodes then byMain
  else some (victimNodes ntuples t.majorityNtuples)

/-! ## What the loops compute -/

/-- The number of votes of a node: the size of its group, `-1` for a node that is down. -/
def votesOf (ntuples : List Int) (me : Int) : Int := if me < 0 then -1 else (ntuples.count me : Int)

/-- The number of nodes that are up. -/
def healthy (ntuples : List Int) : Nat := ntuples.countP (0 ≤ ·)

variable {ntuples visited : List Int} {i k : Nat} {me v w mainNode : Int} {t : Tally}
  {r : Option (List Nat)}

/-- The other nodes with the same number of rows. -/
def agreeing (i : Nat) (me : Int) (nodes : List (Int × Nat)) : Nat :=
  nodes.countP fun (x, j) => i ≠ j ∧ me = x

/-- The inner loop counts the nodes that agree. -/
theorem countVotes_eq (nodes : List (Int × Nat)) (votes maxvotes : Nat) (majority : Int) :
    countVotes i me nodes (votes, maxvotes, majority) = (votes + agreeing i me nodes,
        if 0 < agreeing i me nodes ∧ maxvotes < votes + agreeing i me nodes then
          (votes + agreeing i me nodes, me) else (maxvotes, majority)) := by
  induction nodes generalizing votes maxvotes majority with
  | nil => simp [countVotes, agreeing]
  | cons node nodes ih =>
    obtain ⟨x, j⟩ := node
    by_cases h : i ≠ j ∧ me = x
    · have hcons : agreeing i me ((x, j) :: nodes) = agreeing i me nodes + 1 := by
        simp [agreeing, h]
      by_cases hmax : votes + 1 > maxvotes
      · rw [countVotes, if_pos h, if_pos hmax, ih, hcons]
        by_cases h0 : agreeing i me nodes = 0
        · rw [if_neg (by omega), if_pos (by omega), h0]
        · rw [if_pos (by omega), if_pos (by omega)]
          ext <;> simp <;> omega
      · rw [countVotes, if_pos h, if_neg hmax, ih, hcons]
        by_cases hlt : maxvotes < votes + 1 + agreeing i me nodes
        · rw [if_pos (by omega), if_pos (by omega)]
          ext <;> simp <;> omega
        · rw [if_neg (by omega), if_neg (by omega)]
          simp only [Prod.mk.injEq, and_true]
          omega
    · have hcons : agreeing i me ((x, j) :: nodes) = agreeing i me nodes := by
        simp only [agreeing, countP_cons, decide_eq_true_eq, if_neg h, Nat.add_zero]
      rw [countVotes, if_neg h, ih, hcons]

theorem agreeing_zipIdx_of_lt (l : List Int) (h : i < k) :
    agreeing i me (l.zipIdx k) = l.count me := by
  induction l generalizing k with
  | nil => rfl
  | cons x l ih =>
    have hne : i ≠ k := by omega
    rw [zipIdx_cons, agreeing, countP_cons, ← agreeing, ih (by omega), count_cons]
    by_cases hx : me = x
    · simp [hne, hx]
    · simp [hx, show ¬ x = me from fun h => hx h.symm]

theorem agreeing_zipIdx (l : List Int) (h : (me, i) ∈ l.zipIdx k) :
    agreeing i me (l.zipIdx k) + 1 = l.count me := by
  induction l generalizing k with
  | nil => simp at h
  | cons x l ih =>
    rw [zipIdx_cons, agreeing, countP_cons, ← agreeing, count_cons]
    rcases mem_cons.1 (zipIdx_cons ▸ h) with heq | hmem
    · obtain ⟨rfl, rfl⟩ := Prod.mk.inj heq
      simp [agreeing_zipIdx_of_lt l (Nat.lt_succ_self i)]
    · have hlt : k + 1 ≤ i := (mem_zipIdx hmem).1
      have hne : i ≠ k := by omega
      have := ih hmem
      by_cases hx : me = x
      · simp [hne, hx] at this ⊢
        omega
      · simp [hx, show ¬ x = me from fun h => hx h.symm, this]

theorem tallyNode_eq (h : (me, i) ∈ ntuples.zipIdx) : tallyNode ntuples t (me, i) =
      if me < 0 then { t with votes := t.votes ++ [-1] }
      else if 1 < ntuples.count me ∧ t.maxvotes < ntuples.count me then
        ⟨t.healthyNodes + 1, t.votes ++ [(ntuples.count me : Int)], ntuples.count me, me⟩
      else
        ⟨t.healthyNodes + 1, t.votes ++ [(ntuples.count me : Int)], t.maxvotes,
          t.majorityNtuples⟩ := by
  have hcount := agreeing_zipIdx ntuples h
  have hsum : 1 + agreeing i me ntuples.zipIdx = ntuples.count me := by omega
  have hpos : 0 < agreeing i me ntuples.zipIdx ↔ 1 < ntuples.count me := by omega
  rw [tallyNode]
  refine if_congr Iff.rfl rfl ?_
  rw [countVotes_eq, hsum]
  simp only [hpos]
  split <;> rfl

/-- `me` is the number of rows of a group of `n` healthy nodes. -/
def ofSize (ntuples : List Int) (n : Nat) (me : Int) : Bool :=
  decide (0 ≤ me ∧ ntuples.count me = n)

/-- What the outer loop has computed once it has visited the nodes `visited`: the
winner so far is the first of them that belongs to a largest group. -/
structure Tallied (ntuples visited : List Int) (t : Tally) : Prop where
  healthyNodes : t.healthyNodes = healthy visited
  votes : t.votes = visited.map (votesOf ntuples)
  le_maxvotes : ∀ x ∈ visited, 0 ≤ x → 1 < ntuples.count x → ntuples.count x ≤ t.maxvotes
  winner : t.maxvotes = 0 ∨ 1 < t.maxvotes ∧
    visited.find? (ofSize ntuples t.maxvotes) = some t.majorityNtuples

/-- The tally after one more node. -/
theorem Tallied.step (ht : Tallied ntuples visited t) (h : (me, i) ∈ ntuples.zipIdx) :
    Tallied ntuples (visited ++ [me]) (tallyNode ntuples t (me, i)) := by
  rw [tallyNode_eq h]
  have hhealthy : healthy (visited ++ [me]) = healthy visited + if 0 ≤ me then 1 else 0 := by
    simp [healthy, countP_append]
  by_cases hme : me < 0
  · rw [if_pos hme]
    refine ⟨?_, ?_, ?_, ?_⟩
    · rw [hhealthy, if_neg (by omega)]
      exact ht.healthyNodes
    · simp [ht.votes, votesOf, hme]
    · intro x hx h0
      rcases mem_append.1 hx with hx | hx
      · exact ht.le_maxvotes x hx h0
      · obtain rfl := mem_singleton.1 hx
        omega
    · exact ht.winner.imp_right fun ⟨h1, hfind⟩ => ⟨h1, by simp [List.find?_append, hfind]⟩
  · have hvotes : t.votes ++ [(ntuples.count me : Int)] =
        (visited ++ [me]).map (votesOf ntuples) := by
      simp [ht.votes, votesOf, hme]
    rw [if_neg hme]
    split
    case isTrue hlt =>
      refine ⟨?_, hvotes, ?_, .inr ⟨hlt.1, ?_⟩⟩
      · rw [hhealthy, if_pos (by omega), ht.healthyNodes]
      · intro x hx h0 h1
        rcases mem_append.1 hx with hx | hx
        · exact (ht.le_maxvotes x hx h0 h1).trans hlt.2.le
        · exact (congrArg ntuples.count (mem_singleton.1 hx)).le
      -- nobody visited before has so many votes
      · have hnone : visited.find? (ofSize ntuples (ntuples.count me)) = none := by
          simp only [List.find?_eq_none, ofSize, decide_eq_true_eq, not_and]
          intro x hx h0 heq
          have := ht.le_maxvotes x hx h0 (by omega)
          omega
        have hself : ofSize ntuples (ntuples.count me) me = true := by
          simp [ofSize, not_lt.1 hme]
        simp [List.find?_append, hnone, hself]
    case isFalse hlt =>
      refine ⟨?_, hvotes, ?_, ?_⟩
      · rw [hhealthy, if_pos (by omega), ht.healthyNodes]
      · intro x hx h0 h1
        rcases mem_append.1 hx with hx | hx
        · exact ht.le_maxvotes x hx h0 h1
        · obtain rfl := mem_singleton.1 hx
          exact not_lt.1 fun h => hlt ⟨h1, h⟩
      · exact ht.winner.imp_right fun ⟨h1, hfind⟩ => ⟨h1, by simp [List.find?_append, hfind]⟩

theorem Tallied.foldl (ht : Tallied ntuples visited t) (nodes : List (Int × Nat))
    (hnodes : ∀ node ∈ nodes, node ∈ ntuples.zipIdx) :
    Tallied ntuples (visited ++ nodes.map (·.1)) (nodes.foldl (tallyNode ntuples) t) := by
  induction nodes generalizing visited t with
  | nil => simpa using ht
  | cons node nodes ih =>
    have hstep := ht.step (hnodes node (by simp))
    have := ih hstep fun n hn => hnodes n (by simp [hn])
    simpa using this

theorem tally_spec (ntuples : List Int) : Tallied ntuples ntuples (tally ntuples) := by
  have h0 : Tallied ntuples [] ⟨0, [], 0, 0⟩ := ⟨rfl, rfl, by simp, .inl rfl⟩
  simpa [tally] using h0.foldl ntuples.zipIdx fun _ h => h

/-! ## Groups -/

/-- `v` is the number of rows of more than half of the healthy nodes. -/
def Majority (ntuples : List Int) (v : Int) : Prop :=
  0 ≤ v ∧ healthy ntuples < 2 * ntuples.count v

theorem count_add_count_le (ntuples : List Int) (hv : 0 ≤ v) (hw : 0 ≤ w) (hne : v ≠ w) :
    ntuples.count v + ntuples.count w ≤ healthy ntuples := by
  induction ntuples with
  | nil => simp
  | cons x l ih =>
    simp only [count_cons, healthy, countP_cons] at ih ⊢
    by_cases hxv : x = v
    · subst hxv
      simp only [beq_self_eq_true, if_true, beq_iff_eq, hne, if_false, hv, decide_true]
      omega
    · by_cases hxw : x = w
      · subst hxw
        simp only [beq_self_eq_true, if_true, beq_iff_eq, hxv, if_false, hw, decide_true]
        omega
      · simp only [beq_iff_eq, hxv, hxw, if_false]
        omega

theorem Majority.unique (hv : Majority ntuples v) (hw : Majority ntuples w) : v = w := by
  by_contra hne
  have := count_add_count_le ntuples hv.1 hw.1 hne
  have := hv.2
  have := hw.2
  omega

theorem mem_victimNodes :
    i ∈ victimNodes ntuples v ↔ ∃ x, ntuples[i]? = some x ∧ 0 ≤ x ∧ x ≠ v := by
  simp [victimNodes, mem_zipIdx_iff_getElem?]

theorem victimNodes_injective (hi : ntuples[i]? = some w) (hw : 0 ≤ w)
    (h : victimNodes ntuples v = victimNodes ntuples w) : v = w := by
  by_contra hne
  have hmem : i ∈ victimNodes ntuples v := mem_victimNodes.2 ⟨w, hi, hw, fun h => hne h.symm⟩
  obtain ⟨x, hx, -, hxw⟩ := mem_victimNodes.1 (h ▸ hmem)
  exact hxw (Option.some.inj (hx.symm.trans hi))

theorem length_victimNodes (ntuples : List Int) (hv : 0 ≤ v) :
    (victimNodes ntuples v).length + ntuples.count v = healthy ntuples := by
  have hlen : (victimNodes ntuples v).length = ntuples.countP fun x => 0 ≤ x ∧ x ≠ v := by
    rw [victimNodes, length_map, ← countP_eq_length_filter]
    conv_rhs => rw [← zipIdx_map_fst 0 ntuples, countP_map]
    rfl
  rw [hlen, healthy]
  clear hlen
  induction ntuples with
  | nil => rfl
  | cons x l ih =>
    simp only [countP_cons, count_cons, decide_eq_true_eq, ne_eq] at ih ⊢
    by_cases hxv : x = v
    · simp only [hxv, beq_self_eq_true, if_true, hv, not_true_eq_false, and_false, if_false]
      omega
    · simp only [beq_iff_eq, hxv, if_false, not_false_eq_true, and_true]
      omega

/-! ## The decision -/

/-- `v` is the number of rows of a largest group. -/
def Largest (ntuples : List Int) (v : Int) : Prop :=
  0 ≤ v ∧ ∀ w ∈ ntuples, 0 ≤ w → ntuples.count w ≤ ntuples.count v

instance (ntuples : List Int) : DecidablePred (Largest ntuples) := fun v =>
  inferInstanceAs (Decidable (0 ≤ v ∧ ∀ w ∈ ntuples, 0 ≤ w → ntuples.count w ≤ ntuples.count v))

/-- The number of rows of the first node that belongs to a largest group. -/
def firstLargest (ntuples : List Int) : Option Int := ntuples.find? (Largest ntuples ·)

/-- The largest groups have two nodes or more. -/
def HasPair (ntuples : List Int) : Prop := ∃ v ∈ ntuples, Largest ntuples v ∧ 1 < ntuples.count v

/-- No group is a majority, yet the largest groups, of two nodes or more, have
together more than half of the healthy nodes. -/
def SpuriousMajority (ntuples : List Int) : Prop :=
  (∀ v, ¬ Majority ntuples v) ∧ HasPair ntuples ∧
    healthy ntuples < 2 * ntuples.countP (Largest ntuples ·)

/-- What the main node decides. -/
def byMain (ntuples : List Int) (mainNode : Int) : Option (List Nat) :=
  if mainNode < 0 then none else some (victimNodes ntuples (ntuples.getD mainNode.toNat 0))

/-- When some group has two nodes, its size or more is the largest number of votes. -/
theorem largest_iff_ofSize (ht : Tallied ntuples ntuples t) (h1 : 1 < t.maxvotes)
    (hme : me ∈ ntuples) : Largest ntuples me ↔ ofSize ntuples t.maxvotes me = true := by
  obtain ⟨-, hfind⟩ := ht.winner.resolve_left (by omega)
  have hwin : 0 ≤ t.majorityNtuples ∧ ntuples.count t.majorityNtuples = t.maxvotes := by
    simpa [ofSize] using List.find?_some hfind
  have hle : ∀ x ∈ ntuples, 0 ≤ x → ntuples.count x ≤ t.maxvotes := by
    intro x hx h0
    by_cases hx1 : 1 < ntuples.count x
    · exact ht.le_maxvotes x hx h0 hx1
    · omega
  simp only [ofSize, decide_eq_true_eq, Largest]
  refine and_congr_right fun h0 => ⟨fun h => ?_, fun h w hw hw0 => h ▸ hle w hw hw0⟩
  have := h _ (mem_of_find?_eq_some hfind) hwin.1
  have := hle me hme h0
  omega

theorem count_votes (ht : Tallied ntuples ntuples t) : t.votes.count (t.maxvotes : Int) =
      if t.maxvotes = 0 then 0 else ntuples.countP (Largest ntuples ·) := by
  have hcount : t.votes.count (t.maxvotes : Int) =
      ntuples.countP (ofSize ntuples t.maxvotes ·) := by
    rw [ht.votes, List.count, countP_map]
    refine countP_congr fun x hx => ?_
    by_cases h0 : x < 0
    · simp [votesOf, ofSize, h0]
    · simp [votesOf, ofSize, h0, not_lt.1 h0]
  rw [hcount]
  rcases ht.winner with h0 | ⟨h1, -⟩
  · rw [if_pos h0, countP_eq_zero]
    intro x hx
    have : 0 < ntuples.count x := count_pos_iff.2 hx
    simp [ofSize, h0]
    omega
  · rw [if_neg (by omega)]
    refine countP_congr fun x hx => ?_
    simp [largest_iff_ofSize ht h1 hx]

theorem hasPair_iff (ht : Tallied ntuples ntuples t) : HasPair ntuples ↔ t.maxvotes ≠ 0 := by
  constructor
  · rintro ⟨v, hv, hlargest, h1⟩
    have := ht.le_maxvotes v hv hlargest.1 h1
    omega
  · intro h0
    obtain ⟨h1, hfind⟩ := ht.winner.resolve_left h0
    have hmem := mem_of_find?_eq_some hfind
    have hwin : 0 ≤ t.majorityNtuples ∧ ntuples.count t.majorityNtuples = t.maxvotes := by
      simpa [ofSize] using List.find?_some hfind
    refine ⟨t.majorityNtuples, hmem, ?_, by omega⟩
    exact (largest_iff_ofSize ht h1 hmem).2 (by simpa [ofSize] using hwin)

/-- The function in terms of the largest group. -/
theorem findVictimNodes_eq :
    (HasPair ntuples ∧ healthy ntuples < 2 * ntuples.countP (Largest ntuples ·) →
        ∃ v, firstLargest ntuples = some v ∧
          findVictimNodes ntuples mainNode = some (victimNodes ntuples v)) ∧
      (¬ (HasPair ntuples ∧ healthy ntuples < 2 * ntuples.countP (Largest ntuples ·)) →
        findVictimNodes ntuples mainNode = byMain ntuples mainNode) := by
  have ht := tally_spec ntuples
  have hne1 : (tally ntuples).maxvotes ≠ 1 := by
    rcases ht.winner with h | h <;> omega
  have hfind : findVictimNodes ntuples mainNode =
      if 2 * (tally ntuples).votes.count ((tally ntuples).maxvotes : Int) ≤ healthy ntuples then
        byMain ntuples mainNode
      else some (victimNodes ntuples (tally ntuples).majorityNtuples) := by
    rw [← ht.healthyNodes]
    simp only [findVictimNodes, byMain, if_neg hne1]
  rw [hfind, count_votes ht, hasPair_iff ht]
  constructor
  · rintro ⟨h0, hlt⟩
    obtain ⟨h1, hwin⟩ := ht.winner.resolve_left h0
    refine ⟨(tally ntuples).majorityNtuples, ?_, by rw [if_neg h0, if_neg (by omega)]⟩
    rw [firstLargest, ← hwin]
    refine List.find?_congr fun x hx => ?_
    simp [largest_iff_ofSize ht h1 hx]
  · intro h
    by_cases h0 : (tally ntuples).maxvotes = 0
    · rw [if_pos h0, if_pos (by omega)]
    · rw [if_neg h0, if_pos (not_lt.1 fun hlt => h ⟨h0, hlt⟩)]

theorem Majority.hasPair (hv : Majority ntuples v) (hmem : w ∈ ntuples) (hw : 0 ≤ w)
    (hne : w ≠ v) : HasPair ntuples := by
  have hmajority := hv.2
  have hpos : 0 < ntuples.count w := count_pos_iff.2 hmem
  have hsum := count_add_count_le ntuples hw hv.1 hne
  refine ⟨v, count_pos_iff.1 (by omega), ⟨hv.1, fun u _ hu => ?_⟩, by omega⟩
  by_cases huv : u = v
  · rw [huv]
  · have := count_add_count_le ntuples hu hv.1 huv
    omega

theorem firstLargest_of_majority (hv : Majority ntuples v) (hpair : HasPair ntuples) :
    firstLargest ntuples = some v ∧ healthy ntuples < 2 * ntuples.countP (Largest ntuples ·) := by
  obtain ⟨u, hu, hlargest, h1⟩ := hpair
  have hmajority := hv.2
  -- a group that no other exceeds is the majority
  have honly : ∀ x, Largest ntuples x → x ∈ ntuples → x = v := by
    intro x hx hmem
    by_contra hne
    have hsum := count_add_count_le ntuples hx.1 hv.1 hne
    have hvmem : v ∈ ntuples := count_pos_iff.1 (by omega)
    have := hx.2 v hvmem hv.1
    omega
  obtain rfl := honly u hlargest hu
  constructor
  · cases hfind : firstLargest ntuples with
    | none =>
      have := List.find?_eq_none.1 hfind u hu
      simp [hlargest] at this
    | some x =>
      have hx : Largest ntuples x := by simpa using List.find?_some hfind
      rw [honly x hx (mem_of_find?_eq_some hfind)]
  · have : ntuples.count u ≤ ntuples.countP (Largest ntuples ·) :=
      countP_mono_left fun x _ hx => by simpa [beq_iff_eq.1 hx] using hlargest
    omega

/-- The decision `r` is the majority's if there is one, else the main node's if
there is one; and unless the main node had to decide, fewer nodes are degenerated
than survive. -/
def DecidesByMajority (ntuples : List Int) (mainNode : Int) (r : Option (List Nat)) : Prop :=
  (0 ≤ mainNode →
    (∀ v, Majority ntuples v → r = some (victimNodes ntuples v)) ∧
      ((∀ v, ¬ Majority ntuples v) →
        r = some (victimNodes ntuples (ntuples.getD mainNode.toNat 0)))) ∧
  (mainNode < 0 → (∀ v, ¬ Majority ntuples v) → r = none) ∧
  ∀ victims, r = some victims →
    (0 ≤ mainNode ∧ ∀ v, ¬ Majority ntuples v) ∨ 2 * victims.length < healthy ntuples

theorem Majority.length_victimNodes_lt (hv : Majority ntuples v) :
    2 * (victimNodes ntuples v).length < healthy ntuples := by
  have := length_victimNodes ntuples hv.1
  have := hv.2
  omega

/-- A majority decides. -/
theorem decidesByMajority_of_majority
    (hmain : 0 ≤ mainNode → ∃ w, ntuples[mainNode.toNat]? = some w ∧ 0 ≤ w)
    (hv : Majority ntuples v) :
    DecidesByMajority ntuples mainNode (findVictimNodes ntuples mainNode) := by
  have hr : (mainNode < 0 ∧ findVictimNodes ntuples mainNode = none) ∨
      findVictimNodes ntuples mainNode = some (victimNodes ntuples v) := by
    by_cases hpair : HasPair ntuples
    · obtain ⟨hfirst, hlt⟩ := firstLargest_of_majority hv hpair
      obtain ⟨u, hu, hr⟩ := (findVictimNodes_eq).1 ⟨hpair, hlt⟩
      obtain rfl := Option.some.inj (hfirst.symm.trans hu)
      exact .inr hr
    · rw [(findVictimNodes_eq).2 fun h => hpair h.1, byMain]
      by_cases hneg : mainNode < 0
      · exact .inl ⟨hneg, if_pos hneg⟩
      -- a single healthy node, which is the main node
      · obtain ⟨w, hw, hw0⟩ := hmain (by omega)
        have hwv : w = v := by
          by_contra hne
          exact hpair (hv.hasPair (mem_of_getElem? hw) hw0 hne)
        rw [if_neg hneg, getD_eq_getElem?_getD, hw, Option.getD_some, hwv]
        exact .inr rfl
  refine ⟨fun h0 => ⟨fun u hu => ?_, fun h => absurd hv (h v)⟩, fun _ h => absurd hv (h v), ?_⟩
  · rw [hu.unique hv]
    exact hr.resolve_left fun h => absurd h.1 (by omega)
  · intro victims hvictims
    rcases hr with ⟨-, hr⟩ | hr
    · simp [hr] at hvictims
    · obtain rfl := Option.some.inj (hr.symm.trans hvictims)
      exact .inr hv.length_victimNodes_lt

theorem decidesByMajority_iff_byMain (hnone : ∀ v, ¬ Majority ntuples v) :
    DecidesByMajority ntuples mainNode r ↔ r = byMain ntuples mainNode := by
  unfold DecidesByMajority byMain
  by_cases hneg : mainNode < 0
  · rw [if_pos hneg]
    refine ⟨fun h => h.2.1 hneg hnone, fun h => ⟨fun h0 => absurd h0 (by omega), fun _ _ => h, ?_⟩⟩
    simp [h]
  · rw [if_neg hneg]
    have h0 : 0 ≤ mainNode := by omega
    exact ⟨fun h => (h.1 h0).2 hnone,
      fun h => ⟨fun _ => ⟨fun v hv => absurd hv (hnone v), fun _ => h⟩,
        fun hlt => absurd hlt hneg, fun _ _ => .inl ⟨h0, hnone⟩⟩⟩

/-- **Majority, or else the main node, unless a majority is spurious.**  For every
array and every main node that is up (or none), `find_victim_nodes` decides as it
should if and only if no spurious majority arises or the main node is in the group
that passes for one. -/
theorem decidesByMajority_iff (ntuples : List Int) (mainNode : Int)
    (hmain : 0 ≤ mainNode → ∃ w, ntuples[mainNode.toNat]? = some w ∧ 0 ≤ w) :
    DecidesByMajority ntuples mainNode (findVictimNodes ntuples mainNode) ↔
      ¬ SpuriousMajority ntuples ∨
        0 ≤ mainNode ∧ firstLargest ntuples = ntuples[mainNode.toNat]? := by
  by_cases hmajority : ∃ v, Majority ntuples v
  · obtain ⟨v, hv⟩ := hmajority
    exact iff_of_true (decidesByMajority_of_majority hmain hv) (.inl fun h => h.1 v hv)
  have hnone : ∀ v, ¬ Majority ntuples v := not_exists.1 hmajority
  rw [decidesByMajority_iff_byMain hnone]
  by_cases hspurious : HasPair ntuples ∧ healthy ntuples < 2 * ntuples.countP (Largest ntuples ·)
  · obtain ⟨v, hfirst, hr⟩ := (findVictimNodes_eq).1 hspurious
    rw [hr, hfirst, byMain]
    simp only [not_true_eq_false, false_or, show SpuriousMajority ntuples from ⟨hnone, hspurious⟩]
    by_cases hneg : mainNode < 0
    · simp [hneg]
    · obtain ⟨w, hw, hw0⟩ := hmain (by omega)
      rw [if_neg hneg, getD_eq_getElem?_getD, hw, Option.getD_some]
      constructor
      · intro h
        exact ⟨by omega, congrArg some (victimNodes_injective hw hw0 (Option.some.inj h))⟩
      · rintro ⟨-, h⟩
        rw [Option.some.inj h]
  · rw [(findVictimNodes_eq).2 hspurious]
    exact iff_of_true rfl (.inl fun h => hspurious h.2)

/-- Two of three nodes agree. -/
theorem decidesByMajority_three_nodes :
    DecidesByMajority [5, 7, 7] 0 (findVictimNodes [5, 7, 7] 0) :=
  (decidesByMajority_iff [5, 7, 7] 0 fun _ => ⟨5, rfl, by decide⟩).2
    (.inl fun h => h.1 7 ⟨by decide, by decide⟩)

/-- Two groups of two: the main node and its group are degenerated. -/
theorem main_node_degenerated : (∀ v, ¬ Majority [1, 1, 2, 2] v) ∧
      findVictimNodes [1, 1, 2, 2] 2 = some [2, 3] ∧
      victimNodes [1, 1, 2, 2] 2 = [0, 1] ∧ findVictimNodes [1, 1, 2, 2] (-1) = some [2, 3] := by
  refine ⟨?_, by decide, by decide, by decide⟩
  intro v hv
  have hcount : List.count v [1, 1, 2, 2] ≤ 2 := by
    simp only [count_cons, count_nil, beq_iff_eq]
    split <;> split <;> omega
  have := hv.2
  have : healthy [1, 1, 2, 2] = 4 := by decide
  omega

end PgBalancer.Replication
