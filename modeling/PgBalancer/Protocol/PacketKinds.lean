import Mathlib

/-!
# The kind of the next packet

`read_kind_from_backend` reads the kind of the next packet from every backend a query was sent to,
and if they differ decides by majority and reports the other nodes for degeneration.

The votes are those of the nodes that were read, but they are compared with half of all configured
nodes.

* `majority_rule_iff` — **the majority rule holds if and only if the kind it asks for has more than
  half of the configured nodes or is the main node's**, and no node which answered otherwise is
  passed over because of `where_to_send`.
* `minority_decides` — two `C` out of three answers lose against the main node's `E` as soon as a
  fourth node is configured.
-/

namespace PgBalancer.Protocol

/-! ## Reading the kinds -/

/-- What `read_kind_from_backend` consults apart from the packets. -/
structure KindEnv (n : Nat) where
  rawMode : Bool
  slMode : Bool
  mainReplica : Bool
  realMain : Fin n
  /-- `MAIN_NODE_ID` -/
  main : Fin n
  loadBalance : Fin n
  /-- `CON_UP` or `CON_CONNECT_WAIT` -/
  up : Fin n → Bool
  inProgress : Bool
  /-- `where_to_send` of the session's query context, if it has one. -/
  current : Option (Fin n → Bool)
  /-- `where_to_send` of the query context that the function took when it was entered, and whether
  its statement is a commit. -/
  entered : Option ((Fin n → Bool) × Bool)

/-- The kind of the first packet that is neither a notice nor a ParameterStatus; these two are
forwarded to the frontend. None if the packets end or the kind is 0, which is fatal. -/
def nextKind : List UInt8 → Option UInt8
  | [] => none
  | kind :: rest =>
    if kind = 0 then none
    else if kind = 'N'.toUInt8 ∨ kind = 'S'.toUInt8 then nextKind rest
    else some kind

/-- `kind_map`, `max_kind` and `max_count`. -/
structure KindVotes where
  kindMap : UInt8 → Nat := fun _ => 0
  maxKind : UInt8 := 0
  maxCount : Nat := 0

/-- The vote of one node. -/
def KindVotes.add (v : KindVotes) (kind : UInt8) : KindVotes :=
  let count := v.kindMap kind + 1
  let kindMap := Function.update v.kindMap kind count
  if v.maxCount < count then ⟨kindMap, kind, count⟩ else ⟨kindMap, v.maxKind, v.maxCount⟩

/-- What `read_kind_from_backend` ends with; a decision comes with the nodes to degenerate. -/
inductive KindOutcome (n : Nat) where
  | invalidMain
  | fatal
  /-- The packets of one node are skipped until its ReadyForQuery. -/
  | resync
  /-- The commit failed on the primary only. -/
  | commitError
  /-- The query context is `NULL`: the process crashes, or an error is raised. -/
  | noContext
  | decided (kind : UInt8) (degenerate : List (Fin n))

namespace KindEnv

variable {n : Nat} (env : KindEnv n) (packets : Fin n → List UInt8)

/-- `pool_is_node_to_be_sent_in_current_query` -/
def isNodeToBeSentInCurrentQuery (i : Fin n) : Bool :=
  if env.rawMode then i == env.realMain
  else match env.inProgress, env.current with
    | true, some whereToSend => whereToSend i
    | _, _ => true

/-- `VALID_BACKEND` -/
def validBackend (i : Fin n) : Bool :=
  env.rawMode && i == env.realMain || env.isNodeToBeSentInCurrentQuery i && env.up i

/-- The kind that a node sent, if it is read. -/
def sentKind (i : Fin n) : Option UInt8 :=
  if env.validBackend i then nextKind (packets i) else none

/-- `kind_list`: 0 for a node that is not read. -/
def kindList (i : Fin n) : UInt8 := (env.sentKind packets i).getD 0

/-- The kinds that are read, in the order of the nodes. -/
def kinds : List UInt8 := (List.finRange n).filterMap (env.sentKind packets)

/-- Every other node that was read has sent CommandComplete. -/
def isAllStandbysCommandComplete : Bool :=
  (List.finRange n).all fun i =>
    i == env.main || env.kindList packets i == 0 || env.kindList packets i == 'C'.toUInt8

/-- The first special case: one of the two nodes is ready for the next query. -/
def resyncs : Bool :=
  env.loadBalance != env.main && (env.kindList packets env.main == 'Z'.toUInt8 ||
    env.kindList packets env.loadBalance == 'Z'.toUInt8) && env.slMode

/-- The second special case. -/
def commitFails : Bool :=
  env.mainReplica && env.entered.any (·.2) && env.kindList packets env.main == 'E'.toUInt8 &&
    env.isAllStandbysCommandComplete packets

/-- The nodes that the degenerating loop passes over. -/
def skipped (i : Fin n) : Bool := env.inProgress && !env.entered.any (·.1 i)

/-- The query context is looked at where there is none. -/
def lacksContext : Bool := env.entered.isNone && (env.mainReplica || env.inProgress)

/-- The decision, once the votes are counted. -/
def decideKind (v : KindVotes) : KindOutcome n :=
  if v.maxCount ≠ (env.kinds packets).length then
    if env.resyncs packets then .resync
    else if env.commitFails packets then .commitError
    else if env.lacksContext then .noContext
    else
      let trust := if 2 * v.maxCount ≤ n then env.kindList packets env.main else v.maxKind
      .decided trust ((List.finRange n).filter fun i =>
        !env.skipped i && env.kindList packets i != 0 && trust != env.kindList packets i)
  else match (env.kinds packets).head? with
    | none => .fatal
    | some kind => .decided kind []

/-- `read_kind_from_backend`. A notification for the main node is not waited for on the others. -/
def readKindFromBackend : KindOutcome n :=
  if env.mainReplica && !env.validBackend env.main then .invalidMain
  else if env.mainReplica && (packets env.main).head? == some 'A'.toUInt8 then
    .decided 'A'.toUInt8 []
  else if (List.finRange n).any fun i => env.validBackend i && nextKind (packets i) == none then
    .fatal
  else env.decideKind packets ((env.kinds packets).foldl KindVotes.add {})

/-! ## The majority rule -/

/-- The kind the rule asks for: that of more than half of the nodes that were read, and the main
node's if there is none. -/
def Rule (k : UInt8) : Prop :=
  (∀ j, (env.kinds packets).length < 2 * (env.kinds packets).count j → k = j) ∧
    ((∀ j, 2 * (env.kinds packets).count j ≤ (env.kinds packets).length) →
      k = env.kindList packets env.main)

/-- The rule is kept, and what is reported are the nodes with another kind, but not all nodes. -/
def FollowsMajority : KindOutcome n → Prop
  | .decided k degenerate => env.Rule packets k ∧
      (∀ i, i ∈ degenerate ↔ env.validBackend i ∧ env.kindList packets i ≠ k) ∧
      ∃ i, env.validBackend i ∧ i ∉ degenerate
  | _ => False

/-- All nodes that were read have sent one kind. -/
def Agreed : Prop := ∃ k, ∀ i, env.validBackend i → env.kindList packets i = k

/-- One of the two special cases is taken. -/
def Special : Prop := ¬ env.Agreed packets ∧ (env.resyncs packets ∨ env.commitFails packets)

/-- The kind that the rule asks for also has more than half of the configured nodes, or it is the
main node's; there is a query context, and the nodes with another kind are not passed over. -/
def Enforced (k : UInt8) : Prop :=
  env.Rule packets k ∧ ¬ env.lacksContext ∧
    (n < 2 * (env.kinds packets).count k ∨
      env.validBackend env.main ∧ env.kindList packets env.main = k) ∧
    ∀ i, env.validBackend i → env.kindList packets i ≠ k → ¬ env.skipped i

end KindEnv

/-! ## The votes -/

/-- The count of every kind, and one of the largest counts. -/
structure KindVotes.Counts (kinds : List UInt8) (v : KindVotes) : Prop where
  map : ∀ k, v.kindMap k = kinds.count k
  max : v.maxCount = v.kindMap v.maxKind
  le_max : ∀ k, v.kindMap k ≤ v.maxCount

/-- A vote keeps the counts. -/
theorem KindVotes.Counts.add {kinds : List UInt8} {v : KindVotes} (h : v.Counts kinds)
    (kind : UInt8) : (v.add kind).Counts (kinds ++ [kind]) := by
  have hmap : ∀ k, Function.update v.kindMap kind (v.kindMap kind + 1) k =
      (kinds ++ [kind]).count k := by
    intro k
    by_cases hk : k = kind
    · simp [hk, h.map]
    · simp [hk, h.map, Ne.symm hk]
  have hother : ∀ k, k ≠ kind → Function.update v.kindMap kind (v.kindMap kind + 1) k =
      v.kindMap k := fun k hk => Function.update_of_ne hk _ _
  rw [KindVotes.add]
  split_ifs with hc
  · refine ⟨hmap, by simp, fun k => ?_⟩
    by_cases hk : k = kind
    · simp [hk]
    · have := h.le_max k
      simp only [hother k hk]
      omega
  · have hne : v.maxKind ≠ kind := by
      rintro rfl
      exact hc (Nat.lt_succ_of_le h.max.le)
    refine ⟨hmap, h.max.trans (hother _ hne).symm, fun k => ?_⟩
    by_cases hk : k = kind
    · simp only [hk, Function.update_self]
      omega
    · simpa only [hother k hk] using h.le_max k

/-- The votes after all nodes, by induction on the nodes from the end. -/
theorem counts_foldl (kinds : List UInt8) : (kinds.foldl KindVotes.add {}).Counts kinds := by
  induction kinds using List.reverseRecOn with
  | nil => exact ⟨fun _ => rfl, rfl, fun _ => le_rfl⟩
  | append_singleton kinds kind ih =>
    rw [List.foldl_append]
    exact ih.add kind

namespace KindEnv

variable {n : Nat} {env : KindEnv n} {packets : Fin n → List UInt8} {i : Fin n} {k : UInt8}

theorem nextKind_ne_zero : ∀ {packets : List UInt8}, nextKind packets = some k → k ≠ 0
  | kind :: rest, h => by
    rw [nextKind] at h
    split_ifs at h with h0 hskip
    · exact nextKind_ne_zero h
    · cases h
      exact h0

theorem valid_of_kindList (h : env.kindList packets i ≠ 0) : env.validBackend i := by
  by_contra hi
  exact h (by rw [kindList, sentKind, if_neg hi]; rfl)

section Read

variable (hread : ∀ i, env.validBackend i → (nextKind (packets i)).isSome)

include hread

theorem sentKind_of_valid (hi : env.validBackend i) :
    env.sentKind packets i = some (env.kindList packets i) ∧ env.kindList packets i ≠ 0 := by
  obtain ⟨k, hk⟩ := Option.isSome_iff_exists.1 (hread i hi)
  have hsent : env.sentKind packets i = some k := by rw [sentKind, if_pos hi, hk]
  rw [kindList, hsent]
  exact ⟨rfl, nextKind_ne_zero hk⟩

theorem mem_kinds :
    k ∈ env.kinds packets ↔ ∃ i, env.validBackend i ∧ env.kindList packets i = k := by
  simp only [kinds, List.mem_filterMap, List.mem_finRange, true_and]
  refine exists_congr fun i => ⟨fun h => ?_, fun h => h.2 ▸ (sentKind_of_valid hread h.1).1⟩
  have hk : env.kindList packets i = k := by rw [kindList, h]; rfl
  refine ⟨?_, hk⟩
  by_contra hv
  rw [sentKind, if_neg hv] at h
  cases h

/-- The test of `max_count` finds out whether all nodes agree. -/
theorem agreed_iff_count {v : KindVotes} (hv : v.Counts (env.kinds packets)) :
    env.Agreed packets ↔ v.maxCount = (env.kinds packets).length := by
  constructor
  · rintro ⟨k, hk⟩
    have hcount : (env.kinds packets).count k = (env.kinds packets).length := by
      refine List.count_eq_length.2 fun j hj => ?_
      obtain ⟨i, hi, rfl⟩ := (mem_kinds hread).1 hj
      exact (hk i hi).symm
    refine le_antisymm ?_ (hcount ▸ hv.map k ▸ hv.le_max k)
    rw [hv.max, hv.map]
    exact List.count_le_length
  · intro h
    rw [hv.max, hv.map, List.count_eq_length] at h
    exact ⟨v.maxKind, fun i hi => (h _ ((mem_kinds hread).2 ⟨i, hi, rfl⟩)).symm⟩

theorem followsMajority_of_agreed (hex : ∃ i, env.validBackend i)
    (hagreed : ∀ i, env.validBackend i → env.kindList packets i = k) :
    env.FollowsMajority packets (.decided k []) := by
  obtain ⟨i, hi⟩ := hex
  have hall : ∀ j ∈ env.kinds packets, k = j := by
    intro j hj
    obtain ⟨i, hi, rfl⟩ := (mem_kinds hread).1 hj
    exact (hagreed i hi).symm
  have hcount := List.count_eq_length.2 hall
  have hpos := List.length_pos_of_mem ((mem_kinds hread).2 ⟨i, hi, rfl⟩)
  refine ⟨⟨fun j hj => ?_, fun hnone => ?_⟩, fun j => ?_, i, hi, List.not_mem_nil⟩
  · exact hall j (List.count_pos_iff.1 (by omega))
  · have := hnone k
    omega
  · simpa only [List.not_mem_nil, false_iff, not_and, not_not] using hagreed j

/-- What is decided where the nodes do not agree. -/
theorem followsMajority_iff_enforced {v : KindVotes} (hv : v.Counts (env.kinds packets))
    (hnot : ¬ env.Agreed packets) (hspecial : ¬ env.Special packets) :
    env.FollowsMajority packets (env.decideKind packets v) ↔ ∃ k, env.Enforced packets k := by
  obtain ⟨hresync, hcommit⟩ := not_or.1 fun h => hspecial ⟨hnot, h⟩
  have hmax : v.maxCount = (env.kinds packets).count v.maxKind := by rw [hv.max, hv.map]
  have hlen : (env.kinds packets).length ≤ n := by
    simpa [kinds] using List.length_filterMap_le (env.sentKind packets) (List.finRange n)
  have hvalid : ∀ i, env.kindList packets i ≠ 0 ↔ env.validBackend i :=
    fun i => ⟨valid_of_kindList, fun hi => (sentKind_of_valid hread hi).2⟩
  rw [decideKind, if_pos (mt (agreed_iff_count hread hv).2 hnot), if_neg hresync, if_neg hcommit]
  by_cases hlacks : env.lacksContext
  · rw [if_pos hlacks]
    refine iff_of_false id ?_
    rintro ⟨-, -, h, -⟩
    exact h hlacks
  rw [if_neg hlacks]
  generalize htrust :
    (if 2 * v.maxCount ≤ n then env.kindList packets env.main else v.maxKind) = trust
  simp only [FollowsMajority, List.mem_filter, List.mem_finRange, true_and, Bool.and_eq_true,
    Bool.not_eq_true', bne_iff_ne, hvalid, and_assoc]
  constructor
  · rintro ⟨hrule, hexact, i, hi, hkept⟩
    have hkind : env.kindList packets i = trust := by
      by_contra hne
      exact hkept ((hexact i).2 ⟨hi, hne⟩)
    refine ⟨trust, hrule, hlacks, ?_,
      fun j hj hne => Bool.not_eq_true _ ▸ ((hexact j).2 ⟨hj, hne⟩).1⟩
    split_ifs at htrust with hhalf
    · exact .inr ⟨(hvalid _).1 (htrust ▸ hkind ▸ (hvalid i).2 hi), htrust⟩
    · left
      rw [← htrust, ← hmax]
      omega
  · rintro ⟨k, hrule, -, hwins, hnoskip⟩
    obtain rfl : trust = k := by
      rw [← htrust]
      split_ifs with hhalf
      · rcases hwins with hwins | ⟨-, hmain⟩
        · have := hv.map k ▸ hv.le_max k
          omega
        · exact hmain
      · exact (hrule.1 _ (by omega)).symm
    refine ⟨hrule, fun i => ⟨fun h => ⟨h.2.1, h.2.2.symm⟩, fun h => ?_⟩, ?_⟩
    · exact ⟨Bool.not_eq_true _ ▸ hnoskip i h.1 h.2, h.1, h.2.symm⟩
    · obtain ⟨i, hi, hk⟩ : ∃ i, env.validBackend i ∧ env.kindList packets i = trust := by
        rcases hwins with hwins | hmain
        · exact (mem_kinds hread).1 (List.count_pos_iff.1 (by omega))
        · exact ⟨_, hmain⟩
      exact ⟨i, hi, fun h => h.2.2 hk.symm⟩

end Read

/-- **The decision follows the majority rule if and only if all nodes agree or the rule's kind is
enforced**, outside of the special cases; in the main/replica modes the main node must be valid,
and a notification must come from all nodes. -/
theorem majority_rule_iff (env : KindEnv n) (packets : Fin n → List UInt8)
    (hread : ∀ i, env.validBackend i → (nextKind (packets i)).isSome)
    (hex : ∃ i, env.validBackend i) (hspecial : ¬ env.Special packets) :
    env.FollowsMajority packets (env.readKindFromBackend packets) ↔
      (env.mainReplica → env.validBackend env.main ∧
        ((packets env.main).head? = some 'A'.toUInt8 →
          ∀ i, env.validBackend i → env.kindList packets i = 'A'.toUInt8)) ∧
      (env.Agreed packets ∨ ∃ k, env.Enforced packets k) := by
  have hnone : ¬ (List.finRange n).any fun i =>
      env.validBackend i && nextKind (packets i) == none := by
    simp only [List.any_eq_true, List.mem_finRange, true_and, Bool.and_eq_true, beq_iff_eq,
      not_exists]
    rintro i ⟨hi, hfail⟩
    simpa [hfail] using hread i hi
  rw [readKindFromBackend, if_neg hnone]
  by_cases hmain : env.mainReplica = true ∧ ¬ env.validBackend env.main
  · rw [if_pos (by simpa using hmain)]
    exact iff_of_false id fun h => hmain.2 (h.1 hmain.1).1
  rw [if_neg (by simpa using hmain)]
  by_cases hnotified : env.mainReplica = true ∧ (packets env.main).head? = some 'A'.toUInt8
  · rw [if_pos (by simpa using hnotified)]
    refine ⟨fun h => ?_, fun h =>
      followsMajority_of_agreed hread hex ((h.1 hnotified.1).2 hnotified.2)⟩
    have hall : ∀ i, env.validBackend i → env.kindList packets i = 'A'.toUInt8 := by
      intro i hi
      by_contra hne
      exact List.not_mem_nil ((h.2.1 i).2 ⟨hi, hne⟩)
    exact ⟨fun hm => ⟨by_contra fun hv => hmain ⟨hm, hv⟩, fun _ => hall⟩, .inl ⟨_, hall⟩⟩
  rw [if_neg (by simpa using hnotified), and_iff_right fun hm =>
    ⟨by_contra fun hv => hmain ⟨hm, hv⟩, fun hA => absurd ⟨hm, hA⟩ hnotified⟩]
  have hv := counts_foldl (env.kinds packets)
  by_cases hagreed : env.Agreed packets
  · refine iff_of_true ?_ (.inl hagreed)
    have hcount := (agreed_iff_count hread hv).1 hagreed
    obtain ⟨k, hk⟩ := hagreed
    obtain ⟨i, hi⟩ := hex
    obtain ⟨k', rest, hkinds⟩ := List.exists_cons_of_ne_nil
      (List.ne_nil_of_mem ((mem_kinds hread).2 ⟨i, hi, rfl⟩))
    have hmem : k' ∈ env.kinds packets := hkinds ▸ List.mem_cons_self
    obtain ⟨j, hj, rfl⟩ := (mem_kinds hread).1 hmem
    rw [decideKind, if_neg (not_not.2 hcount), hkinds]
    exact followsMajority_of_agreed hread ⟨i, hi⟩ (hk j hj ▸ hk)
  · rw [or_iff_right hagreed]
    exact followsMajority_iff_enforced hread hv hagreed hspecial

/-- Four nodes in native replication mode, of which the last one is down. -/
def fourNodes : KindEnv 4 where
  rawMode := false
  slMode := false
  mainReplica := false
  realMain := 0
  main := 0
  loadBalance := 0
  up := fun i => i.val < 3
  inProgress := true
  current := some fun _ => true
  entered := some (fun _ => true, false)

/-- Two of the three nodes that were read succeed, and both are reported for degeneration. -/
theorem minority_decides :
    let packets : Fin 4 → List UInt8 := ![['E'.toUInt8], ['C'.toUInt8], ['C'.toUInt8], []]
    ¬ fourNodes.Special packets ∧
      fourNodes.readKindFromBackend packets = .decided 'E'.toUInt8 [1, 2] ∧
      ¬ fourNodes.FollowsMajority packets (fourNodes.readKindFromBackend packets) := by
  intro packets
  have hrun : fourNodes.readKindFromBackend packets = .decided 'E'.toUInt8 [1, 2] := by rfl
  refine ⟨fun h => ?_, hrun, fun h => ?_⟩
  · rcases h.2 with h | h <;> exact absurd h (by decide)
  · rw [hrun] at h
    exact absurd (h.1.1 'C'.toUInt8 (by decide)) (by decide)

/-- Three nodes that send one kind. -/
theorem majority_rule_three_nodes :
    fourNodes.FollowsMajority (fun _ => ['C'.toUInt8])
      (fourNodes.readKindFromBackend fun _ => ['C'.toUInt8]) := by
  have hagreed : fourNodes.Agreed fun _ => ['C'.toUInt8] := ⟨'C'.toUInt8, by decide⟩
  exact (majority_rule_iff fourNodes (fun _ => ['C'.toUInt8]) (by decide) ⟨0, by decide⟩
    fun h => h.1 hagreed).2 ⟨nofun, .inl hagreed⟩

end KindEnv

end PgBalancer.Protocol
