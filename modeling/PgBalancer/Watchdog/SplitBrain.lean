import PgBalancer.Watchdog.Membership

/-!
# Split brain: which of several leaders stays

Two watchdogs that both are in state COORDINATOR and hear of each other compare
themselves: the escalated one stays, else the one with the better quorum, else the
one with more standbys, else the older one.  Each of them evaluates
`I_am_leader_and_cluster_in_split_brain` on its own record and on what it knows of
the other, and steps down, asks the other to step down, or starts over.

* `resolves_iff` — **a family of leaders resolves to exactly one, pairwise and as a
  whole, if and only if their ranks are distinct.**
* `top_leader_stays` — **the one that is above all others by more than its age stays**,
  however long the beacons take.
-/

namespace PgBalancer.Watchdog

/-- What one watchdog announces to the others, and what they know of it. -/
structure Leader where
  state : WdState
  escalated : Bool
  quorumStatus : Int
  standbyNodesCount : Int
  /-- `current_state_time.tv_sec`; `0` if the node did not tell -/
  currentStateTime : Int
  deriving DecidableEq

/-- `I_am_leader_and_cluster_in_split_brain` on the watchdog `me` about `other`. -/
def iAmLeaderAndClusterInSplitBrain (me other : Leader) : Int :=
  if me.state ≠ .coordinator then 0
  else if other.state ≠ .coordinator then 0
  else if other.currentStateTime = 0 then 0
  else if other.escalated ≠ me.escalated then
    if other.escalated = true ∧ me.escalated = false then -1 else 1
  else if other.quorumStatus ≠ me.quorumStatus then
    if other.quorumStatus > me.quorumStatus then -1 else 1
  else if other.standbyNodesCount ≠ me.standbyNodesCount then
    if other.standbyNodesCount > me.standbyNodesCount then -1 else 1
  else if other.currentStateTime < me.currentStateTime then -1
  else 1

/-- The cluster service messages a split brain gives rise to. -/
inductive ServiceMessage where
  | iamTrueLeader
  | iamNotTrueLeader
  | iamResigningFromLeader
  | needsElection
  deriving DecidableEq

/-- `handle_split_brain`: the new local state and the message that is sent. -/
def handleSplitBrain (me other : Leader) : WdState × ServiceMessage :=
  let decideLeader := iAmLeaderAndClusterInSplitBrain me other
  if decideLeader = 0 then (.joining, .needsElection)
  else if decideLeader = -1 then (.joining, .iamNotTrueLeader)
  else (me.state, .iamTrueLeader)

/-- `cluster_service_message_processor` on a watchdog in state `s` that takes no
other watchdog for its leader. -/
def onServiceMessage (s : WdState) : ServiceMessage → WdState
  | .iamTrueLeader => if s = .coordinator then .joining else s
  | .iamNotTrueLeader => s
  | .iamResigningFromLeader => s
  | .needsElection => .joining

/-- The watchdogs the comparison is for: coordinators that have told since when. -/
def Leader.Announced (l : Leader) : Prop := l.state = .coordinator ∧ l.currentStateTime ≠ 0

/-- The key the comparison is by: larger is better, and older is better. -/
def Leader.rank (l : Leader) : Bool ×ₗ Int ×ₗ Int ×ₗ Int :=
  toLex (l.escalated, toLex (l.quorumStatus, toLex (l.standbyNodesCount, -l.currentStateTime)))

/-! ## The decision is a comparison of ranks -/

variable {a b : Leader}

theorem rank_lt_iff : a.rank < b.rank ↔ a.escalated < b.escalated ∨ a.escalated = b.escalated ∧
        (a.quorumStatus < b.quorumStatus ∨ a.quorumStatus = b.quorumStatus ∧
          (a.standbyNodesCount < b.standbyNodesCount ∨ a.standbyNodesCount = b.standbyNodesCount ∧
              b.currentStateTime < a.currentStateTime)) := by
  simp [Leader.rank, Prod.Lex.toLex_lt_toLex]

theorem decision_eq (ha : a.Announced) (hb : b.Announced) :
    iAmLeaderAndClusterInSplitBrain a b = if a.rank < b.rank then -1 else 1 := by
  simp only [iAmLeaderAndClusterInSplitBrain, ha.1, hb.1, hb.2, ne_eq, not_true_eq_false, if_false]
  rw [if_congr rank_lt_iff rfl rfl]
  by_cases he : b.escalated = a.escalated
  · simp only [he, not_true_eq_false, if_false, lt_irrefl, false_or, true_and]
    by_cases hq : b.quorumStatus = a.quorumStatus
    · simp only [hq, not_true_eq_false, if_false, lt_irrefl, false_or, true_and]
      by_cases hs : b.standbyNodesCount = a.standbyNodesCount
      · simp [hs]
      · simp only [hs, not_false_eq_true, if_true, Ne.symm hs, false_and, or_false, gt_iff_lt]
    · simp only [hq, not_false_eq_true, if_true, Ne.symm hq, false_and, or_false, gt_iff_lt]
  · simp only [he, not_false_eq_true, if_true, Ne.symm he, false_and, or_false]
    refine if_congr ?_ rfl rfl
    cases a.escalated <;> cases b.escalated <;> simp

theorem decision_eq_neg_one_iff (ha : a.Announced) (hb : b.Announced) :
    iAmLeaderAndClusterInSplitBrain a b = -1 ↔ a.rank < b.rank := by
  rw [decision_eq ha hb]
  split <;> simp_all

theorem decision_eq_one_iff (ha : a.Announced) (hb : b.Announced) :
    iAmLeaderAndClusterInSplitBrain a b = 1 ↔ b.rank ≤ a.rank := by
  rw [decision_eq ha hb]
  split
  case isTrue h => simpa using h
  case isFalse h => simpa using h

theorem handleSplitBrain_coordinator_iff (ha : a.Announced) (hb : b.Announced) :
    (handleSplitBrain a b).1 = .coordinator ↔ b.rank ≤ a.rank := by
  simp only [handleSplitBrain, decision_eq ha hb]
  split
  case isTrue h => simpa using h
  case isFalse h => simpa [ha.1] using h

/-! ## Families of leaders -/

section Family

variable {ι : Type} {L : ι → Leader} {i j : ι}

/-- Leader `i` stays with regard to leader `j`. -/
def Keeps (L : ι → Leader) (i j : ι) : Prop :=
  i ≠ j ∧ iAmLeaderAndClusterInSplitBrain (L i) (L j) = 1

/-- The split brain between the leaders resolves: of any two exactly one stays in
state COORDINATOR, the decisions contain no cycle, and exactly one leader beats all
the others. -/
structure Resolves (L : ι → Leader) : Prop where
  not_both_stay : ∀ i j, i ≠ j → ¬ (iAmLeaderAndClusterInSplitBrain (L i) (L j) = 1 ∧
    iAmLeaderAndClusterInSplitBrain (L j) (L i) = 1)
  not_both_leave : ∀ i j, i ≠ j → ¬ (iAmLeaderAndClusterInSplitBrain (L i) (L j) = -1 ∧
    iAmLeaderAndClusterInSplitBrain (L j) (L i) = -1)
  one_coordinator : ∀ i j, i ≠ j → ((handleSplitBrain (L i) (L j)).1 = .coordinator ↔
    (handleSplitBrain (L j) (L i)).1 ≠ .coordinator)
  no_cycle : ∀ i, ¬ Relation.TransGen (Keeps L) i i
  winner : ∃! i, ∀ j, j ≠ i → iAmLeaderAndClusterInSplitBrain (L i) (L j) = 1 ∧
    iAmLeaderAndClusterInSplitBrain (L j) (L i) = -1

theorem Keeps.rank_lt (hL : ∀ i, (L i).Announced) (hinj : Function.Injective fun i => (L i).rank)
    (h : Keeps L i j) : (L j).rank < (L i).rank :=
  lt_of_le_of_ne ((decision_eq_one_iff (hL i) (hL j)).1 h.2) fun heq => h.1 (hinj heq).symm

theorem rank_lt_of_transGen (hL : ∀ i, (L i).Announced)
    (hinj : Function.Injective fun i => (L i).rank) (h : Relation.TransGen (Keeps L) i j) :
    (L j).rank < (L i).rank := by
  induction h with
  | single h => exact h.rank_lt hL hinj
  | tail _ h ih => exact (h.rank_lt hL hinj).trans ih

/-- **Exactly one leader is left, unless two are tied.**  For every finite family of
leaders that have announced themselves to each other, the split brain resolves, in
every pair and as a whole, if and only if no two of them have the same escalation,
quorum status, standby count and state-entry second. -/
theorem resolves_iff [Finite ι] [Nonempty ι] (L : ι → Leader) (hL : ∀ i, (L i).Announced) :
    Resolves L ↔ Function.Injective fun i => (L i).rank := by
  constructor
  · intro h i j heq
    by_contra hne
    have heq : (L i).rank = (L j).rank := heq
    refine h.not_both_stay i j hne ⟨?_, ?_⟩
    · exact (decision_eq_one_iff (hL i) (hL j)).2 heq.ge
    · exact (decision_eq_one_iff (hL j) (hL i)).2 heq.le
  · intro hinj
    have hne : ∀ i j, i ≠ j → (L i).rank ≠ (L j).rank := fun i j hij heq => hij (hinj heq)
    refine ⟨?_, ?_, ?_, fun i hcycle => ?_, ?_⟩
    · rintro i j hij ⟨hi, hj⟩
      rw [decision_eq_one_iff (hL i) (hL j)] at hi
      rw [decision_eq_one_iff (hL j) (hL i)] at hj
      exact hne i j hij (le_antisymm hj hi)
    · rintro i j - ⟨hi, hj⟩
      rw [decision_eq_neg_one_iff (hL i) (hL j)] at hi
      rw [decision_eq_neg_one_iff (hL j) (hL i)] at hj
      exact lt_asymm hi hj
    · intro i j hij
      rw [handleSplitBrain_coordinator_iff (hL i) (hL j), ne_eq,
        handleSplitBrain_coordinator_iff (hL j) (hL i), not_le]
      exact ⟨fun h => lt_of_le_of_ne h (hne j i (Ne.symm hij)), le_of_lt⟩
    · exact lt_irrefl _ (rank_lt_of_transGen hL hinj hcycle)
    · obtain ⟨top, htop⟩ := Finite.exists_max fun i => (L i).rank
      refine ⟨top, fun j hj => ⟨?_, ?_⟩, fun i hi => ?_⟩
      · exact (decision_eq_one_iff (hL top) (hL j)).2 (htop j)
      · exact (decision_eq_neg_one_iff (hL j) (hL top)).2 (lt_of_le_of_ne (htop j) (hne j top hj))
      · by_contra hit
        have htop_lt := (decision_eq_neg_one_iff (hL top) (hL i)).1 (hi top (Ne.symm hit)).2
        exact absurd (htop i) (not_le.2 htop_lt)

end Family

/-- Three leaders: one escalated, one older and one younger. -/
def threeLeaders : Fin 3 → Leader
  | 0 => ⟨.coordinator, true, -1, 0, 1700000300⟩
  | 1 => ⟨.coordinator, false, 1, 2, 1700000100⟩
  | 2 => ⟨.coordinator, false, 1, 2, 1700000200⟩

/-- The escalated one is left. -/
theorem resolves_threeLeaders : Resolves threeLeaders :=
  (resolves_iff threeLeaders (by unfold Leader.Announced; decide)).2 (by decide)

/-- Two leaders of the same rank, which both stay; each asks the other to step down,
and then nobody is left. -/
theorem tied_leaders_both_stay : ∃ a b : Leader, a.Announced ∧ b.Announced ∧
      iAmLeaderAndClusterInSplitBrain a b = 1 ∧ iAmLeaderAndClusterInSplitBrain b a = 1 ∧
      handleSplitBrain a b = (.coordinator, .iamTrueLeader) ∧
      handleSplitBrain b a = (.coordinator, .iamTrueLeader) ∧
      onServiceMessage .coordinator .iamTrueLeader = .joining :=
  ⟨⟨.coordinator, false, 1, 1, 1700000100⟩, ⟨.coordinator, false, 1, 1, 1700000100⟩,
    ⟨rfl, by decide⟩, ⟨rfl, by decide⟩, by decide, by decide, by decide, by decide, by decide⟩

/-! ## The exchange of messages -/

section Exchange

variable {ι : Type} [DecidableEq ι] {L : ι → Leader}

/-- The states of the leaders and the messages on the way; a message without an
addressee goes to everyone. -/
structure Exchange (ι : Type) where
  state : ι → WdState
  sent : List (Option ι × ServiceMessage)

/-- What can happen next. -/
inductive ExchangeEvent (ι : Type) where
  /-- leader `i` hears a beacon of leader `j`; the time it computes for the state of `j`, its own
  time less the seconds that the beacon says, depends on how long the beacon has taken -/
  | beacon (i j : ι) (stateTime : Int)
  /-- a message reaches leader `k`; it may be delayed and even come twice -/
  | deliver (m : ServiceMessage) (k : ι)

/-- The addressee of a message of leader `i` that has heard of leader `j`. -/
def ServiceMessage.addressee (m : ServiceMessage) (j : ι) : Option ι :=
  match m with
  | .iamTrueLeader | .needsElection => some j
  | .iamNotTrueLeader | .iamResigningFromLeader => none

/-- What a beacon makes of the record of its sender. -/
def Leader.heard (l : Leader) (stateTime : Int) : Leader := { l with currentStateTime := stateTime }

/-- One event. -/
def exchangeStep (L : ι → Leader) (x : Exchange ι) : ExchangeEvent ι → Exchange ι
  | .beacon i j stateTime =>
    if i ≠ j ∧ x.state i = .coordinator then
      let (s, m) := handleSplitBrain (L i) ((L j).heard stateTime)
      ⟨Function.update x.state i s, x.sent ++ [(m.addressee j, m)]⟩
    else x
  | .deliver m k =>
    if (some k, m) ∈ x.sent ∨ (none, m) ∈ x.sent then
      ⟨Function.update x.state k (onServiceMessage (x.state k) m),
        if m = .iamTrueLeader ∧ x.state k = .coordinator then
          x.sent ++ [(none, .iamResigningFromLeader)]
        else x.sent⟩
    else x

/-- A list of events. -/
def exchangeRun (L : ι → Leader) (x : Exchange ι) (es : List (ExchangeEvent ι)) : Exchange ι :=
  es.foldl (exchangeStep L) x

theorem Leader.Announced.heard {l : Leader} (h : l.Announced) {stateTime : Int}
    (htime : stateTime ≠ 0) : (l.heard stateTime).Announced := ⟨h.1, htime⟩

/-- The key without the time. -/
def Leader.standing (l : Leader) : Bool ×ₗ Int ×ₗ Int :=
  toLex (l.escalated, toLex (l.quorumStatus, l.standbyNodesCount))

theorem rank_lt_of_standing {a b : Leader} (h : a.standing < b.standing) : a.rank < b.rank := by
  simp only [Leader.standing, Prod.Lex.toLex_lt_toLex] at h
  rw [rank_lt_iff]
  tauto

/-- Leader `top` is still there, and nothing on the way to it asks it to leave. -/
structure Leads (top : ι) (x : Exchange ι) : Prop where
  state : x.state top = .coordinator
  harmless : ∀ m, (some top, m) ∈ x.sent ∨ (none, m) ∈ x.sent →
    m = .iamNotTrueLeader ∨ m = .iamResigningFromLeader

theorem handleSplitBrain_eq {a b : Leader} (ha : a.Announced) (hb : b.Announced) :
    handleSplitBrain a b =
      if a.rank < b.rank then (.joining, .iamNotTrueLeader)
        else (.coordinator, .iamTrueLeader) := by
  simp only [handleSplitBrain, decision_eq ha hb, ha.1]
  split <;> simp

variable {top : ι} {x : Exchange ι}

omit [DecidableEq ι] in
/-- A message that goes to somebody else, or says that its sender leaves, asks nobody to leave. -/
theorem Leads.send (h : Leads top x) {state : ι → WdState} (hstate : state top = .coordinator)
    {dest : Option ι} {m : ServiceMessage} (hm : dest ≠ none ∧ dest ≠ some top ∨
      m = .iamNotTrueLeader ∨ m = .iamResigningFromLeader) :
    Leads top ⟨state, x.sent ++ [(dest, m)]⟩ := by
  refine ⟨hstate, fun m' hm' => ?_⟩
  simp only [List.mem_append, List.mem_singleton, Prod.mk.injEq] at hm'
  rcases hm' with (hold | ⟨rfl, rfl⟩) | hold | ⟨rfl, rfl⟩
  · exact h.harmless m' (.inl hold)
  · exact hm.resolve_left fun hdest => hdest.2 rfl
  · exact h.harmless m' (.inr hold)
  · exact hm.resolve_left fun hdest => hdest.1 rfl

variable (hL : ∀ i, (L i).Announced) (htop : ∀ i, i ≠ top → (L i).standing < (L top).standing)
  {stateTime : Int} (htime : stateTime ≠ 0)
include hL htop htime

/-- A beacon never makes the leader above all others leave, nor anyone ask it to. -/
theorem Leads.beacon (h : Leads top x) (i j : ι) :
    Leads top (exchangeStep L x (.beacon i j stateTime)) := by
  simp only [exchangeStep]
  split
  case isFalse => exact h
  case isTrue hij =>
    rw [handleSplitBrain_eq (hL i) ((hL j).heard htime)]
    split
    case isTrue hlt =>
      have hi : top ≠ i := by
        rintro rfl
        have hj : ((L j).heard stateTime).standing < (L top).standing := htop j (Ne.symm hij.1)
        exact lt_asymm hlt (rank_lt_of_standing hj)
      exact h.send (by simpa [hi] using h.state) (.inr (.inl rfl))
    case isFalse hlt =>
      have hj : j ≠ top := by
        rintro rfl
        have hi : (L i).standing < ((L j).heard stateTime).standing := htop i hij.1
        exact hlt (rank_lt_of_standing hi)
      refine h.send ?_ (.inl ⟨nofun, by simpa [ServiceMessage.addressee] using hj⟩)
      by_cases hi : top = i
      · simp [hi]
      · simpa [hi] using h.state

omit hL htop htime in
theorem Leads.deliver (h : Leads top x) (m : ServiceMessage) (k : ι) :
    Leads top (exchangeStep L x (.deliver m k)) := by
  simp only [exchangeStep]
  split
  case isFalse => exact h
  case isTrue hm =>
    have hstate : Function.update x.state k (onServiceMessage (x.state k) m) top =
        .coordinator := by
      by_cases hk : top = k
      · subst hk
        rcases h.harmless m hm with rfl | rfl <;> simpa [onServiceMessage] using h.state
      · simpa [hk] using h.state
    split
    · exact h.send hstate (.inr (.inr rfl))
    · exact ⟨hstate, h.harmless⟩

omit htime in
/-- **The leader above all others stays**, in whatever order and however late beacons and messages
arrive; and every other leader that hears it steps down. -/
theorem top_leader_stays (es : List (ExchangeEvent ι))
    (htimes : ∀ i j stateTime, .beacon i j stateTime ∈ es → stateTime ≠ 0) :
    (exchangeRun L ⟨fun _ => .coordinator, []⟩ es).state top = .coordinator ∧
      ∀ x : Exchange ι, ∀ i, i ≠ top → x.state i = .coordinator → ∀ stateTime ≠ 0,
        (exchangeStep L x (.beacon i top stateTime)).state i = .joining := by
  refine ⟨?_, fun x i hi hx stateTime htime => ?_⟩
  · have hinv : Leads top (exchangeRun L ⟨fun _ => .coordinator, []⟩ es) := by
      refine List.foldlRecOn es _ ⟨rfl, by simp⟩ fun x h e he => ?_
      cases e with
      | beacon i j stateTime => exact h.beacon hL htop (htimes i j stateTime he) i j
      | deliver m k => exact h.deliver m k
    exact hinv.state
  · have hlt : (L i).rank < ((L top).heard stateTime).rank := rank_lt_of_standing (htop i hi)
    simp only [exchangeStep, handleSplitBrain_eq (hL i) ((hL top).heard htime), hlt, hi, hx, ne_eq,
      not_false_eq_true, and_self, if_true, Function.update_self]

end Exchange

/-- The escalated leader hears an older one, and is heard late by it. -/
theorem threeLeaders_top_stays : (exchangeRun threeLeaders ⟨fun _ => .coordinator, []⟩
      [.beacon 0 1 1700000100, .deliver .iamTrueLeader 1, .beacon 2 0 1700000400,
        .deliver .iamNotTrueLeader 0]).state 0 = .coordinator :=
  (top_leader_stays (by unfold Leader.Announced; decide) (by decide) _ (by simp; omega)).1

end PgBalancer.Watchdog
