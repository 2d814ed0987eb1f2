import Mathlib

/-!
# The lifecheck

The lifecheck process looks at the nodes of the cluster every now and then, by their heartbeats or
by a query to each of them, and informs the watchdog of a node that has died or that is back.  The
local node is the first one: it is taken for dead when none of the trusted servers answers.

A run is a list of rounds; a round is what the process finds in it.

* `lifecheck_mirrors_iff` — **the reports about a node mirror what the rounds find if and only if
  the node is watched by its heartbeat or, after a failure of it, is never seen again**: a node that
  answers a query, and the local node, are never reported alive.
-/

namespace PgBalancer.Watchdog.Lifecheck

/-! ## The rounds -/

/-- `wd_lifecheck_method` -/
inductive Method where
  | heartbeat
  | query
  deriving DecidableEq

/-- `NodeState` -/
inductive NodeState where
  | empty
  | dead
  | alive
  deriving DecidableEq

/-- What is reported to the watchdog. -/
inductive Report where
  | dead
  | alive
  deriving DecidableEq

/-- The settings of the life check. -/
structure Settings where
  nodeCount : ℕ
  /-- there are trusted servers -/
  trusted : Bool
  method : Method
  lifePoint : ℕ
  /-- in seconds -/
  heartbeatDeadtime : ℤ

/-- `LifeCheckNode` -/
structure Node where
  nodeState : NodeState
  retryLives : ℕ
  /-- what `inform_node_status` has sent, the last report first -/
  reports : List Report
  deriving DecidableEq

/-- What a round finds; times are in microseconds, and 0 where they are not set. -/
structure Round (s : Settings) where
  /-- `wd_ping_all_server` -/
  pinged : Bool
  inRecovery : Bool
  parentAlive : Bool
  now : ℕ
  hbLastRecvTime : Fin s.nodeCount → ℕ
  hbSendTime : Fin s.nodeCount → ℕ
  /-- the result of the query to a node; none if joining its thread was interrupted -/
  queried : Fin s.nodeCount → Option Bool

/-- The nodes before the first round. -/
def load (s : Settings) (_ : Fin s.nodeCount) : Node := ⟨.empty, s.lifePoint, []⟩

/-- The node is dead, and reported if it was not so before. -/
def Node.markDead (node : Node) : Node :=
  if node.nodeState ≠ .dead then
    { node with nodeState := .dead, reports := .dead :: node.reports }
  else node

/-- A dead node is alive again. -/
def Node.markAlive (node : Node) : Node :=
  if node.nodeState = .dead then
    { node with nodeState := .alive, reports := .alive :: node.reports }
  else node

section Check

variable {s : Settings} (r : Round s) (i : Fin s.nodeCount)

/-- Both times are set. -/
def Round.heard : Bool := r.hbLastRecvTime i ≠ 0 ∧ r.hbSendTime i ≠ 0

/-- `WD_TIME_DIFF_SEC` is above the limit. -/
def Round.stale : Bool :=
  ((r.now : ℤ) - r.hbLastRecvTime i).tdiv 1000000 > s.heartbeatDeadtime

/-- `wd_check_heartbeat`, and what its caller makes of the result -/
def checkHeartbeat (node : Node) : Node :=
  if !r.heard i then node else if r.stale i then node.markDead else node.markAlive

/-- `check_pgpool_status_by_hb` -/
def checkPgpoolStatusByHb (nodes : Fin s.nodeCount → Node) : Fin s.nodeCount → Node := fun i =>
  if i.val = 0 then if r.parentAlive then nodes i else (nodes i).markDead
  else checkHeartbeat r i (nodes i)

/-- The result of a query -/
def checkQuery (lifePoint : ℕ) (node : Node) : Option Bool → Node
  | none => node
  | some true => { node with retryLives := lifePoint }
  | some false =>
    let node := { node with retryLives := node.retryLives - 1 }
    if node.retryLives ≤ 0 then node.markDead else node

/-- `check_pgpool_status_by_query` -/
def checkPgpoolStatusByQuery (nodes : Fin s.nodeCount → Node) : Fin s.nodeCount → Node := fun i =>
  checkQuery s.lifePoint (nodes i) (r.queried i)

/-- The trusted servers are asked, and none answers. -/
def Round.cutOff : Bool := s.trusted && !r.pinged

/-- `wd_lifecheck`, one round. -/
def wdLifecheck (nodes : Fin s.nodeCount → Node) (r : Round s) : Fin s.nodeCount → Node := fun i =>
  if r.cutOff then if i.val = 0 then (nodes i).markDead else nodes i
  else if r.inRecovery then nodes i
  else match s.method with
    | .heartbeat => checkPgpoolStatusByHb r nodes i
    | .query => checkPgpoolStatusByQuery r nodes i

end Check

/-- The nodes after some rounds. -/
def lifecheckRun {s : Settings} (rounds : List (Round s)) : Fin s.nodeCount → Node :=
  rounds.foldl wdLifecheck (load s)

/-! ## What the rounds find -/

section Findings

variable {s : Settings} (i : Fin s.nodeCount)

/-- The round gets to the nodes. -/
def Round.checks (r : Round s) : Bool := !r.cutOff && !r.inRecovery

/-- The queries to a node that have failed since the last one that did not. -/
def missed (rounds : List (Round s)) : ℕ :=
  rounds.foldl (fun count r =>
    if r.checks && s.method = .query then
      match r.queried i with
      | none => count
      | some true => 0
      | some false => count + 1
    else count) 0

/-- After the rounds `before`, a round finds that the node has failed. -/
def Failed (before : List (Round s)) (r : Round s) : Bool :=
  (i.val = 0 && r.cutOff) || (r.checks && match s.method with
    | .heartbeat => if i.val = 0 then !r.parentAlive else r.heard i && r.stale i
    | .query => r.queried i = some false ∧ s.lifePoint ≤ missed i before + 1)

/-- A round sees the node: by a fresh heartbeat, a successful query, or, for the local node, by an
answer of the trusted servers. -/
def Seen (r : Round s) : Bool :=
  (i.val = 0 && s.trusted && r.pinged) || (r.checks && match s.method with
    | .heartbeat => i.val ≠ 0 && r.heard i && !r.stale i
    | .query => r.queried i = some true)

/-- The reports alternate and begin with a death, and after each round the last one tells what the
round has found. -/
structure Mirrors (rounds : List (Round s)) : Prop where
  alternate : ((lifecheckRun rounds i).reports ++ [Report.alive]).IsChain (· ≠ ·)
  dead : ∀ before r, before ++ [r] <+: rounds → Failed i before r = true →
    (lifecheckRun (before ++ [r]) i).reports.headD .alive = .dead
  alive : ∀ before r, before ++ [r] <+: rounds → Failed i before r = false → Seen i r = true →
    (lifecheckRun (before ++ [r]) i).reports.headD .alive = .alive

end Findings

/-! ## The reports -/

/-- The reports alternate, and the last one is the state of the node. -/
structure Node.Reported (node : Node) : Prop where
  alternate : (node.reports ++ [Report.alive]).IsChain (· ≠ ·)
  last : node.reports.headD .alive = if node.nodeState = .dead then .dead else .alive

variable {node node' : Node}

theorem Node.Reported.report (h : node.Reported) {report : Report}
    (hreports : node'.reports = report :: node.reports) (hne : report ≠ node.reports.headD .alive)
    (hlast : report = if node'.nodeState = .dead then .dead else .alive) : node'.Reported := by
  refine ⟨?_, by rw [hreports]; exact hlast⟩
  rw [hreports, List.cons_append, List.isChain_cons]
  refine ⟨fun y hy => ?_, h.alternate⟩
  cases hcases : node.reports with
  | nil =>
    rw [hcases] at hy hne
    obtain rfl := Option.some.inj hy
    exact hne
  | cons first rest =>
    rw [hcases] at hy hne
    obtain rfl := Option.some.inj hy
    exact hne

theorem Node.Reported.markDead (h : node.Reported) : node.markDead.Reported := by
  unfold Node.markDead
  split_ifs with hstate
  · refine h.report rfl ?_ rfl
    rw [h.last, if_neg hstate]
    decide
  · exact h

theorem Node.Reported.markAlive (h : node.Reported) : node.markAlive.Reported := by
  unfold Node.markAlive
  split_ifs with hstate
  · refine h.report rfl ?_ rfl
    rw [h.last, if_pos hstate]
    decide
  · exact h

@[simp]
theorem markDead_nodeState : node.markDead.nodeState = .dead := by
  unfold Node.markDead
  split_ifs with h
  · rfl
  · exact not_not.1 h

@[simp]
theorem markAlive_nodeState : node.markAlive.nodeState ≠ .dead := by
  unfold Node.markAlive
  split_ifs with h
  · exact nofun
  · exact h

section Run

variable {s : Settings} (i : Fin s.nodeCount)

variable {before : List (Round s)}

theorem lifecheckRun_concat (r : Round s) :
    lifecheckRun (before ++ [r]) = wdLifecheck (lifecheckRun before) r := by
  simp [lifecheckRun]

/-- The node is watched by its heartbeat, which can bring it back. -/
def Watched : Bool := s.method = .heartbeat && i.val ≠ 0

/-- What a round that has found this does to a node, up to its lives. -/
def found (before : List (Round s)) (r : Round s) (node : Node) : Node :=
  if Failed i before r then node.markDead
  else if Watched i && Seen i r then node.markAlive
  else node

/-- A round does to a node what it has found, and counts its lives. -/
theorem wdLifecheck_eq (r : Round s) (nodes : Fin s.nodeCount → Node)
    (h : (nodes i).retryLives = s.lifePoint - missed i before) : wdLifecheck nodes r i =
      { found i before r (nodes i) with retryLives := s.lifePoint - missed i (before ++ [r]) } := by
  have hmissed : missed i (before ++ [r]) = if r.checks && s.method = .query then
      match r.queried i with
      | none => missed i before
      | some true => 0
      | some false => missed i before + 1
    else missed i before := by rw [missed, List.foldl_append]; rfl
  rcases hnode : nodes i with ⟨state, lives, reports⟩
  rw [hnode] at h
  obtain rfl : lives = _ := h
  rw [hmissed]
  simp only [wdLifecheck, found, Failed, Seen, Watched, Round.checks, hnode]
  by_cases hcut : r.cutOff = true
  · by_cases hi : i.val = 0 <;> by_cases hs : state = .dead <;>
      simp [hcut, hi, hs, Node.markDead]
  by_cases hrec : r.inRecovery = true
  · by_cases hi : i.val = 0 <;> simp [hcut, hrec, hi]
  have hcases : s.method = .heartbeat ∨ s.method = .query := by cases s.method <;> simp
  rcases hcases with hmethod | hmethod
  · by_cases hi : i.val = 0 <;> by_cases hs : state = .dead <;>
      by_cases halive : r.parentAlive = true <;> by_cases hheard : r.heard i = true <;>
      by_cases hstale : r.stale i = true <;>
      simp [hcut, hrec, hmethod, checkPgpoolStatusByHb, checkHeartbeat, hnode, hi, hs, halive,
        hheard, hstale, Node.markDead, Node.markAlive]
  · have hresults : r.queried i = none ∨ r.queried i = some false ∨ r.queried i = some true := by
      rcases r.queried i with _ | _ | _ <;> simp
    rcases hresults with hresult | hresult | hresult
    · simp [hcut, hrec, hmethod, checkPgpoolStatusByQuery, hnode, hresult, checkQuery]
    · by_cases hs : state = .dead <;> by_cases hle : s.lifePoint ≤ missed i before + 1 <;>
        simp [hcut, hrec, hmethod, checkPgpoolStatusByQuery, hnode, hresult, checkQuery, hs, hle,
          Node.markDead, Nat.sub_sub, Nat.sub_eq_zero_iff_le]
    · simp [hcut, hrec, hmethod, checkPgpoolStatusByQuery, hnode, hresult, checkQuery]

variable {rounds : List (Round s)}

theorem run_retryLives : (lifecheckRun rounds i).retryLives = s.lifePoint - missed i rounds := by
  induction rounds using List.reverseRecOn with
  | nil => rfl
  | append_singleton before r ih => rw [lifecheckRun_concat, wdLifecheck_eq i r _ ih]

theorem run_concat_eq (r : Round s) : lifecheckRun (before ++ [r]) i =
      { found i before r (lifecheckRun before i) with
        retryLives := s.lifePoint - missed i (before ++ [r]) } := by
  rw [lifecheckRun_concat]
  exact wdLifecheck_eq i r _ (run_retryLives i)

theorem reported_run : (lifecheckRun rounds i).Reported := by
  induction rounds using List.reverseRecOn with
  | nil => exact ⟨.singleton _, rfl⟩
  | append_singleton before r ih =>
    have hfound : (found i before r (lifecheckRun before i)).Reported := by
      unfold found
      split_ifs
      · exact ih.markDead
      · exact ih.markAlive
      · exact ih
    rw [run_concat_eq]
    exact ⟨hfound.alternate, hfound.last⟩

/-- A round takes the node for dead if it finds that it has failed, or if it was dead and is not
brought back. -/
theorem dead_step (r : Round s) : (lifecheckRun (before ++ [r]) i).nodeState = .dead ↔
      Failed i before r = true ∨ ((lifecheckRun before i).nodeState = .dead ∧
          ¬ (Watched i = true ∧ Seen i r = true)) := by
  rw [run_concat_eq]
  simp only [found]
  cases Failed i before r <;> cases Watched i <;> cases Seen i r <;> simp

/-- After a failure, the node is never seen again. -/
def NotSeenAgain (rounds : List (Round s)) : Prop :=
  ∀ before r, before ++ [r] <+: rounds → Failed i before r = false → Seen i r = true →
    ∀ earlier r', earlier ++ [r'] <+: before → Failed i earlier r' = false

variable {i}

/-- A node that no heartbeat brings back is dead once it has failed. -/
theorem dead_run_iff (hwatched : Watched i = false) : (lifecheckRun rounds i).nodeState = .dead ↔
      ∃ before r, before ++ [r] <+: rounds ∧ Failed i before r = true := by
  induction rounds using List.reverseRecOn with
  | nil => simp [lifecheckRun, load]
  | append_singleton l r ih =>
    rw [dead_step, ih, hwatched]
    simp only [Bool.false_eq_true, false_and, not_false_eq_true, and_true]
    constructor
    · rintro (h | ⟨before, r', hbefore, h⟩)
      · exact ⟨l, r, List.prefix_rfl, h⟩
      · exact ⟨before, r', hbefore.trans (List.prefix_append _ _), h⟩
    · rintro ⟨before, r', hbefore, h⟩
      rcases List.prefix_concat_iff.1 hbefore with heq | hbefore
      · obtain ⟨rfl, hr⟩ := List.append_inj' heq rfl
        obtain rfl := List.singleton_inj.1 hr
        exact .inl h
      · exact .inr ⟨before, r', hbefore, h⟩

theorem lastReport_iff : (lifecheckRun rounds i).reports.headD .alive = .alive ↔
      (lifecheckRun rounds i).nodeState ≠ .dead := by
  rw [(reported_run i).last]
  split_ifs with h <;> simp [h]

/-- **The reports mirror what the rounds find** if and only if the node is a remote one under
heartbeats, or is never seen again after a failure. -/
theorem lifecheck_mirrors_iff (rounds : List (Round s)) :
    Mirrors i rounds ↔ (s.method = .heartbeat ∧ i.val ≠ 0) ∨ NotSeenAgain i rounds := by
  have hdead : ∀ before r, Failed i before r = true →
      (lifecheckRun (before ++ [r]) i).reports.headD .alive = .dead := by
    intro before r hfailed
    rw [(reported_run i).last, if_pos ((dead_step i r).2 (.inl hfailed))]
  have hmirrors : Mirrors i rounds ↔ ∀ before r, before ++ [r] <+: rounds →
      Failed i before r = false → Seen i r = true →
      (lifecheckRun (before ++ [r]) i).nodeState ≠ .dead :=
    ⟨fun h before r hr hf hs => (lastReport_iff).1 (h.alive before r hr hf hs),
      fun h => ⟨(reported_run i).alternate, fun before r _ => hdead before r,
        fun before r hr hf hs => (lastReport_iff).2 (h before r hr hf hs)⟩⟩
  rw [hmirrors]
  cases hwatched : Watched i with
  | true =>
    have hmethod : s.method = .heartbeat ∧ i.val ≠ 0 := by simpa [Watched] using hwatched
    refine iff_of_true (fun before r _ hf hs => ?_) (.inl hmethod)
    rw [Ne, dead_step, hf, hwatched, hs]
    simp
  | false =>
    have hmethod : ¬ (s.method = .heartbeat ∧ i.val ≠ 0) := by simpa [Watched] using hwatched
    rw [or_iff_right hmethod]
    refine forall₄_congr fun before r hr hf => forall_congr' fun hs => ?_
    rw [Ne, dead_step, dead_run_iff hwatched, hf, hwatched]
    simp

end Run

/-- Two nodes, watched by queries. -/
def byQuery : Settings := ⟨2, false, .query, 1, 30⟩

/-- A round in which the queries to both nodes have this result. -/
def queryRound (result : Bool) : Round byQuery :=
  ⟨true, false, true, 0, fun _ => 0, fun _ => 0, fun _ => some result⟩

/-- The other one. -/
def other : Fin byQuery.nodeCount := ⟨1, by decide⟩

/-- The other node fails a query, and answers the next one: it is reported dead, but not alive, and
its next failure is not reported. -/
theorem answer_not_reported :
    (lifecheckRun [queryRound false, queryRound true, queryRound false] other).reports = [.dead] ∧
      ¬ Mirrors other [queryRound false, queryRound true] := by
  refine ⟨by decide, fun h => ?_⟩
  exact absurd (h.alive [queryRound false] _ List.prefix_rfl (by decide) (by decide)) (by decide)

end PgBalancer.Watchdog.Lifecheck
