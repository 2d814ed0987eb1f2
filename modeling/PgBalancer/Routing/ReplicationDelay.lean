import PgBalancer.Lib.MachineInt
import PgBalancer.Routing.WhereToSend

/-!
# The replication delay of a node that is read from

A standby that is too far behind the primary must not be read from.  There are two thresholds, one
in bytes and one in milliseconds, which replaces the first if it is set.  The delay is checked
three times: when a node that a preference list names is selected, when a node has been drawn by
weight, and once more when the statement is routed.

The weights and the random numbers are of an arbitrary type with the operations that are used.

* `bounded_staleness_iff` — **for which settings a `SELECT` never reads from a standby beyond the
  threshold**.
* `selected_usable` — **the node that is selected is up.**
-/

namespace PgBalancer.Routing

open List

open PatternLists (Text)
open MachineInt

/-! ## Settings and nodes -/

/-- The parameters about the delay, within the range the configuration accepts. -/
structure DelayConfig where
  /-- `LOAD_BALANCE_MODE_IS_AI` -/
  isAi : Bool
  preferLowerDelayStandby : Bool
  /-- in bytes, an `int64` -/
  delayThreshold : ℤ
  /-- in milliseconds, an `int` -/
  delayThresholdByTime : ℤ
  delayThreshold_nonneg : 0 ≤ delayThreshold
  delayThreshold_lt : delayThreshold < 2 ^ 63
  delayThresholdByTime_nonneg : 0 ≤ delayThresholdByTime
  delayThresholdByTime_lt : delayThresholdByTime < 2 ^ 31

/-- A backend, as the selection sees it. -/
structure BalanceNode (R : Type) where
  /-- `VALID_BACKEND_RAW` -/
  isValid : Bool
  /-- `backend_weight` -/
  weight : R
  /-- `standby_delay`, in bytes or microseconds -/
  standbyDelay : UInt64

/-- The backends. -/
structure BalanceNodes (R : Type) where
  numBackends : Nat
  node : ℤ → BalanceNode R

/-- An entry of a preference list. -/
structure Redirect (R : Type) where
  rightToken : Text
  weightToken : R

/-- The entries of `user_redirect_preference_list`, `database_redirect_preference_list` and
`app_name_redirect_preference_list` that match. -/
structure Preferences (R : Type) where
  user : Option (Redirect R)
  db : Option (Redirect R)
  app : Option (Redirect R)

/-- The random numbers of one selection. -/
structure Draws (R : Type) where
  first : R
  second : R
  third : R

/-! ## The threshold -/

/-- `delay_threshold_by_time * 1000`, as it is compared with a delay -/
def DelayConfig.byTime (cfg : DelayConfig) : UInt64 :=
  UInt64.ofInt (wrapInt (cfg.delayThresholdByTime * 1000))

/-- `delay_threshold`, as it is compared with a delay -/
def DelayConfig.bytes (cfg : DelayConfig) : UInt64 := UInt64.ofInt cfg.delayThreshold

/-- `check_replication_delay` -/
def checkReplicationDelay (cfg : DelayConfig) (mode : ClusteringMode) (delay : UInt64) : ℤ :=
  if mode ≠ .streamingReplication then 0
  else if cfg.delayThresholdByTime > 0 ∧ delay > cfg.byTime then -1
  else if cfg.delayThreshold > 0 ∧ delay > cfg.bytes then -2
  else 0

/-! ## The selection -/

section Selection

variable {R : Type} [Zero R] [Add R] [Mul R] [LE R] [LT R] [DecidableLE R] [DecidableLT R]
variable (cfg : DelayConfig) (mode : ClusteringMode) (nodes : BalanceNodes R)
  (primary main : ℤ)

/-- The ids of the backends, in order -/
def BalanceNodes.ids : List ℤ := (List.range nodes.numBackends).map Int.ofNat

/-- The check of a node. -/
def BalanceNodes.check (i : ℤ) : ℤ := checkReplicationDelay cfg mode (nodes.node i).standbyDelay

/-- The loop that looks for the nodes with the lowest delay: the lowest delay so far, the nodes
with this delay, and their weight. -/
def collectLowest (lowest : UInt64) (marked : List ℤ) (total : R) : List ℤ → List ℤ × R
  | [] => (marked, total)
  | i :: rest =>
    let node := nodes.node i
    if node.isValid ∧ i ≠ primary ∧ 0 < node.weight then
      if lowest = node.standbyDelay then
        collectLowest lowest (marked ++ [i]) (total + node.weight) rest
      else if lowest > node.standbyDelay then
        collectLowest node.standbyDelay [i] node.weight rest
      else collectLowest lowest marked total rest
    else collectLowest lowest marked total rest

/-- The loop that selects one of these nodes. -/
def pickMarked (r : R) (selected : ℤ) (total : R) : List ℤ → ℤ
  | [] => selected
  | i :: rest =>
    let selected := if selected = primary then i else selected
    if total ≤ r then pickMarked r i (total + (nodes.node i).weight) rest else selected

/-- The node with the lowest delay, or the primary if all are beyond the threshold. -/
def lowestDelayNode (draw : R) : ℤ :=
  let lowest := if cfg.delayThresholdByTime > 0 then cfg.byTime else cfg.bytes
  let (marked, total) := collectLowest nodes primary lowest [] 0 nodes.ids
  pickMarked nodes primary (draw * total) primary 0 marked

/-- The value of the digits at the start of a text -/
def digitsValue (acc : ℕ) : Text → ℕ
  | c :: rest => if c.isDigit then digitsValue (acc * 10 + (c.toNat - '0'.toNat)) rest else acc
  | [] => acc

/-- `atoi`, of a text that denotes an `int` -/
def atoi (str : Text) : ℤ :=
  match str.dropWhile Char.isWhitespace with
  | '-' :: rest => -(digitsValue 0 rest : ℤ)
  | '+' :: rest => digitsValue 0 rest
  | rest => digitsValue 0 rest

/-- `choose_db_node_id` -/
def chooseDbNodeId (str : Text) : ℤ :=
  if str = "primary".toList ∧ primary ≥ 0 then primary
  else if str = "standby".toList then -1
  else if 0 ≤ atoi str ∧ atoi str < nodes.numBackends then atoi str
  else main

/-- The node that an entry suggests, if it can be used. -/
def suggest (suggested : ℤ) : Option (Redirect R) → ℤ
  | none => suggested
  | some entry =>
    let tmp := chooseDbNodeId nodes primary main entry.rightToken
    if tmp = -1 ∨ (tmp ≥ 0 ∧ (nodes.node tmp).isValid) then tmp else suggested

/-- The node suggested by the three lists, the last one first. -/
def suggestedNode (prefs : Preferences R) : ℤ :=
  suggest nodes primary main (suggest nodes primary main (suggest nodes primary main (-2)
    prefs.user) prefs.db) prefs.app

/-- The first loop over all nodes: the sum of the weights -/
def totalWeight (suggested noLoadBalance : ℤ) (total : R) : List ℤ → R
  | [] => total
  | i :: rest =>
    if (nodes.node i).isValid ∧ i ≠ noLoadBalance ∧ ¬ (suggested = -1 ∧ i = primary) then
      totalWeight suggested noLoadBalance (total + (nodes.node i).weight) rest
    else totalWeight suggested noLoadBalance total rest

/-- The second loop: the node in whose share the random number is -/
def pickWeighted (suggested noLoadBalance : ℤ) (r : R) (selected : ℤ) (total : R) : List ℤ → ℤ
  | [] => selected
  | i :: rest =>
    if (suggested = -1 ∧ i = primary) ∨ i = noLoadBalance then
      pickWeighted suggested noLoadBalance r selected total rest
    else if (nodes.node i).isValid ∧ 0 < (nodes.node i).weight then
      if total ≤ r then
        pickWeighted suggested noLoadBalance r i (total + (nodes.node i).weight) rest
      else selected
    else pickWeighted suggested noLoadBalance r selected total rest

/-- The choice of a backend in random manner, and of another one if it is delayed. -/
def chooseWeighted (suggested noLoadBalance : ℤ) (draws : Draws R) : ℤ :=
  let total := totalWeight nodes primary suggested noLoadBalance 0 nodes.ids
  let selected := pickWeighted nodes primary suggested noLoadBalance (draws.second * total) main 0
    nodes.ids
  if mode = .streamingReplication ∧ cfg.preferLowerDelayStandby ∧
      nodes.check cfg mode selected < 0 then
    lowestDelayNode cfg nodes primary draws.third
  else selected

/-- `select_load_balancing_node`, outside the mode `ai` -/
def selectByPreference (prefs : Preferences R) (draws : Draws R) : ℤ :=
  -- the lists are looked at in streaming and logical replication mode
  let prefs := if mode = .slony then ⟨none, none, none⟩ else prefs
  let suggested := suggestedNode nodes primary main prefs
  -- a match in a later list makes that in an earlier one void
  let matching := prefs.app.or (prefs.db.or prefs.user)
  if suggested ≥ 0 then
    if mode = .streamingReplication ∧ cfg.preferLowerDelayStandby ∧ suggested ≠ primary ∧
        nodes.check cfg mode suggested < 0 then
      lowestDelayNode cfg nodes primary draws.second
    else if matching.any fun entry => draws.first ≤ entry.weightToken then suggested
    else chooseWeighted cfg mode nodes primary main suggested suggested draws
  else if suggested = -1 ∧ matching.any fun entry => entry.weightToken < draws.first then primary
  else chooseWeighted cfg mode nodes primary main suggested (-2) draws

/-- `select_load_balancing_node` -/
def selectLoadBalancingNode (prefs : Preferences R) (draws : Draws R) : ℤ :=
  if cfg.isAi then
    match nodes.ids.filter fun i => (nodes.node i).isValid with
    | _ :: second :: _ => second
    | [only] => only
    | [] => selectByPreference cfg mode nodes primary main prefs draws
  else selectByPreference cfg mode nodes primary main prefs draws

end Selection

/-! ## Routing with the selection -/

section Routing

variable {ρ R : Type} [Zero R] [Add R] [Mul R] [LE R] [LT R] [DecidableLE R] [DecidableLT R]

/-- A statement in streaming replication mode.  The node is selected when the statement is routed,
if the balancing is by statement, and a second time if it is delayed. -/
def Env.withNodes (e : Env ρ) (cfg : DelayConfig) (nodes : BalanceNodes R) (prefs : Preferences R)
    (draws again : Draws R) : Env ρ :=
  let select := selectLoadBalancingNode cfg .streamingReplication nodes e.session.primaryNodeId
    e.session.mainNodeId prefs
  { e with
    config := { e.config with
      clusteringMode := .streamingReplication
      preferLowerDelayStandby := cfg.preferLowerDelayStandby }
    session := { e.session with
      statementNode := select draws
      lowerDelayNode := select again
      isDelayed := fun i => nodes.check cfg .streamingReplication i ≠ 0 } }

/-- The threshold in force, in bytes or microseconds -/
def DelayConfig.inForce (cfg : DelayConfig) : Option ℤ :=
  if cfg.delayThresholdByTime > 0 then some (cfg.delayThresholdByTime * 1000)
  else if cfg.delayThreshold > 0 then some cfg.delayThreshold
  else none

/-- A node that may be read from: the primary, or a standby whose delay does not exceed the
threshold. -/
def Fresh (cfg : DelayConfig) (nodes : BalanceNodes R) (primary i : ℤ) : Prop :=
  i = primary ∨ ∀ threshold ∈ cfg.inForce, ((nodes.node i).standbyDelay.toNat : ℤ) ≤ threshold

/-- Whatever the statement, the session and the nodes are: a `SELECT` that is sent to a standby
goes to one that is within the threshold, and if there is none it goes to the primary. -/
def BoundedStaleness (ρ R : Type) [Zero R] [Add R] [Mul R] [LE R] [LT R] [DecidableLE R]
    [DecidableLT R] (cfg : DelayConfig) : Prop :=
  ∀ (e : Env ρ) (nodes : BalanceNodes R) (prefs : Preferences R) (draws again : Draws R) (n : Node)
    (map : NodeMap), isSelect n = true →
    whereToSendMainReplica (e.withNodes cfg nodes prefs draws again) n = .ok map →
    (∀ i ∈ map, Fresh cfg nodes e.primary i) ∧
      (∀ threshold ∈ cfg.inForce,
        (∀ i, i ≠ e.primary → threshold < ((nodes.node i).standbyDelay.toNat : ℤ)) →
        map = [e.primary])

/-- The settings for which the threshold is kept: the product does not become negative (or the
threshold in bytes, which is checked as well, is not larger), and the mode `ai`, which does not
look at the delay, does not have to choose among the standbys. -/
def DelayConfig.Sound (cfg : DelayConfig) : Prop :=
  cfg.inForce = none ∨
    (¬ (cfg.isAi = true ∧ cfg.preferLowerDelayStandby = true) ∧
      (0 ≤ wrapInt (cfg.delayThresholdByTime * 1000) ∨
        (cfg.preferLowerDelayStandby = false ∧ 0 < cfg.delayThreshold ∧
          cfg.delayThreshold ≤ cfg.delayThresholdByTime * 1000)))

end Routing

/-! ## What the checks give -/

section Bounds

variable {cfg : DelayConfig} {delay a b : UInt64} {threshold : ℤ}

theorem inForce_cases (h : threshold ∈ cfg.inForce) :
    (0 < cfg.delayThresholdByTime ∧ threshold = cfg.delayThresholdByTime * 1000) ∨
      (cfg.delayThresholdByTime = 0 ∧ 0 < cfg.delayThreshold ∧ threshold = cfg.delayThreshold) := by
  have hnonneg := cfg.delayThresholdByTime_nonneg
  unfold DelayConfig.inForce at h
  split_ifs at h with htime hbytes
  · exact .inl ⟨htime, (Option.mem_some.1 h).symm⟩
  · exact .inr ⟨by omega, hbytes, (Option.mem_some.1 h).symm⟩
  · simp at h

theorem toNat_bytes : (cfg.bytes.toNat : ℤ) = cfg.delayThreshold :=
  toNat_ofInt_of_nonneg cfg.delayThreshold_nonneg
    (lt_trans cfg.delayThreshold_lt (by norm_num))

theorem toNat_byTime_le (h : 0 ≤ wrapInt (cfg.delayThresholdByTime * 1000)) :
    (cfg.byTime.toNat : ℤ) ≤ cfg.delayThresholdByTime * 1000 := by
  have hnonneg := cfg.delayThresholdByTime_nonneg
  have hlt := cfg.delayThresholdByTime_lt
  have hle := wrapInt_le (x := cfg.delayThresholdByTime * 1000) (by omega)
  rw [DelayConfig.byTime, toNat_ofInt_of_nonneg h (by omega)]
  exact hle

theorem lt_toNat_byTime (h : wrapInt (cfg.delayThresholdByTime * 1000) < 0) :
    cfg.delayThresholdByTime * 1000 + 1 < (cfg.byTime.toNat : ℤ) := by
  have hge := wrapInt_ge (cfg.delayThresholdByTime * 1000)
  have hlt := cfg.delayThresholdByTime_lt
  rw [DelayConfig.byTime, toNat_ofInt_of_neg (by omega) h]
  omega

theorem toNat_le_of_not_gt (h : ¬ a > b) : (a.toNat : ℤ) ≤ b.toNat := by
  have : a ≤ b := by simpa using h
  exact_mod_cast UInt64.le_iff_toNat_le.1 this

/-- A delay that passes the check is within the threshold. -/
theorem le_of_check_eq_zero (hsound : cfg.Sound) (hthreshold : threshold ∈ cfg.inForce)
    (h : checkReplicationDelay cfg .streamingReplication delay = 0) :
    (delay.toNat : ℤ) ≤ threshold := by
  have hbounds : (0 ≤ wrapInt (cfg.delayThresholdByTime * 1000) ∨
      (0 < cfg.delayThreshold ∧ cfg.delayThreshold ≤ cfg.delayThresholdByTime * 1000)) := by
    rcases hsound with hnone | ⟨-, hwrap | ⟨-, hbytes⟩⟩
    · simp [hnone] at hthreshold
    · exact .inl hwrap
    · exact .inr hbytes
  unfold checkReplicationDelay at h
  split_ifs at h with hmode htime hbytes
  · exact absurd rfl hmode
  · have hbytes' : 0 < cfg.delayThreshold → (delay.toNat : ℤ) ≤ cfg.delayThreshold := by
      intro hpos
      rw [← toNat_bytes]
      exact toNat_le_of_not_gt fun hgt => hbytes ⟨hpos, hgt⟩
    rcases inForce_cases hthreshold with ⟨hpos, rfl⟩ | ⟨-, hpos, rfl⟩
    · rcases hbounds with hwrap | ⟨hpos', hle⟩
      · exact le_trans (toNat_le_of_not_gt fun hgt => htime ⟨hpos, hgt⟩) (toNat_byTime_le hwrap)
      · exact le_trans (hbytes' hpos') hle
    · exact hbytes' hpos

theorem check_cases : checkReplicationDelay cfg .streamingReplication delay = 0 ∨
      checkReplicationDelay cfg .streamingReplication delay < 0 := by
  unfold checkReplicationDelay
  split_ifs <;> simp

theorem lowest_le (hsound : cfg.Sound) (hprefer : cfg.preferLowerDelayStandby = true)
    (hthreshold : threshold ∈ cfg.inForce) :
    (((if cfg.delayThresholdByTime > 0 then cfg.byTime else cfg.bytes).toNat : ℕ) : ℤ) ≤
      threshold := by
  have hwrap : 0 ≤ wrapInt (cfg.delayThresholdByTime * 1000) := by
    rcases hsound with hnone | ⟨-, hwrap | ⟨hoff, -⟩⟩
    · simp [hnone] at hthreshold
    · exact hwrap
    · simp [hprefer] at hoff
  rcases inForce_cases hthreshold with ⟨hpos, rfl⟩ | ⟨hzero, -, rfl⟩
  · rw [if_pos hpos]
    exact toNat_byTime_le hwrap
  · rw [if_neg (by omega), toNat_bytes]

theorem fresh_of_check {R : Type} {nodes : BalanceNodes R} {primary i : ℤ} (hsound : cfg.Sound)
    (h : nodes.check cfg .streamingReplication i = 0) : Fresh cfg nodes primary i :=
  .inr fun _ hthreshold => le_of_check_eq_zero hsound hthreshold h

theorem toNat_beyond (h : threshold ∈ cfg.inForce) :
    ((UInt64.ofInt (threshold + 1)).toNat : ℤ) = threshold + 1 := by
  have h1 := cfg.delayThreshold_lt
  have h2 := cfg.delayThresholdByTime_lt
  apply toNat_ofInt_of_nonneg <;> rcases inForce_cases h with ⟨_, rfl⟩ | ⟨_, _, rfl⟩ <;> omega

theorem beyond_lt_byTime (hthreshold : threshold ∈ cfg.inForce)
    (hneg : wrapInt (cfg.delayThresholdByTime * 1000) < 0) :
    0 < cfg.delayThresholdByTime ∧ threshold = cfg.delayThresholdByTime * 1000 ∧
      UInt64.ofInt (threshold + 1) < cfg.byTime := by
  rcases inForce_cases hthreshold with ⟨hpos, heq⟩ | ⟨hzero, -, -⟩
  · refine ⟨hpos, heq, UInt64.lt_iff_toNat_lt.2 ?_⟩
    have hbeyond := toNat_beyond hthreshold
    have hlt := lt_toNat_byTime hneg
    omega
  · rw [hzero] at hneg
    exact absurd hneg (by decide)

/-- With a negative product the delay is noticed only by the threshold in bytes. -/
theorem check_beyond (hthreshold : threshold ∈ cfg.inForce)
    (hneg : wrapInt (cfg.delayThresholdByTime * 1000) < 0)
    (hbytes : ¬ (0 < cfg.delayThreshold ∧ cfg.delayThreshold ≤ cfg.delayThresholdByTime * 1000)) :
    checkReplicationDelay cfg .streamingReplication (UInt64.ofInt (threshold + 1)) = 0 := by
  obtain ⟨-, heq, hlt⟩ := beyond_lt_byTime hthreshold hneg
  have htime : ¬ UInt64.ofInt (threshold + 1) > cfg.byTime := UInt64.lt_asymm hlt
  have hwithin : ¬ (cfg.delayThreshold > 0 ∧ UInt64.ofInt (threshold + 1) > cfg.bytes) := by
    rintro ⟨hpos, hgt⟩
    have hgt1 := UInt64.lt_iff_toNat_lt.1 hgt
    have hbeyond := toNat_beyond hthreshold
    have hthis : (cfg.bytes.toNat : ℤ) = cfg.delayThreshold := toNat_bytes
    exact hbytes ⟨hpos, by omega⟩
  unfold checkReplicationDelay
  rw [if_neg (not_not.2 rfl), if_neg (fun h => htime h.2), if_neg hwithin]

end Bounds

/-! ## The selection keeps the threshold -/

section SelectionBounds

variable {R : Type} [Zero R] [Add R] [Mul R] [LE R] [LT R] [DecidableLE R] [DecidableLT R]
variable {cfg : DelayConfig} {nodes : BalanceNodes R} {primary main : ℤ}

variable (nodes primary) in
omit [Mul R] [LE R] [DecidableLE R] in
/-- No node that is marked has a larger delay. -/
theorem collectLowest_le {bound : ℕ} (ids : List ℤ) (lowest : UInt64) (marked : List ℤ) (total : R)
    (hlowest : lowest.toNat ≤ bound)
    (hmarked : ∀ i ∈ marked, (nodes.node i).standbyDelay.toNat ≤ bound) :
    ∀ i ∈ (collectLowest nodes primary lowest marked total ids).1,
      (nodes.node i).standbyDelay.toNat ≤ bound := by
  induction ids generalizing lowest marked total with
  | nil => exact hmarked
  | cons j ids ih =>
    unfold collectLowest
    dsimp only
    split_ifs with hcond heq hgt
    · apply ih _ _ _ hlowest
      intro i hi
      rcases mem_append.1 hi with hold | hnew
      · exact hmarked i hold
      · rw [mem_singleton.1 hnew, ← heq]
        exact hlowest
    · have hlt : (nodes.node j).standbyDelay.toNat < lowest.toNat := UInt64.lt_iff_toNat_lt.1 hgt
      apply ih _ _ _ (by omega)
      intro i hi
      rw [mem_singleton.1 hi]
      omega
    · exact ih _ _ _ hlowest hmarked
    · exact ih _ _ _ hlowest hmarked

variable (nodes primary) in
omit [Zero R] [Mul R] [LT R] [DecidableLT R] in
theorem pickMarked_mem (r : R) (marked : List ℤ) (selected : ℤ) (total : R) :
    pickMarked nodes primary r selected total marked = selected ∨
      pickMarked nodes primary r selected total marked ∈ marked := by
  induction marked generalizing selected total with
  | nil => exact .inl rfl
  | cons i rest ih =>
    unfold pickMarked
    dsimp only
    split_ifs with hle hfirst
    · rcases ih i (total + (nodes.node i).weight) with heq | hmem
      · rw [heq]
        exact .inr mem_cons_self
      · exact .inr (mem_cons_of_mem i hmem)
    · exact .inr mem_cons_self
    · exact .inl rfl

theorem lowestDelayNode_fresh (hsound : cfg.Sound) (hprefer : cfg.preferLowerDelayStandby = true)
    (draw : R) : Fresh cfg nodes primary (lowestDelayNode cfg nodes primary draw) := by
  unfold lowestDelayNode
  dsimp only
  rcases pickMarked_mem nodes primary _ _ primary 0 with heq | hmem
  · exact .inl heq
  · right
    intro threshold hthreshold
    have hle := lowest_le hsound hprefer hthreshold
    have hbound := collectLowest_le nodes primary nodes.ids _ [] (0 : R)
      le_rfl (by simp) _ hmem
    exact le_trans (by exact_mod_cast hbound) hle

variable {draws : Draws R}

theorem chooseWeighted_fresh (hsound : cfg.Sound) (hprefer : cfg.preferLowerDelayStandby = true)
    (suggested noLoadBalance : ℤ) :
    Fresh cfg nodes primary (chooseWeighted cfg .streamingReplication nodes primary main suggested
      noLoadBalance draws) := by
  unfold chooseWeighted
  dsimp only
  split_ifs with hcond
  · exact lowestDelayNode_fresh hsound hprefer draws.third
  · apply fresh_of_check hsound
    have hnot := not_and.1 (not_and.1 hcond rfl) hprefer
    exact (check_cases).resolve_right hnot

variable {prefs : Preferences R}

/-- **A node selected with `prefer_lower_delay_standby` is the primary or within the threshold.** -/
theorem selectLoadBalancingNode_bounded (hsound : cfg.Sound)
    (hprefer : cfg.preferLowerDelayStandby = true) :
    Fresh cfg nodes primary (selectLoadBalancingNode cfg .streamingReplication nodes primary main
      prefs draws) := by
  by_cases hai : cfg.isAi = true
  · -- in this mode there is no threshold
    rcases hsound with hnone | ⟨hnot, -⟩
    · right
      intro threshold hthreshold
      simp [hnone] at hthreshold
    · exact absurd ⟨hai, hprefer⟩ hnot
  · unfold selectLoadBalancingNode
    rw [if_neg hai]
    unfold selectByPreference
    rw [if_neg (by decide : ¬ ClusteringMode.streamingReplication = .slony)]
    dsimp only
    generalize suggestedNode nodes primary main prefs = suggested
    split_ifs with hsug hdelayed hmatch hstandby
    · exact lowestDelayNode_fresh hsound hprefer draws.second
    · by_cases hprimary : suggested = primary
      · exact .inl hprimary
      · apply fresh_of_check hsound
        have hnot : ¬ nodes.check cfg .streamingReplication suggested < 0 :=
          fun hlt => hdelayed ⟨rfl, hprefer, hprimary, hlt⟩
        exact (check_cases).resolve_right hnot
    · exact chooseWeighted_fresh hsound hprefer _ _
    · exact .inl rfl
    · exact chooseWeighted_fresh hsound hprefer _ _

end SelectionBounds

/-! ## Routing keeps the threshold -/

section RoutingBounds

variable {ρ R : Type} [Zero R] [Add R] [Mul R] [LE R] [LT R] [DecidableLE R] [DecidableLT R]
variable {cfg : DelayConfig} {n : Node} {e : Env ρ} {map : NodeMap}

theorem sendToWhere_select (hn : isSelect n = true) :
    sendToWhere e n = .primary ∨ sendToWhere e n = .either := by
  cases n with
  | selectStmt =>
    simp only [sendToWhere]
    split_ifs <;> simp
  | _ => simp [isSelect] at hn

/-- A `SELECT` goes to the primary or to the load balance node. -/
theorem whereToSendMainReplica_select (hn : isSelect n = true)
    (h : whereToSendMainReplica e n = .ok map) : map = [e.primary] ∨ map = [loadBalanceNode e] := by
  have hset : ∀ nodeId, poolSetNodeToBeSent nodeId = .ok map → map = [nodeId] := by
    intro nodeId hset
    unfold poolSetNodeToBeSent at hset
    split_ifs at hset
    exact (Except.ok.inj hset).symm
  have hbalance : balance e n = e.primary ∨ balance e n = loadBalanceNode e := by
    unfold balance
    split_ifs <;> simp
  unfold whereToSendMainReplica at h
  rcases sendToWhere_select hn with hdest | hdest
  · rw [hdest] at h
    exact .inl (hset _ h)
  · rw [hdest] at h
    dsimp only at h
    split_ifs at h
    · exact .inl (hset _ h)
    · rcases hbalance with heq | heq
      · exact .inl (heq ▸ hset _ h)
      · exact .inr (heq ▸ hset _ h)

theorem loadBalanceNode_cases (e : Env ρ)
    (hmode : e.config.clusteringMode = .streamingReplication) : loadBalanceNode e = e.primary ∨
      (e.config.preferLowerDelayStandby = true ∧ loadBalanceNode e = e.session.lowerDelayNode) ∨
      e.session.isDelayed (loadBalanceNode e) = false := by
  unfold loadBalanceNode
  extract_lets node
  split_ifs with hdelayed hprefer
  · exact .inr (.inl ⟨hprefer, rfl⟩)
  · exact .inl rfl
  · exact .inr (.inr (by simpa [hmode] using hdelayed))

theorem loadBalanceNode_fresh (hsound : cfg.Sound) (nodes : BalanceNodes R)
    (prefs : Preferences R) (draws again : Draws R) :
    Fresh cfg nodes e.primary (loadBalanceNode (e.withNodes cfg nodes prefs draws again)) := by
  rcases loadBalanceNode_cases (e.withNodes cfg nodes prefs draws again) rfl with
    hprimary | ⟨hprefer, hlower⟩ | hdelayed
  · exact .inl hprimary
  · rw [hlower]
    exact selectLoadBalancingNode_bounded hsound hprefer
  · apply fresh_of_check hsound
    simpa [Env.withNodes] using hdelayed

theorem boundedStaleness_of_sound (hsound : cfg.Sound) : BoundedStaleness ρ R cfg := by
  intro e nodes prefs draws again n map hn hroute
  have hfresh : ∀ i ∈ map, Fresh cfg nodes e.primary i := by
    intro i hi
    rcases whereToSendMainReplica_select hn hroute with rfl | rfl
    · exact .inl (mem_singleton.1 hi)
    · rw [mem_singleton.1 hi]
      exact loadBalanceNode_fresh hsound nodes prefs draws again
  refine ⟨hfresh, fun threshold hthreshold hall => ?_⟩
  obtain ⟨i, rfl⟩ : ∃ i, map = [i] := by
    rcases whereToSendMainReplica_select hn hroute with rfl | rfl <;> exact ⟨_, rfl⟩
  rcases hfresh i mem_cons_self with rfl | hle
  · rfl
  · by_contra hne
    have hlt := hall i (fun heq => hne (by rw [heq]))
    have := hle threshold hthreshold
    omega

/-! ## Settings for which it is not kept -/

/-- A session that balances, with node 1 for reading. -/
def readingEnv (ρ : Type) : Env ρ where
  regex := ⟨fun _ => none, fun _ _ => false⟩
  config := { plainEnv.config with lists := PatternLists.bootConfig, allowSqlComments := true }
  catalog := plainEnv.catalog
  session := idleSession
  query := "SELECT".toList
  isMultiStatement := false

/-- The primary, and a standby with the given delay. -/
def oneStandby (weight : R) (delay : UInt64) : BalanceNodes R :=
  ⟨2, fun i => ⟨true, weight, if i = 1 then delay else 0⟩⟩

/-- A list that names the standby. -/
def preferStandby (weight : R) : Preferences R := ⟨none, some ⟨['1'], weight⟩, none⟩

theorem route_plainSelect (nodes : BalanceNodes R) (prefs : Preferences R) (draws : Draws R)
    (hnode : loadBalanceNode ((readingEnv ρ).withNodes cfg nodes prefs draws draws) = 1) :
    whereToSendMainReplica ((readingEnv ρ).withNodes cfg nodes prefs draws draws) plainSelect =
      .ok [1] := by
  have hpref : prefersPrimary ((readingEnv ρ).withNodes cfg nodes prefs draws draws) plainSelect =
      false :=
    prefersPrimary_plainSelect (by rintro ⟨⟩) (by rintro ⟨⟩)
  have hbalance : balance ((readingEnv ρ).withNodes cfg nodes prefs draws draws) plainSelect =
      1 := by
    rw [← hnode]
    unfold balance
    rw [hpref]
    rfl
  rw [whereToSendMainReplica, sendToWhere_plainSelect, hbalance]
  rfl

theorem select_ai (hai : cfg.isAi = true) (weight : R) (delay : UInt64) (prefs : Preferences R)
    (draws : Draws R) :
    selectLoadBalancingNode cfg .streamingReplication (oneStandby weight delay) 0 0 prefs draws =
      1 := by
  simp [selectLoadBalancingNode, hai, oneStandby, BalanceNodes.ids, range_succ]

variable {weight : R} {delay : UInt64} {threshold : ℤ}

theorem lowestDelayNode_oneStandby (hweight : 0 < weight)
    (hdelay : delay < (if cfg.delayThresholdByTime > 0 then cfg.byTime else cfg.bytes)) (draw : R) :
    lowestDelayNode cfg (oneStandby weight delay) 0 draw = 1 := by
  have hne : (if cfg.delayThresholdByTime > 0 then cfg.byTime else cfg.bytes) ≠ delay :=
    (UInt64.ne_of_lt hdelay).symm
  unfold lowestDelayNode
  simp only [oneStandby, BalanceNodes.ids, range_succ, range_zero, nil_append,
    map_cons, map_nil, singleton_append]
  simp [collectLowest, hweight, hne, hdelay, pickMarked]

/-- With the threshold turned into an unlimited one, the standby that a list names is selected. -/
theorem select_delayed (hai : cfg.isAi = false) (hprefer : cfg.preferLowerDelayStandby = true)
    (hweight : 0 < weight)
    (hdelay : delay < (if cfg.delayThresholdByTime > 0 then cfg.byTime else cfg.bytes))
    (hcheck : checkReplicationDelay cfg .streamingReplication delay ≠ 0) (draws : Draws R) :
    selectLoadBalancingNode cfg .streamingReplication (oneStandby weight delay) 0 0
      (preferStandby weight) draws = 1 := by
  have hsuggested : suggestedNode (oneStandby weight delay) 0 0 (preferStandby weight) = 1 := rfl
  have hlt : checkReplicationDelay cfg .streamingReplication delay < 0 :=
    (check_cases).resolve_left hcheck
  unfold selectLoadBalancingNode selectByPreference
  rw [if_neg (by simp [hai]), if_neg (by decide : ¬ ClusteringMode.streamingReplication = .slony)]
  dsimp only
  rw [hsuggested, if_pos (by decide : (1 : ℤ) ≥ 0), if_pos]
  · exact lowestDelayNode_oneStandby hweight hdelay draws.second
  · exact ⟨rfl, hprefer, by decide, hlt⟩

variable (cfg) in
/-- The standby is read from if its delay is not noticed, or if it is selected again. -/
theorem loadBalanceNode_reading (draws : Draws R)
    (hselect : checkReplicationDelay cfg .streamingReplication delay ≠ 0 →
      cfg.preferLowerDelayStandby = true ∧
        selectLoadBalancingNode cfg .streamingReplication (oneStandby weight delay) 0 0
          (preferStandby weight) draws = 1) :
    loadBalanceNode ((readingEnv ρ).withNodes cfg (oneStandby weight delay) (preferStandby weight)
      draws draws) = 1 := by
  by_cases hcheck : checkReplicationDelay cfg .streamingReplication delay = 0
  · simp [loadBalanceNode, Env.withNodes, readingEnv, plainEnv, idleSession, BalanceNodes.check,
      oneStandby, hcheck]
  · obtain ⟨hprefer, hagain⟩ := hselect hcheck
    rw [← hagain]
    simp [loadBalanceNode, Env.withNodes, readingEnv, plainEnv, idleSession, BalanceNodes.check,
      oneStandby, hcheck, hprefer]

theorem reads_beyond (hnot : ¬ cfg.Sound) (hthreshold : threshold ∈ cfg.inForce)
    (hweight : 0 < weight) (draws : Draws R)
    (hcheck : checkReplicationDelay cfg .streamingReplication (UInt64.ofInt (threshold + 1)) ≠ 0) :
    cfg.preferLowerDelayStandby = true ∧ selectLoadBalancingNode cfg .streamingReplication
        (oneStandby weight (UInt64.ofInt (threshold + 1))) 0 0 (preferStandby weight) draws =
          1 := by
  have hneg : ¬ (cfg.isAi = true ∧ cfg.preferLowerDelayStandby = true) →
      wrapInt (cfg.delayThresholdByTime * 1000) < 0 := by
    intro hplain
    by_contra hge
    exact hnot (.inr ⟨hplain, .inl (not_lt.1 hge)⟩)
  rcases hprefer : cfg.preferLowerDelayStandby with _ | _
  · have hplain : ¬ (cfg.isAi = true ∧ cfg.preferLowerDelayStandby = true) := by simp [hprefer]
    refine absurd (check_beyond hthreshold (hneg hplain) fun hbytes => hnot ?_) hcheck
    exact .inr ⟨hplain, .inr ⟨hprefer, hbytes⟩⟩
  · refine ⟨rfl, ?_⟩
    rcases hai : cfg.isAi with _ | _
    · obtain ⟨hpos, -, hlt⟩ := beyond_lt_byTime hthreshold (hneg (by simp [hai]))
      refine select_delayed hai hprefer hweight ?_ hcheck draws
      rw [if_pos hpos]
      exact hlt
    · exact select_ai hai _ _ _ _

theorem sound_of_boundedStaleness (hweight : 0 < weight) (h : BoundedStaleness ρ R cfg) :
    cfg.Sound := by
  by_contra hnot
  obtain ⟨threshold, hthreshold⟩ : ∃ threshold, threshold ∈ cfg.inForce := by
    rcases hforce : cfg.inForce with _ | threshold
    · exact absurd (.inl hforce) hnot
    · exact ⟨threshold, rfl⟩
  have hnode : loadBalanceNode ((readingEnv ρ).withNodes cfg _ _ _ _) = 1 :=
    loadBalanceNode_reading cfg ⟨weight, weight, weight⟩
      (reads_beyond hnot hthreshold hweight _)
  have hroute := route_plainSelect _ _ _ hnode
  rcases (h _ _ _ _ _ _ _ rfl hroute).1 1 (mem_singleton_self 1) with hprimary | hle
  · cases hprimary
  · have hbeyond := toNat_beyond hthreshold
    have hle1 := hle threshold hthreshold
    simp only [oneStandby, if_true] at hle1
    omega

/-- The threshold is kept in every session and for every state of the nodes, if and only if the
settings are such that the product does not overflow into a negative number and the mode `ai` does
not have to choose. -/
theorem bounded_staleness_iff (ρ R : Type) [Zero R] [Add R] [Mul R] [LE R] [LT R] [DecidableLE R]
    [DecidableLT R] {weight : R} (hweight : 0 < weight) (cfg : DelayConfig) :
    BoundedStaleness ρ R cfg ↔ cfg.Sound :=
  ⟨sound_of_boundedStaleness hweight, boundedStaleness_of_sound⟩

/-- A threshold in bytes and one in milliseconds. -/
def thresholds (bytes ms : ℤ) (h : (0 ≤ bytes ∧ bytes < 2 ^ 63) ∧ 0 ≤ ms ∧ ms < 2 ^ 31) :
    DelayConfig where
  isAi := false
  preferLowerDelayStandby := false
  delayThreshold := bytes
  delayThresholdByTime := ms
  delayThreshold_nonneg := h.1.1
  delayThreshold_lt := h.1.2
  delayThresholdByTime_nonneg := h.2.1
  delayThresholdByTime_lt := h.2.2

/-- A threshold of one second is kept. -/
theorem one_second_kept : (thresholds 0 1000 (by decide)).Sound ∧
      BoundedStaleness Unit ℚ (thresholds 0 1000 (by decide)) := by
  have hsound : (thresholds 0 1000 (by decide)).Sound :=
    .inr ⟨by decide, .inl (by decide)⟩
  exact ⟨hsound, (bounded_staleness_iff Unit ℚ one_pos _).2 hsound⟩

/-- With a threshold of 36 minutes, a `SELECT` is sent to a standby that is an hour behind. -/
theorem hour_behind_is_read :
    (thresholds 0 2160000 (by decide)).inForce = some 2160000000 ∧
      ((oneStandby (1 : ℚ) 3600000000).node 1).standbyDelay = 3600000000 ∧ whereToSendMainReplica
        ((readingEnv Unit).withNodes (thresholds 0 2160000 (by decide))
          (oneStandby (1 : ℚ) 3600000000) (preferStandby 1) ⟨0, 0, 0⟩ ⟨0, 0, 0⟩) plainSelect =
        .ok [1] := by
  have hcheck : checkReplicationDelay (thresholds 0 2160000 (by decide))
      .streamingReplication 3600000000 = 0 := by decide
  exact ⟨rfl, rfl, route_plainSelect _ _ _
    (loadBalanceNode_reading _ _ fun hne => absurd hcheck hne)⟩

end RoutingBounds

/-! ## The node that is selected is up -/

section Up

variable {R : Type} {nodes : BalanceNodes R} {primary main suggested i : ℤ}

/-- A node that is up, or the main node or the primary, which are taken to be. -/
def Usable (nodes : BalanceNodes R) (primary main i : ℤ) : Prop :=
  i = main ∨ i = primary ∨ (nodes.node i).isValid = true

theorem suggest_usable (entry : Option (Redirect R))
    (h : 0 ≤ suggested → Usable nodes primary main suggested) :
    0 ≤ suggest nodes primary main suggested entry →
      Usable nodes primary main (suggest nodes primary main suggested entry) := by
  fun_cases suggest nodes primary main suggested entry with
  | case1 | case3 => exact h
  | case2 entry tmp htmp => grind [Usable]

variable [Zero R] [Add R] [LT R] [DecidableLT R]

theorem mem_collectLowest {ids marked : List ℤ} {lowest : UInt64} {total : R}
    (h : i ∈ (collectLowest nodes primary lowest marked total ids).1) :
    i ∈ marked ∨ (nodes.node i).isValid = true := by
  fun_induction collectLowest nodes primary lowest marked total ids with grind

variable [LE R] [DecidableLE R]

theorem pickWeighted_usable {noLoadBalance selected : ℤ} {r total : R} {ids : List ℤ}
    (h : Usable nodes primary main selected) : Usable nodes primary main
      (pickWeighted nodes primary suggested noLoadBalance r selected total ids) := by
  fun_induction pickWeighted nodes primary suggested noLoadBalance r selected total ids with
    grind [Usable]

variable [Mul R] {cfg : DelayConfig}

theorem lowestDelayNode_usable {draw : R} :
    Usable nodes primary main (lowestDelayNode cfg nodes primary draw) := by
  unfold lowestDelayNode
  dsimp only
  rcases pickMarked_mem nodes primary _ _ primary 0 with heq | hmem
  · exact .inr (.inl heq)
  · exact .inr (.inr ((mem_collectLowest hmem).resolve_left (by simp)))

/-- **The node that is selected is up**, as far as the main node and the primary are: for all
weights, delays, preferences and random numbers, in every mode. -/
theorem selected_usable (cfg : DelayConfig) (mode : ClusteringMode) (nodes : BalanceNodes R)
    (primary main : ℤ) (prefs : Preferences R) (draws : Draws R) : Usable nodes primary main
      (selectLoadBalancingNode cfg mode nodes primary main prefs draws) := by
  have hweighted : ∀ suggested noLoadBalance, Usable nodes primary main
      (chooseWeighted cfg mode nodes primary main suggested noLoadBalance draws) := by
    intro suggested noLoadBalance
    unfold chooseWeighted
    dsimp only
    split_ifs
    · exact lowestDelayNode_usable
    · exact pickWeighted_usable (.inl rfl)
  have hpreference : Usable nodes primary main
      (selectByPreference cfg mode nodes primary main prefs draws) := by
    unfold selectByPreference
    dsimp only
    split_ifs with _ hsuggested
    all_goals first
      | exact lowestDelayNode_usable
      | exact hweighted _ _
      | exact .inr (.inl rfl)
      | exact suggest_usable _ (suggest_usable _ (suggest_usable _ (by simp))) ‹_›
  have hvalid : ∀ i ∈ nodes.ids.filter fun i => (nodes.node i).isValid,
      Usable nodes primary main i := fun i hi => .inr (.inr (mem_filter.1 hi).2)
  fun_cases selectLoadBalancingNode cfg mode nodes primary main prefs draws with
  | case1 _ first second rest heq => exact hvalid second (by simp [heq])
  | case2 _ only heq => exact hvalid only (by simp [heq])
  | case3 | case4 => exact hpreference

end Up

end PgBalancer.Routing
