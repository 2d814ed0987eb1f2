import PgBalancer.QueryCache.HashTable

/-!
# How far a standby is behind

A worker process asks the primary and the standbys for their WAL positions from time to time, and
puts the distance of each standby from the primary to shared memory.  A position is printed as two
hexadecimal numbers, the high and the low 32 bits of a byte address.  `text_to_lsn` makes one number
of them, but with the multiplier of an old way of counting: the high half is not multiplied by
`2 ^ 32`.

* `delay_exact_iff` — **for which positions the delay that is stored is the distance in bytes**.
-/

namespace PgBalancer.Worker

open List

open QueryCache (hexDigit? isSpace hexValue dropHexMark)

/-- The characters of an answer. -/
abbrev Text := List UInt8

/-! ## Positions -/

/-- `sscanf` with `%X`: the value as an `unsigned int`, and the text after it.  The number is read
as an `unsigned long`, which ends at `2 ^ 64 - 1`. -/
def scanHex (text : Text) : Option (Nat × Text) :=
  let text := text.dropWhile isSpace
  let neg := text.head? = some 45
  let text := if text.head? = some 45 ∨ text.head? = some 43 then text.tail else text
  let text := dropHexMark text
  let rest := text.dropWhile fun c => (hexDigit? c).isSome
  if rest.length = text.length then none
  else
    let value := hexValue text
    let value := if 2 ^ 64 ≤ value then 2 ^ 64 - 1
      else if neg then (2 ^ 64 - value) % 2 ^ 64 else value
    some (value % 2 ^ 32, rest)

/-- What is called a WAL segment size in the source. -/
def walSegmentSize : Nat := 16 * 1024 * 1024

/-- `text_to_lsn`, in 64 bits; `none` is an error -/
def textToLsn (text : Text) : Option Nat := do
  let (xlogid, rest) ← scanHex text
  if rest.head? = some 47 then
    let (xrecoff, _) ← scanHex rest.tail
    return (xlogid * (0xffffffff - walSegmentSize) + xrecoff) % 2 ^ 64
  else none

/-! ## The check -/

/-- `BackendInfo`, as far as the check is concerned. -/
structure BackendInfo where
  backendApplicationName : Text
  replicationState : Text
  replicationSyncState : Text
  /-- an `uint64` -/
  standbyDelay : Nat
  standbyDelayByTime : Bool

/-- A row of `pg_stat_replication`: `application_name`, `state`, `sync_state` and the lag. -/
structure StatRow where
  applicationName : Text
  state : Option Text
  syncState : Option Text
  replayLag : Option Text

/-- What the check reads: the nodes, the setting, and what the nodes answer. -/
structure Cluster where
  /-- `NUM_BACKENDS` -/
  numBackends : Nat
  /-- `REAL_PRIMARY_NODE_ID` -/
  realPrimary : Int
  /-- `REAL_MAIN_NODE_ID` -/
  realMain : Nat
  /-- `VALID_BACKEND` -/
  valid : Nat → Bool
  /-- there is a persistent connection -/
  connected : Nat → Bool
  delayThresholdByTime : Int
  /-- the number a node answers when asked for its version, if the query succeeds -/
  version : Nat → Option Int
  /-- what a node answers when asked for its position, if the query succeeds; the answer may be
  NULL -/
  position : Nat → Option (Option Text)
  /-- what the primary answers when asked for `pg_stat_replication`, if the query succeeds and there
  are rows -/
  statReplication : Option (List StatRow)

/-- What a worker process keeps: the versions of the servers, and what is in shared memory. -/
structure WorkerState where
  serverVersion : Nat → Int
  info : Nat → BackendInfo

/-- The errors that end the check. -/
inductive LagError where
  /-- No persistent db connection for the node -/
  | noConnection (node : Nat)
  /-- invalid LSN format -/
  | invalidLsn (text : Text)
  deriving DecidableEq

/-- `PRIMARY_NODE_ID` -/
def Cluster.primaryNodeId (c : Cluster) : Nat :=
  if 0 ≤ c.realPrimary ∧ c.valid c.realPrimary.toNat then c.realPrimary.toNat else c.realMain

/-- `PG10_SERVER_VERSION` -/
def pg10ServerVersion : Int := 100000
/-- `PG91_SERVER_VERSION` -/
def pg91ServerVersion : Int := 90100

/-- `NAMEDATALEN` -/
def nameDataLen : Nat := 64

/-- `strlcpy` -/
def strlcpy (src : Text) (size : Nat) : Text := src.take (size - 1)

/-- `atol` -/
def atol (s : Text) : Int :=
  let s := s.dropWhile isSpace
  let digits := (if s.head? = some 45 ∨ s.head? = some 43 then s.tail else s).takeWhile fun c =>
    48 ≤ c && c ≤ 57
  let value : Int := digits.foldl (fun v c => 10 * v + (c.toNat - 48 : Int)) 0
  max (-2 ^ 63) (min (2 ^ 63 - 1) (if s.head? = some 45 then -value else value))

/-- The variables of the loop that asks the nodes. -/
structure Probe where
  serverVersion : Nat → Int
  lsn : Nat → Nat
  /-- `stat_rep_query` is set -/
  statRepQuery : Bool
  activeStandbyNode : Nat
  replicationDelayByTime : Bool

/-- Nothing has been asked yet. -/
def Probe.start (serverVersion : Nat → Int) : Probe := ⟨serverVersion, fun _ => 0, false, 0, false⟩

/-- The version of a node: what is remembered, or else what it answers now. -/
def Cluster.versionOf (c : Cluster) (serverVersion : Nat → Int) (i : Nat) : Int :=
  if serverVersion i = 0 then (c.version i).getD 0 else serverVersion i

/-- What follows from the version of a node: which queries are made, and whether the delay is
measured by time. -/
def noteVersion (c : Cluster) (p : Probe) (i : Nat) (version : Int) : Probe :=
  if c.primaryNodeId = i then
    if version = pg91ServerVersion then { p with statRepQuery := true }
    else if version ≥ pg10ServerVersion then
      { p with
        statRepQuery := true
        replicationDelayByTime := p.replicationDelayByTime || c.delayThresholdByTime > 0 }
    else if version > pg91ServerVersion then { p with statRepQuery := true }
    else p
  else { p with activeStandbyNode := p.activeStandbyNode + 1 }

/-- A node is asked for its position.  With an error comes what is remembered by then. -/
def readPosition (c : Cluster) (p : Probe) (i : Nat) : Except (LagError × (Nat → Int)) Probe :=
  match c.position i with
  | some (some text) =>
    match textToLsn text with
    | some lsn => .ok { p with lsn := Function.update p.lsn i lsn }
    | none => .error (.invalidLsn text, p.serverVersion)
  | _ => .ok p

/-- A turn of the loop that asks the nodes. -/
def askNode (c : Cluster) (p : Probe) (i : Nat) : Except (LagError × (Nat → Int)) Probe :=
  let p := { p with lsn := Function.update p.lsn i 0 }
  if !c.valid i then .ok p
  else if !c.connected i then .error (.noConnection i, p.serverVersion)
  else
    let version := c.versionOf p.serverVersion i
    let p := { p with serverVersion := Function.update p.serverVersion i version }
    readPosition c (noteVersion c p i version) i

/-- What a row of `pg_stat_replication` says about a node. -/
def applyRow (b : BackendInfo) (row : StatRow) : BackendInfo :=
  if row.applicationName = b.backendApplicationName then
    { b with
      replicationState := strlcpy (row.state.getD []) nameDataLen
      replicationSyncState := strlcpy (row.syncState.getD []) nameDataLen
      standbyDelay := match row.replayLag with
        | some s => (atol s % 2 ^ 64).toNat
        | none => 0 }
  else b

/-- The replication state is cleared. -/
def clearState (b : BackendInfo) : BackendInfo :=
  { b with replicationState := [], replicationSyncState := [] }

/-- The loop over the nodes that fills in what `pg_stat_replication` says. -/
def fillReplicationState (c : Cluster) (info : Nat → BackendInfo) : Nat → BackendInfo := fun i =>
  if i < c.numBackends then
    if i = c.primaryNodeId then clearState (info i)
    else (c.statReplication.getD []).foldl applyRow (clearState (info i))
  else info i

/-- The last loop: what is stored for a node. -/
def storeDelay (c : Cluster) (p : Probe) (i : Nat) (b : BackendInfo) : BackendInfo :=
  let primary := p.lsn c.primaryNodeId
  let lag := if primary > p.lsn i then primary - p.lsn i else 0
  if c.primaryNodeId = i then { b with standbyDelay := 0 }
  else if p.replicationDelayByTime then { b with standbyDelayByTime := true }
  else { b with standbyDelay := lag, standbyDelayByTime := false }

/-- `check_replication_time_lag`.  When it fails, nothing but the replication states and the
versions that are remembered has changed. -/
def checkReplicationTimeLag (c : Cluster) (w : WorkerState) :
    Except (LagError × WorkerState) WorkerState :=
  let info := fun i => if i < c.numBackends then clearState (w.info i) else w.info i
  if c.numBackends ≤ 1 ∨ c.realPrimary < 0 ∨ !c.valid c.realPrimary.toNat then .ok { w with info }
  else
    match (List.range c.numBackends).foldlM (askNode c) (.start w.serverVersion) with
    | .error (e, serverVersion) => .error (e, ⟨serverVersion, info⟩)
    | .ok p =>
      let info :=
        if c.connected c.primaryNodeId ∧ p.statRepQuery then fillReplicationState c info else info
      .ok ⟨p.serverVersion, fun i =>
        if i < c.numBackends ∧ c.valid i then storeDelay c p i (info i) else info i⟩

/-! ## Printed positions -/

/-- A text that consists of hexadecimal digits. -/
def IsHex (text : Text) : Prop := text ≠ [] ∧ ∀ c ∈ text, (hexDigit? c).isSome

/-- The text prints the position with the halves `x` and `y`. -/
def Prints (text : Text) (x y : Nat) : Prop :=
  ∃ high low, text = high ++ 47 :: low ∧ IsHex high ∧ IsHex low ∧ hexValue high = x ∧
    hexValue low = y ∧ x < 2 ^ 32 ∧ y < 2 ^ 32

theorem hexDigit_cases {c : UInt8} (h : (hexDigit? c).isSome) :
    isSpace c = false ∧ c ≠ 45 ∧ c ≠ 43 ∧ c ≠ 120 ∧ c ≠ 88 := by
  revert h
  revert c
  decide +kernel

variable {digits rest text : Text}

theorem dropHexMark_eq (hdigits : ∀ c ∈ digits, (hexDigit? c).isSome)
    (hrest : ∀ c ∈ rest.head?, c = 47) : dropHexMark (digits ++ rest) = digits ++ rest := by
  have hsecond : ∀ (a x d : UInt8) (s : Text), digits ++ rest = a :: x :: d :: s →
      digits ≠ [] → ¬ (x = 120 ∨ x = 88) := by
    intro a x d s heq hne
    obtain ⟨b, digits', rfl⟩ := exists_cons_of_ne_nil hne
    rw [cons_append, List.cons.injEq] at heq
    cases digits' with
    | nil =>
      have hx : x = 47 := hrest x (by rw [← nil_append rest, heq.2]; rfl)
      rw [hx]
      decide
    | cons b' digits' =>
      obtain rfl : b' = x := (List.cons.inj heq.2).1
      have hcase := hexDigit_cases (hdigits b' (by simp))
      tauto
  unfold dropHexMark
  split
  case h_1 x d s heq =>
    by_cases hne : digits = []
    · subst hne
      have h47 : (48 : UInt8) = 47 := hrest 48 (by rw [← nil_append rest, heq]; rfl)
      exact absurd h47 (by decide)
    · rw [if_neg fun h => hsecond _ _ _ _ heq hne h.1, heq]
  case h_2 => rfl

/-- `sscanf` reads the digits up to the slash. -/
theorem scanHex_digits (hhex : IsHex digits) (hrest : ∀ c ∈ rest.head?, c = 47)
    (hvalue : hexValue digits < 2 ^ 32) :
    scanHex (digits ++ rest) = some (hexValue digits, rest) := by
  obtain ⟨hne, hdigits⟩ := hhex
  obtain ⟨d, ds, hds⟩ := exists_cons_of_ne_nil hne
  obtain ⟨hspace, hminus, hplus, -⟩ := hexDigit_cases (hdigits d (by simp [hds]))
  have hskip : (digits ++ rest).dropWhile isSpace = digits ++ rest := by
    rw [hds, cons_append, dropWhile_cons_of_neg (by simp [hspace])]
  have hhead : (digits ++ rest).head? = some d := by rw [hds]; rfl
  have hstop : ∀ l : Text, (∀ c ∈ l.head?, c = 47) →
      l.takeWhile (fun c => (hexDigit? c).isSome) = [] ∧
        l.dropWhile (fun c => (hexDigit? c).isSome) = l := by
    intro l hl
    cases l with
    | nil => exact ⟨rfl, rfl⟩
    | cons c l =>
      obtain rfl : c = 47 := hl c rfl
      exact ⟨takeWhile_cons_of_neg (by decide), dropWhile_cons_of_neg (by decide)⟩
  have hdrop : (digits ++ rest).dropWhile (fun c => (hexDigit? c).isSome) = rest := by
    rw [dropWhile_append_of_pos hdigits, (hstop rest hrest).2]
  have hval : hexValue (digits ++ rest) = hexValue digits := by
    unfold hexValue
    rw [takeWhile_append_of_pos hdigits, (hstop rest hrest).1, append_nil,
      takeWhile_eq_self_iff.2 hdigits]
  unfold scanHex
  simp only [hskip, hhead, Option.some.injEq, hminus, hplus, or_self, if_false,
    dropHexMark_eq hdigits hrest, hdrop, hval]
  have hlen : ¬ rest.length = (digits ++ rest).length := by
    rw [length_append, hds, length_cons]
    omega
  rw [if_neg hlen, if_neg (by omega), Nat.mod_eq_of_lt hvalue]

/-- What becomes of a position: the high half counts for less than `2 ^ 32`. -/
def lsnOf (x y : Nat) : Nat := x * 4278190079 + y

variable {x y : Nat}

theorem textToLsn_prints (h : Prints text x y) : textToLsn text = some (lsnOf x y) := by
  obtain ⟨high, low, rfl, hhigh, hlow, rfl, rfl, hx, hy⟩ := h
  have hlast : scanHex low = some (hexValue low, []) := by
    have hscan : scanHex (low ++ []) = _ := scanHex_digits hlow (fun c hc => absurd hc (by simp)) hy
    rwa [append_nil] at hscan
  unfold textToLsn
  rw [scanHex_digits hhigh (fun c hc => by simpa using hc.symm) hx]
  simp only [Option.bind_eq_bind, Option.bind_some, List.head?_cons, if_true, tail_cons, hlast]
  rw [lsnOf, walSegmentSize, Nat.mod_eq_of_lt (by omega)]
  rfl

/-! ## The loop over the nodes -/

namespace Cluster

variable (c : Cluster) (sv : Nat → Int)

/-- The number for the position of a node; it is 0 for a node that is not asked or has none. -/
def lsnAnswer (i : Nat) : Nat :=
  if c.valid i then
    match c.position i with
    | some (some text) => (textToLsn text).getD 0
    | _ => 0
  else 0

/-- The delay is measured by time. -/
def measuredByTime : Bool :=
  c.valid c.primaryNodeId && pg10ServerVersion ≤ c.versionOf sv c.primaryNodeId &&
    0 < c.delayThresholdByTime

/-- A node can be asked, and what it answers is a position. -/
def Answers (i : Nat) : Prop :=
  c.valid i = true → c.connected i = true ∧
    ∀ text, c.position i = some (some text) → (textToLsn text).isSome

end Cluster

/-- What the loop knows when the first `n` nodes have been asked. -/
structure Asked (c : Cluster) (sv : Nat → Int) (n : Nat) (p : Probe) : Prop where
  lsn : ∀ j < n, p.lsn j = c.lsnAnswer j
  later : ∀ j, n ≤ j → p.serverVersion j = sv j
  byTime : p.replicationDelayByTime = (decide (c.primaryNodeId < n) && c.measuredByTime sv)

variable {c : Cluster} {sv : Nat → Int} {w w' : WorkerState} {p p' : Probe} {n i lsn x' y' : Nat}

theorem noteVersion_eq (version : Int) : (noteVersion c p i version).lsn = p.lsn ∧
      (noteVersion c p i version).serverVersion = p.serverVersion ∧
      (noteVersion c p i version).replicationDelayByTime = (p.replicationDelayByTime ||
        (decide (c.primaryNodeId = i) && decide (pg10ServerVersion ≤ version) &&
          decide (0 < c.delayThresholdByTime))) := by
  unfold noteVersion
  split_ifs with hprimary h91 h10 hlater
  · -- 9.1 is not 10 or later
    have hold : ¬ pg10ServerVersion ≤ version := by rw [h91]; decide
    simp [hold]
  · simp [hprimary, h10]
  · simp [h10]
  · simp [h10]
  · simp [hprimary]

theorem lsn_update (h : ∀ j < n, p.lsn j = c.lsnAnswer j) (hlsn : lsn = c.lsnAnswer n) :
    ∀ j < n + 1, Function.update p.lsn n lsn j = c.lsnAnswer j := by
  intro j hj
  by_cases hjn : j = n
  · subst hjn
    rw [Function.update_self, hlsn]
  · rw [Function.update_of_ne hjn]
    exact h j (by omega)

/-- The position of one more node, if it answers. -/
theorem readPosition_spec (hvalid : c.valid n = true) (hlsn : ∀ j < n, p.lsn j = c.lsnAnswer j)
    (hzero : p.lsn n = 0) (hlater : ∀ j, n + 1 ≤ j → p.serverVersion j = sv j)
    (htime : p.replicationDelayByTime = (decide (c.primaryNodeId < n + 1) && c.measuredByTime sv)) :
    match readPosition c p n with
    | .ok p' => Asked c sv (n + 1) p'
    | .error _ => ¬ c.Answers n := by
  have hnone : c.lsnAnswer n = 0 → Asked c sv (n + 1) p := fun h0 => by
    refine ⟨fun j hj => ?_, hlater, htime⟩
    rcases Nat.lt_succ_iff_lt_or_eq.1 hj with hlt | rfl
    · exact hlsn j hlt
    · rw [hzero, h0]
  unfold readPosition
  cases hposition : c.position n with
  | none => exact hnone (by simp [Cluster.lsnAnswer, hposition])
  | some answer =>
    cases answer with
    | none => exact hnone (by simp [Cluster.lsnAnswer, hposition])
    | some text =>
      cases htext : textToLsn text with
      | none =>
        simp only [htext]
        intro hanswers
        have hsome := (hanswers hvalid).2 text hposition
        rw [htext] at hsome
        cases hsome
      | some lsn =>
        simp only [htext]
        exact ⟨lsn_update hlsn (by simp [Cluster.lsnAnswer, hvalid, hposition, htext]),
          hlater, htime⟩

/-- **One node is asked**: the loop goes on if it answers, and then it knows its position. -/
theorem askNode_spec (h : Asked c sv n p) :
    match askNode c p n with
    | .ok p' => Asked c sv (n + 1) p'
    | .error _ => ¬ c.Answers n := by
  have hversion : c.versionOf p.serverVersion n = c.versionOf sv n := by
    unfold Cluster.versionOf
    rw [h.later n le_rfl]
  have hlt : c.primaryNodeId ≠ n → (c.primaryNodeId < n ↔ c.primaryNodeId < n + 1) := by omega
  unfold askNode
  cases hvalid : c.valid n with
  | false =>
    refine ⟨lsn_update h.lsn (by simp [Cluster.lsnAnswer, hvalid]),
      fun j hj => h.later j (by omega), ?_⟩
    by_cases hprimary : c.primaryNodeId = n
    · have hno : c.measuredByTime sv = false := by simp [Cluster.measuredByTime, hprimary, hvalid]
      simp [h.byTime, hno]
    · simp [h.byTime, hlt hprimary]
  | true =>
    cases hconnected : c.connected n with
    | false =>
      intro hanswers
      have hcon := (hanswers hvalid).1
      rw [hconnected] at hcon
      cases hcon
    | true =>
      simp only [Bool.not_true, Bool.false_eq_true, if_false]
      obtain ⟨hlsn, hsv, htime⟩ := noteVersion_eq (c.versionOf p.serverVersion n)
      refine readPosition_spec hvalid (fun j hj => ?_) ?_ (fun j hj => ?_) (htime.trans ?_)
      · rw [hlsn]
        exact (Function.update_of_ne (Nat.ne_of_lt hj) _ _).trans (h.lsn j hj)
      · rw [hlsn]
        exact Function.update_self _ _ _
      · rw [hsv]
        exact (Function.update_of_ne (by omega) _ _).trans (h.later j (by omega))
      · dsimp only
        rw [h.byTime, hversion]
        by_cases hprimary : c.primaryNodeId = n
        · simp [Cluster.measuredByTime, hprimary, hvalid]
        · simp [hprimary, hlt hprimary]

/-- All nodes have answered, or one has not. -/
theorem asked_range (c : Cluster) (sv : Nat → Int) (n : Nat) :
    match (List.range n).foldlM (askNode c) (.start sv) with
    | .ok p => Asked c sv n p
    | .error _ => ∃ j < n, ¬ c.Answers j := by
  induction n with
  | zero => exact ⟨fun _ hj => absurd hj (Nat.not_lt_zero _), fun _ _ => rfl, by simp [Probe.start]⟩
  | succ n ih =>
    rw [range_succ, foldlM_append]
    cases hfirst : (List.range n).foldlM (askNode c) (.start sv) with
    | error e =>
      rw [hfirst] at ih
      obtain ⟨j, hj, hno⟩ := ih
      exact ⟨j, by omega, hno⟩
    | ok p =>
      rw [hfirst] at ih
      have hstep := askNode_spec ih
      change match (askNode c p n >>= fun p => pure p) with
        | .ok p => Asked c sv (n + 1) p
        | .error _ => ∃ j < n + 1, ¬ c.Answers j
      cases hlast : askNode c p n with
      | error e =>
        rw [hlast] at hstep
        exact ⟨n, by omega, hstep⟩
      | ok p' =>
        rw [hlast] at hstep
        exact hstep

/-! ## What is stored -/

/-- **The delay that is stored for a standby**, when it is not measured by time. -/
theorem check_standbyDelay (hmany : 1 < c.numBackends) (hprimary : 0 ≤ c.realPrimary)
    (hvalidp : c.valid c.realPrimary.toNat = true) (hltp : c.realPrimary.toNat < c.numBackends)
    (hi : i < c.numBackends) (hvalid : c.valid i = true) (hne : i ≠ c.realPrimary.toNat)
    (hbytes : c.measuredByTime w.serverVersion = false) :
    match checkReplicationTimeLag c w with
    | .ok w' => (w'.info i).standbyDelay = c.lsnAnswer c.realPrimary.toNat - c.lsnAnswer i
    | .error _ => ∃ j < c.numBackends, ¬ c.Answers j := by
  have hid : c.primaryNodeId = c.realPrimary.toNat := if_pos ⟨hprimary, hvalidp⟩
  have hasked := asked_range c w.serverVersion c.numBackends
  unfold checkReplicationTimeLag
  rw [if_neg (by simp [hvalidp]; omega)]
  cases hloop : (List.range c.numBackends).foldlM (askNode c) (.start w.serverVersion) with
  | error e =>
    rw [hloop] at hasked
    exact hasked
  | ok p =>
    rw [hloop] at hasked
    have htime : p.replicationDelayByTime = false := by
      rw [hasked.byTime, hbytes, Bool.and_false]
    dsimp only
    rw [if_pos ⟨hi, hvalid⟩, storeDelay, if_neg (by rw [hid]; exact Ne.symm hne), htime,
      if_neg Bool.false_ne_true, hid, hasked.lsn _ hltp, hasked.lsn i hi]
    dsimp only
    split_ifs <;> omega

/-- The distance in bytes from one position to another, 0 if there is none to go. -/
def byteDistance (x y x' y' : Nat) : Nat := (x * 2 ^ 32 + y) - (x' * 2 ^ 32 + y')

/-- The difference of the numbers for two positions is their distance exactly if the high halves are
the same, or the first position is behind and stays so with the smaller multiplier. -/
theorem lsn_sub_iff (hy : y < 2 ^ 32) (hy' : y' < 2 ^ 32) :
    lsnOf x y - lsnOf x' y' = byteDistance x y x' y' ↔
      x = x' ∨ x < x' ∧ y ≤ y' + (x' - x) * 4278190079 := by
  unfold lsnOf byteDistance
  rcases Nat.lt_trichotomy x x' with hlt | rfl | hgt
  · obtain ⟨d, rfl⟩ := Nat.exists_eq_add_of_lt hlt
    have hsub : x + d + 1 - x = d + 1 := by omega
    rw [hsub]
    constructor
    · intro h
      refine .inr ⟨hlt, ?_⟩
      omega
    · rintro (h | ⟨-, h⟩)
      · omega
      · omega
  · constructor
    · exact fun _ => .inl rfl
    · intro _
      omega
  · obtain ⟨d, rfl⟩ := Nat.exists_eq_add_of_lt hgt
    constructor
    · intro h
      omega
    · rintro (h | ⟨h, -⟩)
      · omega
      · omega

/-- **For which positions the delay is the distance in bytes.**  The primary reports the position
with the halves `x` and `y`, a valid standby the one with `x'` and `y'`, and the delay is not
measured by time; the check fails only if some node cannot be asked or answers with something
else. -/
theorem delay_exact_iff (hmany : 1 < c.numBackends) (hprimary : 0 ≤ c.realPrimary)
    (hvalidp : c.valid c.realPrimary.toNat = true) (hltp : c.realPrimary.toNat < c.numBackends)
    (hi : i < c.numBackends) (hvalid : c.valid i = true) (hne : i ≠ c.realPrimary.toNat)
    (hbytes : c.measuredByTime w.serverVersion = false) {text text' : Text} {x y x' y' : Nat}
    (hp : c.position c.realPrimary.toNat = some (some text)) (hpp : Prints text x y)
    (hs : c.position i = some (some text')) (hps : Prints text' x' y') :
    match checkReplicationTimeLag c w with
    | .ok w' => (w'.info i).standbyDelay = byteDistance x y x' y' ↔
        x = x' ∨ x < x' ∧ y ≤ y' + (x' - x) * 4278190079
    | .error _ => ∃ j < c.numBackends, ¬ c.Answers j := by
  have hstored := check_standbyDelay hmany hprimary hvalidp hltp hi hvalid hne hbytes
  have hlsn : c.lsnAnswer c.realPrimary.toNat = lsnOf x y := by
    simp [Cluster.lsnAnswer, hvalidp, hp, textToLsn_prints hpp]
  have hlsn' : c.lsnAnswer i = lsnOf x' y' := by
    simp [Cluster.lsnAnswer, hvalid, hs, textToLsn_prints hps]
  cases hcheck : checkReplicationTimeLag c w with
  | error e =>
    rw [hcheck] at hstored
    exact hstored
  | ok w' =>
    rw [hcheck] at hstored
    dsimp only at hstored ⊢
    obtain ⟨-, -, -, -, -, -, -, -, hy⟩ := hpp
    obtain ⟨-, -, -, -, -, -, -, -, hy'⟩ := hps
    rw [hstored, hlsn, hlsn']
    exact lsn_sub_iff hy hy'

/-- A primary and a standby that answer with these positions. -/
def twoNodes (primary standby : Text) : Cluster where
  numBackends := 2
  realPrimary := 0
  realMain := 0
  valid i := i < 2
  connected i := i < 2
  delayThresholdByTime := 0
  version _ := some 160000
  position i := some (some (if i = 0 then primary else standby))
  statReplication := none

/-- A worker process that has just started. -/
def freshWorker : WorkerState := ⟨fun _ => 0, fun _ => ⟨[], [], [], 0, false⟩⟩

/-- The primary is at `1/30` and the standby at `1/20`; the delay that is stored is 16. -/
theorem delay_exact_aligned :
    ∃ w', checkReplicationTimeLag (twoNodes [49, 47, 51, 48] [49, 47, 50, 48]) freshWorker =
        .ok w' ∧ (w'.info 1).standbyDelay = byteDistance 1 0x30 1 0x20 ∧
      byteDistance 1 0x30 1 0x20 = 16 := by
  have hprimary : Prints [49, 47, 51, 48] 1 0x30 :=
    ⟨[49], [51, 48], rfl, ⟨by decide, by decide +kernel⟩, ⟨by decide, by decide +kernel⟩, by decide,
      by decide, by decide, by decide⟩
  have hstandby : Prints [49, 47, 50, 48] 1 0x20 :=
    ⟨[49], [50, 48], rfl, ⟨by decide, by decide +kernel⟩, ⟨by decide, by decide +kernel⟩, by decide,
      by decide, by decide, by decide⟩
  obtain ⟨w', hcheck⟩ : ∃ w', checkReplicationTimeLag
      (twoNodes [49, 47, 51, 48] [49, 47, 50, 48]) freshWorker = .ok w' := ⟨_, rfl⟩
  have hexact := delay_exact_iff (c := twoNodes [49, 47, 51, 48] [49, 47, 50, 48])
    (w := freshWorker) (i := 1) (by decide) (by decide) (by decide) (by decide) (by decide)
    (by decide) (by decide) (by decide) rfl hprimary rfl hstandby
  rw [hcheck] at hexact
  exact ⟨w', hcheck, hexact.2 (.inl rfl), by decide⟩

/-- The primary is at `1/0` and the standby at `0/FFFFFFFF`, one byte behind; the delay that is
stored is 0. -/
theorem behind_recorded_as_zero :
    Prints [49, 47, 48] 1 0 ∧ Prints [48, 47, 70, 70, 70, 70, 70, 70, 70, 70] 0 0xFFFFFFFF ∧
      byteDistance 1 0 0 0xFFFFFFFF = 1 ∧ ∃ w', checkReplicationTimeLag
          (twoNodes [49, 47, 48] [48, 47, 70, 70, 70, 70, 70, 70, 70, 70]) freshWorker = .ok w' ∧
        (w'.info 1).standbyDelay = 0 := by
  refine ⟨⟨[49], [48], rfl, ?_, ?_, by decide, by decide, by decide, by decide⟩,
    ⟨[48], List.replicate 8 70, rfl, ?_, ?_, by decide, by decide, by decide, by decide⟩, by decide,
    _, rfl, by decide +kernel⟩
  all_goals exact ⟨by decide, by decide +kernel⟩

end PgBalancer.Worker
