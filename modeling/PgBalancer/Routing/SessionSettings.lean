import PgBalancer.Routing.WhereToSend

/-!
# Settings of a session on several nodes

A session in main-replica mode reads from a standby and writes to the primary, so a `SET`
must reach both; only what a standby cannot do, a read-write or a serializable transaction,
is for the primary alone.  `send_to_where` finds that out from the arguments of the `SET`.
For `SET transaction_read_only` it keeps the destination in a `bool`, where the code for
"all nodes" turns into the one for "standby", and from there the statement, not being a
`SELECT`, ends on the primary.

* `settings_sent_iff` — **a `SET` for the primary goes there and any other one to every
  valid node, exactly if it does not set `transaction_read_only` by name and the session
  uses all valid nodes**, unless the primary is the only one.
-/

namespace PgBalancer.Routing

open List

open PatternLists (Text)

variable {ρ : Type} {nodeId primary : ℤ} {map upNodes : NodeMap} {e : Env ρ}

/-! ## `SET` -/

/-- A `SET` statement.  `READ ONLY` and `READ WRITE` are options with an integer. -/
structure SetStmt where
  kind : VariableSetKind
  name : Text
  args : List SetArg
  readMode : ∀ opt, SetArg.option opt ∈ args → opt.defname = "transaction_read_only".toList →
    ∃ i, opt.arg = .integer i

namespace SetStmt

/-- The parse tree. -/
def node (s : SetStmt) : Node := .variableSetStmt s.kind s.name s.args

/-- One of some variables gets a value with a property: by its name, or as an option of
`SET TRANSACTION` or `SET SESSION CHARACTERISTICS`. -/
def assigns (s : SetStmt) (names : List Text) (p : Value → Bool) : Bool :=
  match s.kind with
  | .setValue =>
    names.contains s.name && s.args.any fun
      | .const v => p v
      | _ => false
  | .setMulti =>
    isSetTransactionName s.name && s.args.any fun
      | .option opt => names.contains opt.defname && p opt.arg
      | _ => false
  | _ => false

/-- The values that turn `transaction_read_only` off. -/
def isOff (v : Value) : Bool := v.isText ["off", "f", "false"] || v = .integer 0

/-- `SET transaction_read_only` to off. -/
def makesReadWrite (s : SetStmt) : Bool := s.assigns ["transaction_read_only".toList] isOff

/-- The transaction, or all of them, become serializable. -/
def makesSerializable (s : SetStmt) : Bool :=
  s.assigns ["transaction_isolation".toList, "default_transaction_isolation".toList]
    (Value.isText ["serializable"])

/-- The primary alone is to get the statement. -/
def isForPrimary (s : SetStmt) : Bool := s.makesReadWrite || s.makesSerializable

/-- `SET transaction_read_only TO …` -/
def namesReadOnly (s : SetStmt) : Bool :=
  s.kind = .setValue && s.name = "transaction_read_only".toList

theorem makesSerializable_eq (s : SetStmt) :
    s.makesSerializable = isSetTransactionSerializable s.node := by
  unfold makesSerializable assigns node isSetTransactionSerializable
  generalize "transaction_isolation".toList = isolation
  generalize "default_transaction_isolation".toList = defaultIsolation
  cases hkind : s.kind with
  | setValue =>
    by_cases hname : s.name = isolation ∨ s.name = defaultIsolation
    · have hmem : [isolation, defaultIsolation].contains s.name = true := by simpa using hname
      dsimp only
      rw [hmem, Bool.true_and]
      exact (if_pos ⟨rfl, hname⟩).symm
    · simp [hname]
  | setMulti =>
    by_cases hname : isSetTransactionName s.name = true
    · dsimp only
      rw [hname, Bool.true_and, if_neg (by simp), if_pos ⟨rfl, rfl⟩]
      refine congrArg s.args.any (funext fun arg => ?_)
      cases arg <;> simp
    · simp [hname]
  | _ => simp

theorem any_readWrite (s : SetStmt) :
    (s.args.any fun
      | .option opt => opt.defname = "transaction_read_only".toList && !opt.arg.isNonzero
      | _ => false) =
    s.args.any fun
      | .option opt => ["transaction_read_only".toList].contains opt.defname && isOff opt.arg
      | _ => false := by
  rw [Bool.eq_iff_iff, any_eq_true, any_eq_true]
  refine exists_congr fun arg => and_congr_right fun harg => ?_
  cases arg with
  | option opt =>
    have hmode := s.readMode opt harg
    generalize "transaction_read_only".toList = readOnly at hmode ⊢
    by_cases hname : opt.defname = readOnly
    · obtain ⟨i, hi⟩ := hmode hname
      simp [hname, hi, isOff, Value.isText, Value.isNonzero]
    · simp [hname]
  | const v => exact Iff.rfl
  | interval => exact Iff.rfl

theorem sendSetToWhere_of_not_named (s : SetStmt) (h : s.namesReadOnly = false) :
    sendSetToWhere s.kind s.name s.args = if s.isForPrimary then .primary else .both := by
  have hserial : isSetTransactionSerializable (.variableSetStmt s.kind s.name s.args) =
      s.makesSerializable := s.makesSerializable_eq.symm
  have hwrite := s.any_readWrite
  unfold namesReadOnly at h
  unfold sendSetToWhere isForPrimary makesReadWrite assigns
  rw [hserial]
  generalize "transaction_read_only".toList = readOnly at h hwrite ⊢
  have hnamed : ¬ (s.kind = .setValue ∧ s.name = readOnly) := by simpa using h
  rw [if_neg hnamed]
  cases hs : s.makesSerializable with
  | true => simp
  | false =>
    simp only [Bool.false_eq_true, if_false, Bool.or_false]
    cases hkind : s.kind with
    | setValue =>
      have hname : ¬ s.name = readOnly := fun hname => hnamed ⟨hkind, hname⟩
      simp [hname]
    | setMulti =>
      by_cases hname : isSetTransactionName s.name = true
      · rw [if_pos ⟨rfl, hname⟩, hname, Bool.true_and]
        exact congrArg (fun b : Bool => if b then PoolDest.primary else .both) hwrite
      · simp [hname]
    | _ => simp

theorem sendSetToWhere_of_named (s : SetStmt) (h : s.namesReadOnly = true) :
    sendSetToWhere s.kind s.name s.args ≠ .both := by
  unfold namesReadOnly at h
  unfold sendSetToWhere
  generalize "transaction_read_only".toList = readOnly at h ⊢
  have hnamed : s.kind = .setValue ∧ s.name = readOnly := by simpa using h
  rw [if_pos hnamed]
  split_ifs <;> simp

end SetStmt

/-! ## Where it goes -/

section Destination

variable {e : Env ρ} {s : SetStmt}

theorem balance_set : balance e s.node = e.primary := by
  have hsel : isSelectQuery e s.node = false := rfl
  simp [balance, hsel]

theorem whereToSendMainReplica_set (h : sendSetToWhere s.kind s.name s.args ≠ .both) :
    whereToSendMainReplica e s.node = poolSetNodeToBeSent e.primary := by
  have hdest : sendToWhere e s.node = sendSetToWhere s.kind s.name s.args := rfl
  unfold whereToSendMainReplica
  rw [hdest, balance_set]
  split
  · rfl
  · contradiction
  · exact ite_self _
  · exact ite_self _

/-- Where a `SET` is sent. -/
theorem destination_set (htx : e.session.isTxStartedByMultiStatement = false)
    (hmulti : e.isMultiStatement = false) : poolWhereToSend e s.node =
      if s.isForPrimary || s.namesReadOnly then poolSetNodeToBeSent e.primary
      else .ok (poolSetallNodeToBeSent e) := by
  have hmain : poolWhereToSend e s.node = whereToSendMainReplica e s.node := by
    change destination e s.node = _
    simp [destination, hmulti]
  rw [hmain]
  cases hnamed : s.namesReadOnly with
  | true =>
    rw [Bool.or_true, if_pos rfl, whereToSendMainReplica_set (s.sendSetToWhere_of_named hnamed)]
  | false =>
    have hdest := s.sendSetToWhere_of_not_named hnamed
    rw [Bool.or_false]
    by_cases hprimary : s.isForPrimary = true
    · rw [if_pos hprimary] at hdest ⊢
      exact whereToSendMainReplica_set (by simp [hdest])
    · rw [if_neg hprimary] at hdest ⊢
      have hsend : sendToWhere e s.node = .both := hdest
      simp [whereToSendMainReplica, hsend, htx]

end Destination

/-! ## All nodes -/

/-- The session uses every valid node: always outside streaming and logical replication
mode; there with load balancing if the node is chosen for each statement or there is no
other node than the two of the session, and without it if there is only the primary. -/
def Covers (e : Env ρ) : Prop :=
  e.slMode = true →
    if e.config.loadBalanceMode then
      e.config.statementLevelLoadBalance = true ∨
        ∀ i ∈ e.session.upNodes, i = e.primary ∨ i = e.session.loadBalanceNodeId
    else
      e.session.upNodes.length ≤ 1 ∧
        ∀ i ∈ e.session.upNodes, i = e.primary ∨ (e.primary < 0 ∧ e.session.mainNodeId = i)

theorem take_one_filter_eq_self_iff {α : Type} (p : α → Bool) (l : List α) :
    (l.filter p).take 1 = l ↔ l.length ≤ 1 ∧ ∀ a ∈ l, p a = true := by
  constructor
  · intro h
    refine ⟨?_, fun a ha => ?_⟩
    · rw [← h]
      exact length_take_le _ _
    · rw [← h] at ha
      exact (mem_filter.1 (mem_of_mem_take ha)).2
  · rintro ⟨hlen, hall⟩
    rw [filter_eq_self.2 hall, take_of_length_le hlen]

/-- **"All nodes" are all valid nodes exactly if the session uses them.** -/
theorem covers_iff : poolSetallNodeToBeSent e = e.session.upNodes ↔ Covers e := by
  unfold poolSetallNodeToBeSent Covers
  cases hsl : e.slMode with
  | false => simp
  | true =>
    cases hlb : e.config.loadBalanceMode with
    | false => simp [take_one_filter_eq_self_iff]
    | true =>
      cases hst : e.config.statementLevelLoadBalance <;> simp [filter_eq_self]

/-! ## The main statement -/

/-- A `SET` goes where it has to. -/
def SetSentRight (e : Env ρ) (s : SetStmt) : Prop :=
  (s.isForPrimary = true → poolWhereToSend e s.node = poolSetNodeToBeSent e.primary) ∧
    (s.isForPrimary = false → poolWhereToSend e s.node = .ok e.session.upNodes)

/-- The condition: a `SET` that is for all nodes does not name `transaction_read_only`, and
the session uses all valid nodes; or the primary is the only valid node. -/
def SetFits (e : Env ρ) (s : SetStmt) : Prop :=
  s.isForPrimary = true ∨
    if s.namesReadOnly then
      0 ≤ e.primary ∧ e.primary < 128 ∧ e.session.upNodes = [e.primary]
    else Covers e

theorem poolSetNodeToBeSent_eq_ok_iff :
    poolSetNodeToBeSent nodeId = .ok map ↔ 0 ≤ nodeId ∧ nodeId < 128 ∧ map = [nodeId] := by
  unfold poolSetNodeToBeSent
  split_ifs with h
  · simp only [false_iff]
    omega
  · rw [Except.ok.injEq]
    constructor
    · intro hmap
      exact ⟨by omega, by omega, hmap.symm⟩
    · intro hmap
      exact hmap.2.2.symm

theorem SetFits.sentRight {s : SetStmt} (htx : e.session.isTxStartedByMultiStatement = false)
    (hmulti : e.isMultiStatement = false) (h : SetFits e s) : SetSentRight e s := by
  unfold SetFits at h
  unfold SetSentRight
  rw [destination_set htx hmulti]
  refine ⟨fun hprimary => by simp [hprimary], fun hprimary => ?_⟩
  cases hnamed : s.namesReadOnly with
  | true =>
    have hone := h.resolve_left (by simp [hprimary])
    rw [hnamed, if_pos rfl] at hone
    simpa [hprimary] using poolSetNodeToBeSent_eq_ok_iff.2 hone
  | false =>
    have hcovers := h.resolve_left (by simp [hprimary])
    simpa [hprimary, hnamed, covers_iff] using hcovers

/-- **Outside of multi-statement queries a `SET` goes where it has to exactly if it fits.** -/
theorem settings_sent_iff (e : Env ρ) (s : SetStmt)
    (htx : e.session.isTxStartedByMultiStatement = false) (hmulti : e.isMultiStatement = false) :
    SetSentRight e s ↔ SetFits e s := by
  refine ⟨fun h => ?_, SetFits.sentRight htx hmulti⟩
  cases hprimary : s.isForPrimary with
  | true => exact Or.inl hprimary
  | false =>
    have hsent := h.2 hprimary
    rw [destination_set htx hmulti, hprimary, Bool.false_or] at hsent
    right
    split_ifs at hsent ⊢
    · exact poolSetNodeToBeSent_eq_ok_iff.1 hsent
    · exact (covers_iff).1 (Except.ok.inj hsent)

/-! ## A sequence of settings -/

/-- Does a node get the statement? -/
def isSentTo (e : Env ρ) (s : SetStmt) (node : ℤ) : Bool :=
  match poolWhereToSend e s.node with
  | .ok map => map.contains node
  | .error _ => false

/-- The settings a node has executed, in order. -/
def executed (node : ℤ) (steps : List (Env ρ × SetStmt)) : List SetStmt :=
  (steps.filter fun step => isSentTo step.1 step.2 node).map Prod.snd

/-- **After statements that fit, the primary has executed all settings and every other valid
node those that are not for the primary alone**: nothing else tells the nodes apart. -/
theorem executed_eq (hvalid : 0 ≤ primary ∧ primary < 128) (steps : List (Env ρ × SetStmt))
    (h : ∀ step ∈ steps, step.1.session.isTxStartedByMultiStatement = false ∧
      step.1.isMultiStatement = false ∧ step.1.session.upNodes = upNodes ∧
      step.1.primary = primary ∧ SetFits step.1 step.2) : ∀ node ∈ upNodes, executed node steps =
      (steps.map Prod.snd).filter fun s => node = primary || !s.isForPrimary := by
  intro node hnode
  induction steps with
  | nil => rfl
  | cons step steps ih =>
    obtain ⟨htx, hmulti, hups, hprim, hfits⟩ := h step mem_cons_self
    have hright := hfits.sentRight htx hmulti
    have hsent : isSentTo step.1 step.2 node = (node = primary || !step.2.isForPrimary) := by
      unfold isSentTo
      cases hs : step.2.isForPrimary with
      | true =>
        rw [hright.1 hs, hprim, poolSetNodeToBeSent_eq_ok_iff.2 ⟨hvalid.1, hvalid.2, rfl⟩]
        simp
      | false =>
        rw [hright.2 hs, hups]
        simp [hnode]
    have ih := ih fun step' hmem => h step' (mem_cons_of_mem _ hmem)
    unfold executed at ih ⊢
    rw [filter_cons, hsent, map_cons, filter_cons]
    split
    · rw [map_cons, ih]
    · exact ih

/-! ## `SET transaction_read_only TO on` -/

/-- `SET transaction_read_only TO on` -/
def setReadOnlyOn : SetStmt where
  kind := .setValue
  name := "transaction_read_only".toList
  args := [.const (.string "on".toList)]
  readMode := by simp

/-- `SET work_mem TO '64MB'` -/
def setWorkMem : SetStmt where
  kind := .setValue
  name := "work_mem".toList
  args := [.const (.string "64MB".toList)]
  readMode := by simp

/-- `SET work_mem` goes to both nodes of the session. -/
theorem settings_sent_work_mem :
    poolWhereToSend plainEnv setWorkMem.node = .ok [0, 1] ∧ SetSentRight plainEnv setWorkMem :=
  ⟨rfl, (settings_sent_iff plainEnv setWorkMem rfl rfl).2 (.inr (covers_iff.1 rfl))⟩

/-- `SET work_mem` at the standby. -/
theorem executed_work_mem : executed 1 [(plainEnv, setWorkMem)] =
    ([(plainEnv, setWorkMem)].map Prod.snd).filter fun s => (1 : ℤ) = 0 || !s.isForPrimary :=
  executed_eq (by decide) _ (by
    simpa using ⟨rfl, rfl, rfl, rfl, .inr (covers_iff.1 rfl)⟩) 1 (by decide)

/-- The standby of the session does not get it. -/
theorem read_only_on_primary_only :
    plainEnv.session.isTxStartedByMultiStatement = false ∧ plainEnv.isMultiStatement = false ∧
      plainEnv.session.upNodes = [0, 1] ∧ setReadOnlyOn.isForPrimary = false ∧
      poolWhereToSend plainEnv setReadOnlyOn.node = .ok [0] ∧
      ¬ SetSentRight plainEnv setReadOnlyOn := by
  refine ⟨rfl, rfl, rfl, by decide, rfl, fun h => ?_⟩
  have hsent : (Except.ok [0] : Except RouteError NodeMap) = .ok [0, 1] := h.2 (by decide)
  cases hsent

end PgBalancer.Routing
