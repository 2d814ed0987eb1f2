import PgBalancer.Lib.History
import PgBalancer.Lib.MachineInt

/-!
# What is reported about a session

`log_backend_messages = terse` logs the kinds of the messages of a backend, and a run of one kind
only once: how often it was repeated is said when another kind follows.  The kind and the count of
the current run are kept for each backend, but there is one variable for the label that the line
about the repetitions names.

The process entry of a session says which nodes a statement was sent to, as a set of 128 bits that
is kept in two words of 64.  A bit is tested in an `int`.

* `terse_log_iff` — **the log tells the runs of every node if and only if, whenever a repeated run
  ends, no other kind has started behind an unrepeated one since** (and the count has not
  overflowed).
* `node_bitmap_iff` — **the report names the nodes that were set if and only if none of them is one
  of 32..63 or 96..127**.
-/

namespace PgBalancer.Protocol

open MachineInt

/-! ## The terse log -/

/-- The table `message_label`. -/
def messageLabel : List (Char × String) :=
  [('1', "ParseComplete"), ('2', "BindComplete"), ('3', "CloseComplete"),
    ('A', "NotificationResponse"), ('C', "CommandComplete"), ('D', "DataRow"),
    ('E', "ErrorResponse"), ('G', "CopyInResponse"), ('H', "CopyOutResponse"),
    ('I', "EmptyQueryResponse"), ('K', "BackendKeyData"), ('N', "NoticeResponse"),
    ('R', "AuthenticationRequest"), ('S', "ParameterStatus"), ('T', "RowDescription"),
    ('V', "FunctionCallResponse"), ('W', "CopyBothResponse"), ('Z', "ReadyForQuery"),
    ('n', "NoData"), ('s', "PortalSuspended"), ('t', "ParameterDescription"),
    ('v', "NegotiateProtocolVersion"), ('c', "CopyDone"), ('d', "CopyData")]

/-- The label of a kind. -/
def labelOf (kind : Char) : Option String :=
  (messageLabel.find? fun entry => entry.1 = kind).map Prod.snd

/-- `%s message from backend %d`, or `last %s message from backend %d repeated %d times` -/
structure LogLine where
  label : Option String
  node : Nat
  times : Option Int
  deriving DecidableEq

/-- The static variables, and what has been logged. -/
structure TerseLog where
  kindCache : Nat → Char
  kindCount : Nat → Int
  lastLabel : Option String
  lines : List LogLine

/-- Nothing has been logged. -/
def TerseLog.start : TerseLog := ⟨fun _ => '\x00', fun _ => 0, none, []⟩

/-- `log_backend_messages`, once the label has been found and the setting is terse -/
def logTerse (s : TerseLog) (kind : Char) (label : String) (node : Nat) : TerseLog :=
  if kind ≠ s.kindCache node then
    { kindCache := Function.update s.kindCache node kind
      kindCount := Function.update s.kindCount node 0
      lastLabel := if s.kindCount node = 0 then some label else s.lastLabel
      lines := s.lines ++ ((if s.kindCount node = 0 then []
        else [⟨s.lastLabel, node, some (s.kindCount node)⟩]) ++ [⟨some label, node, none⟩]) }
  else { s with kindCount := Function.update s.kindCount node (wrapInt (s.kindCount node + 1)) }

/-- `log_backend_messages`; a kind without a label is warned about. -/
def logBackendMessages (s : TerseLog) (kind : Char) (node : Nat) : TerseLog :=
  match labelOf kind with
  | none => s
  | some label => logTerse s kind label node

/-- A message of a known kind from a backend. -/
structure BackendMessage where
  kind : Char
  label : String
  node : Nat
  known : labelOf kind = some label

/-- The log after some messages. -/
def logAll (calls : List BackendMessage) : TerseLog :=
  calls.foldl (fun s c => logBackendMessages s c.kind c.node) .start

/-! ### Runs -/

/-- A kind, and how often it has been repeated. -/
abbrev KindRun := Char × Nat

/-- The current run; a kind of zero stands before the first. -/
def current (runs : List KindRun) : KindRun := runs.headD ('\x00', 0)

@[simp] theorem current_cons (run : KindRun) (done : List KindRun) :
    current (run :: done) = run := rfl

/-- The runs, the current one first. -/
def addKind (runs : List KindRun) (kind : Char) : List KindRun :=
  if kind ≠ (current runs).1 then (kind, 0) :: runs
  else (kind, (current runs).2 + 1) :: runs.tail

/-- The runs of equal kinds, the last one first. -/
def runsOf (kinds : List Char) : List KindRun := kinds.foldl addKind []

/-- The lines about a run that has ended. -/
def reportedRun (node : Nat) (run : KindRun) : List LogLine :=
  ⟨labelOf run.1, node, none⟩ ::
    if run.2 = 0 then [] else [⟨labelOf run.1, node, some run.2⟩]

/-- The lines about all runs: the repetitions of the current one are still to be reported. -/
def reported (node : Nat) : List KindRun → List LogLine
  | [] => []
  | (kind, _) :: done =>
    done.reverse.flatMap (reportedRun node) ++ [⟨labelOf kind, node, none⟩]

/-- What a line says. -/
def LogLine.expand (line : LogLine) : List (Option String) :=
  List.replicate (line.times.getD 1).toNat line.label

/-- **The lines about the runs expand to the kinds**, up to the tail of the current run. -/
theorem expand_reported (node : Nat) {kinds : List Char} (h : '\x00' ∉ kinds) :
    (reported node (runsOf kinds)).flatMap LogLine.expand ++
      List.replicate (current (runsOf kinds)).2 (labelOf (current (runsOf kinds)).1) =
        kinds.map labelOf := by
  have hrun : ∀ run : KindRun, (reportedRun node run).flatMap LogLine.expand =
      List.replicate (run.2 + 1) (labelOf run.1) := by
    rintro ⟨kind, _ | n⟩ <;> simp [reportedRun, LogLine.expand, List.replicate_succ]
  induction kinds using List.reverseRecOn with
  | nil => rfl
  | append_singleton kinds kind ih =>
    rw [runsOf, List.foldl_append, ← runsOf, List.map_append, ← ih (by simp_all)]
    match runsOf kinds with
    | [] =>
      have hnew : kind ≠ '\x00' := fun hzero => h (by simp [hzero])
      simp [addKind, current, hnew, reported, LogLine.expand]
    | (last, n) :: done =>
      by_cases hkind : kind = last
      · simp [addKind, current, hkind, reported, List.replicate_succ']
      · simp [addKind, current, hkind, reported, hrun, LogLine.expand, List.replicate_succ]

/-- The kinds of the messages of a node. -/
def kindsOf (node : Nat) (calls : List BackendMessage) : List Char :=
  (calls.filter fun c => c.node = node).map BackendMessage.kind

/-- The lines about a node. -/
def linesOf (node : Nat) (calls : List BackendMessage) : List LogLine :=
  (logAll calls).lines.filter fun line => line.node = node

/-- The lines about each node are those of its runs. -/
def TellsRuns (calls : List BackendMessage) : Prop :=
  ∀ node, linesOf node calls = reported node (runsOf (kindsOf node calls))

/-- **The property**: the lines about each node are those of its runs, and they expand to its
kinds, up to the repetitions of the current run. -/
def Faithful (calls : List BackendMessage) : Prop :=
  TellsRuns calls ∧ ∀ node,
    (linesOf node calls).flatMap LogLine.expand ++
      List.replicate (current (runsOf (kindsOf node calls))).2
        (labelOf (current (runsOf (kindsOf node calls))).1) = (kindsOf node calls).map labelOf

/-- The message is of another kind than the one before it from its node, which was not repeated
(or so often that the count is zero again). -/
def StartsBehindSingle (before : List BackendMessage) (c : BackendMessage) : Prop :=
  let run := current (runsOf (kindsOf c.node before))
  c.kind ≠ run.1 ∧ wrapInt run.2 = 0

instance (before : List BackendMessage) (c : BackendMessage) :
    Decidable (StartsBehindSingle before c) := inferInstanceAs (Decidable (_ ∧ _))

/-- The kind of the last such message from any node; the latest message comes first. -/
def lastStart : List BackendMessage → Option Char
  | [] => none
  | c :: earlier => if StartsBehindSingle earlier.reverse c then some c.kind else lastStart earlier

/-- If the message ends a repeated run, then the last kind that started behind a single one has the
label of this run, and the repetitions fit an `int`. -/
def KeepsLabel (before : List BackendMessage) (c : BackendMessage) : Prop :=
  let run := current (runsOf (kindsOf c.node before))
  c.kind ≠ run.1 → run.2 ≠ 0 →
    (lastStart before.reverse).bind labelOf = labelOf run.1 ∧ run.2 < 2 ^ 31

section Log

variable {calls : List BackendMessage}

variable {c : BackendMessage}

theorem logAll_append : logAll (calls ++ [c]) = logTerse (logAll calls) c.kind c.label c.node := by
  rw [logAll, List.foldl_append, ← logAll, List.foldl_cons, List.foldl_nil, logBackendMessages,
    c.known]

theorem runsOf_append (node : Nat) : runsOf (kindsOf node (calls ++ [c])) =
      if c.node = node then addKind (runsOf (kindsOf node calls)) c.kind
      else runsOf (kindsOf node calls) := by
  by_cases hnode : c.node = node <;> simp [kindsOf, runsOf, hnode]

/-- **What is kept for a node is its current run.** -/
theorem current_logAll (node : Nat) :
    (logAll calls).kindCache node = (current (runsOf (kindsOf node calls))).1 ∧
      (logAll calls).kindCount node = wrapInt (current (runsOf (kindsOf node calls))).2 := by
  induction calls using List.reverseRecOn with
  | nil => simp [logAll, TerseLog.start, runsOf, kindsOf, current, wrapInt]
  | append_singleton calls c ih =>
    rw [logAll_append, runsOf_append]
    by_cases hnode : c.node = node
    · subst hnode
      rw [if_pos rfl, addKind, logTerse, ih.1]
      by_cases hkind : c.kind = (current (runsOf (kindsOf c.node calls))).1
      · simp [hkind, ih.1, ih.2, wrapInt_add_left]
      · simp [hkind, wrapInt]
    · rw [if_neg hnode, ← ih.1, ← ih.2, logTerse]
      split_ifs <;> simp [Function.update_of_ne (Ne.symm hnode)]

/-- **The label that is kept is that of the last kind behind a single one.** -/
theorem lastLabel_logAll :
    (logAll calls).lastLabel = (lastStart calls.reverse).bind labelOf := by
  induction calls using List.reverseRecOn with
  | nil => rfl
  | append_singleton calls c ih =>
    obtain ⟨hcache, hcount⟩ := @current_logAll calls c.node
    rw [logAll_append, logTerse, hcache, hcount, List.reverse_append, List.reverse_singleton,
      List.singleton_append, lastStart, List.reverse_reverse]
    by_cases hkind : c.kind = (current (runsOf (kindsOf c.node calls))).1
    · simp [StartsBehindSingle, hkind, ih]
    · by_cases hzero : wrapInt (current (runsOf (kindsOf c.node calls))).2 = 0 <;>
        simp [StartsBehindSingle, hkind, hzero, ih, c.known]

theorem kind_ne_zero (c : BackendMessage) : c.kind ≠ '\x00' :=
  fun hzero => by simpa [hzero, labelOf, messageLabel] using c.known

theorem faithful_iff_tellsRuns : Faithful calls ↔ TellsRuns calls := by
  refine ⟨And.left, fun h => ⟨h, fun node => ?_⟩⟩
  rw [h node]
  refine expand_reported node fun hmem => ?_
  obtain ⟨c, -, hzero⟩ := List.mem_map.1 hmem
  exact kind_ne_zero c hzero

theorem wrapInt_eq_iff (n : Nat) : wrapInt n = n ↔ n < 2 ^ 31 := by
  constructor
  · intro h
    have := wrapInt_lt n
    omega
  · intro h
    exact wrapInt_of_small (by omega) (by omega)

/-- **A message keeps the log faithful if and only if the label is the one of the run it ends.** -/
theorem tellsRuns_append (h : TellsRuns calls) :
    TellsRuns (calls ++ [c]) ↔ KeepsLabel calls c := by
  obtain ⟨hcache, hcount⟩ := current_logAll c.node
  have hnode : TellsRuns (calls ++ [c]) ↔ linesOf c.node (calls ++ [c]) =
      reported c.node (addKind (runsOf (kindsOf c.node calls)) c.kind) := by
    refine ⟨fun hall => by simpa [runsOf_append] using hall c.node, fun hc node => ?_⟩
    rw [runsOf_append]
    split_ifs with hne
    · exact hne ▸ hc
    · rw [← h node, linesOf, logAll_append, logTerse, linesOf]
      split_ifs <;> simp [hne]
  have hold := h c.node
  rw [linesOf] at hold
  have hnew := kind_ne_zero c
  rw [hnode, linesOf, logAll_append, logTerse, hcache, hcount, KeepsLabel, ← lastLabel_logAll]
  match hruns : runsOf (kindsOf c.node calls) with
  | [] =>
    rw [hruns] at hold
    simp [current, hnew, addKind, reported, hold, c.known, wrapInt]
  | (last, n) :: done =>
    rw [hruns] at hold
    by_cases hkind : c.kind = last
    · simp [current, hkind, addKind, reported, hold]
    · have hn := wrapInt_eq_iff n
      by_cases hzero : wrapInt n = 0
      · simp [current, hkind, addKind, hold, reported, hzero, reportedRun, c.known]
        omega
      · have hne : n ≠ 0 := by rintro rfl; exact hzero rfl
        simp [current, hkind, addKind, hold, reported, hzero, hne, reportedRun, c.known, hn]

end Log

/-- **The log is a run-length encoding of the messages of each node if and only if every message
that ends a repeated run finds the label of that run.** -/
theorem terse_log_iff (calls : List BackendMessage) :
    (∀ before, before <+: calls → Faithful before) ↔
      ∀ before c, before ++ [c] <+: calls → KeepsLabel before c := by
  simp only [faithful_iff_tellsRuns]
  exact History.forall_history_iff (fun _ => rfl)
    (fun before c h => tellsRuns_append (h before (List.prefix_refl _))) calls

/-- Two rows and two notices, and the end of the command. -/
def twoRuns : List BackendMessage :=
  [⟨'D', "DataRow", 0, rfl⟩, ⟨'D', "DataRow", 0, rfl⟩, ⟨'N', "NoticeResponse", 0, rfl⟩,
    ⟨'N', "NoticeResponse", 0, rfl⟩, ⟨'C', "CommandComplete", 0, rfl⟩]

/-- The line about the notices names the rows. -/
theorem second_run_mislabelled : (logAll twoRuns).lines =
      [⟨some "DataRow", 0, none⟩, ⟨some "DataRow", 0, some 1⟩, ⟨some "NoticeResponse", 0, none⟩,
        ⟨some "DataRow", 0, some 1⟩, ⟨some "CommandComplete", 0, none⟩] ∧ ¬ Faithful twoRuns := by
  have hlines : (logAll twoRuns).lines =
      [⟨some "DataRow", 0, none⟩, ⟨some "DataRow", 0, some 1⟩, ⟨some "NoticeResponse", 0, none⟩,
        ⟨some "DataRow", 0, some 1⟩, ⟨some "CommandComplete", 0, none⟩] := by decide +kernel
  refine ⟨hlines, fun h => ?_⟩
  have hzero := h.1 0
  rw [linesOf, hlines] at hzero
  revert hzero
  decide +kernel

/-! ## The nodes of a statement -/

/-- `ProcessInfo->node_ids` -/
structure NodeIds where
  low : BitVec 64
  high : BitVec 64
  deriving DecidableEq

/-- `init_pi_set` -/
def initPiSet : NodeIds := ⟨0, 0⟩

/-- `pi_set` -/
def piSet (s : NodeIds) (nodeId : Fin 128) : NodeIds :=
  if nodeId.val < 64 then { s with low := s.low ||| 1#64 <<< nodeId.val }
  else { s with high := s.high ||| 1#64 <<< (nodeId.val - 64) }

/-- `is_pi_set`: the word with the bit is assigned to an `int`. -/
def isPiSet (s : NodeIds) (nodeId : Fin 128) : Bool :=
  let set : BitVec 32 :=
    if nodeId.val < 64 then (s.low &&& 1#64 <<< nodeId.val).setWidth 32
    else (s.high &&& 1#64 <<< (nodeId.val - 64)).setWidth 32
  set != 0

/-- A call on the bitmap. -/
inductive PiCall where
  | init
  | set (nodeId : Fin 128)

/-- What a call does. -/
def piStep (s : NodeIds) : PiCall → NodeIds
  | .init => initPiSet
  | .set nodeId => piSet s nodeId

/-- The nodes that have been set since `init_pi_set`. -/
def sentStep (sent : Finset (Fin 128)) : PiCall → Finset (Fin 128)
  | .init => ∅
  | .set nodeId => insert nodeId sent

/-- The bit of a node. -/
def NodeIds.bit (s : NodeIds) (m : Fin 128) : Bool :=
  if m.val < 64 then s.low.getLsbD m.val else s.high.getLsbD (m.val - 64)

theorem bit_piSet (s : NodeIds) (n m : Fin 128) :
    (piSet s n).bit m = (s.bit m || decide (m = n)) := by
  have hone : ∀ i j : Nat, (1#64 <<< i).getLsbD j = (decide (i < 64) && decide (i = j)) :=
    BitVec.getLsbD_twoPow
  unfold piSet NodeIds.bit
  split_ifs with hn hm hm <;>
    simp only [BitVec.getLsbD_or, hone, Fin.ext_iff] <;> grind

theorem truncated_bit (w : BitVec 64) (k : Fin 64) :
    ((w &&& 1#64 <<< k.val).setWidth 32 != 0) = (decide (k.val < 32) && w.getLsbD k) := by
  have hcut : ∀ k : Fin 64, ((BitVec.twoPow 64 k).setWidth 32 != 0) = decide (k.val < 32) := by
    decide
  rw [← BitVec.twoPow_eq, BitVec.and_twoPow]
  split_ifs with hbit
  · rw [hcut, hbit, Bool.and_true]
  · rw [Bool.not_eq_true] at hbit
    rw [hbit, Bool.and_false]
    rfl

theorem isPiSet_eq (s : NodeIds) (m : Fin 128) :
    isPiSet s m = (decide (m.val % 64 < 32) && s.bit m) := by
  unfold isPiSet NodeIds.bit
  split_ifs with hm
  · rw [truncated_bit s.low ⟨m, hm⟩, Nat.mod_eq_of_lt hm]
  · rw [truncated_bit s.high ⟨m - 64, by omega⟩, show m.val % 64 = m.val - 64 by omega]

theorem bit_run (calls : List PiCall) : ∀ (s : NodeIds) (sent : Finset (Fin 128)),
    (∀ m, s.bit m = decide (m ∈ sent)) →
      ∀ m, (calls.foldl piStep s).bit m = decide (m ∈ calls.foldl sentStep sent) := by
  induction calls with
  | nil => exact fun _ _ h => h
  | cons call calls ih =>
    intro s sent h
    refine ih _ _ fun m => ?_
    cases call with
    | init => simp [piStep, sentStep, initPiSet, NodeIds.bit]
    | set n => simp [piStep, sentStep, bit_piSet, h m, Bool.or_comm]

/-- **`is_pi_set` answers for the nodes that have been set** if and only if the bit of each is in
the low half of its word, which is what fits into an `int`. -/
theorem node_bitmap_iff (calls : List PiCall) :
    (∀ m, isPiSet (calls.foldl piStep initPiSet) m = true ↔ m ∈ calls.foldl sentStep ∅) ↔
      ∀ m ∈ calls.foldl sentStep ∅, m.val % 64 < 32 := by
  have hbit := bit_run calls initPiSet ∅ (by simp [initPiSet, NodeIds.bit])
  simp only [isPiSet_eq, hbit, Bool.and_eq_true, decide_eq_true_eq]
  exact forall_congr' fun m => by tauto

/-- A statement for node 32 is reported for no node. -/
theorem node_32_not_reported : (32 : Fin 128) ∈ [PiCall.set 32].foldl sentStep ∅ ∧
      ∀ m, isPiSet ([PiCall.set 32].foldl piStep initPiSet) m = false := by
  decide +kernel

end PgBalancer.Protocol
