import PgBalancer.Watchdog.NodeFunction

/-!
# What the watchdog decodes

The body of a message between watchdog nodes is a JSON text, which one of four decoders takes apart.
A decoder is modelled by whether it returns a structure, by the counts it leaves in that structure,
and by the indices at which it has written on the way, also when it gives up.

* `decoders_bounded` — **`get_pool_config_from_json` stays inside of its two arrays if and only if
  neither list of the text is too long for one of them, and `parse_wd_node_function_json` writes
  into its own array if and only if at most one backend is named**; the other two decoders always
  do.
-/

namespace PgBalancer.Watchdog.Decoders

open Json NodeFunction

/-- `MAX_NUM_BACKENDS` -/
def maxNumBackends : ℕ := 128
/-- `MAX_WATCHDOG_NUM` -/
def maxWatchdogNum : ℕ := 128

/-- What a decoder does to the arrays of the structure it fills in. -/
structure Decoded where
  /-- the structure is returned, and not NULL -/
  accepted : Bool
  /-- a count of the structure, and the length of the array that it is about -/
  counts : List (ℕ × ℕ)
  /-- an index that was written, and the length of that array -/
  writes : List (ℕ × ℕ)

/-- The text is rejected or the counts are those of the arrays, and nothing else is written. -/
structure Decoded.Bounded (d : Decoded) : Prop where
  counts : d.accepted = true → ∀ count ∈ d.counts, count.1 ≤ count.2
  writes : ∀ write ∈ d.writes, write.1 < write.2

/-- NULL is returned, and nothing was written. -/
def Decoded.rejected : Decoded := ⟨false, [], []⟩

theorem Decoded.rejected_bounded : Decoded.rejected.Bounded := ⟨nofun, nofun⟩

/-! ## The decoders -/

/-- Booleans of older versions are integers. -/
def jsonGetBoolValueForKey (source : Value) (key : Bytes) : Option Bool :=
  match jsonGetValueForKey source key with
  | some (.integer n) => some (n ≠ 0)
  | some (.boolean b) => some b
  | _ => none

/-- A field that has to be there. -/
inductive Field where
  | int (key : String)
  | bool (key : String)
  | string (key : String)

/-- The function for the type of the field returns 0, or a string. -/
def Field.found (source : Value) : Field → Bool
  | .int key => (jsonGetIntValueForKey source (ascii key)).isSome
  | .bool key => (jsonGetBoolValueForKey source (ascii key)).isSome
  | .string key => (jsonGetStringValueForKey source (ascii key)).isSome

/-- The list under a key, if there is one. -/
def arrayForKey (source : Value) (key : Bytes) : Option (List Value) :=
  match jsonGetValueForKey source key with
  | some (.array values) => some values
  | _ => none

/-- The root of a text, which must be an object. -/
def rootOf (text : Bytes) : Option Value :=
  match jsonParse text with
  | some (.object entries) => some (.object entries)
  | _ => none

/-- The single fields of a configuration, in the order in which they are looked for. -/
def configFields : List Field :=
  [.int "listen_backlog_multiplier", .int "child_life_time", .int "connection_life_time",
    .int "child_max_connections", .int "client_idle_limit", .int "max_pool",
    .int "num_init_children", .int "min_spare_children", .int "max_spare_children",
    .int "process_management_mode", .int "process_management_strategy", .bool "replication_mode",
    .bool "enable_pool_hba", .bool "load_balance_mode", .string "load_balance_mode_algo",
    .bool "replication_stop_on_mismatch", .bool "allow_clear_text_frontend_auth",
    .bool "failover_if_affected_tuples_mismatch", .bool "replicate_select",
    .bool "connection_cache", .int "health_check_timeout", .int "health_check_period",
    .int "health_check_max_retries", .int "health_check_retry_delay",
    .bool "failover_on_backend_error", .int "recovery_timeout",
    .int "search_primary_node_timeout", .int "client_idle_limit_in_recovery", .bool "insert_lock",
    .bool "memory_cache_enabled", .bool "use_watchdog", .bool "clear_memqcache_on_escalation",
    .int "wd_priority", .int "pgbalancer_node_id", .bool "failover_when_quorum_exists",
    .bool "failover_require_consensus", .bool "allow_multiple_failover_requests_from_node"]

/-- The fields of an entry of a list: the first one is written before the others are looked for. -/
structure EntryFields where
  first : Field
  rest : List Field

/-- An entry of `backend_desc`. -/
def backendFields : EntryFields := ⟨.int "backend_port", [.string "backend_hostname"]⟩

/-- An entry of `wd_nodes`. -/
def wdNodeFields : EntryFields := ⟨.int "wd_port", [.int "pgpool_port", .string "hostname"]⟩

/-- All fields of an entry are there. -/
def EntryFields.complete (fields : EntryFields) (entry : Value) : Bool :=
  fields.first.found entry && fields.rest.all (·.found entry)

/-- A loop over the entries of a list, from the index `i` on: the indices it writes, and whether it
gets to the end. -/
def EntryFields.fill (fields : EntryFields) (i : ℕ) : List Value → List ℕ × Bool
  | [] => ([], true)
  | entry :: entries =>
    if fields.complete entry then
      (i :: (fields.fill (i + 1) entries).1, (fields.fill (i + 1) entries).2)
    else if fields.first.found entry then ([i], false)
    else ([], false)

/-- The health check parameters go to an array that is as long as the list of backends. -/
def healthCheckWrites (root : Value) (numBackends : ℕ) : List (ℕ × ℕ) :=
  match arrayForKey root (ascii "health_check_params") with
  | some params => (List.range (min params.length numBackends)).map (·, numBackends)
  | none => []

/-- The list of watchdog nodes, after `numBackends` backends with what was `written` for them. -/
def decodeWdNodes (root : Value) (numBackends : ℕ) (written : List (ℕ × ℕ)) : Decoded :=
  match arrayForKey root (ascii "wd_nodes") with
  | none => ⟨false, [], written⟩
  | some nodes =>
    let filled := wdNodeFields.fill 0 nodes
    ⟨filled.2, [(numBackends, maxNumBackends), (nodes.length, maxWatchdogNum)],
      written ++ filled.1.map (·, maxWatchdogNum)⟩

/-- The list of backends, and what follows it. -/
def decodeBackends (root : Value) : Decoded :=
  match arrayForKey root (ascii "backend_desc") with
  | none => .rejected
  | some backends =>
    let filled := backendFields.fill 0 backends
    let written := filled.1.map (·, maxNumBackends)
    if filled.2 then
      decodeWdNodes root backends.length (written ++ healthCheckWrites root backends.length)
    else ⟨false, [], written⟩

/-- NULL is returned at the first field that is missing. -/
def getPoolConfigFromJson (text : Bytes) : Decoded :=
  match rootOf text with
  | none => .rejected
  | some root => if configFields.all (·.found root) then decodeBackends root else .rejected

/-- Without a `PrimaryNodeId` an error is raised. -/
def getPgBackendNodeStatusFromJson (text : Bytes) : Decoded :=
  match (rootOf text).bind fun root => (arrayForKey root (ascii "BackendNodeStatusList")).map
      fun values => (root, values) with
  | none => .rejected
  | some (root, values) =>
    if values.length ≤ 0 ∨ values.length > maxNumBackends then .rejected
    else ⟨(Field.int "PrimaryNodeId").found root, [(values.length, maxNumBackends)],
      (List.range values.length).map (·, maxNumBackends)⟩

/-- The fields of newer versions, which have no `StartupTimeSecs`. -/
def startupFields : List Field :=
  [.int "SecondsSinceStartup", .int "SecondsSinceCurrentState", .bool "Escalated",
    .int "QuorumStatus", .int "AliveNodeCount"]

/-- The fields of all versions. -/
def nodeFields : List Field :=
  [.int "State", .int "WdPort", .int "PgpoolPort", .int "WdPriority", .int "PgpoolNodeId",
    .string "NodeName", .string "HostName", .string "VIP"]

/-- A node has no arrays but strings, which are cut. -/
def getWatchdogNodeFromJson (text : Bytes) : Decoded :=
  match rootOf text with
  | none => .rejected
  | some root =>
    ⟨((Field.int "StartupTimeSecs").found root || startupFields.all (·.found root)) &&
      nodeFields.all (·.found root), [], []⟩

/-- `parse_wd_node_function_json` writes nothing but its own array, whatever the caller's memory
holds, and returns false or a count that is no larger than that of the backends. -/
def NodeFunctionBounded (unionInt : Value → ℤ) (text : Bytes) : Prop :=
  ∀ flags mem, ∃ found out mem',
    parseWdNodeFunctionJson unionInt text flags mem = some (found, out, mem') ∧
      (found = true → out.count.toInt ≤ maxNumBackends) ∧
      ∀ a < mem.top, mem'.ints a = mem.ints a

/-! ## The loops -/

/-- The entries up to the index `n` are there, and the one at `n` is begun. -/
def EntryFields.Reaches (fields : EntryFields) (n : ℕ) (entries : List Value) : Prop :=
  (∀ entry ∈ entries.take n, fields.complete entry = true) ∧
    ∃ entry, entries[n]? = some entry ∧ fields.first.found entry = true

section Loops

variable (fields : EntryFields)

/-- The loop stays below `i + n` if and only if it does not reach the entry at `n`. -/
theorem fill_bounded_iff (entries : List Value) (i n : ℕ) :
    (∀ j ∈ (fields.fill i entries).1, j < i + n) ↔ ¬ fields.Reaches n entries := by
  induction entries generalizing i n with
  | nil => simp [EntryFields.fill, EntryFields.Reaches]
  | cons entry entries ih =>
    have hfirst : fields.complete entry = true → fields.first.found entry = true :=
      fun h => (Bool.and_eq_true_iff.1 h).1
    cases n with
    | zero =>
      unfold EntryFields.fill
      split_ifs with hcomplete hbegun
      · simp [EntryFields.Reaches, hfirst hcomplete]
      · simp [EntryFields.Reaches, hbegun]
      · simp [EntryFields.Reaches, hbegun]
    | succ n =>
      unfold EntryFields.fill
      split_ifs with hcomplete hbegun
      · have hrest := ih (i + 1) n
        rw [show i + 1 + n = i + (n + 1) by omega] at hrest
        rw [List.forall_mem_cons, hrest]
        simp [EntryFields.Reaches, hcomplete]
      · simp [EntryFields.Reaches, hcomplete]
      · simp [EntryFields.Reaches, hcomplete]

/-- The loop gets to the end if and only if every entry is complete. -/
theorem fill_complete_iff (entries : List Value) (i : ℕ) :
    (fields.fill i entries).2 = true ↔ ∀ entry ∈ entries, fields.complete entry = true := by
  induction entries generalizing i with
  | nil => simp [EntryFields.fill]
  | cons entry entries ih =>
    unfold EntryFields.fill
    split_ifs with hcomplete hbegun
    · simp [ih, hcomplete]
    · simp [hcomplete]
    · simp [hcomplete]

theorem fill_writes_iff (entries : List Value) (n : ℕ) :
    (∀ write ∈ (fields.fill 0 entries).1.map (·, n), write.1 < write.2) ↔
      ¬ fields.Reaches n entries := by
  have h := fill_bounded_iff fields entries 0 n
  rw [Nat.zero_add] at h
  rw [← h]
  simp

variable {fields}

/-- A list that the loop gets through without reaching `n` is no longer than `n`. -/
theorem length_le_of_complete {entries : List Value} {n : ℕ}
    (hcomplete : ∀ entry ∈ entries, fields.complete entry = true)
    (hreach : ¬ fields.Reaches n entries) : entries.length ≤ n := by
  by_contra hlen
  push Not at hlen
  refine hreach ⟨fun entry h => hcomplete entry (List.mem_of_mem_take h), entries[n],
    List.getElem?_eq_getElem hlen, ?_⟩
  exact (Bool.and_eq_true_iff.1 (hcomplete _ (List.getElem_mem hlen))).1

end Loops

theorem healthCheckWrites_bounded (root : Value) (numBackends : ℕ) :
    ∀ write ∈ healthCheckWrites root numBackends, write.1 < write.2 := by
  unfold healthCheckWrites
  split
  · intro write hwrite
    obtain ⟨i, hi, rfl⟩ := List.mem_map.1 hwrite
    exact lt_of_lt_of_le (List.mem_range.1 hi) (min_le_right _ _)
  · exact nofun

/-! ## The pool configuration -/

/-- Neither list reaches the end of its array: that of the watchdog nodes is looked at when that of
the backends is complete. -/
def ListsFit (root : Value) : Prop :=
  ∀ backends, arrayForKey root (ascii "backend_desc") = some backends →
    ¬ backendFields.Reaches maxNumBackends backends ∧
    ((∀ backend ∈ backends, backendFields.complete backend = true) →
      ∀ nodes, arrayForKey root (ascii "wd_nodes") = some nodes →
        ¬ wdNodeFields.Reaches maxWatchdogNum nodes)

/-- No list that the decoder gets to reaches the end of its array. -/
def PoolConfigFits (text : Bytes) : Prop :=
  ∀ root, rootOf text = some root → configFields.all (·.found root) = true → ListsFit root

/-- The loop over the watchdog nodes stays inside of its array. -/
theorem decodeWdNodes_bounded_iff (root : Value) {numBackends : ℕ} {written : List (ℕ × ℕ)}
    (hcount : (∀ write ∈ written, write.1 < write.2) → numBackends ≤ maxNumBackends) :
    (decodeWdNodes root numBackends written).Bounded ↔
      (∀ write ∈ written, write.1 < write.2) ∧
        ∀ nodes, arrayForKey root (ascii "wd_nodes") = some nodes →
          ¬ wdNodeFields.Reaches maxWatchdogNum nodes := by
  unfold decodeWdNodes
  cases arrayForKey root (ascii "wd_nodes") with
  | none => exact ⟨fun h => ⟨h.writes, fun _ => nofun⟩, fun h => ⟨nofun, h.1⟩⟩
  | some nodes =>
    have hwrites := fill_writes_iff wdNodeFields nodes maxWatchdogNum
    simp only [Option.some.injEq, forall_eq']
    constructor
    · intro h
      have happend := List.forall_mem_append.1 h.writes
      exact ⟨happend.1, hwrites.1 happend.2⟩
    · rintro ⟨hwritten, hreach⟩
      refine ⟨fun haccepted count hmem => ?_,
        List.forall_mem_append.2 ⟨hwritten, hwrites.2 hreach⟩⟩
      have hcomplete := (fill_complete_iff wdNodeFields nodes 0).1 haccepted
      rcases List.mem_cons.1 hmem with rfl | hmem
      · exact hcount hwritten
      · obtain rfl := List.mem_singleton.1 hmem
        exact length_le_of_complete hcomplete hreach

/-- Both loops stay inside of their arrays. -/
theorem decodeBackends_bounded_iff (root : Value) :
    (decodeBackends root).Bounded ↔ ListsFit root := by
  unfold decodeBackends ListsFit
  cases arrayForKey root (ascii "backend_desc") with
  | none => exact ⟨fun _ _ => nofun, fun _ => Decoded.rejected_bounded⟩
  | some backends =>
    have hwrites := fill_writes_iff backendFields backends maxNumBackends
    have hend := fill_complete_iff backendFields backends 0
    simp only [Option.some.injEq, forall_eq']
    split_ifs with hfilled
    · have hcomplete := hend.1 hfilled
      rw [decodeWdNodes_bounded_iff root, List.forall_mem_append, hwrites]
      · exact ⟨fun h => ⟨h.1.1, fun _ => h.2⟩,
          fun h => ⟨⟨h.1, healthCheckWrites_bounded root _⟩, h.2 hcomplete⟩⟩
      · intro h
        exact length_le_of_complete hcomplete (hwrites.1 (List.forall_mem_append.1 h).1)
    · have hincomplete := mt hend.2 hfilled
      exact ⟨fun h => ⟨hwrites.1 h.writes, fun hc => absurd hc hincomplete⟩,
        fun h => ⟨nofun, hwrites.2 h.1⟩⟩

theorem getPoolConfigFromJson_bounded_iff (text : Bytes) :
    (getPoolConfigFromJson text).Bounded ↔ PoolConfigFits text := by
  unfold getPoolConfigFromJson PoolConfigFits
  cases rootOf text with
  | none => exact ⟨fun _ _ => nofun, fun _ => Decoded.rejected_bounded⟩
  | some root =>
    simp only [Option.some.injEq, forall_eq']
    split_ifs with hfields
    · rw [decodeBackends_bounded_iff]
      exact ⟨fun h _ => h, fun h => h hfields⟩
    · exact ⟨fun _ h => absurd h hfields, fun _ => Decoded.rejected_bounded⟩

/-! ## The other decoders -/

theorem getPgBackendNodeStatusFromJson_bounded (text : Bytes) :
    (getPgBackendNodeStatusFromJson text).Bounded := by
  unfold getPgBackendNodeStatusFromJson
  split
  · exact Decoded.rejected_bounded
  · split_ifs with hlen
    · exact Decoded.rejected_bounded
    · push Not at hlen
      refine ⟨fun _ count hcount => ?_, fun write hwrite => ?_⟩
      · obtain rfl := List.mem_singleton.1 hcount
        exact hlen.2
      · obtain ⟨i, hi, rfl⟩ := List.mem_map.1 hwrite
        exact lt_of_lt_of_le (List.mem_range.1 hi) hlen.2

theorem getWatchdogNodeFromJson_bounded (text : Bytes) :
    (getWatchdogNodeFromJson text).Bounded := by
  unfold getWatchdogNodeFromJson
  split
  · exact Decoded.rejected_bounded
  · exact ⟨fun _ => nofun, nofun⟩

/-- A function that names more than one backend, with as many ids. -/
def NamesSeveral (root : Value) : Prop :=
  (jsonGetStringValueForKey root functionName.bytes).isSome = true ∧
    ∃ count values, jsonGetIntValueForKey root nodeCountName.bytes = some count ∧
      arrayForKey root nodeIdListName.bytes = some values ∧
      count.toInt = values.length ∧ 1 < values.length

section Function

variable (unionInt : Value → ℤ)

theorem parseNodeIds_eq (root : Value) (out : Out) (count : Int32) (mem : Memory) :
    parseNodeIds unionInt root out count mem =
      match arrayForKey root nodeIdListName.bytes with
      | none => some (false, out, mem)
      | some values =>
        if count.toInt ≠ values.length then some (false, out, mem)
        else (fillIds unionInt (mem.palloc values.length) 0 values).map
          fun mem => (true, out, mem) := by
  unfold parseNodeIds arrayForKey
  cases jsonGetValueForKey root nodeIdListName.bytes with
  | none => rfl
  | some value => cases value <;> rfl

/-- One id is written into the new array. -/
theorem fillIds_single (mem : Memory) (value : Value) :
    ∃ mem', fillIds unionInt (mem.palloc 1) 0 [value] = some mem' ∧
      ∀ a < mem.top, mem'.ints a = mem.ints a := by
  obtain ⟨mem', hstore, -, hints⟩ : ∃ mem', (mem.palloc 1).store 0
      (Int32.ofInt (integerOf unionInt value)) = some mem' ∧ _ := store_first Nat.one_pos _
  refine ⟨mem', by simp only [fillIds, hstore, Option.bind_some], fun a ha => ?_⟩
  have hout : ¬ (mem.top ≤ a ∧ a < mem.top + 1) := by omega
  rw [hints, Function.update_of_ne ha.ne, Memory.palloc]
  exact if_neg hout

/-- With at most one id, nothing is written but the new array. -/
theorem parseArguments_bounded {root : Value} (funcName : Bytes) (mem : Memory)
    (hfew : ∀ count values, jsonGetIntValueForKey root nodeCountName.bytes = some count →
      arrayForKey root nodeIdListName.bytes = some values → count.toInt = values.length →
      values.length ≤ 1) :
    ∃ found out mem', parseArguments unionInt root funcName mem = some (found, out, mem') ∧
      (found = true → out.count.toInt ≤ maxNumBackends) ∧
      ∀ a < mem.top, mem'.ints a = mem.ints a := by
  unfold parseArguments
  dsimp only
  split
  · exact ⟨_, _, _, rfl, fun _ => (by decide : (0 : ℤ) ≤ 128), fun _ _ => rfl⟩
  case h_2 count hcount =>
    split_ifs with hpos
    · exact ⟨_, _, _, rfl, fun _ => (by decide : (0 : ℤ) ≤ 128), fun _ _ => rfl⟩
    · rw [parseNodeIds_eq]
      split
      · exact ⟨_, _, _, rfl, nofun, fun _ _ => rfl⟩
      case h_2 values hvalues =>
        split_ifs with hlen
        · exact ⟨_, _, _, rfl, nofun, fun _ _ => rfl⟩
        · push Not at hlen
          have hle := hfew count values hcount hvalues hlen
          obtain ⟨value, rfl⟩ := List.length_eq_one_iff.1 (by omega : values.length = 1)
          obtain ⟨mem', hfill, hints⟩ := fillIds_single unionInt mem value
          refine ⟨true, _, mem', by rw [List.length_singleton, hfill]; rfl, fun _ => ?_, hints⟩
          change count.toInt ≤ 128
          rw [hlen, List.length_singleton]
          decide

/-- The second id is written through the word behind the caller's pointer. -/
theorem parseArguments_crashes {root : Value} (funcName : Bytes) {mem : Memory}
    (hword : mem.words 1 = none) {count : Int32} {values : List Value}
    (hcount : jsonGetIntValueForKey root nodeCountName.bytes = some count)
    (hvalues : arrayForKey root nodeIdListName.bytes = some values)
    (hlen : count.toInt = values.length) (hmany : 1 < values.length) :
    parseArguments unionInt root funcName mem = none := by
  unfold parseArguments
  dsimp only
  rw [hcount]
  dsimp only
  rw [if_neg (by omega), parseNodeIds_eq, hvalues]
  dsimp only
  rw [if_neg (not_not.2 hlen)]
  match values, hmany with
  | first :: second :: rest, hmany =>
    rw [fillIds_second unionInt mem (Nat.zero_lt_of_lt hmany) hword]
    rfl

/-- The decoder of node functions writes inside its buffer for one id at most. -/
theorem nodeFunctionBounded_iff (text : Bytes) :
    NodeFunctionBounded unionInt text ↔ ∀ root, rootOf text = some root → ¬ NamesSeveral root := by
  unfold NodeFunctionBounded parseWdNodeFunctionJson rootOf
  match jsonParse text with
  | some (.object entries) =>
    simp only [Option.some.injEq, forall_eq']
    cases hfunction : jsonGetStringValueForKey (.object entries) functionName.bytes with
    | none =>
      refine ⟨fun _ h => ?_, fun _ flags mem => ⟨_, _, _, rfl, nofun, fun _ _ => rfl⟩⟩
      have := h.1
      rw [hfunction] at this
      cases this
    | some ptr =>
      constructor
      · rintro h ⟨-, count, values, hcount, hvalues, hlen, hmany⟩
        obtain ⟨found, out, mem', hparse, -⟩ := h 0 blank
        have hcrash : none = some (found, out, mem') :=
          (parseArguments_crashes unionInt (cstring ptr) rfl hcount hvalues hlen hmany).symm.trans
            hparse
        cases hcrash
      · intro hfew flags mem
        refine parseArguments_bounded unionInt (cstring ptr) (mem.setNodeIdSet none) ?_
        intro count values hcount hvalues hlen
        by_contra hmany
        exact hfew ⟨by rw [hfunction]; rfl, count, values, hcount, hvalues, hlen, not_le.1 hmany⟩
  | none | some .null | some (.boolean _) | some (.integer _) | some (.double ..)
  | some (.string _) | some (.array _) =>
    exact ⟨fun _ => nofun, fun _ flags mem => ⟨_, _, _, rfl, nofun, fun _ _ => rfl⟩⟩

end Function

/-! ## All four -/

/-- **When the decoders stay within their arrays**: the one for the configuration if and only if no
list reaches the end of its array, the one for functions if and only if at most one backend is
named, and the other two always. -/
theorem decoders_bounded (unionInt : Value → ℤ) (text : Bytes) :
    ((getPoolConfigFromJson text).Bounded ↔ PoolConfigFits text) ∧
      (getPgBackendNodeStatusFromJson text).Bounded ∧
      (getWatchdogNodeFromJson text).Bounded ∧
      (NodeFunctionBounded unionInt text ↔
        ∀ root, rootOf text = some root → ¬ NamesSeveral root) :=
  ⟨getPoolConfigFromJson_bounded_iff text, getPgBackendNodeStatusFromJson_bounded text,
    getWatchdogNodeFromJson_bounded text, nodeFunctionBounded_iff unionInt text⟩

/-- A request to degenerate the backends 1 and 2 is written through a word of the caller that is no
pointer. -/
theorem two_ids_unbounded :
    ¬ NodeFunctionBounded (fun _ => 0) (degenerate [1, 2]).text := by
  intro h
  obtain ⟨found, out, mem', hparse, -⟩ := h 0 blank
  rw [parse_request (by decide +kernel)] at hparse
  cases hparse

end PgBalancer.Watchdog.Decoders
