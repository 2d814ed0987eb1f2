import PgBalancer.Json.Parser

/-!
# Failover requests between watchdog nodes

A request for a failover is sent as a JSON object: the name of the function, the flags and the ids
of the backends.  The receiver is given the address of a pointer of its caller, which it lets point
to a new array of the ids.

The memory is modelled as far as the receiver writes it: the pointers that lie behind the caller's
one, and the integers they may point to.

* `request_survives_iff` — **the receiver finds the request that was sent, and writes nothing else,
  if and only if it names at most one backend**.
-/

namespace PgBalancer.Watchdog.NodeFunction

open Json Numeral List Function

/-! ## The sender -/

/-- The arguments of `get_wd_node_function_json` -/
structure Request where
  funcName : CString
  nodeIdSet : List Int32
  flags : UInt8
  sharedKey : UInt32
  authKey : Option CString

/-- The names of the entries. -/
def sharedKeyName : CString := ⟨ascii "IPCSharedKey", by decide⟩
def authKeyName : CString := ⟨ascii "IPCAuthKey", by decide⟩
def functionName : CString := ⟨ascii "Function", by decide⟩
def flagsName : CString := ⟨ascii "Flags", by decide⟩
def nodeCountName : CString := ⟨ascii "NodeCount", by decide⟩
def nodeIdListName : CString := ⟨ascii "NodeIdList", by decide⟩

/-- `MaxAllocSize`: a buffer that would become as long raises an error. -/
def maxAllocSize : ℕ := 0x3fffffff

/-- The auth key is put if there is one. -/
def putAuthKey (node : JsonNode) : Option CString → JsonNode
  | none => node
  | some authKey =>
    if authKey.bytes.length > 0 then
      (jwPutString node (some authKeyName) (some authKey)).2 else node

/-- The loop over the ids -/
def putNodeIdList (node : JsonNode) (nodeIdSet : List Int32) : JsonNode :=
  if nodeIdSet.length > 0 then
    (jwEndElement (nodeIdSet.foldl (fun node id => (jwPutIntValue node id).2)
      (jwStartArray node (some nodeIdListName)).2)).2
  else node

/-- `get_wd_node_function_json` -/
def getWdNodeFunctionJson (r : Request) : Option Bytes :=
  let node := (jwPutInt jwCreateWithObject (some sharedKeyName) r.sharedKey.toInt32).2
  let node := putAuthKey node r.authKey
  let node := (jwPutString node (some functionName) (some r.funcName)).2
  let node := (jwPutInt node (some flagsName) (Int32.ofNat r.flags.toNat)).2
  let node := (jwPutInt node (some nodeCountName) (Int32.ofNat r.nodeIdSet.length)).2
  let node := putNodeIdList node r.nodeIdSet
  let text := (jwFinishDocument node).buf
  if text.length < maxAllocSize then some text else none

/-! ## The receiver -/

/-- The memory that the receiver can write. -/
structure Memory where
  /-- the words from the caller's `node_id_set` on, as pointers; `none` is no valid pointer -/
  words : ℕ → Option ℕ
  /-- the integers, at the addresses in use -/
  ints : ℕ → Option Int32
  /-- the first address of the memory that is not in use -/
  top : ℕ
  unused : ∀ a, top ≤ a → ints a = none

/-- `*node_id_set = p` -/
def Memory.setNodeIdSet (mem : Memory) (p : Option ℕ) : Memory :=
  { mem with words := Function.update mem.words 0 p }

/-- `*node_id_set = palloc(sizeof(int) * count)` -/
def Memory.palloc (mem : Memory) (count : ℕ) : Memory where
  words := Function.update mem.words 0 (some mem.top)
  ints a := if mem.top ≤ a ∧ a < mem.top + count then some 0 else mem.ints a
  top := mem.top + count
  unused a ha := by
    rw [if_neg (by omega)]
    exact mem.unused a (by omega)

theorem Memory.setNodeIdSet_palloc (mem : Memory) (p : Option ℕ) (count : ℕ) :
    (mem.setNodeIdSet p).palloc count = mem.palloc count := by
  simp only [Memory.palloc, Memory.setNodeIdSet, update_idem]
  rfl

/-- `*node_id_set[i] = value`, which is `*(node_id_set[i]) = value` -/
def Memory.store (mem : Memory) (i : ℕ) (value : Int32) : Option Memory :=
  match mem.words i with
  | none => none
  | some a =>
    if h : (mem.ints a).isSome then
      some { mem with
        ints := Function.update mem.ints a (some value)
        unused := by
          intro b hb
          have hne : b ≠ a := by
            rintro rfl
            simp [mem.unused b hb] at h
          rw [update_of_ne hne]
          exact mem.unused b hb }
    else none

/-- What the receiver leaves in the other variables of its caller. -/
structure Out where
  funcName : Option Bytes
  count : Int32
  flags : UInt8
  deriving DecidableEq

variable {mem : Memory} {a i n : ℕ}

variable {value : Int32}

theorem Memory.store_of_word (hword : mem.words i = some a) (hcell : (mem.ints a).isSome) :
    ∃ mem', mem.store i value = some mem' ∧ mem'.words = mem.words ∧
      mem'.ints = Function.update mem.ints a (some value) := by
  unfold Memory.store
  rw [hword]
  dsimp only
  rw [dif_pos hcell]
  exact ⟨_, rfl, rfl, rfl⟩

theorem Memory.store_of_invalid (hword : mem.words i = none) : mem.store i value = none := by
  unfold Memory.store
  rw [hword]

section Receiver

-- the bytes of a value of another type, read as an integer
variable (unionInt : Value → ℤ)

/-- `value->u.integer` -/
def integerOf : Value → ℤ
  | .integer n => n
  | value => unionInt value

/-- The loop that fills in the ids -/
def fillIds (mem : Memory) (i : ℕ) : List Value → Option Memory
  | [] => some mem
  | value :: values =>
    (mem.store i (Int32.ofInt (integerOf unionInt value))).bind fun mem =>
      fillIds mem (i + 1) values

/-- The ids, if there is a list of them. -/
def parseNodeIds (root : Value) (out : Out) (nodeCount : Int32) (mem : Memory) :
    Option (Bool × Out × Memory) :=
  match jsonGetValueForKey root nodeIdListName.bytes with
  | some (.array values) =>
    if nodeCount.toInt ≠ values.length then some (false, out, mem)
    else (fillIds unionInt (mem.palloc values.length) 0 values).map fun mem => (true, out, mem)
  | _ => some (false, out, mem)

/-- The flags, the count and the ids of a request with a function. -/
def parseArguments (root : Value) (funcName : Bytes) (mem : Memory) :
    Option (Bool × Out × Memory) :=
  let flags := match jsonGetIntValueForKey root flagsName.bytes with
    | none => 0
    | some flags => UInt8.ofInt flags.toInt
  match jsonGetIntValueForKey root nodeCountName.bytes with
  | none => some (true, ⟨some funcName, 0, flags⟩, mem)
  | some nodeCount =>
    if nodeCount.toInt ≤ 0 then some (true, ⟨some funcName, 0, flags⟩, mem)
    else parseNodeIds unionInt root ⟨some funcName, nodeCount, flags⟩ nodeCount mem

/-- `parse_wd_node_function_json`; there is no result if it writes through an invalid pointer.
`flags` is what the caller's variable holds before. -/
def parseWdNodeFunctionJson (text : Bytes) (flags : UInt8) (mem : Memory) :
    Option (Bool × Out × Memory) :=
  let mem := mem.setNodeIdSet none
  match jsonParse text with
  | some (.object entries) =>
    match jsonGetStringValueForKey (.object entries) functionName.bytes with
    | none => some (false, ⟨none, 0, flags⟩, mem)
    | some ptr => parseArguments unionInt (.object entries) (cstring ptr) mem
  | _ => some (false, ⟨none, 0, flags⟩, mem)

end Receiver

/-! ## The text -/

/-- The auth key that is sent. -/
def Request.authEntries (r : Request) : List Entry :=
  match r.authKey with
  | none => []
  | some authKey =>
    if authKey.bytes.length > 0 then
      [⟨authKeyName, jwPutStringEscape authKey, .string authKey.bytes⟩]
    else []

/-- The list of ids that is sent. -/
def Request.idEntries (r : Request) : List Entry :=
  if r.nodeIdSet.length > 0 then
    [⟨nodeIdListName,
      32 :: 91 :: (commaSeparated (r.nodeIdSet.map fun id => formatInt id.toInt) ++ [93]),
      .array (r.nodeIdSet.map fun id => .integer id.toInt)⟩]
  else []

/-- An entry with a number. -/
def intEntry (key : CString) (value : Int32) : Entry :=
  ⟨key, formatInt value.toInt, .integer value.toInt⟩

/-- The entries that the receiver looks for. -/
def Request.arguments (r : Request) : List Entry :=
  ⟨functionName, jwPutStringEscape r.funcName, .string r.funcName.bytes⟩ ::
    intEntry flagsName (Int32.ofNat r.flags.toNat) ::
    intEntry nodeCountName (Int32.ofNat r.nodeIdSet.length) :: r.idEntries

/-- The entries of a request. -/
def Request.entries (r : Request) : List Entry :=
  intEntry sharedKeyName r.sharedKey.toInt32 :: (r.authEntries ++ r.arguments)

open Request (idEntries arguments entries authEntries)

/-- The object that is sent. -/
def Request.root (r : Request) : Value := .object (r.entries.map Entry.pair)

/-- The text of a request. -/
def Request.text (r : Request) : Bytes :=
  123 :: (commaSeparated (r.entries.map Entry.render) ++ [125])

/-- A writer that holds the entries of an object. -/
def objectNode (entries : List Entry) : JsonNode :=
  .holding [123] .object (entries.map Entry.render) []

variable {key : CString}

variable {entries : List Entry}

theorem jwPutInt_objectNode (hkey : quoted key = jwPutStringEscape key) :
    (jwPutInt (objectNode entries) (some key) value).2 =
      objectNode (entries ++ [intEntry key value]) := by
  rw [jwPutInt, putKeyed, objectNode, putText_holding, hkey]
  simp [objectNode, Entry.render, intEntry]

theorem jwPutString_objectNode (value : CString) :
    (jwPutString (objectNode entries) (some key) (some value)).2 =
      objectNode (entries ++ [⟨key, jwPutStringEscape value, .string value.bytes⟩]) := by
  rw [jwPutString, objectNode, putText_holding]
  simp [objectNode, Entry.render]

theorem putAuthKey_objectNode (r : Request) :
    putAuthKey (objectNode entries) r.authKey = objectNode (entries ++ r.authEntries) := by
  unfold putAuthKey authEntries
  cases r.authKey with
  | none => simp
  | some authKey =>
    dsimp only
    split_ifs
    · exact jwPutString_objectNode authKey
    · simp

theorem putNodeIdList_objectNode (r : Request) :
    putNodeIdList (objectNode entries) r.nodeIdSet = objectNode (entries ++ r.idEntries) := by
  unfold putNodeIdList idEntries
  split_ifs
  · rw [objectNode, int_array_holding _ _ _ _ _ (by decide),
      show quoted nodeIdListName = jwPutStringEscape nodeIdListName by decide]
    simp [objectNode, Entry.render]
  · simp

theorem getWdNodeFunctionJson_eq (r : Request) :
    getWdNodeFunctionJson r = if r.text.length < maxAllocSize then some r.text else none := by
  have hcreate : jwCreateWithObject = objectNode [] := rfl
  have hfinish : ∀ entries, (jwFinishDocument (objectNode entries)).buf =
      123 :: (commaSeparated (entries.map Entry.render) ++ [125]) := fun _ => rfl
  have hentries : [intEntry sharedKeyName r.sharedKey.toInt32] ++ r.authEntries ++
      [⟨functionName, jwPutStringEscape r.funcName, .string r.funcName.bytes⟩] ++
      [intEntry flagsName (Int32.ofNat r.flags.toNat)] ++
      [intEntry nodeCountName (Int32.ofNat r.nodeIdSet.length)] ++ r.idEntries = r.entries := by
    simp [entries, arguments]
  unfold getWdNodeFunctionJson
  dsimp only
  rw [hcreate, jwPutInt_objectNode (by decide), putAuthKey_objectNode, jwPutString_objectNode,
    jwPutInt_objectNode (by decide), jwPutInt_objectNode (by decide), putNodeIdList_objectNode,
    hfinish, nil_append, hentries]
  rfl

/-! ## What is parsed -/

theorem renders_int32 : Renders (formatInt value.toInt) (.integer value.toInt) := by
  have hle := value.le_toInt
  have hlt := value.toInt_lt
  exact renders_integer (by omega) (by omega)

theorem intEntry_sound (hkey : key.bytes.length ≤ uintMax) : (intEntry key value).Sound :=
  ⟨hkey, renders_int32⟩

section Sent

variable {r : Request} (hsize : r.text.length < maxAllocSize) {entry : Entry} {key value : CString}
include hsize

theorem length_entry_lt (h : entry ∈ r.entries) : entry.text.length < maxAllocSize := by
  have hle := length_le_commaSeparated (mem_map_of_mem (f := Entry.render) h)
  simp only [Request.text, length_cons, length_append, Entry.render] at hsize hle
  omega

theorem string_entry_short
    (h : (⟨key, jwPutStringEscape value, .string value.bytes⟩ : Entry) ∈ r.entries) :
    value.bytes.length ≤ uintMax := by
  have hlt := length_entry_lt hsize h
  have hle := length_le_escaped value
  unfold maxAllocSize at hlt
  unfold uintMax
  dsimp only at hlt
  omega

theorem ids_short : r.nodeIdSet.length < maxAllocSize := by
  by_cases hpos : r.nodeIdSet.length > 0
  · have hmem : (⟨nodeIdListName,
        32 :: 91 :: (commaSeparated (r.nodeIdSet.map fun id => formatInt id.toInt) ++ [93]),
        .array (r.nodeIdSet.map fun id => .integer id.toInt)⟩ : Entry) ∈ r.entries := by
      simp [entries, arguments, idEntries, hpos]
    have hlt := length_entry_lt hsize hmem
    have hcount := count_le_commaSeparated
      (r.nodeIdSet.map fun id => formatInt id.toInt) (by
        intro text htext
        obtain ⟨id, -, rfl⟩ := mem_map.1 htext
        exact formatInt_ne_nil _)
    simp only [length_cons, length_append, length_map] at hlt hcount
    omega
  · exact lt_of_le_of_lt (not_lt.1 hpos) (by decide)

theorem entries_sound : ∀ entry ∈ r.entries, entry.Sound := by
  intro entry hentry
  have hmem := hentry
  simp only [entries, arguments, mem_cons, mem_append] at hmem
  rcases hmem with rfl | hauth | rfl | rfl | rfl | hids
  · exact intEntry_sound (by decide)
  · unfold authEntries at hauth
    split at hauth
    · cases hauth
    · split_ifs at hauth
      · obtain rfl := mem_singleton.1 hauth
        exact ⟨(by decide : authKeyName.bytes.length ≤ uintMax),
          renders_string _ (string_entry_short hsize hentry)⟩
      · cases hauth
  · exact ⟨(by decide : functionName.bytes.length ≤ uintMax),
      renders_string _ (string_entry_short hsize hentry)⟩
  · exact intEntry_sound (by decide)
  · exact intEntry_sound (by decide)
  · unfold idEntries at hids
    split_ifs at hids
    · obtain rfl := mem_singleton.1 hids
      refine ⟨(by decide : nodeIdListName.bytes.length ≤ uintMax), renders_space ?_⟩
      have harray := renders_array
        (r.nodeIdSet.map fun id => (formatInt id.toInt, Value.integer id.toInt)) (by
          intro item hitem
          obtain ⟨id, -, rfl⟩ := mem_map.1 hitem
          exact renders_int32) (by
          have := ids_short hsize
          rw [length_map]
          unfold maxAllocSize at this
          unfold uintMax
          omega)
      simpa [map_map, comp_def] using harray
    · cases hids

theorem jsonParse_request : jsonParse r.text = some r.root := by
  refine jsonParse_of_renders (renders_object r.entries (entries_sound hsize) ?_) rfl
  have hids : r.idEntries.length ≤ 1 := by
    unfold idEntries
    split_ifs <;> simp
  have hauth : r.authEntries.length ≤ 1 := by
    unfold authEntries
    split
    · simp
    · split_ifs <;> simp
  simp only [entries, arguments, length_cons, length_append]
  unfold uintMax
  omega

end Sent

/-! ## What the receiver finds -/

theorem find_request (r : Request) {key : Bytes}
    (hshared : strcasecmpEq sharedKeyName.bytes key = false)
    (hauth : strcasecmpEq authKeyName.bytes key = false) : jsonGetValueForKey r.root key =
      jsonGetValueForKey (.object (r.arguments.map Entry.pair)) key := by
  have hnone : (r.authEntries.map Entry.pair).find? (fun entry => strcasecmpEq entry.1 key) =
      none := by
    unfold authEntries
    split
    · rfl
    · split_ifs
      · simp [Entry.pair, hauth]
      · rfl
  simp only [Request.root, entries, jsonGetValueForKey, map_cons, map_append]
  rw [List.find?_cons_of_neg (by simp [Entry.pair, intEntry, hshared]), List.find?_append, hnone,
    Option.none_or]

theorem find_function (r : Request) :
    jsonGetStringValueForKey r.root functionName.bytes = some r.funcName.bytes := by
  rw [jsonGetStringValueForKey, find_request r (by decide) (by decide)]
  rfl

theorem find_flags (r : Request) :
    jsonGetIntValueForKey r.root flagsName.bytes = some (Int32.ofNat r.flags.toNat) := by
  have hfind : jsonGetIntValueForKey r.root flagsName.bytes =
      some (Int32.ofInt (Int32.ofNat r.flags.toNat).toInt) := by
    rw [jsonGetIntValueForKey, find_request r (by decide) (by decide)]
    rfl
  rw [hfind, Int32.ofInt_toInt]

theorem find_nodeCount (r : Request) :
    jsonGetIntValueForKey r.root nodeCountName.bytes = some (Int32.ofNat r.nodeIdSet.length) := by
  have hfind : jsonGetIntValueForKey r.root nodeCountName.bytes =
      some (Int32.ofInt (Int32.ofNat r.nodeIdSet.length).toInt) := by
    rw [jsonGetIntValueForKey, find_request r (by decide) (by decide)]
    rfl
  rw [hfind, Int32.ofInt_toInt]

variable {r : Request}

theorem find_nodeIdList (hpos : r.nodeIdSet.length > 0) :
    jsonGetValueForKey r.root nodeIdListName.bytes =
      some (.array (r.nodeIdSet.map fun id => .integer id.toInt)) := by
  rw [find_request r (by decide) (by decide), arguments, idEntries,
    if_pos hpos]
  rfl

theorem toInt_ofNat (h : n < 2 ^ 31) : (Int32.ofNat n).toInt = n := by
  rw [← Int32.ofInt_eq_ofNat, Int32.toInt_ofInt, Int32.size, Int.bmod_eq_of_le]
  · norm_num
  · norm_num
    omega

theorem flags_eq (flags : UInt8) : UInt8.ofInt (Int32.ofNat flags.toNat).toInt = flags := by
  have hlt := flags.toNat_lt
  rw [toInt_ofNat (by omega)]
  apply UInt8.toNat_inj.1
  simp only [UInt8.ofInt, UInt8.toNat_ofNat']
  omega

theorem cstring_bytes (string : CString) : cstring string.bytes = string.bytes := by
  refine takeWhile_eq_self_iff.2 fun b hb => ?_
  have hne : b ≠ 0 := fun h => string.no_nul (h ▸ hb)
  simp [hne]

/-- The ids as the values that were parsed. -/
def idValues (r : Request) : List Value := r.nodeIdSet.map fun id => .integer id.toInt

/-- What the receiver reads of the text. -/
theorem parse_request (hsize : r.text.length < maxAllocSize) (unionInt : Value → ℤ)
    (flags : UInt8) : parseWdNodeFunctionJson unionInt r.text flags mem =
      if r.nodeIdSet.length = 0 then
        some (true, ⟨some r.funcName.bytes, 0, r.flags⟩, mem.setNodeIdSet none) else
        (fillIds unionInt (mem.palloc r.nodeIdSet.length) 0 (idValues r)).map
          fun mem => (true, ⟨some r.funcName.bytes, Int32.ofNat r.nodeIdSet.length, r.flags⟩,
            mem) := by
  have hcount : (Int32.ofNat r.nodeIdSet.length).toInt = r.nodeIdSet.length :=
    toInt_ofNat (lt_trans (ids_short hsize) (by decide))
  unfold parseWdNodeFunctionJson
  rw [jsonParse_request hsize]
  change (match jsonGetStringValueForKey r.root functionName.bytes with
    | none => _
    | some ptr => parseArguments unionInt r.root (cstring ptr) _) = _
  rw [find_function]
  dsimp only
  unfold parseArguments
  rw [find_flags, find_nodeCount, cstring_bytes]
  dsimp only
  rw [flags_eq, hcount]
  split_ifs with hle hzero hzero
  · rfl
  · omega
  · omega
  · unfold parseNodeIds
    rw [find_nodeIdList (by omega), hcount]
    dsimp only
    rw [if_neg (by simp), length_map, Memory.setNodeIdSet_palloc]
    rfl

/-! ## The request survives -/

/-- The request is found, in an array of its own, and nothing else is written. -/
structure Received (r : Request) (mem : Memory) (out : Out) (mem' : Memory) : Prop where
  funcName : out.funcName = some r.funcName.bytes
  flags : out.flags = r.flags
  count : out.count.toInt = r.nodeIdSet.length
  ids : ∃ base, mem'.words 0 = (if r.nodeIdSet.length = 0 then none else some base) ∧
    (∀ k < r.nodeIdSet.length,
      mem.ints (base + k) = none ∧ mem'.ints (base + k) = r.nodeIdSet[k]?) ∧
    ∀ a, (∀ k < r.nodeIdSet.length, a ≠ base + k) → mem'.ints a = mem.ints a
  words : ∀ i, i ≠ 0 → mem'.words i = mem.words i

/-- Whatever the caller's variables and memory hold before, the receiver returns true, and has
received the request. -/
def Survives (unionInt : Value → ℤ) (r : Request) (text : Bytes) : Prop :=
  ∀ flags mem, ∃ out mem',
    parseWdNodeFunctionJson unionInt text flags mem = some (true, out, mem') ∧
      Received r mem out mem'

section Filling

variable {r : Request} {count : ℕ} {id : Int32}

theorem received_none (hzero : r.nodeIdSet.length = 0) :
    Received r mem ⟨some r.funcName.bytes, 0, r.flags⟩ (mem.setNodeIdSet none) where
  funcName := rfl
  flags := rfl
  count := by
    rw [hzero]
    rfl
  ids := by
    refine ⟨0, by simp [hzero, Memory.setNodeIdSet], fun k hk => ?_, fun a _ => rfl⟩
    rw [hzero] at hk
    exact absurd hk (Nat.not_lt_zero k)
  words i hi := update_of_ne hi _ _

theorem store_first (hpos : 0 < count) (id : Int32) :
    ∃ mem', (mem.palloc count).store 0 id = some mem' ∧ mem'.words = (mem.palloc count).words ∧
      mem'.ints = Function.update (mem.palloc count).ints mem.top (some id) := by
  refine Memory.store_of_word (by simp [Memory.palloc]) ?_
  simp [Memory.palloc, hpos]

theorem received_one (hids : r.nodeIdSet = [id]) (mem' : Memory)
    (hwords : mem'.words = (mem.palloc 1).words)
    (hints : mem'.ints = Function.update (mem.palloc 1).ints mem.top (some id)) :
    Received r mem ⟨some r.funcName.bytes, Int32.ofNat r.nodeIdSet.length, r.flags⟩ mem' where
  funcName := rfl
  flags := rfl
  count := by
    rw [hids]
    rfl
  ids := by
    refine ⟨mem.top, ?_, fun k hk => ?_, fun a ha => ?_⟩
    · simp [hwords, hids, Memory.palloc]
    · obtain rfl : k = 0 := by
        simp only [hids, length_singleton] at hk
        omega
      exact ⟨mem.unused _ le_rfl, by simp [hints, hids]⟩
    · have hne : a ≠ mem.top := ha 0 (by simp [hids])
      have hout : ¬ (mem.top ≤ a ∧ a < mem.top + 1) := by omega
      rw [hints, update_of_ne hne, Memory.palloc]
      exact if_neg hout
  words i hi := by
    rw [hwords]
    exact update_of_ne hi _ _

/-- Nothing in use, and no valid pointer. -/
def blank : Memory := ⟨fun _ => none, fun _ => none, 0, fun _ _ => rfl⟩

theorem fillIds_second (unionInt : Value → ℤ) (mem : Memory) (hpos : 0 < count)
    (hword : mem.words 1 = none) (first second : Value) (values : List Value) :
    fillIds unionInt (mem.palloc count) 0 (first :: second :: values) = none := by
  obtain ⟨mem', hstore, hwords, -⟩ :=
    store_first hpos (Int32.ofInt (integerOf unionInt first))
  have hword' : mem'.words 1 = none := by
    rw [hwords, ← hword]
    exact update_of_ne (by decide : (1 : ℕ) ≠ 0) (some mem.top) mem.words
  simp only [fillIds, hstore, Option.bind_some, Memory.store_of_invalid hword', Option.bind_none]

end Filling

/-- **A request arrives as it was sent** if and only if it names at most one node. -/
theorem request_survives_iff (unionInt : Value → ℤ) (r : Request) {text : Bytes}
    (hsent : getWdNodeFunctionJson r = some text) :
    Survives unionInt r text ↔ r.nodeIdSet.length ≤ 1 := by
  rw [getWdNodeFunctionJson_eq] at hsent
  split_ifs at hsent with hsize
  obtain rfl := Option.some.inj hsent
  constructor
  · intro h
    by_contra hlen
    obtain ⟨first, second, rest, hids⟩ : ∃ first second rest,
        r.nodeIdSet = first :: second :: rest := by
      match hset : r.nodeIdSet with
      | [] => simp [hset] at hlen
      | [_] => simp [hset] at hlen
      | first :: second :: rest => exact ⟨first, second, rest, rfl⟩
    obtain ⟨out, mem', hparse, -⟩ := h 0 blank
    rw [parse_request hsize, if_neg (by omega), idValues, hids] at hparse
    have hcrash := fillIds_second unionInt blank
      (Nat.succ_pos (second :: rest).length) rfl (.integer first.toInt) (.integer second.toInt)
      (rest.map fun id => .integer id.toInt)
    simp only [map_cons, length_cons] at hparse hcrash
    rw [hcrash] at hparse
    cases hparse
  · intro hlen flags mem
    rw [parse_request hsize]
    match hids : r.nodeIdSet with
    | [] =>
      have hzero : r.nodeIdSet.length = 0 := by rw [hids]; rfl
      exact ⟨_, _, rfl, received_none hzero⟩
    | [id] =>
      obtain ⟨mem', hstore, hwords, hints⟩ := store_first Nat.one_pos id
      refine ⟨_, mem', ?_, received_one hids mem' hwords hints⟩
      simp [hids, idValues, fillIds, integerOf, hstore]
    | _ :: _ :: _ => simp [hids] at hlen

/-! ## One and two backends -/

/-- A request to degenerate these backends. -/
def degenerate (nodeIdSet : List Int32) : Request :=
  ⟨⟨ascii "DEGENERATE_BACKEND_REQUEST", by decide⟩, nodeIdSet, 0, 0, none⟩

/-- A request for one backend. -/
theorem one_id_survives : getWdNodeFunctionJson (degenerate [1]) = some (degenerate [1]).text ∧
      Survives (fun _ => 0) (degenerate [1]) (degenerate [1]).text := by
  have hsent : getWdNodeFunctionJson (degenerate [1]) = some (degenerate [1]).text := by
    rw [getWdNodeFunctionJson_eq]
    exact if_pos (by decide +kernel)
  exact ⟨hsent, (request_survives_iff (fun _ => 0) (degenerate [1]) hsent).2 le_rfl⟩

/-- A caller with a pointer to another integer behind its `node_id_set`. -/
def neighbour : Memory where
  words i := if i = 1 then some 0 else none
  ints a := if a = 0 then some 7 else none
  top := 1
  unused a ha := if_neg (by omega)

/-- Of a request for the backends 1 and 2, the second id overwrites that integer, and the second
place of the array keeps what was there. -/
theorem second_id_written_elsewhere :
    getWdNodeFunctionJson (degenerate [1, 2]) = some (degenerate [1, 2]).text ∧
      ∃ out mem', parseWdNodeFunctionJson (fun _ => 0) (degenerate [1, 2]).text 0 neighbour =
          some (true, out, mem') ∧
        mem'.words 0 = some 1 ∧ mem'.ints 1 = some 1 ∧ mem'.ints 2 = some 0 ∧
        neighbour.ints 0 = some 7 ∧ mem'.ints 0 = some 2 := by
  have hsize : (degenerate [1, 2]).text.length < maxAllocSize := by decide +kernel
  refine ⟨by rw [getWdNodeFunctionJson_eq, if_pos hsize], ?_⟩
  rw [parse_request hsize]
  exact ⟨_, _, rfl, rfl, rfl, rfl, rfl, rfl⟩

end PgBalancer.Watchdog.NodeFunction
