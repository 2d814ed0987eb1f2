import PgBalancer.Child.StartupPacket
import PgBalancer.Lib.History

/-!
# The connection pool of a child

A child keeps the connections of its former clients.  The connections to all backends that belong
together are an entry of the pool; each of them has a pointer to the startup packet, which they
share, and which is freed once for all of them.  A new client is given an entry whose startup packet
is the same as its own; an entry for the same user and database with another packet is closed.

Packets are at addresses, and reading or freeing a packet that is not there has no result: that it
does not happen is part of what is proved.  The backends in use and the main node stay the same; the
main node that is in force at the end of a session may be another one.

* `pooled_connection_equivalent` — **a client is given a connection that was opened with the same
  user, database, version and options, and a client with the same options in another order is given
  the connection of the first one**.
-/

namespace PgBalancer.Child

open List Function

open Function (update)

/-! ## The pool -/

/-- A connection to a backend. -/
structure Slot where
  /-- the address of the startup packet -/
  sp : Option ℕ
  closetime : ℕ
  /-- the packet that was sent to the backend when the connection was opened -/
  opened : Option StartupPacket
  /-- which connection this is -/
  con : ℕ
  deriving DecidableEq

/-- `POOL_CONNECTION_POOL`: the connections to all backends -/
abbrev ConnectionPool (n : ℕ) := Fin n → Option Slot

/-- The pool of a child, with the startup packets that are allocated. -/
structure Pool (n m : ℕ) where
  heap : ℕ → Option StartupPacket
  /-- the next address, and the next connection -/
  fresh : ℕ
  pools : Fin m → ConnectionPool n

/-- The backends as a child sees them. -/
structure Backends (n : ℕ) where
  /-- `VALID_BACKEND` -/
  valid : Fin n → Bool
  /-- `MAIN_NODE_ID` -/
  main : Fin n
  main_valid : valid main = true
  connectionLifeTime : ℕ

/-- The valid backends, in order. -/
def Backends.validNodes {n : ℕ} (env : Backends n) : List (Fin n) :=
  (List.finRange n).filter fun i => env.valid i

/-- What an entry is looked up by. -/
structure Key where
  user : Bytes
  database : Bytes
  major : ℕ
  deriving DecidableEq

/-- The key that the fields of a packet give. -/
def StartupPacket.key (sp : StartupPacket) : Key := ⟨sp.user, sp.database, sp.major⟩

section Functions

variable {n m : ℕ}

/-- `pool_free_startup_packet`; `none` if the packet was freed before. -/
def Pool.poolFreeStartupPacket (s : Pool n m) : Option ℕ → Option (Pool n m)
  | none => some s
  | some a =>
    if (s.heap a).isSome then some { s with heap := Function.update s.heap a none } else none

/-- `memset(p, 0, sizeof(POOL_CONNECTION_POOL))` -/
def Pool.clear (s : Pool n m) (k : Fin m) : Pool n m :=
  { s with pools := Function.update s.pools k fun _ => none }

/-- The loops that close the connections of an entry to these backends, as far as there are any: the
startup packet of the first one is freed. -/
def Pool.closeSlots (s : Pool n m) (k : Fin m) (nodes : List (Fin n)) : Option (Pool n m) :=
  match nodes.findSome? (s.pools k) with
  | none => some (s.clear k)
  | some slot => (s.poolFreeStartupPacket slot.sp).map fun s => s.clear k

/-- The same loops where a connection is not looked for before it is used. -/
def Pool.closeSlotsUnchecked (s : Pool n m) (k : Fin m) (nodes : List (Fin n)) :
    Option (Pool n m) :=
  if nodes.all fun i => (s.pools k i).isSome then s.closeSlots k nodes else none

/-- The startup packet of a connection, if it is not `NULL`. -/
def Pool.readSp (s : Pool n m) (slot : Slot) : Option (Option StartupPacket) :=
  match slot.sp with
  | none => some none
  | some a => (s.heap a).map some

/-- The startup packet at the main node, if there is one. -/
def Pool.mainSp (s : Pool n m) (main : Fin n) (k : Fin m) : Option (Option StartupPacket) :=
  match s.pools k main with
  | none => some none
  | some slot => s.readSp slot

/-- The loop of `pool_get_cp` -/
def Pool.findPool (s : Pool n m) (main : Fin n) (key : Key) : List (Fin m) → Option (Option (Fin m))
  | [] => some none
  | k :: rest =>
    match s.mainSp main k with
    | none => none
    | some sp =>
      if sp.any fun sp => sp.key = key then some (some k) else s.findPool main key rest

/-- Set `closetime` of the connections to some nodes. -/
def Pool.setClosetime (s : Pool n m) (k : Fin m) (nodes : Fin n → Bool) (closetime : ℕ) :
    Pool n m :=
  { s with pools := Function.update s.pools k fun i =>
      if nodes i then (s.pools k i).map fun slot => { slot with closetime } else s.pools k i }

/-- `pool_get_cp`; the sockets are checked if their states are given. -/
def Pool.poolGetCp (s : Pool n m) (env : Backends n) (main : Fin n) (key : Key)
    (sockets : Option (Fin n → Bool)) : Option (Pool n m × Option (Fin m)) :=
  match s.findPool main key (List.finRange m) with
  | none => none
  | some none => some (s, none)
  | some (some k) =>
    let s := s.setClosetime k (fun i => i = main) 0
    match sockets with
    | none => some (s, some k)
    | some broken =>
      if env.validNodes.any fun j => (s.pools k j).isNone || broken j then
        (s.closeSlots k env.validNodes).map fun s => (s, none)
      else some (s, some k)

/-- `pool_discard_cp`, with the main node and the backends that are valid when it is called. -/
def Pool.poolDiscardCp (s : Pool n m) (env : Backends n) (main : Fin n) (nodes : List (Fin n))
    (key : Key) : Option (Pool n m) :=
  match s.poolGetCp env main key none with
  | none => none
  | some (s, none) => some s
  | some (s, some k) => s.closeSlotsUnchecked k nodes

/-- `new_connection`: an entry with new connections to the valid backends. -/
def Pool.newConnection (s : Pool n m) (env : Backends n) (k : Fin m) : Pool n m :=
  { s with
    fresh := s.fresh + n
    pools := Function.update s.pools k fun i =>
      if env.valid i then some ⟨none, 0, none, s.fresh + i⟩ else s.pools k i }

/-- `in_use_backend_id`, as the connection -/
def inUse (p : ConnectionPool n) : Option Slot := (List.finRange n).findSome? p

/-- `TMINTMAX` -/
def tmIntMax : ℕ := 0x7fffffff

/-- The loop that looks for the oldest connection -/
def Pool.oldest (s : Pool n m) (closetime : ℕ) (oldestp : Option (Fin m)) :
    List (Fin m) → Option (Fin m)
  | [] => oldestp
  | k :: rest =>
    let time := ((inUse (s.pools k)).map Slot.closetime).getD 0
    if time < closetime then s.oldest time (some k) rest else s.oldest closetime oldestp rest

/-- `pool_create_cp`; without any entry, memory behind the pool is used. -/
def Pool.poolCreateCp (s : Pool n m) (env : Backends n) : Option (Pool n m × Fin m) :=
  match (List.finRange m).find? fun k => (inUse (s.pools k)).isNone with
  | some k => some (s.newConnection env k, k)
  | none =>
    match s.oldest tmIntMax (List.finRange m).head? (List.finRange m) with
    | none => none
    | some k => (s.closeSlots k (List.finRange n)).map fun s => (s.newConnection env k, k)

/-- `StartupPacketCopy`: the new address -/
def Pool.startupPacketCopy (s : Pool n m) (sp : StartupPacket) : Pool n m × ℕ :=
  ({ s with heap := Function.update s.heap s.fresh (some sp), fresh := s.fresh + 1 }, s.fresh)

/-- Its check of the length, which is not that of `read_startup_packet`. -/
def StartupPacket.copies (sp : StartupPacket) : Bool :=
  0 < sp.startupPacket.length && sp.startupPacket.length < maxStartupPacketLength

/-- The packet is saved in the connections to these backends, and sent to them. -/
def Pool.savePacket (s : Pool n m) (k : Fin m) (nodes : List (Fin n)) (a : ℕ) (sp : StartupPacket) :
    Pool n m :=
  { s with pools := Function.update s.pools k fun i =>
      if i ∈ nodes then (s.pools k i).map fun slot => { slot with sp := some a, opened := some sp }
      else s.pools k i }

/-- How a new connection turns out: an error may be raised at a backend before the packet is saved
in its connection, or later. -/
inductive Outcome (n : ℕ)
  | connected
  | failsAt (i : Fin n)
  | refused
  deriving DecidableEq

/-- The backends that the packet is sent to. -/
def Outcome.reached (outcome : Outcome n) (nodes : List (Fin n)) : List (Fin n) :=
  match outcome with
  | .failsAt i => nodes.takeWhile (· ≠ i)
  | _ => nodes

/-- `connect_backend`: a new entry, with the client's packet. -/
def Pool.connectBackend (s : Pool n m) (env : Backends n) (sp : StartupPacket)
    (outcome : Outcome n) : Option (Pool n m × Option (Fin m)) :=
  match s.poolCreateCp env with
  | none => none
  | some (s, k) =>
    if sp.copies then
      let (s, a) := s.startupPacketCopy sp
      let s := s.savePacket k (outcome.reached env.validNodes) a sp
      if outcome = .connected then some (s, some k)
      else (s.poolDiscardCp env env.main env.validNodes sp.key).map fun s => (s, none)
    else (s.poolDiscardCp env env.main env.validNodes sp.key).map fun s => (s, none)

/-- The new packet replaces that of the connections to these backends. -/
def Pool.replacePacket (s : Pool n m) (k : Fin m) (nodes : Fin n → Bool) (a : ℕ) : Pool n m :=
  { s with pools := Function.update s.pools k fun i =>
      if nodes i then (s.pools k i).map fun slot => { slot with sp := some a } else s.pools k i }

/-- `connect_using_existing_connection`; the client may not be authenticated. -/
def Pool.connectUsingExistingConnection (s : Pool n m) (env : Backends n) (k : Fin m)
    (sp : StartupPacket) (reauth : Bool) : Option (Pool n m × Option (Fin m)) :=
  if env.validNodes.all fun i => (s.pools k i).isSome then
    match env.validNodes.findSome? (s.pools k) with
    | none => some (s, if reauth then some k else none)
    | some slot =>
      if sp.copies then
        let (s, a) := s.startupPacketCopy sp
        (s.poolFreeStartupPacket slot.sp).map fun s =>
          (s.replacePacket k env.valid a, if reauth then some k else none)
      else some (s, none)
  else none

/-- `close_idle_connection`, for these entries -/
def Pool.closeIdleConnection (s : Pool n m) : List (Fin m) → Option (Pool n m)
  | [] => some s
  | k :: rest =>
    match inUse (s.pools k) with
    | none => s.closeIdleConnection rest
    | some slot =>
      match s.readSp slot with
      | none => none
      | some sp =>
        if sp.isSome ∧ slot.closetime > 0 then
          (s.closeSlots k (List.finRange n)).bind fun s => s.closeIdleConnection rest
        else s.closeIdleConnection rest

/-- What happens while a client connects. -/
structure Circumstances (n : ℕ) where
  needToRestart : Bool
  /-- `check_socket_status` -/
  broken : Fin n → Bool
  outcome : Outcome n
  /-- a client that is given an existing connection is authenticated -/
  reauth : Bool

/-- The part of `get_backend_connection` behind the authentication of the client: the entry that the
client is given. -/
def Pool.getConnection (s : Pool n m) (env : Backends n) (sp : StartupPacket)
    (c : Circumstances n) : Option (Pool n m × Option (Fin m)) :=
  match s.poolGetCp env env.main sp.key (some c.broken) with
  | none => none
  | some (s, none) => s.connectBackend env sp c.outcome
  | some (s, some k) =>
    match s.mainSp env.main k with
    | some (some old) =>
      if sp.startupPacket = old.startupPacket then
        s.connectUsingExistingConnection env k sp c.reauth
      else
        (s.poolDiscardCp env env.main env.validNodes sp.key).bind fun s =>
          s.connectBackend env sp c.outcome
    | _ => none

/-- `get_backend_connection`: a pooled entry, or a new one. -/
def Pool.getBackendConnection (s : Pool n m) (q : QSort) (env : Backends n) (packet : Bytes)
    (c : Circumstances n) : Option (Pool n m × Option (Fin m)) :=
  match readStartupPacket q packet with
  | none => some (s, none)
  | some sp =>
    (if c.needToRestart then s.closeIdleConnection (List.finRange m) else some s).bind fun s =>
      s.getConnection env sp c

/-- `pool_backend_timer`, for these entries -/
def Pool.poolBackendTimer (s : Pool n m) (env : Backends n) (now : ℕ) :
    List (Fin m) → Option (Pool n m)
  | [] => some s
  | k :: rest =>
    match s.pools k env.main with
    | none => s.poolBackendTimer env now rest
    | some slot =>
      match s.readSp slot with
      | none => none
      | some sp =>
        if sp.isSome ∧ slot.closetime ≠ 0 ∧ now ≥ slot.closetime + env.connectionLifeTime then
          (s.closeSlotsUnchecked k env.validNodes).bind fun s => s.poolBackendTimer env now rest
        else s.poolBackendTimer env now rest

/-- `backend_cleanup`: the connection is kept, with the time at which it was closed, or it is
discarded, with the main node and the backends that are valid in the session. -/
def Pool.backendCleanup (s : Pool n m) (env : Backends n) (k : Fin m) (cached : Bool) (now : ℕ)
    (main : Fin n) (nodes : List (Fin n)) : Option (Pool n m) :=
  if cached then some (s.setClosetime k (fun _ => true) now)
  else
    match s.pools k main with
    | none => none
    | some slot =>
      match s.readSp slot with
      | none => none
      | some none => some s
      | some (some sp) => s.poolDiscardCp env main nodes sp.key

end Functions

/-! ## Histories -/

section Histories

variable {n : ℕ} (m : ℕ) (q : QSort) (env : Backends n)

/-- A child, with the entry its client has been given. -/
structure ChildPool (n m : ℕ) where
  pool : Pool n m
  session : Option (Fin m)

/-- What happens in a child.  The main node and the backends of a query that is in progress when the
session ends are valid ones. -/
inductive PoolEvent {n : ℕ} (env : Backends n)
  | connect (packet : Bytes) (c : Circumstances n)
  | disconnect (cached : Bool) (now : ℕ) (main : { i // env.valid i = true })
      (nodes : List { i // env.valid i = true })
  | expire (now : ℕ)

variable {m env} in
/-- A child serves one client at a time. -/
def poolStep (s : ChildPool n m) : PoolEvent env → Option (ChildPool n m)
  | .connect packet c =>
    match s.session with
    | some _ => some s
    | none => (s.pool.getBackendConnection q env packet c).map fun r => ⟨r.1, r.2⟩
  | .disconnect cached now main nodes =>
    match s.session with
    | none => some s
    | some k =>
      (s.pool.backendCleanup env k cached now main.1 (nodes.map Subtype.val)).map
        fun pool => ⟨pool, none⟩
  | .expire now =>
    match s.session with
    | some _ => some s
    | none => (s.pool.poolBackendTimer env now (List.finRange m)).map fun pool => ⟨pool, none⟩

/-- `pool_init_cp` -/
def poolStart (n m : ℕ) : ChildPool n m := ⟨⟨fun _ => none, 0, fun _ _ => none⟩, none⟩

variable {env} in
/-- The pool after a history, if it has touched nothing that was freed. -/
def poolRun (history : List (PoolEvent env)) : Option (ChildPool n m) :=
  history.foldlM (poolStep q) (poolStart n m)

end Histories

/-! ## The invariant -/

section Invariant

variable {n m a : ℕ}

/-- What an entry is.  The packet of an entry that is being opened may not have been sent to all
backends. -/
inductive Entry (n : ℕ)
  | unused
  | created
  | opened (a : ℕ) (sp : StartupPacket) (nodes : List (Fin n))

namespace Entry

/-- The entry has a connection. -/
def isUsed : Entry n → Bool
  | unused => false
  | _ => true

/-- The packet of the connection to a backend, with its address. -/
def packetAt (i : Fin n) : Entry n → Option (ℕ × StartupPacket)
  | opened a sp nodes => if i ∈ nodes then some (a, sp) else none
  | _ => none

/-- What is to be seen in the slot of a backend. -/
def slot (env : Backends n) (e : Entry n) (i : Fin n) : Option (Option ℕ × Option StartupPacket) :=
  if e.isUsed && env.valid i then
    some ((e.packetAt i).map Prod.fst, (e.packetAt i).map Prod.snd)
  else none

theorem packetAt_of_not_isUsed {e : Entry n} (h : e.isUsed = false) (i : Fin n) :
    e.packetAt i = none := by
  cases e <;> first | rfl | cases h

variable {p : ℕ × StartupPacket}

theorem isUsed_of_packetAt {e : Entry n} {i : Fin n} (h : e.packetAt i = some p) :
    e.isUsed = true := by
  cases e <;> first | rfl | cases h

theorem packetAt_opened {a : ℕ} {sp : StartupPacket} {nodes : List (Fin n)} {i : Fin n} :
    (opened a sp nodes).packetAt i = some p ↔ i ∈ nodes ∧ (a, sp) = p := by
  simp [packetAt]

end Entry

/-- The entries of a pool: every pointer is to the packet its connection was opened with, different
entries do not share a packet, and there is one entry for a user and database. -/
structure PoolRep (q : QSort) (env : Backends n) (s : Pool n m)
    (view : Fin m → Entry n) : Prop where
  shows : ∀ k i, (s.pools k i).map (fun slot => (slot.sp, slot.opened)) = (view k).slot env i
  heap : ∀ k i p, (view k).packetAt i = some p → s.heap p.1 = some p.2
  apart : ∀ k k' i j p p', (view k).packetAt i = some p → (view k').packetAt j = some p' →
    p.1 = p'.1 → k = k'
  unique : ∀ k k' p p', (view k).packetAt env.main = some p →
    (view k').packetAt env.main = some p' → p.2.key = p'.2.key → k = k'
  read : ∀ a sp, s.heap a = some sp →
    a < s.fresh ∧ sp.copies = true ∧ ∃ packet, readStartupPacket q packet = some sp

/-- An entry with a packet at the main node has it everywhere. -/
def Whole (env : Backends n) (view : Fin m → Entry n) : Prop :=
  ∀ k p, (view k).packetAt env.main = some p → ∀ i, env.valid i = true →
    (view k).packetAt i = some p

/-- There is no entry for this key. -/
def Free (view : Fin m → Entry n) (main : Fin n) (key : Key) : Prop :=
  ∀ k p, (view k).packetAt main = some p → p.2.key ≠ key

/-- What holds between two events: no entry is being opened. -/
def PoolInv (q : QSort) (env : Backends n) (s : Pool n m) : Prop :=
  ∃ view, PoolRep q env s view ∧ Whole env view

variable {q : QSort} {env : Backends n} {s s' : Pool n m} {view : Fin m → Entry n} {k : Fin m}
  {i main : Fin n} {e : Entry n} {sp : StartupPacket} {key : Key} {oldestp : Option (Fin m)}
  {nodes : List (Fin n)} {packet : Bytes} {c : Circumstances n}

theorem Whole.update (h : Whole env view)
    (he : ∀ p, e.packetAt env.main = some p → ∀ i, env.valid i = true → e.packetAt i = some p) :
    Whole env (update view k e) :=
  (forall_update_iff view fun _ e => ∀ p, e.packetAt env.main = some p →
    ∀ i, env.valid i = true → e.packetAt i = some p).2 ⟨he, fun k' _ => h k'⟩

theorem Free.update (h : Free view main key) (he : e.packetAt main = none) :
    Free (update view k e) main key :=
  (forall_update_iff view fun _ e => ∀ p, e.packetAt main = some p → p.2.key ≠ key).2
    ⟨fun _ hp => absurd (he.symm.trans hp) nofun, fun k' _ => h k'⟩

namespace PoolRep

variable (h : PoolRep q env s view) {nodes : List (Fin n)}
include h

/-! ### Looking an entry up -/

theorem isSome (k : Fin m) (i : Fin n) :
    (s.pools k i).isSome = ((view k).isUsed && env.valid i) := by
  have hsome := congrArg Option.isSome (h.shows k i)
  rw [Option.isSome_map] at hsome
  rw [hsome, Entry.slot]
  split_ifs with hused
  · exact hused.symm
  · exact (eq_false_of_ne_true hused).symm

theorem slot_eq {slot : Slot} (hslot : s.pools k i = some slot) :
    slot.sp = ((view k).packetAt i).map Prod.fst ∧
      slot.opened = ((view k).packetAt i).map Prod.snd := by
  have hshows := h.shows k i
  have hsome := h.isSome k i
  rw [hslot, Option.isSome_some] at hsome
  rw [hslot, Entry.slot, if_pos hsome.symm, Option.map_some, Option.some.injEq,
    Prod.mk.injEq] at hshows
  exact hshows

theorem readSp {slot : Slot} (hslot : s.pools k i = some slot) :
    s.readSp slot = some (((view k).packetAt i).map Prod.snd) := by
  unfold Pool.readSp
  rw [(h.slot_eq hslot).1]
  cases hp : (view k).packetAt i with
  | none => rfl
  | some p => exact congrArg (Option.map some) (h.heap k i p hp)

section

variable (hmain : env.valid main = true)
include hmain

theorem mainSp (k : Fin m) : s.mainSp main k = some (((view k).packetAt main).map Prod.snd) := by
  unfold Pool.mainSp
  cases hslot : s.pools k main with
  | none =>
    have hsome := h.isSome k main
    rw [hslot, hmain, Bool.and_true] at hsome
    rw [Entry.packetAt_of_not_isUsed hsome.symm]
    rfl
  | some slot => exact h.readSp hslot

theorem findPool (key : Key) (ks : List (Fin m)) : s.findPool main key ks =
      some (ks.find? fun k => ((view k).packetAt main).any fun p => p.2.key = key) := by
  induction ks with
  | nil => rfl
  | cons k ks ih =>
    rw [Pool.findPool, h.mainSp hmain, List.find?_cons, ih]
    simp only [Option.any_map]
    split_ifs with hkey
    · rw [hkey]
    · rw [eq_false_of_ne_true hkey]

theorem findPool_cases : (s.findPool main key (List.finRange m) = some none ∧ Free view main key) ∨
      ∃ k p, s.findPool main key (List.finRange m) = some (some k) ∧
        (view k).packetAt main = some p ∧ p.2.key = key := by
  rw [h.findPool hmain]
  cases hfind : (List.finRange m).find?
      fun k => ((view k).packetAt main).any fun p => p.2.key = key with
  | none =>
    refine .inl ⟨rfl, fun k p hp hkey => ?_⟩
    have hnot := List.find?_eq_none.1 hfind k (mem_finRange k)
    rw [hp] at hnot
    exact hnot (decide_eq_true hkey)
  | some k =>
    have hany := List.find?_some hfind
    obtain ⟨p, hp, hkey⟩ := (Option.any_eq_true ..).1 hany
    exact .inr ⟨k, p, rfl, hp, of_decide_eq_true hkey⟩

end

/-! ### Changing an entry -/

/-- An entry is replaced; its new packet is in no other entry, and there is no other entry for its
key. -/
theorem set (hothers : ∀ k', k' ≠ k → s'.pools k' = s.pools k')
    (hshows : ∀ i, (s'.pools k i).map (fun slot => (slot.sp, slot.opened)) = e.slot env i)
    (hheap : ∀ k' i p, k' ≠ k → (view k').packetAt i = some p → s'.heap p.1 = s.heap p.1)
    (hread : ∀ a sp, s'.heap a = some sp →
      a < s'.fresh ∧ sp.copies = true ∧ ∃ packet, readStartupPacket q packet = some sp)
    (hnew : ∀ i p, e.packetAt i = some p → s'.heap p.1 = some p.2 ∧
      ∀ k' j p', k' ≠ k → (view k').packetAt j = some p' →
        p.1 ≠ p'.1 ∧ (j = env.main → p.2.key ≠ p'.2.key)) :
    PoolRep q env s' (update view k e) where
  shows := by
    refine (forall_update_iff view fun k' e => ∀ i,
      (s'.pools k' i).map (fun slot => (slot.sp, slot.opened)) = e.slot env i).2
      ⟨hshows, fun k' hk => ?_⟩
    rw [hothers k' hk]
    exact h.shows k'
  heap := by
    refine (forall_update_iff view fun _ e => ∀ i p, e.packetAt i = some p →
      s'.heap p.1 = some p.2).2 ⟨fun i p hp => (hnew i p hp).1, fun k' hk i p hp => ?_⟩
    rw [hheap k' i p hk hp]
    exact h.heap k' i p hp
  apart k₁ k₂ i j p p' h₁ h₂ heq := by
    rw [update_apply] at h₁ h₂
    split_ifs at h₁ h₂ with hk₁ hk₂ hk₂
    · exact hk₁.trans hk₂.symm
    · exact absurd heq ((hnew i p h₁).2 k₂ j p' hk₂ h₂).1
    · exact absurd heq.symm ((hnew j p' h₂).2 k₁ i p hk₁ h₁).1
    · exact h.apart k₁ k₂ i j p p' h₁ h₂ heq
  unique k₁ k₂ p p' h₁ h₂ heq := by
    rw [update_apply] at h₁ h₂
    split_ifs at h₁ h₂ with hk₁ hk₂ hk₂
    · exact hk₁.trans hk₂.symm
    · exact absurd heq (((hnew _ p h₁).2 k₂ _ p' hk₂ h₂).2 rfl)
    · exact absurd heq.symm (((hnew _ p' h₂).2 k₁ _ p hk₁ h₁).2 rfl)
    · exact h.unique k₁ k₂ p p' h₁ h₂ heq
  read := hread

theorem setClosetime (k : Fin m) (nodes : Fin n → Bool) (closetime : ℕ) :
    PoolRep q env (s.setClosetime k nodes closetime) view where
  shows k' i := by
    rw [← h.shows k' i]
    simp only [Pool.setClosetime, update_apply]
    split_ifs with hk
    · subst hk
      dsimp only
      split_ifs
      · rw [Option.map_map]
        rfl
      · rfl
    · rfl
  heap := h.heap
  apart := h.apart
  unique := h.unique
  read := h.read

theorem clear (k : Fin m) (heap : ℕ → Option StartupPacket)
    (hheap : ∀ a, heap a = s.heap a ∨ heap a = none ∧ ∃ i sp, (view k).packetAt i = some (a, sp)) :
    PoolRep q env (Pool.clear { s with heap := heap } k) (update view k .unused) := by
  refine h.set (fun k' hk => update_of_ne hk _ _) (fun i => ?_) ?_ ?_ nofun
  · simp only [Pool.clear, update_self]
    rfl
  · intro k' i p hk hp
    rcases hheap p.1 with heq | ⟨-, j, sp, hj⟩
    · exact heq
    · exact absurd (h.apart k' k i j p _ hp hj rfl) hk
  · intro a sp hsp
    rcases hheap a with heq | ⟨hnone, -⟩
    · exact h.read a sp (heq ▸ hsp)
    · exact absurd (hnone.symm.trans hsp) nofun

theorem closeSlots (k : Fin m) (nodes : List (Fin n)) :
    ∃ s', s.closeSlots k nodes = some s' ∧ PoolRep q env s' (update view k .unused) := by
  have hkept := h.clear k s.heap fun a => .inl rfl
  unfold Pool.closeSlots
  cases hfind : nodes.findSome? (s.pools k) with
  | none => exact ⟨_, rfl, hkept⟩
  | some slot =>
    obtain ⟨i, -, hslot⟩ := exists_of_findSome?_eq_some hfind
    dsimp only
    rw [(h.slot_eq hslot).1]
    cases hp : (view k).packetAt i with
    | none => exact ⟨_, rfl, hkept⟩
    | some p =>
      refine ⟨_, ?_, h.clear k (update s.heap p.1 none) fun a => ?_⟩
      · simp [Pool.poolFreeStartupPacket, h.heap k i p hp]
      · by_cases ha : a = p.1
        · subst ha
          exact .inr ⟨update_self .., i, p.2, hp⟩
        · exact .inl (update_of_ne ha _ _)

theorem closeSlotsUnchecked (hused : (view k).isUsed = true)
    (hnodes : ∀ i ∈ nodes, env.valid i = true) : ∃ s', s.closeSlotsUnchecked k nodes = some s' ∧
      PoolRep q env s' (update view k .unused) := by
  unfold Pool.closeSlotsUnchecked
  rw [if_pos]
  · exact h.closeSlots k nodes
  · rw [all_eq_true]
    intro j hj
    rw [h.isSome, hused, hnodes j hj]
    rfl

theorem newConnection (hunused : view k = .unused) :
    PoolRep q env (s.newConnection env k) (update view k .created) := by
  refine h.set (fun k' hk => update_of_ne hk _ _) (fun i => ?_) (fun _ _ _ _ _ => rfl)
    (fun a sp hsp => ?_) nofun
  · have hnone := h.isSome k i
    rw [hunused] at hnone
    simp only [Pool.newConnection, update_self,
      Option.isNone_iff_eq_none.1 (Option.isSome_eq_false_iff.1 hnone)]
    split_ifs with hvalid <;> simp [Entry.slot, Entry.isUsed, Entry.packetAt, hvalid]
  · obtain ⟨hlt, hread⟩ := h.read a sp hsp
    exact ⟨Nat.lt_add_right n hlt, hread⟩

theorem unused_of_inUse (hnone : inUse (s.pools k) = none) : view k = .unused := by
  have hmain := List.findSome?_eq_none_iff.1 hnone env.main (mem_finRange _)
  have hused := h.isSome k env.main
  rw [hmain, env.main_valid, Bool.and_true] at hused
  cases hk : view k with
  | unused => rfl
  | created | opened => rw [hk] at hused; cases hused

end PoolRep

theorem oldest_isSome (s : Pool n m) (ks : List (Fin m)) (closetime : ℕ)
    (h : oldestp.isSome = true) :
    (s.oldest closetime oldestp ks).isSome = true := by
  induction ks generalizing closetime oldestp with
  | nil => exact h
  | cons k ks ih =>
    dsimp only [Pool.oldest]
    split_ifs
    · exact ih _ rfl
    · exact ih _ h

theorem mem_validNodes : i ∈ env.validNodes ↔ env.valid i = true := by
  simp [Backends.validNodes]

/-- The connections of the entry to all valid backends were opened with the packet. -/
def Pool.OpenedWith (s : Pool n m) (env : Backends n) (k : Fin m) (sp : StartupPacket) : Prop :=
  ∀ i, env.valid i = true → ∃ slot, s.pools k i = some slot ∧ slot.opened = some sp

/-- The connections of the entry are the same. -/
def Pool.SameConnections (s s' : Pool n m) (k : Fin m) : Prop :=
  ∀ i, (s'.pools k i).map Slot.con = (s.pools k i).map Slot.con

theorem sameConnections_setClosetime (nodes : Fin n → Bool)
    (closetime : ℕ) : s.SameConnections (s.setClosetime k nodes closetime) k := by
  intro i
  simp only [Pool.setClosetime, update_self]
  split_ifs
  · rw [Option.map_map]
    rfl
  · rfl

namespace PoolRep

variable (h : PoolRep q env s view)
include h

variable {p : ℕ × StartupPacket} {nodes : List (Fin n)} {a : ℕ}

theorem openedWith (hp : ∀ i, env.valid i = true → (view k).packetAt i = some p) :
    s.OpenedWith env k p.2 := by
  intro i hi
  have hused := h.isSome k i
  rw [Entry.isUsed_of_packetAt (hp i hi), hi] at hused
  obtain ⟨slot, hslot⟩ := Option.isSome_iff_exists.1 hused
  exact ⟨slot, hslot, by rw [(h.slot_eq hslot).2, hp i hi, Option.map_some]⟩

/-- An unused entry is taken, or the one that has been closed for the longest time. -/
theorem poolCreateCp (hm : 0 < m) : ∃ s' k, s.poolCreateCp env = some (s', k) ∧
      PoolRep q env s' (update view k .created) := by
  unfold Pool.poolCreateCp
  cases hfind : (List.finRange m).find? fun k => (inUse (s.pools k)).isNone with
  | some k =>
    have hnone : inUse (s.pools k) = none := by simpa using List.find?_some hfind
    exact ⟨_, k, rfl, h.newConnection (h.unused_of_inUse hnone)⟩
  | none =>
    have hhead : (List.finRange m).head?.isSome = true := by
      rw [isSome_head?, ne_eq, finRange_eq_nil_iff]
      exact hm.ne'
    obtain ⟨k, hk⟩ := Option.isSome_iff_exists.1 (oldest_isSome s (List.finRange m) tmIntMax hhead)
    obtain ⟨s₀, hclose, h₀⟩ := h.closeSlots k (List.finRange n)
    have h₁ := h₀.newConnection (update_self ..)
    rw [update_idem] at h₁
    exact ⟨_, k, by simp only [hk, hclose, Option.map_some], h₁⟩

theorem ne_fresh (hp : (view k).packetAt i = some p) : p.1 ≠ s.fresh :=
  (h.read p.1 p.2 (h.heap k i p hp)).1.ne

/-- A copy of a packet that can be copied is read from a client, as all packets are. -/
theorem read_copy (hcopies : sp.copies = true)
    (hread : ∃ packet, readStartupPacket q packet = some sp) (a : ℕ) (sp' : StartupPacket)
    (hsp' : update s.heap s.fresh (some sp) a = some sp') :
    a < s.fresh + 1 ∧ sp'.copies = true ∧ ∃ packet, readStartupPacket q packet = some sp' := by
  rw [update_apply] at hsp'
  split_ifs at hsp' with ha
  · cases hsp'
    exact ⟨ha ▸ Nat.lt_succ_self _, hcopies, hread⟩
  · obtain ⟨hlt, hrest⟩ := h.read a sp' hsp'
    exact ⟨Nat.lt_succ_of_lt hlt, hrest⟩

theorem savePacket (hk : view k = .created) (nodes : List (Fin n))
    (hfree : Free view env.main sp.key) (hcopies : sp.copies = true)
    (hread : ∃ packet, readStartupPacket q packet = some sp) : PoolRep q env
      ((s.startupPacketCopy sp).1.savePacket k nodes (s.startupPacketCopy sp).2 sp)
      (update view k (.opened s.fresh sp nodes)) := by
  refine h.set (fun k' hne => update_of_ne hne _ _) (fun i => ?_)
    (fun k' i p _ hp => update_of_ne (h.ne_fresh hp) _ _) (h.read_copy hcopies hread)
    fun i p hp => ?_
  · have hshows := h.shows k i
    rw [hk] at hshows
    simp only [Pool.savePacket, Pool.startupPacketCopy, update_self]
    simp only [Entry.slot, Entry.isUsed, Entry.packetAt, Bool.true_and] at hshows ⊢
    cases hslot : s.pools k i with
    | none =>
      rw [hslot] at hshows
      split_ifs at hshows ⊢ <;> simp_all
    | some slot =>
      rw [hslot] at hshows
      split_ifs at hshows ⊢ <;> simp_all
  · obtain ⟨-, rfl⟩ := Entry.packetAt_opened.1 hp
    refine ⟨update_self .., fun k' j p' _ hp' => ⟨(h.ne_fresh hp').symm, ?_⟩⟩
    rintro rfl
    exact (hfree k' p' hp').symm

theorem poolDiscardCp (hmain : env.valid main = true) (key : Key)
    (hnodes : ∀ i ∈ nodes, env.valid i = true) :
    (s.poolDiscardCp env main nodes key = some s ∧ Free view main key) ∨
      ∃ s' k p, s.poolDiscardCp env main nodes key = some s' ∧
        PoolRep q env s' (update view k .unused) ∧
        (view k).packetAt main = some p ∧ p.2.key = key := by
  unfold Pool.poolDiscardCp Pool.poolGetCp
  rcases h.findPool_cases hmain with ⟨hfind, hfree⟩ | ⟨k, p, hfind, hp, hkey⟩
  · left
    rw [hfind]
    exact ⟨rfl, hfree⟩
  · right
    rw [hfind]
    obtain ⟨s', hclose, h'⟩ := (h.setClosetime k (fun i => decide (i = main)) 0).closeSlotsUnchecked
      (Entry.isUsed_of_packetAt hp) hnodes
    exact ⟨s', k, p, hclose, h', hp, hkey⟩

theorem free_of_unused (hp : (view k).packetAt env.main = some p) :
    Free (update view k .unused) env.main p.2.key :=
  (forall_update_iff view fun _ e => ∀ p', e.packetAt env.main = some p' →
    p'.2.key ≠ p.2.key).2 ⟨nofun, fun k' hk p' hp' hkey => hk (h.unique k' k p' p hp' hp hkey)⟩

/-- A slot that was opened with the same packet is used again. -/
theorem connectUsingExistingConnection
    (hk : ∀ i, env.valid i = true → (view k).packetAt i = some (a, sp)) (reauth : Bool) :
    ∃ s', s.connectUsingExistingConnection env k sp reauth =
        some (s', if reauth then some k else none) ∧
      PoolRep q env s' (update view k (.opened s.fresh sp env.validNodes)) ∧
      s.SameConnections s' k := by
  have hmain := hk env.main env.main_valid
  have hheap := h.heap k env.main _ hmain
  obtain ⟨hlt, hcopies, hread⟩ := h.read a sp hheap
  have hused := Entry.isUsed_of_packetAt hmain
  let s₁ : Pool n m := ⟨update (update s.heap s.fresh (some sp)) a none,
    s.fresh + 1, s.pools⟩
  have hkeep : ∀ b, b ≠ a → b ≠ s.fresh → s₁.heap b = s.heap b := fun b hb hb' =>
    (update_of_ne hb _ _).trans (update_of_ne hb' _ _)
  have hnew : s₁.heap s.fresh = some sp :=
    (update_of_ne hlt.ne' _ _).trans (update_self ..)
  refine ⟨s₁.replacePacket k env.valid s.fresh, ?_, ?_, fun i => ?_⟩
  · unfold Pool.connectUsingExistingConnection
    have hall : (env.validNodes.all fun i => (s.pools k i).isSome) = true := by
      rw [all_eq_true]
      intro i hi
      rw [h.isSome, hused, mem_validNodes.1 hi]
      rfl
    rw [if_pos hall]
    cases hfind : env.validNodes.findSome? (s.pools k) with
    | none =>
      have hnone := List.findSome?_eq_none_iff.1 hfind env.main (mem_validNodes.2 env.main_valid)
      have hsome := h.isSome k env.main
      rw [hnone, hused, env.main_valid] at hsome
      cases hsome
    | some slot =>
      obtain ⟨i, hi, hslot⟩ := exists_of_findSome?_eq_some hfind
      have hfree : (s.startupPacketCopy sp).1.poolFreeStartupPacket slot.sp = some s₁ := by
        rw [(h.slot_eq hslot).1, hk i (mem_validNodes.1 hi)]
        simp [Pool.poolFreeStartupPacket, Pool.startupPacketCopy, hlt.ne, hheap, s₁]
      dsimp only
      rw [if_pos hcopies, hfree]
      rfl
  · refine h.set (fun k' hne => update_of_ne hne _ _) (fun i => ?_)
      (fun k' i p hne hp => ?_) (fun b sp' hsp' => ?_) fun i p hp => ?_
    · have hshows := h.shows k i
      simp only [Pool.replacePacket, update_self]
      by_cases hi : env.valid i = true
      · simp [Entry.slot, hused, hi, hk i hi] at hshows
        obtain ⟨slot, hslot, -, hopened⟩ := hshows
        simp [Entry.slot, Entry.isUsed, Entry.packetAt, mem_validNodes, hi, s₁, hslot, hopened]
      · simp [Entry.slot, hi] at hshows
        simp [Entry.slot, hi, s₁, hshows]
    · refine hkeep p.1 (fun heq => hne ?_) (h.ne_fresh hp)
      exact h.apart k' k i env.main p _ hp hmain heq
    · have hb : b ≠ a := by
        rintro rfl
        exact absurd ((update_self ..).symm.trans hsp') nofun
      exact h.read_copy hcopies hread b sp' ((update_of_ne hb _ _).symm.trans hsp')
    · obtain ⟨-, rfl⟩ := Entry.packetAt_opened.1 hp
      refine ⟨hnew, fun k' j p' hne hp' => ⟨(h.ne_fresh hp').symm, ?_⟩⟩
      rintro rfl hkey
      exact hne (h.unique k' k p' _ hp' hmain hkey.symm)
  · simp only [Pool.replacePacket, update_self]
    split_ifs
    · rw [Option.map_map]
      rfl
    · rfl

end PoolRep

/-! ### Clients -/

theorem PoolRep.complete (h : PoolRep q env s (update view k (.opened a sp env.validNodes)))
    (hwhole : Whole env view) : PoolInv q env s ∧ s.OpenedWith env k sp := by
  have hall : ∀ i, env.valid i = true →
      (Entry.opened a sp env.validNodes).packetAt i = some (a, sp) :=
    fun i hi => Entry.packetAt_opened.2 ⟨mem_validNodes.2 hi, rfl⟩
  refine ⟨⟨_, h, hwhole.update fun p hp i hi => ?_⟩, h.openedWith (p := (a, sp)) fun i hi => ?_⟩
  · rw [hall i hi, ← hp, hall _ env.main_valid]
  · rw [update_self, hall i hi]

/-- A new connection goes to a slot of its own. -/
theorem PoolInv.connectBackend (h : PoolRep q env s view) (hwhole : Whole env view) (hm : 0 < m)
    (hfree : Free view env.main sp.key) (hread : ∃ packet, readStartupPacket q packet = some sp)
    (outcome : Outcome n) :
    ∃ s' r, s.connectBackend env sp outcome = some (s', r) ∧ PoolInv q env s' ∧
      ∀ k, r = some k → s'.OpenedWith env k sp := by
  obtain ⟨s₁, k, hcreate, h₁⟩ := h.poolCreateCp hm
  have hfree₁ := hfree.update (k := k) (e := .created) rfl
  have hvalid : ∀ i ∈ env.validNodes, env.valid i = true := fun i hi => mem_validNodes.1 hi
  unfold Pool.connectBackend
  rw [hcreate]
  dsimp only
  have h₂ := fun hcopies =>
    h₁.savePacket (update_self ..) (outcome.reached env.validNodes) hfree₁ hcopies hread
  rw [update_idem] at h₂
  split_ifs with hcopies hconnected
  · have h₂ := h₂ hcopies
    subst hconnected
    obtain ⟨hinv, hopened⟩ := PoolRep.complete h₂ hwhole
    refine ⟨_, some k, rfl, hinv, ?_⟩
    rintro k' ⟨⟩
    exact hopened
  · have h₂ := h₂ hcopies
    rcases h₂.poolDiscardCp env.main_valid sp.key hvalid with
      ⟨hdiscard, hnot⟩ | ⟨s₃, k', p, hdiscard, h₃, hp, hkey⟩
    -- the main node was not reached
    · refine ⟨_, none, by rw [hdiscard]; rfl, ⟨_, h₂, hwhole.update fun p hp => ?_⟩, nofun⟩
      obtain ⟨-, rfl⟩ := Entry.packetAt_opened.1 hp
      refine (hnot k (s₁.fresh, sp) ?_ rfl).elim
      rw [update_self]
      exact hp
    · have hk : k' = k := by
        by_contra hne
        rw [update_of_ne hne] at hp
        exact hfree k' p hp hkey
      subst hk
      rw [update_idem] at h₃
      exact ⟨s₃, none, by rw [hdiscard]; rfl, ⟨_, h₃, hwhole.update nofun⟩, nofun⟩
  · rcases h₁.poolDiscardCp env.main_valid sp.key hvalid with
      ⟨hdiscard, -⟩ | ⟨s₃, k', p, hdiscard, h₃, -⟩
    · exact ⟨_, none, by rw [hdiscard]; rfl, ⟨_, h₁, hwhole.update nofun⟩, nofun⟩
    · refine ⟨s₃, none, by rw [hdiscard]; rfl, ⟨_, h₃, ?_⟩, nofun⟩
      exact Whole.update (hwhole.update nofun) fun _ => nofun

/-- The sockets of the entry that is found are checked; if one is broken, the entry is closed. -/
theorem PoolInv.poolGetCp (h : PoolInv q env s) (key : Key) (broken : Fin n → Bool) :
    ∃ s' view, PoolRep q env s' view ∧ Whole env view ∧
      ((s.poolGetCp env env.main key (some broken) = some (s', none) ∧ Free view env.main key) ∨
        ∃ k p, s.poolGetCp env env.main key (some broken) = some (s', some k) ∧
          (view k).packetAt env.main = some p ∧ p.2.key = key) := by
  obtain ⟨view, h, hwhole⟩ := h
  unfold Pool.poolGetCp
  rcases h.findPool_cases env.main_valid with ⟨hfind, hfree⟩ | ⟨k, p, hfind, hp, hkey⟩
  · exact ⟨s, view, h, hwhole, .inl ⟨by rw [hfind], hfree⟩⟩
  · rw [hfind]
    have h₁ := h.setClosetime k (fun i => decide (i = env.main)) 0
    dsimp only
    split_ifs
    · obtain ⟨s₂, hclose, h₂⟩ := h₁.closeSlots k env.validNodes
      exact ⟨s₂, _, h₂, hwhole.update nofun,
        .inl ⟨by rw [hclose]; rfl, hkey ▸ h.free_of_unused hp⟩⟩
    · exact ⟨_, view, h₁, hwhole, .inr ⟨k, p, rfl, hp, hkey⟩⟩

theorem PoolInv.poolDiscardCp (h : PoolRep q env s view) (hwhole : Whole env view)
    (hmain : env.valid main = true) (key : Key) (hnodes : ∀ i ∈ nodes, env.valid i = true) :
    ∃ s' view', s.poolDiscardCp env main nodes key = some s' ∧ PoolRep q env s' view' ∧
      Whole env view' ∧ (main = env.main → Free view' main key) := by
  rcases h.poolDiscardCp hmain key hnodes with
    ⟨hdiscard, hfree⟩ | ⟨s', k, p, hdiscard, h', hp, hkey⟩
  · exact ⟨s, view, hdiscard, h, hwhole, fun _ => hfree⟩
  · refine ⟨s', _, hdiscard, h', hwhole.update nofun, ?_⟩
    rintro rfl
    exact hkey ▸ h.free_of_unused hp

/-- A connection is found or made, with the packet of the session. -/
theorem PoolInv.getConnection (h : PoolInv q env s) (hm : 0 < m)
    (hread : ∃ packet, readStartupPacket q packet = some sp) (c : Circumstances n) :
    ∃ s' r, s.getConnection env sp c = some (s', r) ∧ PoolInv q env s' ∧
      ∀ k, r = some k → s'.OpenedWith env k sp := by
  unfold Pool.getConnection
  obtain ⟨s₁, view, h₁, hwhole, ⟨hget, hfree⟩ | ⟨k, ⟨a, old⟩, hget, hp, hkey⟩⟩ :=
    h.poolGetCp sp.key c.broken
  · rw [hget]
    exact PoolInv.connectBackend h₁ hwhole hm hfree hread c.outcome
  · rw [hget]
    dsimp only
    rw [h₁.mainSp env.main_valid, hp]
    dsimp only [Option.map_some]
    by_cases hbytes : sp.startupPacket = old.startupPacket
    · rw [if_pos hbytes]
      obtain ⟨packet, hpacket⟩ := hread
      obtain ⟨-, -, packet', hpacket'⟩ := h₁.read a old (h₁.heap k _ _ hp)
      obtain rfl := readStartupPacket_injective hpacket hpacket' hbytes
      obtain ⟨s₂, hreuse, h₂, -⟩ := h₁.connectUsingExistingConnection (hwhole k _ hp) c.reauth
      obtain ⟨hinv, hopened⟩ := h₂.complete hwhole
      refine ⟨s₂, _, hreuse, hinv, fun k' hk' => ?_⟩
      split_ifs at hk'
      cases hk'
      exact hopened
    · rw [if_neg hbytes]
      obtain ⟨s₂, view₂, hdiscard, h₂, hwhole₂, hfree⟩ := PoolInv.poolDiscardCp h₁ hwhole
        env.main_valid sp.key fun i hi => mem_validNodes.1 hi
      rw [hdiscard]
      exact PoolInv.connectBackend h₂ hwhole₂ hm (hfree rfl) hread c.outcome

theorem PoolInv.closeIdleConnection (h : PoolInv q env s) (ks : List (Fin m)) :
    ∃ s', s.closeIdleConnection ks = some s' ∧ PoolInv q env s' := by
  induction ks generalizing s with
  | nil => exact ⟨s, rfl, h⟩
  | cons k ks ih =>
    obtain ⟨view, hrep, hwhole⟩ := h
    unfold Pool.closeIdleConnection
    cases hslot : inUse (s.pools k) with
    | none => exact ih ⟨view, hrep, hwhole⟩
    | some slot =>
      obtain ⟨i, -, hi⟩ := exists_of_findSome?_eq_some hslot
      obtain ⟨s₁, hclose, h₁⟩ := hrep.closeSlots k (List.finRange n)
      dsimp only
      rw [hrep.readSp hi]
      dsimp only
      split_ifs
      · rw [hclose]
        exact ih ⟨_, h₁, hwhole.update nofun⟩
      · exact ih ⟨view, hrep, hwhole⟩

theorem PoolInv.getBackendConnection (h : PoolInv q env s) (hm : 0 < m) (packet : Bytes)
    (c : Circumstances n) :
    ∃ s' r, s.getBackendConnection q env packet c = some (s', r) ∧ PoolInv q env s' ∧
      ∀ k, r = some k → ∃ sp, readStartupPacket q packet = some sp ∧ s'.OpenedWith env k sp := by
  unfold Pool.getBackendConnection
  cases hread : readStartupPacket q packet with
  | none => exact ⟨s, none, rfl, h, nofun⟩
  | some sp =>
    have hclose : ∃ s₁, (if c.needToRestart then s.closeIdleConnection (List.finRange m)
        else some s) = some s₁ ∧ PoolInv q env s₁ := by
      split_ifs
      · exact h.closeIdleConnection (List.finRange m)
      · exact ⟨s, rfl, h⟩
    obtain ⟨s₁, hs₁, h₁⟩ := hclose
    obtain ⟨s₂, r, hget, h₂, hopened⟩ := h₁.getConnection hm ⟨packet, hread⟩ c
    dsimp only
    rw [hs₁]
    exact ⟨s₂, r, hget, h₂, fun k hk => ⟨sp, rfl, hopened k hk⟩⟩

/-! ### The end of a session, and the timer -/

/-- The timer keeps the invariant. -/
theorem PoolInv.poolBackendTimer (h : PoolInv q env s) (now : ℕ) (ks : List (Fin m)) :
    ∃ s', s.poolBackendTimer env now ks = some s' ∧ PoolInv q env s' := by
  induction ks generalizing s with
  | nil => exact ⟨s, rfl, h⟩
  | cons k ks ih =>
    obtain ⟨view, hrep, hwhole⟩ := h
    unfold Pool.poolBackendTimer
    cases hslot : s.pools k env.main with
    | none => exact ih ⟨view, hrep, hwhole⟩
    | some slot =>
      have hused := hrep.isSome k env.main
      rw [hslot, env.main_valid, Bool.and_true] at hused
      obtain ⟨s₁, hclose, h₁⟩ :=
        hrep.closeSlotsUnchecked hused.symm fun i (hi : i ∈ env.validNodes) => mem_validNodes.1 hi
      dsimp only
      rw [hrep.readSp hslot]
      dsimp only
      split_ifs
      · rw [hclose]
        exact ih ⟨_, h₁, hwhole.update nofun⟩
      · exact ih ⟨view, hrep, hwhole⟩

/-- The entry of a session has a connection to each valid backend. -/
def Pool.InUse (s : Pool n m) (env : Backends n) (k : Fin m) : Prop :=
  ∀ i, env.valid i = true → (s.pools k i).isSome = true

theorem PoolInv.backendCleanup (h : PoolInv q env s) (hk : s.InUse env k) (cached : Bool) (now : ℕ)
    (hmain : env.valid main = true) (hnodes : ∀ i ∈ nodes, env.valid i = true) :
    ∃ s', s.backendCleanup env k cached now main nodes = some s' ∧ PoolInv q env s' := by
  obtain ⟨view, hrep, hwhole⟩ := h
  unfold Pool.backendCleanup
  split_ifs
  · exact ⟨_, rfl, view, hrep.setClosetime .., hwhole⟩
  · obtain ⟨slot, hslot⟩ := Option.isSome_iff_exists.1 (hk main hmain)
    rw [hslot]
    dsimp only
    rw [hrep.readSp hslot]
    cases (view k).packetAt main with
    | none => exact ⟨s, rfl, view, hrep, hwhole⟩
    | some p =>
      obtain ⟨s', view', hdiscard, h', hwhole', -⟩ :=
        PoolInv.poolDiscardCp hrep hwhole hmain p.2.key hnodes
      exact ⟨s', hdiscard, view', h', hwhole'⟩

/-- A connection with the same packet is found again. -/
theorem PoolInv.reuse (h : PoolInv q env s) {slot : Slot} (hslot : s.pools k env.main = some slot)
    (hopened : slot.opened = some sp) (hread : readStartupPacket q packet = some sp)
    (hrestart : c.needToRestart = false) (hbroken : ∀ i, env.valid i = true → c.broken i = false)
    (hreauth : c.reauth = true) :
    ∃ s', s.getBackendConnection q env packet c = some (s', some k) ∧ s.SameConnections s' k := by
  obtain ⟨view, h, hwhole⟩ := h
  obtain ⟨⟨a, sp'⟩, hp, hsp⟩ := Option.map_eq_some_iff.1 ((h.slot_eq hslot).2.symm.trans hopened)
  obtain rfl : sp' = sp := hsp
  have h₁ := h.setClosetime k (fun i => decide (i = env.main)) 0
  have hget : s.poolGetCp env env.main sp'.key (some c.broken) =
      some (s.setClosetime k (fun i => decide (i = env.main)) 0, some k) := by
    rcases h.findPool_cases env.main_valid with ⟨-, hfree⟩ | ⟨k', p', hfind, hp', hkey⟩
    · exact absurd rfl (hfree k _ hp)
    · obtain rfl := h.unique k' k p' _ hp' hp hkey
      unfold Pool.poolGetCp
      rw [hfind]
      dsimp only
      rw [if_neg]
      rw [any_eq_true]
      rintro ⟨i, hi, hbad⟩
      have hvalid := mem_validNodes.1 hi
      have hsome := h₁.isSome k' i
      rw [hbroken i hvalid, Bool.or_false] at hbad
      simp [Option.isNone_iff_eq_none.1 hbad, Entry.isUsed_of_packetAt hp, hvalid] at hsome
  obtain ⟨s₂, hreuse, -, hcon⟩ := h₁.connectUsingExistingConnection (hwhole k _ hp) c.reauth
  refine ⟨s₂, ?_, fun i => (hcon i).trans (sameConnections_setClosetime _ 0 i)⟩
  unfold Pool.getBackendConnection Pool.getConnection
  rw [hreauth] at hreuse
  rw [hread, hrestart]
  simp only [Bool.false_eq_true, if_false, Option.bind_some, hget,
    h₁.mainSp env.main_valid, hp, Option.map_some, if_true, hreauth]
  exact hreuse

end Invariant

/-! ## Runs -/

section Runs

variable {n m : ℕ} {q : QSort} {env : Backends n}

/-- What holds in a child between two events. -/
structure ChildPoolInv (q : QSort) (env : Backends n) (s : ChildPool n m) : Prop where
  pool : PoolInv q env s.pool
  session : ∀ k, s.session = some k → s.pool.InUse env k

theorem childPoolInv_start : ChildPoolInv q env (poolStart n m) where
  session := nofun
  pool := by
    refine ⟨fun _ => .unused, ⟨fun k i => rfl, nofun, ?_, ?_, nofun⟩, nofun⟩
    · intro k k' i j p p' hp
      cases hp
    · intro k k' p p' hp
      cases hp

variable {k : Fin m} {sp : StartupPacket}

theorem Pool.OpenedWith.inUse {s : Pool n m} (h : s.OpenedWith env k sp) : s.InUse env k := by
  intro i hi
  obtain ⟨slot, hslot, -⟩ := h i hi
  rw [hslot]
  rfl

variable {s : ChildPool n m}

/-- Every event of a child keeps the invariant. -/
theorem childPoolInv_step (hm : 0 < m) (h : ChildPoolInv q env s) (event : PoolEvent env) :
    ∃ s', poolStep q s event = some s' ∧ ChildPoolInv q env s' := by
  cases event with
  | connect packet c =>
    unfold poolStep
    cases hsession : s.session with
    | some k => exact ⟨s, rfl, h⟩
    | none =>
      obtain ⟨pool, r, hget, hpool, hopened⟩ := h.pool.getBackendConnection hm packet c
      refine ⟨⟨pool, r⟩, by simp only [hget, Option.map_some], hpool, fun k hk => ?_⟩
      obtain ⟨sp, -, hsp⟩ := hopened k hk
      exact hsp.inUse
  | disconnect cached now main nodes =>
    unfold poolStep
    cases hsession : s.session with
    | none => exact ⟨s, rfl, h⟩
    | some k =>
      have hnodes : ∀ i ∈ nodes.map Subtype.val, env.valid i = true := by
        intro i hi
        obtain ⟨node, -, rfl⟩ := mem_map.1 hi
        exact node.2
      obtain ⟨pool, hcleanup, hpool⟩ :=
        h.pool.backendCleanup (h.session k hsession) cached now main.2 hnodes
      exact ⟨⟨pool, none⟩, by simp only [hcleanup, Option.map_some], hpool, nofun⟩
  | expire now =>
    unfold poolStep
    cases hsession : s.session with
    | some k => exact ⟨s, rfl, h⟩
    | none =>
      obtain ⟨pool, htimer, hpool⟩ := h.pool.poolBackendTimer now (List.finRange m)
      exact ⟨⟨pool, none⟩, by simp only [htimer, Option.map_some], hpool, nofun⟩

theorem childPoolInv_run (hm : 0 < m) (history : List (PoolEvent env)) (h : ChildPoolInv q env s) :
    ∃ s', history.foldlM (poolStep q) s = some s' ∧ ChildPoolInv q env s' :=
  History.exists_run (fun event _ _ h => childPoolInv_step hm h event) h

variable {c c' : ClientPacket} {circumstances : Circumstances n}

/-- The packets of two clients that only order their options differently are read alike. -/
theorem readStartupPacket_of_perm (hversion : c.version = c'.version)
    (hperm : c.options.Perm c'.options) (hnodup : (c.options.map GucOption.name).Nodup) :
    readStartupPacket q c'.bytes = readStartupPacket q c.bytes := by
  have hlength : c'.bytes.length = c.bytes.length := by
    simp only [ClientPacket.bytes, length_append, hversion, length_written_perm hperm]
  have hmajor : ∀ d : ClientPacket, protoMajor d.bytes = 3 := fun d => by
    simp [protoMajor, ClientPacket.bytes, ClientPacket.version]
  unfold readStartupPacket
  rw [hlength, hmajor, hmajor, sortPacket_of_perm hversion hperm hnodup]

/-- The packets differ at most in the order of their options, whose names are distinct. -/
def ClientPacket.Reorders (c c' : ClientPacket) : Prop :=
  c.version = c'.version ∧ c.options.Perm c'.options ∧ (c.options.map GucOption.name).Nodup

/-- The connections of the entry to all valid backends were opened for the user and database of this
client, with its protocol version and its options. -/
def Pool.EquivalentTo (s : Pool n m) (q : QSort) (env : Backends n) (k : Fin m)
    (c : ClientPacket) : Prop :=
  ∃ sp, readStartupPacket q c.bytes = some sp ∧ ∀ i, env.valid i = true →
    ∃ slot opened, s.pools k i = some slot ∧ slot.opened = some opened ∧
      opened.user = sp.user ∧ opened.database = sp.database ∧
      opened.major = sp.major ∧ opened.minor = sp.minor ∧ opened.options.Perm c.options

/-- The connection of the entry to the main node was opened with the packet of this client. -/
def Pool.OpenedBy (s : Pool n m) (q : QSort) (env : Backends n) (k : Fin m)
    (c : ClientPacket) : Prop :=
  ∃ slot sp, s.pools k env.main = some slot ∧ slot.opened = some sp ∧
    readStartupPacket q c.bytes = some sp

/-- Nothing but the packet stands against using an entry again. -/
def Circumstances.Undisturbed (c : Circumstances n) (env : Backends n) : Prop :=
  c.needToRestart = false ∧ (∀ i, env.valid i = true → c.broken i = false) ∧ c.reauth = true

theorem Pool.OpenedWith.equivalentTo {s : Pool n m} (hread : readStartupPacket q c.bytes = some sp)
    (h : s.OpenedWith env k sp) : s.EquivalentTo q env k c := by
  refine ⟨sp, hread, fun i hi => ?_⟩
  obtain ⟨slot, hslot, hopened⟩ := h i hi
  exact ⟨slot, sp, hslot, hopened, rfl, rfl, rfl, rfl, options_readStartupPacket hread⟩

theorem length_sortPacket : (sortPacket q c.bytes).length = c.bytes.length := by
  rw [sortPacket_bytes]
  simp only [ClientPacket.bytes, length_append, length_written_perm (q.perm c.options)]

theorem options_sortPacket : (optionsAt ((sortPacket q c.bytes).drop 4)).Perm c.options := by
  have hdrop : (c.version ++ (written (q.sort c.options) ++ [0])).drop 4 =
      written (q.sort c.options) ++ [0] := rfl
  rw [sortPacket_bytes, hdrop, optionsAt_written (wellFormed_sort q c.wellFormed)]
  exact q.perm c.options

/-- In an idle child, a client is given the entry that was opened with a packet like its own. -/
theorem ChildPoolInv.reuse (h : ChildPoolInv q env s) (hidle : s.session = none)
    (hopened : s.pool.OpenedBy q env k c) (hreorders : c.Reorders c')
    (hundisturbed : circumstances.Undisturbed env) :
    ∃ s', poolStep q s (.connect c'.bytes circumstances : PoolEvent env) = some s' ∧
      s'.session = some k ∧ s.pool.SameConnections s'.pool k := by
  obtain ⟨slot, sp, hslot, hopened, hread⟩ := hopened
  obtain ⟨hversion, hperm, hnodup⟩ := hreorders
  obtain ⟨hrestart, hbroken, hreauth⟩ := hundisturbed
  have hread' : readStartupPacket q c'.bytes = some sp :=
    (readStartupPacket_of_perm hversion hperm hnodup).trans hread
  obtain ⟨pool, hget, hcon⟩ := h.pool.reuse hslot hopened hread' hrestart hbroken hreauth
  exact ⟨⟨pool, some k⟩, by simp only [poolStep, hidle, hget, Option.map_some], rfl, hcon⟩

/-- **A pooled connection is one that the client could have opened itself.**  After every history
of a child: a client that is given an entry in the idle child gets connections opened for its user,
database, version and options, and the entry counts as opened with its packet; and a later client
whose packet differs at most in the order of the options is given the same connections again. -/
theorem pooled_connection_equivalent (m : ℕ) (q : QSort) (env : Backends n)
    (history : List (PoolEvent env)) : (0 < m → ∃ s, poolRun m q history = some s) ∧
    (∀ s, poolRun m q history = some s → s.session = none →
      ∀ (c : ClientPacket) (circumstances : Circumstances n) (s' : ChildPool n m) (k : Fin m),
        poolStep q s (.connect c.bytes circumstances : PoolEvent env) = some s' →
        s'.session = some k → s'.pool.EquivalentTo q env k c ∧ s'.pool.OpenedBy q env k c) ∧
    ∀ c c' : ClientPacket, c.Reorders c' → (sortPacket q c.bytes = sortPacket q c'.bytes ∧
        (sortPacket q c.bytes).length = c.bytes.length ∧
        (optionsAt ((sortPacket q c.bytes).drop 4)).Perm c.options) ∧
      ∀ s, poolRun m q history = some s → s.session = none →
        ∀ (k : Fin m) (circumstances : Circumstances n), s.pool.OpenedBy q env k c →
        circumstances.Undisturbed env →
        ∃ s', poolStep q s (.connect c'.bytes circumstances : PoolEvent env) = some s' ∧
          s'.session = some k ∧ s.pool.SameConnections s'.pool k := by
  -- without entries there is nothing to hand out
  have hinv : ∀ k : Fin m, ∃ s, poolRun m q history = some s ∧ ChildPoolInv q env s := fun k =>
    childPoolInv_run (Nat.zero_lt_of_lt k.2) history childPoolInv_start
  refine ⟨fun hm => ?_, ?_, ?_⟩
  · obtain ⟨s, hs, -⟩ := hinv ⟨0, hm⟩
    exact ⟨s, hs⟩
  · intro s hs hidle c circumstances s' k hstep hk
    obtain ⟨s₀, hs₀, h⟩ := hinv k
    obtain rfl := Option.some.inj (hs.symm.trans hs₀)
    obtain ⟨pool, r, hget, -, hopened⟩ :=
      h.pool.getBackendConnection (Nat.zero_lt_of_lt k.2) c.bytes circumstances
    simp only [poolStep, hidle, hget, Option.map_some] at hstep
    obtain rfl := Option.some.inj hstep
    obtain ⟨sp, hread, hsp⟩ := hopened k hk
    obtain ⟨slot, hslot, hslotOpened⟩ := hsp env.main env.main_valid
    exact ⟨hsp.equivalentTo hread, slot, sp, hslot, hslotOpened, hread⟩
  · intro c c' hreorders
    refine ⟨⟨sortPacket_of_perm hreorders.1 hreorders.2.1 hreorders.2.2, length_sortPacket,
      options_sortPacket⟩, ?_⟩
    intro s hs hidle k circumstances hopened hundisturbed
    obtain ⟨s₀, hs₀, h⟩ := hinv k
    obtain rfl := Option.some.inj (hs.symm.trans hs₀)
    exact h.reuse hidle hopened hreorders hundisturbed

end Runs

/-! ### Two clients -/

/-- A single backend, which is valid. -/
def oneBackend : Backends 1 := ⟨fun _ => true, 0, rfl, 0⟩

/-- No restart, no broken socket, and authentication succeeds. -/
def goodCircumstances : Circumstances 1 := ⟨false, fun _ => false, .connected, true⟩

/-- A packet with the user before the database. -/
def userFirst : ClientPacket :=
  ⟨0, 0, [⟨ascii "user", ascii "u"⟩, ⟨ascii "database", ascii "d"⟩], by decide⟩

/-- The same options the other way round. -/
def databaseFirst : ClientPacket :=
  ⟨0, 0, [⟨ascii "database", ascii "d"⟩, ⟨ascii "user", ascii "u"⟩], by decide⟩

/-- A client connects and leaves, and its connection is kept. -/
def cachedSession : List (PoolEvent oneBackend) :=
  [.connect userFirst.bytes goodCircumstances, .disconnect true 5 ⟨0, rfl⟩ []]

/-- The next client names its options in another order, and is given the connection. -/
theorem reordered_client_reuses : userFirst.Reorders databaseFirst ∧
    goodCircumstances.Undisturbed oneBackend ∧
    ∃ s, poolRun 1 insertionQSort cachedSession = some s ∧ s.session = none ∧
      s.pool.OpenedBy insertionQSort oneBackend 0 userFirst ∧
      ∃ s', poolStep insertionQSort s (.connect databaseFirst.bytes goodCircumstances :
          PoolEvent oneBackend) = some s' ∧ s'.session = some 0 ∧
        s.pool.SameConnections s'.pool 0 ∧
        s'.pool.EquivalentTo insertionQSort oneBackend 0 databaseFirst := by
  have hreorders : userFirst.Reorders databaseFirst := ⟨rfl, by decide, by decide⟩
  have hgood : goodCircumstances.Undisturbed oneBackend := ⟨rfl, fun _ _ => rfl, rfl⟩
  obtain ⟨hruns, hgiven, hreused⟩ :=
    pooled_connection_equivalent 1 insertionQSort oneBackend cachedSession
  obtain ⟨s, hs⟩ := hruns one_pos
  have hcached : (poolRun 1 insertionQSort cachedSession).map (fun s => (s.session,
      (s.pool.pools 0 0).bind Slot.opened)) =
        some (none, readStartupPacket insertionQSort userFirst.bytes) := by decide +kernel
  have hread : (readStartupPacket insertionQSort userFirst.bytes).isSome = true := by
    decide +kernel
  obtain ⟨sp, hsp⟩ := Option.isSome_iff_exists.1 hread
  rw [hs, hsp, Option.map_some, Option.some.injEq, Prod.mk.injEq] at hcached
  obtain ⟨hidle, hopened⟩ := hcached
  obtain ⟨slot, hslot, hopened⟩ := Option.bind_eq_some_iff.1 hopened
  have hby : s.pool.OpenedBy insertionQSort oneBackend 0 userFirst :=
    ⟨slot, sp, hslot, hopened, hsp⟩
  obtain ⟨s', hstep, hsession, hsame⟩ :=
    (hreused _ _ hreorders).2 s hs hidle 0 goodCircumstances hby hgood
  exact ⟨hreorders, hgood, s, hs, hidle, hby, s', hstep, hsession, hsame,
    (hgiven s hs hidle _ _ s' 0 hstep hsession).1⟩

end PgBalancer.Child
