import PgBalancer.Main.RequestQueue

/-!
# Requests to take backends down

`degenerate_backend_set_ex` keeps the eligible ids of a list in an array of its own, asks the
watchdog what is to become of them, and stores a request in the queue.  What the queue says is not
looked at.

* `accepted_iff` — **a list that is reported as accepted is not lost, and fits into the array, if
  and only if the queue is not full when it is needed and at most `MAX_NUM_BACKENDS` entries are
  eligible**.
-/

namespace PgBalancer.Main

open List MachineInt

/-- `WDFailoverCMDResults` -/
inductive WdFailoverResult where
  | error | transition | success | proceed | noQuorum | willBeDone | notAllowed | invalidFunction
  | leaderRejected | buildingConsensus | consensusMayFail | timeout
  deriving DecidableEq

/-- `REQ_DETAIL_WATCHDOG` -/
def reqDetailWatchdog : UInt8 := 0x02

/-- What is looked at of a backend: `VALID_BACKEND`, the flag, and `POOL_DISALLOW_TO_FAILOVER`. -/
structure FailoverTarget where
  valid : Bool
  quarantine : Bool
  disallowed : Bool

/-- The circumstances of a call; the watchdog may be asked several times. -/
structure DegenerateEnv where
  targets : Fin 128 → FailoverTarget
  wdDegenerateBackendSet : Nat → WdFailoverResult
  queue : Queue 128

namespace DegenerateEnv

variable (env : DegenerateEnv)

/-- The checks of one id; `MAX_NUM_BACKENDS` is 128. -/
def eligible (id : Int) : Option (Fin 128) :=
  if h : 0 ≤ id ∧ id < 128 then
    let i : Fin 128 := ⟨id.toNat, by omega⟩
    if ((env.targets i).valid || (env.targets i).quarantine) && !(env.targets i).disallowed then
      some i
    else none
  else none

/-- The ids in the array `node_id`. -/
def nodeIds (nodeIdSet : List Int) : List (Fin 128) := nodeIdSet.filterMap env.eligible

/-- `ereport(elevel)` does not return for some id. -/
def raises (nodeIdSet : List Int) (error : Bool) : Bool :=
  error && nodeIdSet.any fun id => (env.eligible id).isNone

/-- The ids that are looked at before an error is raised. -/
def considered (nodeIdSet : List Int) (error : Bool) : List Int :=
  if error then nodeIdSet.takeWhile fun id => (env.eligible id).isSome else nodeIdSet

/-- The indices at which the array is written. -/
def arrayWrites (nodeIdSet : List Int) (error : Bool) : List Nat :=
  range (env.nodeIds (env.considered nodeIdSet error)).length

/-- The answer of the watchdog, which is asked ten times while the cluster is in transition. -/
def answer (flags : UInt8) : WdFailoverResult :=
  if hasDetail flags reqDetailWatchdog then .proceed
  else (((range 10).map env.wdDegenerateBackendSet).find? (· ≠ .transition)).getD .transition

/-- `register_node_operation_request` finds the queue full, in the first look or in the second. -/
def full : Prop := wrapInt (env.queue.tail - maxRequestQueueSize) = env.queue.head

instance : Decidable env.full := inferInstanceAs (Decidable (_ = _))

/-- `register_node_operation_request`, while nobody else registers a request. -/
def registerNodeOperationRequest (r : Request 128) : Queue 128 :=
  if env.full then env.queue else env.queue.store r

/-- `degenerate_backend_set_ex`, if it is not only a test: what it returns, unless an error is
raised, and the queue afterwards. -/
def degenerateBackendSetEx (nodeIdSet : List Int) (flags : UInt8) (error : Bool) :
    Option (Bool × Queue 128) :=
  if env.raises nodeIdSet error then none
  else
    match env.nodeIds nodeIdSet with
    | [] => some (true, env.queue)
    | first :: rest =>
      match env.answer flags with
      | .proceed =>
        some (true, env.registerNodeOperationRequest (.nodes .nodeDown first rest flags))
      | .noQuorum | .consensusMayFail =>
        some (true, env.registerNodeOperationRequest (.nodes .nodeQuarantine first rest flags))
      | .buildingConsensus | .willBeDone => some (true, env.queue)
      | _ => if error then none else some (false, env.queue)

/-- There was nothing to do, the watchdog does it, or exactly the eligible ids are in the queue. -/
def Kept (nodeIdSet : List Int) (flags : UInt8) (q : Queue 128) : Prop :=
  env.nodeIds nodeIdSet = [] ∨ env.answer flags = .willBeDone ∨
    env.answer flags = .buildingConsensus ∨
    ∃ kind first rest, (kind = .nodeDown ∨ kind = .nodeQuarantine) ∧
      env.nodeIds nodeIdSet = first :: rest ∧
      q.registered = env.queue.registered ++ [.nodes kind first rest flags]

/-- The answers upon which the queue is needed. -/
def needsQueue (flags : UInt8) : Prop :=
  env.answer flags = .proceed ∨ env.answer flags = .noQuorum ∨ env.answer flags = .consensusMayFail

variable {env} {nodeIdSet : List Int} {flags : UInt8}

theorem kept_register_iff {kind : RequestKind} {first : Fin 128} {rest : List (Fin 128)}
    (hkind : kind = .nodeDown ∨ kind = .nodeQuarantine)
    (hids : env.nodeIds nodeIdSet = first :: rest)
    (hneeds : env.needsQueue flags) :
    env.Kept nodeIdSet flags (env.registerNodeOperationRequest (.nodes kind first rest flags)) ↔
      ¬ env.full := by
  unfold registerNodeOperationRequest
  constructor
  · intro h hfull
    rw [if_pos hfull] at h
    rcases h with h | h | h | ⟨_, _, _, _, _, h⟩
    · simp [hids] at h
    · simp [needsQueue, h] at hneeds
    · simp [needsQueue, h] at hneeds
    · simpa using congrArg length h
  · intro hfull
    rw [if_neg hfull]
    exact .inr (.inr (.inr ⟨kind, first, rest, hkind, hids, rfl⟩))

/-- **An accepted request is kept as it was made, and the array of its nodes is not overrun**, if
and only if the queue has room for it and at most 128 nodes are named. -/
theorem accepted_iff (env : DegenerateEnv) (nodeIdSet : List Int) (flags : UInt8) (error : Bool) :
    ((∀ q, env.degenerateBackendSetEx nodeIdSet flags error = some (true, q) →
        env.Kept nodeIdSet flags q) ∧ ∀ k ∈ env.arrayWrites nodeIdSet error, k < 128) ↔
      ¬ (env.full ∧ env.needsQueue flags ∧ env.nodeIds nodeIdSet ≠ [] ∧
        env.raises nodeIdSet error = false) ∧
      (env.nodeIds (env.considered nodeIdSet error)).length ≤ 128 := by
  refine and_congr ?_ ⟨fun h => ?_, fun h k hk => ?_⟩
  · unfold degenerateBackendSetEx
    cases hraises : env.raises nodeIdSet error with
    | true => simp
    | false =>
      cases hids : env.nodeIds nodeIdSet with
      | nil => simp [Kept, hids]
      | cons first rest =>
        by_cases hneeds : env.needsQueue flags
        · rcases id hneeds with h | h | h
          · simpa [h, hneeds] using kept_register_iff (.inl rfl) hids hneeds
          · simpa [h, hneeds] using kept_register_iff (.inr rfl) hids hneeds
          · simpa [h, hneeds] using kept_register_iff (.inr rfl) hids hneeds
        · refine iff_of_true (fun q hq => ?_) fun h => hneeds h.2.1
          cases h : env.answer flags <;> simp_all [needsQueue, Kept]
  · by_contra hlong
    exact absurd (h 128 (mem_range.2 (not_le.1 hlong))) (by decide)
  · exact (mem_range.1 hk).trans_le h

/-- The queue is full, and the array too small for 129 times the backend 0: the list is reported as
accepted, nothing is stored in the queue, and the array is written behind its end. -/
theorem full_queue_loses : let env : DegenerateEnv :=
      ⟨fun _ => ⟨true, false, false⟩, fun _ => .proceed, ⟨-1, 9, fun _ => .closeIdle, true, []⟩⟩
    (env.degenerateBackendSetEx [0] 0 false).map (fun r => (r.1, r.2.registered)) =
        some (true, []) ∧ env.nodeIds [0] = [0] ∧
      128 ∈ env.arrayWrites (replicate 129 0) false := by
  decide +kernel

end DegenerateEnv
end PgBalancer.Main
