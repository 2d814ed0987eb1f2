import Mathlib.Data.List.Basic

/-!
# The lock on the follow-primary command

Local processes take the lock and give it back; another node may take it too, through the watchdog.
A remote request that comes while a local process has the lock is remembered, and the local release
hands the lock over.  What a call does under the semaphore is one step.

* `lock_has_one_owner` — **while a local process has the lock nobody else gets it, and its release
  hands it to the remote node exactly if that has asked for it meanwhile**, in every run.
-/

namespace PgBalancer.Main

/-- The fields of `Req_info`. -/
structure FollowPrimaryLock where
  followPrimaryCount : Int := 0
  heldRemotely : Bool := false
  pending : Bool := false
  deriving DecidableEq

namespace FollowPrimaryLock

/-- One turn of the loop; the result is `none` if the caller sleeps and tries again. -/
def poolAcquireFollowPrimaryLock (l : FollowPrimaryLock) (block remoteRequest : Bool) :
    Option Bool × FollowPrimaryLock :=
  if l.followPrimaryCount ≤ 0 then
    (some true, { l with heldRemotely := remoteRequest, followPrimaryCount := 1 })
  else if remoteRequest then
    (some false, if l.heldRemotely then l else { l with pending := true })
  else if !block then (some false, l)
  else (none, l)

/-- `pool_release_follow_primary_lock` -/
def poolReleaseFollowPrimaryLock (l : FollowPrimaryLock) (remoteRequest : Bool) :
    FollowPrimaryLock :=
  if remoteRequest then
    if l.heldRemotely then ⟨0, false, false⟩ else { l with pending := false }
  else if l.pending then ⟨1, true, false⟩
  else ⟨0, false, false⟩

end FollowPrimaryLock

/-! ## Runs -/

/-- A call of one of the two functions.  On a change of the leader the remote lock is released. -/
inductive LockCall (P : Type) where
  | acquire (p : P) (block : Bool)
  | release (p : P)
  | remoteAcquire
  | remoteRelease
  | leaderChanged

/-- The lock, beside the processes that have acquired it and not released it, and whether a remote
request was refused while there is one and was not withdrawn. -/
structure Locking (P : Type) where
  lock : FollowPrimaryLock := {}
  owners : List P := []
  asked : Bool := false

namespace Locking

variable {P : Type} [DecidableEq P]

open FollowPrimaryLock

/-- Calls of `release` are matched: a process that does not have the lock makes none. -/
def step (s : Locking P) : LockCall P → Locking P
  | .acquire p block =>
    let r := s.lock.poolAcquireFollowPrimaryLock block false
    if r.1 = some true then ⟨r.2, p :: s.owners, false⟩ else { s with lock := r.2 }
  | .release p =>
    if p ∈ s.owners then
      ⟨s.lock.poolReleaseFollowPrimaryLock false, s.owners.erase p, false⟩
    else s
  | .remoteAcquire =>
    let r := s.lock.poolAcquireFollowPrimaryLock false true
    { s with lock := r.2, asked := s.asked || (r.1 = some false && s.owners ≠ []) }
  | .remoteRelease | .leaderChanged =>
    { s with lock := s.lock.poolReleaseFollowPrimaryLock true, asked := false }

/-- The lock after some calls. -/
def run (calls : List (LockCall P)) : Locking P := calls.foldl step {}

/-- Either one process has the lock, or none has it and no request is pending. -/
def Inv (s : Locking P) : Prop :=
  (∃ p asked, s = ⟨⟨1, false, asked⟩, [p], asked⟩) ∨
    s = ⟨⟨0, false, false⟩, [], false⟩ ∨ s = ⟨⟨1, true, false⟩, [], false⟩

theorem Inv.step {s : Locking P} (h : Inv s) (c : LockCall P) : Inv (s.step c) := by
  rcases h with ⟨p, asked, rfl⟩ | rfl | rfl
  · cases c with
    | release q =>
      by_cases hq : q = p
      · refine .inr ?_
        cases asked <;> simp [Locking.step, poolReleaseFollowPrimaryLock, hq]
      · exact .inl ⟨p, asked, if_neg (by simpa using hq)⟩
    | acquire q block =>
      exact .inl ⟨p, asked, by cases block <;> rfl⟩
    | remoteAcquire => exact .inl ⟨p, true, by cases asked <;> rfl⟩
    | remoteRelease | leaderChanged => exact .inl ⟨p, false, rfl⟩
  · cases c with
    | acquire q block => exact .inl ⟨q, false, rfl⟩
    | remoteAcquire => exact .inr (.inr rfl)
    | _ => exact .inr (.inl rfl)
  · cases c with
    | acquire q block => exact .inr (.inr (by cases block <;> rfl))
    | remoteRelease | leaderChanged => exact .inr (.inl rfl)
    | _ => exact .inr (.inr rfl)

theorem inv_run (calls : List (LockCall P)) : Inv (run calls) :=
  List.foldlRecOn calls Locking.step (.inr (.inl rfl)) fun _ h c _ => h.step c

/-- **While a local process has the lock no other call gets it and a remote release does not free
it; its own release hands the lock to the remote node exactly if that has asked meanwhile.** -/
theorem lock_has_one_owner (calls : List (LockCall P)) (p : P) (h : p ∈ (run calls).owners) :
    let s := run calls
    s.owners = [p] ∧
    (∀ block remote, (s.lock.poolAcquireFollowPrimaryLock block remote).1 ≠ some true) ∧
    (s.lock.poolReleaseFollowPrimaryLock true).followPrimaryCount = 1 ∧
    (s.lock.poolReleaseFollowPrimaryLock true).heldRemotely = false ∧
    (s.step (.release p)).lock = ⟨if s.asked then 1 else 0, s.asked, false⟩ := by
  rcases inv_run calls with ⟨q, asked, hs⟩ | hs | hs <;> rw [hs] at h ⊢
  · obtain rfl := List.mem_singleton.1 h
    refine ⟨rfl, fun block remote => ?_, rfl, rfl, ?_⟩
    · cases block <;> cases remote <;> nofun
    · cases asked <;> simp [Locking.step, poolReleaseFollowPrimaryLock]
  · cases h
  · cases h

/-- The owner releases the lock while a remote node waits for it. -/
theorem lock_handed_over :
    0 ∈ (run [.acquire 0 true, .remoteAcquire]).owners ∧
      ((run [.acquire 0 true, .remoteAcquire]).step (.release 0)).lock = ⟨1, true, false⟩ :=
  ⟨.head _, (lock_has_one_owner [.acquire 0 true, .remoteAcquire] 0 (.head _)).2.2.2.2⟩

end Locking
end PgBalancer.Main
