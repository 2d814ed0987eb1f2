import PgBalancer.Lib.Census

/-!
# Snapshots and commits in snapshot isolation mode

In snapshot isolation mode a session may not take its snapshot while another one commits,
and may not commit while another one takes its snapshot.  Two counters in shared memory say
how many sessions are in either phase.  A session enters a phase only while the counter of
the other phase is zero, and waits and tries again otherwise; every call works on the shared
memory inside a critical region, so it is one step here.

The calls come in pairs.  `si_get_snapshot` requests the snapshot, asks every backend whether
the transaction is read only, and reports the snapshot as acquired; `SimpleQuery`, `Execute`
and `ReadyForQuery` request the commit, send it to the backends, and report it as done.
Between the two calls of a pair an error or a disconnected client may end the session.

* `counters_run` — **in every run the counters are the sessions in the two phases and those
  that have ended there**, and never fewer: they only exclude too much.
* `snapshot_commit_exclusion` — **snapshots and commits exclude each other, and the counters are
  exact**, if no session ends between the two calls of a pair.
-/

namespace PgBalancer.Replication

open Census

/-- `SI_STATE` of a session -/
inductive SiState where
  | noSnapshot
  | snapshotPrepared
  deriving DecidableEq

/-- `SI_ManageInfo`, for the children `ι` -/
structure SiManageInfo (ι : Type) where
  snapshotCounter : Int
  commitCounter : Int
  snapshotWaitingChildren : ι → Bool
  commitWaitingChildren : ι → Bool

variable {ι : Type} [DecidableEq ι]

/-! ## The calls -/

/-- What a call of `si_acquire_snapshot` or `si_commit_request` does inside the critical
region once: it gets through, or has to try again. -/
structure Attempt (ι : Type) where
  info : SiManageInfo ι
  granted : Bool

/-- `si_acquire_snapshot`, one round of its loop -/
def siAcquireSnapshot (me : ι) (state : SiState) (m : SiManageInfo ι) : Attempt ι :=
  match state with
  | .noSnapshot =>
    if m.commitCounter > 0 then
      ⟨{ m with commitWaitingChildren := Function.update m.commitWaitingChildren me true }, false⟩
    else ⟨{ m with snapshotCounter := m.snapshotCounter + 1 }, true⟩
  | .snapshotPrepared => ⟨m, true⟩

/-- `si_snapshot_acquired`; who waits for the last snapshot is woken up -/
def siSnapshotAcquired (state : SiState) (m : SiManageInfo ι) : SiManageInfo ι × SiState :=
  match state with
  | .noSnapshot =>
    let counter := m.snapshotCounter - 1
    ({ m with
        snapshotCounter := counter
        snapshotWaitingChildren := if counter = 0 then fun _ => false
          else m.snapshotWaitingChildren },
      .snapshotPrepared)
  | .snapshotPrepared => (m, state)

/-- `si_commit_request`, one round of its loop -/
def siCommitRequest (me : ι) (state : SiState) (m : SiManageInfo ι) : Attempt ι :=
  match state with
  | .snapshotPrepared =>
    if m.snapshotCounter > 0 then
      ⟨{ m with snapshotWaitingChildren := Function.update m.snapshotWaitingChildren me true },
        false⟩
    else ⟨{ m with commitCounter := m.commitCounter + 1 }, true⟩
  | .noSnapshot => ⟨m, true⟩

/-- `si_commit_done`; who waits for the last commit is woken up -/
def siCommitDone (state : SiState) (m : SiManageInfo ι) : SiManageInfo ι × SiState :=
  match state with
  | .snapshotPrepared =>
    let counter := m.commitCounter - 1
    ({ m with
        commitCounter := counter
        commitWaitingChildren := if counter = 0 then fun _ => false
          else m.commitWaitingChildren },
      .noSnapshot)
  | .noSnapshot => (m, state)

/-! ## Sessions -/

/-- Where a session is. -/
inductive Place where
  /-- no session in this child -/
  | gone
  /-- outside the two pairs of calls -/
  | working
  /-- in the loop of `si_acquire_snapshot` -/
  | requestingSnapshot
  /-- between `si_acquire_snapshot` and `si_snapshot_acquired` -/
  | acquiring
  /-- in the loop of `si_commit_request` -/
  | requestingCommit
  /-- between `si_commit_request` and `si_commit_done` -/
  | committing
  deriving DecidableEq

/-- A session: its state, and where it is. -/
structure SiSession where
  state : SiState
  place : Place
  deriving DecidableEq

/-- The sessions and the shared memory. -/
structure SiSystem (ι : Type) where
  info : SiManageInfo ι
  sessions : ι → SiSession
  /-- how many sessions have ended while the counters counted them -/
  lostSnapshots : Nat
  lostCommits : Nat

/-- What `si_get_snapshot` looks at beside the state of the session. -/
structure SnapshotGuard where
  tstateCheck : Bool
  /-- `TSTATE(backend, MAIN_NODE_ID) == 'T'` -/
  inTransaction : Bool
  /-- `si_snapshot_acquire_command(node)` -/
  acquireCommand : Bool
  /-- `frontend && frontend->no_forward == 0` -/
  forwards : Bool

/-- A step of a session. -/
inductive SiEvent (ι : Type) where
  /-- a new client -/
  | connect (i : ι)
  /-- `si_get_snapshot` is called -/
  | getSnapshot (i : ι) (g : SnapshotGuard)
  /-- all backends have answered -/
  | answered (i : ι)
  /-- COMMIT, ROLLBACK, or the end of an internal transaction -/
  | commit (i : ι)
  /-- the backends have committed -/
  | committed (i : ι)
  /-- another round of the loop -/
  | retry (i : ι)
  /-- an error, or the client is gone -/
  | fail (i : ι)

namespace SiSystem

/-- No session is connected. -/
def start : SiSystem ι where
  info := ⟨0, 0, fun _ => false, fun _ => false⟩
  sessions _ := ⟨.noSnapshot, .gone⟩
  lostSnapshots := 0
  lostCommits := 0

/-- Where a session is. -/
def place (s : SiSystem ι) (i : ι) : Place := (s.sessions i).place

/-- The state of a session. -/
def state (s : SiSystem ι) (i : ι) : SiState := (s.sessions i).state

/-- Change a session. -/
def setSession (s : SiSystem ι) (i : ι) (x : SiSession) : SiSystem ι :=
  { s with sessions := Function.update s.sessions i x }

/-- A round of `si_acquire_snapshot` -/
def tryAcquire (s : SiSystem ι) (i : ι) : SiSystem ι :=
  let r := siAcquireSnapshot i (s.state i) s.info
  { s.setSession i ⟨s.state i, if r.granted then .acquiring else .requestingSnapshot⟩ with
    info := r.info }

/-- A round of `si_commit_request` -/
def tryCommit (s : SiSystem ι) (i : ι) : SiSystem ι :=
  let r := siCommitRequest i (s.state i) s.info
  { s.setSession i ⟨s.state i, if r.granted then .committing else .requestingCommit⟩ with
    info := r.info }

end SiSystem

open SiSystem

/-- A session that `snapshot_counter` counts. -/
def SiSession.inSnapshot (x : SiSession) : Bool := x.place = .acquiring

/-- A session that is between the request and the end of its commit. -/
def SiSession.inCommit (x : SiSession) : Bool := x.place = .committing

/-- A session that `commit_counter` counts: without a snapshot `si_commit_request` does
nothing. -/
def SiSession.inCountedCommit (x : SiSession) : Bool :=
  x.place = .committing && x.state = .snapshotPrepared

open SiSession (inSnapshot inCountedCommit inCommit)

/-- What a step does; one that does not fit is no step. -/
def siStep (s : SiSystem ι) : SiEvent ι → SiSystem ι
  | .connect i => if s.place i = .gone then s.setSession i ⟨.noSnapshot, .working⟩ else s
  | .getSnapshot i g =>
    if s.place i = .working ∧ (g.tstateCheck = false ∨ g.inTransaction = true) ∧
        g.acquireCommand = true ∧ s.state i ≠ .snapshotPrepared ∧ g.forwards = true then
      s.tryAcquire i
    else s
  | .answered i =>
    if s.place i = .acquiring then
      let r := siSnapshotAcquired (s.state i) s.info
      { s.setSession i ⟨r.2, .working⟩ with info := r.1 }
    else s
  | .commit i => if s.place i = .working then s.tryCommit i else s
  | .committed i =>
    if s.place i = .committing then
      let r := siCommitDone (s.state i) s.info
      { s.setSession i ⟨r.2, .working⟩ with info := r.1 }
    else s
  | .retry i =>
    match s.place i with
    | .requestingSnapshot => s.tryAcquire i
    | .requestingCommit => s.tryCommit i
    | _ => s
  | .fail i =>
    -- nothing on the way out of a session looks at the counters
    { s.setSession i ⟨s.state i, .gone⟩ with
      lostSnapshots := s.lostSnapshots + (s.sessions i).inSnapshot.toNat
      lostCommits := s.lostCommits + (s.sessions i).inCountedCommit.toNat }

/-- A run, in any interleaving. -/
def siRun (s : SiSystem ι) (evs : List (SiEvent ι)) : SiSystem ι := evs.foldl siStep s

/-! ## The counters in every run -/

variable [Fintype ι]

/-- What the counters count, in every run. -/
structure CountersInv (s : SiSystem ι) : Prop where
  snapshots : s.info.snapshotCounter = count SiSession.inSnapshot s.sessions + s.lostSnapshots
  commits : s.info.commitCounter = count SiSession.inCountedCommit s.sessions + s.lostCommits
  exclusive : s.info.snapshotCounter = 0 ∨ s.info.commitCounter = 0
  /-- a snapshot is requested by a session that has none -/
  noSnapshot : ∀ i, s.place i = .requestingSnapshot ∨ s.place i = .acquiring →
    s.state i = .noSnapshot

omit [DecidableEq ι] in
theorem countersInv_start : CountersInv (start : SiSystem ι) where
  snapshots := by
    have h : count inSnapshot (start : SiSystem ι).sessions = 0 :=
      count_eq_zero fun _ => rfl
    rw [h]
    rfl
  commits := by
    have h : count inCountedCommit (start : SiSystem ι).sessions = 0 :=
      count_eq_zero fun _ => rfl
    rw [h]
    rfl
  exclusive := .inl rfl
  noSnapshot := fun _ h => by rcases h with h | h <;> cases h

variable {s : SiSystem ι}

variable {i : ι}

@[simp] theorem inSnapshot_mk (state : SiState) (place : Place) :
    inSnapshot ⟨state, place⟩ = decide (place = .acquiring) := rfl

@[simp] theorem inCountedCommit_mk (state : SiState) (place : Place) :
    inCountedCommit ⟨state, place⟩ =
      (decide (place = .committing) && decide (state = .snapshotPrepared)) := rfl

/-- A session moves; the counters follow, except for `ls` and `lc` that are lost. -/
theorem CountersInv.move (h : CountersInv s) {a b : Bool} (ha : (s.sessions i).inSnapshot = a)
    (hb : (s.sessions i).inCountedCommit = b) (x : SiSession) (info : SiManageInfo ι) (ls lc : Nat)
    (hs : info.snapshotCounter + a.toNat = s.info.snapshotCounter + x.inSnapshot.toNat + ls)
    (hc : info.commitCounter + b.toNat = s.info.commitCounter + x.inCountedCommit.toNat + lc)
    (hex : info.snapshotCounter = 0 ∨ info.commitCounter = 0)
    (hno : x.place = .requestingSnapshot ∨ x.place = .acquiring → x.state = .noSnapshot) :
    CountersInv { s.setSession i x with
      info := info, lostSnapshots := s.lostSnapshots + ls, lostCommits := s.lostCommits + lc } where
  snapshots := by
    have hcount := count_update inSnapshot s.sessions i x
    have hold := h.snapshots
    rw [ha] at hcount
    simp only [setSession]
    push_cast
    omega
  commits := by
    have hcount := count_update inCountedCommit s.sessions i x
    have hold := h.commits
    rw [hb] at hcount
    simp only [setSession]
    push_cast
    omega
  exclusive := hex
  noSnapshot j hj := by
    by_cases hji : j = i
    · subst hji
      simp only [place, state, setSession, Function.update_self] at hj ⊢
      exact hno hj
    · simp only [place, state, setSession, Function.update_of_ne hji] at hj ⊢
      exact h.noSnapshot j hj

omit [DecidableEq ι] [Fintype ι] in
theorem uncounted (ha : s.place i ≠ .acquiring) (hc : s.place i ≠ .committing) :
    (s.sessions i).inSnapshot = false ∧ (s.sessions i).inCountedCommit = false := by
  unfold place at ha hc
  simp [inSnapshot, inCountedCommit, ha, hc]

section

variable (h : CountersInv s)
include h

theorem CountersInv.tryAcquire (hstate : s.state i = .noSnapshot)
    (hplace : s.place i = .working ∨ s.place i = .requestingSnapshot) :
    CountersInv (s.tryAcquire i) := by
  obtain ⟨hs, hc⟩ : (s.sessions i).inSnapshot = false ∧ (s.sessions i).inCountedCommit = false := by
    rcases hplace with hp | hp <;> exact uncounted (by simp [hp]) (by simp [hp])
  unfold SiSystem.tryAcquire siAcquireSnapshot
  rw [hstate]
  dsimp only
  split
  · exact h.move hs hc ⟨.noSnapshot, .requestingSnapshot⟩ _ 0 0 (by simp) (by simp) h.exclusive
      (by simp)
  · rename_i hcommit
    -- nobody commits, so the counter of the commits is zero
    have hzero : s.info.commitCounter = 0 := by
      have := h.commits
      omega
    exact h.move hs hc ⟨.noSnapshot, .acquiring⟩ _ 0 0 (by simp) (by simp) (.inr hzero) (by simp)

theorem CountersInv.tryCommit (hplace : s.place i = .working ∨ s.place i = .requestingCommit) :
    CountersInv (s.tryCommit i) := by
  obtain ⟨hs, hc⟩ : (s.sessions i).inSnapshot = false ∧ (s.sessions i).inCountedCommit = false := by
    rcases hplace with hp | hp <;> exact uncounted (by simp [hp]) (by simp [hp])
  unfold SiSystem.tryCommit siCommitRequest
  cases hstate : s.state i with
  | noSnapshot =>
    exact h.move hs hc ⟨.noSnapshot, .committing⟩ _ 0 0 (by simp) (by simp) h.exclusive (by simp)
  | snapshotPrepared =>
    dsimp only
    split
    · exact h.move hs hc ⟨.snapshotPrepared, .requestingCommit⟩ _ 0 0 (by simp) (by simp)
        h.exclusive (by simp)
    · rename_i hsnapshot
      have hzero : s.info.snapshotCounter = 0 := by
        have := h.snapshots
        omega
      exact h.move hs hc ⟨.snapshotPrepared, .committing⟩ _ 0 0 (by simp) (by simp) (.inl hzero)
        (by simp)

theorem CountersInv.answered (hplace : s.place i = .acquiring) :
    CountersInv (siStep s (.answered i)) := by
  have hstate : s.state i = .noSnapshot := h.noSnapshot i (.inr hplace)
  have hs : (s.sessions i).inSnapshot = true := by
    simp_all [inSnapshot, place]
  have hc : (s.sessions i).inCountedCommit = false := by
    simp_all [inCountedCommit, place]
  have hcommit : s.info.commitCounter = 0 := by
    have hpos := count_pos hs
    have := h.snapshots
    exact h.exclusive.resolve_left (by omega)
  simp only [siStep, hplace, if_true, siSnapshotAcquired, hstate]
  exact h.move hs hc ⟨.snapshotPrepared, .working⟩ _ 0 0 (by simp) (by simp) (.inr hcommit)
    (by simp)

theorem CountersInv.committed (hplace : s.place i = .committing) :
    CountersInv (siStep s (.committed i)) := by
  have hs : (s.sessions i).inSnapshot = false := by
    simp_all [inSnapshot, place]
  simp only [siStep, hplace, if_true, siCommitDone]
  cases hstate : s.state i with
  | noSnapshot =>
    have hc : (s.sessions i).inCountedCommit = false := by
      simp_all [inCountedCommit, state]
    exact h.move hs hc ⟨.noSnapshot, .working⟩ _ 0 0 (by simp) (by simp) h.exclusive (by simp)
  | snapshotPrepared =>
    have hc : (s.sessions i).inCountedCommit = true := by
      simp_all [inCountedCommit, place, state]
    have hsnapshot : s.info.snapshotCounter = 0 := by
      have hpos := count_pos hc
      have := h.commits
      exact h.exclusive.resolve_right (by omega)
    exact h.move hs hc ⟨.noSnapshot, .working⟩ _ 0 0 (by simp) (by simp) (.inl hsnapshot) (by simp)

theorem CountersInv.step (ev : SiEvent ι) : CountersInv (siStep s ev) := by
  fun_cases siStep s ev with
  | case1 i hplace =>
    obtain ⟨hs, hc⟩ := uncounted (s := s) (i := i) (by simp [hplace]) (by simp [hplace])
    exact h.move hs hc ⟨.noSnapshot, .working⟩ s.info 0 0 (by simp) (by simp) h.exclusive (by simp)
  | case3 i g hg =>
    refine h.tryAcquire ?_ (.inl hg.1)
    cases hstate : s.state i with
    | noSnapshot => rfl
    | snapshotPrepared => exact absurd hstate hg.2.2.2.1
  | case5 i hplace => simpa only [siStep, if_pos hplace] using h.answered hplace
  | case7 i hplace => exact h.tryCommit (.inl hplace)
  | case9 i hplace => simpa only [siStep, if_pos hplace] using h.committed hplace
  | case11 i hplace => exact h.tryAcquire (h.noSnapshot i (.inl hplace)) (.inr hplace)
  | case12 i hplace => exact h.tryCommit (.inr hplace)
  | case14 i =>
    exact h.move rfl rfl ⟨s.state i, .gone⟩ s.info _ _ (by simp) (by simp) h.exclusive (by simp)
  | case2 | case4 | case6 | case8 | case10 | case13 => exact h

theorem counters_run (evs : List (SiEvent ι)) : CountersInv (siRun s evs) := by
  induction evs generalizing s with
  | nil => exact h
  | cons ev evs ih => exact ih (h.step ev)

end

/-! ## Runs in which the counters are exact -/

/-- No session ends between the two calls of a pair, and only a session with a snapshot
commits. -/
def SiSoundStep (s : SiSystem ι) : SiEvent ι → Prop
  | .fail i => s.place i ≠ .acquiring ∧ s.place i ≠ .committing
  | .commit i => s.place i = .working → s.state i = .snapshotPrepared
  | _ => True

/-- Every step of the run is sound. -/
def SiSoundRun (s : SiSystem ι) : List (SiEvent ι) → Prop
  | [] => True
  | ev :: evs => SiSoundStep s ev ∧ SiSoundRun (siStep s ev) evs

/-- Nothing is lost, and a commit has a snapshot. -/
structure ExactInv (s : SiSystem ι) : Prop where
  lostSnapshots : s.lostSnapshots = 0
  lostCommits : s.lostCommits = 0
  prepared : ∀ i, s.place i = .requestingCommit ∨ s.place i = .committing →
    s.state i = .snapshotPrepared

omit [Fintype ι] in
theorem ExactInv.set (h : ExactInv s) {x : SiSession} (info : SiManageInfo ι)
    (hx : x.place = .requestingCommit ∨ x.place = .committing → x.state = .snapshotPrepared) :
    ExactInv { s.setSession i x with info := info } where
  lostSnapshots := h.lostSnapshots
  lostCommits := h.lostCommits
  prepared j hj := by
    by_cases hji : j = i
    · subst hji
      simp only [place, state, setSession, Function.update_self] at hj ⊢
      exact hx hj
    · simp only [place, state, setSession, Function.update_of_ne hji] at hj ⊢
      exact h.prepared j hj

omit [Fintype ι] in
theorem ExactInv.tryAcquire (h : ExactInv s) (i : ι) : ExactInv (s.tryAcquire i) := by
  refine h.set _ fun hx => ?_
  dsimp only at hx
  split at hx <;> rcases hx with hx | hx <;> cases hx

omit [Fintype ι] in
theorem ExactInv.step (h : ExactInv s) {ev : SiEvent ι} (hs : SiSoundStep s ev) :
    ExactInv (siStep s ev) := by
  fun_cases siStep s ev with
  | case1 | case5 | case9 => exact h.set _ (by simp)
  | case3 i | case11 i => exact h.tryAcquire i
  | case7 i hplace => exact h.set _ fun _ => hs hplace
  | case12 i hplace => exact h.set _ fun _ => h.prepared i (.inl hplace)
  | case14 i =>
    obtain ⟨hsnapshot, hcommit⟩ := uncounted hs.1 hs.2
    have hgone : ExactInv (s.setSession i ⟨s.state i, .gone⟩) := h.set s.info (by simp)
    simp only [hsnapshot, hcommit, Bool.toNat_false, Nat.add_zero]
    exact hgone
  | case2 | case4 | case6 | case8 | case10 | case13 => exact h

omit [Fintype ι] in
theorem exact_run (h : ExactInv s) (evs : List (SiEvent ι)) (hs : SiSoundRun s evs) :
    ExactInv (siRun s evs) := by
  induction evs generalizing s with
  | nil => exact h
  | cons ev evs ih => exact ih (h.step hs.1) hs.2

omit [DecidableEq ι] in
theorem ExactInv.count_commits (h : ExactInv s) :
    count inCountedCommit s.sessions = count inCommit s.sessions := by
  have hprepared : ∀ i, (s.sessions i).inCommit = true → (s.sessions i).inCountedCommit = true := by
    intro i hi
    simp only [inCommit, decide_eq_true_eq] at hi
    have hstate := h.prepared i (.inr hi)
    simp only [state] at hstate
    simp [inCountedCommit, hi, hstate]
  refine le_antisymm (count_le_count fun i hi => ?_) (count_le_count hprepared)
  simp only [inCountedCommit, Bool.and_eq_true] at hi
  exact hi.1

/-- **Snapshots and commits exclude each other**, in every run in which no session ends
between the two calls of a pair and only sessions with a snapshot commit: the counters are
the numbers of sessions in the two phases, which are never both occupied, and a session that
asks for a phase gets it as soon as nobody is in the other one. -/
theorem snapshot_commit_exclusion (evs : List (SiEvent ι))
    (hs : SiSoundRun (start : SiSystem ι) evs) :
    (siRun start evs).info.snapshotCounter =
        count SiSession.inSnapshot (siRun (start : SiSystem ι) evs).sessions ∧
      (siRun start evs).info.commitCounter =
        count SiSession.inCommit (siRun (start : SiSystem ι) evs).sessions ∧
      (∀ i j, ¬ ((siRun (start : SiSystem ι) evs).place i = .acquiring ∧
        (siRun start evs).place j = .committing)) ∧
      (∀ i, (siRun (start : SiSystem ι) evs).place i = .requestingSnapshot →
        (∀ j, (siRun (start : SiSystem ι) evs).place j ≠ .committing) →
        (siStep (siRun start evs) (.retry i)).place i = .acquiring) ∧
      ∀ i, (siRun (start : SiSystem ι) evs).place i = .requestingCommit →
        (∀ j, (siRun (start : SiSystem ι) evs).place j ≠ .acquiring) →
        (siStep (siRun start evs) (.retry i)).place i = .committing := by
  have hinv : CountersInv (siRun (start : SiSystem ι) evs) := counters_run countersInv_start evs
  have hexact : ExactInv (siRun (start : SiSystem ι) evs) :=
    exact_run ⟨rfl, rfl, fun i h => by rcases h with h | h <;> cases h⟩ evs hs
  generalize siRun (start : SiSystem ι) evs = s at *
  have hsnapshots : s.info.snapshotCounter = count inSnapshot s.sessions := by
    rw [hinv.snapshots, hexact.lostSnapshots]
    simp
  have hcommits : s.info.commitCounter = count inCommit s.sessions := by
    rw [hinv.commits, hexact.lostCommits, hexact.count_commits]
    simp
  refine ⟨hsnapshots, hcommits, ?_, ?_, ?_⟩
  · rintro i j ⟨hi, hj⟩
    have hpos : 0 < count inSnapshot s.sessions :=
      count_pos (i := i) (by simpa [inSnapshot, place] using hi)
    have hpos' : 0 < count inCommit s.sessions :=
      count_pos (i := j) (by simpa [inCommit, place] using hj)
    rcases hinv.exclusive with hzero | hzero <;> omega
  · intro i hi hnone
    have hzero : count inCommit s.sessions = 0 :=
      count_eq_zero fun j => by simpa [inCommit, place] using hnone j
    have hstate := hinv.noSnapshot i (.inl hi)
    simp only [siStep, hi, SiSystem.tryAcquire, siAcquireSnapshot, hstate, hcommits, hzero]
    simp [place, setSession]
  · intro i hi hnone
    have hzero : count inSnapshot s.sessions = 0 :=
      count_eq_zero fun j => by simpa [inSnapshot, place] using hnone j
    have hstate := hexact.prepared i (.inl hi)
    simp only [siStep, hi, SiSystem.tryCommit, siCommitRequest, hstate, hsnapshots, hzero]
    simp [place, setSession]

/-- A query in a transaction block. -/
def inBlock : SnapshotGuard := ⟨true, true, true, true⟩

local instance neZeroTwo : NeZero 2 := ⟨two_ne_zero⟩

/-- Two sessions; the first one takes its snapshot and is about to commit. -/
def twoSessions : List (SiEvent (Fin 2)) :=
  [.connect 0, .connect 1, .getSnapshot 0 inBlock, .answered 0, .commit 0, .getSnapshot 1 inBlock]

/-- A session commits while another one waits for its snapshot. -/
theorem exclusion_two_sessions : (siRun start twoSessions).info.commitCounter = 1 ∧
      (siRun (start : SiSystem (Fin 2)) twoSessions).place 1 = .requestingSnapshot ∧
      (siRun start twoSessions).info.snapshotCounter =
        count SiSession.inSnapshot (siRun (start : SiSystem (Fin 2)) twoSessions).sessions := by
  refine ⟨by decide, by decide, (snapshot_commit_exclusion twoSessions ?_).1⟩
  exact ⟨trivial, trivial, trivial, trivial, fun _ => rfl, trivial, trivial⟩

/-- The second session fails while the backends are asked about the transaction of its
snapshot; from then on the first one cannot commit. -/
def failedInSnapshot : List (SiEvent (Fin 2)) :=
  [.connect 0, .connect 1, .getSnapshot 0 inBlock, .answered 0, .getSnapshot 1 inBlock, .fail 1,
    .commit 0]

theorem ended_session_blocks_commit : (siRun start failedInSnapshot).info.snapshotCounter = 1 ∧
      count SiSession.inSnapshot (siRun (start : SiSystem (Fin 2)) failedInSnapshot).sessions = 0 ∧
      (siRun (start : SiSystem (Fin 2)) failedInSnapshot).place 1 = .gone ∧
      (siStep (siRun (start : SiSystem (Fin 2)) failedInSnapshot) (.retry 0)).place 0 =
        .requestingCommit := by
  decide

end PgBalancer.Replication
