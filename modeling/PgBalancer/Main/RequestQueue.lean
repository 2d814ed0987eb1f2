import PgBalancer.Lib.MachineInt
import PgBalancer.Main.Independence

/-!
# The queue of node operation requests

Any process may call `register_node_operation_request`: it looks without a lock whether the queue
is full, takes the semaphore, looks again, stores the request in the ring buffer and reads the
flag that says whether the main process is at work on the queue.  If it is not, the main process
gets a signal.  The main process takes requests out of the queue until it is empty.  Only the
operations under the semaphore are atomic.

* `requests_processed_once` — **requests are processed once each, in order and independently**,
  in runs in which no request finds traces of earlier ones in the context.
-/

namespace PgBalancer.Main

open MachineInt List

/-! ## Registering a request -/

/-- `MAX_REQUEST_QUEUE_SIZE` -/
def maxRequestQueueSize : Int := 10

/-- The queue in shared memory, and the requests that have been stored in it so far. -/
structure Queue (n : Nat) where
  /-- `request_queue_head` -/
  head : Int
  /-- `request_queue_tail` -/
  tail : Int
  /-- the array `request` -/
  request : Int → Request n
  /-- `Req_info->switching` -/
  switching : Bool
  registered : List (Request n)

/-- Where a process is in `register_node_operation_request`. -/
inductive Registrar (n : Nat) where
  /-- in no call -/
  | idle
  | called (r : Request n)
  /-- the tail has been read for the first check -/
  | readTail (r : Request n) (tail : Int)
  /-- waiting for the semaphore -/
  | waiting (r : Request n)
  /-- the request is stored and the semaphore released -/
  | stored (failoverInProgress : Bool)
  deriving DecidableEq

variable {n : Nat}

namespace Queue

/-- The queue is empty. -/
def start : Queue n := ⟨-1, -1, fun _ => .closeIdle, false, []⟩

/-- The cell of the array for a free-running index -/
def cell (index : Int) : Int := index.tmod maxRequestQueueSize

/-- The queue after a request has been stored. -/
def store (q : Queue n) (r : Request n) : Queue n :=
  let tail := wrapInt (q.tail + 1)
  { q with
    tail
    request := Function.update q.request (cell tail) r
    registered := q.registered ++ [r] }

end Queue

/-- `register_node_operation_request`, up to the release of the semaphore -/
def registrarStep (q : Queue n) : Registrar n → Queue n × Registrar n
  | .called r => (q, .readTail r q.tail)
  | .readTail r tail =>
    if wrapInt (tail - maxRequestQueueSize) = q.head then (q, .idle) else (q, .waiting r)
  | .waiting r =>
    if wrapInt (q.tail - maxRequestQueueSize) = q.head then (q, .idle)
    else (q.store r, .stored q.switching)
  | p => (q, p)

/-! ## The system -/

/-- Where the main process is. -/
inductive MainPhase (n : Nat) where
  | idle
  /-- it registers a request itself -/
  | registering (p : Registrar n)
  /-- about to enter `failover` -/
  | calling
  /-- at the top of the loop of `failover` -/
  | looping (ctx : Context n)
  /-- a request has been taken out of the queue -/
  | processing (ctx : Context n) (r : Request n)
  /-- the queue has been found empty -/
  | leaving

/-- The queue, the processes that register requests, and the main process. -/
structure QueueSystem (ι : Type) (n : Nat) where
  queue : Queue n
  registrars : ι → Registrar n
  main : MainPhase n
  /-- `SIG_FAILOVER_INTERRUPT` is set -/
  signalled : Bool
  /-- `processState == INITIALIZING` -/
  initializing : Bool
  info : NodeInfo n
  actions : List (Action n)
  /-- the requests taken out of the queue -/
  taken : List (Request n)
  /-- the requests processed, with what the search for the primary found for each -/
  processed : List (Request n × Search n)

/-- A step of some process. -/
inductive QueueEvent (ι : Type) (n : Nat) where
  /-- a process calls `register_node_operation_request` -/
  | call (i : ι) (r : Request n)
  /-- it does its next step -/
  | advance (i : ι)
  /-- the main process calls it -/
  | mainCall (r : Request n)
  | mainAdvance
  | startupDone
  /-- `sigusr1_interrupt_processor` -/
  | takeSignal
  | enterFailover
  /-- the part of the loop that holds the semaphore -/
  | takeRequest
  /-- the rest of the round -/
  | processRequest (find : Search n)
  /-- the flags are unlocked once more -/
  | leaveFailover

variable {ι : Type} [DecidableEq ι]

/-- No process is doing anything. -/
def QueueSystem.start (info : NodeInfo n) : QueueSystem ι n :=
  ⟨.start, fun _ => .idle, .idle, false, true, info, [], [], []⟩

/-- A process goes on. -/
def QueueSystem.setRegistrar (s : QueueSystem ι n) (i : ι) (p : Registrar n) : QueueSystem ι n :=
  { s with registrars := Function.update s.registrars i p }

/-- One step.  A step that does not fit is no step. -/
def queueStep (cfg : Config n) (s : QueueSystem ι n) : QueueEvent ι n → QueueSystem ι n
  | .call i r =>
    match s.registrars i with
    | .idle => s.setRegistrar i (.called r)
    | _ => s
  | .advance i =>
    match s.registrars i with
    -- `signal_user1_to_parent_with_reason`
    | .stored inProgress =>
      { s.setRegistrar i .idle with signalled := s.signalled || !inProgress }
    | p =>
      let (queue, p) := registrarStep s.queue p
      { s.setRegistrar i p with queue }
  | .mainCall r =>
    match s.main with
    | .idle => { s with main := .registering (.called r) }
    | _ => s
  | .mainAdvance =>
    match s.main with
    | .registering (.stored inProgress) =>
      { s with main := if inProgress then .idle else .calling }
    | .registering .idle => { s with main := .idle }
    | .registering p =>
      let (queue, p) := registrarStep s.queue p
      { s with queue, main := .registering p }
    | _ => s
  | .startupDone => { s with initializing := false }
  | .takeSignal =>
    match s.main with
    | .idle =>
      if s.signalled then
        { s with signalled := false, main := if s.initializing then .idle else .calling }
      else s
    | _ => s
  | .enterFailover =>
    match s.main with
    | .calling => { s with queue := { s.queue with switching := true }, main := .looping .initial }
    | _ => s
  | .takeRequest =>
    match s.main with
    | .looping ctx =>
      if s.queue.tail = s.queue.head then
        { s with queue := { s.queue with switching := false }, main := .leaving }
      else
        let head := wrapInt (s.queue.head + 1)
        let r := s.queue.request (Queue.cell head)
        { s with
          queue := { s.queue with head }
          main := .processing ctx r
          taken := s.taken ++ [r] }
    | _ => s
  | .processRequest find =>
    match s.main with
    | .processing ctx r =>
      let w := Main.processRequest cfg find ⟨ctx, s.info, s.actions⟩ r
      { s with
        info := w.info
        actions := w.actions
        main := .looping w.context
        processed := s.processed ++ [(r, find)] }
    | _ => s
  | .leaveFailover =>
    match s.main with
    | .leaving => { s with queue := { s.queue with switching := false }, main := .idle }
    | _ => s

/-- A run, in any interleaving. -/
def queueRun (cfg : Config n) (info : NodeInfo n) (evs : List (QueueEvent ι n)) :
    QueueSystem ι n :=
  evs.foldl (queueStep cfg) (.start info)

/-! ## What is required -/

/-- Each request in a call of `failover` of its own. -/
def separately (cfg : Config n) (info : NodeInfo n) (requests : List (Request n × Search n)) :
    NodeInfo n × List (Action n) :=
  requests.foldl (fun s r =>
    let w := failover cfg [r] s.1
    (w.info, s.2 ++ w.actions)) (info, [])

/-- Nobody is at work on the queue, and no signal is on its way. -/
def QueueSystem.Quiescent (s : QueueSystem ι n) : Prop :=
  (∀ i, s.registrars i = .idle) ∧ s.main = .idle ∧ s.signalled = false

/-- What holds of the queue after a sound run. -/
structure QueueSpec (cfg : Config n) (info : NodeInfo n) (s : QueueSystem ι n) : Prop where
  /-- the requests are taken in the order in which they were stored, each once -/
  fifo : s.taken <+: s.queue.registered
  /-- and none is left behind -/
  drained : s.Quiescent → s.taken = s.queue.registered
  /-- those that have been taken are processed, except for the one at hand -/
  processed : s.taken = s.processed.map Prod.fst ++
    match s.main with
    | .processing _ r => [r]
    | _ => []
  /-- as if each had been processed by a call of its own -/
  effect : (s.info, s.actions) = separately cfg info s.processed
  /-- in which the failover command is run once for each node it took down -/
  commands : cfg.failoverCommand = true → ∀ (r : Request n × Search n) (t : NodeInfo n) (j : Fin n),
    (failover cfg [r] t).actions.countP (Action.isFailoverOf j) = (tookDown cfg t r.1 j).toNat

/-! ## The ring buffer -/

/-- What is in the ring buffer: the requests that have been registered and not taken, each in the
cell of its number. -/
structure RingInv (q : Queue n) (taken : List (Request n)) : Prop where
  tail : q.tail = q.registered.length - 1
  head : q.head = taken.length - 1
  fifo : taken <+: q.registered
  room : q.registered.length ≤ taken.length + 10
  small : q.registered.length ≤ 2 ^ 31
  cells : ∀ k r, taken.length ≤ k → q.registered[k]? = some r →
    q.request ((k % 10 : Nat) : Int) = r

theorem cell_natCast (k : Nat) : Queue.cell k = ((k % 10 : Nat) : Int) := by
  unfold Queue.cell maxRequestQueueSize
  rw [Int.tmod_eq_emod_of_nonneg (by omega)]
  omega

section Ring

variable {q : Queue n} {taken : List (Request n)}

section

variable (h : RingInv q taken)
include h

/-- A request is stored behind the others. -/
theorem RingInv.store (r : Request n)
    (hfull : wrapInt (q.tail - maxRequestQueueSize) ≠ q.head) (hsmall : q.tail + 1 < 2 ^ 31) :
    RingInv (q.store r) taken := by
  have hlen := h.fifo.length_le
  have hb := h.small
  have htail := h.tail
  have hhead := h.head
  have hroom := h.room
  have hwrap : wrapInt (q.tail - maxRequestQueueSize) = q.tail - 10 :=
    wrapInt_of_small (by unfold maxRequestQueueSize; omega) (by unfold maxRequestQueueSize; omega)
  rw [hwrap] at hfull
  have hnext : wrapInt (q.tail + 1) = (q.registered.length : Int) := by
    rw [wrapInt_of_small (by omega) hsmall]
    omega
  refine ⟨?_, h.head, h.fifo.trans (prefix_append _ _), ?_, ?_, ?_⟩
  · show wrapInt (q.tail + 1) = _
    simp [hnext, Queue.store]
  · simp only [Queue.store, length_append, length_singleton]
    omega
  · simp only [Queue.store, length_append, length_singleton]
    omega
  · intro k x hk hx
    show Function.update q.request (Queue.cell (wrapInt (q.tail + 1))) r _ = x
    rw [hnext, cell_natCast]
    rcases lt_or_ge k q.registered.length with hlt | hge
    · -- an older request, which is in another cell as there are at most ten of them
      have hne : ((k % 10 : Nat) : Int) ≠ ((q.registered.length % 10 : Nat) : Int) := by
        omega
      rw [Function.update_of_ne hne]
      rw [Queue.store, List.getElem?_append_left hlt] at hx
      exact h.cells k x hk hx
    · have hkeq : k = q.registered.length := by
        have := (List.getElem?_eq_some_iff.1 hx).1
        simp only [Queue.store, length_append, length_singleton] at this
        omega
      subst hkeq
      simpa [Queue.store] using hx

/-- The first request is taken. -/
theorem RingInv.take (hne : q.tail ≠ q.head) : RingInv { q with head := wrapInt (q.head + 1) }
      (taken ++ [q.request (Queue.cell (wrapInt (q.head + 1)))]) := by
  have hlen := h.fifo.length_le
  have hb := h.small
  have htail := h.tail
  have hhead := h.head
  have hroom := h.room
  have hnext : wrapInt (q.head + 1) = (taken.length : Int) := by
    rw [wrapInt_of_small (by omega) (by omega)]
    omega
  have hlt : taken.length < q.registered.length := by omega
  obtain ⟨pending, hsplit⟩ := h.fifo
  obtain ⟨r, pending, rfl⟩ : ∃ r rest, pending = r :: rest := by
    cases pending with
    | nil =>
      rw [append_nil] at hsplit
      rw [hsplit] at hlt
      exact absurd hlt (lt_irrefl _)
    | cons r rest => exact ⟨r, rest, rfl⟩
  have hr : q.request (Queue.cell (wrapInt (q.head + 1))) = r := by
    rw [hnext, cell_natCast]
    apply h.cells _ _ le_rfl
    rw [← hsplit]
    simp
  rw [hr]
  refine ⟨h.tail, ?_, ⟨pending, by rw [← hsplit]; simp⟩, ?_, h.small, ?_⟩
  · show wrapInt (q.head + 1) = _
    rw [hnext]
    simp
  · simp only [length_append, length_singleton]
    omega
  · intro k x hk hx
    simp only [length_append, length_singleton] at hk
    exact h.cells k x (by omega) hx

theorem RingInv.setSwitching (switching : Bool) : RingInv { q with switching } taken :=
  ⟨h.tail, h.head, h.fifo, h.room, h.small, h.cells⟩

theorem RingInv.taken_eq (hlen : ¬ taken.length < q.registered.length) : taken = q.registered :=
  h.fifo.eq_of_length (le_antisymm h.fifo.length_le (not_lt.1 hlen))

end

end Ring

/-- A step of a process that registers a request: nothing is stored, or the request. -/
theorem registrarStep_cases (q : Queue n) (p : Registrar n) :
    ((registrarStep q p).1 = q ∧ (∀ b, (registrarStep q p).2 = .stored b → p = .stored b)) ∨
    ∃ r, p = .waiting r ∧ wrapInt (q.tail - maxRequestQueueSize) ≠ q.head ∧
      registrarStep q p = (q.store r, .stored q.switching) := by
  cases p with
  | idle => exact .inl ⟨rfl, fun b hb => hb⟩
  | called r => exact .inl ⟨rfl, fun b hb => nomatch hb⟩
  | readTail r tail =>
    left
    dsimp only [registrarStep]
    split_ifs <;> exact ⟨rfl, fun b hb => nomatch hb⟩
  | waiting r =>
    by_cases hfull : wrapInt (q.tail - maxRequestQueueSize) = q.head
    · left
      rw [registrarStep, if_pos hfull]
      exact ⟨rfl, fun b hb => nomatch hb⟩
    · right
      refine ⟨r, rfl, hfull, ?_⟩
      rw [registrarStep, if_neg hfull]
  | stored b => exact .inl ⟨rfl, fun b hb => hb⟩

/-! ## Nothing is left in the queue -/

/-- The main process is going to look at the queue. -/
def MainPhase.atWork : MainPhase n → Bool
  | .calling | .looping _ | .processing _ _ => true
  | _ => false

/-- The main process is in the loop. -/
def MainPhase.inLoop : MainPhase n → Bool
  | .looping _ | .processing _ _ => true
  | _ => false

open MainPhase (atWork inLoop)

/-- Somebody takes care that the main process looks at the queue. -/
def QueueSystem.Awake (s : QueueSystem ι n) : Prop :=
  s.main.atWork = true ∨ s.signalled = true ∨ (∃ i, s.registrars i = .stored false) ∨
    s.main = .registering (.stored false)

/-- What every sound step keeps. -/
structure QueueInv (cfg : Config n) (info : NodeInfo n) (s : QueueSystem ι n) : Prop where
  ring : RingInv s.queue s.taken
  awake : s.taken.length < s.queue.registered.length → s.Awake
  switching : s.queue.switching = true → s.main.inLoop = true
  /-- the main process registers requests when it is not in `failover` -/
  own : ∀ b, s.main = .registering (.stored b) → b = false
  processed : s.taken = s.processed.map Prod.fst ++
    match s.main with
    | .processing _ r => [r]
    | _ => []
  effect : (s.info, s.actions) = separately cfg info s.processed

/-- The signal is not taken while the main process is starting up, the index into the ring buffer
does not overflow, and a request that is processed finds no trace of earlier requests. -/
def SoundQueueEvent (cfg : Config n) (s : QueueSystem ι n) : QueueEvent ι n → Prop
  | .advance _ | .mainAdvance => s.queue.tail + 1 < 2 ^ 31
  | .takeSignal => s.signalled = true → s.initializing = false
  | .processRequest _ => ∀ ctx r, s.main = .processing ctx r → Independent cfg ctx r
  | _ => True

/-- Every step of the run is sound. -/
def SoundQueueRun (cfg : Config n) (s : QueueSystem ι n) : List (QueueEvent ι n) → Prop
  | [] => True
  | ev :: evs => SoundQueueEvent cfg s ev ∧ SoundQueueRun cfg (queueStep cfg s ev) evs

section Steps

variable {cfg : Config n} {info : NodeInfo n} {s : QueueSystem ι n}

section

variable (h : QueueInv cfg info s)
include h

/-- A step of a process that is not in the middle of `failover` and does not store a request. -/
theorem QueueInv.setRegistrar (i : ι) (p : Registrar n)
    (hp : ∀ b, s.registrars i ≠ .stored b) : QueueInv cfg info (s.setRegistrar i p) := by
  refine ⟨h.ring, fun hlt => ?_, h.switching, h.own, h.processed, h.effect⟩
  rcases h.awake hlt with hwork | hsig | ⟨j, hj⟩ | hown
  · exact .inl hwork
  · exact .inr (.inl hsig)
  · refine .inr (.inr (.inl ⟨j, ?_⟩))
    have hne : j ≠ i := by
      rintro rfl
      exact hp _ hj
    simp [QueueSystem.setRegistrar, Function.update_of_ne hne, hj]
  · exact .inr (.inr (.inr hown))

/-- The process has stored its request: the main process is in the loop, or will be signalled. -/
theorem QueueInv.store (i : ι) (r : Request n)
    (hfull : wrapInt (s.queue.tail - maxRequestQueueSize) ≠ s.queue.head)
    (hsmall : s.queue.tail + 1 < 2 ^ 31) : QueueInv cfg info
      { s.setRegistrar i (.stored s.queue.switching) with queue := s.queue.store r } := by
  refine ⟨h.ring.store r hfull hsmall, fun _ => ?_, h.switching, h.own, h.processed, h.effect⟩
  cases hsw : s.queue.switching with
  | true =>
    have hloop := h.switching hsw
    left
    show s.main.atWork = true
    revert hloop
    cases s.main <;> simp [inLoop, atWork]
  | false =>
    refine .inr (.inr (.inl ⟨i, ?_⟩))
    simp [QueueSystem.setRegistrar]

omit [DecidableEq ι] in
/-- The main process goes on, without taking a request. -/
theorem QueueInv.setMain {main : MainPhase n} {signalled switching : Bool}
    (hold : ∀ ctx r, s.main ≠ .processing ctx r) (hnew : ∀ ctx r, main ≠ .processing ctx r)
    (hawake : s.taken.length < s.queue.registered.length → { s with main, signalled }.Awake)
    (hsw : switching = true → main.inLoop = true)
    (hown : ∀ b, main = .registering (.stored b) → b = false) :
    QueueInv cfg info { s with queue := { s.queue with switching }, main, signalled } := by
  refine ⟨h.ring.setSwitching switching, hawake, hsw, hown, ?_, h.effect⟩
  have hproc := h.processed
  cases hmain : s.main <;> cases main <;> simp_all

end

omit [DecidableEq ι] in
theorem QueueSystem.Awake.outside {main : MainPhase n} (h : s.Awake) (hwork : s.main.atWork = false)
    (hown : s.main ≠ .registering (.stored false)) : { s with main }.Awake := by
  rcases h with h | hsig | hstored | h
  · simp [hwork] at h
  · exact .inr (.inl hsig)
  · exact .inr (.inr (.inl hstored))
  · exact absurd h hown

/-- Every sound event keeps the invariant. -/
theorem QueueInv.step (h : QueueInv cfg info s) {ev : QueueEvent ι n}
    (hsound : SoundQueueEvent cfg s ev) : QueueInv cfg info (queueStep cfg s ev) := by
  -- outside of the loop the flag is not set
  have hout : ∀ {main : MainPhase n}, s.main.inLoop = false → s.queue.switching = true →
      main.inLoop = true := by
    intro main hloop hsw
    simp [h.switching hsw] at hloop
  have hproc := h.processed
  fun_cases queueStep cfg s ev with
  | case1 i r hidle => exact h.setRegistrar i _ (by simp [hidle])
  | case3 i inProgress hstored =>
    refine ⟨h.ring, fun hlt => ?_, h.switching, h.own, hproc, h.effect⟩
    rcases h.awake hlt with hwork | hsig | ⟨j, hj⟩ | hown
    · exact .inl hwork
    · exact .inr (.inl (by simp [hsig]))
    · by_cases hji : j = i
      · subst hji
        -- the process that was to send the signal has sent it
        have hfalse : inProgress = false := Registrar.stored.inj (hstored.symm.trans hj)
        exact .inr (.inl (by simp [hfalse]))
      · exact .inr (.inr (.inl ⟨j, (Function.update_of_ne hji _ _).trans hj⟩))
    · exact .inr (.inr (.inr hown))
  | case4 i queue p _ hnot hstep =>
    rcases registrarStep_cases s.queue (s.registrars i) with ⟨hqueue, -⟩ | ⟨r, -, hfull, hstore⟩
    · obtain rfl : queue = s.queue := hqueue ▸ hstep ▸ rfl
      exact h.setRegistrar i _ hnot
    · cases hstep.symm.trans hstore
      exact h.store i r hfull hsound
  | case5 r hidle =>
    exact h.setMain (by simp [hidle]) nofun
      (fun hlt => (h.awake hlt).outside (by simp [hidle, atWork]) (by simp [hidle]))
      (hout (by simp [hidle, inLoop])) nofun
  | case7 inProgress hmain =>
    obtain rfl := h.own _ hmain
    exact h.setMain (by simp [hmain]) nofun (fun _ => .inl rfl)
      (hout (by simp [hmain, inLoop])) nofun
  | case8 hmain =>
    exact h.setMain (by simp [hmain]) nofun
      (fun hlt => (h.awake hlt).outside (by simp [hmain, atWork]) (by simp [hmain]))
      (hout (by simp [hmain, inLoop])) nofun
  | case9 p hnot _ hmain queue p' hstep =>
    have hloop : s.main.inLoop = false := by simp [hmain, inLoop]
    rcases registrarStep_cases s.queue p with ⟨hqueue, hphase⟩ | ⟨r, -, hfull, hstore⟩
    · obtain rfl : queue = s.queue := hqueue ▸ hstep ▸ rfl
      refine h.setMain (by simp [hmain]) nofun (fun hlt => (h.awake hlt).outside ?_ ?_)
        (hout hloop) ?_
      · simp [hmain, atWork]
      · rw [hmain]
        exact fun heq => hnot _ (MainPhase.registering.inj heq)
      · intro b hb
        rw [hstep] at hphase
        exact absurd (hphase b (MainPhase.registering.inj hb)) (hnot b)
    · cases hstep.symm.trans hstore
      -- the main process has read the flag as false
      have hsw : s.queue.switching = false := by
        by_contra hsw
        simp [h.switching (by simpa using hsw)] at hloop
      rw [hsw]
      refine ⟨h.ring.store r hfull hsound, fun _ => .inr (.inr (.inr rfl)), fun hsw' => ?_,
        ?_, by simpa [hmain] using hproc, h.effect⟩
      · exact absurd hsw' (by simp [Queue.store, hsw])
      · intro b hb
        exact (Registrar.stored.inj (MainPhase.registering.inj hb)).symm
  | case11 => exact ⟨h.ring, h.awake, h.switching, h.own, hproc, h.effect⟩
  | case12 hidle hsig =>
    rw [if_neg (by simp [hsound hsig])]
    exact h.setMain (by simp [hidle]) nofun (fun _ => .inl rfl)
      (hout (by simp [hidle, inLoop])) nofun
  | case15 hcalling =>
    exact h.setMain (by simp [hcalling]) nofun (fun _ => .inl rfl) (fun _ => rfl) nofun
  | case17 ctx hloop hempty =>
    refine h.setMain (by simp [hloop]) nofun (fun hlt => ?_) nofun nofun
    -- the queue is empty
    have htail := h.ring.tail
    have hhead := h.ring.head
    omega
  | case18 ctx hloop hempty =>
    rw [hloop] at hproc
    exact ⟨h.ring.take hempty, fun _ => .inl rfl, fun _ => rfl, nofun, by simpa using hproc,
      h.effect⟩
  | case20 find ctx r hmain =>
    rw [hmain] at hproc
    obtain ⟨hinfo, hactions⟩ := processRequest_agrees find s.actions s.info (hsound ctx r hmain)
    refine ⟨h.ring, fun _ => .inl rfl, fun _ => rfl, nofun, by simpa using hproc, ?_⟩
    have heffect := h.effect
    rw [separately] at heffect
    rw [separately, foldl_append, ← heffect]
    exact Prod.ext hinfo hactions
  | case22 hmain =>
    exact h.setMain (by simp [hmain]) nofun
      (fun hlt => (h.awake hlt).outside (by simp [hmain, atWork]) (by simp [hmain]))
      nofun nofun
  | case2 | case6 | case10 | case13 | case14 | case16 | case19 | case21 | case23 => exact h

theorem queueInv_run (evs : List (QueueEvent ι n)) (s : QueueSystem ι n)
    (h : QueueInv cfg info s) (hsound : SoundQueueRun cfg s evs) :
    QueueInv cfg info (evs.foldl (queueStep cfg) s) := by
  induction evs generalizing s with
  | nil => exact h
  | cons ev evs ih => exact ih _ (h.step hsound.1) hsound.2

omit [DecidableEq ι] in
theorem queueInv_start : QueueInv cfg info (.start info : QueueSystem ι n) := by
  refine ⟨⟨rfl, rfl, prefix_rfl, by simp [QueueSystem.start, Queue.start],
    by simp [QueueSystem.start, Queue.start], ?_⟩, fun hlt => ?_, fun hsw => (nomatch hsw),
    fun b hb => (nomatch hb), rfl, rfl⟩
  · intro k r _ hr
    simp [QueueSystem.start, Queue.start] at hr
  · simp [QueueSystem.start, Queue.start] at hlt

omit [DecidableEq ι] in
theorem QueueInv.spec (h : QueueInv cfg info s) : QueueSpec cfg info s := by
  refine ⟨h.ring.fifo, fun hquiet => ?_, h.processed, h.effect,
    fun hcmd r t j => countP_failoverCommand hcmd r t j⟩
  apply h.ring.taken_eq
  intro hlt
  obtain ⟨hregs, hmain, hsig⟩ := hquiet
  rcases h.awake hlt with hwork | hsignalled | ⟨i, hi⟩ | hown
  · simp [hmain, atWork] at hwork
  · simp [hsig] at hsignalled
  · simp [hregs i] at hi
  · simp [hmain] at hown

end Steps

/-- **Requests are processed once each, in order and independently.**  In every interleaving of
any number of processes with the main process in which the signal is not taken during start-up,
the index of the queue does not overflow, and each request that is processed finds no trace of
the requests before it in the context of the call: the requests are taken out of the queue in the
order in which they were stored, all of them by the time everything is quiet, with the effect of a
separate call of `failover` for each, in which the failover command is run exactly once for each
node the request took down. -/
theorem requests_processed_once (cfg : Config n) (info : NodeInfo n)
    (evs : List (QueueEvent ι n)) (hsound : SoundQueueRun cfg (.start info) evs) :
    QueueSpec cfg info (queueRun cfg info evs) :=
  (queueInv_run evs _ (queueInv_start) hsound).spec

/-- Three backends that are up, node 0 the primary. -/
def threeBackends : NodeInfo 3 where
  backends i := ⟨.up, false, if i = 0 then .primary else .standby⟩
  primaryNodeId := some 0
  mainNodeId := some 0
  followPrimaryOngoing := false

/-- Streaming replication with a failover command. -/
def withFailoverCommand : Config 3 := ⟨.streamingReplication, true, false, false, some 0⟩

/-- A process registers a request and sends the signal. -/
def registration (r : Request 3) : List (QueueEvent Unit 3) :=
  [.call () r, .advance (), .advance (), .advance (), .advance ()]

/-- A call of `failover` that finds `k` requests. -/
def failoverCall (k : Nat) : List (QueueEvent Unit 3) :=
  [.takeSignal, .enterFailover] ++
    (List.replicate k [.takeRequest, .processRequest fun _ => none]).flatten ++
    [.takeRequest, .leaveFailover]

/-- A standby goes down. -/
def oneStandbyDown : List (QueueEvent Unit 3) :=
  .startupDone :: registration (.nodes .nodeDown 1 [] 0) ++ failoverCall 1

/-- The request is taken once, and all that holds of a sound run holds of this one. -/
theorem one_standby_down_once : (queueRun withFailoverCommand threeBackends oneStandbyDown).taken =
        [.nodes .nodeDown 1 [] 0] ∧ QueueSpec withFailoverCommand threeBackends
        (queueRun withFailoverCommand threeBackends oneStandbyDown) := by
  refine ⟨by decide +kernel, requests_processed_once _ _ oneStandbyDown ?_⟩
  refine ⟨trivial, trivial, ?_, ?_, ?_, ?_, fun _ => rfl, trivial, trivial, ?_, trivial, trivial,
    trivial⟩
  · show (_ : Int) < _
    decide +kernel
  · show (_ : Int) < _
    decide +kernel
  · show (_ : Int) < _
    decide +kernel
  · show (_ : Int) < _
    decide +kernel
  · intro ctx r hmain
    obtain ⟨rfl, rfl⟩ := MainPhase.processing.inj
      (hmain : MainPhase.processing .initial (.nodes .nodeDown 1 [] 0) = .processing ctx r)
    exact ⟨fun _ => rfl, .inl rfl⟩

/-- Two standbys go down, one after the other, before the main process gets to work. -/
def twoStandbysDown : List (QueueEvent Unit 3) :=
  .startupDone :: registration (.nodes .nodeDown 1 [] 0) ++
    registration (.nodes .nodeDown 2 [] 0) ++ failoverCall 2

/-- The command for the first standby is run again with the second request, and would not be if the
requests were processed separately. -/
theorem command_run_twice : let s := queueRun withFailoverCommand threeBackends twoStandbysDown
    s.taken = [.nodes .nodeDown 1 [] 0, .nodes .nodeDown 2 [] 0] ∧
      s.actions.countP (Action.isFailoverOf 1) = 2 ∧
      (separately withFailoverCommand threeBackends s.processed).2.countP
        (Action.isFailoverOf 1) = 1 := by
  decide +kernel

end PgBalancer.Main
