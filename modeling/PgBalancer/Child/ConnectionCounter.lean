import PgBalancer.Lib.Census

/-!
# The connection counter

Every child runs the same loop: it waits for a client, counts it in `Req_info->conn_counter`,
refuses it if the connections left are reserved, serves it, and counts it down again.  The
flag `accepted`, a variable of the child, says whether `child_will_go_down` and the error
handler have to count down.  The flag and the counter are not changed together, and a cancel
request is counted down without touching the flag; a signal may end the child between any two
steps.

* `conn_counter_exact` — **the counter is the number of children that serve an accepted
  client, and the reserve is kept**, in runs without an error or an exit at a wrong moment.
-/

namespace PgBalancer.Child

open Census

/-- Where a child is in the loop of `do_child`. -/
inductive Phase where
  /-- at the top of the loop -/
  | top
  /-- in `wait_for_new_connections` -/
  | waiting
  /-- a client has connected -/
  | connected
  /-- `connection_count_up` has released the lock -/
  | counted
  /-- the counter has been read: `con_count` -/
  | compared (conCount : Int)
  /-- the client is refused -/
  | refusing
  /-- beyond the refusal: reading the startup packet, authentication, the session -/
  | serving
  /-- `accepted = 0` has been executed, `connection_count_down` has not -/
  | leaving
  /-- no process -/
  | exited
  deriving DecidableEq

/-- A child: where it is, and its variable `accepted`. -/
structure ChildState where
  phase : Phase
  accepted : Bool
  deriving DecidableEq

/-- `num_init_children` and `reserved_connections`. -/
structure ConnConfig where
  numInitChildren : Nat
  reservedConnections : Nat

/-- The children and the shared counter. -/
structure ConnSystem (ι : Type) where
  /-- `Req_info->conn_counter` -/
  connCounter : Int
  children : ι → ChildState

/-- What can happen to a child. -/
inductive ChildEvent where
  /-- the parent starts the child (again) -/
  | fork
  /-- the checks at the top of the loop; `request` says that a stop, restart or exit request
  is pending -/
  | checkRequests (request : Bool)
  /-- a timeout, or `accept` has to be tried again -/
  | noConnection
  | newConnection
  /-- `connection_count_up` -/
  | countUp
  /-- `return Req_info->conn_counter`, after the lock has been released -/
  | readCounter
  /-- the comparison with the reserve -/
  | checkReserved
  /-- the refusal: the count goes down, then the message is sent and the error raised (or
  `pool_open` has failed) -/
  | refuse
  /-- an SSL or GSS request: the next startup packet is read -/
  | negotiate
  /-- a cancel request -/
  | cancelRequest
  /-- the end of the session: `accepted = 0` -/
  | finish
  /-- an error: the handler looks at the flag, and does the same if it is set -/
  | error
  /-- the `connection_count_down` that follows -/
  | countDown
  /-- the process ends, by a signal or an error that is fatal -/
  | exit
  deriving DecidableEq

variable {ι : Type} [DecidableEq ι]

namespace ConnSystem

/-- No child has a client. -/
def start : ConnSystem ι := ⟨0, fun _ => ⟨.top, false⟩⟩

/-- A child goes on to another phase. -/
def moveTo (s : ConnSystem ι) (i : ι) (phase : Phase) (accepted : Bool) : ConnSystem ι :=
  { s with children := Function.update s.children i ⟨phase, accepted⟩ }

/-- `connection_count_down`: the counter does not go below zero. -/
def connectionCountDown (s : ConnSystem ι) : ConnSystem ι :=
  { s with connCounter := if s.connCounter > 0 then s.connCounter - 1 else s.connCounter }

/-- `exit`, which calls `child_will_go_down` -/
def childExit (s : ConnSystem ι) (i : ι) : ConnSystem ι :=
  (if (s.children i).accepted then s.connectionCountDown else s).moveTo i .exited false

end ConnSystem

open ConnSystem

/-- One step of the child `i`.  A step that does not fit is no step. -/
def childStep (cfg : ConnConfig) (s : ConnSystem ι) (i : ι) (ev : ChildEvent) : ConnSystem ι :=
  let accepted := (s.children i).accepted
  match (s.children i).phase, ev with
  | .exited, .fork => s.moveTo i .top false
  | .top, .checkRequests request => if request then s.childExit i else s.moveTo i .waiting false
  | .waiting, .noConnection => s.moveTo i .top accepted
  | .waiting, .newConnection => s.moveTo i .connected accepted
  | .connected, .countUp =>
    { s.moveTo i .counted accepted with connCounter := s.connCounter + 1 }
  | .counted, .readCounter => s.moveTo i (.compared s.connCounter) accepted
  | .compared conCount, .checkReserved =>
    if cfg.reservedConnections > 0 ∧
        conCount > (cfg.numInitChildren : Int) - cfg.reservedConnections then
      s.moveTo i .refusing accepted
    else s.moveTo i .serving true
  | .refusing, .refuse => s.connectionCountDown.moveTo i .top accepted
  | .serving, .negotiate => s
  -- `get_backend_connection` counts down and returns NULL: the flag stays as it is
  | .serving, .cancelRequest => s.connectionCountDown.moveTo i .top accepted
  | .serving, .finish => s.moveTo i .leaving false
  | .leaving, .countDown => s.connectionCountDown.moveTo i .top accepted
  | .exited, .error | .exited, .exit => s
  | _, .error => if accepted then s.moveTo i .leaving false else s.moveTo i .top false
  | _, .exit => s.childExit i
  | _, _ => s

/-- A run: events of any children, in any order. -/
def childRun (cfg : ConnConfig) (s : ConnSystem ι) (evs : List (ι × ChildEvent)) : ConnSystem ι :=
  evs.foldl (fun s ev => childStep cfg s ev.1 ev.2) s

/-! ## Who is counted -/

/-- The child has an accepted client: it has been counted and its count has not been taken
back. -/
def ChildState.hasClient (c : ChildState) : Bool :=
  match c.phase with
  | .counted | .compared _ | .refusing | .serving | .leaving => true
  | _ => false

/-- The child serves its client, beyond the refusal. -/
def ChildState.serves (c : ChildState) : Bool :=
  match c.phase with
  | .serving | .leaving => true
  | _ => false

/-- The child serves its client, or will. -/
def ChildState.admitted (cfg : ConnConfig) (c : ChildState) : Bool :=
  match c.phase with
  | .serving | .leaving => true
  | .compared conCount => conCount ≤ (cfg.numInitChildren : Int) - cfg.reservedConnections
  | _ => false

open ChildState (hasClient admitted serves)

/-- No error and no exit at a wrong moment.  After a cancel request the flag is still set at
the top of the loop, and between the changes of flag and counter it is not set although the
client is counted. -/
def SoundChildStep (s : ConnSystem ι) (i : ι) : ChildEvent → Prop
  | .checkRequests true => (s.children i).phase = .top → (s.children i).accepted = false
  | .error | .exit => (s.children i).accepted = (s.children i).hasClient
  | _ => True

/-- Every step of the run is sound. -/
def SoundChildRun (cfg : ConnConfig) (s : ConnSystem ι) : List (ι × ChildEvent) → Prop
  | [] => True
  | ev :: evs => SoundChildStep s ev.1 ev.2 ∧ SoundChildRun cfg (childStep cfg s ev.1 ev.2) evs

/-! ## The invariant -/

variable [Fintype ι] {cfg : ConnConfig} {s : ConnSystem ι} {i : ι} {conCount : Int}
  {ev : ChildEvent} {evs : List (ι × ChildEvent)}

/-- The counter and the flags, in a run of sound steps. -/
structure ConnInv (cfg : ConnConfig) (s : ConnSystem ι) : Prop where
  counter : s.connCounter = count ChildState.hasClient s.children
  /-- the flag is set while the client is served, and else only at the top of the loop -/
  accepted : ∀ i, (s.children i).phase ≠ .top →
    (s.children i).accepted = decide ((s.children i).phase = .serving)
  reserve : 0 < cfg.reservedConnections →
    (count (ChildState.admitted cfg) s.children : Int) ≤
      max 0 ((cfg.numInitChildren : Int) - cfg.reservedConnections)

/-- A child moves on, and the counter with it. -/
theorem ConnInv.move (h : ConnInv cfg s) (i : ι) (phase : Phase) (accepted : Bool) (counter : Int)
    (hc : counter + (s.children i).hasClient.toNat =
      s.connCounter + (⟨phase, accepted⟩ : ChildState).hasClient.toNat)
    (ha : phase ≠ .top → accepted = decide (phase = .serving)) (hr : 0 < cfg.reservedConnections →
      (⟨phase, accepted⟩ : ChildState).admitted cfg = true → (s.children i).admitted cfg = true) :
    ConnInv cfg { s.moveTo i phase accepted with connCounter := counter } where
  counter := by
    have hcount := count_update hasClient s.children i ⟨phase, accepted⟩
    have hold := h.counter
    simp only [moveTo]
    omega
  accepted j hj := by
    by_cases hji : j = i
    · subst hji
      simp only [moveTo, Function.update_self] at hj ⊢
      exact ha hj
    · simp only [moveTo, Function.update_of_ne hji] at hj ⊢
      exact h.accepted j hj
  reserve hpos := by
    have hcount := count_update (admitted cfg) s.children i ⟨phase, accepted⟩
    have hold := h.reserve hpos
    have hle : ((⟨phase, accepted⟩ : ChildState).admitted cfg).toNat ≤
        ((s.children i).admitted cfg).toNat := by
      cases hnew : (⟨phase, accepted⟩ : ChildState).admitted cfg with
      | false => exact Nat.zero_le _
      | true => rw [hr hpos hnew]
    simp only [moveTo]
    omega

omit [DecidableEq ι] in
theorem ConnInv.countDown (h : ConnInv cfg s) {i : ι} (hi : (s.children i).hasClient = true) :
    s.connectionCountDown = { s with connCounter := s.connCounter - 1 } := by
  have hpos := count_pos hi
  have hcounter := h.counter
  have : s.connCounter > 0 := by omega
  simp [connectionCountDown, this]

theorem ConnInv.leave (h : ConnInv cfg s) (hi : (s.children i).hasClient = true) (phase : Phase)
    (accepted : Bool) (hp : (⟨phase, accepted⟩ : ChildState).hasClient = false)
    (ha : phase ≠ .top → accepted = decide (phase = .serving)) :
    ConnInv cfg (s.connectionCountDown.moveTo i phase accepted) := by
  rw [h.countDown hi]
  refine h.move i phase accepted (s.connCounter - 1) (by rw [hi, hp]; simp) ha fun _ hadmitted => ?_
  cases phase <;> simp_all [hasClient, admitted]

theorem ConnInv.childExit (h : ConnInv cfg s)
    (hi : (s.children i).accepted = (s.children i).hasClient) : ConnInv cfg (s.childExit i) := by
  unfold ConnSystem.childExit
  cases hclient : (s.children i).hasClient with
  | true =>
    rw [hi, hclient]
    exact h.leave hclient .exited false rfl (fun _ => rfl)
  | false =>
    rw [hi, hclient]
    exact h.move i .exited false s.connCounter (by rw [hclient]; simp [hasClient])
      (fun _ => rfl) (fun _ hf => by cases hf)

/-- The counter is read: only a child that is below the limit is admitted, and it is counted
itself. -/
theorem ConnInv.readCounter (h : ConnInv cfg s) (hp : (s.children i).phase = .counted) :
    ConnInv cfg (s.moveTo i (.compared s.connCounter) (s.children i).accepted) := by
  have hclient : (s.children i).hasClient = true := by simp [hasClient, hp]
  have haccepted := h.accepted i (by simp [hp])
  by_cases hlimit : s.connCounter ≤ (cfg.numInitChildren : Int) - cfg.reservedConnections
  · set s' := s.moveTo i (.compared s.connCounter) (s.children i).accepted with hs'
    have hcounter : s'.connCounter = count hasClient s'.children := by
      have hcount := count_update hasClient s.children i
        ⟨.compared s.connCounter, (s.children i).accepted⟩
      have hold := h.counter
      simp only [hs', moveTo]
      rw [hclient] at hcount
      simp only [hasClient, Bool.toNat_true] at hcount
      omega
    refine ⟨hcounter, ?_, fun _ => ?_⟩
    · intro j hj
      by_cases hji : j = i
      · subst hji
        simp [hs', moveTo, haccepted, hp]
      · simp only [hs', moveTo, Function.update_of_ne hji] at hj ⊢
        exact h.accepted j hj
    · have hle : count (admitted cfg) s'.children ≤
          count hasClient s'.children := by
        refine count_le_count fun j hj => ?_
        cases hphase : (s'.children j).phase <;>
          simp_all [admitted, hasClient]
      have hsame : s'.connCounter = s.connCounter := rfl
      omega
  · exact h.move i (.compared s.connCounter) (s.children i).accepted s.connCounter
      (by rw [hclient]; simp [hasClient]) (fun _ => by rw [haccepted, hp]; rfl)
      (fun _ hf => by simp [admitted] at hf; omega)

theorem ConnInv.quiet (h : ConnInv cfg s) (hi : (s.children i).hasClient = false) (phase : Phase)
    (accepted : Bool) (hp : (⟨phase, accepted⟩ : ChildState).hasClient = false)
    (ha : phase ≠ .top → accepted = decide (phase = .serving)) :
    ConnInv cfg (s.moveTo i phase accepted) := by
  refine h.move i phase accepted s.connCounter (by rw [hi, hp]) ha fun _ hadmitted => ?_
  cases phase <;> simp_all [hasClient, admitted]

/-- A step of one child keeps the count. -/
theorem ConnInv.step (h : ConnInv cfg s) (hs : SoundChildStep s i ev) :
    ConnInv cfg (childStep cfg s i ev) := by
  have htop : ∀ accepted : Bool, Phase.top ≠ .top → accepted = decide (Phase.top = .serving) :=
    fun _ hf => absurd rfl hf
  have hunset : ∀ {p}, (s.children i).phase = p → p ≠ .top → p ≠ .serving →
      (s.children i).accepted = false := by
    rintro p rfl htop hserving
    rw [h.accepted i htop, decide_eq_false hserving]
  have hleaving : (s.children i).phase = .serving → ConnInv cfg (s.moveTo i .leaving false) :=
    fun hp => h.move i .leaving false s.connCounter (by simp [hasClient, hp])
      (fun _ => rfl) (fun _ _ => by simp [admitted, hp])
  fun_cases childStep cfg s i ev with
  | case1 hp => exact h.quiet (by simp [hasClient, hp]) .top false rfl (htop false)
  | case2 hp => exact h.childExit ((hs hp).trans (by simp [hasClient, hp]))
  | case3 _ hp =>
    exact h.quiet (by simp [hasClient, hp]) .waiting false rfl (fun _ => rfl)
  | case4 _ hp => exact h.quiet (by simp [hasClient, hp]) .top _ rfl (htop _)
  | case5 _ hp =>
    exact h.quiet (by simp [hasClient, hp]) .connected _ rfl
      (fun _ => hunset hp (by simp) (by simp))
  | case6 _ hp =>
    exact h.move i .counted _ (s.connCounter + 1) (by simp [hasClient, hp])
      (fun _ => hunset hp (by simp) (by simp)) (fun _ hf => by cases hf)
  | case7 _ hp => exact h.readCounter hp
  | case8 _ conCount hp =>
    exact h.move i .refusing _ s.connCounter (by simp [hasClient, hp])
      (fun _ => hunset hp (by simp) (by simp)) (fun _ hf => by cases hf)
  | case9 conCount hp hlimit =>
    refine h.move i .serving true s.connCounter (by simp [hasClient, hp]) (fun _ => rfl)
      (fun hpos _ => ?_)
    simp only [admitted, hp, decide_eq_true_eq]
    omega
  | case10 _ hp | case12 _ hp | case14 _ hp =>
    exact h.leave (by simp [hasClient, hp]) .top _ rfl (htop _)
  | case13 hp => exact hleaving hp
  | case17 _ haccepted =>
    have hclient : (s.children i).hasClient = true := hs.symm.trans haccepted
    have hne : (s.children i).phase ≠ .top := fun hp => by simp [hasClient, hp] at hclient
    exact hleaving (of_decide_eq_true ((h.accepted i hne).symm.trans haccepted))
  | case18 _ haccepted =>
    exact h.quiet (hs.symm.trans (by simpa using haccepted)) .top false rfl (htop false)
  | case19 => exact h.childExit hs
  | case11 | case15 | case16 | case20 => exact h

theorem ConnInv.run (h : ConnInv cfg s) (hs : SoundChildRun cfg s evs) :
    ConnInv cfg (childRun cfg s evs) := by
  induction evs generalizing s with
  | nil => exact h
  | cons ev evs ih => exact ih (h.step hs.1) hs.2

omit [DecidableEq ι] in
theorem connInv_start : ConnInv cfg (start : ConnSystem ι) where
  counter := by
    have hzero : count hasClient (start : ConnSystem ι).children = 0 :=
      count_eq_zero fun _ => rfl
    rw [hzero]
    rfl
  accepted := fun _ hf => absurd rfl hf
  reserve := fun _ => by
    have hzero : count (admitted cfg) (start : ConnSystem ι).children = 0 :=
      count_eq_zero fun _ => rfl
    rw [hzero]
    exact le_max_left _ _

/-- **The counter is exact and the reserve is kept**, in every run without an error or an exit
at a wrong moment. -/
theorem conn_counter_exact (cfg : ConnConfig)
    (evs : List (Fin cfg.numInitChildren × ChildEvent)) (hs : SoundChildRun cfg start evs) :
    (childRun cfg start evs).connCounter =
        count ChildState.hasClient (childRun cfg start evs).children ∧
      count ChildState.serves (childRun cfg start evs).children ≤
        cfg.numInitChildren - cfg.reservedConnections := by
  have hstart : ConnInv cfg (start : ConnSystem (Fin cfg.numInitChildren)) := connInv_start
  have hinv := hstart.run hs
  generalize childRun cfg start evs = s at *
  refine ⟨hinv.counter, ?_⟩
  have hserves : count serves s.children ≤
      count (admitted cfg) s.children := by
    refine count_le_count fun i hi => ?_
    cases hp : (s.children i).phase <;> simp_all [serves, admitted]
  have hcard := count_le_card serves s.children
  rw [Fintype.card_fin] at hcard
  rcases Nat.eq_zero_or_pos cfg.reservedConnections with hzero | hpos
  · omega
  · have := hinv.reserve hpos
    omega

/-- Three children, one connection reserved. -/
def threeChildren : ConnConfig := ⟨3, 1⟩

/-- A child serves a client, from the top of the loop. -/
def accepts (i : Fin 3) : List (Fin 3 × ChildEvent) :=
  [(i, .checkRequests false), (i, .newConnection), (i, .countUp), (i, .readCounter),
    (i, .checkReserved)]

local instance neZeroThree : NeZero 3 := ⟨three_ne_zero⟩

/-- Three clients, of which the third is refused. -/
def threeClients : List (Fin 3 × ChildEvent) := accepts 0 ++ accepts 1 ++ accepts 2

/-- Two clients are served, and one place is kept. -/
theorem conn_counter_exact_three :
    (childRun threeChildren (start : ConnSystem (Fin 3)) threeClients).connCounter =
        count ChildState.hasClient
          (childRun threeChildren (start : ConnSystem (Fin 3)) threeClients).children ∧
      count ChildState.serves
        (childRun threeChildren (start : ConnSystem (Fin 3)) threeClients).children ≤ 3 - 1 :=
  conn_counter_exact threeChildren threeClients (by
    simp [threeClients, accepts, SoundChildRun, SoundChildStep])

/-- Child 0 serves a client; child 1 handles a cancel request and finds a restart request at
the top of the loop. -/
def cancelThenRestart : List (Fin 3 × ChildEvent) :=
  accepts 0 ++ accepts 1 ++ [(1, .cancelRequest), (1, .checkRequests true)]

/-- The counter says zero while child 0 serves a client, and then all three children serve one
although one connection is reserved. -/
theorem cancel_then_restart :
    (childRun threeChildren (start : ConnSystem (Fin 3)) cancelThenRestart).connCounter = 0 ∧
      count ChildState.hasClient
        (childRun threeChildren (start : ConnSystem (Fin 3)) cancelThenRestart).children = 1 ∧
      count ChildState.serves (childRun threeChildren (start : ConnSystem (Fin 3))
        (cancelThenRestart ++ [(1, .fork)] ++ accepts 1 ++ accepts 2)).children = 3 := by
  decide

end PgBalancer.Child
