import Mathlib

/-!
# Detecting false primaries

More than one backend can say that it is not in recovery.  `verify_backend_node_status` asks the
standbys which of them they stream from: a primary that owns all standbys is the true one, and the
other primaries are invalid.

* `invalid_iff` — **a node is found invalid exactly if it is a primary that does not own all
  standbys while another one does, or, without any standby, a primary behind the first one; the
  other nodes keep the status that they answered**.
-/

namespace PgBalancer.Main

open List

/-! ## The function of the source -/

/-- `POOL_NODE_STATUS` -/
inductive NodeStatus where
  | unused
  | primary
  | standby
  | invalid
  deriving DecidableEq

/-- A row of `pg_stat_wal_receiver`; host and port are those found in `conninfo`. -/
structure WalReceiver where
  status : Option String
  conninfo : Option (String × Int)

/-- A backend, and what it answers to the queries; none if a query fails. -/
structure Server where
  /-- `VALID_BACKEND` -/
  isValid : Bool
  hasSlot : Bool
  hostname : String
  port : Int
  version : Nat
  isInRecovery : Option (Option String)
  walReceiver : Option (List WalReceiver)

/-- The standby receives its log from this backend. -/
def Server.sends (backend standby : Server) : Bool :=
  match standby.walReceiver with
  | some (row :: _) =>
    match row.status, row.conninfo with
    | some status, some (host, port) =>
      status == "streaming" &&
        ((backend.hostname.toList.head? == some '/' && (host == "" || host == "localhost")) ||
          backend.hostname == host) && backend.port == port
    | _, _ => false
  | _ => false

section

variable {n : Nat} (servers : Fin n → Server)

/-- What the nodes say about themselves. -/
def answeredStatus (i : Fin n) : NodeStatus :=
  if (servers i).isValid && (servers i).hasSlot then
    match (servers i).isInRecovery with
    | some (some "t") => .standby
    | some (some "f") => .primary
    | _ => .unused
  else .unused

/-- `num_standbys` -/
def numStandbys : Nat := (List.finRange n).countP fun i => answeredStatus servers i = .standby

/-- A standby that receives its log from this node. -/
def isOwned (i j : Fin n) : Bool :=
  answeredStatus servers j = .standby && (servers j).hasSlot && (servers i).sends (servers j)

/-- Without any standby, the first primary is kept. -/
def keepFirst (detach : Bool) (status : Fin n → NodeStatus) : List (Fin n) → Fin n → NodeStatus
  | [] => status
  | i :: rest =>
    if status i = .primary then
      rest.foldl (fun status j => if status j = .primary then
        Function.update status j (if detach then .invalid else .unused) else status) status
    else keepFirst detach status rest

/-- The standbys are asked, for one primary: how many it owns, and the true primary so far. -/
def askStandbys (i : Fin n) (state : Nat × Option (Fin n)) (j : Fin n) : Nat × Option (Fin n) :=
  if isOwned servers i j then
    (state.1 + 1, if state.1 + 1 = numStandbys servers then some i else state.2)
  else state

/-- The loop over the primaries. -/
def askPrimary (state : (Fin n → Nat) × Option (Fin n)) (i : Fin n) :
    (Fin n → Nat) × Option (Fin n) :=
  if (servers i).isValid ∧ answeredStatus servers i = .primary then
    let r := (List.finRange n).foldl (askStandbys servers i) (0, state.2)
    (Function.update state.1 i r.1, r.2)
  else state

/-- `verify_backend_node_status` -/
def verifyBackendNodeStatus (detach : Bool) : Fin n → NodeStatus :=
  let status := answeredStatus servers
  let numPrimaries := (List.finRange n).countP fun i => status i = .primary
  if numPrimaries = 0 then status
  else if numStandbys servers = 0 then
    if numPrimaries = 1 then status else keepFirst detach status (List.finRange n)
  else if detach = false then status
  else if (List.finRange n).all fun i =>
      !((servers i).isValid && (servers i).hasSlot && 90600 ≤ (servers i).version) then status
  else
    let r := (List.finRange n).foldl (askPrimary servers) (fun _ => 0, none)
    fun i => if status i = .primary ∧ r.1 i < numStandbys servers ∧ r.2.isSome then .invalid
      else status i

/-! ## Who is invalid -/

/-- All standbys receive their log from this node. -/
def Owns (i : Fin n) : Prop :=
  ∀ j, answeredStatus servers j = .standby → (servers i).sends (servers j) = true

variable {servers} {i : Fin n}

theorem slot_of_answered (h : answeredStatus servers i ≠ .unused) :
    (servers i).isValid = true ∧ (servers i).hasSlot = true := by
  by_contra hnot
  exact h (if_neg (by simpa using hnot))

theorem numStandbys_eq_zero :
    numStandbys servers = 0 ↔ ∀ j, answeredStatus servers j ≠ .standby := by
  simp [numStandbys, countP_eq_zero]

theorem countP_isOwned_lt_iff :
    (List.finRange n).countP (isOwned servers i) < numStandbys servers ↔ ¬ Owns servers i := by
  have howned : (List.finRange n).countP (isOwned servers i) =
      ((List.finRange n).filter fun j => answeredStatus servers j = .standby).countP fun j =>
        (servers i).sends (servers j) := by
    rw [countP_filter]
    refine countP_congr fun j _ => ?_
    by_cases hj : answeredStatus servers j = .standby
    · simp [isOwned, hj, (slot_of_answered (hj ▸ nofun : answeredStatus servers j ≠ .unused)).2]
    · simp [isOwned, hj]
  have hall : numStandbys servers =
      ((List.finRange n).filter fun j => answeredStatus servers j = .standby).length :=
    countP_eq_length_filter
  rw [howned, hall, countP_lt_length_iff]
  simp [Owns]

variable {l : List (Fin n)}

theorem foldl_askStandbys (c : Nat) (t : Option (Fin n)) :
    (l.foldl (askStandbys servers i) (c, t)).1 = c + l.countP (isOwned servers i) ∧
      ((l.foldl (askStandbys servers i) (c, t)).2.isSome ↔ t.isSome ∨ c < numStandbys servers ∧
        numStandbys servers ≤ c + l.countP (isOwned servers i)) := by
  induction l generalizing c t with
  | nil => simp
  | cons j l ih =>
    rw [foldl_cons, askStandbys]
    by_cases hj : isOwned servers i j = true
    · rw [if_pos hj]
      obtain ⟨hcount, htrue⟩ := ih (c + 1) (if c + 1 = numStandbys servers then some i else t)
      rw [countP_cons_of_pos hj]
      refine ⟨by rw [hcount]; omega, htrue.trans ?_⟩
      split_ifs with hc
      · simp; omega
      · refine or_congr_right ?_
        omega
    · rw [if_neg hj, countP_cons_of_neg hj]
      exact ih c t

/-- The loop counts the standbys of each primary. -/
theorem foldl_askPrimary (hpos : 0 < numStandbys servers) (state : (Fin n → Nat) × Option (Fin n)) :
    (∀ i ∈ l, answeredStatus servers i = .primary → (l.foldl (askPrimary servers) state).1 i =
        (List.finRange n).countP (isOwned servers i)) ∧
      ((l.foldl (askPrimary servers) state).2.isSome ↔ state.2.isSome ∨
        ∃ i ∈ l, answeredStatus servers i = .primary ∧ Owns servers i) := by
  induction l using List.reverseRecOn with
  | nil => simp
  | append_singleton l i ih =>
    obtain ⟨hcount, htrue⟩ := ih
    have howns : Owns servers i ↔
        numStandbys servers ≤ (List.finRange n).countP (isOwned servers i) := by
      rw [← not_lt, countP_isOwned_lt_iff, not_not]
    rw [foldl_append, foldl_cons, foldl_nil]
    generalize l.foldl (askPrimary servers) state = r at hcount htrue ⊢
    rw [askPrimary]
    by_cases hi : answeredStatus servers i = .primary
    · have hvalid := (slot_of_answered (hi ▸ nofun : answeredStatus servers i ≠ .unused)).1
      obtain ⟨hnum, hsome⟩ := foldl_askStandbys 0 r.2
      rw [if_pos ⟨hvalid, hi⟩]
      refine ⟨fun j hj hprimary => ?_, hsome.trans ?_⟩
      · by_cases hji : j = i
        · simp [hji, hnum]
        · simpa [hji] using hcount j (by simpa [hji] using hj) hprimary
      · simp only [htrue, zero_add, hpos, true_and, ← howns, mem_append, mem_singleton,
          or_and_right, exists_or, exists_eq_left, hi, or_assoc]
    · rw [if_neg fun h => hi h.2]
      refine ⟨fun j hj hprimary => hcount j ?_ hprimary, htrue.trans ?_⟩
      · rcases mem_append.1 hj with hj | hj
        · exact hj
        · exact absurd (mem_singleton.1 hj ▸ hprimary) hi
      · simp [or_and_right, exists_or, hi]

theorem foldl_demote (status : Fin n → NodeStatus) (j : Fin n) :
    l.foldl (fun status j => if status j = .primary then
        Function.update status j (if true then .invalid else .unused) else status) status j =
      if j ∈ l ∧ status j = .primary then .invalid else status j := by
  induction l generalizing status with
  | nil => simp
  | cons i l ih =>
    rw [foldl_cons, ih]
    by_cases hi : status i = .primary
    · by_cases hji : j = i
      · simp [hji, hi]
      · simp [hji, hi]
    · by_cases hji : j = i
      · simp [hji, hi]
      · simp [hji, hi]

/-- All primaries but the first become invalid. -/
theorem keepFirst_eq {l : List (Fin n)} (hl : l.Pairwise (· < ·)) (status : Fin n → NodeStatus)
    (j : Fin n) : keepFirst true status l j =
      if j ∈ l ∧ status j = .primary ∧ ∃ k ∈ l, k < j ∧ status k = .primary then .invalid
      else status j := by
  induction l with
  | nil => simp [keepFirst]
  | cons i l ih =>
    obtain ⟨hlt, hl⟩ := pairwise_cons.1 hl
    rw [keepFirst]
    by_cases hi : status i = .primary
    · rw [if_pos hi, foldl_demote]
      refine if_congr ⟨fun h => ⟨.tail _ h.1, h.2, i, .head _, hlt j h.1, hi⟩, ?_⟩ rfl rfl
      rintro ⟨hj, hprimary, k, hk, hkj, -⟩
      refine ⟨(mem_cons.1 hj).resolve_left ?_, hprimary⟩
      rintro rfl
      rcases mem_cons.1 hk with rfl | hk
      · exact lt_irrefl _ hkj
      · exact lt_asymm hkj (hlt k hk)
    · rw [if_neg hi, ih hl]
      refine if_congr ⟨fun ⟨hj, hp, k, hk, h⟩ => ⟨.tail _ hj, hp, k, .tail _ hk, h⟩, ?_⟩ rfl rfl
      rintro ⟨hj, hprimary, k, hk, hkj, hkp⟩
      refine ⟨(mem_cons.1 hj).resolve_left ?_, hprimary, k,
        (mem_cons.1 hk).resolve_left ?_, hkj, hkp⟩
      · rintro rfl
        exact hi hprimary
      · rintro rfl
        exact hi hkp

/-- **A node is invalid exactly if it is a primary that does not own all standbys while another
primary does, or, without standbys, one behind the first primary.  The others keep their
status**, standbys in particular. -/
theorem invalid_iff (servers : Fin n → Server)
    (hversion : ∀ i, (servers i).isValid = true → 90600 ≤ (servers i).version) (i : Fin n) :
    (verifyBackendNodeStatus servers true i = .invalid ↔ answeredStatus servers i = .primary ∧
      ((∃ j, answeredStatus servers j = .standby) ∧ ¬ Owns servers i ∧
          (∃ k, answeredStatus servers k = .primary ∧ Owns servers k) ∨
        (∀ j, answeredStatus servers j ≠ .standby) ∧
          ∃ k < i, answeredStatus servers k = .primary)) ∧
    (verifyBackendNodeStatus servers true i ≠ .invalid →
      verifyBackendNodeStatus servers true i = answeredStatus servers i) := by
  have hanswered : ∀ i, answeredStatus servers i ≠ .invalid := by
    intro i
    unfold answeredStatus
    split_ifs
    · split <;> nofun
    · nofun
  -- the function either leaves the status as it is or finds the node invalid
  suffices h : ∃ p : Prop, ∃ _ : Decidable p, verifyBackendNodeStatus servers true i =
      (if p then .invalid else answeredStatus servers i) ∧
      (p ↔ answeredStatus servers i = .primary ∧
        ((∃ j, answeredStatus servers j = .standby) ∧ ¬ Owns servers i ∧
            (∃ k, answeredStatus servers k = .primary ∧ Owns servers k) ∨
          (∀ j, answeredStatus servers j ≠ .standby) ∧
            ∃ k < i, answeredStatus servers k = .primary)) by
    obtain ⟨p, _, hverify, hp⟩ := h
    rw [hverify, ← hp]
    split_ifs with h
    · exact ⟨iff_of_true rfl h, fun hne => absurd rfl hne⟩
    · exact ⟨iff_of_false (hanswered i) h, fun _ => rfl⟩
  unfold verifyBackendNodeStatus
  dsimp only
  split_ifs with hnone hstandby hone hdetach hold
  · refine ⟨False, inferInstance, (if_neg id).symm, iff_of_false id fun h => ?_⟩
    exact absurd h.1 (by simpa using countP_eq_zero.1 hnone i (mem_finRange i))
  · refine ⟨False, inferInstance, (if_neg id).symm, iff_of_false id ?_⟩
    rintro ⟨hi, ⟨⟨j, hj⟩, -⟩ | ⟨-, k, hk, hkp⟩⟩
    · exact numStandbys_eq_zero.1 hstandby j hj
    · rw [countP_eq_length_filter, length_eq_one_iff] at hone
      obtain ⟨a, ha⟩ := hone
      have hmem : ∀ m, answeredStatus servers m = .primary → m = a := fun m hm =>
        mem_singleton.1 (ha ▸ mem_filter.2 ⟨mem_finRange m, by simpa using hm⟩)
      rw [hmem k hkp, hmem i hi] at hk
      exact lt_irrefl _ hk
  · refine ⟨_, _, keepFirst_eq (pairwise_lt_finRange n) _ i, ?_⟩
    have hno := numStandbys_eq_zero.1 hstandby
    simp [hno]
  · exact hdetach.elim
  · refine ⟨False, inferInstance, (if_neg id).symm, iff_of_false id fun _ => ?_⟩
    obtain ⟨k, -, hk⟩ := countP_pos_iff.1 (Nat.pos_of_ne_zero hnone)
    have hslot := slot_of_answered
      (of_decide_eq_true hk ▸ nofun : answeredStatus servers k ≠ .unused)
    have := all_eq_true.1 hold k (mem_finRange k)
    simp [hslot, hversion k hslot.1] at this
  · have hpos := Nat.pos_of_ne_zero hstandby
    obtain ⟨hcount, htrue⟩ := foldl_askPrimary hpos (fun _ => 0, none)
    refine ⟨_, inferInstance, rfl, and_congr_right fun hi => ?_⟩
    have hex : ∃ j, answeredStatus servers j = .standby := by
      by_contra hno
      exact hstandby (numStandbys_eq_zero.2 (not_exists.1 hno))
    have hno : ¬ ∀ j, answeredStatus servers j ≠ .standby := fun h =>
      hstandby (numStandbys_eq_zero.2 h)
    rw [hcount i (mem_finRange i) hi, countP_isOwned_lt_iff, htrue]
    simp [hex, hno]

/-- A backend on the local host that streams from the given port. -/
def localServer (port : Int) (recovery : String) (upstream : Int) : Server :=
  ⟨true, true, "localhost", port, 150000, some (some recovery),
    some [⟨some "streaming", some ("localhost", upstream)⟩]⟩

/-- Two primaries, of which the second one owns the standby. -/
theorem first_primary_invalid :
    verifyBackendNodeStatus ![localServer 1 "f" 0, localServer 2 "f" 0, localServer 3 "t" 2] true
      0 = .invalid := by
  refine (invalid_iff _ (by decide) 0).1.2 ⟨by decide, .inl ⟨⟨2, by decide⟩, fun h => ?_, 1, ?_⟩⟩
  · exact absurd (h 2 (by decide)) (by decide +kernel)
  · refine ⟨by decide, fun j hj => ?_⟩
    revert j
    decide +kernel

end

end PgBalancer.Main
