import PgBalancer.Routing.WritingTransaction

/-!
# The query cache and the writes of the own transaction

Before a simple query is parsed, `SimpleQuery` looks its text up in the query cache.  The
only thing that keeps a `SELECT` from being answered with a result from before a write of
its own transaction is the flag of the session that something was written.

* `own_writes_not_hidden` — **no `SELECT` is answered from an entry that is older than a
  modification by its own transaction**, in runs whose queries keep the flag true (`Careful`).
-/

namespace PgBalancer.QueryCache

open PatternLists (Text)
open Routing

variable {ρ κ : Type}

/-! ## A session -/

/-- What decides about the lookup of a query, and what the query does. -/
structure Lookup where
  memoryCacheEnabled : Bool
  /-- `pool_is_likely_select` of the text -/
  isLikelySelect : Bool
  /-- `query_cache_disabled` of the session -/
  queryCacheDisabled : Bool
  /-- which statements modify data if they succeed -/
  modifies : Node → Bool

/-- A session and the store it shares with others. -/
structure OwnSession (κ : Type) where
  flags : Flags
  /-- when the entry under a key was committed -/
  entries : κ → Option ℕ
  now : ℕ
  /-- when the current transaction last modified data -/
  modifiedAt : Option ℕ

/-- What happens to the session and the store. -/
inductive OwnEvent (ρ : Type) where
  /-- a `Query` message, of one or several statements -/
  | query (k : Circumstances ρ) (l : Lookup) (n : Node) (rest : List Node)
  /-- some session commits a result -/
  | commit (text : Text)
  /-- an entry is invalidated or makes room for another -/
  | remove (text : Text)

/-- Does `SimpleQuery` look into the cache? -/
def consultsCache (f : Flags) (l : Lookup) : Bool :=
  l.memoryCacheEnabled && l.isLikelySelect && !f.writing && f.tstate ≠ .failed &&
    !l.queryCacheDisabled

/-- The modifications of a transaction, by the time of the last one. -/
def modifications (now : ℕ) (modifies : Node → Bool) : Ledger (Option ℕ) where
  clean := none
  add h n := if modifies n then some now else h

section

variable (c : RunConfig) (key : Text → κ)

/-- The time of the entry that answers the query. -/
def answer (s : OwnSession κ) (k : Circumstances ρ) (l : Lookup) : Option ℕ :=
  if consultsCache s.flags l then s.entries (key k.env.query) else none

/-- `SimpleQuery` up to `ReadyForQuery`, once the query has to be sent -/
def sendStep (s : OwnSession κ) (k : Circumstances ρ) (l : Lookup) (n : Node)
    (rest : List Node) : OwnSession κ :=
  match k.route c s.flags n with
  | .error _ => s
  | .ok _ =>
    { s with
      flags := complete (k.at c s.flags) n rest k.outcome s.flags.tstate (flagsBefore c s.flags k n)
      modifiedAt :=
        if succeeds s.flags.tstate n k.outcome then
          (modifications s.now l.modifies).recordAll s.flags.tstate s.modifiedAt (n :: rest)
        else s.modifiedAt }

/-- What an event does to the session and the store. -/
def ownEffect [DecidableEq κ] (s : OwnSession κ) : OwnEvent ρ → OwnSession κ
  | .query k l n rest => if (answer key s k l).isSome then s else sendStep c s k l n rest
  | .commit text => { s with entries := Function.update s.entries (key text) (some s.now) }
  | .remove text => { s with entries := Function.update s.entries (key text) none }

/-- An event, and the clock. -/
def ownStep [DecidableEq κ] (s : OwnSession κ) (ev : OwnEvent ρ) : OwnSession κ :=
  { ownEffect c key s ev with now := s.now + 1 }

/-- The session after some events. -/
def ownRun [DecidableEq κ] (s : OwnSession κ) (evs : List (OwnEvent ρ)) : OwnSession κ :=
  evs.foldl (ownStep c key) s

/-- A new session, on a store with any entries. -/
def ownStart (entries : κ → Option ℕ) (now : ℕ) : OwnSession κ :=
  ⟨⟨.idle, false, false, .unknown⟩, entries, now, none⟩

/-- A query that is sent keeps the flag true. -/
def Careful (s : OwnSession κ) : OwnEvent ρ → Prop
  | .query k l n rest => answer key s k l = none →
    NoInternalStart c k (s.modifiedAt.isSome = true) ∧ PlainIfSeveral n rest ∧
    KeepsMemory c .cache (k.at c s.flags) (s.modifiedAt.isSome = true)
      (∃ m ∈ n :: rest, l.modifies m = true) s.flags.tstate (flagsBefore c s.flags k n) n
  | .commit _ | .remove _ => True

/-- Every query of the run is careful. -/
def CarefulRun [DecidableEq κ] : OwnSession κ → List (OwnEvent ρ) → Prop
  | _, [] => True
  | s, ev :: evs => Careful c key s ev ∧ CarefulRun (ownStep c key s ev) evs

/-- If the query is answered from the cache, then from an entry that is not older than the
last modification. -/
def Fresh (s : OwnSession κ) : OwnEvent ρ → Prop
  | .query k l _ _ => ∀ stamp m, answer key s k l = some stamp → s.modifiedAt = some m → m ≤ stamp
  | .commit _ | .remove _ => True

end

/-! ## Steps -/

/-- A modification is remembered by the flag. -/
def FlagInv (s : OwnSession κ) : Prop :=
  s.modifiedAt.isSome = true → s.flags.tstate ≠ .idle ∧ s.flags.Remembers .cache

variable {c : RunConfig} {key : Text → κ} {s : OwnSession κ} {now : ℕ} {modifies : Node → Bool}
  {h : Option ℕ} {t : TState} {n : Node} {rest : List Node} {k : Circumstances ρ} {l : Lookup}
  {ev : OwnEvent ρ} {evs : List (OwnEvent ρ)}

theorem isSome_add (h : Option ℕ) (n : Node)
    (hm : ((modifications now modifies).add h n).isSome = true) :
    h.isSome = true ∨ modifies n = true := by
  simp only [modifications] at hm
  split_ifs at hm with hn
  · exact Or.inr hn
  · exact Or.inl hm

theorem carried_of_modified (hrest : PlainIfSeveral n rest)
    (hm : ((modifications now modifies).recordAll t h (n :: rest)).isSome = true) :
    Carried (h.isSome = true) (∃ m ∈ n :: rest, modifies m = true) t n :=
  Ledger.carried_of_matters (fun h : Option ℕ => h.isSome = true) (by simp [modifications])
    isSome_add
    hrest hm

theorem sendStep_inv (hint : NoInternalStart c k (s.modifiedAt.isSome = true))
    (hrest : PlainIfSeveral n rest)
    (hmem : KeepsMemory c .cache (k.at c s.flags) (s.modifiedAt.isSome = true)
      (∃ m ∈ n :: rest, l.modifies m = true) s.flags.tstate (flagsBefore c s.flags k n) n)
    (hi : FlagInv s) : FlagInv (sendStep c s k l n rest) := by
  unfold sendStep
  split
  · exact hi
  · intro hm
    refine complete_inv rfl hrest (fun hm => ⟨(hi hm).1, ?_⟩) hmem ?_
    · exact remembers_flagsBefore hint hm (hi hm).2
    · dsimp only at hm
      split_ifs at hm ⊢
      · exact carried_of_modified hrest hm
      · exact hm

/-- **A careful step keeps the flag true.** -/
theorem ownEffect_inv [DecidableEq κ] (hc : Careful c key s ev) (hi : FlagInv s) :
    FlagInv (ownEffect c key s ev) := by
  cases ev with
  | query k l n rest =>
    cases hans : answer key s k l with
    | some stamp => simpa [ownEffect, hans] using hi
    | none =>
      obtain ⟨hint, hrest, hmem⟩ := hc hans
      have hsend := sendStep_inv hint hrest hmem hi
      simpa [ownEffect, hans] using hsend
  | commit text => exact hi
  | remove text => exact hi

theorem ownRun_inv [DecidableEq κ] (hc : CarefulRun c key s evs) (hi : FlagInv s) :
    FlagInv (ownRun c key s evs) := by
  induction evs generalizing s with
  | nil => exact hi
  | cons ev evs ih => exact ih hc.2 (ownEffect_inv hc.1 hi)

theorem fresh_of_inv (hi : FlagInv s) : Fresh key s ev := by
  cases ev with
  | query k l n rest =>
    intro stamp m hans hm
    rcases (hi (by simp [hm])).2 with hw | ⟨hg, -⟩
    · simp [answer, consultsCache, hw] at hans
    · cases hg
  | commit text => trivial
  | remove text => trivial

/-- **No `SELECT` is answered from an entry that is older than a modification by its own
transaction**, in runs whose queries keep the flag true. -/
theorem own_writes_not_hidden [DecidableEq κ] (c : RunConfig) (key : Text → κ)
    (entries : κ → Option ℕ) (now : ℕ) (pre : List (OwnEvent ρ))
    (hc : CarefulRun c key (ownStart entries now) pre)
    (ev : OwnEvent ρ) : Fresh key (ownRun c key (ownStart entries now) pre) ev := by
  have hi : FlagInv (ownStart entries now) := fun hm => by simp [ownStart] at hm
  exact fresh_of_inv (ownRun_inv hc hi)

/-! ## Two transactions -/

/-- A lookup with the cache switched on; `INSERT` modifies data. -/
def lookup (isLikelySelect : Bool) : Lookup where
  memoryCacheEnabled := true
  isLikelySelect := isLikelySelect
  queryCacheDisabled := false
  modifies
    | .insertStmt .. => true
    | _ => false

/-- A result of the `SELECT` is committed; then `BEGIN; INSERT`. -/
def selectedThenInserted : List (OwnEvent Unit) :=
  [.commit fine.env.query,
    .query fine (lookup false) (.transactionStmt .begin [] false) [],
    .query fine (lookup false) (.insertStmt .null .null .null .null .null .null) []]

/-- In mode `transaction` the `SELECT` that follows is not answered from the entry. -/
theorem insert_not_hidden :
    CarefulRun transactionMode id (ownStart (fun _ => none) 0) selectedThenInserted ∧
      Fresh id (ownRun transactionMode id (ownStart (fun _ => none) 0) selectedThenInserted)
        (.query fine (lookup true) plainSelect []) := by
  have hc : CarefulRun transactionMode id (ownStart (fun _ => none) 0) selectedThenInserted := by
    refine ⟨trivial, fun _ => ⟨noInternalStart_fine, plainIfSeveral_nil, ⟨?_, ?_, ?_⟩⟩,
      fun _ => ⟨noInternalStart_fine, plainIfSeveral_nil, ⟨?_, ?_, ?_⟩⟩, trivial⟩
    -- `BEGIN` outside a transaction
    · intro _ ht
      exact absurd rfl ht
    · intro hback
      cases hback
    · intro _ hstart
      cases hstart
    -- `INSERT` is noticed
    · intro hstart
      cases hstart
    · intro hback
      cases hback
    · intro _ _ _
      exact Or.inr ⟨rfl, rfl⟩
  exact ⟨hc, own_writes_not_hidden transactionMode id (fun _ => none) 0 selectedThenInserted hc _⟩

/-- With `disable_load_balance_on_write = off` it is. -/
theorem insert_hidden_by_cache :
    ¬ Fresh id (ownRun ⟨.off, 0⟩ id (ownStart (fun _ => none) 0) selectedThenInserted)
      (.query fine (lookup true) plainSelect []) := by
  intro h
  exact absurd (h 0 2 (by rfl) rfl) (by decide)

end PgBalancer.QueryCache
