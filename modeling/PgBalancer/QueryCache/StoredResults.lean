import PgBalancer.QueryCache.ResultTracking

/-!
# Stored results belong to one execution

The handler is called at CommandComplete for an extended query, and at ReadyForQuery for a
simple one (and, outside streaming replication mode, once more for an extended one).  What
it stores is right as long as the temporary cache of the query context holds the output of
the execution that is over, under its key.  Nothing in the code sees to that: Bind and a
failed or suspended execution leave the temporary cache as it is, and only one branch of
Execute composes the key. So both are conditions on the steps of a run, and a third is that
Bind does not copy the query context.

* `stored_output_of_one_execution` — **every committed buffer is the output of one
  execution**, in sound runs; `stored_output_of_two_executions` is a run that is not.
* `stored_under_own_key` — **and is committed under the text and the parameters of that
  execution**; `stored_under_no_key` is a run in which the key is a null pointer.
-/

namespace PgBalancer.QueryCache

open Session CacheSession Buffers

variable {ρ α : Type} {k isFinal slExtended overflow : Bool} {s s' : CacheSession ρ}
  {cfg : CacheConfig} {call c : HandlerCall} {q q' : QueryContext ρ} {kept : Kept ρ} {i : Nat}
  {x : Execution} {cache : TempCache (Msg ρ)} {query : Option CString} {b : Buffers α}
  {state : TState} {o : Completion} {m : Msg ρ}

/-! ## The handler is called -/

/-- What a call of the handler commits and keeps has a property, if what it is given has. -/
theorem handled_stores (P : Option CString → List (Msg ρ) → Prop) (auto : Bool)
    (hprog : call.queryInProgress = true)
    (hkept : ∀ cache, some cache ∈ kept.cacheArray → P cache.query cache.buffer)
    (hcollected : ∀ cache, Collects call (buffersOf q kept) cache →
      (call.state = .idle → cache.buffer ≠ [] → P call.query cache.buffer) ∧
        (call.state ≠ .idle → P cache.query cache.buffer)) :
    (∀ cache, some cache ∈ (handled auto call q kept).kept.cacheArray →
        P cache.query cache.buffer) ∧
      ∀ query data oids, .commit query data oids ∈ (handled auto call q kept).ops →
        P query data := by
  constructor
  · intro cache' h
    obtain ⟨cache, hquery, hbuffer, hmem | ⟨hstate, hc⟩⟩ := mem_cacheArray_handle hprog h
    · exact hquery ▸ hbuffer ▸ hkept cache hmem
    · exact hquery ▸ hbuffer ▸ (hcollected cache hc).2 hstate
  · intro query data oids h
    obtain ⟨hstate, rfl, hne, cache, hc, rfl⟩ | ⟨cache, hmem, rfl, rfl⟩ := mem_ops_handle hprog h
    · exact (hcollected cache hc).1 hstate hne
    · exact hkept cache hmem

theorem ResultInv.withKept (h : ResultInv k s)
    (hkept : ∀ cache, some cache ∈ kept.cacheArray → Stored k s cache.query cache.buffer) :
    ResultInv k { s with kept := kept } :=
  ⟨h.context_lt, h.fresh, h.exec_lt, h.silent, h.distinct, h.simple,
    fun x hx q hq => (QueryContext.Keeps.refl q).tracks (h.tracks x hx q hq) rfl rfl, hkept⟩

theorem ResultInv.lt_of_contexts (h : ResultInv k s) (hq : s.contexts i = some q) :
    i < s.nextContext := by
  by_contra hle
  rw [h.fresh i (not_lt.1 hle)] at hq
  cases hq

theorem frame_setContext (hq : s.contexts i = some q)
    (hctx : s'.contexts = Function.update s.contexts i (some q'))
    (hrun : s'.running.Sublist s.running) (hkeeps : ∀ x ∈ s'.running, x.context = i → q.Keeps q')
    (hsame : s'.executed = s.executed) : Frame s s' := by
  refine .of_update hctx (fun hnone => ?_) (fun x hx hxi q₁ hq₁ => ?_) hrun hsame
  · rw [hq] at hnone
    cases hnone
  · cases hq₁
    exact ⟨q, hq, hkeeps x hx hxi⟩

/-- What holds after a step: the invariant, and that the step has committed results only. -/
def StepOk (k : Bool) (r : CacheSession ρ × List (CacheOp (Msg ρ))) : Prop :=
  ResultInv k r.1 ∧ ∀ query data oids, .commit query data oids ∈ r.2 → Stored k r.1 query data

section

variable (h : ResultInv k s) {auto : Bool} {call : HandlerCall} {q : QueryContext ρ} {x : Execution}
  {rest : List Pending} {o : Completion} {state : TState}
include h

theorem StepOk.of_inv : StepOk k (s, []) :=
  ⟨h, fun _ _ _ h => by cases h⟩

theorem StepOk.behind {p : Pending} (hp : s.pending = p :: rest) (state : TState) :
    StepOk k ({ s with pending := rest, tstate := state }, []) :=
  .of_inv (h.frame (.of_eq rfl (running_rest hp) rfl))

/-- What the first execution of the queue has collected when it is complete is its result. -/
theorem stored_of_collects (hp : s.pending = .execution x :: rest)
    (hq : s.contexts x.context = some q) (hf : Frame s s')
    (hrest : s'.running = rest.filterMap Pending.execution?) (hclean : x.clean = true)
    (hkeyed : k = true → x.keyed = true) (hcomplete : isComplete (s.outputOf x.exec) x.exec = true)
    (hquery : query = if x.isSimple then some q.stmt.text else q.queryWHex)
    (hc : Collects (handlerCall q query state isFinal slExtended o) (buffersOf q s.kept) cache) :
    Stored k s' query cache.buffer ∧ Stored k s' cache.query cache.buffer := by
  have hx : x ∈ s.running := by simp [running_cons hp]
  have htracks := h.tracks x hx q hq
  have hsafe := hc.1
  simp only [HandlerCall.cacheable, Bool.and_eq_true] at hsafe
  have hstored : ∀ query, (k = true → query = some (s.keyOf x.exec)) →
      Stored k s' query cache.buffer := by
    intro query hkey
    refine ⟨x.exec, hf.nextExec ▸ h.exec_lt x hx, fun y hy => (h.behind hp (hrest ▸ hy)).1.symm, ?_,
      hf.keyOf ▸ hkey⟩
    rw [IsResult, hf.outputOf]
    exact ⟨htracks.output hclean hsafe.1.2 cache hc.2.1 hc.2.2, hcomplete⟩
  exact ⟨hstored _ fun hk => hquery ▸ (htracks.key hk (hkeyed hk)).1,
    hstored _ fun hk => (htracks.key hk (hkeyed hk)).2 cache hc.2.1⟩

/-- A step that calls the handler for a query context and then leaves `rest` of the queue. -/
theorem stepOk_handled (hprog : call.queryInProgress = true) (hf : Frame s s')
    (hcollected : ∀ cache, Collects call (buffersOf q s.kept) cache →
      (call.state = .idle → cache.buffer ≠ [] → Stored k s' call.query cache.buffer) ∧
        (call.state ≠ .idle → Stored k s' cache.query cache.buffer)) :
    StepOk k ({ s' with kept := (handled auto call q s.kept).kept },
      (handled auto call q s.kept).ops) := by
  have hinv := h.frame hf
  obtain ⟨hkept, hops⟩ := handled_stores (Stored k s') auto hprog
    (hf.cacheArray ▸ hinv.kept) hcollected
  exact ⟨hinv.withKept hkept, hops⟩

theorem stepOk_completeExecution (hp : s.pending = .execution x :: rest)
    (hone : cfg.slMode = false → rest = []) (hsimple : x.isSimple = false)
    (hcomplete : isComplete (s.outputOf x.exec) x.exec = true)
    (hsound : ∀ q cache, s.contexts x.context = some q →
      Collects (handlerCall q q.queryWHex (stateAtComplete cfg s.tstate q.stmt) false cfg.slMode o)
        (buffersOf q s.kept) cache → x.clean = true ∧ (k = true → x.keyed = true)) :
    StepOk k (completeExecution cfg s x rest o) := by
  unfold completeExecution
  cases hq : s.contexts x.context with
  | none => exact .of_inv h
  | some q =>
    set call := handlerCall q q.queryWHex (stateAtComplete cfg s.tstate q.stmt) false cfg.slMode o
    have hf : Frame s { s.setContext x.context
        { (handled cfg.auto call q s.kept).context with atEnd := true, executeComplete :=
          true } with
          pending := rest
          tstate := stateAtComplete cfg s.tstate q.stmt
          commandSuccess := true } := by
      refine frame_setContext hq rfl (running_rest hp) (fun y hy _ => ?_) rfl
      cases hsl : cfg.slMode with
      | false =>
        rw [hone hsl] at hy
        cases hy
      | true =>
        exact .of_eq rfl rfl (tempCache_handle hsl).symm
    refine stepOk_handled h rfl hf fun cache hc => ?_
    obtain ⟨hclean, hkeyed⟩ := hsound q cache hq hc
    obtain ⟨hown, hcached⟩ := stored_of_collects h hp hq hf rfl hclean hkeyed hcomplete
      (by simp [hsimple]) hc
    exact ⟨fun _ _ => hown, fun _ => hcached⟩

theorem stepOk_readyAfterSimple (hp : s.pending = .execution x :: rest)
    (hsimple : x.isSimple = true) :
    StepOk k ({ (readyAfterSimple cfg s x state o).1 with pending := rest, tstate := state },
      (readyAfterSimple cfg s x state o).2) := by
  have hx : x ∈ s.running := by simp [running_cons hp]
  obtain ⟨honly, hkeyed, hclean⟩ := h.simple x hx hsimple
  have hrest : rest.filterMap Pending.execution? = [] := by
    simpa [running_cons hp] using honly
  have hnothing := StepOk.behind h hp state
  unfold readyAfterSimple
  cases hq : s.contexts x.context with
  | none => exact hnothing
  | some q =>
    dsimp only
    split
    · rename_i hdone
      set call := handlerCall q (some q.stmt.text) state true false o
      have hcomplete : isComplete (s.outputOf x.exec) x.exec = true := by simp_all
      have hf : Frame s { s.setContext x.context (handled cfg.auto call q s.kept).context with
          pending := rest, tstate := state } := by
        refine frame_setContext hq rfl (running_rest hp) (fun y hy _ => ?_) rfl
        rw [running, hrest] at hy
        cases hy
      refine stepOk_handled h rfl hf fun cache hc => ?_
      obtain ⟨hown, hcached⟩ := stored_of_collects h hp hq hf rfl hclean (fun _ => hkeyed) hcomplete
        (by simp [hsimple]) hc
      exact ⟨fun _ _ => hown, fun _ => hcached⟩
    · exact hnothing

theorem stepOk_readyAfterSync (hp : s.pending = .sync :: rest)
    (hone : cfg.slMode = false → rest = [])
    (hsound : cfg.slMode = false → s.commandSuccess = true → ∀ i q cache, s.current = some i →
      s.contexts i = some q → q.executeComplete = true →
      Collects (handlerCall q q.queryWHex state true false o) (buffersOf q s.kept) cache →
        state = .idle ∧ cache.buffer = []) :
    StepOk k ({ (readyAfterSync cfg s state o).1 with pending := rest, tstate := state },
      (readyAfterSync cfg s state o).2) := by
  have hnothing := StepOk.behind h hp state
  unfold readyAfterSync
  split
  · exact hnothing
  · rename_i i q hcurrent
    obtain ⟨j, hj, hmap⟩ := Option.bind_eq_some_iff.1 hcurrent
    obtain ⟨q', hq, heq⟩ := Option.map_eq_some_iff.1 hmap
    cases heq
    split
    · rename_i hready
      simp only [Bool.and_eq_true, Bool.not_eq_true'] at hready
      obtain ⟨⟨hsl, hsuccess⟩, hexecuted⟩ := hready
      set call := handlerCall q q.queryWHex state true false o
      have hf : Frame s { s.setContext i { (handled cfg.auto call q s.kept).context with
          queryWHex := none } with pending := rest, tstate := state } := by
        refine frame_setContext hq rfl (running_rest hp) (fun y hy _ => ?_) rfl
        rw [running, hone hsl] at hy
        cases hy
      refine stepOk_handled h rfl hf fun cache hc => ?_
      obtain ⟨hidle, hempty⟩ := hsound hsl hsuccess i q cache hj hq hexecuted hc
      exact ⟨fun _ hne => absurd hempty hne, fun hne => absurd hidle hne⟩
    · exact hnothing

end

/-! ## Sound steps -/

/-- The temporary cache of a query context that a call may store. -/
def mayStore (q : QueryContext ρ) (isFinal : Bool) (o : Completion) : Option (TempCache (Msg ρ)) :=
  if (isFinal || !q.partialFetch) && q.stmt.isCacheSafe && !o.cacheDisabled then
    q.tempCache.filter (!·.isExceeded)
  else none

theorem mayStore_of_collects
    (h : Collects (handlerCall q query state isFinal slExtended o) (buffersOf q kept) cache) :
    mayStore q isFinal o = some cache := by
  obtain ⟨hc, ht, hx⟩ := h
  have ht : q.tempCache = some cache := ht
  simp only [HandlerCall.cacheable, handlerCall, Bool.not_and, Bool.not_not] at hc
  rw [mayStore, if_pos hc, ht]
  simp [Option.filter, hx]

/-- The Execute message composes the key of the executions that are still running on the
query context, or none. -/
def soundExecute (s : CacheSession ρ) (portal : String) (x : ExecuteInput) : Bool :=
  match poolGetSentMessage s.names.messageList .bind portal .created with
  | none => true
  | some m =>
    match s.contexts (s.contextOf m.id) with
    | none => true
    | some q =>
      !((q.limitRows x).consults s.tstate x && q.stmt.isCacheSafe) ||
        s.running.all fun y => y.context ≠ s.contextOf m.id || !y.keyed ||
          s.keyOf y.exec = searchQuery q.stmt.text (s.paramsOf m.id)

/-- An execution whose result may be stored when it is complete has started with nothing
else collected, and with `k` under its own key. -/
def soundComplete (k : Bool) (s : CacheSession ρ) (o : Completion) : Bool :=
  match s.pending with
  | .execution x :: _ =>
    match s.contexts x.context with
    | none => true
    | some q => x.isSimple || (mayStore q false o).isNone || (x.clean && (!k || x.keyed))
  | _ => true

/-- Outside streaming replication mode, ReadyForQuery after a Sync finds nothing that it
would store. -/
def soundReady (cfg : CacheConfig) (s : CacheSession ρ) (state : TState) (o : Completion) : Bool :=
  match s.pending, s.current.bind s.contexts with
  | .sync :: _, some q =>
    cfg.slMode || !s.commandSuccess || !q.executeComplete ||
      (mayStore q true o).all fun cache => state = .idle && cache.buffer.isEmpty
  | _, _ => true

/-- The condition on a step; no two query contexts come to share a temporary cache. -/
def soundStep (cfg : CacheConfig) (k : Bool) (s : CacheSession ρ) : CacheEvent ρ → Bool
  | .bind _ _ _ copied => !copied
  | .execute portal x => !(k && s.reads cfg.slMode) || soundExecute s portal x
  | .reply (.commandComplete o _) => soundComplete k s o
  | .reply (.readyForQuery state o) => soundReady cfg s state o
  | _ => true

/-! ## Execute -/

section Execute

variable {q : QueryContext ρ} {t : TState} {x : ExecuteInput} {params : List UInt8} {y : Execution}
  {portal : String}

/-- Does Execute compose a key at all? -/
def composes (t : TState) (x : ExecuteInput) (q : QueryContext ρ) : Bool :=
  (q.limitRows x).consults t x && q.stmt.isCacheSafe

theorem limitRows_fields : (q.limitRows x).stmt = q.stmt ∧ (q.limitRows x).queryWHex = q.queryWHex ∧
      (q.limitRows x).tempCache = q.tempCache := by
  unfold QueryContext.limitRows
  split <;> exact ⟨rfl, rfl, rfl⟩

theorem execute_of_not_composes (h : composes t x q = false) :
    (q.execute t x params).stmt = q.stmt ∧ (q.execute t x params).queryWHex = q.queryWHex ∧
      (q.execute t x params).tempCache = q.tempCache := by
  obtain ⟨hs, hk, ht⟩ := limitRows_fields
  unfold QueryContext.execute
  split
  · rename_i hconsults
    have hsafe : (q.limitRows x).stmt.isCacheSafe = false := by
      rw [hs]
      simpa [composes, hconsults] using h
    unfold QueryContext.lookUp
    rw [hsafe]
    exact ⟨hs, hk, ht⟩
  · exact ⟨hs, hk, ht⟩

theorem execute_of_composes (h : composes t x q = true) : (q.execute t x params).stmt = q.stmt ∧
      (q.execute t x params).queryWHex = some (searchQuery q.stmt.text params) ∧
      (q.execute t x params).tempCache = q.tempCache.map fun cache =>
        { cache with query := some (searchQuery q.stmt.text params) } := by
  obtain ⟨hs, -, ht⟩ := limitRows_fields
  simp only [composes, Bool.and_eq_true] at h
  have hsafe : (q.limitRows x).stmt.isCacheSafe = true := hs.symm ▸ h.2
  rw [← hs, ← ht]
  unfold QueryContext.execute QueryContext.lookUp
  rw [if_pos h.1, if_pos hsafe]
  exact ⟨rfl, rfl, rfl⟩

theorem collectsNothing_execute : collectsNothing (q.execute t x params) = collectsNothing q := by
  unfold collectsNothing
  cases h : composes t x q with
  | false => rw [(execute_of_not_composes h).2.2]
  | true =>
    rw [(execute_of_composes h).2.2]
    cases q.tempCache <;> rfl

/-- An execution that is still running is tracked as before, if Execute does not give the
query context another key. -/
theorem tracks_execute (h : Tracks k s y q) (hsimple : y.isSimple = false)
    (hkey : k = true → y.keyed = true → composes t x q = true →
      s.keyOf y.exec = searchQuery q.stmt.text params) : Tracks k s y (q.execute t x params) := by
  cases hc : composes t x q with
  | false =>
    obtain ⟨hs, hk, ht⟩ := execute_of_not_composes hc
    exact (QueryContext.Keeps.of_eq hs hk (.inl ht)).tracks h rfl rfl
  | true =>
    obtain ⟨hs, hk, ht⟩ := execute_of_composes hc
    refine ⟨fun hclean hsafe cache' ht' hx' => ?_, fun hk' hkeyed => ?_⟩
    · rw [ht] at ht'
      obtain ⟨cache, hcache, rfl⟩ := Option.map_eq_some_iff.1 ht'
      exact h.output hclean (hs ▸ hsafe) cache hcache hx'
    · rw [hkey hk' hkeyed hc, hsimple, hk, ht]
      refine ⟨rfl, fun cache' ht' => ?_⟩
      obtain ⟨cache, -, rfl⟩ := Option.map_eq_some_iff.1 ht'
      rfl

theorem running_eq_nil_of_reads (hsl : cfg.slMode = false) (h : s.reads cfg.slMode = true) :
    s.running = [] := by
  have hp : s.pending = [] := by
    simp only [reads, hsl, Bool.and_eq_true, Bool.false_eq_true, if_false, List.isEmpty_iff] at h
    exact h.2
  rw [running, hp]
  rfl

theorem isSimple_of_reads (h : s.reads cfg.slMode = true) :
    ∀ y ∈ s.running, y.isSimple = false := by
  cases hsl : cfg.slMode with
  | false =>
    rw [running_eq_nil_of_reads hsl h]
    intro y hy
    cases hy
  | true =>
    simp only [reads, hsl, if_true, Bool.and_eq_true, List.all_eq_true] at h
    exact fun y hy => by simpa using h.2 y hy

/-- An Execute keeps the invariant. -/
theorem resultInv_execute (h : ResultInv k s) (hreads : s.reads cfg.slMode = true)
    (hsound : k = true → soundExecute s portal x = true) :
    ResultInv k (executeMessage cfg s portal x) := by
  unfold executeMessage
  split
  · exact h
  · rename_i m hm
    cases hq : s.contexts (s.contextOf m.id) with
    | none => exact h
    | some q =>
      dsimp only
      split
      · rename_i hanswered
        -- answered from the cache: nothing is running outside streaming replication mode
        have hsl : cfg.slMode = false := by
          rw [Bool.and_eq_true] at hanswered
          simpa using hanswered.2
        refine h.frame (frame_setContext hq rfl (.refl _) (fun y hy _ => ?_) rfl)
        have hy : y ∈ s.running := hy
        rw [running_eq_nil_of_reads hsl hreads] at hy
        cases hy
      · refine resultInv_begins h (h.lt_of_contexts hq) (fun y hy hyi => ?_)
          (isSimple_of_reads hreads) (fun hf => by cases hf) (fun hclean => ?_) (fun _ hkeyed => ?_)
        · refine tracks_execute (h.tracks y hy q (hyi ▸ hq)) (isSimple_of_reads hreads y hy) ?_
          intro hk hkeyed hc
          have hs := hsound hk
          simp only [composes] at hc
          simp only [soundExecute, hm, hq, hc, Bool.not_true, Bool.false_or, List.all_eq_true] at hs
          simpa [hyi, hkeyed] using hs y hy
        · rw [Bool.and_eq_true, List.all_eq_true] at hclean
          exact ⟨collectsNothing_execute.trans hclean.1, fun y hy => by simpa using hclean.2 y hy⟩
        · simp only [composesKey, Bool.and_eq_true, decide_eq_true_eq] at hkeyed
          have hc : composes s.tstate x q = true := by simp [composes, hkeyed.1]
          obtain ⟨-, hk, ht⟩ := execute_of_composes hc
          rw [hkeyed.2, hk, ht]
          refine ⟨rfl, fun cache' ht' => ?_⟩
          obtain ⟨cache, -, rfl⟩ := Option.map_eq_some_iff.1 ht'
          rfl

end Execute

theorem resultInv_simple (h : ResultInv k s) (hnone : s.running = []) (stmt : Statement) :
    ResultInv k (simpleMessage cfg s stmt) := by
  have hf : Frame s { s.recordOids stmt.dmlOids with
      nextContext := s.nextContext + 1, names := sessionStep cfg.slMode s.names .query } := {
    running := .refl _
    contexts := fun x hx q' hq' => ⟨q', hq', .refl q'⟩
    fresh := fun _ _ hi => hi
    nextContext := Nat.le_succ _
    outputOf := rfl
    keyOf := rfl
    nextExec := rfl
    cacheArray := rfl }
  have hno : ∀ x : Execution, ¬ x ∈ s.running := fun x hx => by
    rw [hnone] at hx
    cases hx
  refine resultInv_begins (h.frame hf) (Nat.lt_succ_self _) (fun x hx _ => absurd hx (hno x))
    (fun x hx => absurd hx (hno x)) (fun _ => ⟨hnone, rfl, rfl⟩)
    (fun _ => ⟨rfl, fun x hx => absurd hx (hno x)⟩) (fun _ _ => ⟨rfl, fun cache ht => ?_⟩)
  cases ht
  rfl

/-! ## Messages of the backend -/

theorem mayStore_register (hm : m.isOutput = true)
    (h : mayStore (q.register m overflow) isFinal o = some cache) :
    (mayStore q isFinal o).isSome = true := by
  obtain ⟨hstmt, -, hpartial, -⟩ := register_fields m overflow q
  unfold mayStore at h ⊢
  rw [hstmt, hpartial] at h
  split at h
  · rename_i hc
    rw [if_pos hc]
    obtain ⟨ht, hx⟩ := Option.filter_eq_some_iff.1 h
    have hsafe : q.stmt.isCacheSafe = true := by
      simp only [Bool.and_eq_true] at hc
      exact hc.1.2
    obtain ⟨cache', ht', hx', -⟩ := register_output hm hsafe ht (by simpa using hx)
    simp [ht', hx', Option.filter]
  · cases h

theorem stepOk_commandComplete (h : ResultInv k s)
    (hone : cfg.slMode = false → s.pending.length ≤ 1) (hs : soundComplete k s o = true) :
    StepOk k (commandCompleteReply cfg s o overflow) := by
  unfold commandCompleteReply
  split
  · rename_i x rest hp
    have hinv := resultInv_output h hp (m := .commandComplete x.exec) rfl overflow
    dsimp only
    split
    · exact .of_inv (hinv.frame (.of_eq rfl (.refl _) rfl))
    · rename_i hsimple
      refine stepOk_completeExecution hinv hp (fun hsl => ?_) (by simpa using hsimple) ?_ ?_
      · have := hone hsl
        rw [hp, List.length_cons] at this
        exact List.length_eq_zero_iff.1 (by omega)
      · simp [output, isComplete]
      · intro q' cache hq' hc
        have hmay := mayStore_of_collects hc
        have hq' : (s.contexts x.context).map (·.register (.commandComplete x.exec) overflow) =
            some q' := by
          simpa [output, modifyContext] using hq'
        obtain ⟨q, hq, rfl⟩ := Option.map_eq_some_iff.1 hq'
        have hsome := mayStore_register rfl hmay
        have hsound : x.clean = true ∧ (k = false ∨ x.keyed = true) := by
          simpa [soundComplete, hp, hq, hsimple, Option.isSome_iff_ne_none.1 hsome] using hs
        exact ⟨hsound.1, fun hk => hsound.2.resolve_left (by simp [hk])⟩
  · exact .of_inv h

theorem stepOk_readyForQuery (h : ResultInv k s) (hone : cfg.slMode = false → s.pending.length ≤ 1)
    (hs : soundReady cfg s state o = true) : StepOk k (readyForQueryReply cfg s state o) := by
  unfold readyForQueryReply
  split
  · rename_i rest hp
    refine stepOk_readyAfterSync h hp (fun hsl => ?_) ?_
    · have := hone hsl
      rw [hp, List.length_cons] at this
      exact List.length_eq_zero_iff.1 (by omega)
    · intro hsl hsuccess i q cache hi hq hexecuted hc
      have hmay := mayStore_of_collects hc
      simpa [soundReady, hp, hi, hq, hsl, hsuccess, hexecuted, hmay] using hs
  · rename_i x rest hp
    split
    · rename_i hsimple
      exact stepOk_readyAfterSimple h hp hsimple
    · exact .of_inv h
  · exact .of_inv h

theorem stepOk_reply (h : ResultInv k s) (hone : cfg.slMode = false → s.pending.length ≤ 1)
    (r : Reply ρ) (hs : soundStep cfg k s (.reply r) = true) : StepOk k (replyStep cfg s r) := by
  cases r with
  | complete overflow => exact .of_inv (h.frame (frame_complete s overflow))
  | noData =>
    dsimp only [replyStep]
    split
    · rename_i hp
      exact .of_inv (h.frame (.of_eq rfl (running_rest hp) rfl))
    · exact .of_inv h
  | dataRow row overflow =>
    dsimp only [replyStep, dataRowReply]
    split
    · rename_i hp
      exact .of_inv (resultInv_output h hp rfl overflow)
    · exact .of_inv h
  | commandComplete o overflow => exact stepOk_commandComplete h hone hs
  | portalSuspended => exact .of_inv (h.frame (frame_portalSuspended s))
  | errorResponse => exact .of_inv (h.frame (frame_error s))
  | readyForQuery state o => exact stepOk_readyForQuery h hone hs

/-! ## Runs -/

variable {ev : CacheEvent ρ}

theorem resultInv_clientStep (h : ResultInv k s) (hreads : s.reads cfg.slMode = true)
    (hs : soundStep cfg k s ev = true) : ResultInv k (clientStep cfg s ev) := by
  cases ev with
  | parse name stmt => exact h.frame (frame_parse h name stmt)
  | bind portal name params copied => exact h.frame (frame_bind s portal name params)
  | describe target name => exact h.frame (frame_describe s target name)
  | execute portal x =>
    refine resultInv_execute h hreads fun hk => ?_
    simpa [soundStep, hk, hreads] using hs
  | close target name => exact h.frame (frame_close s target name)
  | sync => exact h
  | simple stmt =>
    dsimp only [clientStep]
    split
    · rename_i hp
      refine resultInv_simple h ?_ stmt
      rw [running, List.isEmpty_iff.1 hp]
      rfl
    · exact h
  | reply r => exact h

theorem stepOk_cacheStep (h : ResultInv k s) (hone : cfg.slMode = false → s.pending.length ≤ 1)
    (hs : soundStep cfg k s ev = true) : StepOk k (cacheStep cfg s ev) := by
  have hclient : StepOk k (if s.reads cfg.slMode then clientStep cfg s ev else s, []) := by
    split
    · rename_i hreads
      exact .of_inv (resultInv_clientStep h hreads hs)
    · exact .of_inv h
  cases ev with
  | reply r => exact stepOk_reply h hone r hs
  | sync => exact .of_inv (h.frame (frame_sync s))
  | parse | bind | describe | execute | close | simple => exact hclient

theorem pending_clientStep (hp : s.pending = []) : (clientStep cfg s ev).pending.length ≤ 1 := by
  cases ev with
  | parse name stmt => simp [clientStep, parseMessage, CacheSession.recordOids, hp]
  | bind portal name params =>
    dsimp only [clientStep, bindMessage]
    split <;> simp [skipTillSync, CacheSession.recordOids, modifyContext, hp]
  | describe target name =>
    dsimp only [clientStep, describeMessage]
    split <;> simp [hp]
  | execute portal x =>
    dsimp only [clientStep, executeMessage]
    split
    · simp [hp]
    · split
      · simp [hp]
      · split <;> simp [setContext, begins, hp]
  | close target name =>
    dsimp only [clientStep, closeMessage]
    split <;> simp [hp]
  | simple stmt => simp [clientStep, simpleMessage, begins, CacheSession.recordOids, hp]
  | sync | reply => simp [clientStep, hp]

/-- A reply adds nothing to the pending messages. -/
theorem pending_replyStep (r : Reply ρ) :
    (replyStep cfg s r).1.pending.length ≤ s.pending.length := by
  have hskip : (skipTillSync cfg s).pending.length ≤ s.pending.length := by
    dsimp only [skipTillSync]
    split
    · exact (List.dropWhile_sublist _).length_le
    · exact Nat.zero_le _
  cases r with
  | complete overflow =>
    dsimp only [replyStep, completeReply]
    split <;> simp_all [modifyContext]
    split <;> simp_all
  | noData =>
    dsimp only [replyStep]
    split <;> simp_all
  | dataRow row overflow =>
    dsimp only [replyStep, dataRowReply]
    split <;> simp [output, modifyContext]
  | commandComplete o overflow =>
    dsimp only [replyStep, commandCompleteReply]
    split
    · rename_i x rest hp
      split
      · simp [output, modifyContext]
      · unfold completeExecution
        split <;> simp [output, modifyContext, hp]
    · exact le_rfl
  | portalSuspended =>
    dsimp only [replyStep, portalSuspendedReply]
    split
    · split <;> simp_all
    · exact le_rfl
  | errorResponse =>
    dsimp only [replyStep, errorReply]
    split
    · split
      · exact le_rfl
      · exact hskip
    · exact hskip
  | readyForQuery state o =>
    dsimp only [replyStep, readyForQueryReply]
    split
    · simp_all
    · split <;> simp_all
    · exact le_rfl

theorem pending_cacheStep (hsl : cfg.slMode = false) (h : s.pending.length ≤ 1) :
    (cacheStep cfg s ev).1.pending.length ≤ 1 := by
  have hclient : (if s.reads cfg.slMode then clientStep cfg s ev else s).pending.length ≤ 1 := by
    split
    · rename_i hreads
      simp only [reads, hsl, Bool.and_eq_true, Bool.false_eq_true, if_false, List.isEmpty_iff]
        at hreads
      exact pending_clientStep hreads.2
    · exact h
  cases ev with
  | reply r => exact (pending_replyStep r).trans h
  | sync =>
    dsimp only [cacheStep, syncMessage]
    split
    · simp_all
    · exact h
  | parse | bind | describe | execute | close | simple => exact hclient

/-- Every step of the run is sound. -/
def soundRun (cfg : CacheConfig) (k : Bool) (s : CacheSession ρ) : List (CacheEvent ρ) → Bool
  | [] => true
  | ev :: evs => soundStep cfg k s ev && soundRun cfg k (cacheStep cfg s ev).1 evs

variable {evs : List (CacheEvent ρ)}

/-- **The last step of a sound run** commits results only. -/
theorem stepOk_run (h : ResultInv k s) (hone : cfg.slMode = false → s.pending.length ≤ 1)
    (hs : soundRun cfg k s (evs ++ [ev]) = true) :
    StepOk k (cacheStep cfg (cacheRun cfg s evs) ev) := by
  induction evs generalizing s with
  | nil =>
    simp only [soundRun, List.nil_append, Bool.and_eq_true] at hs
    exact stepOk_cacheStep h hone hs.1
  | cons first evs ih =>
    simp only [soundRun, List.cons_append, Bool.and_eq_true] at hs
    exact ih (stepOk_cacheStep h hone hs.1).1
      (fun hsl => pending_cacheStep hsl (hone hsl)) hs.2

/-! ## The output of one execution -/

/-- **A stored result is the output of exactly one execution**, in every run in which no
result is stored of an execution that has started while another one was running on its query
context, or with rows of another one collected. -/
theorem stored_output_of_one_execution (cfg : CacheConfig) (text : CString)
    (evs : List (CacheEvent ρ)) (ev : CacheEvent ρ)
    (hs : soundRun cfg false (start text) (evs ++ [ev]) = true) (query : Option CString)
    (data : List (Msg ρ)) (oids : List Int)
    (h : .commit query data oids ∈ (cacheStep cfg (cacheRun cfg (start text) evs) ev).2) :
    ∃ e, IsResult (cacheStep cfg (cacheRun cfg (start text) evs) ev).1 e data := by
  have hinv : ResultInv false (start text : CacheSession ρ) := resultInv_start false text
  obtain ⟨e, -, -, hresult, -⟩ :=
    (stepOk_run hinv (fun _ => Nat.zero_le 1) hs).2 query data oids h
  exact ⟨e, hresult⟩

/-- `SELECT` of a table that may be cached, prepared as a statement -/
def selectStatement : Statement where
  text := ⟨[83], by decide⟩
  node := .select
  isCacheSafe := true
  startsTransaction := false
  dmlOids := []
  select_of_safe := fun _ => rfl

/-- An Execute that fetches everything and finds nothing in the cache. -/
def fetchAll : ExecuteInput := ⟨0, false, true, false, false⟩

/-- The end of a `SELECT` on one table. -/
def completion : Completion := ⟨false, [16384], false, 0, []⟩

/-- Parse, Bind and Execute of one statement, and the answers up to the first row. -/
def firstRow (x : ExecuteInput) : List (CacheEvent Nat) :=
  [.parse "s" selectStatement, .bind "" "s" [0] false, .execute "" x, .reply (.complete false),
    .reply (.complete false), .reply (.dataRow 7 false)]

/-- One execution of a prepared statement. -/
theorem stored_output_of_first_row :
    ∃ e, IsResult (cacheStep ⟨true, true⟩ (cacheRun ⟨true, true⟩ (start selectStatement.text)
      (firstRow fetchAll)) (.reply (.commandComplete completion false))).1 e
        [.parseComplete, .bindComplete, .dataRow 0 7, .commandComplete 0] :=
  stored_output_of_one_execution ⟨true, true⟩ selectStatement.text (firstRow fetchAll)
    (.reply (.commandComplete completion false)) (by decide +kernel)
    (some (searchQuery selectStatement.text [0])) _ [16384] (by decide +kernel)

/-- The statement fails in the middle of its rows and is bound and executed again. -/
def failedThenRepeated : List (CacheEvent Nat) :=
  firstRow fetchAll ++ [.reply .errorResponse, .sync, .reply (.readyForQuery .idle completion),
    .bind "" "s" [0] false, .execute "" fetchAll, .reply (.complete false),
    .reply (.dataRow 8 false)]

/-- The rows of the execution that has failed are stored with those of the next one. -/
theorem stored_output_of_two_executions : ∃ query data oids,
      .commit query data oids ∈ (cacheStep ⟨true, true⟩ (cacheRun ⟨true, true⟩
        (start selectStatement.text) failedThenRepeated)
          (.reply (.commandComplete completion false))).2 ∧
      ¬ ∃ e, IsResult (cacheStep ⟨true, true⟩ (cacheRun ⟨true, true⟩
        (start selectStatement.text) failedThenRepeated)
          (.reply (.commandComplete completion false))).1 e data := by
  refine ⟨some (searchQuery selectStatement.text [0]), [.parseComplete, .bindComplete,
    .dataRow 0 7, .bindComplete, .dataRow 1 8, .commandComplete 1], [16384], by decide +kernel, ?_⟩
  rintro ⟨e, he, -⟩
  match e with
  | 0 => revert he; decide +kernel
  | 1 => revert he; decide +kernel
  | _ + 2 => cases he

/-! ## The key of a stored result -/

/-- **A stored result is stored under what its execution has executed**, in every run in
which, moreover, each such execution has started on the branch of Execute that composes the
key, from the Bind message of its portal, and no other Execute has replaced it meanwhile. -/
theorem stored_under_own_key (cfg : CacheConfig) (text : CString)
    (evs : List (CacheEvent ρ)) (ev : CacheEvent ρ)
    (hs : soundRun cfg true (start text) (evs ++ [ev]) = true) (query : Option CString)
    (data : List (Msg ρ)) (oids : List Int)
    (h : .commit query data oids ∈ (cacheStep cfg (cacheRun cfg (start text) evs) ev).2) :
    ∃ e, IsResult (cacheStep cfg (cacheRun cfg (start text) evs) ev).1 e data ∧
      query = some ((cacheStep cfg (cacheRun cfg (start text) evs) ev).1.keyOf e) := by
  have hinv : ResultInv true (start text : CacheSession ρ) := resultInv_start true text
  obtain ⟨e, -, -, hresult, hkey⟩ :=
    (stepOk_run hinv (fun _ => Nat.zero_le 1) hs).2 query data oids h
  exact ⟨e, hresult, hkey rfl⟩

/-- A statement that returns one row, fetched without a limit. -/
theorem stored_under_own_key_first_row :
    ∃ e, IsResult (cacheStep ⟨true, true⟩ (cacheRun ⟨true, true⟩ (start selectStatement.text)
        (firstRow fetchAll)) (.reply (.commandComplete completion false))).1 e
          [.parseComplete, .bindComplete, .dataRow 0 7, .commandComplete 0] ∧
      some (searchQuery selectStatement.text [0]) =
        some ((cacheStep ⟨true, true⟩ (cacheRun ⟨true, true⟩ (start selectStatement.text)
          (firstRow fetchAll)) (.reply (.commandComplete completion false))).1.keyOf e) :=
  stored_under_own_key ⟨true, true⟩ selectStatement.text (firstRow fetchAll)
    (.reply (.commandComplete completion false)) (by decide +kernel)
    (some (searchQuery selectStatement.text [0])) _ [16384] (by decide +kernel)

/-- With the flag of a writing transaction set, outside a transaction: no key is composed, and
the result is stored under a null pointer. -/
theorem stored_under_no_key :
    .commit none [.parseComplete, .bindComplete, .dataRow 0 7, .commandComplete 0] [16384] ∈
      (cacheStep ⟨true, true⟩ (cacheRun ⟨true, true⟩ (start selectStatement.text)
        (firstRow { fetchAll with isWriting := true }))
          (.reply (.commandComplete completion false))).2 := by
  decide +kernel

end PgBalancer.QueryCache
