import PgBalancer.QueryCache.ExtendedQuery

/-!
# Results in the making

While an execution runs, its query context collects its output, and the handler stores what
has been collected.  Below is the invariant that relates the two: which execution a temporary
cache belongs to, under which key, and that the results kept for the COMMIT are results of
executions that are over.

* `ResultInv.frame` — **a step that executes nothing and stores nothing keeps the
  invariant**, and most messages are such steps (`frame_bind`, `frame_complete`,
  `frame_error`).
-/

namespace PgBalancer.QueryCache

open Session CacheSession Buffers

variable {ρ α : Type} {caches : List (Option (TempCache α))} {query : Option CString}
  {data : List α} {oids : List Int}

open Function (update update_apply update_of_ne update_self)

/-! ## What the handler stores -/

theorem mem_commitArray (h : .commit query data oids ∈ commitArray caches) :
    ∃ cache, some cache ∈ caches ∧ cache.query = query ∧ cache.buffer = data := by
  induction caches with
  | nil => cases h
  | cons cache caches ih =>
    have hrest := fun h => (ih h).imp fun _ h => And.imp_left (List.mem_cons_of_mem cache) h
    cases cache with
    | none => exact hrest h
    | some cache =>
      rw [commitArray] at h
      split_ifs at h
      · exact hrest h
      · rcases List.mem_cons.1 h with h | h
        · cases h
          exact ⟨cache, List.mem_cons_self, rfl, rfl⟩
        · exact hrest h

theorem buffer_addOids (cache : TempCache α) :
    (poolAddOidsTempQueryCache cache oids).query = cache.query ∧
      (poolAddOidsTempQueryCache cache oids).buffer = cache.buffer := by
  unfold poolAddOidsTempQueryCache
  split <;> exact ⟨rfl, rfl⟩

section Handler

variable {auto : Bool} {c : HandlerCall} {b : Buffers α} {query : Option CString} {data : List α}
  {oids : List Int}

/-- A call may store the result that has been collected. -/
def Collects (c : HandlerCall) (b : Buffers α) (cache : TempCache α) : Prop :=
  c.cacheable = true ∧ b.tempCache = some cache ∧ cache.isExceeded = false

section

variable (hprog : c.queryInProgress = true) {cache' : TempCache α}
include hprog

theorem mem_ops_commitCurrent (h : .commit query data oids ∈ (commitCurrent c b).2) :
    query = c.query ∧ data ≠ [] ∧
      ∃ cache, b.tempCache = some cache ∧ cache.isExceeded = false ∧ cache.buffer = data := by
  unfold commitCurrent at h
  cases ht : b.tempCache with
  | none => simp [ht] at h
  | some cache =>
    simp only [ht, poolIsCacheExceeded, hprog, Bool.true_and] at h
    split at h
    · cases h
    · rename_i hx
      simp only [Bool.or_eq_true, List.isEmpty_iff, not_or, Bool.not_eq_true] at hx
      cases hskip : c.skipCacheCommit with
      | true => simp [hskip] at h
      | false =>
        simp only [hskip, Bool.false_eq_true, if_false, List.mem_singleton] at h
        cases h
        exact ⟨rfl, hx.2, cache, rfl, hx.1, rfl⟩

/-- **What the handler commits**: the result just collected, under the query it is called
with, or a result it has kept, under the query kept with it. -/
theorem mem_ops_handle (h : .commit query data oids ∈ (poolHandleQueryCache auto c b).2) :
    (c.state = .idle ∧ query = c.query ∧ data ≠ [] ∧
        ∃ cache, Collects c b cache ∧ cache.buffer = data) ∨
      ∃ cache, some cache ∈ b.cacheArray ∧ cache.query = query ∧ cache.buffer = data := by
  unfold poolHandleQueryCache at h
  by_cases hc : c.cacheable = true
  · left
    by_cases hs : c.state = .idle
    · simp only [hc, hs, if_true, List.mem_append, List.mem_singleton, reduceCtorEq, or_false] at h
      obtain ⟨hq, hne, cache, ht, hx, rfl⟩ := mem_ops_commitCurrent hprog h
      exact ⟨hs, hq, hne, cache, ⟨hc, ht, hx⟩, rfl⟩
    · simp [hc, hs] at h
  · right
    by_cases hcommit : .commit query data oids ∈ commitArray b.cacheArray
    · exact mem_commitArray hcommit
    -- only COMMIT commits anything
    · split_ifs at h <;> simp [hcommit] at h

/-- The results kept after a call: those kept before, and the one just collected. -/
theorem mem_cacheArray_handle (h : some cache' ∈ (poolHandleQueryCache auto c b).1.cacheArray) :
    ∃ cache, cache'.query = cache.query ∧ cache'.buffer = cache.buffer ∧
      (some cache ∈ b.cacheArray ∨ c.state ≠ .idle ∧ Collects c b cache) := by
  unfold poolHandleQueryCache at h
  by_cases hc : c.cacheable = true
  · by_cases hs : c.state = .idle
    · simp [hc, hs, poolResetMemqcacheBuffer] at h
    · simp only [hc, hs, if_true, if_false, poolTmpStatsCountUpNumSelects, keepForCommit] at h
      split at h
      · exact ⟨cache', rfl, rfl, .inl h⟩
      · rename_i hx
        rcases List.mem_append.1 h with h | h
        · exact ⟨cache', rfl, rfl, .inl h⟩
        · cases ht : b.tempCache with
          | none => simp [ht] at h
          | some cache =>
            simp only [poolIsCacheExceeded, ht, hprog, Bool.true_and, Bool.not_eq_true] at hx
            simp only [ht, Option.map_some, List.mem_singleton, Option.some.injEq] at h
            subst h
            exact ⟨cache, (buffer_addOids ..).1, (buffer_addOids ..).2, .inr ⟨hs, hc, ht, hx⟩⟩
  · split_ifs at h <;>
      first
        | exact ⟨cache', rfl, rfl, .inl h⟩
        | simp [poolResetMemqcacheBuffer, poolTmpStatsCountUpNumSelects] at h

end

/-- In streaming replication mode a call drops the temporary cache or leaves it alone. -/
theorem tempCache_handle (hsl : c.slExtended = true) :
    (poolHandleQueryCache auto c b).1.tempCache = none ∨
      (poolHandleQueryCache auto c b).1.tempCache = b.tempCache := by
  unfold poolHandleQueryCache
  split_ifs <;> simp [poolResetMemqcacheBuffer, poolTmpStatsCountUpNumSelects, keepForCommit, hsl]
  split <;> exact .inl rfl

end Handler

/-! ## The invariant -/

/-- `data` is the output of the execution `e`, which is complete, beside messages that do
not belong to an execution. -/
def IsResult (s : CacheSession ρ) (e : Nat) (data : List (Msg ρ)) : Prop :=
  data.filter Msg.isOutput = s.outputOf e ∧ isComplete (s.outputOf e) e = true

/-- `data` is the result of an execution that is over, and with `k` the query is what it
has executed. -/
def Stored (k : Bool) (s : CacheSession ρ) (query : Option CString) (data : List (Msg ρ)) : Prop :=
  ∃ e < s.nextExec, (∀ x ∈ s.running, x.exec ≠ e) ∧ IsResult s e data ∧
    (k = true → query = some (s.keyOf e))

/-- The query context `q` holds the output of the execution `x` so far, and with `k` its
key. -/
structure Tracks (k : Bool) (s : CacheSession ρ) (x : Execution) (q : QueryContext ρ) : Prop where
  output : x.clean = true → q.stmt.isCacheSafe = true → ∀ cache, q.tempCache = some cache →
    cache.isExceeded = false → cache.buffer.filter Msg.isOutput = s.outputOf x.exec
  key : k = true → x.keyed = true →
    (if x.isSimple then some q.stmt.text else q.queryWHex) = some (s.keyOf x.exec) ∧
      ∀ cache, q.tempCache = some cache → cache.query = some (s.keyOf x.exec)

/-- The executions that are pending, and what their contexts have collected. -/
structure ResultInv (k : Bool) (s : CacheSession ρ) : Prop where
  context_lt : ∀ x ∈ s.running, x.context < s.nextContext
  fresh : ∀ i, s.nextContext ≤ i → s.contexts i = none
  exec_lt : ∀ x ∈ s.running, x.exec < s.nextExec
  silent : ∀ e, s.nextExec ≤ e → s.outputOf e = []
  distinct : s.running.Pairwise fun x y =>
    x.exec ≠ y.exec ∧ (x.context = y.context → y.clean = false)
  simple : ∀ x ∈ s.running, x.isSimple = true →
    s.running = [x] ∧ x.keyed = true ∧ x.clean = true
  tracks : ∀ x ∈ s.running, ∀ q, s.contexts x.context = some q → Tracks k s x q
  kept : ∀ cache, some cache ∈ s.kept.cacheArray → Stored k s cache.query cache.buffer

theorem resultInv_start (k : Bool) (text : CString) :
    ResultInv k (start text : CacheSession ρ) where
  context_lt := fun _ h => by cases h
  fresh := fun _ _ => rfl
  exec_lt := fun _ h => by cases h
  silent := fun _ _ => rfl
  distinct := List.Pairwise.nil
  simple := fun _ h => by cases h
  tracks := fun _ h => by cases h
  kept := fun _ h => by cases h

/-! ## What leaves the invariant alone -/

/-- `q'` has collected what `q` has, or nothing. -/
structure QueryContext.Keeps (q q' : QueryContext ρ) : Prop where
  stmt : q'.stmt = q.stmt
  key : q'.queryWHex = q.queryWHex
  cache : ∀ cache', q'.tempCache = some cache' → ∃ cache, q.tempCache = some cache ∧
    cache'.query = cache.query ∧ (cache'.isExceeded = false → cache.isExceeded = false ∧
      cache'.buffer.filter Msg.isOutput = cache.buffer.filter Msg.isOutput)

namespace QueryContext.Keeps

variable {q q' q₁ q₂ q₃ : QueryContext ρ}

theorem of_eq (hs : q'.stmt = q.stmt) (hk : q'.queryWHex = q.queryWHex)
    (ht : q'.tempCache = q.tempCache ∨ q'.tempCache = none) : q.Keeps q' where
  stmt := hs
  key := hk
  cache cache' h := by
    rcases ht with ht | ht
    · exact ⟨cache', ht ▸ h, rfl, fun hx => ⟨hx, rfl⟩⟩
    · rw [ht] at h
      cases h

theorem refl (q : QueryContext ρ) : q.Keeps q := of_eq rfl rfl (.inl rfl)

theorem trans (h : q₁.Keeps q₂) (h' : q₂.Keeps q₃) : q₁.Keeps q₃ where
  stmt := h'.stmt.trans h.stmt
  key := h'.key.trans h.key
  cache cache₃ h₃ := by
    obtain ⟨cache₂, h₂, hq, hb⟩ := h'.cache cache₃ h₃
    obtain ⟨cache₁, h₁, hq', hb'⟩ := h.cache cache₂ h₂
    refine ⟨cache₁, h₁, hq.trans hq', fun hx => ?_⟩
    obtain ⟨hx₂, heq⟩ := hb hx
    exact ⟨(hb' hx₂).1, heq.trans (hb' hx₂).2⟩

theorem register {m : Msg ρ} (hm : m.isOutput = false) (overflow : Bool) (q : QueryContext ρ) :
    q.Keeps (q.register m overflow) := by
  unfold QueryContext.register
  split
  · split
    · exact refl q
    · rename_i cache ht
      split_ifs with hx hov
      · exact refl q
      · exact ⟨rfl, rfl, fun cache' h => ⟨cache, ht, by cases h; rfl, by cases h; simp⟩⟩
      · exact ⟨rfl, rfl, fun cache' h => ⟨cache, ht, by cases h; rfl, by cases h; simp [hm]⟩⟩
  · exact refl q

theorem answered (m : Msg ρ) (hm : m.isOutput = false) (overflow slMode : Bool)
    (q : QueryContext ρ) : q.Keeps { q.register m overflow with
      executeComplete := slMode && (q.register m overflow).executeComplete } :=
  (register hm overflow q).trans (of_eq rfl rfl (.inl rfl))

theorem tracks {k : Bool} {s s' : CacheSession ρ} {x : Execution} (hq : q.Keeps q')
    (h : Tracks k s x q) (hout : s'.outputOf x.exec = s.outputOf x.exec)
    (hkey : s'.keyOf x.exec = s.keyOf x.exec) : Tracks k s' x q' where
  output hclean hsafe cache' ht' hx' := by
    obtain ⟨cache, ht, -, hb⟩ := hq.cache cache' ht'
    obtain ⟨hx, heq⟩ := hb hx'
    rw [heq, hout]
    exact h.output hclean (hq.stmt ▸ hsafe) cache ht hx
  key hk hkeyed := by
    obtain ⟨hhandler, hcache⟩ := h.key hk hkeyed
    rw [hq.stmt, hq.key, hkey]
    refine ⟨hhandler, fun cache' ht' => ?_⟩
    obtain ⟨cache, ht, hquery, -⟩ := hq.cache cache' ht'
    rw [hquery]
    exact hcache cache ht

end QueryContext.Keeps

/-- A step that executes nothing and stores nothing. -/
structure Frame (s s' : CacheSession ρ) : Prop where
  running : s'.running.Sublist s.running
  contexts : ∀ x ∈ s'.running, ∀ q', s'.contexts x.context = some q' →
    ∃ q, s.contexts x.context = some q ∧ q.Keeps q'
  fresh : ∀ i, s'.nextContext ≤ i → s.contexts i = none → s'.contexts i = none
  nextContext : s.nextContext ≤ s'.nextContext
  outputOf : s'.outputOf = s.outputOf
  keyOf : s'.keyOf = s.keyOf
  nextExec : s'.nextExec = s.nextExec
  cacheArray : s'.kept.cacheArray = s.kept.cacheArray

variable {k overflow : Bool} {s s' : CacheSession ρ}

theorem Stored.mono {data : List (Msg ρ)} (h : Stored k s query data)
    (hrun : ∀ x ∈ s'.running, x.exec < s.nextExec → ∃ y ∈ s.running, y.exec = x.exec)
    (hexec : s.nextExec ≤ s'.nextExec) (hsame : ∀ e < s.nextExec, (∀ x ∈ s.running, x.exec ≠ e) →
      s'.outputOf e = s.outputOf e ∧ s'.keyOf e = s.keyOf e) : Stored k s' query data := by
  obtain ⟨e, hlt, hover, hresult, hkey⟩ := h
  obtain ⟨hout, hkeyOf⟩ := hsame e hlt hover
  refine ⟨e, by omega, ?_, by rwa [IsResult, hout], by rwa [hkeyOf]⟩
  rintro x hx rfl
  obtain ⟨y, hy, heq⟩ := hrun x hx hlt
  exact hover y hy heq

/-- What tracks no execution keeps the invariant. -/
theorem ResultInv.frame (h : ResultInv k s) (hf : Frame s s') : ResultInv k s' where
  context_lt x hx := (h.context_lt x (hf.running.subset hx)).trans_le hf.nextContext
  fresh i hi := hf.fresh i hi (h.fresh i (hf.nextContext.trans hi))
  exec_lt x hx := hf.nextExec ▸ h.exec_lt x (hf.running.subset hx)
  silent e he := by
    rw [hf.outputOf]
    exact h.silent e (hf.nextExec ▸ he)
  distinct := h.distinct.sublist hf.running
  simple x hx hsimple := by
    obtain ⟨honly, hx'⟩ := h.simple x (hf.running.subset hx) hsimple
    refine ⟨?_, hx'⟩
    have hsub := hf.running
    rw [honly] at hsub
    rcases List.sublist_singleton.1 hsub with hnil | hone
    · rw [hnil] at hx
      cases hx
    · exact hone
  tracks x hx q' hq' := by
    obtain ⟨q, hq, hkeeps⟩ := hf.contexts x hx q' hq'
    exact hkeeps.tracks (h.tracks x (hf.running.subset hx) q hq) (by rw [hf.outputOf])
      (by rw [hf.keyOf])
  kept cache hcache := by
    rw [hf.cacheArray] at hcache
    refine (h.kept cache hcache).mono (fun x hx _ => ⟨x, hf.running.subset hx, rfl⟩)
      hf.nextExec.ge fun e _ _ => ?_
    rw [hf.outputOf, hf.keyOf]
    exact ⟨rfl, rfl⟩

/-- What the invariant says of a session beside the executions and their query contexts. -/
def CacheSession.executed (s : CacheSession ρ) :=
  (s.nextContext, s.outputOf, s.keyOf, s.nextExec, s.kept.cacheArray)

namespace Frame

theorem of_update {i : Nat} {o : Option (QueryContext ρ)}
    (hctx : s'.contexts = update s.contexts i o) (hnone : s.contexts i = none → o = none)
    (hkeeps : ∀ x ∈ s'.running, x.context = i → ∀ q' ∈ o, ∃ q, s.contexts i = some q ∧ q.Keeps q')
    (hrun : s'.running.Sublist s.running) (hsame : s'.executed = s.executed) : Frame s s' := by
  simp only [executed, Prod.mk.injEq] at hsame
  obtain ⟨hnext, hout, hkey, hexec, hkept⟩ := hsame
  refine ⟨hrun, fun x hx q' hq' => ?_, fun j _ hj => ?_, hnext.ge, hout, hkey, hexec, hkept⟩
  · rw [hctx, update_apply] at hq'
    split_ifs at hq' with hi
    · exact hi ▸ hkeeps x hx hi q' hq'
    · exact ⟨q', hq', .refl q'⟩
  · rw [hctx, update_apply]
    split_ifs with hi
    · exact hnone (hi ▸ hj)
    · exact hj

theorem of_modify (i : Nat) (f : QueryContext ρ → QueryContext ρ)
    (hf : ∀ q : QueryContext ρ, q.Keeps (f q))
    (hctx : s'.contexts = (s.modifyContext i f).contexts) (hrun : s'.running.Sublist s.running)
    (hsame : s'.executed = s.executed) : Frame s s' := by
  refine of_update hctx (fun hnone => by rw [hnone]; rfl) (fun x _ _ q' hq' => ?_) hrun hsame
  obtain ⟨q, hq, rfl⟩ := Option.map_eq_some_iff.1 hq'
  exact ⟨q, hq, hf q⟩

theorem of_eq (hctx : s'.contexts = s.contexts) (hrun : s'.running.Sublist s.running)
    (hsame : s'.executed = s.executed) : Frame s s' :=
  of_modify 0 id QueryContext.Keeps.refl (by simp [modifyContext, hctx]) hrun hsame

theorem refl (s : CacheSession ρ) : Frame s s := of_eq rfl (.refl _) rfl

end Frame

/-! ## Frames -/

variable {cfg : CacheConfig}

theorem running_append (p : Pending) (hp : p.execution? = none) :
    ((s.pending ++ [p]).filterMap Pending.execution?).Sublist s.running := by
  simp [running, hp]

theorem frame_parse (h : ResultInv k s) (name : String) (stmt : Statement) :
    Frame s (parseMessage cfg s name stmt) where
  running := running_append (.parse _) rfl
  contexts x hx q' hq' := by
    have hx : x ∈ s.running := (running_append (.parse _) rfl).subset hx
    have hne : x.context ≠ s.nextContext := (h.context_lt x hx).ne
    refine ⟨q', ?_, .refl q'⟩
    simpa [parseMessage, CacheSession.recordOids, update_of_ne hne] using hq'
  fresh i hi hnone := by
    have hne : i ≠ s.nextContext := Nat.ne_of_gt hi
    simpa [parseMessage, CacheSession.recordOids, update_of_ne hne] using hnone
  nextContext := Nat.le_succ _
  outputOf := rfl
  keyOf := rfl
  nextExec := rfl
  cacheArray := rfl

section

variable (s : CacheSession ρ)

theorem frame_skipTillSync : Frame s (skipTillSync cfg s) := by
  refine .of_eq rfl (List.Sublist.filterMap _ ?_) rfl
  unfold skipTillSync
  split
  · exact List.dropWhile_sublist _
  · exact List.nil_sublist _

theorem frame_bind (portal name : String) (params : List UInt8) :
    Frame s (bindMessage cfg s portal name params) := by
  unfold bindMessage
  split
  · exact frame_skipTillSync s
  · rename_i m _
    refine .of_modify (s.contextOf m.id) .bind (fun q => .of_eq rfl rfl (.inl rfl)) rfl ?_ rfl
    exact running_append (.bind _) rfl

theorem frame_describe (target : CloseTarget) (name : String) :
    Frame s (describeMessage s target name) := by
  unfold describeMessage
  split
  · exact .refl s
  · exact .of_eq rfl (running_append (.describe _) rfl) rfl

theorem frame_close (target : CloseTarget) (name : String) :
    Frame s (closeMessage cfg s target name) := by
  unfold closeMessage
  split
  · exact .refl s
  · exact .of_eq rfl (running_append (.close _) rfl) rfl

theorem frame_sync : Frame s (syncMessage cfg s) := by
  unfold syncMessage
  split
  · exact .of_eq rfl (running_append .sync rfl) rfl
  · exact .refl s

end

variable {rest : List Pending} {p : Pending}

theorem running_rest (hp : s.pending = p :: rest) :
    (rest.filterMap Pending.execution?).Sublist s.running := by
  rw [running, hp]
  exact (List.sublist_cons_self p rest).filterMap _

section

variable (s : CacheSession ρ)

theorem frame_complete (overflow : Bool) : Frame s (completeReply cfg s overflow) := by
  unfold completeReply
  split
  · rename_i i rest hp
    refine .of_modify i _ (.answered .parseComplete rfl overflow cfg.slMode) ?_
      (running_rest hp) rfl
    simp [modifyContext, Function.comp_def]
  · rename_i i rest hp
    refine .of_modify i _ (.answered .bindComplete rfl overflow cfg.slMode) ?_ (running_rest hp) rfl
    simp [modifyContext, Function.comp_def]
  · rename_i i rest hp
    exact .of_modify i _ (.register rfl overflow) rfl (running_rest hp) rfl
  · rename_i i rest hp
    exact .of_modify i (fun q => { q with tempCache := none })
      (fun q => .of_eq rfl rfl (.inr rfl)) rfl (running_rest hp) rfl
  · rename_i x rest hp
    split
    · exact .of_modify x.context _ (.register rfl overflow) rfl (.refl _) rfl
    · exact .refl s
  · exact .refl s

theorem frame_portalSuspended : Frame s (portalSuspendedReply s) := by
  unfold portalSuspendedReply
  split
  · rename_i x rest hp
    split
    · exact .refl s
    · exact .of_eq rfl (running_rest hp) rfl
  · exact .refl s

theorem frame_error : Frame s (errorReply cfg s) := by
  have hskip : Frame s { skipTillSync cfg s with commandSuccess := false } :=
    .of_eq rfl (frame_skipTillSync s).running rfl
  unfold errorReply
  split
  · split
    · exact .of_eq rfl (.refl _) rfl
    · exact hskip
  · exact hskip

end

/-! ## An execution begins -/

section Begins

variable {i e : Nat} {q q' : QueryContext ρ} {key : CString} {isSimple keyed clean : Bool}

theorem running_begins : (begins s i q key isSimple keyed clean).running =
      s.running ++ [⟨i, s.nextExec, isSimple, keyed, clean⟩] := by
  simp [begins, running, Pending.execution?]

theorem keyOf_begins (he : e < s.nextExec) :
    (begins s i q key isSimple keyed clean).keyOf e = s.keyOf e :=
  update_of_ne he.ne _ _

theorem tracks_begins_of_mem (h : ResultInv k s)
    (hrunning : ∀ x ∈ s.running, x.context = i → Tracks k s x q) {x : Execution}
    (hx : x ∈ s.running)
    (hq' : (begins s i q key isSimple keyed clean).contexts x.context = some q') :
    Tracks k (begins s i q key isSimple keyed clean) x q' := by
  refine (QueryContext.Keeps.refl q').tracks (s := s) ?_ rfl (keyOf_begins (h.exec_lt x hx))
  by_cases hxi : x.context = i
  · have hq : q = q' := by simpa [begins, hxi] using hq'
    exact hq ▸ hrunning x hx hxi
  · have hq : s.contexts x.context = some q' := by
      simpa [begins, update_of_ne hxi] using hq'
    exact h.tracks x hx q' hq

theorem tracks_begins_self (h : ResultInv k s) (hclean : clean = true → collectsNothing q = true)
    (hkeyed : k = true → keyed = true →
      (if isSimple then some q.stmt.text else q.queryWHex) = some key ∧
        ∀ cache, q.tempCache = some cache → cache.query = some key) :
    Tracks k (begins s i q key isSimple keyed clean) ⟨i, s.nextExec, isSimple, keyed, clean⟩ q where
  output hc _ cache ht _ := by
    have hsilent : (begins s i q key isSimple keyed clean).outputOf s.nextExec = [] :=
      h.silent _ le_rfl
    have hnothing := hclean hc
    rw [hsilent, List.filter_eq_nil_iff]
    simpa [collectsNothing, ht] using hnothing
  key hk hkd := by
    have hkey : (begins s i q key isSimple keyed clean).keyOf s.nextExec = key :=
      update_self ..
    rw [hkey]
    exact hkeyed hk hkd

/-- An execution begins, in a context that tracks its query. -/
theorem resultInv_begins (h : ResultInv k s) (hi : i < s.nextContext)
    (hrunning : ∀ x ∈ s.running, x.context = i → Tracks k s x q)
    (hothers : ∀ x ∈ s.running, x.isSimple = false)
    (hsimple : isSimple = true → s.running = [] ∧ keyed = true ∧ clean = true)
    (hclean : clean = true → collectsNothing q = true ∧ ∀ x ∈ s.running, x.context ≠ i)
    (hkeyed : k = true → keyed = true →
      (if isSimple then some q.stmt.text else q.queryWHex) = some key ∧
        ∀ cache, q.tempCache = some cache → cache.query = some key) :
    ResultInv k (begins s i q key isSimple keyed clean) where
  context_lt := by
    rw [running_begins, List.forall_mem_append, List.forall_mem_singleton]
    exact ⟨h.context_lt, hi⟩
  fresh j hj := by
    have hne : j ≠ i := (hi.trans_le hj).ne'
    exact (update_of_ne hne _ _).trans (h.fresh j hj)
  exec_lt := by
    rw [running_begins, List.forall_mem_append, List.forall_mem_singleton]
    exact ⟨fun x hx => (h.exec_lt x hx).trans (Nat.lt_succ_self _), Nat.lt_succ_self _⟩
  silent e he := h.silent e ((Nat.le_succ _).trans he)
  distinct := by
    rw [running_begins, List.pairwise_append]
    refine ⟨h.distinct, List.pairwise_singleton _ _, ?_⟩
    intro x hx y hy
    rw [List.mem_singleton.1 hy]
    refine ⟨(h.exec_lt x hx).ne, fun hxi => ?_⟩
    cases clean with
    | false => rfl
    | true => exact absurd hxi ((hclean rfl).2 x hx)
  simple := by
    rw [running_begins, List.forall_mem_append, List.forall_mem_singleton]
    refine ⟨fun x hx hxs => ?_, fun hxs => ?_⟩
    · rw [hothers x hx] at hxs
      cases hxs
    · obtain ⟨hnone, hrest⟩ := hsimple hxs
      exact ⟨by rw [hnone, List.nil_append], hrest⟩
  tracks := by
    rw [running_begins, List.forall_mem_append, List.forall_mem_singleton]
    refine ⟨fun x hx q' hq' => tracks_begins_of_mem h hrunning hx hq', fun q' hq' => ?_⟩
    have hq : q = q' := by simpa [begins] using hq'
    exact hq ▸ tracks_begins_self h (fun hc => (hclean hc).1) hkeyed
  kept cache hcache := by
    refine (h.kept cache hcache).mono ?_ (Nat.le_succ _) fun e he _ => ⟨rfl, keyOf_begins he⟩
    rw [running_begins, List.forall_mem_append, List.forall_mem_singleton]
    exact ⟨fun x hx _ => ⟨x, hx, rfl⟩, fun hlt => absurd hlt (Nat.lt_irrefl _)⟩

end Begins

/-! ## A message of an execution -/

variable {m : Msg ρ} {q : QueryContext ρ} {cache' : TempCache (Msg ρ)}

theorem register_output (hm : m.isOutput = true) (hsafe : q.stmt.isCacheSafe = true)
    (h : (q.register m overflow).tempCache = some cache') (hx : cache'.isExceeded = false) :
    ∃ cache, q.tempCache = some cache ∧ cache.isExceeded = false ∧
      cache'.buffer.filter Msg.isOutput = cache.buffer.filter Msg.isOutput ++ [m] := by
  unfold QueryContext.register at h
  rw [if_pos hsafe] at h
  cases ht : q.tempCache with
  | none => simp [ht] at h
  | some cache =>
    simp only [ht] at h
    split_ifs at h with hexceeded hoverflow
    · simp only [ht, Option.some.injEq] at h
      subst h
      rw [hexceeded] at hx
      cases hx
    · cases h
      cases hx
    · cases h
      exact ⟨cache, rfl, by simpa using hexceeded, by simp [hm]⟩

theorem register_fields (m : Msg ρ) (overflow : Bool) (q : QueryContext ρ) :
    (q.register m overflow).stmt = q.stmt ∧ (q.register m overflow).queryWHex = q.queryWHex ∧
      (q.register m overflow).partialFetch = q.partialFetch ∧
      ∀ cache', (q.register m overflow).tempCache = some cache' →
        ∃ cache, q.tempCache = some cache ∧ cache'.query = cache.query := by
  unfold QueryContext.register
  split
  · split
    · exact ⟨rfl, rfl, rfl, fun cache' h => ⟨cache', h, rfl⟩⟩
    · rename_i cache ht
      split_ifs
      · exact ⟨rfl, rfl, rfl, fun cache' h => ⟨cache', h, rfl⟩⟩
      · exact ⟨rfl, rfl, rfl, fun cache' h => ⟨cache, ht, by cases h; rfl⟩⟩
      · exact ⟨rfl, rfl, rfl, fun cache' h => ⟨cache, ht, by cases h; rfl⟩⟩
  · exact ⟨rfl, rfl, rfl, fun cache' h => ⟨cache', h, rfl⟩⟩

variable {x y : Execution}

theorem running_cons (hp : s.pending = .execution x :: rest) :
    s.running = x :: rest.filterMap Pending.execution? := by
  simp [running, hp, Pending.execution?]

theorem ResultInv.behind (h : ResultInv k s) (hp : s.pending = .execution x :: rest)
    (hy : y ∈ rest.filterMap Pending.execution?) :
    x.exec ≠ y.exec ∧ (x.context = y.context → y.clean = false) := by
  have hdistinct := h.distinct
  rw [running_cons hp, List.pairwise_cons] at hdistinct
  exact hdistinct.1 y hy

theorem tracks_output (h : ResultInv k s) (hp : s.pending = .execution x :: rest)
    (hy : y ∈ s.running) (hyx : y.context = x.context) (hm : m.isOutput = true)
    (hq : s.contexts x.context = some q) :
    Tracks k (output s x m overflow) y (q.register m overflow) := by
  obtain ⟨hstmt, hhex, -, hcache⟩ := register_fields m overflow q
  have hold := h.tracks y hy q (hyx ▸ hq)
  refine ⟨fun hclean hsafe cache' ht' hx' => ?_, fun hk hkeyed => ?_⟩
  · -- an execution behind `x` on the same query context has not started clean
    have hyx : y = x := by
      rcases List.mem_cons.1 (running_cons hp ▸ hy) with rfl | hmem
      · rfl
      · rw [(h.behind hp hmem).2 hyx.symm] at hclean
        cases hclean
    subst hyx
    rw [hstmt] at hsafe
    obtain ⟨cache, ht, hx, hbuffer⟩ := register_output hm hsafe ht' hx'
    rw [hbuffer, hold.output hclean hsafe cache ht hx]
    exact (update_self (f := s.outputOf) ..).symm
  · obtain ⟨hhandler, hquery⟩ := hold.key hk hkeyed
    rw [hstmt, hhex]
    refine ⟨hhandler, fun cache' ht' => ?_⟩
    obtain ⟨cache, ht, heq⟩ := hcache cache' ht'
    rw [heq]
    exact hquery cache ht

/-- A message of output keeps the invariant. -/
theorem resultInv_output (h : ResultInv k s) (hp : s.pending = .execution x :: rest)
    (hm : m.isOutput = true) (overflow : Bool) : ResultInv k (output s x m overflow) := by
  have hx : x ∈ s.running := by simp [running_cons hp]
  have hother : ∀ e, e ≠ x.exec → (output s x m overflow).outputOf e = s.outputOf e := fun e he =>
    update_of_ne he _ _
  refine ⟨h.context_lt, ?_, h.exec_lt, ?_, h.distinct, h.simple, ?_, ?_⟩
  · intro i hi
    have hne : i ≠ x.context := ((h.context_lt x hx).trans_le hi).ne'
    simpa [output, modifyContext, update_of_ne hne] using h.fresh i hi
  · intro e he
    rw [hother e ((h.exec_lt x hx).trans_le he).ne']
    exact h.silent e he
  · intro y hy q' hq'
    by_cases hyx : y.context = x.context
    · have hq' : (s.contexts x.context).map (·.register m overflow) = some q' := by
        simpa [output, modifyContext, hyx] using hq'
      obtain ⟨q, hq, rfl⟩ := Option.map_eq_some_iff.1 hq'
      exact tracks_output h hp hy hyx hm hq
    · have hq : s.contexts y.context = some q' := by
        simpa [output, modifyContext, update_of_ne hyx] using hq'
      have hne : y.exec ≠ x.exec := by
        rcases List.mem_cons.1 (running_cons hp ▸ hy) with rfl | hmem
        · exact absurd rfl hyx
        · exact (h.behind hp hmem).1.symm
      exact (QueryContext.Keeps.refl q').tracks (h.tracks y hy q' hq) (hother _ hne) rfl
  · intro cache hcache
    refine (h.kept cache hcache).mono (fun y hy _ => ⟨y, hy, rfl⟩) le_rfl (fun e _ hover => ?_)
    exact ⟨hother e (hover x hx).symm, rfl⟩

end PgBalancer.QueryCache
