import PgBalancer.Main.Failover

/-!
# What a request sees of the requests before it

The context of `failover` is passed on from request to request.  Of what it holds, two things have
an influence on the backends and the commands: the nodes that have been taken down, which a
request to take nodes down looks at, and whether the primary has to be searched for.

* `processRequest_agrees` — **an independent request has the effect it would have in a call of its
  own**.
-/

namespace PgBalancer.Main

open List

variable {n : Nat} {cfg : Config n} {find : Search n} {kind : RequestKind} {flags : UInt8}
  {w v : Work n} {nodeId newPrimary newMain promoteNode : Option (Fin n)}
  {acts : List (Action n)}

/-- The request finds nothing in the context that an earlier request has left there and that makes
a difference to it. -/
def Independent (cfg : Config n) (ctx : Context n) : Request n → Prop
  | .nodes .nodeDown _ _ _ =>
    (∀ i, ctx.nodes i = false) ∧ (cfg.mode.isSl = true ∨ ctx.searchPrimary = true)
  | .nodes .nodeUp _ _ flags => hasDetail flags reqDetailUpdate = true ∨ ctx.searchPrimary = true
  | _ => True

/-- The same work, up to what has been run before and to parts of the context that are of no
influence for a request of this kind. -/
structure Agrees (cfg : Config n) (kind : RequestKind) (acts : List (Action n)) (w v : Work n) :
    Prop where
  info : w.info = v.info
  actions : w.actions = acts ++ v.actions
  nodes : kind = .nodeDown → w.context.nodes = v.context.nodes
  search : kind = .nodeUp ∨ (kind = .nodeDown ∧ cfg.mode.isSl = false) →
    w.context.searchPrimary = v.context.searchPrimary

/-! ## The functions respect the agreement -/

variable (flags nodeId) in
theorem Agrees.killFailoverChildren (h : Agrees cfg kind acts w v) :
    Agrees cfg kind acts (killFailoverChildren cfg kind flags w nodeId)
      (killFailoverChildren cfg kind flags v nodeId) :=
  ⟨by simp [h.info], by simp [h.actions], by simpa using h.nodes, by simpa using h.search⟩

variable (flags newMain promoteNode) in
theorem Agrees.execFailoverCommand (h : Agrees cfg kind acts w v) :
    Agrees cfg kind acts (execFailoverCommand cfg kind flags w newMain promoteNode)
      (execFailoverCommand cfg kind flags v newMain promoteNode) := by
  refine ⟨by simp [h.info], ?_, by simpa using h.nodes, by simpa using h.search⟩
  by_cases hdown : kind = .nodeDown
  · simp [Main.execFailoverCommand, hdown, h.nodes hdown, h.info, h.actions]
  · simpa [Main.execFailoverCommand, hdown] using h.actions

variable (find nodeId) in
section

variable (h : Agrees cfg kind acts w v)
include h

theorem Agrees.determineNewPrimaryNode (hpromote : kind = .promoteNode → ∃ i, nodeId = some i ∧
    w.info.validBackend cfg i = true) :
    determineNewPrimaryNode cfg find kind w.context w.info nodeId =
      determineNewPrimaryNode cfg find kind v.context v.info nodeId := by
  rw [← h.info]
  cases kind with
  | nodeUp => simp [Main.determineNewPrimaryNode, h.search (.inl rfl)]
  | nodeDown =>
    cases hsl : cfg.mode.isSl with
    | true => simp [Main.determineNewPrimaryNode, hsl]
    | false => simp [Main.determineNewPrimaryNode, hsl, h.search (.inr ⟨rfl, hsl⟩)]
  | promoteNode =>
    obtain ⟨i, rfl, hvalid⟩ := hpromote rfl
    simp [Main.determineNewPrimaryNode, hvalid]
  | nodeQuarantine => simp [Main.determineNewPrimaryNode]

theorem Agrees.setInfo (info : NodeInfo n) : Agrees cfg kind acts { w with info } { v with info } :=
  ⟨rfl, h.actions, h.nodes, h.search⟩

theorem Agrees.followsPrimary :
    followsPrimary cfg kind w nodeId newPrimary = followsPrimary cfg kind v nodeId newPrimary := by
  unfold Main.followsPrimary
  rw [h.info]
  congr 1
  cases v.info.primaryNodeId with
  | none => rfl
  | some p =>
    by_cases hkind : kind = .nodeDown
    · rw [h.nodes hkind]
    · have hne : (kind == RequestKind.nodeDown) = false := by simpa using hkind
      simp [hne]

end

variable (nodeId newPrimary) in
theorem Agrees.execFollowPrimaryCommand (h : Agrees cfg kind acts w v) :
    Agrees cfg kind acts (execFollowPrimaryCommand cfg kind w nodeId newPrimary).1
      (execFollowPrimaryCommand cfg kind v nodeId newPrimary).1 ∧
    (execFollowPrimaryCommand cfg kind w nodeId newPrimary).2 =
      (execFollowPrimaryCommand cfg kind v nodeId newPrimary).2 := by
  unfold Main.execFollowPrimaryCommand
  rw [h.followsPrimary, h.info]
  cases newPrimary with
  | none => split_ifs <;> exact ⟨h, rfl⟩
  | some p =>
    have hothers : Agrees cfg kind acts
        { w with
          info := v.info.degenerateOthers p
          actions := w.actions ++ if cfg.followPrimaryCommand then
            [.forkFollowChild (v.info.degenerateOthers p).primaryNodeId (some p)] else [] }
        { v with
          info := v.info.degenerateOthers p
          actions := v.actions ++ if cfg.followPrimaryCommand then
            [.forkFollowChild (v.info.degenerateOthers p).primaryNodeId (some p)] else [] } :=
      ⟨rfl, by simp [h.actions], h.nodes, h.search⟩
    split
    · exact ⟨h, rfl⟩
    · split
      · split
        · dsimp only
          split
          · exact ⟨h, rfl⟩
          · exact ⟨hothers, rfl⟩
        · exact ⟨h, rfl⟩
      · exact ⟨h, rfl⟩

variable (newPrimary newMain) in
theorem Agrees.saveNodeInfo (h : Agrees cfg kind acts w v) :
    Agrees cfg kind acts (saveNodeInfo w newPrimary newMain)
      (saveNodeInfo v newPrimary newMain) := by
  unfold Main.saveNodeInfo
  rw [h.info]
  cases newMain with
  | none => exact ⟨rfl, h.actions, h.nodes, h.search⟩
  | some m => exact ⟨rfl, h.actions, h.nodes, h.search⟩

variable (find flags nodeId promoteNode) in
/-- The end of a request keeps the agreement. -/
theorem Agrees.settleRequest (h : Agrees cfg kind acts w v)
    (hpromote : kind = .promoteNode → ∃ i, nodeId = some i ∧ w.info.validBackend cfg i = true) :
    Agrees cfg kind acts (settleRequest cfg find kind flags nodeId promoteNode w)
      (settleRequest cfg find kind flags nodeId promoteNode v) := by
  unfold Main.settleRequest
  dsimp only
  have hrun := Agrees.execFailoverCommand flags (w.info.getNextMainNode cfg) promoteNode
    (Agrees.killFailoverChildren flags nodeId h)
  have hdetermine := Agrees.determineNewPrimaryNode find nodeId hrun
    (by simpa using hpromote)
  rw [← h.info, hdetermine]
  generalize Main.execFailoverCommand cfg kind flags
    (Main.killFailoverChildren cfg kind flags w nodeId) (w.info.getNextMainNode cfg)
    promoteNode = w₁ at hrun ⊢
  generalize Main.execFailoverCommand cfg kind flags
    (Main.killFailoverChildren cfg kind flags v nodeId) (w.info.getNextMainNode cfg)
    promoteNode = v₁ at hrun ⊢
  generalize Main.determineNewPrimaryNode cfg find kind v₁.context v₁.info nodeId = result
  obtain ⟨hfollow, hmain⟩ :=
    Agrees.execFollowPrimaryCommand nodeId result.2 (hrun.setInfo result.1)
  rw [hmain]
  have hsave := Agrees.saveNodeInfo result.2
    ((Main.execFollowPrimaryCommand cfg kind { v₁ with info := result.1 } nodeId
      result.2).2.or (w.info.getNextMainNode cfg)) hfollow
  exact ⟨hsave.info, hsave.actions, hsave.nodes, hsave.search⟩

theorem Agrees.degenerate (h : Agrees cfg kind acts w v) (cnt : Nat) (id : Option (Fin n)) :
    Agrees cfg kind acts (degenerate cfg kind (w, cnt) id).1 (degenerate cfg kind (v, cnt) id).1 ∧
      (degenerate cfg kind (w, cnt) id).2 = (degenerate cfg kind (v, cnt) id).2 := by
  cases id with
  | none => exact ⟨h, rfl⟩
  | some i =>
    unfold Main.degenerate
    simp only [h.info]
    split_ifs
    · exact ⟨⟨rfl, h.actions, fun hkind => by simp [h.nodes hkind], h.search⟩, rfl⟩
    · exact ⟨⟨rfl, h.actions, fun hkind => by simp [h.nodes hkind], fun _ => rfl⟩, rfl⟩
    · exact ⟨⟨rfl, h.actions, fun hkind => by simp [h.nodes hkind], h.search⟩, rfl⟩
    · exact ⟨h, rfl⟩

theorem Agrees.foldl_degenerate (ids : List (Option (Fin n))) (h : Agrees cfg kind acts w v)
    (cnt : Nat) : Agrees cfg kind acts (ids.foldl (Main.degenerate cfg kind) (w, cnt)).1
        (ids.foldl (Main.degenerate cfg kind) (v, cnt)).1 ∧
      (ids.foldl (Main.degenerate cfg kind) (w, cnt)).2 =
        (ids.foldl (Main.degenerate cfg kind) (v, cnt)).2 := by
  induction ids generalizing w v cnt with
  | nil => exact ⟨h, rfl⟩
  | cons id ids ih =>
    obtain ⟨hstep, hcnt⟩ := h.degenerate cnt id
    have hrest := ih hstep (Main.degenerate cfg kind (w, cnt) id).2
    rw [foldl_cons, foldl_cons]
    nth_rewrite 2 [hcnt] at hrest
    nth_rewrite 3 [hcnt] at hrest
    exact hrest

theorem handleFailbackRequest_agrees (hinfo : w.info = v.info)
    (hactions : w.actions = acts ++ v.actions)
    (hsearch : hasDetail flags reqDetailUpdate = true ∨
      w.context.searchPrimary = v.context.searchPrimary) :
    (handleFailbackRequest cfg w nodeId flags = none ∧
      handleFailbackRequest cfg v nodeId flags = none) ∨
    ∃ w' v', handleFailbackRequest cfg w nodeId flags = some w' ∧
      handleFailbackRequest cfg v nodeId flags = some v' ∧ Agrees cfg .nodeUp acts w' v' := by
  cases nodeId with
  | none => exact .inl ⟨rfl, rfl⟩
  | some i =>
    unfold handleFailbackRequest
    dsimp only
    rw [hinfo]
    split_ifs with _ hupdate
    · exact .inl ⟨rfl, rfl⟩
    · exact .inr ⟨_, _, rfl, rfl, rfl, hactions, fun hkind => (nomatch hkind), fun _ => rfl⟩
    · exact .inr ⟨_, _, rfl, rfl, rfl, hactions, fun hkind => (nomatch hkind), fun _ => rfl⟩
    · exact .inr ⟨_, _, rfl, rfl, rfl, hactions, fun hkind => (nomatch hkind), fun _ => rfl⟩
    · exact .inr ⟨_, _, rfl, rfl, rfl, by simp [hactions], fun hkind => (nomatch hkind),
        fun _ => hsearch.resolve_left hupdate⟩
    · exact .inr ⟨_, _, rfl, rfl, rfl, by simp [hactions], fun hkind => (nomatch hkind),
        fun _ => hsearch.resolve_left hupdate⟩

theorem Agrees.handleFailoverRequest (h : Agrees cfg kind acts w v) (ids : List (Option (Fin n))) :
    (handleFailoverRequest cfg kind w ids = none ∧ handleFailoverRequest cfg kind v ids = none) ∨
    ∃ w' v', handleFailoverRequest cfg kind w ids = some w' ∧
      handleFailoverRequest cfg kind v ids = some v' ∧ Agrees cfg kind acts w' v' := by
  obtain ⟨hwork, hcnt⟩ := Agrees.foldl_degenerate ids h 0
  unfold Main.handleFailoverRequest
  dsimp only
  rw [hcnt]
  split_ifs
  · exact .inl ⟨rfl, rfl⟩
  · exact .inr ⟨_, _, rfl, rfl, hwork⟩

/-- The result of a request, up to what has been run before. -/
def SameEffect (acts : List (Action n)) (w v : Work n) : Prop :=
  w.info = v.info ∧ w.actions = acts ++ v.actions

theorem sameEffect_settle {w' v' : Option (Work n)} (h : SameEffect acts w v)
    (hkind : kind ≠ .promoteNode) (hcases : (w' = none ∧ v' = none) ∨
      ∃ w₁ v₁, w' = some w₁ ∧ v' = some v₁ ∧ Agrees cfg kind acts w₁ v₁) :
    SameEffect acts ((w'.map (settleRequest cfg find kind flags nodeId promoteNode)).getD w)
      ((v'.map (settleRequest cfg find kind flags nodeId promoteNode)).getD v) := by
  rcases hcases with ⟨rfl, rfl⟩ | ⟨w₁, v₁, rfl, rfl, hagrees⟩
  · exact h
  · have hsettled := Agrees.settleRequest find flags nodeId promoteNode hagrees
      fun heq => absurd heq hkind
    exact ⟨hsettled.info, hsettled.actions⟩

variable (find acts) in
/-- An independent request has the effect that it has alone. -/
theorem processRequest_agrees {ctx : Context n} (info : NodeInfo n) {r : Request n}
    (h : Independent cfg ctx r) : SameEffect acts (processRequest cfg find ⟨ctx, info, acts⟩ r)
      (failover cfg [(r, find)] info) := by
  have hstart : SameEffect acts ⟨ctx, info, acts⟩ ⟨.initial, info, []⟩ :=
    ⟨rfl, (append_nil acts).symm⟩
  cases r with
  | closeIdle => exact hstart
  | nodes kind first rest flags =>
    cases kind with
    | nodeUp =>
      exact sameEffect_settle hstart (by decide)
        (handleFailbackRequest_agrees rfl hstart.2 h)
    | nodeDown =>
      have hagrees : Agrees cfg .nodeDown acts ⟨ctx, info, acts⟩ ⟨.initial, info, []⟩ := by
        refine ⟨rfl, hstart.2, fun _ => funext h.1, ?_⟩
        rintro (hkind | ⟨-, hsl⟩)
        · exact absurd hkind (by decide)
        · exact h.2.resolve_left (by simp [hsl])
      exact sameEffect_settle hstart (by decide) (hagrees.handleFailoverRequest _)
    | nodeQuarantine =>
      have hagrees : Agrees cfg .nodeQuarantine acts ⟨ctx, info, acts⟩ ⟨.initial, info, []⟩ := by
        refine ⟨rfl, hstart.2, fun hkind => absurd hkind (by decide), ?_⟩
        rintro (hkind | ⟨hkind, -⟩) <;> exact absurd hkind (by decide)
      exact sameEffect_settle hstart (by decide) (hagrees.handleFailoverRequest _)
    | promoteNode =>
      have hagrees : Agrees cfg .promoteNode acts ⟨ctx, info, acts⟩ ⟨.initial, info, []⟩ := by
        refine ⟨rfl, hstart.2, fun hkind => absurd hkind (by decide), ?_⟩
        rintro (hkind | ⟨hkind, -⟩) <;> exact absurd hkind (by decide)
      dsimp only [failover, foldl_cons, foldl_nil, processRequest]
      cases hnode : (targets info first rest flags).head?.join with
      | none => exact hstart
      | some i =>
        dsimp only
        split_ifs with hvalid
        · have hsettled := Agrees.settleRequest find flags (some i) (some first) hagrees
            fun _ => ⟨i, rfl, hvalid⟩
          exact ⟨hsettled.info, hsettled.actions⟩
        · exact hstart

/-! ## How often the failover command is run -/

/-- The failover command was run for this node. -/
def Action.isFailoverOf (j : Fin n) : Action n → Bool
  | .failoverCommand i _ _ _ => i == j
  | _ => false

open Main.Action (isFailoverOf)

/-- The request takes the node down: a request for that which names it, when it can be taken
down. -/
def tookDown (cfg : Config n) (info : NodeInfo n) : Request n → Fin n → Bool
  | .nodes .nodeDown first rest flags, j =>
    decide (some j ∈ targets info first rest flags ∧ canDegenerate cfg info j = true)
  | _, _ => false

/-- The command is run once for each node that is taken down. -/
theorem countP_execFailoverCommand (hcmd : cfg.failoverCommand = true) (j : Fin n) :
    (execFailoverCommand cfg kind flags w newMain promoteNode).actions.countP
        (isFailoverOf j) = w.actions.countP (isFailoverOf j) +
        if kind = .nodeDown ∧ w.context.nodes j = true then 1 else 0 := by
  by_cases hkind : kind = .nodeDown
  · have hcount : (List.finRange n).countP (fun i => i == j && w.context.nodes i) =
        if w.context.nodes j = true then 1 else 0 := by
      by_cases hj : w.context.nodes j = true
      · have heq : (fun i => i == j && w.context.nodes i) = (fun i => i == j) := by
          funext i
          by_cases hij : i = j
          · simp [hij, hj]
          · have hne : (i == j) = false := by simpa using hij
            simp [hne]
        rw [heq, if_pos hj]
        exact count_eq_one_of_mem (nodup_finRange n) (mem_finRange j)
      · rw [if_neg hj, countP_eq_zero]
        intro i _ hi
        simp only [Bool.and_eq_true, beq_iff_eq] at hi
        exact hj (hi.1 ▸ hi.2)
    simp [execFailoverCommand, hkind, hcmd, countP_map, countP_filter, ← hcount]
    rfl
  · simp [execFailoverCommand, hkind]

theorem countP_execFollowPrimaryCommand (j : Fin n) :
    (execFollowPrimaryCommand cfg kind w nodeId newPrimary).1.actions.countP
        (isFailoverOf j) = w.actions.countP (isFailoverOf j) := by
  unfold execFollowPrimaryCommand
  cases newPrimary with
  | none => dsimp only; split_ifs <;> rfl
  | some p => dsimp only; split_ifs <;> simp [isFailoverOf]

@[simp] theorem saveNodeInfo_actions : (saveNodeInfo w newPrimary newMain).actions = w.actions := by
  unfold saveNodeInfo
  cases newMain <;> rfl

theorem countP_settleRequest (hcmd : cfg.failoverCommand = true) (j : Fin n) :
    (settleRequest cfg find kind flags nodeId promoteNode w).actions.countP
        (isFailoverOf j) = w.actions.countP (isFailoverOf j) +
        if kind = .nodeDown ∧ w.context.nodes j = true then 1 else 0 := by
  unfold settleRequest
  simp only [saveNodeInfo_actions]
  rw [countP_execFollowPrimaryCommand]
  show List.countP _ (execFailoverCommand cfg kind flags _ _ _).actions = _
  rw [countP_execFailoverCommand hcmd]
  simp

theorem countP_handleFailbackRequest (j : Fin n)
    (h : handleFailbackRequest cfg w nodeId flags = some v) :
    v.actions.countP (isFailoverOf j) = w.actions.countP (isFailoverOf j) := by
  cases nodeId with
  | none => simp [handleFailbackRequest] at h
  | some i =>
    unfold handleFailbackRequest at h
    dsimp only at h
    split_ifs at h
    all_goals
      obtain rfl := Option.some.inj h
      simp [isFailoverOf]

/-- **The failover command is run once for each node that the request took down**, in a call of
its own. -/
theorem countP_failoverCommand (hcmd : cfg.failoverCommand = true) (r : Request n × Search n)
    (info : NodeInfo n) (j : Fin n) : (failover cfg [r] info).actions.countP (isFailoverOf j) =
      (tookDown cfg info r.1 j).toNat := by
  obtain ⟨r, find⟩ := r
  cases r with
  | closeIdle => rfl
  | nodes kind first rest flags =>
    show (processRequest cfg find ⟨.initial, info, []⟩
      (.nodes kind first rest flags)).actions.countP
      _ = _
    cases kind with
    | nodeUp =>
      dsimp only [processRequest]
      cases hback : handleFailbackRequest cfg ⟨.initial, info, []⟩
          (targets info first rest flags).head?.join flags with
      | none => rfl
      | some v =>
        have hcount := countP_handleFailbackRequest j hback
        simp only [Option.map_some, Option.getD_some]
        rw [countP_settleRequest hcmd, hcount]
        simp [tookDown]
    | promoteNode =>
      dsimp only [processRequest]
      cases (targets info first rest flags).head?.join with
      | none => rfl
      | some i =>
        dsimp only
        split_ifs
        · rw [countP_settleRequest hcmd]
          simp [tookDown]
        · rfl
    | nodeQuarantine =>
      dsimp only [processRequest, handleFailoverRequest]
      split_ifs
      · rfl
      · simp only [Option.map_some, Option.getD_some]
        rw [countP_settleRequest hcmd, (foldl_degenerate cfg _ _ _).actions]
        simp [tookDown]
    | nodeDown =>
      have htaken := foldl_degenerate cfg .nodeDown
        (targets info first rest flags) (⟨.initial, info, []⟩, 0)
      dsimp only [processRequest, handleFailoverRequest]
      split_ifs with h0
      · have hfree := (htaken.count.1 h0).2 j
        by_cases hmem : some j ∈ targets info first rest flags
        · simp [tookDown, hfree hmem]
        · simp [tookDown, hmem]
      · simp only [Option.map_some, Option.getD_some]
        rw [countP_settleRequest hcmd, htaken.actions, htaken.nodes]
        by_cases htook : some j ∈ targets info first rest flags ∧ canDegenerate cfg info j = true
        · simp [tookDown, htook]
        · simp [tookDown, htook, Context.initial]

end PgBalancer.Main
