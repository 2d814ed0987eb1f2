import PgBalancer.Main.Failover

/-!
# The recorded primary and main node after a failover

In streaming replication mode a request takes all its nodes down, but only the first of them is
looked at when the new primary is determined.  A request that names the primary in another place
leaves it recorded as primary.

* `failover_keeps_live` — **when the recorded nodes are live after a request**: exactly when the
  primary is not named, or named first.
* `up_only_by_failback` — a node comes up only by a request to bring it back.
* `mainRight_of_requests` — after any number of requests that were carried out the main node is the
  first valid backend.
-/

namespace PgBalancer.Main

variable {n : Nat} {cfg : Config n} {find : Search n} {kind : RequestKind} {flags : UInt8}
  {w : Work n} {nodeId newPrimary newMain promoteNode : Option (Fin n)} {s t : NodeInfo n}
  {m p i : Fin n}

/-- The recorded primary is not down, and the recorded main node is the first valid backend. -/
def NodeInfo.Live (s : NodeInfo n) : Prop :=
  (∀ p, s.primaryNodeId = some p → (s.backends p).status ≠ .down) ∧ s.MainRight

/-! ## The functions of a settled request -/

@[simp] theorem status_setRole (role : Role) (j : Fin n) :
    ((s.setRole i role).backends j).status = (s.backends j).status := by
  unfold NodeInfo.setRole NodeInfo.setBackend
  by_cases hj : j = i
  · subst hj
    simp
  · simp [Function.update_of_ne hj]

/-- Two records with the same states of the backends. -/
def SameStatus (s t : NodeInfo n) : Prop :=
  ∀ i, (t.backends i).status = (s.backends i).status

theorem SameStatus.valid (h : SameStatus s t) (i : Fin n) :
    t.validBackendRaw i = s.validBackendRaw i := by
  simp [NodeInfo.validBackendRaw, h i]

theorem SameStatus.getNextMainNode (h : SameStatus s t) (hraw : cfg.mode.isRaw = false) :
    t.getNextMainNode cfg = s.getNextMainNode cfg := by
  rw [getNextMainNode_of_not_raw hraw, getNextMainNode_of_not_raw hraw, funext h.valid]

theorem determineNewPrimaryNode_sameStatus (ctx : Context n) :
    SameStatus s (determineNewPrimaryNode cfg find kind ctx s nodeId).1 := by
  intro i
  dsimp only [determineNewPrimaryNode]
  split_ifs
  · rfl
  · cases nodeId <;> simp
  · rfl
  · rfl
  · cases s.primaryNodeId <;> simp
  · rfl
  · rfl

variable (w newPrimary newMain) in
theorem saveNodeInfo_sameStatus : SameStatus w.info (saveNodeInfo w newPrimary newMain).info := by
  intro i
  cases newPrimary with
  | none => cases newMain <;> rfl
  | some p =>
    dsimp only [saveNodeInfo]
    by_cases hp : w.info.primaryNodeId ≠ some p
    · cases newMain <;> simp [hp]
    · cases newMain <;> simp [hp]

@[simp] theorem saveNodeInfo_primary :
    (saveNodeInfo w newPrimary newMain).info.primaryNodeId = newPrimary := by
  cases newPrimary <;> cases newMain <;> rfl

theorem saveNodeInfo_main (h : newMain = some m) :
    (saveNodeInfo w newPrimary newMain).info.mainNodeId = some m := by
  subst h
  cases newPrimary <;> rfl

/-- The main node is right if the one saved is the next main node of what has become of the
backends. -/
theorem saveNodeInfo_mainRight (hraw : cfg.mode.isRaw = false)
    (h : newMain = w.info.getNextMainNode cfg ∨ w.info.getNextMainNode cfg = none) :
    (saveNodeInfo w newPrimary newMain).info.MainRight := by
  intro i hi
  have hsame := saveNodeInfo_sameStatus w newPrimary newMain
  rw [hsame.valid] at hi
  cases hnext : w.info.getNextMainNode cfg with
  | none =>
    have := (getNextMainNode_eq_none hraw).1 hnext i
    simp [hi] at this
  | some m =>
    obtain ⟨hm, hmin⟩ := getNextMainNode_eq_some hraw hnext
    have hnew : newMain = some m := by
      rcases h with heq | hnone
      · rw [heq, hnext]
      · simp [hnext] at hnone
    refine ⟨m, saveNodeInfo_main hnew, ?_, ?_⟩
    · rw [hsame.valid]
      exact hm
    · intro j hj
      rw [hsame.valid] at hj
      exact hmin j hj

variable (cfg kind w nodeId newPrimary) in
/-- Either nothing is degenerated, or all but the new primary, and then the new main node is
computed again. -/
theorem execFollowPrimaryCommand_cases :
    (execFollowPrimaryCommand cfg kind w nodeId newPrimary).1.info = w.info ∧
      (execFollowPrimaryCommand cfg kind w nodeId newPrimary).2 = none ∨ ∃ p, newPrimary = some p ∧
      (execFollowPrimaryCommand cfg kind w nodeId newPrimary).1.info = w.info.degenerateOthers p ∧
      (execFollowPrimaryCommand cfg kind w nodeId newPrimary).2 =
        (w.info.degenerateOthers p).getNextMainNode cfg := by
  fun_cases execFollowPrimaryCommand cfg kind w nodeId newPrimary with
  | case3 => exact .inr ⟨_, rfl, rfl, rfl⟩
  | case1 | case2 | case4 | case5 | case6 => exact .inl ⟨rfl, rfl⟩

/-- **The main node is right after every request that is carried out.** -/
theorem settleRequest_mainRight (hraw : cfg.mode.isRaw = false) :
    (settleRequest cfg find kind flags nodeId promoteNode w).info.MainRight := by
  unfold settleRequest
  dsimp only
  set w₁ := execFailoverCommand cfg kind flags (killFailoverChildren cfg kind flags w nodeId)
    (w.info.getNextMainNode cfg) promoteNode with hw₁
  have hinfo : w₁.info = w.info := by simp [hw₁]
  have hsame : SameStatus w.info
      (determineNewPrimaryNode cfg find kind w₁.context w₁.info nodeId).1 := by
    rw [hinfo]
    exact determineNewPrimaryNode_sameStatus w₁.context
  apply saveNodeInfo_mainRight hraw
  rcases execFollowPrimaryCommand_cases cfg kind
      { w₁ with info := (determineNewPrimaryNode cfg find kind w₁.context w₁.info nodeId).1 } nodeId
      (determineNewPrimaryNode cfg find kind w₁.context w₁.info nodeId).2
    with ⟨hwork, hmain⟩ | ⟨p, -, hwork, hmain⟩
  · left
    rw [hwork, hmain, hsame.getNextMainNode hraw]
    rfl
  · rw [hwork, hmain]
    cases (NodeInfo.degenerateOthers _ p).getNextMainNode cfg with
    | none => exact .inr rfl
    | some m => exact .inl rfl

theorem settleRequest_primary :
    (settleRequest cfg find kind flags nodeId promoteNode w).info.primaryNodeId =
      (determineNewPrimaryNode cfg find kind
        (execFailoverCommand cfg kind flags (killFailoverChildren cfg kind flags w nodeId)
          (w.info.getNextMainNode cfg) promoteNode).context w.info nodeId).2 := by
  unfold settleRequest
  simp

/-- The primary that is recorded keeps its status. -/
theorem settleRequest_status
    (hp : (settleRequest cfg find kind flags nodeId promoteNode w).info.primaryNodeId = some p) :
    ((settleRequest cfg find kind flags nodeId promoteNode w).info.backends p).status =
      (w.info.backends p).status := by
  rw [settleRequest_primary] at hp
  unfold settleRequest
  dsimp only
  rw [saveNodeInfo_sameStatus]
  set w₁ := execFailoverCommand cfg kind flags (killFailoverChildren cfg kind flags w nodeId)
    (w.info.getNextMainNode cfg) promoteNode with hw₁
  have hinfo : w₁.info = w.info := by simp [hw₁]
  rcases execFollowPrimaryCommand_cases cfg kind
      { w₁ with info := (determineNewPrimaryNode cfg find kind w₁.context w₁.info nodeId).1 } nodeId
      (determineNewPrimaryNode cfg find kind w₁.context w₁.info nodeId).2
    with ⟨hwork, -⟩ | ⟨q, hq, hwork, -⟩
  · rw [hwork, determineNewPrimaryNode_sameStatus, hinfo]
  · -- the new primary is the one that is left alone
    rw [hinfo, hp] at hq
    obtain rfl : p = q := Option.some.inj hq
    rw [hwork]
    show (if p = p then _ else _ : Backend).status = _
    rw [if_pos rfl, determineNewPrimaryNode_sameStatus, hinfo]

/-! ## The new primary -/

theorem findPrimaryNodeRepeatedly_valid
    (hfind : ∀ s i, find s = some i → s.validBackendRaw i = true)
    (hongoing : s.followPrimaryOngoing = false)
    (h : findPrimaryNodeRepeatedly cfg find s = some i) :
    s.validBackendRaw i = true := by
  unfold findPrimaryNodeRepeatedly at h
  split_ifs at h with _ hfollow
  · simp [hongoing] at hfollow
  · exact hfind s i h

theorem not_down_of_valid (h : s.validBackendRaw i = true) : (s.backends i).status ≠ .down := by
  intro hdown
  simp [NodeInfo.validBackendRaw, hdown] at h

variable (cfg nodeId) in
/-- The new primary after a request that takes nodes down or quarantines them: the old one if it
is not the first node of the request, and otherwise none or a valid backend. -/
theorem determineNewPrimaryNode_spec (ctx : Context n) (hmode : cfg.mode = .streamingReplication)
    (hfind : ∀ s i, find s = some i → s.validBackendRaw i = true)
    (hongoing : s.followPrimaryOngoing = false) (hp : s.primaryNodeId = some p)
    (hkind : kind = .nodeDown ∨ kind = .nodeQuarantine) :
    (nodeId ≠ some p → (determineNewPrimaryNode cfg find kind ctx s nodeId).2 = some p) ∧
      (nodeId = some p → ∀ i, (determineNewPrimaryNode cfg find kind ctx s nodeId).2 = some i →
        (s.backends i).status ≠ .down) := by
  have hsl : cfg.mode.isSl = true := by rw [hmode]; rfl
  constructor
  · intro hne
    have hne' : ¬ some p = nodeId := fun heq => hne heq.symm
    rcases hkind with rfl | rfl <;> simp [determineNewPrimaryNode, hp, hne', hsl]
  · rintro rfl i hi
    rcases hkind with rfl | rfl
    · simp only [determineNewPrimaryNode, hp, hsl] at hi
      simp at hi
      have hvalid := findPrimaryNodeRepeatedly_valid hfind (by exact hongoing) hi
      have hdown := not_down_of_valid hvalid
      rwa [status_setRole] at hdown
    · simp [determineNewPrimaryNode, hp] at hi

/-! ## The whole request -/

variable {first : Fin n} {rest : List (Fin n)}

theorem mem_targets (hp : s.primaryNodeId = some p) : some p ∈ targets s first rest flags ↔
      hasDetail flags reqDetailPromote = true ∨ p ∈ first :: rest := by
  unfold targets
  split_ifs with hpromote
  · simp [hp, hpromote]
  · simp [hpromote]

theorem head_targets (hp : s.primaryNodeId = some p) :
    (targets s first rest flags).head?.join = some p ↔
      hasDetail flags reqDetailPromote = true ∨ first = p := by
  unfold targets
  split_ifs with hpromote <;> simp [hp, hpromote]

theorem canDegenerate_of_valid (hraw : cfg.mode.isRaw = false) (h : s.validBackendRaw i = true) :
    canDegenerate cfg s i = true := by
  simp [canDegenerate, hraw, validBackend_of_not_raw hraw, h]

variable (cfg find flags) in
/-- A call of `failover` that finds one request to take nodes down or to quarantine them. -/
theorem failover_single_info (hkind : kind = .nodeDown ∨ kind = .nodeQuarantine) (s : NodeInfo n)
    (first : Fin n) (rest : List (Fin n)) : let ids := targets s first rest flags
    let w := ids.foldl (degenerate cfg kind) (⟨.initial, s, []⟩, 0)
    (failover cfg [(.nodes kind first rest flags, find)] s).info =
      if w.2 = 0 then s
      else (settleRequest cfg find kind flags ids.head?.join (some first) w.1).info := by
  intro ids w
  rcases hkind with rfl | rfl <;>
  · simp only [failover, List.foldl_cons, List.foldl_nil, processRequest, handleFailoverRequest]
    by_cases h0 : w.2 = 0 <;> simp [ids, w, h0]

/-- **When the recorded nodes are live after a request.**  In streaming replication mode, with the
primary up, a request that takes nodes down or quarantines them leaves a primary that is not down
and the right main node exactly if the primary is the first node of the request or not named at
all (with the flag to promote a node it always stands for the primary), and, in case no node of
the request can be taken down, the main node has been right before. -/
theorem failover_keeps_live (cfg : Config n) (hmode : cfg.mode = .streamingReplication)
    (find : Search n) (hfind : ∀ s i, find s = some i → s.validBackendRaw i = true)
    (s : NodeInfo n) (hongoing : s.followPrimaryOngoing = false) (p : Fin n)
    (hp : s.primaryNodeId = some p) (hvalid : s.validBackendRaw p = true) (kind : RequestKind)
    (hkind : kind = .nodeDown ∨ kind = .nodeQuarantine) (first : Fin n) (rest : List (Fin n))
    (flags : UInt8) : (failover cfg [(.nodes kind first rest flags, find)] s).info.Live ↔
      (p ∈ first :: rest → first = p ∨ hasDetail flags reqDetailPromote = true) ∧
      ((∀ i, some i ∈ targets s first rest flags → canDegenerate cfg s i = false) →
        s.MainRight) := by
  have hraw : cfg.mode.isRaw = false := by rw [hmode]; rfl
  set ids := targets s first rest flags with hids
  set w := ids.foldl (degenerate cfg kind) (⟨.initial, s, []⟩, 0) with hw
  have hcan := canDegenerate_of_valid hraw hvalid
  have htaken := foldl_degenerate cfg kind ids (⟨.initial, s, []⟩, 0)
  rw [← hw] at htaken
  have hcount := htaken.count
  have hsame := htaken.same p hp
  have hfree : (∀ i, some i ∈ ids → canDegenerate cfg s i = false) ↔ w.2 = 0 := by
    simp [hcount]
  rw [hfree]
  have hresult := failover_single_info cfg find flags hkind s first rest
  rw [hresult, ← hids, ← hw]
  by_cases h0 : w.2 = 0
  · -- nothing is taken down, the primary in particular
    have hnot : p ∉ first :: rest := by
      intro hmem
      have := (hcount.1 h0).2 p ((mem_targets hp).2 (.inr hmem))
      simp [hcan] at this
    simp only [h0, if_true, true_implies]
    constructor
    · intro hlive
      exact ⟨fun hmem => absurd hmem hnot, hlive.2⟩
    · rintro ⟨-, hmain⟩
      refine ⟨?_, hmain⟩
      intro q hq
      obtain rfl : p = q := Option.some.inj (hp.symm.trans hq)
      exact not_down_of_valid hvalid
  · simp only [h0, if_false, false_implies, and_true]
    have hdown : ((w.1.info.backends p).status = .down) ↔ some p ∈ ids := by
      rw [htaken.backends]
      by_cases hmem : some p ∈ ids
      · simp [hmem, hcan, Backend.downed]
      · simp [hmem, not_down_of_valid hvalid]
    have hspec := determineNewPrimaryNode_spec cfg ids.head?.join
      (execFailoverCommand cfg kind flags
        (killFailoverChildren cfg kind flags w.1 ids.head?.join)
        (w.1.info.getNextMainNode cfg) (some first)).context
      hmode hfind (hsame.ongoing.trans hongoing) hsame.primary hkind
    rw [← settleRequest_primary] at hspec
    constructor
    · rintro ⟨hprimary, -⟩ hmem
      by_contra hfirst
      have hhead : ids.head?.join ≠ some p := by
        intro heq
        exact hfirst ((head_targets hp).1 heq).symm
      have hrecorded := hspec.1 hhead
      have hstatus := settleRequest_status hrecorded
      apply hprimary p hrecorded
      rw [hstatus, hdown]
      exact (mem_targets hp).2 (.inr hmem)
    · intro hfirst
      refine ⟨?_, settleRequest_mainRight hraw⟩
      intro q hq
      rw [settleRequest_status hq]
      by_cases hhead : ids.head?.join = some p
      · exact hspec.2 hhead q hq
      · have hrecorded := hspec.1 hhead
        obtain rfl : p = q := Option.some.inj (hrecorded.symm.trans hq)
        rw [ne_eq, hdown, mem_targets hp]
        rw [head_targets hp] at hhead
        rintro (hpromote | hmem)
        · exact hhead (.inl hpromote)
        · exact hhead (hfirst hmem).symm

/-- Two backends that are up, node 0 the primary. -/
def primaryAndStandby : NodeInfo 2 where
  backends i := ⟨.up, false, if i = 0 then .primary else .standby⟩
  primaryNodeId := some 0
  mainNodeId := some 0
  followPrimaryOngoing := false

/-- Streaming replication with a failover command. -/
def streaming : Config 2 := ⟨.streamingReplication, true, false, false, some 0⟩

/-- The search finds the first backend that is valid. -/
def findFirst : Search 2 := fun s => (List.finRange 2).find? s.validBackendRaw

theorem findFirst_valid (s : NodeInfo 2) (i : Fin 2) (h : findFirst s = some i) :
    s.validBackendRaw i = true := by
  simpa using List.find?_some h

/-- The primary goes down alone: the other node becomes primary and main node. -/
theorem live_after_primary_down :
    (failover streaming [(.nodes .nodeDown 0 [] 0, findFirst)] primaryAndStandby).info.Live := by
  refine (failover_keeps_live streaming rfl findFirst findFirst_valid primaryAndStandby rfl 0 rfl
    rfl .nodeDown (.inl rfl) 0 [] 0).2 ⟨fun _ => .inl rfl, fun hfree => ?_⟩
  have := hfree 0 (by decide)
  exact absurd this (by decide)

/-- The primary is the second node of a request, and stays the recorded one. -/
theorem primary_second_stays_recorded :
    let s := (failover streaming [(.nodes .nodeDown 1 [0] 0, findFirst)] primaryAndStandby).info
    s.primaryNodeId = some 0 ∧ (s.backends 0).status = .down := by
  decide

/-! ## Any number of requests -/

section Requests

variable {r : Request n} {v : Work n}

theorem execFollowPrimaryCommand_valid
    (h : (execFollowPrimaryCommand cfg kind w nodeId newPrimary).1.info.validBackendRaw i = true) :
    w.info.validBackendRaw i = true := by
  rcases execFollowPrimaryCommand_cases cfg kind w nodeId newPrimary
    with ⟨hwork, -⟩ | ⟨p, -, hwork, -⟩
  · rwa [hwork] at h
  · rw [hwork, NodeInfo.validBackendRaw, NodeInfo.degenerateOthers] at h
    dsimp only at h
    split at h
    · exact h
    · cases h

theorem settleRequest_valid
    (h : (settleRequest cfg find kind flags nodeId promoteNode w).info.validBackendRaw i = true) :
    w.info.validBackendRaw i = true := by
  unfold settleRequest at h
  dsimp only at h
  rw [SameStatus.valid (saveNodeInfo_sameStatus _ _ _)] at h
  have h := execFollowPrimaryCommand_valid h
  rw [SameStatus.valid (determineNewPrimaryNode_sameStatus _)] at h
  simpa using h

theorem handleFailoverRequest_valid {ids : List (Option (Fin n))}
    (hv : handleFailoverRequest cfg kind w ids = some v) (h : v.info.validBackendRaw i = true) :
    w.info.validBackendRaw i = true := by
  simp only [handleFailoverRequest] at hv
  split at hv
  · cases hv
  · cases hv
    rw [NodeInfo.validBackendRaw, (foldl_degenerate cfg kind ids (w, 0)).backends i] at h
    split at h
    · cases h
    · exact h

theorem handleFailbackRequest_valid (hv : handleFailbackRequest cfg w nodeId flags = some v)
    (h : v.info.validBackendRaw i = true) : w.info.validBackendRaw i = true ∨ nodeId = some i := by
  cases nodeId with
  | none => cases hv
  | some j =>
    by_cases hj : i = j
    · exact .inr (congrArg some hj.symm)
    · left
      simp only [handleFailbackRequest] at hv
      split_ifs at hv <;> cases hv <;>
        simpa [NodeInfo.validBackendRaw, NodeInfo.setBackend, NodeInfo.setStatus, hj] using h

/-- A request to bring back node `i`; with the flag to promote a node it stands for the primary that
is recorded when the request is processed. -/
def Request.BringsUp (s : NodeInfo n) (i : Fin n) : Request n → Prop
  | .nodes .nodeUp first _ flags =>
    if hasDetail flags reqDetailPromote then s.primaryNodeId = some i else first = i
  | _ => False

/-- **What processing a request can do**: nothing, or it is settled after a step in which no other
node comes up than one that is to be brought back. -/
theorem processRequest_cases (cfg : Config n) (find : Search n) (w : Work n) (r : Request n) :
    processRequest cfg find w r = w ∨ ∃ kind flags nodeId promoteNode v,
      processRequest cfg find w r = settleRequest cfg find kind flags nodeId promoteNode v ∧
      ∀ i, v.info.validBackendRaw i = true →
        w.info.validBackendRaw i = true ∨ r.BringsUp w.info i := by
  fun_cases processRequest cfg find w r with
  | case1 | case4 | case5 => exact .inl rfl
  | case2 first rest flags nodeIdSet nodeId settle =>
    cases hv : handleFailbackRequest cfg w nodeId flags with
    | none => exact .inl rfl
    | some v =>
      refine .inr ⟨_, _, _, _, v, rfl, fun i hi => ?_⟩
      refine (handleFailbackRequest_valid hv hi).imp_right fun hi => ?_
      dsimp only [nodeId, nodeIdSet, targets] at hi
      dsimp only [Request.BringsUp]
      split at hi
      · simpa [*] using hi
      · simpa [*] using hi
  | case3 => exact .inr ⟨_, _, _, _, w, rfl, fun i hi => .inl hi⟩
  | case6 kind first rest flags nodeIdSet =>
    cases hv : handleFailoverRequest cfg kind w nodeIdSet with
    | none => exact .inl rfl
    | some v =>
      exact .inr ⟨_, _, _, _, v, rfl, fun i hi => .inl (handleFailoverRequest_valid hv hi)⟩

theorem failover_append (requests : List (Request n × Search n)) (r : Request n × Search n) :
    failover cfg (requests ++ [r]) s = processRequest cfg r.2 (failover cfg requests s) r.1 := by
  rw [failover, List.foldl_append]
  rfl

/-- **A node comes up only by a request to bring it back.** -/
theorem up_only_by_failback (cfg : Config n) (requests : List (Request n × Search n))
    (s : NodeInfo n) (i : Fin n) (hdown : s.validBackendRaw i = false)
    (hup : (failover cfg requests s).info.validBackendRaw i = true) :
    ∃ before r after, requests = before ++ r :: after ∧
      r.1.BringsUp (failover cfg before s).info i := by
  induction requests using List.reverseRecOn with
  | nil => exact absurd (hdown.symm.trans hup) (by decide)
  | append_singleton requests r ih =>
    -- either the node was up before the last request, or that one has brought it up
    have hlast : (failover cfg requests s).info.validBackendRaw i = true ∨
        r.1.BringsUp (failover cfg requests s).info i := by
      rw [failover_append] at hup
      rcases processRequest_cases cfg r.2 (failover cfg requests s) r.1
        with heq | ⟨_, _, _, _, v, heq, hv⟩ <;> rw [heq] at hup
      · exact .inl hup
      · exact hv i (settleRequest_valid hup)
    rcases hlast with hbefore | hnew
    · obtain ⟨before, r', after, rfl, hr'⟩ := ih hbefore
      exact ⟨before, r', after ++ [r], by simp, hr'⟩
    · exact ⟨requests, r, [], rfl, hnew⟩

/-- A standby that is down comes up by a request that names it. -/
theorem standby_up_by_failback :
    let requests : List (Request 2 × Search 2) := [(.nodes .nodeUp 1 [] 0, findFirst)]
    let s := primaryAndStandby.setStatus 1 .down
    s.validBackendRaw 1 = false ∧
      (failover streaming requests s).info.validBackendRaw 1 = true ∧
      ∃ before r after, requests = before ++ r :: after ∧
        r.1.BringsUp (failover streaming before s).info 1 :=
  ⟨by decide, by decide, up_only_by_failback _ _ _ _ (by decide) (by decide)⟩

/-- **After any requests the main node is the first valid backend**, unless none of them was carried
out. -/
theorem mainRight_of_requests (cfg : Config n) (hraw : cfg.mode.isRaw = false)
    (requests : List (Request n × Search n)) (s : NodeInfo n) :
    failover cfg requests s = ⟨.initial, s, []⟩ ∨ (failover cfg requests s).info.MainRight := by
  induction requests using List.reverseRecOn with
  | nil => exact .inl rfl
  | append_singleton requests r ih =>
    rw [failover_append]
    rcases processRequest_cases cfg r.2 (failover cfg requests s) r.1
      with heq | ⟨_, _, _, _, v, heq, -⟩ <;> rw [heq]
    · exact ih
    · exact .inr (settleRequest_mainRight hraw)

/-- The primary goes down and comes back: it is the main node again. -/
theorem mainRight_after_failback :
    streaming.mode.isRaw = false ∧ (failover streaming [(.nodes .nodeDown 0 [] 0, findFirst),
      (.nodes .nodeUp 0 [] 0, findFirst)] primaryAndStandby).info.MainRight :=
  ⟨rfl, (mainRight_of_requests streaming rfl _ _).resolve_left fun h =>
    absurd (congrArg (fun w => w.actions.isEmpty) h) (by decide)⟩

end Requests

end PgBalancer.Main
