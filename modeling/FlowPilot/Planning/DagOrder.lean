import FlowPilot.Planning.Dag

/-!
# The order of a plan

The loop of `validate_dag` with its counters places the least ready step again and again, as the
dependency graph of the plan does.
-/

open FlowPilot.Lib

namespace FlowPilot.Planning

/-! ## The counters -/

theorem sortedIds_sorted (ids : List StepId) : (sortedIds ids).Pairwise (· ≤ ·) :=
  List.pairwise_insertionSort _ _

theorem sortedIds_perm (ids : List StepId) : (sortedIds ids).Perm ids :=
  List.perm_insertionSort _ _

/-- The dependents lower their counters by how often they occur, and those that reach zero are
ready. -/
theorem foldl_relax (l : List StepId) : ∀ (indegree : StepId → Int) (ready : List StepId),
    ready.Pairwise (· ≤ ·) → ready.Nodup → (∀ x ∈ l, (l.count x : Int) ≤ indegree x) →
    (∀ x ∈ ready, x ∉ l) →
      (l.foldl relax (indegree, ready)).1 = (fun x => indegree x - (l.count x : Int)) ∧
      (l.foldl relax (indegree, ready)).2.Pairwise (· ≤ ·) ∧
      (l.foldl relax (indegree, ready)).2.Nodup ∧
      ∀ x, x ∈ (l.foldl relax (indegree, ready)).2 ↔
        x ∈ ready ∨ x ∈ l ∧ indegree x = (l.count x : Int) := by
  induction l with
  | nil =>
      intro indegree ready hsorted hnodup _ _
      refine ⟨?_, hsorted, hnodup, ?_⟩
      · funext x
        show indegree x = indegree x - 0
        omega
      · intro x
        simp
  | cons d l ih =>
      intro indegree ready hsorted hnodup hcount hready
      let lowered := Function.update indegree d (indegree d - 1)
      have hself : lowered d = indegree d - 1 := Function.update_self _ _ _
      have hother : ∀ x, x ≠ d → lowered x = indegree x := fun x hx =>
        Function.update_of_ne hx _ _
      have hcountSelf : ((d :: l).count d : Int) = l.count d + 1 := by
        rw [List.count_cons_self]
        rfl
      have hcountOther : ∀ x, x ≠ d → (d :: l).count x = l.count x := fun x hx =>
        List.count_cons_of_ne (Ne.symm hx)
      have hd := hcount d List.mem_cons_self
      rw [hcountSelf] at hd
      have hrest : ∀ x ∈ l, (l.count x : Int) ≤ lowered x := by
        intro x hx
        by_cases hxd : x = d
        · rw [hxd, hself]
          omega
        · rw [hother x hxd, ← hcountOther x hxd]
          exact hcount x (List.mem_cons_of_mem _ hx)
      have hdready : d ∉ ready := fun hmem => hready d hmem List.mem_cons_self
      have hvalues : (fun x => lowered x - (l.count x : Int)) =
          fun x => indegree x - ((d :: l).count x : Int) := by
        funext x
        by_cases hxd : x = d
        · rw [hxd, hself, hcountSelf]
          omega
        · rw [hother x hxd, hcountOther x hxd]
      rw [List.foldl_cons]
      by_cases hzero : indegree d - 1 = 0
      · -- the counter reaches zero with the last occurrence
        have hgone : d ∉ l := by
          intro hmem
          have hpositive := List.count_pos_iff.mpr hmem
          omega
        have hmem : ∀ x, x ∈ sortedIds (ready ++ [d]) ↔ x ∈ ready ∨ x = d := by
          intro x
          rw [(sortedIds_perm _).mem_iff, List.mem_append, List.mem_singleton]
        have hstep : relax (indegree, ready) d = (lowered, sortedIds (ready ++ [d])) := by
          unfold relax
          rw [if_pos hzero]
        have hnodup' : (sortedIds (ready ++ [d])).Nodup := by
          rw [(sortedIds_perm _).nodup_iff, List.nodup_append]
          refine ⟨hnodup, List.nodup_singleton _, ?_⟩
          intro a ha b hb hab
          rw [List.mem_singleton.mp hb] at hab
          rw [hab] at ha
          exact hdready ha
        have hready' : ∀ x ∈ sortedIds (ready ++ [d]), x ∉ l := by
          intro x hx
          rw [hmem] at hx
          rcases hx with hold | hnew
          · exact fun hl => hready x hold (List.mem_cons_of_mem _ hl)
          · rw [hnew]
            exact hgone
        have ⟨hfirst, hsorted', hnodup'', hmem'⟩ := ih lowered _ (sortedIds_sorted _) hnodup'
          hrest hready'
        rw [hstep]
        refine ⟨hfirst.trans hvalues, hsorted', hnodup'', ?_⟩
        intro x
        rw [hmem', hmem]
        by_cases hxd : x = d
        · rw [hxd, hcountSelf, List.count_eq_zero_of_not_mem hgone]
          simp only [or_true, true_or, List.mem_cons_self, true_and, true_iff]
          right
          omega
        · rw [hother x hxd, hcountOther x hxd, List.mem_cons]
          simp only [hxd, or_false, false_or]
      · have hstep : relax (indegree, ready) d = (lowered, ready) := by
          unfold relax
          rw [if_neg hzero]
        have hready' : ∀ x ∈ ready, x ∉ l := fun x hx hl =>
          hready x hx (List.mem_cons_of_mem _ hl)
        have ⟨hfirst, hsorted', hnodup', hmem'⟩ := ih lowered ready hsorted hnodup hrest hready'
        rw [hstep]
        refine ⟨hfirst.trans hvalues, hsorted', hnodup', ?_⟩
        intro x
        rw [hmem']
        by_cases hxd : x = d
        · rw [hxd, hself, hcountSelf]
          by_cases hmem : d ∈ l
          · simp only [hmem, hdready, List.mem_cons_self, true_and, false_or]
            omega
          · rw [List.count_eq_zero_of_not_mem hmem]
            have hleft : ¬ indegree d = ((0 : Nat) : Int) + 1 := by omega
            simp only [hmem, hdready, List.mem_cons_self, true_and, false_or, false_and, hleft]
        · rw [hother x hxd, hcountOther x hxd, List.mem_cons]
          simp only [hxd, false_or]

/-! ## The graph of a plan -/

namespace PlanningDag

/-- The ids are unique and the dependencies name steps. -/
structure WellNamed (dag : PlanningDag) : Prop where
  nodup : dag.ids.Nodup
  known : ∀ step ∈ dag.steps, ∀ d ∈ step.dependencies, d ∈ dag.ids

variable {dag : PlanningDag} {step : PlanStep} {id d : StepId}

/-- The dependencies of a step. -/
def deps (dag : PlanningDag) (id : StepId) : List StepId :=
  ((dag.byId id).map PlanStep.dependencies).getD []

theorem byId_mem (h : dag.byId id = some step) : step ∈ dag.steps ∧ step.stepId = id := by
  have hmem := List.mem_of_find?_eq_some h
  have hid := List.find?_some h
  rw [decide_eq_true_eq] at hid
  exact ⟨List.mem_reverse.mp hmem, hid⟩

theorem byId_none (h : dag.byId id = none) : id ∉ dag.ids := by
  intro hid
  have ⟨step, hstep, hsame⟩ := List.mem_map.mp hid
  have hmiss := List.find?_eq_none.mp h step (List.mem_reverse.mpr hstep)
  exact hmiss (decide_eq_true hsame)

theorem byId_eq (hnodup : dag.ids.Nodup) (hstep : step ∈ dag.steps) :
    dag.byId step.stepId = some step := by
  cases hfound : dag.byId step.stepId with
  | none => exact absurd (List.mem_map_of_mem hstep) (byId_none hfound)
  | some other =>
      have ⟨hother, hid⟩ := byId_mem hfound
      rw [List.inj_on_of_nodup_map hnodup hother hstep hid]

theorem deps_eq (hnodup : dag.ids.Nodup) (hstep : step ∈ dag.steps) :
    dag.deps step.stepId = step.dependencies := by
  unfold deps
  rw [byId_eq hnodup hstep]
  rfl

theorem exists_step (hd : d ∈ dag.deps id) :
    ∃ step ∈ dag.steps, step.stepId = id ∧ d ∈ step.dependencies := by
  unfold deps at hd
  cases hfound : dag.byId id with
  | none =>
      rw [hfound] at hd
      cases hd
  | some step =>
      rw [hfound] at hd
      have ⟨hstep, hid⟩ := byId_mem hfound
      exact ⟨step, hstep, hid, hd⟩

/-- The dependency graph of a plan. -/
def graph (dag : PlanningDag) (h : dag.WellNamed) : DependencyGraph StepId where
  nodes := dag.ids
  deps := dag.deps
  nodup := h.nodup
  known := by
    intro id d hd
    have ⟨step, hstep, hid, hdeps⟩ := exists_step hd
    rw [← hid]
    exact ⟨List.mem_map_of_mem hstep, h.known step hstep d hdeps⟩

theorem indegree_eq (id : StepId) : dag.indegree id = ((dag.deps id).length : Int) := by
  unfold indegree deps
  cases dag.byId id <;> rfl

/-- A step is named among the dependents of another as often as it names it. -/
theorem count_dependents (hnodup : dag.ids.Nodup) (id d : StepId) :
    (dag.dependents d).count id = (dag.deps id).count d := by
  have hone : ∀ step : PlanStep,
      ((step.dependencies.filter (· = d)).map fun _ => step.stepId).count id =
        if step.stepId = id then step.dependencies.count d else 0 := by
    intro step
    rw [List.map_const', List.count_replicate]
    by_cases hid : step.stepId = id
    · rw [if_pos hid, if_pos (beq_iff_eq.mpr hid), List.count_eq_length_filter]
      congr 2
    · rw [if_neg hid, if_neg (fun h => hid (beq_iff_eq.mp h))]
  have hnone : ∀ steps : List PlanStep, id ∉ steps.map PlanStep.stepId →
      (steps.flatMap fun step =>
        (step.dependencies.filter (· = d)).map fun _ => step.stepId).count id = 0 := by
    intro steps hid
    rw [List.count_eq_zero]
    intro hmem
    have ⟨step, hstep, hx⟩ := List.mem_flatMap.mp hmem
    have ⟨_, _, hsame⟩ := List.mem_map.mp hx
    rw [← hsame] at hid
    exact hid (List.mem_map_of_mem hstep)
  have hall : ∀ steps : List PlanStep, (steps.map PlanStep.stepId).Nodup → ∀ step ∈ steps,
      step.stepId = id → (steps.flatMap fun step =>
        (step.dependencies.filter (· = d)).map fun _ => step.stepId).count id =
          step.dependencies.count d := by
    intro steps
    induction steps with
    | nil => exact fun _ _ hmem => absurd hmem List.not_mem_nil
    | cons first rest ih =>
        intro hdistinct step hstep hid
        rw [List.map_cons, List.nodup_cons] at hdistinct
        rw [List.flatMap_cons, List.count_append, hone]
        by_cases hfirst : first.stepId = id
        · have hlater : id ∉ rest.map PlanStep.stepId := by
            rw [← hfirst]
            exact hdistinct.1
          rw [if_pos hfirst, hnone rest hlater, Nat.add_zero]
          rw [List.mem_cons] at hstep
          rcases hstep with hsame | hmem
          · rw [hsame]
          · rw [← hid] at hlater
            exact absurd (List.mem_map_of_mem hmem) hlater
        · have hmem : step ∈ rest := by
            rw [List.mem_cons] at hstep
            refine hstep.resolve_left ?_
            intro hsame
            rw [hsame] at hid
            exact hfirst hid
          rw [if_neg hfirst, Nat.zero_add]
          exact ih hdistinct.2 step hmem hid
  unfold dependents
  by_cases hid : id ∈ dag.ids
  · have ⟨step, hstep, hsame⟩ := List.mem_map.mp hid
    rw [hall dag.steps hnodup step hstep hsame, ← hsame, deps_eq hnodup hstep]
  · rw [hnone dag.steps hid]
    unfold deps
    cases hfound : dag.byId id with
    | none => rfl
    | some step =>
        have ⟨hstep, hsame⟩ := byId_mem hfound
        rw [← hsame] at hid
        exact absurd (List.mem_map_of_mem hstep) hid

theorem mem_dependents (hnodup : dag.ids.Nodup) : id ∈ dag.dependents d ↔ d ∈ dag.deps id := by
  rw [← List.count_pos_iff, ← List.count_pos_iff, count_dependents hnodup]

/-! ## The loop -/

/-- What is left of a counter once the steps of `t` are placed. -/
def waiting (dag : PlanningDag) (t : List StepId) (id : StepId) : Int :=
  ((dag.deps id).countP fun d => d ∉ t : Nat)

variable (h : dag.WellNamed)

/-- Placing the least ready step lowers the counters of its dependents. -/
theorem relax_ready {t rest : List StepId} {current : StepId} (ht : (dag.graph h).Placed t)
    (hready : (dag.graph h).ready t = current :: rest) :
    (sortedIds (dag.dependents current)).foldl relax (dag.waiting t, rest) =
      (dag.waiting (t ++ [current]), (dag.graph h).ready (t ++ [current])) := by
  have hcurrent : current ∈ (dag.graph h).ready t := by
    rw [hready]
    exact List.mem_cons_self
  have ⟨hnode, hfresh, hdeps⟩ := DependencyGraph.mem_ready.mp hcurrent
  have hcounts : ∀ x, (sortedIds (dag.dependents current)).count x =
      (dag.deps x).count current := fun x => by
    rw [(sortedIds_perm _).count_eq, count_dependents h.nodup]
  have hmem : ∀ x, x ∈ sortedIds (dag.dependents current) ↔ current ∈ dag.deps x := fun x => by
    rw [(sortedIds_perm _).mem_iff, mem_dependents h.nodup]
  -- the dependencies that are left are the current step and those left after it
  have hsplit : ∀ l : List StepId, (l.countP fun d => d ∉ t) =
      l.count current + l.countP fun d => d ∉ t ++ [current] := by
    intro l
    induction l with
    | nil => rfl
    | cons d l ih =>
        have hplaced : d ∉ t ++ [current] ↔ d ∉ t ∧ d ≠ current := by
          rw [List.mem_append, List.mem_singleton, not_or]
        rw [List.countP_cons, List.countP_cons, List.count_cons, ih]
        by_cases hd : d = current
        · have hleft : ¬ d ∉ t ++ [current] := fun hout => (hplaced.mp hout).2 hd
          have hd' : d ∉ t := by
            rw [hd]
            exact hfresh
          rw [if_pos (decide_eq_true hd'), if_pos (beq_iff_eq.mpr hd),
            if_neg (fun hout => hleft (of_decide_eq_true hout))]
          omega
        · rw [if_neg (fun heq => hd (beq_iff_eq.mp heq))]
          by_cases hd' : d ∉ t
          · rw [if_pos (decide_eq_true hd'), if_pos (decide_eq_true (hplaced.mpr ⟨hd', hd⟩))]
            omega
          · rw [if_neg (fun hout => hd' (of_decide_eq_true hout)),
              if_neg (fun hout => hd' (hplaced.mp (of_decide_eq_true hout)).1)]
            omega
  have hnodup : (current :: rest).Nodup := by
    rw [← hready]
    exact DependencyGraph.ready_nodup
  have hsorted : (current :: rest).Pairwise (· ≤ ·) := by
    rw [← hready]
    exact DependencyGraph.ready_sorted
  have hrestMem : ∀ x, x ∈ rest ↔ x ∈ (dag.graph h).ready t ∧ x ≠ current := by
    intro x
    rw [hready, List.mem_cons]
    rw [List.nodup_cons] at hnodup
    constructor
    · intro hx
      refine ⟨.inr hx, ?_⟩
      intro hsame
      rw [hsame] at hx
      exact hnodup.1 hx
    · exact fun hx => hx.1.resolve_left hx.2
  have ⟨hvalues, hsorted', hnodup', hmem'⟩ := foldl_relax (sortedIds (dag.dependents current))
    (dag.waiting t) rest (List.pairwise_cons.mp hsorted).2 (List.nodup_cons.mp hnodup).2
    (by
      intro x _
      rw [hcounts, waiting, hsplit]
      omega)
    (by
      intro x hx hdependent
      rw [hmem] at hdependent
      have hxready := DependencyGraph.mem_ready.mp ((hrestMem x).mp hx).1
      exact hfresh (hxready.2.2 current hdependent))
  refine Prod.ext ?_ ?_
  · rw [hvalues]
    funext x
    show dag.waiting t x - _ = dag.waiting (t ++ [current]) x
    rw [hcounts, waiting, waiting, hsplit]
    omega
  · refine DependencyGraph.eq_ready hsorted' hnodup' ?_
    intro x
    rw [hmem', hrestMem, DependencyGraph.mem_ready, DependencyGraph.mem_ready, hmem, hcounts,
      waiting, hsplit]
    have hdone : ∀ d, d ∈ t ++ [current] ↔ d ∈ t ∨ d = current := by
      intro d
      rw [List.mem_append, List.mem_singleton]
    have hzero : (((dag.deps x).count current +
        (dag.deps x).countP fun d => d ∉ t ++ [current] : Nat) : Int) =
          ((dag.deps x).count current : Int) ↔ ∀ d ∈ dag.deps x, d ∈ t ++ [current] := by
      constructor
      · intro hsame d hd
        have hnone : ((dag.deps x).countP fun d => d ∉ t ++ [current]) = 0 := by omega
        rw [List.countP_eq_zero] at hnone
        by_contra hout
        exact hnone d hd (decide_eq_true hout)
      · intro hall
        have hnone : ((dag.deps x).countP fun d => d ∉ t ++ [current]) = 0 := by
          rw [List.countP_eq_zero]
          intro d hd hout
          exact of_decide_eq_true hout (hall d hd)
        omega
    rw [hzero]
    constructor
    · intro hx
      rcases hx with ⟨⟨hxnode, hxt, hxdeps⟩, hxc⟩ | ⟨hxc, hxall⟩
      · refine ⟨hxnode, ?_, ?_⟩
        · rw [hdone, not_or]
          exact ⟨hxt, hxc⟩
        · intro d hd
          exact (hdone d).mpr (.inl (hxdeps d hd))
      · refine ⟨((dag.graph h).known x current hxc).1, ?_, hxall⟩
        rw [hdone, not_or]
        constructor
        · intro hxt
          exact hfresh (ht.closed x hxt current hxc)
        · intro hsame
          rw [hsame] at hxc
          exact hfresh (hdeps current hxc)
    · intro ⟨hxnode, hxt, hxall⟩
      rw [hdone, not_or] at hxt
      by_cases hxc : current ∈ dag.deps x
      · exact .inr ⟨hxc, hxall⟩
      · refine .inl ⟨⟨hxnode, hxt.1, ?_⟩, hxt.2⟩
        intro d hd
        have hd' := (hdone d).mp (hxall d hd)
        refine hd'.resolve_right ?_
        intro hsame
        rw [hsame] at hd
        exact hxc hd

/-- The loop is the one of the graph. -/
theorem placeReady_eq (fuel : Nat) : ∀ t, (dag.graph h).Placed t →
    placeReady dag.dependents fuel (dag.waiting t, (dag.graph h).ready t) t =
      (dag.graph h).grow fuel t := by
  induction fuel with
  | zero => exact fun _ _ => rfl
  | succ fuel ih =>
      intro t ht
      rw [DependencyGraph.grow]
      cases hready : (dag.graph h).ready t with
      | nil => rw [placeReady]
      | cons current rest =>
          rw [placeReady, relax_ready h ht hready]
          exact ih _ (ht.ready_cons hready)

theorem topology_eq : dag.topology = (dag.graph h).grow dag.steps.length [] := by
  have hvalues : dag.indegree = dag.waiting [] := by
    funext id
    rw [indegree_eq, waiting]
    congr 1
    symm
    rw [List.countP_eq_length]
    intro d _
    exact decide_eq_true List.not_mem_nil
  have hready : sortedIds (dag.ids.filter fun id => dag.indegree id = 0) =
      (dag.graph h).ready [] := by
    refine DependencyGraph.eq_ready (sortedIds_sorted _) ?_ ?_
    · rw [(sortedIds_perm _).nodup_iff]
      exact h.nodup.filter _
    · intro x
      rw [(sortedIds_perm _).mem_iff, List.mem_filter, decide_eq_true_eq, indegree_eq,
        DependencyGraph.mem_ready]
      have hnil : ((dag.deps x).length : Int) = 0 ↔ ∀ d ∈ dag.deps x, d ∈ ([] : List StepId) := by
        constructor
        · intro hlength d hd
          have hempty := List.length_eq_zero_iff.mp (Int.natCast_eq_zero.mp hlength)
          rw [hempty] at hd
          exact hd
        · intro hall
          have hempty := List.eq_nil_iff_forall_not_mem.mpr fun d hd =>
            List.not_mem_nil (hall d hd)
          rw [hempty]
          rfl
      rw [hnil]
      exact ⟨fun hx => ⟨hx.1, List.not_mem_nil, hx.2⟩, fun hx => ⟨hx.1, hx.2.2⟩⟩
  unfold topology
  rw [hready, hvalues]
  exact placeReady_eq h _ _ .nil

end PlanningDag

end FlowPilot.Planning
