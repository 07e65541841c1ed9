import FlowPilot.Planning.DagOrder

/-!
# Exactness of plan validation

`validate_dag` accepts exactly the well-formed plans, and what it reports of an accepted plan is the
order, the depth and the width of its dependency graph.
-/

open FlowPilot.Lib

namespace FlowPilot.Planning

/-! ## Maxima -/

theorem le_foldl_max (l : List Nat) : ∀ b, b ≤ l.foldl max b ∧ ∀ a ∈ l, a ≤ l.foldl max b := by
  induction l with
  | nil => exact fun b => ⟨Nat.le_refl _, fun a ha => absurd ha List.not_mem_nil⟩
  | cons c l ih =>
      intro b
      have ⟨hbase, hmem⟩ := ih (max b c)
      rw [List.foldl_cons]
      refine ⟨by omega, ?_⟩
      intro a ha
      rw [List.mem_cons] at ha
      rcases ha with hsame | hlater
      · rw [hsame]
        omega
      · exact hmem a hlater

theorem foldl_max_mem (l : List Nat) : ∀ b, l.foldl max b = b ∨ l.foldl max b ∈ l := by
  induction l with
  | nil => exact fun b => .inl rfl
  | cons c l ih =>
      intro b
      rw [List.foldl_cons]
      rcases ih (max b c) with hbase | hmem
      · rw [hbase]
        by_cases hle : c ≤ b
        · exact .inl (Nat.max_eq_left hle)
        · refine .inr ?_
          rw [Nat.max_eq_right (by omega)]
          exact List.mem_cons_self
      · exact .inr (List.mem_cons_of_mem _ hmem)

/-- The largest number of a list that has a positive one. -/
theorem foldl_max_positive {l : List Nat} {a : Nat} (ha : a ∈ l) (hpositive : 0 < a) :
    l.foldl max 0 ∈ l := by
  have hle := (le_foldl_max l 0).2 a ha
  refine (foldl_max_mem l 0).resolve_left ?_
  omega

namespace PlanningDag

variable {dag : PlanningDag} (h : dag.WellNamed)

/-! ## Depths -/

/-- The depth of a step over those of its dependencies. -/
def depthOver (dag : PlanningDag) (depths : StepId → Nat) (id : StepId) : Nat :=
  if dag.deps id = [] then 1 else 1 + ((dag.deps id).map depths).foldl max 0

theorem depths_snoc (t : List StepId) (id : StepId) :
    dag.depths (t ++ [id]) =
      Function.update (dag.depths t) id (dag.depthOver (dag.depths t) id) := by
  unfold depths
  rw [List.foldl_append]
  rfl

/-- Every placed step has the depth over its dependencies. -/
theorem depths_placed {t : List StepId} (ht : (dag.graph h).Placed t) :
    ∀ id ∈ t, dag.depths t id = dag.depthOver (dag.depths t) id := by
  induction ht with
  | nil => exact fun id hid => absurd hid List.not_mem_nil
  | @snoc t x ht' _ hfresh hdeps ih =>
      intro id hid
      rw [depths_snoc]
      have hkept : ∀ d ∈ t, Function.update (dag.depths t) x (dag.depthOver (dag.depths t) x) d =
          dag.depths t d := by
        intro d hd
        refine Function.update_of_ne ?_ _ _
        intro hsame
        rw [hsame] at hd
        exact hfresh hd
      have hover : ∀ y, (∀ d ∈ dag.deps y, d ∈ t) →
          dag.depthOver (Function.update (dag.depths t) x (dag.depthOver (dag.depths t) x)) y =
            dag.depthOver (dag.depths t) y := by
        intro y hy
        unfold depthOver
        have hmap : (dag.deps y).map (Function.update (dag.depths t) x
            (dag.depthOver (dag.depths t) x)) = (dag.deps y).map (dag.depths t) :=
          List.map_congr_left fun d hd => hkept d (hy d hd)
        unfold depthOver at hmap
        rw [hmap]
      rw [List.mem_append, List.mem_singleton] at hid
      rcases hid with hearlier | hlast
      · rw [hkept id hearlier, hover id (ht'.closed id hearlier)]
        exact ih id hearlier
      · rw [hlast, hover x hdeps, Function.update_self]

/-- The depths of a complete order are levels. -/
theorem depths_ranked {t : List StepId} (ht : (dag.graph h).Placed t)
    (hall : ∀ id ∈ dag.ids, id ∈ t) : (dag.graph h).Ranked (dag.depths t) := by
  have hvalue := depths_placed h ht
  intro id hid
  have hdepth := hvalue id (hall id hid)
  unfold depthOver at hdepth
  by_cases hnone : dag.deps id = []
  · rw [if_pos hnone] at hdepth
    refine ⟨?_, .inl hdepth⟩
    intro d hd
    have hd' : d ∈ dag.deps id := hd
    rw [hnone] at hd'
    cases hd'
  · rw [if_neg hnone] at hdepth
    have hbound : ∀ d ∈ dag.deps id,
        dag.depths t d ≤ ((dag.deps id).map (dag.depths t)).foldl max 0 :=
      fun d hd => (le_foldl_max _ 0).2 _ (List.mem_map_of_mem hd)
    constructor
    · intro d hd
      have hle := hbound d hd
      omega
    · rcases foldl_max_mem ((dag.deps id).map (dag.depths t)) 0 with hzero | hmem
      · rw [hzero] at hdepth
        exact .inl hdepth
      · have ⟨d, hd, hvalue'⟩ := List.mem_map.mp hmem
        rw [← hvalue'] at hdepth
        refine .inr ⟨d, hd, ?_⟩
        omega

theorem topology_placed : (dag.graph h).Placed dag.topology := by
  rw [topology_eq h]
  exact DependencyGraph.Placed.nil.grow _

theorem topology_complete_iff :
    dag.topology.length = dag.steps.length ↔ (dag.graph h).Acyclic := by
  have hend : (dag.graph h).ready dag.topology = [] := by
    rw [topology_eq h]
    refine DependencyGraph.ready_grow .nil ?_
    show (dag.steps.map _).length ≤ _
    rw [List.length_map, List.length_nil]
    omega
  have hiff := DependencyGraph.complete_iff_acyclic (topology_placed h) hend
  rw [← hiff]
  show _ ↔ _ = (dag.steps.map _).length
  rw [List.length_map]

/-- The order of a plan without cycles lists its steps. -/
theorem topology_perm (hacyclic : (dag.graph h).Acyclic) : dag.topology.Perm dag.ids := by
  have hlength := (topology_complete_iff h).mpr hacyclic
  refine (topology_placed h).perm_nodes ?_
  rw [hlength]
  show _ = (dag.steps.map _).length
  rw [List.length_map]

section Measures

variable (hacyclic : (dag.graph h).Acyclic) (hsteps : dag.steps ≠ [])

include hacyclic

theorem topology_ranked : (dag.graph h).Ranked (dag.depths dag.topology) :=
  depths_ranked h (topology_placed h) fun _ hid => (topology_perm h hacyclic).mem_iff.mpr hid

include hsteps

theorem exists_topology : ∃ id, id ∈ dag.topology := by
  have hperm := topology_perm h hacyclic
  cases hlist : dag.steps with
  | nil => exact absurd hlist hsteps
  | cons step rest =>
      refine ⟨step.stepId, hperm.mem_iff.mpr (List.mem_map_of_mem ?_)⟩
      rw [hlist]
      exact List.mem_cons_self

theorem depth_spec : (dag.graph h).Depth dag.depth := by
  have hperm := topology_perm h hacyclic
  have hranked := topology_ranked h hacyclic
  have ⟨id, hid⟩ := exists_topology h hacyclic hsteps
  refine hranked.depth ?_ ?_
  · have hmem := foldl_max_positive (List.mem_map_of_mem (f := dag.depths dag.topology) hid)
      (hranked.pos (hperm.mem_iff.mp hid))
    have ⟨x, hx, hvalue⟩ := List.mem_map.mp hmem
    exact ⟨x, hperm.mem_iff.mp hx, hvalue⟩
  · intro x hx
    exact (le_foldl_max _ 0).2 _ (List.mem_map_of_mem (hperm.mem_iff.mpr hx))

theorem width_spec : (dag.graph h).Width dag.width := by
  have hperm := topology_perm h hacyclic
  have ⟨id, hid⟩ := exists_topology h hacyclic hsteps
  -- the count of a depth is the number of the steps that have it
  have hcount : ∀ n, (dag.topology.map (dag.depths dag.topology)).count n =
      ((dag.graph h).nodes.filter fun x => dag.depths dag.topology x = n).length := by
    intro n
    rw [List.count_eq_countP, List.countP_map, List.countP_eq_length_filter]
    refine ((hperm.filter _).length_eq).trans ?_
    congr 2
  refine (topology_ranked h hacyclic).width ?_ ?_
  · have hvalue : dag.depths dag.topology id ∈ dag.topology.map (dag.depths dag.topology) :=
      List.mem_map_of_mem hid
    have hmem := foldl_max_positive (List.mem_map_of_mem
      (f := fun value => (dag.topology.map (dag.depths dag.topology)).count value) hvalue)
      (List.count_pos_iff.mpr hvalue)
    have ⟨n, _, hn⟩ := List.mem_map.mp hmem
    exact ⟨n, by rw [← hcount]; exact hn⟩
  · intro n
    rw [← hcount]
    by_cases hn : n ∈ dag.topology.map (dag.depths dag.topology)
    · exact (le_foldl_max _ 0).2 _ (List.mem_map_of_mem
        (f := fun value => (dag.topology.map (dag.depths dag.topology)).count value) hn)
    · rw [List.count_eq_zero_of_not_mem hn]
      exact Nat.zero_le _

end Measures

/-! ## Reachability -/

/-- The counts of distinct ids in a list. -/
theorem sum_count_le {ids : List StepId} (hids : ids.Nodup) : ∀ l : List StepId,
    (ids.map fun x => l.count x).sum ≤ l.length := by
  induction ids with
  | nil => exact fun l => Nat.zero_le _
  | cons x ids ih =>
      intro l
      rw [List.nodup_cons] at hids
      -- the occurrences of `x` are counted once, the others by the later ids
      have hrest : (ids.map fun y => l.count y) = ids.map fun y => (l.filter (· ≠ x)).count y := by
        refine List.map_congr_left ?_
        intro y hy
        have hyx : y ≠ x := by
          intro hsame
          rw [hsame] at hy
          exact hids.1 hy
        exact (List.count_filter (p := fun z => decide (z ≠ x)) (decide_eq_true hyx)).symm
      have hle := ih hids.2 (l.filter (· ≠ x))
      have hsplit : l.count x + (l.filter (· ≠ x)).length = l.length := by
        have htotal := List.length_eq_countP_add_countP (fun y => y == x) (l := l)
        rw [List.countP_eq_length_filter (p := fun a => decide ¬(a == x) = true)] at htotal
        have hsame : (fun y => decide (y ≠ x)) = fun a => decide ¬(a == x) = true := by
          funext a
          simp
        rw [List.count, hsame]
        exact htotal.symm
      rw [List.map_cons, List.sum_cons, hrest]
      omega

theorem sum_dependents_le (hids : dag.ids.Nodup) :
    (dag.ids.map fun id => (dag.dependents id).length).sum ≤ dag.edgeCount := by
  have hall : ∀ steps : List PlanStep,
      (dag.ids.map fun id => (steps.flatMap fun step =>
        (step.dependencies.filter (· = id)).map fun _ => step.stepId).length).sum ≤
        (steps.map fun step => step.dependencies.length).sum := by
    intro steps
    induction steps with
    | nil => simp
    | cons step rest ih =>
        have hstep := sum_count_le hids step.dependencies
        simp only [List.flatMap_cons, List.length_append, List.length_map, List.sum_map_add,
          List.map_cons, List.sum_cons]
        have hcount : (dag.ids.map fun id => (step.dependencies.filter (· = id)).length) =
            dag.ids.map fun id => step.dependencies.count id := by
          refine List.map_congr_left ?_
          intro id _
          rw [List.count_eq_length_filter]
          congr 2
        rw [hcount]
        omega
  exact hall dag.steps

theorem mem_roots {id : StepId} :
    id ∈ dag.roots ↔ ∃ step ∈ dag.steps, step.dependencies = [] ∧ step.stepId = id := by
  unfold roots
  rw [List.mem_map]
  simp only [List.mem_filter, decide_eq_true_eq, and_assoc]

include h in
/-- From the one root of a plan without cycles every step is reached. -/
theorem seen_perm (hroots : dag.roots.length = 1) (hacyclic : (dag.graph h).Acyclic) :
    dag.seen.Perm dag.ids := by
  have hnext : ∀ d, ∀ id ∈ dag.dependents d, id ∈ dag.ids := fun d id hid =>
    ((dag.graph h).known id d ((mem_dependents h.nodup).mp hid)).1
  have hstart : ∀ id ∈ dag.roots, id ∈ dag.ids := by
    intro id hid
    have ⟨step, hstep, _, hsame⟩ := mem_roots.mp hid
    rw [← hsame]
    exact List.mem_map_of_mem hstep
  have hwork : workLeft dag.dependents dag.ids dag.roots [] ≤ dag.edgeCount + 1 := by
    have hsum := sum_dependents_le h.nodup
    have hnone : dag.ids.filter (fun x => x ∉ ([] : List StepId)) = dag.ids :=
      List.filter_eq_self.mpr fun x _ => decide_eq_true List.not_mem_nil
    unfold workLeft
    rw [hnone, hroots]
    omega
  have ⟨hnodup, hmem⟩ := mem_explore (fun _ => false) h.nodup hnext (dag.edgeCount + 1)
    dag.roots [] (exploring_start dag.roots) hstart hwork
  refine (List.perm_ext_iff_of_nodup hnodup h.nodup).mpr ?_
  intro id
  constructor
  · intro hid
    have ⟨root, hroot, _, hreach⟩ := (hmem id).mp hid
    cases hreach with
    | refl => exact hstart id hroot
    | tail _ hlast => exact hnext _ id hlast.1
  · -- a step that is not reached and depends on no other such step is a root
    intro hid
    by_contra hmissed
    have ⟨x, hx, hout, hdeps⟩ := hacyclic.exists_minimal (S := fun x => x ∉ dag.seen)
      ⟨id, hid, hmissed⟩
    have ⟨step, hstep, hsame⟩ := List.mem_map.mp hx
    have hx' : dag.deps x = step.dependencies := by
      rw [← hsame]
      exact deps_eq h.nodup hstep
    refine hout ((hmem x).mpr ?_)
    cases hlist : step.dependencies with
    | nil => exact ⟨x, mem_roots.mpr ⟨step, hstep, hlist, hsame⟩, rfl, .refl⟩
    | cons d rest =>
        have hd : d ∈ dag.deps x := by
          rw [hx', hlist]
          exact List.mem_cons_self
        have ⟨root, hroot, hskip, hreach⟩ := (hmem d).mp (not_not.mp (hdeps d hd))
        exact ⟨root, hroot, hskip, hreach.tail ⟨(mem_dependents h.nodup).mpr hd, rfl⟩⟩

end PlanningDag

/-! ## Reasons -/

theorem ite_reason_nil {p : Prop} [Decidable p] {reason : PlanValidationReason} :
    (if p then [reason] else []) = [] ↔ ¬ p := by
  by_cases hp : p
  · simp [hp]
  · simp [hp]

theorem ite_reason_nil' {p : Prop} [Decidable p] {reason : PlanValidationReason} :
    (if p then [] else [reason]) = [] ↔ p := by
  by_cases hp : p
  · simp [hp]
  · simp [hp]

theorem sameActions_iff {a b : List AllowedAction} :
    sameActions a b = true ↔ ∀ action, action ∈ a ↔ action ∈ b := by
  unfold sameActions
  rw [Bool.and_eq_true, List.all_eq_true, List.all_eq_true]
  simp only [decide_eq_true_eq]
  exact ⟨fun hboth x => ⟨hboth.1 x, hboth.2 x⟩,
    fun hall => ⟨fun x => (hall x).mp, fun x => (hall x).mpr⟩⟩

theorem stepReasons_nil {dag : PlanningDag} {step : PlanStep} :
    stepReasons dag step = [] ↔
      step.dependencies.length ≤ maxDependencies ∧ step.stepId ∉ step.dependencies ∧
      (∀ d ∈ step.dependencies, d ∈ dag.ids) ∧
      step.expectedPage = (operationContract step.operation).1 ∧
      ∀ action, action ∈ step.allowedActions ↔ action ∈ (operationContract step.operation).2 := by
  have hknown : ¬ (step.dependencies.any fun d => d ∉ dag.ids) = true ↔
      ∀ d ∈ step.dependencies, d ∈ dag.ids := by
    simp
  unfold stepReasons
  simp only [List.append_eq_nil_iff, ite_reason_nil, ite_reason_nil', hknown, sameActions_iff,
    Nat.not_lt, not_not, and_assoc]

theorem localReasons_nil {dag : PlanningDag} :
    localReasons dag = [] ↔
      dag.ids.Nodup ∧ dag.steps.length ≤ maxNodes ∧ dag.edgeCount ≤ maxEdges ∧
      (canonicalDagBytes dag).length ≤ maxSerializedBytes ∧
      (∀ step ∈ dag.steps, stepReasons dag step = []) ∧ dag.roots.length = 1 := by
  unfold localReasons
  simp only [List.append_eq_nil_iff, ite_reason_nil, ite_reason_nil', List.flatMap_eq_nil_iff,
    Nat.not_lt, not_not, and_assoc, ne_eq]

theorem orderable_iff {dag : PlanningDag} : orderable dag = true ↔ dag.WellNamed := by
  have hduplicate : PlanValidationReason.duplicateStepId ∉ localReasons dag ↔ dag.ids.Nodup := by
    unfold localReasons stepReasons
    simp
  have hunknown : PlanValidationReason.unknownDependency ∉ localReasons dag ↔
      ∀ step ∈ dag.steps, ∀ d ∈ step.dependencies, d ∈ dag.ids := by
    unfold localReasons stepReasons
    simp
  unfold orderable
  rw [decide_eq_true_eq, hduplicate, hunknown]
  exact ⟨fun hboth => ⟨hboth.1, hboth.2⟩, fun hnamed => ⟨hnamed.nodup, hnamed.known⟩⟩

theorem eraseDups_nil {α : Type} [BEq α] [LawfulBEq α] {l : List α} :
    l.eraseDups = [] ↔ l = [] := by
  cases l with
  | nil => exact ⟨fun _ => rfl, fun _ => rfl⟩
  | cons a l => simp [List.eraseDups_cons]

/-! ## Exactness -/

namespace PlanningDag

/-- A plan whose dependency graph is a graph of its steps, and within the limits. -/
structure WellFormed (dag : PlanningDag) : Prop where
  named : dag.WellNamed
  root : ∃! step, step ∈ dag.steps ∧ step.dependencies = []
  acyclic : (dag.graph named).Acyclic
  nodes : dag.steps.length ≤ maxNodes
  edges : dag.edgeCount ≤ maxEdges
  fanIn : ∀ step ∈ dag.steps, step.dependencies.length ≤ maxDependencies
  bytes : (canonicalDagBytes dag).length ≤ maxSerializedBytes
  depth : ∀ n id, (dag.graph named).Path n id → n ≤ maxDepth
  width : ∀ n ids, (dag.graph named).OnLevel n ids → ids.length ≤ maxWidth
  page : ∀ step ∈ dag.steps, step.expectedPage = (operationContract step.operation).1
  actions : ∀ step ∈ dag.steps, ∀ action,
    action ∈ step.allowedActions ↔ action ∈ (operationContract step.operation).2

variable {dag : PlanningDag}

/-- One step of a plan with unique ids is a root exactly if one id is listed among the roots. -/
theorem roots_one (hnodup : dag.ids.Nodup) :
    dag.roots.length = 1 ↔ ∃! step, step ∈ dag.steps ∧ step.dependencies = [] := by
  have hsteps : dag.steps.Nodup := List.Nodup.of_map _ hnodup
  have hmem : ∀ step, step ∈ (dag.steps.filter fun step => step.dependencies = []) ↔
      step ∈ dag.steps ∧ step.dependencies = [] := fun step => by
    rw [List.mem_filter, decide_eq_true_eq]
  unfold roots
  rw [List.length_map, List.length_eq_one_iff]
  constructor
  · intro ⟨step, hone⟩
    refine ⟨step, ?_, ?_⟩
    · show step ∈ dag.steps ∧ step.dependencies = []
      rw [← hmem, hone]
      exact List.mem_singleton_self step
    · intro other hother
      rw [← hmem, hone, List.mem_singleton] at hother
      exact hother
  · intro ⟨step, hstep, honly⟩
    refine ⟨step, List.perm_singleton.mp ?_⟩
    refine (List.perm_ext_iff_of_nodup (hsteps.filter _) (List.nodup_singleton step)).mpr ?_
    intro other
    rw [hmem, List.mem_singleton]
    constructor
    · exact honly other
    · intro hsame
      rw [hsame]
      exact hstep

theorem WellFormed.orderable (hformed : dag.WellFormed) : orderable dag = true :=
  orderable_iff.mpr hformed.named

theorem WellFormed.nonempty (hformed : dag.WellFormed) : dag.steps ≠ [] := by
  have ⟨step, ⟨hstep, _⟩, _⟩ := hformed.root
  exact List.ne_nil_of_mem hstep

theorem WellFormed.completeOrder (hformed : dag.WellFormed) : completeOrder dag = true := by
  unfold FlowPilot.Planning.completeOrder
  rw [hformed.orderable, Bool.true_and, decide_eq_true_eq]
  exact (topology_complete_iff hformed.named).mpr hformed.acyclic

/-- No reason is found in a well-formed plan. -/
theorem WellFormed.reasonCodes (hformed : dag.WellFormed) : reasonCodes dag = [] := by
  have hroots := (roots_one hformed.named.nodup).mpr hformed.root
  have hlocal : localReasons dag = [] := by
    rw [localReasons_nil]
    refine ⟨hformed.named.nodup, hformed.nodes, hformed.edges, hformed.bytes, ?_, hroots⟩
    intro step hstep
    rw [stepReasons_nil]
    refine ⟨hformed.fanIn step hstep, ?_, hformed.named.known step hstep, hformed.page step hstep,
      hformed.actions step hstep⟩
    intro hself
    refine hformed.acyclic step.stepId (.single ?_)
    show step.stepId ∈ dag.deps step.stepId
    rw [deps_eq hformed.named.nodup hstep]
    exact hself
  have horder : orderReasons dag = [] := by
    have ⟨⟨id, hpath⟩, _⟩ := depth_spec hformed.named hformed.acyclic hformed.nonempty
    have ⟨⟨n, ids, hlevel, hlength⟩, _⟩ := width_spec hformed.named hformed.acyclic hformed.nonempty
    have hdepth := hformed.depth _ id hpath
    have hwidth := hformed.width n ids hlevel
    unfold orderReasons
    rw [if_pos hformed.orderable, if_pos hformed.completeOrder, List.append_eq_nil_iff,
      ite_reason_nil, ite_reason_nil]
    omega
  have hreach : reachReasons dag = [] := by
    have hlength := (seen_perm hformed.named hroots hformed.acyclic).length_eq
    unfold ids at hlength
    rw [List.length_map] at hlength
    unfold reachReasons
    split
    · rw [ite_reason_nil]
      exact fun hne => hne hlength
    · rfl
  unfold FlowPilot.Planning.reasonCodes
  rw [hlocal, horder, hreach]
  rfl

/-- A plan in which no reason is found is well-formed. -/
theorem wellFormed_of_reasonCodes (hnone : FlowPilot.Planning.reasonCodes dag = []) :
    dag.WellFormed := by
  unfold FlowPilot.Planning.reasonCodes at hnone
  rw [eraseDups_nil, List.append_eq_nil_iff, List.append_eq_nil_iff] at hnone
  have ⟨⟨hlocal, horder⟩, _⟩ := hnone
  have ⟨hnodup, hnodes, hedges, hbytes, hsteps, hroots⟩ := localReasons_nil.mp hlocal
  have hstep := fun step hmem => stepReasons_nil.mp (hsteps step hmem)
  have hnamed : dag.WellNamed := ⟨hnodup, fun step hmem => (hstep step hmem).2.2.1⟩
  have hroot := (roots_one hnodup).mp hroots
  have hnonempty : dag.steps ≠ [] := by
    have ⟨step, ⟨hmem, _⟩, _⟩ := hroot
    exact List.ne_nil_of_mem hmem
  have horderable := orderable_iff.mpr hnamed
  unfold orderReasons at horder
  rw [if_pos horderable] at horder
  by_cases hcomplete : FlowPilot.Planning.completeOrder dag = true
  · rw [if_pos hcomplete, List.append_eq_nil_iff, ite_reason_nil, ite_reason_nil] at horder
    unfold FlowPilot.Planning.completeOrder at hcomplete
    rw [horderable, Bool.true_and, decide_eq_true_eq] at hcomplete
    have hacyclic := (topology_complete_iff hnamed).mp hcomplete
    have hdepth := depth_spec hnamed hacyclic hnonempty
    have hwidth := width_spec hnamed hacyclic hnonempty
    constructor
    · exact hroot
    · exact hacyclic
    · exact hnodes
    · exact hedges
    · exact fun step hmem => (hstep step hmem).1
    · exact hbytes
    · intro n id hpath
      have hle := hdepth.2 ⟨id, hpath⟩
      omega
    · intro n ids hlevel
      have hle := hwidth.2 ⟨n, ids, hlevel, rfl⟩
      omega
    · exact fun step hmem => (hstep step hmem).2.2.2.1
    · exact fun step hmem => (hstep step hmem).2.2.2.2
  · rw [if_neg hcomplete] at horder
    cases horder

theorem reasonCodes_nil : FlowPilot.Planning.reasonCodes dag = [] ↔ dag.WellFormed :=
  ⟨wellFormed_of_reasonCodes, WellFormed.reasonCodes⟩

/-! ## Permuted plans -/

/-- The plan with its steps in another order. -/
def reorder (dag : PlanningDag) (steps : List PlanStep) : PlanningDag := { dag with steps := steps }

theorem asciiItems_eq_map (items : List Json) : asciiItems items = items.map asciiBytes := by
  induction items with
  | nil => rw [asciiItems, List.map_nil]
  | cons item rest ih => rw [asciiItems, ih, List.map_cons]

theorem asciiFields_eq_map (fields : List (String × Json)) : asciiFields fields =
    fields.map fun f => (utf8 f.1, asciiText f.1 ++ 58 :: asciiBytes f.2) := by
  induction fields with
  | nil => rw [asciiFields, List.map_nil]
  | cons f rest ih => rw [asciiFields, ih, List.map_cons]

/-- The length of an array only depends on the lengths of its items. -/
theorem length_asciiBytes_arr {items items' : List Json} (hperm : items.Perm items') :
    (asciiBytes (.arr items)).length = (asciiBytes (.arr items')).length := by
  rw [asciiBytes, asciiBytes, asciiItems_eq_map, asciiItems_eq_map]
  have hsum := ((hperm.map asciiBytes).map fun item => item.length + 1).sum_eq
  by_cases hnone : items = []
  · rw [hnone] at hperm ⊢
    rw [hperm.nil_eq]
  · have hnone' : items' ≠ [] := by
      intro hnil
      rw [hnil] at hperm
      exact hnone hperm.eq_nil
    have hlength :=
      commaJoin_length_succ (mt List.map_eq_nil_iff.mp hnone : items.map asciiBytes ≠ [])
    have hlength' :=
      commaJoin_length_succ (mt List.map_eq_nil_iff.mp hnone' : items'.map asciiBytes ≠ [])
    simp only [List.length_cons, List.length_append]
    omega

/-- The length of an object only depends on the lengths of its values. -/
theorem length_asciiBytes_obj (fields : List (String × Json)) (hsome : fields ≠ []) :
    (asciiBytes (.obj fields)).length =
      (fields.map fun f => (asciiText f.1).length + (asciiBytes f.2).length + 2).sum + 1 := by
  rw [asciiBytes, asciiFields_eq_map]
  let written := fields.map fun f => (utf8 f.1, asciiText f.1 ++ 58 :: asciiBytes f.2)
  have hperm : (sortFields written).Perm written := List.perm_insertionSort _ written
  have hsome' : (sortFields written).map (·.2) ≠ [] := by
    intro hnil
    have hlength := hperm.length_eq
    rw [List.map_eq_nil_iff.mp hnil, List.length_nil] at hlength
    refine hsome (List.length_eq_zero_iff.mp ?_)
    rw [hlength]
    exact (List.length_map _).symm
  have hjoin := commaJoin_length_succ hsome'
  have hsum := ((hperm.map (·.2)).map fun item => item.length + 1).sum_eq
  have hwritten : ((written.map (·.2)).map fun item => item.length + 1) =
      fields.map fun f => (asciiText f.1).length + (asciiBytes f.2).length + 2 := by
    rw [List.map_map, List.map_map]
    refine List.map_congr_left ?_
    intro f _
    show (asciiText f.1 ++ 58 :: asciiBytes f.2).length + 1 = _
    rw [List.length_append, List.length_cons]
    omega
  rw [hwritten] at hsum
  rw [← hsum, ← hjoin]
  simp only [List.length_cons, List.length_append, List.length_nil]
  rfl

variable {steps : List PlanStep}

theorem length_canonicalDagBytes_reorder (hperm : steps.Perm dag.steps) :
    (canonicalDagBytes (dag.reorder steps)).length = (canonicalDagBytes dag).length := by
  have hsteps : (asciiBytes (.arr (steps.map PlanStep.modelDump))).length =
      (asciiBytes (.arr (dag.steps.map PlanStep.modelDump))).length :=
    length_asciiBytes_arr (hperm.map _)
  unfold canonicalDagBytes modelDump reorder
  rw [length_asciiBytes_obj _ (List.cons_ne_nil _ _),
    length_asciiBytes_obj _ (List.cons_ne_nil _ _)]
  simp only [List.map_cons, List.map_nil]
  rw [hsteps]

theorem WellNamed.reorder (h : dag.WellNamed) (hperm : steps.Perm dag.steps) :
    (dag.reorder steps).WellNamed := by
  have hids : (dag.reorder steps).ids.Perm dag.ids := hperm.map _
  refine ⟨hids.nodup_iff.mpr h.nodup, ?_⟩
  intro step hstep d hd
  exact hids.mem_iff.mpr (h.known step (hperm.mem_iff.mp hstep) d hd)

/-- A step has the same dependencies wherever it stands. -/
theorem deps_reorder (h : dag.WellNamed) (hperm : steps.Perm dag.steps) (id : StepId) :
    (dag.reorder steps).deps id = dag.deps id := by
  have hids : (dag.reorder steps).ids.Perm dag.ids := hperm.map _
  by_cases hid : id ∈ dag.ids
  · have ⟨step, hstep, hsame⟩ := List.mem_map.mp hid
    have hstep' : step ∈ (dag.reorder steps).steps := hperm.mem_iff.mpr hstep
    rw [← hsame, deps_eq h.nodup hstep, deps_eq (h.reorder hperm).nodup hstep']
  · have hnone : ∀ other : PlanningDag, id ∉ other.ids → other.deps id = [] := by
      intro other hout
      unfold deps
      cases hfound : other.byId id with
      | none => rfl
      | some step =>
          have ⟨hstep, hsame⟩ := byId_mem hfound
          rw [← hsame] at hout
          exact absurd (List.mem_map_of_mem hstep) hout
    rw [hnone dag hid, hnone _ (mt hids.mem_iff.mp hid)]

theorem renames_reorder (h : dag.WellNamed) (hperm : steps.Perm dag.steps) :
    DependencyGraph.Renames (dag.graph h) ((dag.reorder steps).graph (h.reorder hperm)) id := by
  have hids : (dag.reorder steps).ids.Perm dag.ids := hperm.map _
  constructor
  · exact fun x _ y _ hsame => hsame
  · intro y
    show y ∈ (dag.reorder steps).ids ↔ ∃ x ∈ dag.ids, x = y
    rw [hids.mem_iff, exists_eq_right]
  · intro x _ e
    show e ∈ (dag.reorder steps).deps x ↔ ∃ d ∈ dag.deps x, d = e
    rw [deps_reorder h hperm, exists_eq_right]

/-- A plan stays well-formed in any order of its steps. -/
theorem WellFormed.reorder (hformed : dag.WellFormed) (hperm : steps.Perm dag.steps) :
    (dag.reorder steps).WellFormed := by
  have hrenames := renames_reorder hformed.named hperm
  have hmem : ∀ step, step ∈ (dag.reorder steps).steps → step ∈ dag.steps :=
    fun _ hstep => hperm.mem_iff.mp hstep
  constructor
  · have ⟨step, ⟨hstep, hroot⟩, honly⟩ := hformed.root
    refine ⟨step, ⟨hperm.mem_iff.mpr hstep, hroot⟩, ?_⟩
    exact fun other hother => honly other ⟨hmem other hother.1, hother.2⟩
  · exact hrenames.acyclic hformed.acyclic
  · show steps.length ≤ maxNodes
    rw [hperm.length_eq]
    exact hformed.nodes
  · have hsum := (hperm.map fun step => step.dependencies.length).sum_eq
    show (steps.map fun step => step.dependencies.length).sum ≤ maxEdges
    rw [hsum]
    exact hformed.edges
  · exact fun step hstep => hformed.fanIn step (hmem step hstep)
  · rw [length_canonicalDagBytes_reorder hperm]
    exact hformed.bytes
  · exact hrenames.path_le hformed.depth
  · exact hrenames.onLevel_le hformed.width
  · exact fun step hstep => hformed.page step (hmem step hstep)
  · exact fun step hstep => hformed.actions step (hmem step hstep)

theorem topology_reorder (h : dag.WellNamed) (hperm : steps.Perm dag.steps) :
    (dag.reorder steps).topology = dag.topology := by
  rw [topology_eq h, topology_eq (h.reorder hperm)]
  show DependencyGraph.grow _ steps.length [] = _
  rw [hperm.length_eq]
  refine DependencyGraph.grow_congr (hperm.map _) ?_ _ _
  intro x d
  show d ∈ (dag.reorder steps).deps x ↔ d ∈ dag.deps x
  rw [deps_reorder h hperm]

end PlanningDag

open PlanningDag

theorem validateDag_valid [Sha256] {dag : PlanningDag} :
    (∃ result, validateDag dag = some result ∧ result.valid = true) ↔ dag.WellFormed := by
  rw [← reasonCodes_nil]
  unfold validateDag
  constructor
  · intro ⟨result, hresult, hvalid⟩
    split at hresult
    · cases hresult
    · cases hresult
      exact of_decide_eq_true hvalid
  · intro hnone
    have hnodes := (reasonCodes_nil.mp hnone).nodes
    rw [if_neg (by unfold maxNodes at hnodes; omega)]
    exact ⟨_, rfl, decide_eq_true hnone⟩

/-- What is reported of a well-formed plan. -/
theorem validateDag_reports [Sha256] {dag : PlanningDag} {result : PlanValidationResult}
    (hformed : dag.WellFormed) (hresult : validateDag dag = some result) :
    result.topology = dag.topology ∧ result.depth = dag.depth ∧ result.width = dag.width := by
  unfold validateDag at hresult
  split at hresult
  · cases hresult
  · cases hresult
    dsimp only
    rw [if_pos hformed.reasonCodes, if_pos hformed.completeOrder, if_pos hformed.completeOrder]
    exact ⟨rfl, rfl, rfl⟩

/-- `validate_dag` accepts exactly the well-formed plans, and reports of them an order of the steps
that does not depend on how they are listed, with the depth and the width of the graph. -/
theorem validation_exact [Sha256] (dag : PlanningDag) :
    ((∃ result, validateDag dag = some result ∧ result.valid = true) ↔ dag.WellFormed) ∧
    ∀ result, validateDag dag = some result → result.valid = true →
      result.topology.Perm dag.ids ∧ result.topology.Nodup ∧
      (∀ earlier later, ∀ step ∈ dag.steps, result.topology = earlier ++ step.stepId :: later →
        ∀ d ∈ step.dependencies, d ∈ earlier) ∧
      (∀ steps, steps.Perm dag.steps → ∃ result', validateDag (dag.reorder steps) = some result' ∧
        result'.valid = true ∧ result'.topology = result.topology) ∧
      ∃ h : dag.WellNamed, (dag.graph h).Depth result.depth ∧ (dag.graph h).Width result.width := by
  refine ⟨validateDag_valid, ?_⟩
  intro result hresult hvalid
  have hformed := validateDag_valid.mp ⟨result, hresult, hvalid⟩
  have ⟨htopology, hdepth, hwidth⟩ := validateDag_reports hformed hresult
  have hperm := topology_perm hformed.named hformed.acyclic
  rw [htopology, hdepth, hwidth]
  refine ⟨hperm, hperm.nodup_iff.mpr hformed.named.nodup, ?_, ?_, hformed.named, ?_, ?_⟩
  · intro earlier later step hstep hsplit d hd
    refine (topology_placed hformed.named).split hsplit d ?_
    show d ∈ dag.deps step.stepId
    rw [deps_eq hformed.named.nodup hstep]
    exact hd
  · intro steps hsteps
    have hformed' := hformed.reorder hsteps
    have ⟨result', hresult', hvalid'⟩ := validateDag_valid.mpr hformed'
    have ⟨htopology', _, _⟩ := validateDag_reports hformed' hresult'
    refine ⟨result', hresult', hvalid', ?_⟩
    rw [htopology', topology_reorder hformed.named hsteps]
  · exact depth_spec hformed.named hformed.acyclic hformed.nonempty
  · exact width_spec hformed.named hformed.acyclic hformed.nonempty

/-! ## A short plan -/

def inspectStep : PlanStep where
  stepId := ⟨"inspect", by decide⟩
  objective := "Read the record of the employee."
  dependencies := []
  operation := .inspectEmployee
  expectedPage := .hris
  requiredContext := [.humanBrief]
  allowedActions := [.navigate, .read]
  preconditions := [.dependenciesVerified]
  postconditions := [.actionSucceeded]
  riskLevel := .low
  fallback := .stop

def finalizeStep : PlanStep :=
  { inspectStep with
    stepId := ⟨"finalize", by decide⟩
    dependencies := [inspectStep.stepId]
    operation := .finalize
    allowedActions := [.navigate, .read, .finish] }

def shortPlan : PlanningDag where
  process := .joiner
  category := .joiner
  steps := [inspectStep, finalizeStep]

theorem shortPlan_wellFormed : shortPlan.WellFormed := reasonCodes_nil.mp (by decide +kernel)

example : shortPlan.topology = [inspectStep.stepId, finalizeStep.stepId] := by decide +kernel

/-! ## Two steps side by side -/

def ticketStep : PlanStep :=
  { inspectStep with
    stepId := ⟨"ticket", by decide⟩
    dependencies := [inspectStep.stepId]
    operation := .mutation .createTicket
    expectedPage := .itsm
    allowedActions := [.navigate, .fill, .click] }

def accountStep : PlanStep :=
  { ticketStep with
    stepId := ⟨"account", by decide⟩
    operation := .mutation .createAccount
    expectedPage := .iam }

/-- The ticket and the account are created in any order before the end. -/
def diamondPlan : PlanningDag where
  process := .joiner
  category := .joiner
  steps := [
    inspectStep,
    ticketStep,
    accountStep,
    { finalizeStep with dependencies := [ticketStep.stepId, accountStep.stepId] }]

theorem diamondPlan_wellFormed : diamondPlan.WellFormed := reasonCodes_nil.mp (by decide +kernel)

section

attribute [local instance] polynomialSha256

/-- The plan has three levels, and its order is that of the reversed list too. -/
theorem validation_exact_diamondPlan :
    ∃ result, validateDag diamondPlan = some result ∧ result.valid = true ∧
      result.topology.Perm diamondPlan.ids ∧
      (∃ result', validateDag (diamondPlan.reorder diamondPlan.steps.reverse) = some result' ∧
        result'.topology = result.topology) ∧
      ∃ h : diamondPlan.WellNamed,
        (diamondPlan.graph h).Depth 3 ∧ (diamondPlan.graph h).Width 2 := by
  have ⟨haccepts, hreports⟩ := validation_exact diamondPlan
  have ⟨result, hresult, hvalid⟩ := haccepts.mpr diamondPlan_wellFormed
  have ⟨hperm, _, _, hreorder, h, hdepth, hwidth⟩ := hreports result hresult hvalid
  have ⟨result', hresult', _, hsame⟩ := hreorder _ (List.reverse_perm _)
  have ⟨_, hdepth', hwidth'⟩ := validateDag_reports diamondPlan_wellFormed hresult
  have hthree : diamondPlan.depth = 3 := by decide +kernel
  have htwo : diamondPlan.width = 2 := by decide +kernel
  rw [hdepth', hthree] at hdepth
  rw [hwidth', htwo] at hwidth
  exact ⟨result, hresult, hvalid, hperm, ⟨result', hresult', hsame⟩, h, hdepth, hwidth⟩

end

end FlowPilot.Planning
