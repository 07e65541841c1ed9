import FlowPilot.Planning.DagExact

/-!
# Partial replans

`partial_replan` of `replan.py`: a failed step and the steps that follow it are replaced by renamed
copies.  The dependency graph of the new plan is the old one with these steps renamed.
-/

open FlowPilot.Lib Relation

namespace FlowPilot.Planning

inductive ReplanError where
  | valueError (message : String)
  | keyError
  deriving DecidableEq

/-- `f"r2_{step_id}"`. -/
def renamedText (id : StepId) : String := "r2_" ++ id.text

/-- Step ids are ASCII. -/
theorem StepId.bytes (id : StepId) : ∃ b bs, utf8 id.text = b :: bs ∧ isLower b = true ∧
    (bs.all fun b => isLower b || isDigit b || Nat.beq b 95) = true ∧ 1 ≤ bs.length ∧
      textLength id.text = bs.length + 1 := by
  have hok := id.ok
  unfold matchesStepId matchesPattern at hok
  cases hbytes : utf8 id.text with
  | nil =>
      rw [hbytes] at hok
      cases hok
  | cons b bs =>
      rw [hbytes] at hok
      simp only [Bool.and_eq_true, decide_eq_true_eq] at hok
      have ⟨⟨hfirst, hrest⟩, hlength⟩ := hok
      have hascii : ∀ c, isLower c = true ∨ isDigit c = true ∨ Nat.beq c 95 = true →
          (Nat.blt c 128 || Nat.ble 192 c) = true := by
        intro c hc
        unfold isLower isDigit at hc
        simp only [Bool.and_eq_true, Bool.or_eq_true, Nat.ble_eq, Nat.blt_eq, Nat.beq_eq] at hc ⊢
        omega
      have hall : ((b :: bs).filter fun c => Nat.blt c 128 || Nat.ble 192 c) = b :: bs := by
        rw [List.filter_eq_self]
        intro c hc
        rw [List.mem_cons] at hc
        refine hascii c ?_
        rcases hc with hsame | hlater
        · rw [hsame]
          exact .inl hfirst
        · have hc' := List.all_eq_true.mp hrest c hlater
          simp only [Bool.or_eq_true] at hc'
          exact or_assoc.mp hc'
      refine ⟨b, bs, rfl, hfirst, hrest, hlength.1, ?_⟩
      unfold textLength
      rw [hbytes, hall, List.length_cons]

theorem matchesStepId_renamedText {id : StepId} (h : textLength (renamedText id) ≤ 40) :
    matchesStepId (renamedText id) = true := by
  have ⟨b, bs, hbytes, hfirst, hrest, _, hlength⟩ := id.bytes
  have hstart : utf8 "r2_" = [114, 50, 95] := by decide
  have hrenamed : utf8 (renamedText id) = 114 :: 50 :: 95 :: b :: bs := by
    unfold renamedText
    rw [utf8_append, hstart, hbytes]
    rfl
  unfold renamedText at h
  rw [textLength_append, hlength] at h
  have hthree : textLength "r2_" = 3 := by decide
  unfold matchesStepId matchesPattern
  rw [hrenamed]
  simp only [List.all_cons, hrest, hfirst, List.length_cons]
  have hbound : 1 ≤ bs.length + 1 + 1 + 1 ∧ bs.length + 1 + 1 + 1 ≤ 39 := by omega
  rw [decide_eq_true hbound]
  rfl

/-- The replacement of a step, where its id has at most 40 characters. -/
def renamed (id : StepId) : Option StepId :=
  if h : textLength (renamedText id) ≤ 40 then some ⟨renamedText id, matchesStepId_renamedText h⟩
  else none

/-- `mapping.get(step_id, step_id)`. -/
def mapped (replaced : List StepId) (id : StepId) : StepId :=
  if id ∈ replaced then (renamed id).getD id else id

namespace PlanningDag

variable (dag : PlanningDag)

/-- `replaced`, in the order of the queue. -/
def replaced (failed : StepId) (completed : List StepId) : List StepId :=
  explore (fun id => decide (id ∈ completed)) (fun id => sortedIds (dag.dependents id))
    (dag.edgeCount + 1) [failed] []

/-- `revised`. -/
def revised (replaced : List StepId) : PlanningDag :=
  { dag with
    steps := dag.steps.map fun step =>
      if step.stepId ∈ replaced then
        { step with
          stepId := mapped replaced step.stepId
          dependencies := step.dependencies.map (mapped replaced) }
      else step }

end PlanningDag

/-- `partial_replan`; `children` has no entry for a dependency that is no step. -/
def partialReplan [Sha256] (dag : PlanningDag) (failed : StepId) (completed : List StepId) :
    Except ReplanError (PlanningDag × List StepId) :=
  if failed ∉ dag.ids ∨ failed ∈ completed then
    .error (.valueError "failed step is not eligible for partial replan")
  else if dag.steps.any fun step => step.dependencies.any fun d => d ∉ dag.ids then
    .error .keyError
  else
    let replaced := dag.replaced failed completed
    if replaced.any fun id => 40 < textLength (renamedText id) then
      .error (.valueError "replacement step identifier exceeds W7 cap")
    else
      match validateDag (dag.revised replaced) with
      | none => .error (.valueError "node_count")
      | some validation =>
        if validation.valid then .ok (dag.revised replaced, sortedIds replaced)
        else .error (.valueError "partial replan violated the frozen W7 DAG contract")

/-! ## Renaming -/

theorem mapped_kept {replaced : List StepId} {id : StepId} (h : id ∉ replaced) :
    mapped replaced id = id := by
  unfold mapped
  rw [if_neg h]

theorem mapped_text {replaced : List StepId} {id : StepId} (h : id ∈ replaced)
    (hshort : textLength (renamedText id) ≤ 40) : (mapped replaced id).text = renamedText id := by
  unfold mapped renamed
  rw [if_pos h, dif_pos hshort]
  rfl

theorem renamedText_injective {x y : StepId} (h : renamedText x = renamedText y) : x = y := by
  refine StepId.text_injective (String.toList_inj.mp ?_)
  have hlist := congrArg String.toList h
  unfold renamedText at hlist
  rw [String.toList_append, String.toList_append] at hlist
  exact List.append_cancel_left hlist

def PlanStep.rename (newId : StepId → StepId) (step : PlanStep) : PlanStep :=
  { step with
    stepId := newId step.stepId
    dependencies := step.dependencies.map newId }

namespace PlanningDag

/-- `x` names `d` as a dependency. -/
def Follows (dag : PlanningDag) (d x : StepId) : Prop :=
  ∃ step ∈ dag.steps, step.stepId = x ∧ d ∈ step.dependencies

variable {dag : PlanningDag} {failed : StepId} {completed replaced : List StepId}

theorem follows_iff (h : dag.WellNamed) {d x : StepId} : dag.Follows d x ↔ d ∈ dag.deps x := by
  constructor
  · intro ⟨step, hstep, hsame, hd⟩
    rw [← hsame, deps_eq h.nodup hstep]
    exact hd
  · intro hd
    exact exists_step hd

/-- The completed steps contain their dependencies. -/
def Closed (dag : PlanningDag) (completed : List StepId) : Prop :=
  ∀ step ∈ dag.steps, step.stepId ∈ completed → ∀ d ∈ step.dependencies, d ∈ completed

/-- A completed step does not follow one that is not. -/
theorem Closed.follows (hclosed : dag.Closed completed) (hfailed : failed ∉ completed)
    {id : StepId} (hid : ReflTransGen dag.Follows failed id) : id ∉ completed := by
  induction hid with
  | refl => exact hfailed
  | tail _ hlast ih =>
      have ⟨step, hstep, hsame, hd⟩ := hlast
      rw [← hsame]
      exact fun hdone => ih (hclosed step hstep hdone _ hd)

/-- The replaced steps are the failed one and those that follow it. -/
theorem mem_replaced (h : dag.WellNamed) (hclosed : dag.Closed completed)
    (hknown : failed ∈ dag.ids) (hfailed : failed ∉ completed) :
    (dag.replaced failed completed).Nodup ∧
    ∀ id, id ∈ dag.replaced failed completed ↔ ReflTransGen dag.Follows failed id := by
  let next := fun id => sortedIds (dag.dependents id)
  have hnext : ∀ d id, id ∈ next d ↔ dag.Follows d id := fun d id => by
    rw [follows_iff h, ← mem_dependents h.nodup]
    exact (sortedIds_perm _).mem_iff
  have hwork : workLeft next dag.ids [failed] [] ≤ dag.edgeCount + 1 := by
    have hsum := sum_dependents_le h.nodup
    have hnone : dag.ids.filter (fun x => x ∉ ([] : List StepId)) = dag.ids :=
      List.filter_eq_self.mpr fun x _ => decide_eq_true List.not_mem_nil
    have hlengths : (dag.ids.map fun x => (next x).length) =
        dag.ids.map fun x => (dag.dependents x).length :=
      List.map_congr_left fun x _ => (sortedIds_perm _).length_eq
    unfold workLeft
    rw [hnone, hlengths, List.length_singleton]
    omega
  have hinside : ∀ d, ∀ id ∈ next d, id ∈ dag.ids := by
    intro d id hid
    have ⟨step, hstep, hsame, _⟩ := (hnext d id).mp hid
    rw [← hsame]
    exact List.mem_map_of_mem hstep
  have ⟨hnodup, hmem⟩ := mem_explore (fun id => decide (id ∈ completed)) h.nodup hinside
    (dag.edgeCount + 1) [failed] [] (exploring_start [failed])
    (fun x hx => by rw [List.mem_singleton.mp hx]; exact hknown) hwork
  refine ⟨hnodup, ?_⟩
  intro id
  refine (hmem id).trans ?_
  constructor
  · intro ⟨x, hx, _, hreach⟩
    rw [List.mem_singleton.mp hx] at hreach
    have hfollows : ∀ d y, Leads (fun id => decide (id ∈ completed)) next d y →
        dag.Follows d y := fun d y hdy => (hnext d y).mp hdy.1
    exact ReflTransGen.mono hfollows _ _ hreach
  · intro hreach
    refine ⟨failed, List.mem_singleton_self failed, decide_eq_false hfailed, ?_⟩
    induction hreach with
    | refl => exact .refl
    | tail hfirst hlast ih =>
        have hskip := hclosed.follows hfailed (hfirst.tail hlast)
        exact ih.tail ⟨(hnext _ _).mpr hlast, decide_eq_false hskip⟩

/-- The new plan is the old one renamed: what stays has no replaced dependency. -/
theorem revised_steps (hkept : ∀ step ∈ dag.steps, step.stepId ∉ replaced →
    ∀ d ∈ step.dependencies, d ∉ replaced) :
    (dag.revised replaced).steps = dag.steps.map (PlanStep.rename (mapped replaced)) ∧
    ∀ step ∈ dag.steps, step.stepId ∉ replaced → step.rename (mapped replaced) = step := by
  have hsame : ∀ step ∈ dag.steps, step.stepId ∉ replaced →
      step.rename (mapped replaced) = step := by
    intro step hstep hstay
    have hdeps : step.dependencies.map (mapped replaced) = step.dependencies :=
      (List.map_congr_left (g := id) fun d hd => mapped_kept (hkept step hstep hstay d hd)).trans
        (List.map_id _)
    unfold PlanStep.rename
    rw [hdeps, mapped_kept hstay]
  refine ⟨List.map_congr_left ?_, hsame⟩
  intro step hstep
  by_cases hin : step.stepId ∈ replaced
  · rw [if_pos hin]
    rfl
  · rw [if_neg hin, hsame step hstep hin]

/-! ## Renamed plans -/

section Renamed

variable {other : PlanningDag} {newId : StepId → StepId}
  (hsteps : other.steps = dag.steps.map (PlanStep.rename newId))

include hsteps

theorem ids_rename : other.ids = dag.ids.map newId := by
  unfold ids
  rw [hsteps, List.map_map, List.map_map]
  rfl

variable (hinjective : ∀ x ∈ dag.ids, ∀ y ∈ dag.ids, newId x = newId y → x = y)

include hinjective

theorem WellNamed.rename (h : dag.WellNamed) : other.WellNamed := by
  have hids := ids_rename hsteps
  constructor
  · rw [hids]
    exact h.nodup.map_on hinjective
  · intro step hstep d hd
    rw [hsteps] at hstep
    have ⟨old, hold, hsame⟩ := List.mem_map.mp hstep
    rw [← hsame] at hd
    have ⟨e, he, hde⟩ := List.mem_map.mp hd
    rw [hids, ← hde]
    exact List.mem_map_of_mem (h.known old hold e he)

theorem deps_rename (h : dag.WellNamed) {id : StepId} (hid : id ∈ dag.ids) :
    other.deps (newId id) = (dag.deps id).map newId := by
  have ⟨step, hstep, hsame⟩ := List.mem_map.mp hid
  have hnew : step.rename newId ∈ other.steps := by
    rw [hsteps]
    exact List.mem_map_of_mem hstep
  have hdeps := deps_eq (h.rename hsteps hinjective).nodup hnew
  rw [← hsame, deps_eq h.nodup hstep]
  exact hdeps

theorem renames_rename (h : dag.WellNamed) :
    DependencyGraph.Renames (dag.graph h) (other.graph (h.rename hsteps hinjective)) newId := by
  constructor
  · exact hinjective
  · intro y
    show y ∈ other.ids ↔ _
    rw [ids_rename hsteps, List.mem_map]
    rfl
  · intro x hx e
    show e ∈ other.deps (newId x) ↔ _
    rw [deps_rename hsteps hinjective h hx, List.mem_map]
    rfl

/-- A plan with renamed steps is well-formed if it is not too long. -/
theorem WellFormed.rename (hformed : dag.WellFormed)
    (hbytes : (canonicalDagBytes other).length ≤ maxSerializedBytes) : other.WellFormed := by
  have hrenames := renames_rename hsteps hinjective hformed.named
  have hmem : ∀ step ∈ other.steps, ∃ old ∈ dag.steps, old.rename newId = step := by
    intro step hstep
    rw [hsteps] at hstep
    exact List.mem_map.mp hstep
  constructor
  · have ⟨root, ⟨hroot, hnone⟩, honly⟩ := hformed.root
    refine ⟨root.rename newId, ⟨?_, ?_⟩, ?_⟩
    · rw [hsteps]
      exact List.mem_map_of_mem hroot
    · exact List.map_eq_nil_iff.mpr hnone
    · intro step ⟨hstep, hempty⟩
      have ⟨old, hold, hsame⟩ := hmem step hstep
      rw [← hsame] at hempty ⊢
      rw [honly old ⟨hold, List.map_eq_nil_iff.mp hempty⟩]
  · exact hrenames.acyclic hformed.acyclic
  · rw [hsteps, List.length_map]
    exact hformed.nodes
  · have hcount : other.edgeCount = dag.edgeCount := by
      unfold edgeCount
      rw [hsteps, List.map_map]
      refine congrArg List.sum (List.map_congr_left ?_)
      intro step _
      exact List.length_map _
    rw [hcount]
    exact hformed.edges
  · intro step hstep
    have ⟨old, hold, hsame⟩ := hmem step hstep
    rw [← hsame]
    show (old.dependencies.map newId).length ≤ _
    rw [List.length_map]
    exact hformed.fanIn old hold
  · exact hbytes
  · exact hrenames.path_le hformed.depth
  · exact hrenames.onLevel_le hformed.width
  · intro step hstep
    have ⟨old, hold, hsame⟩ := hmem step hstep
    rw [← hsame]
    exact hformed.page old hold
  · intro step hstep
    have ⟨old, hold, hsame⟩ := hmem step hstep
    rw [← hsame]
    exact hformed.actions old hold

theorem follows_rename (h : dag.WellNamed) {d x : StepId} (hd : d ∈ dag.ids) (hx : x ∈ dag.ids) :
    other.Follows (newId d) (newId x) ↔ dag.Follows d x := by
  rw [follows_iff (h.rename hsteps hinjective), follows_iff h, deps_rename hsteps hinjective h hx,
    List.mem_map]
  constructor
  · intro ⟨e, he, hsame⟩
    have hnode := ((dag.graph h).known x e he).2
    rw [← hinjective e hnode d hd hsame]
    exact he
  · intro hdep
    exact ⟨d, hdep, rfl⟩

end Renamed

/-- Where no new id is the id of a step that stays, the renaming is injective. -/
theorem mapped_injective (hshort : ∀ id ∈ replaced, textLength (renamedText id) ≤ 40)
    (hfree : ∀ id ∈ replaced, ∀ kept ∈ dag.ids, kept ∉ replaced → kept.text ≠ renamedText id) :
    ∀ x ∈ dag.ids, ∀ y ∈ dag.ids, mapped replaced x = mapped replaced y → x = y := by
  intro x hx y hy hsame
  have htext := congrArg StepId.text hsame
  by_cases hxr : x ∈ replaced
  · rw [mapped_text hxr (hshort x hxr)] at htext
    by_cases hyr : y ∈ replaced
    · rw [mapped_text hyr (hshort y hyr)] at htext
      exact renamedText_injective htext
    · rw [mapped_kept hyr] at htext
      exact absurd htext.symm (hfree x hxr y hy hyr)
  · rw [mapped_kept hxr] at htext
    by_cases hyr : y ∈ replaced
    · rw [mapped_text hyr (hshort y hyr)] at htext
      exact absurd htext (hfree y hyr x hx hxr)
    · rw [mapped_kept hyr] at htext
      exact StepId.text_injective htext

/-- `revised` is the plan with exactly the failed step and the steps that follow it renamed. -/
structure Replanned (dag revised : PlanningDag) (failed : StepId)
    (completed replaced : List StepId) (newId : StepId → StepId) : Prop where
  exactly : ∀ id, id ∈ replaced ↔ ReflTransGen dag.Follows failed id
  nodup : replaced.Nodup
  text : ∀ id ∈ replaced, (newId id).text = renamedText id
  kept : ∀ id, id ∉ replaced → newId id = id
  injective : ∀ x ∈ dag.ids, ∀ y ∈ dag.ids, newId x = newId y → x = y
  process : revised.process = dag.process
  category : revised.category = dag.category
  steps : revised.steps = dag.steps.map (PlanStep.rename newId)
  unchanged : ∀ step ∈ dag.steps, step.stepId ∉ replaced → step.rename newId = step
  completed : ∀ step ∈ dag.steps, step.stepId ∈ completed →
    step.stepId ∉ replaced ∧ step ∈ revised.steps
  edges : ∀ d ∈ dag.ids, ∀ x ∈ dag.ids, revised.Follows (newId d) (newId x) ↔ dag.Follows d x

end PlanningDag

open PlanningDag

/-- `partial_replan` of a valid plan keeps what is completed and renames exactly what follows the
failed step, or raises a `ValueError` for one of four reasons. -/
theorem partialReplan_exact [Sha256] (dag : PlanningDag) (failed : StepId)
    (completed : List StepId)
    (hvalid : ∃ result, validateDag dag = some result ∧ result.valid = true)
    (hclosed : dag.Closed completed) :
    (∃ revised replaced, partialReplan dag failed completed = .ok (revised, replaced) ∧
      (∃ result, validateDag revised = some result ∧ result.valid = true) ∧
      ∃ newId, Replanned dag revised failed completed replaced newId) ∨
    ∃ message, partialReplan dag failed completed = .error (.valueError message) ∧
      (failed ∉ dag.ids ∨ failed ∈ completed ∨
        (∃ id, ReflTransGen dag.Follows failed id ∧ 40 < textLength (renamedText id)) ∨
        (∃ id kept, ReflTransGen dag.Follows failed id ∧ kept ∈ dag.ids ∧
          ¬ ReflTransGen dag.Follows failed kept ∧ kept.text = renamedText id) ∨
        maxSerializedBytes <
          (canonicalDagBytes (dag.revised (dag.replaced failed completed))).length) := by
  have hformed := validateDag_valid.mp hvalid
  unfold partialReplan
  by_cases hineligible : failed ∉ dag.ids ∨ failed ∈ completed
  · rw [if_pos hineligible]
    exact .inr ⟨_, rfl, hineligible.imp id .inl⟩
  · rw [if_neg hineligible]
    rw [not_or, not_not] at hineligible
    have ⟨hknown, hfailed⟩ := hineligible
    have hchildren : ¬ (dag.steps.any fun step => step.dependencies.any fun d => d ∉ dag.ids)
        = true := by
      rw [List.any_eq_true]
      intro ⟨step, hstep, hany⟩
      have ⟨d, hd, hout⟩ := List.any_eq_true.mp hany
      exact of_decide_eq_true hout (hformed.named.known step hstep d hd)
    rw [if_neg hchildren]
    have ⟨hnodup, hexactly⟩ := mem_replaced hformed.named hclosed hknown hfailed
    generalize hreplaced : dag.replaced failed completed = replaced at hnodup hexactly ⊢
    have hkeeps : ∀ step ∈ dag.steps, step.stepId ∉ replaced →
        ∀ d ∈ step.dependencies, d ∉ replaced := by
      intro step hstep hstay d hd hin
      rw [hexactly] at hin hstay
      exact hstay (hin.tail ⟨step, hstep, rfl, hd⟩)
    have ⟨hsteps, hunchanged⟩ := revised_steps hkeeps
    dsimp only
    by_cases hlong : (replaced.any fun id => 40 < textLength (renamedText id)) = true
    · rw [if_pos hlong]
      have ⟨id, hid, hlength⟩ := List.any_eq_true.mp hlong
      exact .inr ⟨_, rfl, .inr (.inr (.inl
        ⟨id, (hexactly id).mp hid, of_decide_eq_true hlength⟩))⟩
    · rw [if_neg hlong]
      have hshort : ∀ id ∈ replaced, textLength (renamedText id) ≤ 40 := by
        intro id hid
        by_contra hgt
        exact hlong (List.any_eq_true.mpr ⟨id, hid, decide_eq_true (Nat.not_le.mp hgt)⟩)
      by_cases hnew : (dag.revised replaced).WellFormed
      · have ⟨result, hresult, hresultValid⟩ := validateDag_valid.mpr hnew
        rw [hresult]
        dsimp only
        rw [if_pos hresultValid]
        have hids := hnew.named.nodup
        rw [ids_rename hsteps] at hids
        have hinjective : ∀ x ∈ dag.ids, ∀ y ∈ dag.ids,
            mapped replaced x = mapped replaced y → x = y :=
          fun x hx y hy hsame => List.inj_on_of_nodup_map hids hx hy hsame
        refine .inl ⟨_, _, rfl, ⟨result, hresult, hresultValid⟩, mapped replaced, ?_⟩
        have hsorted := sortedIds_perm replaced
        constructor
        · intro id
          rw [hsorted.mem_iff]
          exact hexactly id
        · exact hsorted.nodup_iff.mpr hnodup
        · exact fun id hid => mapped_text (hsorted.mem_iff.mp hid)
            (hshort id (hsorted.mem_iff.mp hid))
        · exact fun id hid => mapped_kept (mt hsorted.mem_iff.mpr hid)
        · exact hinjective
        · rfl
        · rfl
        · exact hsteps
        · exact fun step hstep hstay => hunchanged step hstep (mt hsorted.mem_iff.mpr hstay)
        · intro step hstep hdone
          have hstay : step.stepId ∉ replaced := by
            rw [hexactly]
            exact fun hreach => hclosed.follows hfailed hreach hdone
          refine ⟨mt hsorted.mem_iff.mp hstay, ?_⟩
          rw [hsteps, ← hunchanged step hstep hstay]
          exact List.mem_map_of_mem hstep
        · exact fun d hd x hx => follows_rename hsteps hinjective hformed.named hd hx
      · -- what is wrong with the new plan is a collision or its length
        have hreason : (∃ id kept, ReflTransGen dag.Follows failed id ∧ kept ∈ dag.ids ∧
            ¬ ReflTransGen dag.Follows failed kept ∧ kept.text = renamedText id) ∨
            maxSerializedBytes < (canonicalDagBytes (dag.revised replaced)).length := by
          by_contra hnone
          rw [not_or, Nat.not_lt] at hnone
          have ⟨hcollision, hbytes⟩ := hnone
          refine hnew (hformed.rename hsteps (mapped_injective hshort ?_) hbytes)
          intro id hid kept hkept hstay hsame
          rw [hexactly] at hid hstay
          exact hcollision ⟨id, kept, hid, hkept, hstay, hsame⟩
        have hinvalid : ¬ ∃ result, validateDag (dag.revised replaced) = some result ∧
            result.valid = true := fun hsome => hnew (validateDag_valid.mp hsome)
        refine .inr ?_
        cases hresult : validateDag (dag.revised replaced) with
        | none => exact ⟨_, rfl, .inr (.inr (.inr hreason))⟩
        | some result =>
            have hfalse : ¬ result.valid = true := fun h => hinvalid ⟨result, hresult, h⟩
            dsimp only
            rw [if_neg hfalse]
            exact ⟨_, rfl, .inr (.inr (.inr hreason))⟩

section

attribute [local instance] polynomialSha256

theorem diamondPlan_closed : diamondPlan.Closed [inspectStep.stepId] := by
  unfold PlanningDag.Closed
  decide +kernel

/-- The ticket fails once the employee is inspected: it is replaced with the last step, which
follows it, and the account stays. -/
theorem partialReplan_diamondPlan :
    ∃ revised newId,
      partialReplan diamondPlan ticketStep.stepId [inspectStep.stepId] =
        .ok (revised, [finalizeStep.stepId, ticketStep.stepId]) ∧
      (∃ result, validateDag revised = some result ∧ result.valid = true) ∧
      Replanned diamondPlan revised ticketStep.stepId [inspectStep.stepId]
        [finalizeStep.stepId, ticketStep.stepId] newId := by
  have hreplaced : (partialReplan diamondPlan ticketStep.stepId
      [inspectStep.stepId]).toOption.map Prod.snd =
        some [finalizeStep.stepId, ticketStep.stepId] := by decide +kernel
  have hexact := partialReplan_exact diamondPlan ticketStep.stepId [inspectStep.stepId]
    (validateDag_valid.mpr diamondPlan_wellFormed) diamondPlan_closed
  cases hexact with
  | inl hreplanned =>
      have ⟨revised, replaced, hok, hvalid, newId, hrelated⟩ := hreplanned
      rw [hok] at hreplaced
      have hsame : replaced = [finalizeStep.stepId, ticketStep.stepId] :=
        Option.some.inj hreplaced
      rw [hsame] at hok hrelated
      exact ⟨revised, newId, hok, hvalid, hrelated⟩
  | inr hrefused =>
      have ⟨message, herror, _⟩ := hrefused
      rw [herror] at hreplaced
      cases hreplaced

end

end FlowPilot.Planning
