import FlowPilot.Browser.Worker

/-!
# What a reference points at

An observation shows the elements that a selector finds on the page and gives each of them a
reference.  Behind the reference stands a position in the query, which is resolved again when an
action uses it; in between the page may have changed.
-/

namespace FlowPilot.Browser

/-! ## Pages -/

structure SelectOption where
  label : String
  value : String
  deriving DecidableEq

structure Bounds where
  x : Nat
  y : Nat
  width : Nat
  height : Nat
  deriving DecidableEq

/-- An element that the selector finds, with what the metadata script reads of it. -/
structure DomElement where
  /-- The node of the document. -/
  node : Nat
  visible : Bool := true
  tag : String
  role : String
  name : String := ""
  text : String := ""
  inputType : String := ""
  disabled : Bool := false
  checked : Option Bool := none
  selected : Option Bool := none
  expanded : Option Bool := none
  readonly : Bool := false
  required : Bool := false
  options : List SelectOption := []
  /-- The part of its box inside the viewport. -/
  bounds : Option Bounds := none
  deriving DecidableEq

/-- What the selector finds, in document order.  A node stands at one place of its document. -/
structure Page where
  elements : List DomElement := []
  distinct : (elements.map DomElement.node).Nodup := by simp

/-- Where the node stands among the elements that the selector finds. -/
def Page.position (p : Page) (node : Nat) : Option Nat :=
  p.elements.findIdx? fun e => e.node = node

inductive PageChange where
  /-- An element appears in front of the given position.  One that stands elsewhere is moved. -/
  | insert (position : Nat) (e : DomElement)
  | remove (position : Nat)
  /-- An element changes what can be read of it. -/
  | update (position : Nat) (e : DomElement)

def Page.insert (p : Page) (position : Nat) (e : DomElement) : Page where
  elements :=
    let others := p.elements.filter fun other => other.node ≠ e.node
    others.insertIdx (min position others.length) e
  distinct := by
    have hothers := p.distinct.sublist
      ((List.filter_sublist (p := fun other => other.node ≠ e.node) (l := p.elements)).map
        DomElement.node)
    have habsent : e.node ∉ (p.elements.filter fun other => other.node ≠ e.node).map
        DomElement.node := by
      intro hmem
      obtain ⟨other, hother, hnode⟩ := List.mem_map.mp hmem
      have hne := (List.mem_filter.mp hother).2
      simp [hnode] at hne
    have hperm := (List.perm_insertIdx e
      (p.elements.filter fun other => other.node ≠ e.node)
      (Nat.min_le_right position _)).map DomElement.node
    exact hperm.nodup_iff.mpr (List.nodup_cons.mpr ⟨habsent, hothers⟩)

def Page.remove (p : Page) (position : Nat) : Page where
  elements := p.elements.eraseIdx position
  distinct := p.distinct.sublist ((List.eraseIdx_sublist p.elements position).map DomElement.node)

def Page.update (p : Page) (position : Nat) (e : DomElement) : Page where
  elements := p.elements.modify position fun old => { e with node := old.node }
  distinct := by
    have hnodes : (p.elements.modify position fun old => { e with node := old.node }).map
        DomElement.node = p.elements.map DomElement.node := by
      refine List.ext_getElem? fun i => ?_
      rw [List.getElem?_map, List.getElem?_map, List.getElem?_modify]
      cases p.elements[i]? with
      | none => rfl
      | some old =>
        by_cases hi : position = i
        · simp [hi]
        · simp [hi]
    rw [hnodes]
    exact p.distinct

def Page.change (p : Page) : PageChange → Page
  | .insert position e => p.insert position e
  | .remove position => p.remove position
  | .update position e => p.update position e

/-- The page after the changes, in turn. -/
def Page.evolve (p : Page) (changes : List PageChange) : Page := changes.foldl Page.change p

/-! ## Observations -/

/-- How texts are read: `normalize_text`, `str.lower`, the guard and `validate_fill_text`. -/
structure Texts where
  normalize : String → Nat → String
  lower : String → String
  accepts : String → Bool
  fillable : String → String → Bool

structure ElementLimits where
  maxInteractiveElements : Nat := 80
  maxNodeTextChars : Nat := 240

structure ElementState where
  disabled : Bool
  checked : Option Bool
  selected : Option Bool
  expanded : Option Bool
  readonly : Bool
  required : Bool
  deriving DecidableEq

structure InteractiveElement where
  elementRef : String
  role : String
  name : String
  state : ElementState
  allowedActions : List ActionType
  options : List String
  deriving DecidableEq

/-- A `nth(index)` of the query and what the observation said of it. -/
structure ElementTarget where
  index : Nat
  allowedActions : List ActionType
  inputType : String
  safeName : String
  optionValues : List (String × String)
  deriving DecidableEq

/-- `allowed_actions`. -/
def allowedActions (t : Texts) (m : DomElement) : List ActionType :=
  if m.disabled then []
  else if m.tag = "select" ∨ m.role = "combobox" then [.select, .read, .scroll]
  else if m.tag ∈ ["input", "textarea"] ∧
      t.lower m.inputType ∉ ["button", "submit", "checkbox", "radio"] then
    [.fill, .read, .scroll]
  else if m.tag ∈ ["a", "button"] ∨ m.role ∈ ["button", "link", "checkbox", "radio"] then
    [.click, .read, .scroll]
  else [.read, .scroll]

/-- An assignment to a key of a dictionary, which keeps its place. -/
def setKey (key value : String) : List (String × String) → List (String × String)
  | [] => [(key, value)]
  | (k, v) :: rest => if k = key then (k, value) :: rest else (k, v) :: setKey key value rest

/-- The values of the options by their normalised labels. -/
def optionValues (t : Texts) (options : List SelectOption) : List (String × String) :=
  options.foldl (fun values option =>
    let label := t.normalize option.label 120
    if label = "" then values else setKey label option.value values) []

def elementRef (nonce : String) (index : Nat) : String :=
  "ref_" ++ nonce ++ "_" ++ toString (index + 1)

/-- An element of an observation, with the element of the page that it shows. -/
structure Entry where
  source : DomElement
  shown : InteractiveElement
  target : ElementTarget
  deriving DecidableEq

def entryOf (t : Texts) (limits : ElementLimits) (nonce : String) (index : Nat) (m : DomElement) :
    Entry where
  source := m
  shown :=
    { elementRef := elementRef nonce index
      role := String.ofList (m.role.toList.take 40)
      name := t.normalize m.name limits.maxNodeTextChars
      state := ⟨m.disabled, m.checked, m.selected, m.expanded, m.readonly, m.required⟩
      allowedActions := allowedActions t m
      options := (optionValues t m.options).map Prod.fst }
  target :=
    { index := index
      allowedActions := allowedActions t m
      inputType := m.inputType
      safeName := t.normalize m.name limits.maxNodeTextChars
      optionValues := optionValues t m.options }

/-- The guard on the texts of an element. -/
def readable (t : Texts) (m : DomElement) : Bool :=
  t.accepts m.name && t.accepts m.text && m.options.all fun option => t.accepts option.label

/-- The loop of `extract_interactive_elements` from an index on; it ends with a rejected text. -/
def extractFrom (t : Texts) (limits : ElementLimits) (nonce : String) :
    Nat → List DomElement → Option (List Entry)
  | _, [] => some []
  | index, m :: rest =>
    if ¬ m.visible then extractFrom t limits nonce (index + 1) rest
    else if ¬ readable t m then none
    else do
      let entries ← extractFrom t limits nonce (index + 1) rest
      if allowedActions t m = [] then return entries
      return entryOf t limits nonce index m :: entries

/-- `extract_interactive_elements`. -/
def extractInteractiveElements (t : Texts) (limits : ElementLimits) (nonce : String) (p : Page) :
    Option (List Entry) :=
  extractFrom t limits nonce 0 (p.elements.take limits.maxInteractiveElements)

/-- The references of `VisionObservationBuilder._groundings`: the elements with a box inside the
viewport, under their place among all. -/
def groundings (nonce : String) : Nat → List Entry → List (String × Entry)
  | _, [] => []
  | place, entry :: rest =>
    match entry.source.bounds with
    | none => groundings nonce (place + 1) rest
    | some _ =>
      ("gref_" ++ nonce ++ "_" ++ toString place, entry) :: groundings nonce (place + 1) rest

/-- The references of the observation of a modality. -/
def referencesOf (modality : Modality) (nonce : String) (entries : List Entry) :
    List (String × Entry) :=
  match modality with
  | .dom => entries.map fun entry => (entry.shown.elementRef, entry)
  | .vision => groundings nonce 1 entries

/-! ## Actions on references -/

/-- An action on an element, with what it chooses or writes. -/
structure GroundedAction where
  action : Action
  option : String := ""
  text : String := ""

inductive Deed where
  /-- The action is refused and a failure is reported. -/
  | refused (category : ErrorCategory)
  /-- Playwright finds nothing to act on and gives up. -/
  | timedOut
  /-- `read` answers from the observation. -/
  | answered (safeName : String)
  | acted (e : DomElement) (option : Option SelectOption)
  deriving DecidableEq

/-- A locator is resolved on the page as it is now. -/
def resolveLocator (now : Page) (target : ElementTarget) : Option DomElement :=
  now.elements[target.index]?

/-- `_dispatch` and `_dispatch_vision` on a target. -/
def dispatchOn (t : Texts) (now : Page) (target : ElementTarget) (a : GroundedAction) : Deed :=
  match a.action.type with
  | .read => .answered target.safeName
  | .fill =>
    if t.fillable a.text target.inputType then
      match resolveLocator now target with
      | none => .timedOut
      | some e => .acted e none
    else .refused .inputRejected
  | .select =>
    match target.optionValues.lookup a.option with
    | none => .refused .inputRejected
    | some value =>
      match resolveLocator now target with
      | none => .timedOut
      | some e =>
        -- the first option with the value
        match e.options.find? fun option => option.value = value with
        | none => .timedOut
        | some option => .acted e (some option)
  | _ =>
    match resolveLocator now target with
    | none => .timedOut
    | some e => .acted e none

/-- The references of a session, as its lookups know them. -/
def targetsOf (references : List (String × Entry)) : List Target :=
  references.map fun r => ⟨r.1, r.2.target.allowedActions⟩

/-- An action on a session whose latest observation is the given one. -/
def useReference (t : Texts) (s : Session) (modality : Modality)
    (references : List (String × Entry)) (now : Page) (a : GroundedAction) : Deed :=
  let refusal := match modality with
    | .dom => resolveTarget { s with references := targetsOf references } a.action
    | .vision => resolveVisionTarget { s with visionReferences := targetsOf references } a.action
  match refusal with
  | some category => .refused category
  | none =>
    match references.find? fun r => r.1 = a.action.reference with
    | none => .timedOut
    | some (_, entry) => dispatchOn t now entry.target a

/-! ## What an observation binds -/

section Extraction

variable {t : Texts} {limits : ElementLimits} {nonce : String}

/-- Each entry shows the element at its index, and the indices increase. -/
theorem extractFrom_spec (rest : List DomElement) : ∀ (start : Nat) (entries : List Entry),
    extractFrom t limits nonce start rest = some entries →
      (∀ entry ∈ entries, start ≤ entry.target.index ∧
        rest[entry.target.index - start]? = some entry.source ∧
          entry.shown.elementRef = elementRef nonce entry.target.index) ∧
      entries.Pairwise fun a b => a.target.index < b.target.index := by
  induction rest with
  | nil =>
    intro start entries h
    cases h
    exact ⟨fun _ hmem => absurd hmem List.not_mem_nil, .nil⟩
  | cons m rest ih =>
    intro start entries h
    -- an entry of the rest, seen from here
    have hshift : ∀ later, extractFrom t limits nonce (start + 1) rest = some later →
        (∀ entry ∈ later, start < entry.target.index ∧
          (m :: rest)[entry.target.index - start]? = some entry.source ∧
            entry.shown.elementRef = elementRef nonce entry.target.index) ∧
        later.Pairwise fun a b => a.target.index < b.target.index := by
      intro later hlater
      obtain ⟨hentries, hpairwise⟩ := ih (start + 1) later hlater
      refine ⟨fun entry hentry => ?_, hpairwise⟩
      obtain ⟨hle, hsource, href⟩ := hentries entry hentry
      have hstep : entry.target.index - start = (entry.target.index - (start + 1)) + 1 := by omega
      rw [hstep, List.getElem?_cons_succ]
      exact ⟨by omega, hsource, href⟩
    unfold extractFrom at h
    by_cases hvisible : m.visible = true
    · rw [if_neg (not_not.mpr hvisible)] at h
      by_cases hreadable : readable t m = true
      · rw [if_neg (not_not.mpr hreadable)] at h
        cases hlater : extractFrom t limits nonce (start + 1) rest with
        | none =>
          rw [hlater] at h
          cases h
        | some later =>
          rw [hlater] at h
          obtain ⟨hentries, hpairwise⟩ := hshift later hlater
          by_cases hactions : allowedActions t m = []
          · have hentriesEq : later = entries := by simpa [hactions] using h
            subst hentriesEq
            exact ⟨fun entry hentry => ⟨(hentries entry hentry).1.le, (hentries entry hentry).2⟩,
              hpairwise⟩
          · have hentriesEq : entryOf t limits nonce start m :: later = entries := by
              simpa [hactions] using h
            subst hentriesEq
            refine ⟨fun entry hentry => ?_, List.pairwise_cons.mpr ⟨fun b hb => ?_, hpairwise⟩⟩
            · rcases List.mem_cons.mp hentry with hhead | htail
              · subst hhead
                refine ⟨Nat.le_refl _, ?_, rfl⟩
                show (m :: rest)[start - start]? = some m
                rw [Nat.sub_self]
                rfl
              · exact ⟨(hentries entry htail).1.le, (hentries entry htail).2⟩
            · exact (hentries b hb).1
      · rw [if_pos hreadable] at h
        cases h
    · rw [if_pos hvisible] at h
      obtain ⟨hentries, hpairwise⟩ := hshift entries h
      exact ⟨fun entry hentry => ⟨(hentries entry hentry).1.le, (hentries entry hentry).2⟩,
        hpairwise⟩

theorem toString_inj {m n : Nat} (h : toString m = toString n) : m = n := by
  have hdigits : Nat.toDigits 10 m = Nat.toDigits 10 n := String.ofList_injective h
  rw [← Nat.ofDigitChars_ten_toDigits (n := m), hdigits, Nat.ofDigitChars_ten_toDigits]

theorem elementRef_inj {m n : Nat} (h : elementRef nonce m = elementRef nonce n) : m = n := by
  have hplace : m + 1 = n + 1 := toString_inj (by simpa [elementRef] using h)
  omega

theorem groundings_spec (entries : List Entry) : ∀ (start : Nat) (r : String × Entry),
    r ∈ groundings nonce start entries →
      ∃ place, start ≤ place ∧ r.1 = "gref_" ++ nonce ++ "_" ++ toString place ∧
        entries[place - start]? = some r.2 := by
  induction entries with
  | nil =>
    intro start r h
    cases h
  | cons entry rest ih =>
    intro start r h
    have hlater : r ∈ groundings nonce (start + 1) rest →
        ∃ place, start ≤ place ∧ r.1 = "gref_" ++ nonce ++ "_" ++ toString place ∧
          (entry :: rest)[place - start]? = some r.2 := by
      intro hr
      obtain ⟨place, hle, href, hentry⟩ := ih (start + 1) r hr
      refine ⟨place, by omega, href, ?_⟩
      have hstep : place - start = (place - (start + 1)) + 1 := by omega
      rw [hstep, List.getElem?_cons_succ]
      exact hentry
    unfold groundings at h
    cases hbounds : entry.source.bounds with
    | none =>
      rw [hbounds] at h
      exact hlater h
    | some bounds =>
      rw [hbounds] at h
      rcases List.mem_cons.mp h with hhead | htail
      · subst hhead
        refine ⟨start, Nat.le_refl _, rfl, ?_⟩
        show (entry :: rest)[start - start]? = some entry
        rw [Nat.sub_self]
        rfl
      · exact hlater htail

/-- A reference names one entry of its observation. -/
theorem referencesOf_unique {p : Page} {entries : List Entry} {modality : Modality}
    (hextract : extractInteractiveElements t limits nonce p = some entries)
    {r r' : String × Entry} (hr : r ∈ referencesOf modality nonce entries)
    (hr' : r' ∈ referencesOf modality nonce entries) (hsame : r.1 = r'.1) : r.2 = r'.2 := by
  obtain ⟨hentries, hpairwise⟩ := extractFrom_spec _ 0 entries hextract
  cases modality with
  | dom =>
    obtain ⟨entry, hentry, hpair⟩ := List.mem_map.mp hr
    obtain ⟨entry', hentry', hpair'⟩ := List.mem_map.mp hr'
    subst hpair hpair'
    have hindex : entry.target.index = entry'.target.index := by
      have hrefs : elementRef nonce entry.target.index =
          elementRef nonce entry'.target.index := by
        rw [← (hentries entry hentry).2.2, ← (hentries entry' hentry').2.2]
        exact hsame
      exact elementRef_inj hrefs
    have hindices : (entries.map fun entry => entry.target.index).Nodup :=
      List.pairwise_map.mpr (hpairwise.imp fun h => Nat.ne_of_lt h)
    exact List.inj_on_of_nodup_map hindices hentry hentry' hindex
  | vision =>
    obtain ⟨place, _, href, hentry⟩ := groundings_spec entries 1 r hr
    obtain ⟨place', _, href', hentry'⟩ := groundings_spec entries 1 r' hr'
    have hplace : place = place' := by
      refine toString_inj ?_
      rw [href, href'] at hsame
      simpa using hsame
    subst hplace
    rw [hentry] at hentry'
    exact Option.some.inj hentry'

theorem groundings_take (entries : List Entry) : ∀ (start kept : Nat) (r : String × Entry),
    r ∈ groundings nonce start (entries.take kept) → r ∈ groundings nonce start entries := by
  induction entries with
  | nil =>
    intro start kept r h
    rw [List.take_nil] at h
    exact h
  | cons entry rest ih =>
    intro start kept r h
    cases kept with
    | zero => cases h
    | succ kept =>
      rw [List.take_succ_cons] at h
      unfold groundings at h ⊢
      cases hbounds : entry.source.bounds with
      | none =>
        rw [hbounds] at h
        exact ih (start + 1) kept r h
      | some bounds =>
        rw [hbounds] at h
        rcases List.mem_cons.mp h with hhead | htail
        · exact List.mem_cons.mpr (.inl hhead)
        · exact List.mem_cons.mpr (.inr (ih (start + 1) kept r htail))

/-- An observation that was cut to its size keeps references of the whole one. -/
theorem referencesOf_take {modality : Modality} {entries : List Entry} {kept : Nat}
    {r : String × Entry} (h : r ∈ referencesOf modality nonce (entries.take kept)) :
    r ∈ referencesOf modality nonce entries := by
  cases modality with
  | dom =>
    obtain ⟨entry, hentry, hpair⟩ := List.mem_map.mp h
    exact List.mem_map.mpr ⟨entry, List.mem_of_mem_take hentry, hpair⟩
  | vision => exact groundings_take entries 1 kept r h

theorem find_reference {p : Page} {entries : List Entry} {modality : Modality} {kept : Nat}
    (hextract : extractInteractiveElements t limits nonce p = some entries)
    {reference : String} {entry : Entry}
    (hr : (reference, entry) ∈ referencesOf modality nonce (entries.take kept)) :
    (referencesOf modality nonce (entries.take kept)).find? (fun r => r.1 = reference) =
      some (reference, entry) := by
  cases hfound : (referencesOf modality nonce (entries.take kept)).find?
      fun r => r.1 = reference with
  | none =>
    have hnone := List.find?_eq_none.mp hfound (reference, entry) hr
    simp at hnone
  | some r =>
    have hname : r.1 = reference := by simpa using List.find?_some hfound
    have hentry : r.2 = entry :=
      referencesOf_unique hextract (referencesOf_take (List.mem_of_find?_eq_some hfound))
        (referencesOf_take hr) hname
    rw [← hname, ← hentry]

/-- An entry is about the element that stood at its index. -/
theorem source_of_reference {p : Page} {entries : List Entry} {modality : Modality}
    (hextract : extractInteractiveElements t limits nonce p = some entries)
    {r : String × Entry} (hr : r ∈ referencesOf modality nonce entries) :
    p.elements[r.2.target.index]? = some r.2.source := by
  obtain ⟨hentries, _⟩ := extractFrom_spec _ 0 entries hextract
  have hmem : r.2 ∈ entries := by
    cases modality with
    | dom =>
      obtain ⟨entry, hentry, hpair⟩ := List.mem_map.mp hr
      subst hpair
      exact hentry
    | vision =>
      obtain ⟨place, _, _, hentry⟩ := groundings_spec entries 1 r hr
      exact List.mem_of_getElem? hentry
  obtain ⟨_, hsource, _⟩ := hentries r.2 hmem
  rw [Nat.sub_zero] at hsource
  rw [List.getElem?_take] at hsource
  split at hsource
  · exact hsource
  · cases hsource

end Extraction

/-! ## Positions -/

theorem Page.position_eq_some {p : Page} {node i : Nat} :
    p.position node = some i ↔ ∃ e, p.elements[i]? = some e ∧ e.node = node := by
  unfold position
  rw [List.findIdx?_eq_some_iff_getElem]
  constructor
  · rintro ⟨hlt, hnode, _⟩
    exact ⟨p.elements[i], List.getElem?_eq_getElem hlt, by simpa using hnode⟩
  · rintro ⟨e, he, hnode⟩
    obtain ⟨hlt, heq⟩ := List.getElem?_eq_some_iff.mp he
    refine ⟨hlt, by simp [heq, hnode], fun j hj hearlier => ?_⟩
    -- an earlier one would be the same node at two places
    have hsame : (p.elements.map DomElement.node)[j]? = (p.elements.map DomElement.node)[i]? := by
      have hjlt : j < p.elements.length := Nat.lt_trans hj hlt
      rw [List.getElem?_map, List.getElem?_map, he, List.getElem?_eq_getElem hjlt]
      show some (p.elements[j].node) = some e.node
      rw [hnode]
      simpa using hearlier
    have hji : j = i := (List.getElem?_inj (by simpa using Nat.lt_trans hj hlt) p.distinct).mp hsame
    omega

/-! ## What an action hits -/

/-- The action names the latest observation. -/
def Current (s : Session) (modality : Modality) (a : GroundedAction) : Prop :=
  a.action.observationId = s.observationId ∧
    (modality = .vision → a.action.screenshotRef = s.visionScreenshotRef)

def staleCategory : Modality → ErrorCategory
  | .dom => .staleElementRef
  | .vision => .staleVisualRef

/-- The element has the role, the name and the allowed actions that were shown. -/
structure LooksAs (t : Texts) (limits : ElementLimits) (shown : InteractiveElement)
    (e : DomElement) : Prop where
  role : String.ofList (e.role.toList.take 40) = shown.role
  name : t.normalize e.name limits.maxNodeTextChars = shown.name
  allowedActions : allowedActions t e = shown.allowedActions

/-- Where the action acts on an element, that is the one the observation showed and as it was shown,
and the option has the label that was chosen. -/
def HitsShown (t : Texts) (limits : ElementLimits) (entry : Entry) (a : GroundedAction)
    (deed : Deed) : Prop :=
  ∀ e option, deed = .acted e option →
    e.node = entry.source.node ∧ LooksAs t limits entry.shown e ∧
      ∀ o, option = some o → t.normalize o.label 120 = a.option

/-- The option of an element that a value chosen from the observation selects. -/
def chosenOption (target : ElementTarget) (a : GroundedAction) (e : DomElement) :
    Option SelectOption :=
  (target.optionValues.lookup a.option).bind fun value =>
    e.options.find? fun option => option.value = value

/-- The action is allowed, and at the index of its target there is an element to act on. -/
def Reaches (t : Texts) (now : Page) (target : ElementTarget) (a : GroundedAction) : Prop :=
  a.action.type ∈ target.allowedActions ∧ a.action.type ≠ .read ∧
    (a.action.type = .fill → t.fillable a.text target.inputType = true) ∧
      ∃ e, now.elements[target.index]? = some e ∧
        (a.action.type = .select → chosenOption target a e ≠ none)

/-- For an action that reaches an element: the shown element is where it was, with as many elements
in front of it, and looks as it was shown, and the first option with the value that was recorded for
the chosen label has that label. -/
structure Undisturbed (t : Texts) (limits : ElementLimits) (p now : Page) (entry : Entry)
    (a : GroundedAction) : Prop where
  place : now.position entry.source.node = p.position entry.source.node
  looks : ∀ e, now.elements[entry.target.index]? = some e → LooksAs t limits entry.shown e
  option : a.action.type = .select → ∀ e o, now.elements[entry.target.index]? = some e →
    chosenOption entry.target a e = some o → t.normalize o.label 120 = a.option

section Hits

variable {t : Texts} {limits : ElementLimits} {nonce : String} {p : Page} {entries : List Entry}
  {modality : Modality} {s : Session} {a : GroundedAction} {entry : Entry}

theorem lookupTarget_found {references : List (String × Entry)} {r : String × Entry}
    {unknown : ErrorCategory}
    (hfind : references.find? (fun r => r.1 = a.action.reference) = some r) :
    lookupTarget (targetsOf references) a.action unknown =
      if a.action.type ∈ r.2.target.allowedActions then none else some .actionNotAllowed := by
  have htarget : (targetsOf references).find? (fun target => target.reference = a.action.reference) =
      some ⟨r.1, r.2.target.allowedActions⟩ := by
    unfold targetsOf
    rw [List.find?_map]
    show Option.map _ (references.find? fun r => r.1 = a.action.reference) = _
    rw [hfind]
    rfl
  unfold lookupTarget
  rw [htarget]

theorem useReference_current (hcurrent : Current s modality a)
    {references : List (String × Entry)} {r : String × Entry} {now : Page}
    (hfind : references.find? (fun r => r.1 = a.action.reference) = some r) :
    useReference t s modality references now a =
      if a.action.type ∈ r.2.target.allowedActions then dispatchOn t now r.2.target a
      else .refused .actionNotAllowed := by
  have hlookup : ∀ unknown, lookupTarget (targetsOf references) a.action unknown =
      if a.action.type ∈ r.2.target.allowedActions then none else some .actionNotAllowed :=
    fun _ => lookupTarget_found hfind
  unfold useReference
  cases modality with
  | dom =>
    have hresolve : resolveTarget { s with references := targetsOf references } a.action =
        lookupTarget (targetsOf references) a.action .unknownElementRef :=
      if_neg (not_not.mpr hcurrent.1)
    simp only [hresolve, hlookup, hfind]
    by_cases hallowed : a.action.type ∈ r.2.target.allowedActions
    · simp only [if_pos hallowed]
    · simp only [if_neg hallowed]
  | vision =>
    have hresolve : resolveVisionTarget { s with visionReferences := targetsOf references }
        a.action = lookupTarget (targetsOf references) a.action .unknownVisualRef := by
      refine if_neg fun h => ?_
      rcases h with hobservation | hscreenshot
      · exact hobservation hcurrent.1
      · exact hscreenshot (hcurrent.2 rfl)
    simp only [hresolve, hlookup, hfind]
    by_cases hallowed : a.action.type ∈ r.2.target.allowedActions
    · simp only [if_pos hallowed]
    · simp only [if_neg hallowed]

theorem useReference_stale (hstale : ¬ Current s modality a) (references : List (String × Entry))
    (now : Page) :
    useReference t s modality references now a = .refused (staleCategory modality) := by
  unfold useReference
  cases modality with
  | dom =>
    have hobservation : a.action.observationId ≠ s.observationId :=
      fun h => hstale ⟨h, fun hvision => absurd hvision (by decide)⟩
    have hresolve : resolveTarget { s with references := targetsOf references } a.action =
        some .staleElementRef := if_pos hobservation
    simp only [hresolve, staleCategory]
  | vision =>
    have heither : a.action.observationId ≠ s.observationId ∨
        a.action.screenshotRef ≠ s.visionScreenshotRef := by
      by_contra hneither
      push Not at hneither
      exact hstale ⟨hneither.1, fun _ => hneither.2⟩
    have hresolve : resolveVisionTarget { s with visionReferences := targetsOf references }
        a.action = some .staleVisualRef := if_pos heither
    simp only [hresolve, staleCategory]

/-- A dispatch acts on the element at the index of its target. -/
theorem dispatchOn_acted {now : Page} {target : ElementTarget} {e : DomElement}
    {option : Option SelectOption} (h : dispatchOn t now target a = .acted e option) :
    now.elements[target.index]? = some e ∧ a.action.type ≠ .read ∧
      (a.action.type = .fill → t.fillable a.text target.inputType = true) ∧
      (a.action.type = .select → option = chosenOption target a e ∧ option ≠ none) ∧
      (a.action.type ≠ .select → option = none) := by
  unfold dispatchOn resolveLocator at h
  split at h
  · cases h
  · rename_i htype
    split at h
    · rename_i hfillable
      split at h
      · cases h
      · rename_i he
        cases h
        rw [htype]
        exact ⟨he, by decide, fun _ => hfillable, fun h => absurd h (by decide), fun _ => rfl⟩
    · cases h
  · rename_i htype
    split at h
    · cases h
    · rename_i value hvalue
      split at h
      · cases h
      · rename_i he
        split at h
        · cases h
        · rename_i o ho
          cases h
          rw [htype]
          refine ⟨he, by decide, fun h => absurd h (by decide), fun _ => ⟨?_, by simp⟩,
            fun h => absurd rfl h⟩
          unfold chosenOption
          rw [hvalue]
          exact ho.symm
  · rename_i hread hfill hselect
    split at h
    · cases h
    · rename_i he
      cases h
      exact ⟨he, hread, fun h => absurd h hfill, fun h => absurd h hselect, fun _ => rfl⟩

/-- An action that reaches an element acts on it. -/
theorem dispatchOn_reaches {now : Page} {target : ElementTarget} {e : DomElement}
    (hread : a.action.type ≠ .read)
    (hfill : a.action.type = .fill → t.fillable a.text target.inputType = true)
    (he : now.elements[target.index]? = some e)
    (hselect : a.action.type = .select → chosenOption target a e ≠ none) :
    ∃ option, dispatchOn t now target a = .acted e option := by
  unfold dispatchOn resolveLocator
  rw [he]
  split
  · rename_i htype
    exact absurd htype hread
  · rename_i htype
    rw [if_pos (hfill htype)]
    exact ⟨none, rfl⟩
  · rename_i htype
    have hchosen := hselect htype
    unfold chosenOption at hchosen
    cases hvalue : target.optionValues.lookup a.option with
    | none =>
      rw [hvalue] at hchosen
      exact absurd rfl hchosen
    | some value =>
      rw [hvalue] at hchosen
      cases ho : e.options.find? fun option => option.value = value with
      | none => exact absurd ho hchosen
      | some o => exact ⟨some o, by simp only [ho]⟩
  · exact ⟨none, rfl⟩

end Hits

/-! ## A page that grows -/

namespace Sample

/-- Short texts without anything to redact or reject. -/
def plainTexts : Texts where
  normalize := fun text limit => String.ofList (text.toList.take limit)
  lower := String.toLower
  accepts := fun _ => true
  fillable := fun _ _ => true

def cancelButton : DomElement :=
  { node := 1, tag := "button", role := "button", name := "Cancel", text := "Cancel" }

def deleteButton : DomElement :=
  { node := 2, tag := "button", role := "button", name := "Delete", text := "Delete" }

def confirmPage : Page := { elements := [cancelButton] }

def cancelEntry : Entry := entryOf plainTexts {} "AAAABBBBCCCC" 0 cancelButton

theorem confirmPage_entries :
    extractInteractiveElements plainTexts {} "AAAABBBBCCCC" confirmPage = some [cancelEntry] := rfl

def clickCancel : GroundedAction where
  action :=
    { type := .click, observationId := "obs_AAAABBBBCCCC"
      reference := cancelEntry.shown.elementRef }

def confirmSession : Session :=
  { sessionId := "bw_1", mode := .dom, startedAt := 0, observationId := "obs_AAAABBBBCCCC" }

theorem cancelEntry_referenced :
    (clickCancel.action.reference, cancelEntry) ∈
      referencesOf .dom "AAAABBBBCCCC" [cancelEntry] := List.mem_singleton.mpr rfl

end Sample

end FlowPilot.Browser
