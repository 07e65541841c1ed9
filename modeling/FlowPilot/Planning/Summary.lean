import FlowPilot.Planning.TaskFacts
import FlowPilot.Texts

/-!
# What a summary keeps

The most recent event of each required kind goes in front, then the others follow in the order of
the summariser.  The entries are small, so that only their number is ever in the way.
-/

open FlowPilot.Lib

namespace FlowPilot.Planning.Context

/-! ## The summariser -/

inductive SummaryError where
  | valueError (message : String)
  | validationError
  deriving DecidableEq

/-- What its schema asks of an event. -/
def ShortTermEvent.valid (e : ShortTermEvent) : Bool :=
  isSafeId e.eventId && isSafeValue e.safeValue && decide (1 ≤ e.ordinal ∧ e.ordinal ≤ 1000000)

/-- The field constraints of `ShortTermSummary`; `validate_hash` computes the hash again. -/
def ShortTermSummary.valid (s : ShortTermSummary) : Bool :=
  s.entries.all (fun e => isSafeValue e.safeValue &&
      decide (1 ≤ e.ordinal ∧ e.ordinal ≤ 1000000)) &&
    decide (s.entries.length ≤ 8 ∧ s.sourceHashes.length ≤ 12 ∧ s.inputCount ≤ 12 ∧
      s.deduplicatedCount ≤ 12 ∧ s.emittedCount ≤ 8 ∧ s.droppedCount ≤ 12 ∧
      s.canonicalBytes ≤ 4096 ∧ s.estimatedTokens ≤ 1024)

/-- `DeterministicShortTermSummarizer.summarize`. -/
def shortTermSummary (taskId scopeId : String) (events : List ShortTermEvent) :
    Except SummaryError ShortTermSummary :=
  if events.length > 12 then .error (.valueError "short-term input count exceeds frozen cap")
  else if events.any (fun e => decide (e.taskId ≠ taskId ∨ e.scopeId ≠ scopeId)) then
    .error (.valueError "short-term event owner mismatch")
  else
    let summary := summarize taskId scopeId events
    if summary.valid then .ok summary else .error .validationError

/-! ## Events -/

def ShortTermEvent.entry (e : ShortTermEvent) : SummaryEntry :=
  ⟨e.kind, e.safeValue, e.sourceHash, e.ordinal⟩

/-- What events are the same by. -/
def ShortTermEvent.pair (e : ShortTermEvent) : SummaryEventKind × String := (e.kind, e.safeValue)

/-- The events in the order of the summariser: by kind, and in it the most recent first. -/
def ordered (events : List ShortTermEvent) : List ShortTermEvent :=
  events.insertionSort fun a b => a.before b

/-- The first event of each kind and value. -/
def leaders (events : List ShortTermEvent) : List ShortTermEvent :=
  firstByKey ShortTermEvent.pair [] (ordered events)

/-- The most recent event of each required kind. -/
def latest (events : List ShortTermEvent) : List ShortTermEvent :=
  requiredKinds.filterMap fun kind => (ordered events).find? fun e => e.kind = kind

/-- The first events of their kind and value that are not the most recent of a required kind but
bear the id of such an event. -/
def shadowed (events : List ShortTermEvent) : List ShortTermEvent :=
  (leaders events).filter fun e =>
    e ∉ latest events ∧ e.eventId ∈ (latest events).map ShortTermEvent.eventId

/-! ## Claims -/

/-- What the summary owes to the events. -/
structure Faithful (events : List ShortTermEvent) (s : ShortTermSummary) : Prop where
  required : ∀ kind ∈ requiredKinds, (∃ e ∈ events, e.kind = kind) →
    ∃ e ∈ events, e.kind = kind ∧ (∀ e' ∈ events, e'.kind = kind → e'.ordinal ≤ e.ordinal) ∧
      e.entry ∈ s.entries
  items : s.entries.length ≤ 8
  bytes : canonicalLength (entriesJson s.entries) ≤ 4096 ∧
    (canonicalLength (entriesJson s.entries) + 3) / 4 ≤ 1024
  traceable : ∀ entry ∈ s.entries, ∃ e ∈ events, entry = e.entry

/-- No event is left out but for the cap or for an entry like it. -/
def Complete (events : List ShortTermEvent) (s : ShortTermSummary) : Prop :=
  ∀ e ∈ events, (∃ entry ∈ s.entries, entry.kind = e.kind ∧ entry.safeValue = e.safeValue) ∨
    s.entries.length = 8

/-! ## Order -/

section

variable {α κ : Type} {r le : α → α → Prop} [DecidableRel r]

/-- Sorting by an order sorts by a coarser one as well. -/
theorem pairwise_insertionSort_of (htrans : ∀ a b c, le a b → le b c → le a c)
    (hle : ∀ a b, r a b → le a b) (hnot : ∀ a b, ¬ r a b → le b a) (l : List α) :
    (l.insertionSort r).Pairwise le := by
  have hinsert : ∀ (a : α) (l : List α), l.Pairwise le → (l.orderedInsert r a).Pairwise le := by
    intro a l
    induction l with
    | nil =>
      intro _
      exact List.pairwise_singleton _ a
    | cons b l ih =>
      intro hsorted
      have hb : ∀ c ∈ l, le b c := fun c => List.rel_of_pairwise_cons hsorted
      rw [List.orderedInsert_cons]
      by_cases hab : r a b
      · rw [if_pos hab]
        refine List.Pairwise.cons (fun c hc => ?_) hsorted
        rw [List.mem_cons] at hc
        rcases hc with hcb | hcl
        · rw [hcb]
          exact hle a b hab
        · exact htrans a b c (hle a b hab) (hb c hcl)
      · rw [if_neg hab]
        refine List.Pairwise.cons (fun c hc => ?_) (ih hsorted.of_cons)
        rw [List.mem_orderedInsert] at hc
        rcases hc with hca | hcl
        · rw [hca]
          exact hnot a b hab
        · exact hb c hcl
  induction l with
  | nil => exact List.Pairwise.nil
  | cons a l ih => exact hinsert a _ ih

variable [DecidableEq κ] {key : α → κ} {p : α → Bool}

/-- The first of each key are searched as all are, where the key decides. -/
theorem find?_firstByKey (hp : ∀ x y, key x = key y → p x = p y) (l : List α) : ∀ seen,
    (∀ x, key x ∈ seen → p x = false) → (firstByKey key seen l).find? p = l.find? p := by
  induction l with
  | nil => exact fun _ _ => rfl
  | cons x l ih =>
    intro seen hseen
    unfold firstByKey
    by_cases hx : key x ∈ seen
    · rw [if_pos hx, List.find?_cons, hseen x hx]
      exact ih seen hseen
    · rw [if_neg hx, List.find?_cons, List.find?_cons]
      cases hpx : p x with
      | true => rfl
      | false =>
        apply ih
        intro y hy
        rw [List.mem_cons] at hy
        rcases hy with hsame | hold
        · rw [hp y x hsame]
          exact hpx
        · exact hseen y hold

theorem firstByKey_nodup (l : List α) : ((firstByKey key [] l).map key).Nodup := by
  rw [firstByKey_eq_greedy]
  apply greedy_invariant (P := fun l => (l.map key).Nodup)
  · exact List.nodup_nil
  · intro taken x hnodup hnew
    rw [List.map_append, List.nodup_append]
    refine ⟨hnodup, List.nodup_singleton _, fun k hk k' hk' hsame => ?_⟩
    rw [List.map_singleton, List.mem_singleton] at hk'
    rw [hsame, hk'] at hk
    exact of_decide_eq_true hnew hk

end

/-- By kind, and in a kind the most recent first. -/
def ShortTermEvent.Precedes (a b : ShortTermEvent) : Prop :=
  kindPriority a.kind < kindPriority b.kind ∨
    kindPriority a.kind = kindPriority b.kind ∧ b.ordinal ≤ a.ordinal

theorem Precedes.trans {a b c : ShortTermEvent} (hab : a.Precedes b) (hbc : b.Precedes c) :
    a.Precedes c := by
  unfold ShortTermEvent.Precedes at hab hbc ⊢
  omega

theorem precedes_of_before {a b : ShortTermEvent} (h : a.before b = true) : a.Precedes b := by
  unfold ShortTermEvent.before at h
  unfold ShortTermEvent.Precedes
  split_ifs at h with hkind hordinal
  · exact .inl (of_decide_eq_true h)
  · exact .inr ⟨not_not.mp hkind, Nat.le_of_lt (of_decide_eq_true h)⟩
  · exact .inr ⟨not_not.mp hkind, Nat.le_of_eq (not_not.mp hordinal).symm⟩

theorem precedes_of_not_before {a b : ShortTermEvent} (h : ¬ a.before b = true) :
    b.Precedes a := by
  unfold ShortTermEvent.before at h
  unfold ShortTermEvent.Precedes
  split_ifs at h with hkind hordinal
  · rw [decide_eq_true_eq] at h
    omega
  · rw [decide_eq_true_eq] at h
    omega
  · omega

theorem ordered_precedes (events : List ShortTermEvent) :
    (ordered events).Pairwise ShortTermEvent.Precedes := by
  apply pairwise_insertionSort_of
  · exact fun _ _ _ => Precedes.trans
  · exact fun _ _ => precedes_of_before
  · exact fun _ _ => precedes_of_not_before

theorem mem_ordered {events : List ShortTermEvent} {e : ShortTermEvent} :
    e ∈ ordered events ↔ e ∈ events := List.mem_insertionSort _

/-- The first event of a kind is the most recent. -/
theorem most_recent {events : List ShortTermEvent} {kind : SummaryEventKind} {e : ShortTermEvent}
    (h : ((ordered events).find? fun e => e.kind = kind) = some e) :
    e ∈ events ∧ e.kind = kind ∧ ∀ e' ∈ events, e'.kind = kind → e'.ordinal ≤ e.ordinal := by
  have hsorted := ordered_precedes events
  obtain ⟨hkind, before, after, hsplit, hbefore⟩ := List.find?_eq_some_iff_append.mp h
  rw [decide_eq_true_eq] at hkind
  refine ⟨mem_ordered.mp (List.mem_of_find?_eq_some h), hkind, ?_⟩
  intro e' he' hkind'
  rw [← mem_ordered, hsplit, List.mem_append, List.mem_cons] at he'
  rcases he' with hearly | hsame | hlate
  · have hother := hbefore e' hearly
    simp [hkind'] at hother
  · rw [hsame]
  · rw [hsplit, List.pairwise_append] at hsorted
    have hprecedes := List.rel_of_pairwise_cons hsorted.2.1 hlate
    unfold ShortTermEvent.Precedes at hprecedes
    rw [hkind, hkind'] at hprecedes
    omega

/-! ## Sizes -/

theorem escapeByte_safeChar {b : Nat} (h : safeChar b = true) : escapeByte b = [b] := by
  unfold safeChar isLower isDigit at h
  simp only [Bool.or_eq_true, Bool.and_eq_true, Nat.ble_eq, Nat.beq_eq] at h
  apply escapeByte_plain <;> omega

theorem escapedLength_safeValue {s : String} (h : isSafeValue s = true) :
    escapedLength (utf8 s) ≤ 120 := by
  unfold isSafeValue matchesPattern at h
  cases htext : utf8 s with
  | nil => exact Nat.zero_le _
  | cons b bytes =>
    rw [htext] at h
    simp only [Bool.and_eq_true, Bool.or_eq_true, decide_eq_true_eq, List.all_eq_true] at h
    have ⟨⟨hfirst, hrest⟩, hlength⟩ := h
    have hb : safeChar b = true := by
      unfold safeChar
      simp only [Bool.or_eq_true]
      tauto
    rw [escapedLength_plain, List.length_cons]
    · omega
    · intro c hc
      rw [List.mem_cons] at hc
      rcases hc with hcb | hc
      · rw [hcb]
        exact escapeByte_safeChar hb
      · exact escapeByte_safeChar (hrest c hc)

/-- An entry within the schema. -/
def SummaryEntry.small (e : SummaryEntry) : Prop :=
  isSafeValue e.safeValue = true ∧ e.ordinal ≤ 1000000

theorem canonicalLength_entry {e : SummaryEntry} (h : e.small) :
    canonicalLength e.modelDump ≤ 262 := by
  have hkind : escapedLength (utf8 e.kind.value) ≤ 16 := by cases e.kind <;> decide
  have hvalue := escapedLength_safeValue h.1
  have hordinal : width e.ordinal ≤ 7 := width_mono (by omega) (Int.ofNat_le.mpr h.2)
  have hnumber : canonicalLength (.num e.ordinal) = width e.ordinal := rfl
  have hnames : escapedLength (utf8 "kind") = 4 ∧ escapedLength (utf8 "safe_value") = 10 ∧
      escapedLength (utf8 "source_hash") = 11 ∧ escapedLength (utf8 "ordinal") = 7 := by decide
  unfold SummaryEntry.modelDump
  rw [canonicalLength_obj (List.cons_ne_nil _ _)]
  simp only [fieldsLength, canonicalLength_str, Json.digest, escapedLength_hex, hnumber, hnames]
  omega

theorem canonicalLength_entries {entries : List SummaryEntry} (hsmall : ∀ e ∈ entries, e.small)
    (hlength : entries.length ≤ 8) : canonicalLength (entriesJson entries) ≤ 2118 := by
  have hname : escapedLength (utf8 "entries") = 7 := by decide
  have hitems : ∀ l : List SummaryEntry, canonicalItems (l.map SummaryEntry.modelDump) =
      l.map fun e => canonicalBytes e.modelDump := by
    intro l
    induction l with
    | nil => rfl
    | cons e l ih => rw [List.map_cons, canonicalItems, ih, List.map_cons]
  have hsum : ∀ l : List SummaryEntry, (∀ e ∈ l, e.small) →
      ((l.map fun e => canonicalBytes e.modelDump).map fun item => item.length + 1).sum ≤
        263 * l.length := by
    intro l
    induction l with
    | nil => exact fun _ => Nat.le_refl _
    | cons e l ih =>
      intro hall
      have hhead : (canonicalBytes e.modelDump).length ≤ 262 :=
        canonicalLength_entry (hall e List.mem_cons_self)
      have hrest := ih fun e' he' => hall e' (List.mem_cons_of_mem e he')
      rw [List.map_cons, List.map_cons, List.sum_cons, List.length_cons]
      omega
  have harray : canonicalLength (.arr (entries.map SummaryEntry.modelDump)) ≤
      263 * entries.length + 2 := by
    unfold canonicalLength
    rw [canonicalBytes, hitems]
    by_cases hnil : (entries.map fun e => canonicalBytes e.modelDump) = []
    · rw [hnil]
      simp [commaJoin]
    · have hjoin := commaJoin_length_succ hnil
      have hbound := hsum entries hsmall
      simp only [List.length_append, List.length_cons, List.length_nil]
      omega
  unfold entriesJson
  rw [canonicalLength_obj (List.cons_ne_nil _ _)]
  simp only [fieldsLength, hname]
  omega

/-- Small entries are in the way of no other. -/
theorem chooseEntries_eq : ∀ (events : List ShortTermEvent) (entries : List SummaryEntry),
    (∀ e ∈ entries, e.small) → (∀ e ∈ events, e.entry.small) → entries.length ≤ 8 →
    chooseEntries entries events =
      entries ++ (events.take (8 - entries.length)).map ShortTermEvent.entry := by
  intro events
  induction events with
  | nil =>
    intro entries _ _ _
    rw [List.take_nil, List.map_nil, List.append_nil]
    rfl
  | cons e events ih =>
    intro entries hentries hevents hlength
    unfold chooseEntries
    by_cases hfull : entries.length ≥ 8
    · rw [if_pos hfull, Nat.sub_eq_zero_of_le hfull, List.take_zero, List.map_nil,
        List.append_nil]
    · rw [if_neg hfull]
      have hmore : ∀ e' ∈ entries ++ [e.entry], e'.small := by
        intro e' he'
        rw [List.mem_append, List.mem_singleton] at he'
        rcases he' with hold | hnew
        · exact hentries e' hold
        · rw [hnew]
          exact hevents e List.mem_cons_self
      have hnext : (entries ++ [e.entry]).length ≤ 8 := by
        rw [List.length_append, List.length_singleton]
        omega
      have hbytes := canonicalLength_entries hmore hnext
      show (if canonicalLength (entriesJson (entries ++ [e.entry])) ≤ 4096 ∧
        (canonicalLength (entriesJson (entries ++ [e.entry])) + 3) / 4 ≤ 1024 then _ else _) = _
      rw [if_pos (by omega)]
      show chooseEntries (entries ++ [e.entry]) events = _
      rw [ih _ hmore (fun e' he' => hevents e' (List.mem_cons_of_mem e he')) hnext,
        List.length_append, List.length_singleton]
      have hroom : 8 - entries.length = 8 - (entries.length + 1) + 1 := by omega
      rw [hroom, List.take_succ_cons, List.map_cons, List.append_assoc]
      rfl

/-! ## Selection -/

/-- The events in the order in which they are offered. -/
def candidates (events : List ShortTermEvent) : List ShortTermEvent :=
  latest events ++ (leaders events).filter fun e =>
    e.eventId ∉ (latest events).map ShortTermEvent.eventId

section

variable {events : List ShortTermEvent} {e : ShortTermEvent}

theorem mem_leaders (h : e ∈ leaders events) : e ∈ events := by
  rw [← mem_ordered]
  exact (firstByKey_sublist _ _ _).subset h

/-- Each kind and value has one leader. -/
theorem leaders_pairs : ((leaders events).map ShortTermEvent.pair).Nodup := firstByKey_nodup _

theorem leader_of_mem (h : e ∈ events) : ∃ l ∈ leaders events, l.pair = e.pair := by
  have hkey : e.pair ∈ (leaders events).map ShortTermEvent.pair :=
    (keys_firstByKey _ _ _ List.not_mem_nil).mpr ⟨e, mem_ordered.mpr h, rfl⟩
  exact List.mem_map.mp hkey

theorem find?_leaders (kind : SummaryEventKind) :
    ((leaders events).find? fun e => e.kind = kind) =
      (ordered events).find? fun e => e.kind = kind := by
  apply find?_firstByKey
  · intro x y hpair
    unfold ShortTermEvent.pair at hpair
    rw [(Prod.mk.inj hpair).1]
  · intro x hx
    cases hx

theorem mem_latest : e ∈ latest events ↔ e.kind ∈ requiredKinds ∧
    ((ordered events).find? fun e' => e'.kind = e.kind) = some e := by
  unfold latest
  rw [List.mem_filterMap]
  constructor
  · rintro ⟨kind, hkind, hfound⟩
    have hsame := (most_recent hfound).2.1
    rw [hsame]
    exact ⟨hkind, hfound⟩
  · exact fun ⟨hkind, hfound⟩ => ⟨e.kind, hkind, hfound⟩

theorem leader_of_latest (h : e ∈ latest events) : e ∈ leaders events := by
  have hfound := (mem_latest.mp h).2
  rw [← find?_leaders] at hfound
  exact List.mem_of_find?_eq_some hfound

theorem latest_nodup : (latest events).Nodup := by
  have hkinds : ∀ kinds : List SummaryEventKind, kinds.Nodup →
      (kinds.filterMap fun kind => (ordered events).find? fun e => e.kind = kind).Nodup := by
    intro kinds hnodup
    apply List.Nodup.filterMap _ hnodup
    intro kind kind' e hkind hkind'
    rw [Option.mem_def] at hkind hkind'
    rw [← (most_recent hkind).2.1, ← (most_recent hkind').2.1]
  exact hkinds _ (by decide)

theorem mem_candidates : e ∈ candidates events ↔ e ∈ leaders events ∧ e ∉ shadowed events := by
  unfold candidates shadowed
  rw [List.mem_append, List.mem_filter, List.mem_filter]
  simp only [decide_eq_true_eq]
  constructor
  · rintro (hlatest | ⟨hleader, hid⟩)
    · exact ⟨leader_of_latest hlatest, fun h => h.2.1 hlatest⟩
    · exact ⟨hleader, fun h => hid h.2.2⟩
  · rintro ⟨hleader, hlit⟩
    by_cases hlatest : e ∈ latest events
    · exact .inl hlatest
    · exact .inr ⟨hleader, fun hid => hlit ⟨hleader, hlatest, hid⟩⟩

theorem candidates_length :
    (candidates events).length + (shadowed events).length = (leaders events).length := by
  have hleaders : (leaders events).Nodup := List.Nodup.of_map _ leaders_pairs
  have hshadowed : (shadowed events).Nodup := hleaders.filter _
  have hcandidates : (candidates events).Nodup := by
    unfold candidates
    rw [List.nodup_append]
    refine ⟨latest_nodup, hleaders.filter _, fun a ha b hb hab => ?_⟩
    have hid := of_decide_eq_true (List.mem_filter.mp hb).2
    rw [← hab] at hid
    exact hid (List.mem_map_of_mem ha)
  have hboth : (candidates events ++ shadowed events).Nodup := by
    rw [List.nodup_append]
    refine ⟨hcandidates, hshadowed, fun a ha b hb hab => ?_⟩
    rw [← hab] at hb
    exact (mem_candidates.mp ha).2 hb
  have hperm : (candidates events ++ shadowed events).Perm (leaders events) := by
    rw [List.perm_ext_iff_of_nodup hboth hleaders]
    intro a
    rw [List.mem_append, mem_candidates]
    constructor
    · rintro (h | h)
      · exact h.1
      · exact (List.mem_filter.mp h).1
    · intro h
      by_cases hshadow : a ∈ shadowed events
      · exact .inr hshadow
      · exact .inl ⟨h, hshadow⟩
  rw [← hperm.length_eq, List.length_append]

theorem mem_events_of_candidate (h : e ∈ candidates events) : e ∈ events :=
  mem_leaders (mem_candidates.mp h).1

theorem entries_eq (taskId scopeId : String) (hvalid : ∀ e ∈ events, e.valid = true) :
    (summarize taskId scopeId events).entries =
      ((candidates events).take 8).map ShortTermEvent.entry := by
  have hchosen : (summarize taskId scopeId events).entries =
      chooseEntries [] (candidates events) := by
    unfold candidates latest
    simp only [← find?_leaders]
    rfl
  rw [hchosen, chooseEntries_eq _ _ (fun _ h => absurd h List.not_mem_nil) _ (Nat.zero_le 8)]
  · rfl
  · intro e he
    have h := hvalid e (mem_events_of_candidate he)
    unfold ShortTermEvent.valid at h
    simp only [Bool.and_eq_true, decide_eq_true_eq] at h
    exact ⟨h.1.2, h.2.2⟩

theorem latest_length_le : (latest events).length ≤ 4 := List.length_filterMap_le _ _

/-- The most recent events are among the first eight. -/
theorem latest_chosen (h : e ∈ latest events) : e ∈ (candidates events).take 8 := by
  have hlength : (latest events).length ≤ 4 := latest_length_le
  unfold candidates
  rw [List.take_append, List.mem_append, List.take_of_length_le (by omega)]
  exact .inl h

theorem entries_small {entries : List SummaryEntry} (hvalid : ∀ e ∈ events, e.valid = true)
    (htraced : ∀ entry ∈ entries, ∃ e ∈ events, entry = e.entry) : ∀ e ∈ entries, e.small := by
  intro entry hentry
  obtain ⟨e, he, rfl⟩ := htraced entry hentry
  have h := hvalid e he
  unfold ShortTermEvent.valid at h
  simp only [Bool.and_eq_true, decide_eq_true_eq] at h
  exact ⟨h.1.2, h.2.2⟩

theorem summarize_faithful (taskId scopeId : String) (hvalid : ∀ e ∈ events, e.valid = true) :
    Faithful events (summarize taskId scopeId events) := by
  have hentries := entries_eq taskId scopeId hvalid
  have htraced : ∀ entry ∈ (summarize taskId scopeId events).entries,
      ∃ e ∈ events, entry = e.entry := by
    intro entry hentry
    rw [hentries] at hentry
    obtain ⟨e, he, rfl⟩ := List.mem_map.mp hentry
    exact ⟨e, mem_events_of_candidate (List.mem_of_mem_take he), rfl⟩
  have hitems : (summarize taskId scopeId events).entries.length ≤ 8 := by
    rw [hentries, List.length_map]
    exact List.length_take_le _ _
  have hbytes := canonicalLength_entries (entries_small hvalid htraced) hitems
  refine ⟨?_, hitems, by omega, htraced⟩
  intro kind hkind ⟨e, he, hsame⟩
  have hfound : ((ordered events).find? fun e => e.kind = kind) ≠ none := by
    intro hnone
    have hnot := List.find?_eq_none.mp hnone e (mem_ordered.mpr he)
    exact hnot (decide_eq_true hsame)
  obtain ⟨l, hl⟩ := Option.ne_none_iff_exists'.mp hfound
  have ⟨hmem, hkind', hrecent⟩ := most_recent hl
  refine ⟨l, hmem, hkind', hrecent, ?_⟩
  rw [hentries]
  apply List.mem_map_of_mem
  apply latest_chosen
  rw [mem_latest, hkind']
  exact ⟨hkind, hl⟩

theorem summarize_complete_iff (taskId scopeId : String) (hvalid : ∀ e ∈ events, e.valid = true) :
    Complete events (summarize taskId scopeId events) ↔
      shadowed events = [] ∨ 8 + (shadowed events).length ≤ (leaders events).length := by
  have hentries := entries_eq taskId scopeId hvalid
  have hlength : (candidates events).length + (shadowed events).length =
      (leaders events).length := candidates_length
  by_cases hfull : 8 ≤ (candidates events).length
  · refine iff_of_true ?_ (.inr (by omega))
    intro e he
    refine .inr ?_
    rw [hentries, List.length_map, List.length_take]
    omega
  · have hall : (candidates events).take 8 = candidates events :=
      List.take_of_length_le (by omega)
    rw [hall] at hentries
    have hshort : (summarize taskId scopeId events).entries.length ≠ 8 := by
      rw [hentries, List.length_map]
      omega
    constructor
    · intro hcomplete
      refine .inl (List.eq_nil_iff_forall_not_mem.mpr fun l hl => ?_)
      have hleader := (List.mem_filter.mp hl).1
      obtain ⟨entry, hentry, hkind, hvalue⟩ :=
        (hcomplete l (mem_leaders hleader)).resolve_right hshort
      rw [hentries] at hentry
      obtain ⟨c, hc, rfl⟩ := List.mem_map.mp hentry
      -- the leader of a kind and value is unique, so the entry would be that of `l`
      have hpair : c.pair = l.pair := Prod.ext hkind hvalue
      have hsame : c = l :=
        List.inj_on_of_nodup_map leaders_pairs (mem_candidates.mp hc).1 hleader hpair
      rw [hsame] at hc
      exact (mem_candidates.mp hc).2 hl
    · intro hcondition e he
      have hnone : shadowed events = [] := hcondition.resolve_right (by omega)
      obtain ⟨l, hl, hpair⟩ := leader_of_mem he
      refine .inl ⟨l.entry, ?_, (Prod.mk.inj hpair).1, (Prod.mk.inj hpair).2⟩
      rw [hentries]
      apply List.mem_map_of_mem
      rw [mem_candidates, hnone]
      exact ⟨hl, List.not_mem_nil⟩

theorem summarize_valid (taskId scopeId : String) (hvalid : ∀ e ∈ events, e.valid = true)
    (hlength : events.length ≤ 12) : (summarize taskId scopeId events).valid = true := by
  have hfaithful := summarize_faithful taskId scopeId hvalid
  have hordered : (ordered events).length = events.length := List.length_insertionSort _ _
  have hleaders : (leaders events).length ≤ 12 := by
    have hle := (firstByKey_sublist ShortTermEvent.pair (ordered events) []).length_le
    unfold leaders
    omega
  have hsources :
      (firstByKey id [] ((ordered events).map ShortTermEvent.sourceHash)).length ≤ 12 := by
    have hle :=
      (firstByKey_sublist id ((ordered events).map ShortTermEvent.sourceHash) []).length_le
    rw [List.length_map] at hle
    omega
  unfold ShortTermSummary.valid
  rw [Bool.and_eq_true, decide_eq_true_eq, List.all_eq_true]
  constructor
  · intro entry hentry
    obtain ⟨e, he, rfl⟩ := hfaithful.traceable entry hentry
    have h := hvalid e he
    unfold ShortTermEvent.valid at h
    rw [Bool.and_eq_true, Bool.and_eq_true] at h
    rw [Bool.and_eq_true]
    exact ⟨h.1.2, h.2⟩
  · refine ⟨hfaithful.items, hsources, hlength, hleaders, hfaithful.items, ?_, hfaithful.bytes⟩
    show events.length - _ ≤ 12
    omega

end

/-- Accepted events are summarised faithfully; the summary is complete exactly if no first event
of its kind and value is shadowed by a most recent one, or eight others are there. -/
theorem summary_keeps_iff (taskId scopeId : String) (events : List ShortTermEvent)
    (hlength : events.length ≤ 12) (howned : ∀ e ∈ events, e.taskId = taskId ∧ e.scopeId = scopeId)
    (hvalid : ∀ e ∈ events, e.valid = true) :
    ∃ s, shortTermSummary taskId scopeId events = .ok s ∧ Faithful events s ∧
      (Complete events s ↔
        shadowed events = [] ∨ 8 + (shadowed events).length ≤ (leaders events).length) := by
  refine ⟨summarize taskId scopeId events, ?_, summarize_faithful taskId scopeId hvalid,
    summarize_complete_iff taskId scopeId hvalid⟩
  unfold shortTermSummary
  rw [if_neg (by omega), if_neg]
  · exact if_pos (summarize_valid taskId scopeId hvalid hlength)
  · rw [List.any_eq_true]
    rintro ⟨e, he, hforeign⟩
    have hown := howned e he
    simp [hown] at hforeign

/-! ## A repeated id -/

/-- An issue and a supplement of the user under one id. -/
def repeatedId : List ShortTermEvent :=
  [⟨"event_one", "w7-jml-joiner-001-v1", "syn_scope_alpha", .unresolvedIssue, "badge_missing",
      ⟨0⟩, 1⟩,
    ⟨"event_one", "w7-jml-joiner-001-v1", "syn_scope_alpha", .userSupplement, "desk_seven",
      ⟨0⟩, 2⟩]

theorem summary_keeps_iff_repeatedId :
    ∃ s, shortTermSummary "w7-jml-joiner-001-v1" "syn_scope_alpha" repeatedId = .ok s ∧
      Faithful repeatedId s ∧
      (Complete repeatedId s ↔ shadowed repeatedId = [] ∨
        8 + (shadowed repeatedId).length ≤ (leaders repeatedId).length) :=
  summary_keeps_iff _ _ repeatedId (by decide) (by decide) (by decide +kernel)

/-- The supplement is lost, though seven entries were free. -/
theorem supplement_left_out :
    (∀ e ∈ repeatedId, e.valid = true) ∧
    ∃ s, shortTermSummary "w7-jml-joiner-001-v1" "syn_scope_alpha" repeatedId = .ok s ∧
      s.entries.length = 1 ∧ ¬ Complete repeatedId s := by
  refine ⟨by decide +kernel, summarize "w7-jml-joiner-001-v1" "syn_scope_alpha" repeatedId,
    ?_, ?_, ?_⟩
  · unfold shortTermSummary
    rw [if_neg (by decide), if_neg (by decide)]
    exact if_pos (by decide +kernel)
  · decide +kernel
  · intro h
    have hlost := h ⟨"event_one", "w7-jml-joiner-001-v1", "syn_scope_alpha", .userSupplement,
      "desk_seven", ⟨0⟩, 2⟩ (by decide)
    revert hlost
    decide +kernel

end FlowPilot.Planning.Context
