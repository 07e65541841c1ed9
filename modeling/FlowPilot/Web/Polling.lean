import FlowPilot.Store.Status
import Mathlib.Data.List.Nodup
import Mathlib.Data.List.Basic

/-!
# Polling a run

`startRunPolling` of the client's `runs.ts` under every order of what the browser does: timers
fire, loader calls settle, the document becomes hidden and the owner stops the polling, also from
inside a callback.
-/

namespace FlowPilot.Web

/-- `isTerminalRun`. -/
def isTerminalRun (status : RunStatus) : Bool :=
  status = .finishedUngraded ∨ status = .failed ∨ status = .cancelled ∨ status = .expired

inductive Visibility where
  | visible | hidden
  deriving DecidableEq, Repr

/-- What is seen from outside, in order. -/
inductive Note (Run : Type) where
  | requested (n : Nat)
  | settled (n : Nat)
  | updated (n : Nat) (run : Run)
  | failed
  | timedOut
  | stopCalled
  | hiddenHandled

/-- What a callback may do before it returns. -/
inductive Reaction where
  | stop
  | visibilityChange (v : Visibility)

/-- The variables of one call of `startRunPolling`, and what it has registered: the timers that are
armed, the listener and the loader calls in flight. -/
structure Polling (Run : Type) where
  active : Bool
  timer : Option Nat
  armed : List Nat
  nextTimer : Nat
  listening : Bool
  visibility : Visibility
  inFlight : List Nat
  requests : Nat
  notes : List (Note Run)

structure PollingOptions where
  startedAt : Int
  maxDurationMs : Int

/-- What the browser or the owner does next.  A loader that throws at once is one whose call is
rejected before anything else happens. -/
inductive PollingEvent (Run : Type) where
  | fire (timer : Nat) (now : Int) (during : List Reaction)
  | resolve (n : Nat) (run : Run) (during : List Reaction)
  | reject (n : Nat) (during : List Reaction)
  | setVisibility (v : Visibility)
  | visibilityChange
  | stop

variable {Run : Type}

namespace Polling

def note (s : Polling Run) (entry : Note Run) : Polling Run :=
  { s with notes := s.notes ++ [entry] }

/-- `stop`. -/
def stop (s : Polling Run) : Polling Run :=
  if s.active then
    { s with
      active := false
      armed := match s.timer with
        | none => s.armed
        | some timer => s.armed.filter (· ≠ timer)
      listening := false }
  else s

/-- `schedule`. -/
def schedule (s : Polling Run) : Polling Run :=
  if s.active then
    { s with
      timer := some s.nextTimer
      armed := s.armed ++ [s.nextTimer]
      nextTimer := s.nextTimer + 1 }
  else s

/-- `visibilityChanged`, while it is registered. -/
def visibilityChanged (s : Polling Run) : Polling Run :=
  if s.listening ∧ s.visibility = .hidden then (s.note .hiddenHandled).stop else s

/-- The owner calls the returned function. -/
def callStop (s : Polling Run) : Polling Run := (s.note .stopCalled).stop

def react (s : Polling Run) : Reaction → Polling Run
  | .stop => s.callStop
  | .visibilityChange v => ({ s with visibility := v } : Polling Run).visibilityChanged

/-- A callback runs. -/
def callback (s : Polling Run) (entry : Note Run) (during : List Reaction) : Polling Run :=
  during.foldl react (s.note entry)

/-- `tick` up to its `await`. -/
def tick (options : PollingOptions) (now : Int) (during : List Reaction) (s : Polling Run) :
    Polling Run :=
  if ¬ s.active then s
  else if s.visibility = .hidden then s.stop
  else if now - options.startedAt ≥ options.maxDurationMs then s.stop.callback .timedOut during
  else
    callback { s with inFlight := s.inFlight ++ [s.requests], requests := s.requests + 1 }
      (.requested s.requests) during

/-- The promise of a loader call settles. -/
def settle (n : Nat) (s : Polling Run) : Polling Run :=
  note { s with inFlight := s.inFlight.filter (· ≠ n) } (.settled n)

/-- The rest of `tick` after its `await`. -/
def resume (status : Run → RunStatus) (n : Nat) (run : Run) (during : List Reaction)
    (s : Polling Run) : Polling Run :=
  if ¬ s.active then s
  else if isTerminalRun (status run) then (s.callback (.updated n run) during).stop
  else (s.callback (.updated n run) during).schedule

/-- The `catch` of `tick`. -/
def caught (during : List Reaction) (s : Polling Run) : Polling Run :=
  if ¬ s.active then s else s.stop.callback .failed during

def step (status : Run → RunStatus) (options : PollingOptions) (s : Polling Run) :
    PollingEvent Run → Polling Run
  | .fire timer now during =>
    if timer ∈ s.armed then
      tick options now during { s with armed := s.armed.filter (· ≠ timer) }
    else s
  | .resolve n run during =>
    if n ∈ s.inFlight then (s.settle n).resume status n run during else s
  | .reject n during => if n ∈ s.inFlight then (s.settle n).caught during else s
  | .setVisibility v => { s with visibility := v }
  | .visibilityChange => s.visibilityChanged
  | .stop => s.callStop

end Polling

/-- `startRunPolling`. -/
def startRunPolling (initialStatus : RunStatus) (visibility : Visibility) : Polling Run :=
  let idle : Polling Run :=
    { active := false
      timer := none
      armed := []
      nextTimer := 0
      listening := false
      visibility := visibility
      inFlight := []
      requests := 0
      notes := [] }
  if isTerminalRun initialStatus then idle
  else Polling.schedule { idle with active := true, listening := true }

def pollingRun (status : Run → RunStatus) (options : PollingOptions) (initialStatus : RunStatus)
    (visibility : Visibility) (events : List (PollingEvent Run)) : Polling Run :=
  events.foldl (Polling.step status options) (startRunPolling initialStatus visibility)

/-! ## What may follow -/

/-- The notes after which nothing is called any more. -/
def Note.ends (status : Run → RunStatus) : Note Run → Bool
  | .requested _ | .settled _ => false
  | .updated _ run => isTerminalRun (status run)
  | .failed | .timedOut | .stopCalled | .hiddenHandled => true

/-- The notes that call the loader or a callback. -/
def Note.calls : Note Run → Bool
  | .requested _ | .updated _ _ | .failed | .timedOut => true
  | .settled _ | .stopCalled | .hiddenHandled => false

/-- A call of `onError` or `onTimeout`. -/
def Note.isLast : Note Run → Bool
  | .failed | .timedOut => true
  | _ => false

def Note.updatedRequest : Note Run → Option Nat
  | .updated n _ => some n
  | _ => none

namespace Polling

/-- The requests whose runs have been delivered, in order. -/
def delivered (s : Polling Run) : List Nat := s.notes.filterMap Note.updatedRequest

variable (status : Run → RunStatus)

/-- What holds at every moment, inside a callback too. -/
structure Sound (s : Polling Run) : Prop where
  timers : s.armed = [] ∨ ∃ t, s.armed = [t] ∧ s.timer = some t ∧ s.inFlight = []
  oneInFlight : s.inFlight.length ≤ 1
  latest : ∀ n ∈ s.inFlight, n < s.requests ∧ ∀ u ∈ s.delivered, u < n
  known : ∀ u ∈ s.delivered, u < s.requests
  order : s.delivered.Pairwise (· < ·)
  silent : s.notes.Pairwise fun a b => a.ends status = true → b.calls = false
  oneLast : s.notes.countP Note.isLast ≤ 1
  released : s.active = false → s.armed = [] ∧ s.listening = false

/-- Nothing has ended an active polling. -/
def Open (s : Polling Run) : Prop := s.active = true → ∀ a ∈ s.notes, a.ends status = false

variable {status} {s : Polling Run} {options : PollingOptions}

theorem delivered_note (entry : Note Run) :
    (s.note entry).delivered = s.delivered ++ entry.updatedRequest.toList := by
  show (s.notes ++ [entry]).filterMap _ = _
  rw [List.filterMap_append]
  cases h : entry.updatedRequest <;> simp [delivered, h]

/-- A note that calls nothing may always be added. -/
theorem Sound.note_quiet (h : Sound status s) {entry : Note Run} (hcalls : entry.calls = false) :
    Sound status (s.note entry) := by
  have hupdate : entry.updatedRequest = none := by
    cases entry <;> first | rfl | cases hcalls
  have hlast : entry.isLast = false := by
    cases entry <;> first | rfl | cases hcalls
  have hdelivered : (s.note entry).delivered = s.delivered := by
    rw [delivered_note, hupdate]
    exact List.append_nil _
  constructor
  · exact h.timers
  · exact h.oneInFlight
  · intro n hn
    rw [hdelivered]
    exact h.latest n hn
  · rw [hdelivered]
    exact h.known
  · rw [hdelivered]
    exact h.order
  · show (s.notes ++ [entry]).Pairwise _
    rw [List.pairwise_append]
    refine ⟨h.silent, List.pairwise_singleton _ _, ?_⟩
    intro a _ b hb _
    rw [List.mem_singleton.mp hb]
    exact hcalls
  · show (s.notes ++ [entry]).countP _ ≤ 1
    have hone := h.oneLast
    rw [List.countP_append, List.countP_singleton, hlast]
    simpa using hone
  · exact h.released

theorem ends_of_isLast {a : Note Run} (h : a.isLast = true) : a.ends status = true := by
  cases a <;> first | rfl | cases h

/-- A call may be added while nothing has ended the polling. -/
theorem Sound.note_call (h : Sound status s) {entry : Note Run}
    (hopen : ∀ a ∈ s.notes, a.ends status = false)
    (hupdate : ∀ n, entry.updatedRequest = some n →
      s.inFlight = [] ∧ n < s.requests ∧ ∀ u ∈ s.delivered, u < n) :
    Sound status (s.note entry) := by
  have hnone : s.notes.countP Note.isLast = 0 := by
    rw [List.countP_eq_zero]
    intro a ha hlast
    have hends := hopen a ha
    rw [ends_of_isLast hlast] at hends
    cases hends
  constructor
  · exact h.timers
  · exact h.oneInFlight
  · intro n hn
    rw [delivered_note]
    cases hentry : entry.updatedRequest with
    | none =>
        rw [Option.toList_none, List.append_nil]
        exact h.latest n hn
    | some m =>
        have hempty : s.inFlight = [] := (hupdate m hentry).1
        have hn' : n ∈ s.inFlight := hn
        rw [hempty] at hn'
        cases hn'
  · intro u hu
    rw [delivered_note] at hu
    cases hentry : entry.updatedRequest with
    | none =>
        rw [hentry, Option.toList_none, List.append_nil] at hu
        exact h.known u hu
    | some m =>
        rw [hentry, Option.toList_some, List.mem_append, List.mem_singleton] at hu
        by_cases hlater : u = m
        · rw [hlater]
          exact (hupdate m hentry).2.1
        · exact h.known u (hu.resolve_right hlater)
  · rw [delivered_note, List.pairwise_append]
    refine ⟨h.order, ?_, ?_⟩
    · cases entry.updatedRequest <;> simp
    · intro u hu m hm
      cases hentry : entry.updatedRequest with
      | none =>
          rw [hentry] at hm
          cases hm
      | some k =>
          rw [hentry, Option.toList_some, List.mem_singleton] at hm
          rw [hm]
          exact (hupdate k hentry).2.2 u hu
  · show (s.notes ++ [entry]).Pairwise _
    rw [List.pairwise_append]
    refine ⟨h.silent, List.pairwise_singleton _ _, ?_⟩
    intro a ha b _ hends
    rw [hopen a ha] at hends
    cases hends
  · show (s.notes ++ [entry]).countP _ ≤ 1
    rw [List.countP_append, hnone, Nat.zero_add]
    exact List.countP_le_length
  · exact h.released

theorem stop_inactive : s.stop.active = false := by
  unfold stop
  by_cases hactive : s.active = true
  · rw [if_pos hactive]
  · rw [if_neg hactive]
    exact Bool.eq_false_iff.mpr hactive

theorem stop_notes : s.stop.notes = s.notes := by
  unfold stop
  by_cases hactive : s.active = true
  · rw [if_pos hactive]
  · rw [if_neg hactive]

theorem Sound.stop (h : Sound status s) : Sound status s.stop := by
  by_cases hactive : s.active = true
  · have harmed : (match s.timer with
        | none => s.armed
        | some timer => s.armed.filter (· ≠ timer)) = [] := by
      rcases h.timers with hnone | ⟨t, harmed, htimer, _⟩
      · cases s.timer with
        | none => exact hnone
        | some t =>
            show s.armed.filter _ = []
            rw [hnone]
            rfl
      · rw [htimer, harmed]
        simp
    unfold Polling.stop
    rw [if_pos hactive, harmed]
    exact ⟨.inl rfl, h.oneInFlight, h.latest, h.known, h.order, h.silent, h.oneLast,
      fun _ => ⟨rfl, rfl⟩⟩
  · unfold Polling.stop
    rw [if_neg hactive]
    exact h

theorem open_stop : Open status s.stop := by
  intro hactive
  rw [stop_inactive] at hactive
  cases hactive

/-! ## Callbacks -/

/-- What a callback leaves as it is. -/
structure Leaves (s t : Polling Run) : Prop where
  inFlight : t.inFlight = s.inFlight
  requests : t.requests = s.requests
  armed : s.armed = [] → t.armed = []

theorem leaves_stop : Leaves s s.stop := by
  unfold stop
  by_cases hactive : s.active = true
  · rw [if_pos hactive]
    refine ⟨rfl, rfl, ?_⟩
    intro hnone
    cases htimer : s.timer with
    | none => exact hnone
    | some t =>
        show s.armed.filter _ = []
        rw [hnone]
        rfl
  · rw [if_neg hactive]
    exact ⟨rfl, rfl, id⟩

theorem Leaves.trans {t u : Polling Run} (h : Leaves s t) (h' : Leaves t u) : Leaves s u :=
  ⟨h'.inFlight.trans h.inFlight, h'.requests.trans h.requests,
    fun hnone => h'.armed (h.armed hnone)⟩

theorem leaves_note (entry : Note Run) : Leaves s (s.note entry) := ⟨rfl, rfl, id⟩

theorem leaves_visibilityChanged : Leaves s s.visibilityChanged := by
  unfold visibilityChanged
  by_cases hhidden : s.listening = true ∧ s.visibility = .hidden
  · rw [if_pos hhidden]
    exact (leaves_note _).trans leaves_stop
  · rw [if_neg hhidden]
    exact ⟨rfl, rfl, id⟩

theorem leaves_react (r : Reaction) : Leaves s (s.react r) := by
  cases r with
  | stop => exact (leaves_note _).trans leaves_stop
  | visibilityChange v =>
      have hsame : Leaves s { s with visibility := v } := ⟨rfl, rfl, id⟩
      exact hsame.trans leaves_visibilityChanged

theorem Sound.visibilityChanged (h : Sound status s) : Sound status s.visibilityChanged := by
  unfold Polling.visibilityChanged
  by_cases hhidden : s.listening = true ∧ s.visibility = .hidden
  · rw [if_pos hhidden]
    exact (h.note_quiet rfl).stop
  · rw [if_neg hhidden]
    exact h

theorem Sound.withVisibility (h : Sound status s) (v : Visibility) :
    Sound status { s with visibility := v } :=
  ⟨h.timers, h.oneInFlight, h.latest, h.known, h.order, h.silent, h.oneLast, h.released⟩

theorem Sound.react (h : Sound status s) (r : Reaction) : Sound status (s.react r) := by
  cases r with
  | stop => exact (h.note_quiet rfl).stop
  | visibilityChange v => exact (h.withVisibility v).visibilityChanged

theorem Open.visibilityChanged (h : Open status s) : Open status s.visibilityChanged := by
  unfold Polling.visibilityChanged
  by_cases hhidden : s.listening = true ∧ s.visibility = .hidden
  · rw [if_pos hhidden]
    exact open_stop
  · rw [if_neg hhidden]
    exact h

theorem Open.react (h : Open status s) (r : Reaction) : Open status (s.react r) := by
  cases r with
  | stop => exact open_stop
  | visibilityChange v =>
      have hsame : Open status { s with visibility := v } := h
      exact hsame.visibilityChanged

theorem foldl_react (during : List Reaction) : ∀ s : Polling Run, Sound status s →
    Sound status (during.foldl Polling.react s) ∧ Leaves s (during.foldl Polling.react s) ∧
      (Open status s → Open status (during.foldl Polling.react s)) := by
  induction during with
  | nil => exact fun s h => ⟨h, ⟨rfl, rfl, id⟩, id⟩
  | cons r rest ih =>
      intro s h
      have ⟨hsound, hleaves, hopen⟩ := ih (s.react r) (h.react r)
      exact ⟨hsound, (leaves_react r).trans hleaves, fun hs => hopen (hs.react r)⟩

theorem callback_spec {entry : Note Run} (during : List Reaction)
    (h : Sound status (s.note entry)) :
    Sound status (s.callback entry during) ∧ Leaves s (s.callback entry during) ∧
      (Open status (s.note entry) → Open status (s.callback entry during)) := by
  have ⟨hsound, hleaves, hopen⟩ := foldl_react during (s.note entry) h
  exact ⟨hsound, (leaves_note entry).trans hleaves, hopen⟩

/-! ## Steps -/

/-- A polling that was stopped with nothing ended before calls one last callback. -/
theorem Sound.last (h : Sound status s) {entry : Note Run} (hlast : entry.isLast = true)
    (hopen : ∀ a ∈ s.notes, a.ends status = false) (during : List Reaction) :
    Sound status (s.stop.callback entry during) ∧ Open status (s.stop.callback entry during) := by
  have hupdate : entry.updatedRequest = none := by
    cases entry <;> first | rfl | cases hlast
  have hnote : Sound status (s.stop.note entry) := by
    refine h.stop.note_call ?_ ?_
    · rw [stop_notes]
      exact hopen
    · intro n hn
      rw [hupdate] at hn
      cases hn
  have ⟨hsound, _, hopen'⟩ := callback_spec during hnote
  refine ⟨hsound, hopen' ?_⟩
  intro hactive
  have hactive' : s.stop.active = true := hactive
  rw [stop_inactive] at hactive'
  cases hactive'

theorem Sound.tick (h : Sound status s) (hopen : Open status s) (harmed : s.armed = [])
    (hidle : s.inFlight = []) (now : Int) (during : List Reaction) :
    Sound status (s.tick options now during) ∧ Open status (s.tick options now during) := by
  unfold Polling.tick
  by_cases hactive : s.active = true
  · rw [if_neg (not_not.mpr hactive)]
    by_cases hhidden : s.visibility = .hidden
    · rw [if_pos hhidden]
      exact ⟨h.stop, open_stop⟩
    · rw [if_neg hhidden]
      by_cases htimeout : now - options.startedAt ≥ options.maxDurationMs
      · rw [if_pos htimeout]
        exact h.last rfl (hopen hactive) during
      · rw [if_neg htimeout]
        -- the loader is called while nothing is armed or in flight
        have hcalled : Sound status
            { s with inFlight := s.inFlight ++ [s.requests], requests := s.requests + 1 } := by
          constructor
          · exact .inl harmed
          · show (s.inFlight ++ [s.requests]).length ≤ 1
            rw [hidle]
            exact Nat.le_refl _
          · intro n hn
            have hn' : n ∈ s.inFlight ++ [s.requests] := hn
            rw [hidle, List.nil_append, List.mem_singleton] at hn'
            rw [hn']
            exact ⟨Nat.lt_succ_self _, h.known⟩
          · exact fun u hu => Nat.lt_succ_of_lt (h.known u hu)
          · exact h.order
          · exact h.silent
          · exact h.oneLast
          · exact h.released
        have hnote : Sound status (note { s with
            inFlight := s.inFlight ++ [s.requests], requests := s.requests + 1 }
              (.requested s.requests)) := by
          refine hcalled.note_call (hopen hactive) ?_
          intro n hn
          cases hn
        have ⟨hsound, _, hopen'⟩ := callback_spec during hnote
        refine ⟨hsound, hopen' ?_⟩
        intro _ a ha
        have ha' : a ∈ s.notes ++ [.requested s.requests] := ha
        rw [List.mem_append, List.mem_singleton] at ha'
        by_cases hrequested : a = .requested s.requests
        · rw [hrequested]
          rfl
        · exact hopen hactive a (ha'.resolve_right hrequested)
  · rw [if_pos hactive]
    exact ⟨h, hopen⟩

theorem Sound.schedule (h : Sound status s) (harmed : s.armed = []) (hidle : s.inFlight = []) :
    Sound status s.schedule := by
  unfold Polling.schedule
  by_cases hactive : s.active = true
  · rw [if_pos hactive]
    constructor
    · refine .inr ⟨s.nextTimer, ?_, rfl, hidle⟩
      show s.armed ++ _ = _
      rw [harmed]
      rfl
    · exact h.oneInFlight
    · exact h.latest
    · exact h.known
    · exact h.order
    · exact h.silent
    · exact h.oneLast
    · intro hinactive
      have hinactive' : s.active = false := hinactive
      rw [hactive] at hinactive'
      cases hinactive'
  · rw [if_neg hactive]
    exact h

theorem Open.schedule (h : Open status s) : Open status s.schedule := by
  unfold Polling.schedule
  by_cases hactive : s.active = true
  · rw [if_pos hactive]
    exact h
  · rw [if_neg hactive]
    exact h

/-- Once its only loader call has settled, a polling has nothing in flight and nothing armed. -/
theorem Sound.settle (h : Sound status s) {n : Nat} (hn : n ∈ s.inFlight) :
    Sound status (s.settle n) ∧ (s.settle n).inFlight = [] ∧ (s.settle n).armed = [] := by
  have honly : s.inFlight = [n] := by
    have hlength := h.oneInFlight
    cases hflight : s.inFlight with
    | nil =>
        rw [hflight] at hn
        cases hn
    | cons m rest =>
        rw [hflight] at hn hlength
        have hrest : rest = [] := by
          rw [List.length_cons] at hlength
          exact List.length_eq_zero_iff.mp (by omega)
        subst hrest
        rw [List.mem_singleton.mp hn]
  have hnone : s.inFlight.filter (· ≠ n) = [] := by
    rw [honly]
    simp
  have harmed : s.armed = [] := by
    rcases h.timers with hnone | ⟨_, _, _, hidle⟩
    · exact hnone
    · rw [hidle] at hn
      cases hn
  have hbefore : Sound status { s with inFlight := s.inFlight.filter (· ≠ n) } := by
    constructor
    · exact .inl harmed
    · show (s.inFlight.filter _).length ≤ 1
      rw [hnone]
      exact Nat.zero_le _
    · intro m hm
      exact h.latest m (List.mem_of_mem_filter hm)
    · exact h.known
    · exact h.order
    · exact h.silent
    · exact h.oneLast
    · exact h.released
  exact ⟨hbefore.note_quiet rfl, hnone, harmed⟩

theorem Sound.resume (h : Sound status s) (hopen : Open status s) {n : Nat} {run : Run}
    (harmed : s.armed = []) (hidle : s.inFlight = []) (hn : n < s.requests)
    (hbefore : ∀ u ∈ s.delivered, u < n) (during : List Reaction) :
    Sound status (s.resume status n run during) ∧ Open status (s.resume status n run during) := by
  unfold Polling.resume
  by_cases hactive : s.active = true
  · rw [if_neg (not_not.mpr hactive)]
    have hnote : Sound status (s.note (.updated n run)) := by
      refine h.note_call (hopen hactive) ?_
      intro m hm
      cases hm
      exact ⟨hidle, hn, hbefore⟩
    have ⟨hsound, hleaves, hopen'⟩ := callback_spec during hnote
    by_cases hterminal : isTerminalRun (status run) = true
    · rw [if_pos hterminal]
      exact ⟨hsound.stop, open_stop⟩
    · rw [if_neg hterminal]
      refine ⟨hsound.schedule (hleaves.armed harmed) (hleaves.inFlight.trans hidle), ?_⟩
      refine (hopen' ?_).schedule
      intro _ a ha
      have ha' : a ∈ s.notes ++ [.updated n run] := ha
      rw [List.mem_append, List.mem_singleton] at ha'
      rcases ha' with hearlier | hupdated
      · exact hopen hactive a hearlier
      · rw [hupdated]
        exact Bool.eq_false_iff.mpr hterminal
  · rw [if_pos hactive]
    exact ⟨h, hopen⟩

theorem Sound.caught (h : Sound status s) (hopen : Open status s) (during : List Reaction) :
    Sound status (s.caught during) ∧ Open status (s.caught during) := by
  unfold Polling.caught
  by_cases hactive : s.active = true
  · rw [if_neg (not_not.mpr hactive)]
    exact h.last rfl (hopen hactive) during
  · rw [if_pos hactive]
    exact ⟨h, hopen⟩

variable (options) in
theorem sound_step (h : Sound status s) (hopen : Open status s) (event : PollingEvent Run) :
    Sound status (s.step status options event) ∧ Open status (s.step status options event) := by
  have hsettled : ∀ n, Open status (s.settle n) := by
    intro n hactive a ha
    have ha' : a ∈ s.notes ++ [.settled n] := ha
    rw [List.mem_append, List.mem_singleton] at ha'
    rcases ha' with hearlier | hsettled
    · exact hopen hactive a hearlier
    · rw [hsettled]
      rfl
  cases event with
  | fire timer now during =>
      rw [Polling.step]
      by_cases hmem : timer ∈ s.armed
      · rw [if_pos hmem]
        rcases h.timers with hnone | ⟨t, harmed, _, hidle⟩
        · rw [hnone] at hmem
          cases hmem
        · have hfired : s.armed.filter (· ≠ timer) = [] := by
            rw [harmed] at hmem ⊢
            rw [List.mem_singleton.mp hmem]
            simp
          have hbefore : Sound status { s with armed := s.armed.filter (· ≠ timer) } :=
            ⟨.inl hfired, h.oneInFlight, h.latest, h.known, h.order, h.silent, h.oneLast,
              fun hinactive => ⟨hfired, (h.released hinactive).2⟩⟩
          exact hbefore.tick hopen hfired hidle now during
      · rw [if_neg hmem]
        exact ⟨h, hopen⟩
  | resolve n run during =>
      rw [Polling.step]
      by_cases hmem : n ∈ s.inFlight
      · rw [if_pos hmem]
        have ⟨hbefore, hidle, harmed⟩ := h.settle hmem
        refine hbefore.resume (hsettled n) harmed hidle (h.latest n hmem).1 ?_ during
        intro u hu
        rw [settle, delivered_note, List.mem_append] at hu
        exact (h.latest n hmem).2 u (hu.resolve_right List.not_mem_nil)
      · rw [if_neg hmem]
        exact ⟨h, hopen⟩
  | reject n during =>
      rw [Polling.step]
      by_cases hmem : n ∈ s.inFlight
      · rw [if_pos hmem]
        exact (h.settle hmem).1.caught (hsettled n) during
      · rw [if_neg hmem]
        exact ⟨h, hopen⟩
  | setVisibility v => exact ⟨h.withVisibility v, hopen⟩
  | visibilityChange => exact ⟨h.visibilityChanged, hopen.visibilityChanged⟩
  | stop => exact ⟨(h.note_quiet rfl).stop, open_stop⟩

variable (status) in
theorem sound_start (initialStatus : RunStatus) (visibility : Visibility) :
    Sound status (startRunPolling initialStatus visibility) ∧
      Open status (startRunPolling initialStatus visibility) := by
  unfold startRunPolling
  dsimp only
  by_cases hterminal : isTerminalRun initialStatus = true
  · rw [if_pos hterminal]
    refine ⟨⟨.inl rfl, Nat.zero_le _, ?_, ?_, .nil, .nil, Nat.zero_le _, fun _ => ⟨rfl, rfl⟩⟩, ?_⟩
    · exact fun n hn => absurd hn List.not_mem_nil
    · exact fun u hu => absurd hu List.not_mem_nil
    · exact fun _ a ha => absurd ha List.not_mem_nil
  · rw [if_neg hterminal]
    refine ⟨⟨.inr ⟨0, rfl, rfl, rfl⟩, Nat.zero_le _, ?_, ?_, .nil, .nil, Nat.zero_le _, ?_⟩, ?_⟩
    · exact fun n hn => absurd hn List.not_mem_nil
    · exact fun u hu => absurd hu List.not_mem_nil
    · intro hinactive
      cases hinactive
    · exact fun _ a ha => absurd ha List.not_mem_nil

variable (options) in
theorem sound_events (events : List (PollingEvent Run)) : ∀ s, Sound status s → Open status s →
    Sound status (events.foldl (step status options) s) ∧
      Open status (events.foldl (step status options) s) := by
  induction events with
  | nil => exact fun s h hopen => ⟨h, hopen⟩
  | cons event rest ih =>
      intro s h hopen
      have ⟨hstep, hopen'⟩ := sound_step options h hopen event
      exact ih _ hstep hopen'

end Polling

/-- The protocol of the polling, over every order of events and whatever the callbacks do. -/
theorem polling_protocol (status : Run → RunStatus) (options : PollingOptions)
    (initialStatus : RunStatus) (visibility : Visibility) (events : List (PollingEvent Run)) :
    let s := pollingRun status options initialStatus visibility events
    s.inFlight.length ≤ 1 ∧
      (s.notes.Pairwise fun a b => a.ends status = true → b.calls = false) ∧
      s.notes.countP Note.isLast ≤ 1 ∧
      s.delivered.Pairwise (· < ·) ∧
      ((∃ a ∈ s.notes, a.ends status = true) → s.active = false) ∧
      (s.active = false → s.armed = [] ∧ s.listening = false) := by
  have ⟨hstart, hopen⟩ := Polling.sound_start status initialStatus visibility
  have ⟨h, hopen'⟩ := Polling.sound_events options events _ hstart hopen
  refine ⟨h.oneInFlight, h.silent, h.oneLast, h.order, ?_, h.released⟩
  intro ⟨a, ha, hends⟩
  by_contra hactive
  rw [hopen' (Bool.eq_true_of_not_eq_false hactive) a ha] at hends
  cases hends

/-- A run is loaded while it runs and once it has finished; a third timer never fires. -/
def twoUpdates : List (PollingEvent RunStatus) :=
  [.fire 0 1000 [], .resolve 0 .running [], .fire 1 2000 [], .resolve 1 .finishedUngraded [],
    .fire 2 3000 []]

theorem polling_protocol_twoUpdates :
    let s := pollingRun id ⟨0, 120000⟩ .running .visible twoUpdates
    s.delivered = [0, 1] ∧ s.delivered.Pairwise (· < ·) ∧ s.requests = 2 ∧ s.armed = [] ∧
      s.listening = false := by
  have ⟨_, _, _, horder, hstopped, hreleased⟩ :=
    polling_protocol id ⟨0, 120000⟩ .running .visible twoUpdates
  have hnotes : (pollingRun id ⟨0, 120000⟩ .running .visible twoUpdates).notes =
      [.requested 0, .settled 0, .updated 0 .running, .requested 1, .settled 1,
        .updated 1 .finishedUngraded] := rfl
  have hterminal : ∃ a ∈ (pollingRun id ⟨0, 120000⟩ .running .visible twoUpdates).notes,
      a.ends id = true := by
    rw [hnotes]
    exact ⟨.updated 1 .finishedUngraded, List.mem_of_getElem? (i := 5) rfl, rfl⟩
  exact ⟨rfl, horder, rfl, hreleased (hstopped hterminal)⟩

end FlowPilot.Web
