import TraceScan.Proofs.Engine.Alignment
import TraceScan.Proofs.Engine.Separation
import TraceScan.Report.Basic

/-!
# Calls

Whatever an engine is used for is a call: an action, a scan with a report, or a question about a
stream. A session is one call after the other, each with its answer. A call comes down to an action
or to none, so that the module says of actions what they do to the index: a delivery stores what it
returns (`index_act_of_delivers`), some actions drop the entries of a stream
(`stream_act_of_forgets`), and all others leave them as they are (`stream_act_of_not`).
-/

namespace TraceScan.Engine

/-! ## Calls and answers -/

/-- A question about a stream. -/
inductive Question where
  | view
  | locations
  | entryAt (position : Nat)
  | locationAt (position : Nat)
  | next (cursor : Nat)
  | previous (cursor : Nat)

/-- Something that an engine is asked to do or to tell. -/
inductive Call where
  | act (action : Action)
  | report (lines : List String) (cwd : Option String) (stream : Option StreamId)
    (durationMs : Nat) (timestamp : String)
  | ask (stream : StreamId) (question : Question)

/-- What an engine answers. -/
inductive Answer where
  | found (ls : List Location)
  | report (r : Report)
  | view (v : Option RollingView)
  | location (l : Option Location)
  | step (result : Except NavigationError Location)

/-- The locations that an engine answers with. -/
def Answer.locations : Answer → List Location
  | .found ls => ls
  | .report r => r.found
  | .location l => l.toList
  | .view _ | .step _ => []

/-- What an engine tells of a stream. -/
def tell (e : Engine) (s : StreamId) : Question → Answer
  | .view => .view (e.view? s)
  | .locations => .found (e.index.locations s)
  | .entryAt position => .location (e.index.get? s position)
  | .locationAt position => .location (e.locationAt s position)
  | .next cursor => .step (e.next s cursor)
  | .previous cursor => .step (e.previous s cursor)

/-- The engine after a call, and its answer. -/
def respond (e : Engine) : Call → Engine × Answer
  | .act action => ((e.act action).1, .found (e.act action).2)
  | .report lines cwd stream durationMs timestamp =>
    let result := e.scanReport lines cwd stream durationMs timestamp
    (result.1, .report result.2)
  | .ask s question => (e, e.tell s question)

/-- The engine after a session, and the answers to its calls. -/
def session (e : Engine) : List Call → Engine × List Answer
  | [] => (e, [])
  | call :: calls =>
    let rest := (e.respond call).1.session calls
    (rest.1, (e.respond call).2 :: rest.2)

/-- Every call of a session is answered. -/
theorem length_session (e : Engine) (calls : List Call) :
    (e.session calls).2.length = calls.length := by
  induction calls generalizing e with
  | nil => rfl
  | cons call calls ih => exact congrArg (· + 1) (ih _)

/-- A session may be cut in two. -/
theorem session_append (e : Engine) (before after : List Call) :
    e.session (before ++ after) =
      (((e.session before).1.session after).1,
        (e.session before).2 ++ ((e.session before).1.session after).2) := by
  induction before generalizing e with
  | nil => rfl
  | cons call before ih =>
    rw [List.cons_append, session, ih]
    rfl

/-! ## Calls as actions -/

/-- The action that a call comes down to. A question changes nothing. -/
def Call.action? : Call → Option Action
  | .act action => some action
  | .report lines cwd stream _ _ => some (.scan lines cwd stream)
  | .ask _ _ => none

/-- Whether a call delivers lines to a stream. -/
def Call.Delivers (s : StreamId) (call : Call) : Prop :=
  ∃ action ∈ call.action?, action.Delivers s

/-- Whether a call makes an engine forget a stream. -/
def Call.Forgets (s : StreamId) (call : Call) : Prop :=
  ∃ action ∈ call.action?, action.Forgets s

/-- A question leaves the engine as it is. -/
theorem respond_fst_of_none {e : Engine} {call : Call} (h : call.action? = none) :
    (e.respond call).1 = e := by
  cases call with
  | ask s question => rfl
  | act action => cases h
  | report lines cwd stream durationMs timestamp => cases h

/-- A call does what its action does, and answers with what the action returns. -/
theorem respond_of_some {e : Engine} {call : Call} {action : Action}
    (h : call.action? = some action) :
    (e.respond call).1 = (e.act action).1 ∧
      (e.respond call).2.locations = (e.act action).2 := by
  cases call with
  | act _ =>
    cases h
    exact ⟨rfl, rfl⟩
  | report lines cwd stream durationMs timestamp =>
    cases h
    exact ⟨rfl, rfl⟩
  | ask s question => cases h

/-- A call delivers to a stream exactly if its action does. -/
theorem delivers_iff_of_some {s : StreamId} {call : Call} {action : Action}
    (h : call.action? = some action) :
    call.Delivers s ↔ action.Delivers s := by
  rw [Call.Delivers, h]
  simp

/-- A call makes a stream be forgotten exactly if its action does. -/
theorem forgets_iff_of_some {s : StreamId} {call : Call} {action : Action}
    (h : call.action? = some action) :
    call.Forgets s ↔ action.Forgets s := by
  rw [Call.Forgets, h]
  simp

/-! ## Actions and entries -/

section Entries

variable {e : Engine} {s : StreamId} {action : Action}

/-- A scan returns locations at rising positions. -/
theorem pairwise_position_scan (e : Engine) (lines : List String) (cwd : Option String)
    (stream : Option StreamId) :
    (e.scan lines cwd stream).2.Pairwise fun a b => a.position < b.position := by
  cases henabled : e.config.enabled with
  | false =>
    rw [e.scan_of_disabled cwd henabled]
    exact List.Pairwise.nil
  | true =>
    rw [e.scan_snd cwd henabled]
    exact e.matcher.pairwise_position_scanFrom _ _ _ _

/-- A chunk returns locations at rising positions. -/
theorem pairwise_position_scanChunk (e : Engine) (stream : StreamId) (chunk : List String)
    (cwd : Option String) :
    (e.scanChunk stream chunk cwd).2.Pairwise fun a b => a.position < b.position := by
  cases henabled : e.config.enabled with
  | false =>
    rw [e.scanChunk_of_disabled stream cwd henabled]
    exact List.Pairwise.nil
  | true =>
    rw [e.scanChunk_snd stream cwd henabled]
    exact e.matcher.pairwise_position_scanFrom _ _ _ _

/-- A delivery returns locations at rising positions. -/
theorem pairwise_position_act (h : action.Delivers s) :
    (e.act action).2.Pairwise fun a b => a.position < b.position := by
  cases action with
  | scan lines cwd stream => exact e.pairwise_position_scan lines cwd stream
  | scanChunk stream chunk cwd => exact e.pairwise_position_scanChunk stream chunk cwd
  | _ => exact h.elim

/-- A delivery stores what it returns. -/
theorem index_act_of_delivers (h : action.Delivers s) :
    (e.act action).1.index = e.index.storeAll s (e.act action).2 := by
  cases action with
  | scan lines cwd stream =>
    obtain rfl : stream = some s := h
    exact e.index_scan s cwd lines
  | scanChunk stream chunk cwd =>
    obtain rfl : stream = s := h
    exact e.index_scanChunk stream cwd chunk
  | _ => exact h.elim

/-- When an engine forgets a stream, no entries of it are left. -/
theorem stream_act_of_forgets (h : action.Forgets s) :
    (e.act action).1.index.stream s = {} := by
  cases action with
  | resetStream stream =>
    obtain rfl : stream = s := h
    show (e.index.clear stream).stream stream = {}
    rw [LocationIndex.stream_clear, if_pos rfl]
  | clearAll => rfl
  | _ => exact h.elim

/-- An action that neither delivers to a stream nor forgets it leaves its entries as they are. -/
theorem stream_act_of_not (hdelivers : ¬ action.Delivers s) (hforgets : ¬ action.Forgets s) :
    (e.act action).1.index.stream s = e.index.stream s := by
  cases action with
  | scan lines cwd stream =>
    have hother : stream ≠ some s := hdelivers
    exact e.stream_index_act (by simpa [Action.concerns] using hother)
  | scanChunk stream chunk cwd =>
    have hother : stream ≠ s := hdelivers
    exact e.stream_index_act (by simpa [Action.concerns] using hother)
  | resetStream stream =>
    have hother : stream ≠ s := hforgets
    exact e.stream_index_act (by simpa [Action.concerns] using hother)
  | clearAll => exact (hforgets trivial).elim
  | setUp config => rfl
  | setEnabled enabled => rfl
  | changeRegistry change => rfl
  | matchLine line cwd => rfl

end Entries

end TraceScan.Engine
