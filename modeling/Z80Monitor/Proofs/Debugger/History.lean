import Z80Monitor.Proofs.Debugger.Requests

/-!
# The history of a session

A session remembers the latest of the steps that were made in it, as many as its configuration
admits, and apart from them always the latest one. Steps count that were made alone or in a run, of
runs that failed as well; steps that the processor made without the session do not. What is changed
between the steps does not matter, and only a reset of the session makes it forget.
-/

namespace Z80Monitor.Session

/-- The snapshots made since the work began or the session was last reset, when those made before a
request are given. -/
def recordBehind (session : Session) (made : List Snapshot) (request : Request) :
    List Snapshot :=
  match request with
  | .reset => []
  | _ => made ++ session.snapshotsOf request

/-- The snapshots made since the work began or the session was last reset, when those made before
some requests are given. -/
def record (session : Session) (made : List Snapshot) : List Request → List Snapshot
  | [] => made
  | request :: rest =>
    (session.respond request).2.record (session.recordBehind made request) rest

/-- A session remembers the latest of the snapshots made. -/
structure Remembers (session : Session) (made : List Snapshot) : Prop where
  /-- As many as the configuration admits are remembered, the latest first. -/
  recent : session.recent = made.reverse.take session.configuration.historyLimit
  /-- The latest one is remembered apart from them. -/
  last : session.last = made.getLast?

variable {configuration : Configuration} {session later : Session} {made more : List Snapshot}

/-- A reset session remembers nothing. -/
theorem remembers_reset (session : Session) : session.reset.Remembers [] :=
  ⟨List.take_nil.symm, rfl⟩

/-- What a session remembers was made. -/
theorem Remembers.mem_of_mem_recent (remembers : session.Remembers made) {snapshot : Snapshot}
    (listed : snapshot ∈ session.recent) : snapshot ∈ made := by
  rw [remembers.recent] at listed
  exact List.mem_reverse.mp (List.mem_of_mem_take listed)

/-- The latest snapshot that a session remembers was made. -/
theorem Remembers.mem_of_mem_last (remembers : session.Remembers made) {snapshot : Snapshot}
    (latest : snapshot ∈ session.last) : snapshot ∈ made := by
  rw [remembers.last] at latest
  exact List.mem_of_getLast? latest

/-- A step is remembered behind those made before. -/
theorem Remembers.advance (remembers : session.Remembers made) :
    session.advance.2.Remembers (made ++ [session.advance.1]) := by
  constructor
  · have limit : session.advance.2.configuration = session.configuration := rfl
    rw [limit, List.reverse_concat, ← take_cons_take, ← remembers.recent]
    rfl
  · rw [List.getLast?_concat]
    rfl

/-- Single steps are remembered behind those made before. -/
theorem Remembers.after (remembers : session.Remembers made) (count : Nat) :
    (session.after count).Remembers (made ++ session.snapshots count) := by
  induction count with
  | zero =>
    rw [snapshots, List.range_zero, List.map_nil, List.append_nil]
    exact remembers
  | succ count ih =>
    rw [snapshots_succ, ← List.append_assoc]
    exact ih.advance

/-- What a request records is remembered behind what was recorded before. -/
theorem Remembers.records (remembers : session.Remembers made)
    (recorded : session.Records more later) : later.Remembers (made ++ more) := by
  cases recorded with
  | kept configuration recent last =>
    rw [List.append_nil]
    constructor
    · rw [recent, configuration, remembers.recent]
    · rw [last, remembers.last]
  | stepped count => exact remembers.after count

/-- Behind a request the session remembers the latest of the snapshots made by then. -/
theorem Remembers.respond (remembers : session.Remembers made) (request : Request) :
    (session.respond request).2.Remembers (session.recordBehind made request) := by
  cases request with
  | reset => exact session.remembers_reset
  | _ => exact remembers.records (session.records_respond (by rintro ⟨⟩))

/-- Behind requests the session remembers the latest of the snapshots made by then. -/
theorem Remembers.perform (remembers : session.Remembers made) (requests : List Request) :
    (session.perform requests).Remembers (session.record made requests) := by
  induction requests generalizing session made with
  | nil => exact remembers
  | cons request rest ih => exact ih (remembers.respond request)

/-- Work begins with nothing to remember. -/
theorem Starts.remembers (starts : Starts configuration session) : session.Remembers [] := by
  obtain ⟨_, recent, last⟩ := starts.eq_nil
  exact ⟨recent.trans List.take_nil.symm, last⟩

/-- A session shows the last of the steps made in it, as many as its configuration admits, and the
latest of all. Whatever is asked of it, the history is the end of the list of all snapshots made
since the work began or the session was last reset, by single steps and by runs, of which some may
have failed, and it is as long as the list and the limit admit. The latest snapshot is the last of
the list, if there is one. -/
theorem history_perform (starts : Starts configuration session) (requests : List Request) :
    let made := session.record [] requests
    let reached := session.perform requests
    reached.history <:+ made ∧
      reached.history.length = min configuration.historyLimit made.length ∧
      reached.last = made.getLast? := by
  intro made reached
  have remembers : reached.Remembers made := starts.remembers.perform requests
  have limit : reached.configuration = configuration := starts.configuration_perform requests
  have recent := remembers.recent
  rw [limit] at recent
  refine ⟨?_, ?_, remembers.last⟩
  · rw [history, recent, ← List.reverse_prefix, List.reverse_reverse]
    exact List.take_prefix _ _
  · rw [history, recent, List.length_reverse, List.length_take, List.length_reverse]

/-- A run that fails at an unknown opcode leaves its steps in the history: of the three steps made
by then the last two are remembered, while a step of the processor alone is not. -/
theorem history_perform_failed_run :
    let configuration : Configuration := { historyLimit := 2, onUnimplemented := .fail }
    let requests : List Request :=
      [.loadProgram [0x00, 0x00, 0xED] none, .stepInstruction, .run (some 5) none, .step]
    ∃ session, build configuration = .ok session ∧ Starts configuration session ∧
      (session.record [] requests).map (·.result.pc) = [0, 1, 2] ∧
      (session.perform requests).history <:+ session.record [] requests ∧
      (session.perform requests).history.length = 2 ∧
      (session.perform requests).last.map (·.result.pc) = some 2 := by
  intro configuration requests
  refine ⟨_, rfl, ?_⟩
  generalize built : Session.reset _ = session
  have starts : Starts configuration session := .built (congrArg Except.ok built)
  have pcs : (session.record [] requests).map (·.result.pc) = [0, 1, 2] := by
    rw [← built]
    decide +kernel
  obtain ⟨suffix, length, last⟩ := history_perform starts requests
  have three : (session.record [] requests).length = 3 := by
    rw [← List.length_map (·.result.pc), pcs]
    rfl
  refine ⟨starts, pcs, suffix, ?_, ?_⟩
  · rw [length, three]
    rfl
  · rw [last, ← List.getLast?_map, pcs]
    rfl

end Z80Monitor.Session
