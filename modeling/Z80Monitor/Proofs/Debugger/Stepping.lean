import Z80Monitor.Debugger.Session
import Z80Monitor.Proofs.Processor.Step

/-!
# Stepping a session

The sessions that come one after the other when steps are made. Stepping changes the processor
and what is remembered; the configuration, the breakpoints and the memory stay. Under a policy
other than to fail each step is answered by its snapshot.
-/

namespace Z80Monitor

namespace Session

variable (session : Session)

/-- The session after a number of steps. -/
def after (session : Session) : Nat → Session
  | 0 => session
  | made + 1 => (session.after made).stepInstruction.2

/-- What the step after `made` steps leaves to be seen. -/
def snapshotAt (session : Session) (made : Nat) : Snapshot := (session.after made).advance.1

/-- What the first steps leave to be seen, in order. -/
def snapshots (session : Session) (made : Nat) : List Snapshot :=
  (List.range made).map session.snapshotAt

/-- The answers of the first steps, in order. -/
def answers (session : Session) (made : Nat) : List (Except UnimplementedOpcode Snapshot) :=
  (List.range made).map fun before => (session.after before).stepInstruction.1

/-- Steps are made one after the other. -/
theorem after_add (first second : Nat) :
    session.after (first + second) = (session.after first).after second := by
  induction second with
  | zero => rfl
  | succ second ih =>
    rw [← Nat.add_assoc, after, after, ih]

/-- Steps keep the configuration. -/
@[simp] theorem configuration_after (made : Nat) :
    (session.after made).configuration = session.configuration := by
  induction made with
  | zero => rfl
  | succ made ih => exact ih

/-- Steps keep the breakpoints. -/
@[simp] theorem breakpoints_after (made : Nat) :
    (session.after made).breakpoints = session.breakpoints := by
  induction made with
  | zero => rfl
  | succ made ih => exact ih

/-- Steps keep the memory. -/
theorem memory_after (made : Nat) :
    (session.after made).cpu.state.memory = session.cpu.state.memory := by
  induction made with
  | zero => rfl
  | succ made ih => exact (session.after made).cpu.memory_step.trans ih

/-- A step after others leaves what it leaves in the session reached by them. -/
theorem snapshotAt_add (first second : Nat) :
    session.snapshotAt (first + second) = (session.after first).snapshotAt second := by
  unfold snapshotAt
  rw [after_add]

/-- One more step leaves one more snapshot. -/
theorem snapshots_succ (made : Nat) :
    session.snapshots (made + 1) = session.snapshots made ++ [session.snapshotAt made] := by
  unfold snapshots
  rw [List.range_succ, List.map_append, List.map_singleton]

/-- As many snapshots are left as steps are made. -/
@[simp] theorem length_snapshots (made : Nat) : (session.snapshots made).length = made := by
  unfold snapshots
  rw [List.length_map, List.length_range]

/-- The snapshots are those of the single steps. -/
theorem getElem_snapshots {step made : Nat} (inside : step < (session.snapshots made).length) :
    (session.snapshots made)[step] = session.snapshotAt step := by
  simp only [snapshots, List.getElem_map, List.getElem_range]

/-- The snapshots are those of the single steps, and no others. -/
theorem mem_snapshots {snapshot : Snapshot} {made : Nat} :
    snapshot ∈ session.snapshots made ↔ ∃ step < made, session.snapshotAt step = snapshot := by
  simp only [snapshots, List.mem_map, List.mem_range]

/-- The first of some steps leave the first of their snapshots. -/
theorem take_snapshots {first made : Nat} (within : first ≤ made) :
    (session.snapshots made).take first = session.snapshots first := by
  unfold snapshots
  rw [← List.map_take, List.take_range, Nat.min_eq_left within]

/-- The first step that passes a test is found among the snapshots. -/
theorem findIdx_snapshots_eq (test : Snapshot → Bool) {first made : Nat} (inside : first < made)
    (found : test (session.snapshotAt first) = true)
    (before : ∀ step < first, test (session.snapshotAt step) = false) :
    (session.snapshots made).findIdx test = first := by
  have bounded : first < (session.snapshots made).length := by
    rw [length_snapshots]
    exact inside
  rw [List.findIdx_eq bounded]
  constructor
  · rw [getElem_snapshots]
    exact found
  · intro step earlier
    rw [getElem_snapshots]
    exact before step earlier

/-- The snapshots of some steps and of those behind them are the snapshots of all. -/
theorem snapshots_add (first second : Nat) :
    session.snapshots (first + second) =
      session.snapshots first ++ (session.after first).snapshots second := by
  induction second with
  | zero => exact (List.append_nil _).symm
  | succ second ih =>
    rw [← Nat.add_assoc, snapshots_succ, snapshots_succ, ih, snapshotAt_add, List.append_assoc]

/-- A step shows the state that it leaves. -/
theorem state_snapshotAt (made : Nat) :
    (session.snapshotAt made).state = (session.after (made + 1)).cpu.state := rfl

/-- A list that is cut to a length may be cut before another element is put in front. -/
theorem take_cons_take {α : Type} (first : α) (rest : List α) (limit : Nat) :
    (first :: rest.take limit).take limit = (first :: rest).take limit := by
  cases limit with
  | zero => rfl
  | succ limit =>
    rw [List.take_succ_cons, List.take_succ_cons, List.take_take, Nat.min_eq_left (by omega)]

/-- Steps do not look at what a change of sessions concerns, and keep it. -/
def Unseen (change : Session → Session) : Prop :=
  ∀ session : Session, (change session).advance = (session.advance.1, change session.advance.2)

section Unseen

variable {change : Session → Session} (unseen : Unseen change)

include unseen

/-- Steps behind a change that they do not look at lead to the changed sessions. -/
theorem Unseen.after (made : Nat) : (change session).after made = change (session.after made) := by
  induction made with
  | zero => rfl
  | succ made ih =>
    rw [Session.after, Session.after, ih]
    exact congrArg Prod.snd (unseen (session.after made))

/-- A step leaves the same to be seen behind a change that it does not look at. -/
theorem Unseen.snapshotAt (made : Nat) :
    (change session).snapshotAt made = session.snapshotAt made := by
  unfold Session.snapshotAt
  rw [unseen.after, unseen]

/-- Steps leave the same to be seen behind a change that they do not look at. -/
theorem Unseen.snapshots (made : Nat) :
    (change session).snapshots made = session.snapshots made := by
  unfold Session.snapshots
  exact List.map_congr_left fun before _ => unseen.snapshotAt session before

end Unseen

variable {session}

/-- A step fails where it meets an opcode that stands for no instruction and the policy is to
fail. -/
theorem fails_iff (session : Session) (snapshot : Snapshot) :
    session.fails snapshot = true ↔
      session.configuration.onUnimplemented = .fail ∧
        snapshot.result.status = .unimplemented := by
  unfold fails StepResult.unimplemented
  rw [Bool.and_eq_true, beq_iff_eq, beq_iff_eq, and_comm]

/-- A step that the policy makes no failure of is answered by its snapshot. -/
theorem stepInstruction_of_fails (passes : session.fails session.advance.1 = false) :
    session.stepInstruction = (.ok session.advance.1, session.advance.2) := by
  unfold stepInstruction
  simp only [passes, Bool.false_eq_true, if_false]

/-- A step that the policy makes a failure of is made, and answered by the failure. -/
theorem stepInstruction_of_failing (failing : session.fails session.advance.1 = true) :
    session.stepInstruction = (.error ⟨session.advance.1.result⟩, session.advance.2) := by
  unfold stepInstruction
  simp only [failing, if_true]

/-- Under a policy other than to fail a step is answered by its snapshot. -/
theorem stepInstruction_eq (tolerant : session.configuration.onUnimplemented ≠ .fail) :
    session.stepInstruction = (.ok session.advance.1, session.advance.2) := by
  apply stepInstruction_of_fails
  unfold fails
  rw [beq_eq_false_iff_ne.mpr tolerant, Bool.and_false]

/-- A step that carries out an instruction is answered by its snapshot under every policy. -/
theorem stepInstruction_of_executed (executed : session.advance.1.result.status = .executed) :
    session.stepInstruction = (.ok session.advance.1, session.advance.2) := by
  apply stepInstruction_of_fails
  unfold fails StepResult.unimplemented
  rw [executed]
  rfl

/-- Under a policy other than to fail the steps after others are answered likewise. -/
theorem stepInstruction_after (tolerant : session.configuration.onUnimplemented ≠ .fail)
    (made : Nat) :
    (session.after made).stepInstruction =
      (.ok (session.snapshotAt made), session.after (made + 1)) := by
  have kept : (session.after made).configuration.onUnimplemented ≠ .fail := by
    rw [configuration_after]
    exact tolerant
  have step := stepInstruction_eq kept
  rw [after, step]
  rfl

/-- Under a policy other than to fail all steps are answered by their snapshots. -/
theorem answers_eq (tolerant : session.configuration.onUnimplemented ≠ .fail) (made : Nat) :
    session.answers made = (session.snapshots made).map .ok := by
  unfold answers snapshots
  rw [List.map_map]
  apply List.map_congr_left
  intro before _
  rw [stepInstruction_after tolerant]
  rfl

end Session

end Z80Monitor
