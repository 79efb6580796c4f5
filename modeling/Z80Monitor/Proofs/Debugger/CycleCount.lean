import Mathlib.Data.List.Range
import Z80Monitor.Proofs.Debugger.Driving
import Z80Monitor.Proofs.Processor.Footprint

/-!
# Clock cycles

The cycles of a processor are the costs of its steps added up, from when it was new or was last
reset, whatever is done to it in between. Each snapshot of a run goes on where the one in front of
it has ended: at its program counter and with its cycles.
-/

namespace Z80Monitor

/-- The clock cycles that some steps spent together. -/
def totalCycles : List StepResult → Nat
  | [] => 0
  | result :: rest => result.cycles + totalCycles rest

/-- Steps behind others spend their cycles on top. -/
theorem totalCycles_append (first second : List StepResult) :
    totalCycles (first ++ second) = totalCycles first + totalCycles second := by
  induction first with
  | nil => exact (Nat.zero_add _).symm
  | cons result rest ih => rw [List.cons_append, totalCycles, totalCycles, ih, Nat.add_assoc]

/-- A step adds what it spent to the cycles. -/
theorem Cpu.cycles_step (cpu : Cpu) :
    cpu.step.2.state.cycles = cpu.state.cycles + cpu.step.1.cycles := by
  rcases cpu.next_cases with halted | ⟨running, absent⟩ | ⟨running, instruction, listed, held⟩
  · rw [cpu.step_of_halted halted]
    exact (Int.add_zero _).symm
  · rw [cpu.step_of_unlisted running absent]
    rfl
  · rw [cpu.step_of_listed running listed held]

namespace Session

variable {session : Session}

/-- Steps add what they spent to the cycles. -/
theorem cycles_after (session : Session) (made : Nat) :
    (session.after made).cpu.state.cycles =
      session.cpu.state.cycles + totalCycles ((session.snapshots made).map (·.result)) := by
  induction made with
  | zero => exact (Int.add_zero _).symm
  | succ made ih =>
    have step : (session.after (made + 1)).cpu.state.cycles =
        (session.after made).cpu.state.cycles + (session.snapshotAt made).result.cycles :=
      (session.after made).cpu.cycles_step
    rw [step, ih, snapshots_succ, List.map_append, totalCycles_append, Int.natCast_add,
      Int.add_assoc]
    rfl

/-- A request other than a reset adds what its steps spent to the cycles. -/
theorem Drives.cycles_eq {results : List StepResult} {cpu : Cpu}
    (drives : session.Drives results cpu) :
    cpu.state.cycles = session.cpu.state.cycles + totalCycles results := by
  cases drives with
  | idle halted cycles =>
    rw [cycles]
    exact (Int.add_zero _).symm
  | stepped made => exact session.cycles_after made

/-- A request other than a reset takes no cycles away. -/
theorem cycles_le_respond (session : Session) {request : Request}
    (kept : request.resets = false) :
    session.cpu.state.cycles ≤ (session.respond request).2.cpu.state.cycles := by
  rw [(session.drives_respond kept).cycles_eq]
  omega

/-- Requests other than a reset take no cycles away. -/
theorem cycles_le_perform (session : Session) {requests : List Request}
    (kept : ∀ request ∈ requests, request.resets = false) :
    session.cpu.state.cycles ≤ (session.perform requests).cpu.state.cycles := by
  have grows (later : Session) (request : Request) (other : request.resets = false)
      (above : session.cpu.state.cycles ≤ later.cpu.state.cycles) :
      session.cpu.state.cycles ≤ (later.respond request).2.cpu.state.cycles :=
    Int.le_trans above (later.cycles_le_respond other)
  exact holds_performFrom_of_forall grows (Int.le_refl _) kept

/-- The sessions that work with a new processor begins with. -/
inductive Begins (configuration : Configuration) : Session → Prop where
  /-- The session is for the new processor as it stands. -/
  | attached {session : Session} (made : attach .powerOn configuration = .ok session) :
      Begins configuration session
  /-- The session is built, which makes a processor. -/
  | built {session : Session} (made : build configuration = .ok session) :
      Begins configuration session

/-- A new processor has spent no cycles. -/
theorem Begins.cycles_eq_zero {configuration : Configuration}
    (begins : Begins configuration session) : session.cpu.state.cycles = 0 := by
  cases begins with
  | attached made => rw [eq_of_attach made, Cpu.powerOn]
  | built made => rw [eq_of_build made, reset, Cpu.reset]

end Session

/-- A session with what the steps did that its processor made since it was new or was last reset. -/
structure Tallied where
  /-- The session. -/
  session : Session
  /-- What the steps did, in order. -/
  results : List StepResult

namespace Tallied

variable {tallied : Tallied}

/-- The answer to a request, and what the request leaves. A reset starts the tally anew. -/
def respond (tallied : Tallied) (request : Request) : Response × Tallied :=
  let (response, session) := tallied.session.respond request
  let results :=
    if request.resets then [] else tallied.results ++ tallied.session.resultsOf request
  (response, { session, results })

/-- What requests lead to, one after the other. -/
def perform (tallied : Tallied) (requests : List Request) : Tallied :=
  performFrom respond tallied requests

/-- The tally does not interfere with the session. -/
theorem session_perform (tallied : Tallied) (requests : List Request) :
    (tallied.perform requests).session = tallied.session.perform requests :=
  part_performFrom (fun _ _ => rfl) tallied requests

/-- The steps of the tally spent the cycles of the processor. -/
def Adds (tallied : Tallied) : Prop :=
  tallied.session.cpu.state.cycles = totalCycles tallied.results

/-- A request keeps the tally right. -/
theorem Adds.respond (adds : tallied.Adds) (request : Request) :
    (tallied.respond request).2.Adds := by
  unfold Adds Tallied.respond
  dsimp only
  cases resets : request.resets with
  | true => exact (tallied.session.cpu_respond_of_resets resets).2
  | false =>
    rw [(tallied.session.drives_respond resets).cycles_eq, adds, if_neg Bool.false_ne_true,
      totalCycles_append, Int.natCast_add]

end Tallied

/-- A snapshot goes on where the one in front of it has ended. -/
structure Snapshot.Follows (earlier later : Snapshot) : Prop where
  /-- The step started at the program counter that the one in front of it left. -/
  pc : later.result.pc = earlier.state.pc.toNat
  /-- It added what it spent to the cycles. -/
  cycles : later.cycleCount = earlier.cycleCount + later.result.cycles

/-- What a snapshot notes beside the state and the step is what these give. -/
structure Snapshot.Notes (snapshot : Snapshot) (lines : LineMap) : Prop where
  /-- The cycles are those of the state. -/
  cycleCount : snapshot.cycleCount = snapshot.state.cycles
  /-- The source line is the one where the step started, if there is one. -/
  sourceLine : snapshot.sourceLine = lines.lineAt snapshot.result.pc

namespace Session

variable (session : Session)

/-- Steps keep the source lines. -/
theorem lineMap_after (made : Nat) : (session.after made).lineMap = session.lineMap := by
  induction made with
  | zero => rfl
  | succ made ih => exact ih

/-- A step notes its cycles and its source line. -/
theorem notes_snapshotAt (made : Nat) : (session.snapshotAt made).Notes session.lineMap := by
  rw [← session.lineMap_after made]
  exact ⟨rfl, rfl⟩

/-- A step goes on where the step in front of it has ended. -/
theorem follows_snapshotAt (made : Nat) :
    (session.snapshotAt made).Follows (session.snapshotAt (made + 1)) :=
  ⟨(session.after (made + 1)).cpu.pc_step, (session.after (made + 1)).cpu.cycles_step⟩

/-- Each step goes on where the one in front of it has ended. -/
theorem isChain_snapshots (made : Nat) : (session.snapshots made).IsChain Snapshot.Follows := by
  rw [snapshots, List.isChain_map, List.isChain_range]
  exact fun step _ => session.follows_snapshotAt step

/-- Cycles add up, and runs are continuous. Whatever is asked of a session that began with a new
processor, the cycles are those that the steps spent which were made since then or since the last
reset, alone or in runs, of which some may have failed. So between resets they never fall. In what
a run gives, each snapshot goes on where the one in front of it has ended, and notes the cycles
behind its step and the source line of its instruction. -/
theorem cycles_perform {configuration : Configuration} {session : Session}
    (begins : Begins configuration session) (requests : List Request) :
    let reached := Tallied.perform ⟨session, []⟩ requests
    reached.session = session.perform requests ∧
      reached.session.cpu.state.cycles = totalCycles reached.results ∧
      (∀ further, (∀ request ∈ further, request.resets = false) →
        reached.session.cpu.state.cycles ≤ (reached.session.perform further).cpu.state.cycles) ∧
      ∀ limit stopDuring result, (reached.session.run limit stopDuring).1 = .ok result →
        result.snapshots.IsChain Snapshot.Follows ∧
          ∀ snapshot ∈ result.snapshots, snapshot.Notes reached.session.lineMap := by
  intro reached
  have first : Tallied.Adds ⟨session, []⟩ := begins.cycles_eq_zero
  have kept (before : Tallied) (request : Request) (adds : before.Adds) :
      (before.respond request).2.Adds := adds.respond request
  refine ⟨Tallied.session_perform _ requests, holds_performFrom kept first requests, ?_, ?_⟩
  · exact fun further other => reached.session.cycles_le_perform other
  · intro limit stopDuring result ran
    obtain ⟨total, _, given⟩ := reached.session.exists_run_eq_after limit stopDuring
    rw [given result ran]
    refine ⟨reached.session.isChain_snapshots total, ?_⟩
    intro snapshot listed
    obtain ⟨step, _, rfl⟩ := reached.session.mem_snapshots.mp listed
    exact reached.session.notes_snapshotAt step

/-- A reset of the processor takes the cycles of the step in front of it away. Behind it the first
instruction spends seven, and a run goes on from there to the halt. -/
theorem cycles_perform_behind_reset :
    let requests : List Request :=
      [.loadSource "LD A,5\nNOP\nHALT", .stepInstruction, .resetCpu, .step]
    ∃ session, build {} = .ok session ∧ Begins {} session ∧
      let reached := session.perform requests
      reached.cpu.state.cycles = 7 ∧
        ∃ result, (reached.run none none).1 = .ok result ∧
          result.snapshots.map (·.cycleCount) = [11, 15] ∧
          result.snapshots.IsChain Snapshot.Follows := by
  intro requests
  refine ⟨_, rfl, ?_⟩
  generalize built : Session.reset _ = session
  have begins : Begins {} session := .built (congrArg Except.ok built)
  obtain ⟨same, adds, _, continuous⟩ := cycles_perform begins requests
  have spent : totalCycles (Tallied.perform ⟨session, []⟩ requests).results = 7 := by
    subst built
    decide +kernel
  have counts : ((session.perform requests).run none none).1.map
      (·.snapshots.map (·.cycleCount)) = .ok [11, 15] := by
    subst built
    decide +kernel
  rw [same] at adds continuous
  refine ⟨begins, ?_, ?_⟩
  · rw [adds, spent]
    rfl
  · cases gave : ((session.perform requests).run none none).1 with
    | error failure =>
      rw [gave] at counts
      cases counts
    | ok result =>
      rw [gave] at counts
      exact ⟨result, rfl, Except.ok.inj counts, (continuous none none result gave).1⟩

end Session

end Z80Monitor
