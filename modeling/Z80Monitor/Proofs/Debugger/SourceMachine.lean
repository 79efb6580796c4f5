import Z80Monitor.Proofs.Assembly.Layout
import Z80Monitor.Proofs.Debugger.Stepping

/-!
# Stepping through source text

A machine that works on the lines of a source text: it carries out the instruction of a line and
goes on with the next line, or with the line that a jump leads to. The main statement says that
a session that has loaded the source text steps as this machine does, for as long as the machine
is at a line.
-/

namespace Z80Monitor

namespace EmittedLine

/-- The index of the first line that starts at an address. -/
def indexAt? (program : List EmittedLine) (address : UInt16) : Option Nat :=
  program.findIdx? fun emitted => emitted.address == address

/-- The index at which to go on behind a line, unless the line stops or leads to no line. -/
def successor? (program : List EmittedLine) (index : Nat) (emitted : EmittedLine) : Option Nat :=
  match emitted.instruction with
  | .halt => none
  | .jump target => indexAt? program target
  | .jumpRelative offset =>
    indexAt? program (Instruction.relativeTarget emitted.address.toNat offset)
  | _ => some (index + 1)

/-- A line that is found for an address starts there. -/
theorem address_of_indexAt? {program : List EmittedLine} {address : UInt16} {index : Nat}
    {emitted : EmittedLine} (found : indexAt? program address = some index)
    (listed : program[index]? = some emitted) : emitted.address = address := by
  obtain ⟨inside, here, _⟩ := List.findIdx?_eq_some_iff_getElem.mp found
  rw [List.getElem?_eq_getElem inside] at listed
  obtain rfl := Option.some.inj listed
  exact beq_iff_eq.mp here

/-- Lines follow each other in memory: each one starts behind the instruction of the one
before. -/
def Consecutive (program : List EmittedLine) : Prop :=
  ∀ index emitted following, program[index]? = some emitted →
    program[index + 1]? = some following →
      following.address = word (emitted.address.toNat + emitted.instruction.length)

/-- The lines of a source text follow each other. -/
theorem consecutive_emittedLines (source : String) (origin : Int) :
    Consecutive (emittedLines source origin) :=
  fun _ _ _ found next => address_succ found next

/-- Where a machine goes on behind a line, the processor goes on behind the line's instruction. -/
theorem address_of_successor? {program : List EmittedLine} (consecutive : Consecutive program)
    {before index : Nat} {emitted following : EmittedLine}
    (found : program[before]? = some emitted)
    (successor : emitted.successor? program before = some index)
    (arrived : program[index]? = some following) :
    word (emitted.instruction.next emitted.address.toNat) = following.address := by
  unfold successor? at successor
  split at successor
  · cases successor
  · rename_i target jump
    rw [jump, address_of_indexAt? successor arrived]
    exact word_toNat target
  · rename_i offset jump
    rw [jump, address_of_indexAt? successor arrived]
    rfl
  · rename_i stays moves apart
    obtain rfl := Option.some.inj successor
    rw [consecutive before emitted following found arrived]
    cases kind : emitted.instruction with
    | jump target => exact absurd kind (moves target)
    | jumpRelative offset => exact absurd kind (apart offset)
    | _ => rfl

/-- Nothing comes behind a halt. -/
theorem ne_halt_of_successor? {program : List EmittedLine} {before index : Nat}
    {emitted : EmittedLine} (successor : emitted.successor? program before = some index) :
    emitted.instruction ≠ .halt := by
  intro stopped
  unfold successor? at successor
  rw [stopped] at successor
  cases successor

/-- The lines of a source text that fits are found by their addresses. -/
theorem indexAt?_address {source : String} {origin : Int}
    (fits : (assemble source origin).data.length ≤ 65536) {index : Nat} {emitted : EmittedLine}
    (found : (emittedLines source origin)[index]? = some emitted) :
    indexAt? (emittedLines source origin) emitted.address = some index := by
  obtain ⟨inside, stands⟩ := List.getElem?_eq_some_iff.mp found
  apply List.findIdx?_eq_some_iff_getElem.mpr
  refine ⟨inside, beq_iff_eq.mpr (congrArg address stands), ?_⟩
  intro earlier before same
  have small := Nat.lt_trans before inside
  have equal := index_eq_of_address_eq fits (List.getElem?_eq_getElem small) found
    (beq_iff_eq.mp same)
  omega

end EmittedLine

/-- A machine at the line with an index, or at no line, with what the registers hold. -/
structure SourceMachine where
  /-- The index of the line, counted among the lines that denote instructions. -/
  position : Option Nat
  /-- What the registers hold. -/
  registers : Registers
  deriving DecidableEq, Repr

namespace SourceMachine

/-- Carry out the line that the machine is at and go on behind it. -/
def step (program : List EmittedLine) (machine : SourceMachine) : SourceMachine :=
  match machine.position with
  | none => machine
  | some index =>
    match program[index]? with
    | none => { machine with position := none }
    | some emitted =>
      { position := emitted.successor? program index
        registers := emitted.instruction.resultAt emitted.address.toNat machine.registers }

/-- The machine after a number of steps. -/
def after (program : List EmittedLine) (machine : SourceMachine) : Nat → SourceMachine
  | 0 => machine
  | made + 1 => (machine.after program made).step program

variable {program : List EmittedLine} {machine : SourceMachine} {index : Nat}
  {emitted : EmittedLine}

/-- A machine at a line carries it out. -/
theorem step_eq (here : machine.position = some index) (listed : program[index]? = some emitted) :
    machine.step program =
      { position := emitted.successor? program index
        registers := emitted.instruction.resultAt emitted.address.toNat machine.registers } := by
  simp only [step, here, listed]

/-- A machine comes to a line only from a line. -/
theorem exists_of_position_step (arrived : (machine.step program).position = some index) :
    ∃ before emitted, machine.position = some before ∧ program[before]? = some emitted ∧
      emitted.successor? program before = some index := by
  unfold step at arrived
  split at arrived
  · rename_i nowhere
    rw [nowhere] at arrived
    cases arrived
  · rename_i before here
    split at arrived
    · cases arrived
    · rename_i emitted listed
      exact ⟨before, emitted, here, listed, arrived⟩

end SourceMachine

/-- A session that carries lines in its memory and knows them, and that stands where a machine
on these lines does. -/
structure Session.Follows (session : Session) (program : List EmittedLine)
    (machine : SourceMachine) : Prop where
  /-- Each line denotes an instruction of the opcode table. -/
  listed : ∀ emitted ∈ program, emitted.instruction.Listed
  /-- Each line's instruction stands in memory at the line's address. -/
  held : ∀ emitted ∈ program,
    session.cpu.state.memory.Holds emitted.address.toNat emitted.instruction.encode
  /-- Each line's address is known to come from the line. -/
  known : ∀ emitted ∈ program, session.lineMap.lineAt emitted.address.toNat = some emitted.line
  /-- Where the machine is at a line, the processor is about to carry it out. -/
  ready : ∀ index emitted, machine.position = some index → program[index]? = some emitted →
    session.cpu.state.halted = false ∧ session.cpu.state.registers = machine.registers ∧
      session.cpu.pc = emitted.address

namespace Session.Follows

variable {session : Session} {program : List EmittedLine} {machine : SourceMachine} {index : Nat}
  {emitted : EmittedLine}

/-- A session that stands at a line carries it out. -/
theorem step_eq (follows : session.Follows program machine)
    (here : machine.position = some index) (found : program[index]? = some emitted) :
    session.cpu.step =
      ({ cycles := emitted.instruction.cycles, status := .executed, pc := emitted.address.toNat
         operation := some (emitted.instruction.describe emitted.instruction.opcode.toNat
           emitted.address.toNat) },
        { state := { session.cpu.state with
            registers := (machine.step program).registers
            halted := emitted.instruction == .halt
            cycles := session.cpu.state.cycles + emitted.instruction.cycles }
          lastBus := readsFrom emitted.address.toNat emitted.instruction.encode }) := by
  have member := List.mem_of_getElem? found
  obtain ⟨running, same, standing⟩ := follows.ready index emitted here found
  have held := follows.held emitted member
  rw [← standing] at held
  rw [session.cpu.step_of_listed running (follows.listed emitted member) held, standing,
    machine.step_eq here found, same]

/-- A step of the session leads to where a step of the machine does. -/
theorem stepInstruction (follows : session.Follows program machine)
    (consecutive : EmittedLine.Consecutive program) :
    session.stepInstruction.2.Follows program (machine.step program) := by
  constructor
  · exact follows.listed
  · intro emitted member
    change session.cpu.step.2.state.memory.Holds _ _
    rw [session.cpu.memory_step]
    exact follows.held emitted member
  · exact follows.known
  · intro index following arrived found
    obtain ⟨before, emitted, here, left, successor⟩ :=
      machine.exists_of_position_step arrived
    change session.cpu.step.2.state.halted = false ∧
      session.cpu.step.2.state.registers = _ ∧ session.cpu.step.2.state.registers.pc = _
    -- The machine can only have come from a line, which the session has carried out.
    rw [follows.step_eq here left]
    refine ⟨beq_eq_false_iff_ne.mpr (EmittedLine.ne_halt_of_successor? successor), rfl, ?_⟩
    change (machine.step program).registers.pc = _
    rw [machine.step_eq here left]
    exact EmittedLine.address_of_successor? consecutive left successor found

/-- Steps of the session lead to where as many steps of the machine do. -/
theorem after (follows : session.Follows program machine)
    (consecutive : EmittedLine.Consecutive program) (made : Nat) :
    (session.after made).Follows program (machine.after program made) := by
  induction made with
  | zero => exact follows
  | succ made ih => exact ih.stepInstruction consecutive

/-- A session that has loaded a source text stands at its first line. -/
theorem loadSource (session : Session) (source : String)
    (running : session.cpu.state.halted = false)
    (fits : (assemble source session.configuration.origin).data.length ≤ 65536) :
    (session.loadSource source).Follows (emittedLines source session.configuration.origin)
      { position := some 0
        registers :=
          { session.cpu.state.registers with pc := word session.configuration.origin } } := by
  constructor
  · intro emitted member
    exact listed_of_mem_emittedFrom member
  · intro emitted member
    exact holds_load_assemble fits member session.cpu.state.memory
  · intro emitted member
    exact lineAt_assemble fits member
  · intro index emitted here found
    obtain rfl := Option.some.inj here
    refine ⟨running, rfl, ?_⟩
    rw [address_eq_word found]
    exact congrArg word (Int.add_zero _).symm

end Session.Follows

/-- A session that has loaded a source text of at most 65536 bytes steps as the machine on its
lines does that starts at the first one: while the machine is at a line, the next step carries
out the instruction of this line, shows the line and its address, and leaves the registers as
the machine has them. A jump to the address of a line leads the machine to this line. -/
theorem Session.loadSource_simulates (session : Session) (source : String)
    (running : session.cpu.state.halted = false)
    (fits : (assemble source session.configuration.origin).data.length ≤ 65536)
    (made index : Nat) (emitted : EmittedLine) :
    let program := emittedLines source session.configuration.origin
    let start : SourceMachine :=
      { position := some 0
        registers :=
          { session.cpu.state.registers with pc := word session.configuration.origin } }
    let loaded := session.loadSource source
    (start.after program made).position = some index → program[index]? = some emitted →
      (∃ snapshot, (loaded.after made).stepInstruction.1 = .ok snapshot ∧
        snapshot.result =
          { cycles := emitted.instruction.cycles, status := .executed
            pc := emitted.address.toNat
            operation := some (emitted.instruction.describe emitted.instruction.opcode.toNat
              emitted.address.toNat) } ∧
        snapshot.sourceLine = some emitted.line ∧
        snapshot.state.registers = (start.after program (made + 1)).registers ∧
        snapshot.state.memory = loaded.cpu.state.memory ∧
        snapshot.state.halted = (emitted.instruction == .halt)) ∧
      ∀ target other following, emitted.instruction = .jump target →
        program[other]? = some following → following.address = target →
          (start.after program (made + 1)).position = some other := by
  intro program start loaded here found
  have follows : (loaded.after made).Follows program (start.after program made) :=
    (Follows.loadSource session source running fits).after
      (EmittedLine.consecutive_emittedLines source _) made
  have stepped := follows.step_eq here found
  have executed : (loaded.after made).advance.1.result.status = .executed :=
    congrArg (fun outcome => outcome.1.status) stepped
  constructor
  · refine ⟨_, congrArg Prod.fst (stepInstruction_of_executed executed), ?_, ?_, ?_, ?_, ?_⟩
    · exact congrArg Prod.fst stepped
    · have known := follows.known emitted (List.mem_of_getElem? found)
      rw [← known]
      exact congrArg (fun outcome => (loaded.after made).lineMap.lineAt outcome.1.pc) stepped
    · exact congrArg (fun outcome => outcome.2.state.registers) stepped
    · exact loaded.memory_after (made + 1)
    · exact congrArg (fun outcome => outcome.2.state.halted) stepped
  · intro target other following jump listed reached
    rw [SourceMachine.after, SourceMachine.step_eq here found, EmittedLine.successor?, jump,
      ← reached]
    exact EmittedLine.indexAt?_address fits listed

/-- A loop round the end of the address space: after three steps the machine is at the jump for
the second time. -/
theorem Session.loadSource_simulates_loop :
    let session : Session := { cpu := .powerOn, configuration := { origin := 0xFFFF } }
    let source := "INC A\n\nJP FFFF"
    session.cpu.state.halted = false ∧
      (assemble source session.configuration.origin).data.length ≤ 65536 ∧
      ∃ snapshot,
        ((session.loadSource source).after 3).stepInstruction.1 = .ok snapshot ∧
        snapshot.result.pc = 0 ∧ snapshot.sourceLine = some 2 ∧
        snapshot.state.registers.a = 2 ∧ snapshot.state.registers.pc = 0xFFFF := by
  intro session source
  have running : session.cpu.state.halted = false := by decide
  have fits : (assemble source session.configuration.origin).data.length ≤ 65536 := by
    decide +kernel
  obtain ⟨⟨snapshot, answered, result, line, registers, _⟩, _⟩ :=
    session.loadSource_simulates source running fits 3 1 ⟨2, 0, .jump 0xFFFF⟩
      (by decide +kernel) (by decide +kernel)
  refine ⟨running, fits, snapshot, answered, ?_, line, ?_, ?_⟩
  · rw [result]
    rfl
  · rw [registers]
    decide +kernel
  · rw [registers]
    decide +kernel

end Z80Monitor
