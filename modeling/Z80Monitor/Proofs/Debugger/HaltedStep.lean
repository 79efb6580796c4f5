import Z80Monitor.Proofs.Debugger.Stepping

/-!
# Steps of a halted processor

A halted processor refuses every further step. Registers, memory, halted flag and cycles stay, and
the session records the refusals in its history, under every policy. What does not stay is the
current source line: a refused step counts as the latest instruction, which then stands at the
program counter, so that the line of the instruction which halted the processor is forgotten.
-/

namespace Z80Monitor.Session

/-- The source line of the latest instruction, if it has one. -/
def previousLine (session : Session) : Option Nat :=
  session.previousPc.bind fun previous => session.lineMap.lineAt previous.toNat

/-- The current line is the one of the latest instruction, or else that of the program counter. -/
theorem currentLine_eq (session : Session) :
    session.currentLine =
      session.previousLine.or (session.lineMap.lineAt session.cpu.pc.toNat) := by
  unfold currentLine previousLine
  cases session.previousPc with
  | none => exact Option.none_or.symm
  | some previous => rfl

/-- What a refused step leaves to be seen. -/
def refusal (session : Session) : Snapshot :=
  { state := session.cpu.state
    result := { cycles := 0, status := .halted, pc := session.cpu.pc.toNat }
    cycleCount := session.cpu.state.cycles
    sourceLine := session.lineMap.lineAt session.cpu.pc.toNat
    bus := [] }

/-- The session after a number of refused steps. -/
def refused (session : Session) (count : Nat) : Session :=
  { session with
    cpu := { session.cpu with lastBus := [], log := [] }
    previousPc := some session.cpu.pc
    last := some session.refusal
    recent := (List.replicate count session.refusal ++ session.recent).take
      session.configuration.historyLimit }

variable {session : Session}

/-- A halted processor refuses a step. -/
theorem stepInstruction_of_halted (halted : session.cpu.state.halted = true) :
    session.stepInstruction = (.ok session.refusal, session.refused 1) := by
  have advanced : session.advance = (session.refusal, session.refused 1) := by
    unfold advance
    rw [session.cpu.step_of_halted halted]
    rfl
  have passes : session.fails session.advance.1 = false := by
    rw [advanced]
    rfl
  rw [stepInstruction_of_fails passes, advanced]

/-- Steps of a halted processor are refused one after the other. -/
theorem after_succ_of_halted (halted : session.cpu.state.halted = true) (made : Nat) :
    session.after (made + 1) = session.refused (made + 1) := by
  induction made with
  | zero =>
    rw [after, after, stepInstruction_of_halted halted]
  | succ made ih =>
    have still : (session.refused (made + 1)).cpu.state.halted = true := halted
    rw [after, ih, stepInstruction_of_halted still]
    have recorded := take_cons_take session.refusal
      (List.replicate (made + 1) session.refusal ++ session.recent)
      session.configuration.historyLimit
    exact congrArg (fun recent => { session.refused 0 with recent }) recorded

/-- Further steps of a halted processor are refused and change nothing but the record of them: the
history, the latest snapshot and the place of the latest instruction. The current line becomes
that of the program counter. So it stays only where the latest instruction has no line or where
this line is also that of the program counter. -/
theorem halted_steps (session : Session) (halted : session.cpu.state.halted = true) (made : Nat) :
    let line := session.lineMap.lineAt session.cpu.pc.toNat
    let later := session.after (made + 1)
    (session.after made).stepInstruction.1 = .ok session.refusal ∧
      later.cpu.state = session.cpu.state ∧
      later = session.refused (made + 1) ∧
      later.currentLine = line ∧
      (later.currentLine = session.currentLine ↔
        session.previousLine = none ∨ session.previousLine = line) := by
  intro line later
  have reached : later = session.refused (made + 1) := after_succ_of_halted halted made
  have shown : later.currentLine = line := by
    rw [reached, currentLine_eq]
    exact Option.or_self
  refine ⟨?_, ?_, reached, shown, ?_⟩
  · cases made with
    | zero => rw [after, stepInstruction_of_halted halted]
    | succ made =>
      have still : (session.refused (made + 1)).cpu.state.halted = true := halted
      rw [after_succ_of_halted halted, stepInstruction_of_halted still]
      rfl
  · rw [reached]
    rfl
  · rw [shown, currentLine_eq]
    cases session.previousLine with
    | none => exact iff_of_true Option.none_or.symm (.inl rfl)
    | some previous =>
      rw [Option.some_or]
      constructor
      · intro same
        exact .inr same.symm
      · rintro (absent | same)
        · cases absent
        · exact same.symm

/-- Behind a halt that ends the program there is no line, and after two refused steps there is
no current line. -/
theorem halted_steps_behind_program :
    let session : Session := { cpu := .powerOn, configuration := {} }
    let halted := (session.loadSource "NOP\nHALT").after 2
    halted.cpu.state.halted = true ∧ halted.currentLine = some 1 ∧
      (halted.after 2).cpu.state = halted.cpu.state ∧ (halted.after 2).currentLine = none := by
  intro session halted
  have stopped : halted.cpu.state.halted = true := by decide +kernel
  have carried : halted.currentLine = some 1 := by decide +kernel
  have behind : halted.lineMap.lineAt halted.cpu.pc.toNat = none := by decide +kernel
  clear_value halted
  obtain ⟨_, kept, _, shown, _⟩ := halted_steps halted stopped 1
  exact ⟨stopped, carried, kept, shown.trans behind⟩

/-- The line of the halt is lost by the first refused step: the state stays as it is, and yet the
current line becomes that of an instruction which was never carried out. -/
theorem currentLine_lost_after_halt :
    ∃ session, Session.build {} = .ok session ∧
      let halted := (session.loadSource "HALT\nNOP").after 1
      halted.cpu.state.halted = true ∧ halted.currentLine = some 0 ∧
        (halted.after 1).cpu.state = halted.cpu.state ∧
        (halted.after 1).currentLine = some 1 := by
  refine ⟨_, rfl, ?_, ?_, ?_, ?_⟩
  all_goals decide +kernel

end Z80Monitor.Session
