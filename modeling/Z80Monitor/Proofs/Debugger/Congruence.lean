import Mathlib.Data.List.Forall2
import Z80Monitor.Proofs.Debugger.Requests
import Z80Monitor.Proofs.Processor.Congruence

/-!
# Congruent work

Two drivers do the same work with two sessions, and give numbers that are congruent modulo the size
of what they stand for: as addresses, as values in memory and in registers, as the origin and the
initial registers of the configuration. The sessions answer them alike, apart from the configuration
that they show.

That numbers which a request gives are congruent does not show in one session at all. That those of
two configurations are congruent does not show in anything that a session does, which looks at the
numbers of the configuration only to load a program and to reset the registers.
-/

namespace Z80Monitor

/-- Two initial states give congruent values to the same registers in the same order. -/
structure InitialState.Congruent (left right : InitialState) : Prop where
  /-- The program counters are congruent. -/
  pc : left.pc ≡ right.pc [ZMOD 65536]
  /-- The stack pointers are congruent. -/
  sp : left.sp ≡ right.sp [ZMOD 65536]
  /-- The values of each single register are congruent. -/
  registers : List.Forall₂
    (fun entry other => entry.1 = other.1 ∧ entry.1.Congruent entry.2.toInt other.2.toInt)
    left.registers right.registers

/-- Two configurations differ only in numbers that are congruent. -/
structure Configuration.Congruent (left right : Configuration) : Prop where
  /-- The origins are congruent. -/
  origin : left.origin ≡ right.origin [ZMOD 65536]
  /-- The initial states are congruent. -/
  initialState : left.initialState.Congruent right.initialState
  /-- A run without a limit makes as many steps. -/
  stepsPerTick : left.stepsPerTick = right.stepsPerTick
  /-- As many steps are remembered. -/
  historyLimit : left.historyLimit = right.historyLimit
  /-- The policies are the same. -/
  onUnimplemented : left.onUnimplemented = right.onUnimplemented

/-- Two requests differ only in numbers that are congruent. -/
inductive Request.Congruent : Request → Request → Prop where
  /-- The requests are the same. -/
  | same (request : Request) : Congruent request request
  /-- The values are congruent for the register with the name. -/
  | writeRegister {name : String} {value other : Int}
      (values : ∀ register, Register.ofName? name = some register →
        register.Congruent value other) :
      Congruent (.writeRegister name value) (.writeRegister name other)
  /-- The addresses are congruent. -/
  | setPc {address other : Int} (addresses : address ≡ other [ZMOD 65536]) :
      Congruent (.setPc address) (.setPc other)
  /-- The addresses and the values are congruent. -/
  | writeMemory {address other value otherValue : Int}
      (addresses : address ≡ other [ZMOD 65536]) (values : value ≡ otherValue [ZMOD 256]) :
      Congruent (.writeMemory address value) (.writeMemory other otherValue)
  /-- The origins and the values are congruent. -/
  | loadImage {origin other : Int} {data others : List Int}
      (origins : origin ≡ other [ZMOD 65536])
      (values : List.Forall₂ (Int.ModEq 256) data others) :
      Congruent (.loadImage origin data) (.loadImage other others)
  /-- The values are congruent, and so are the origins where they are given. -/
  | loadProgram {data others : List Int} {origin other : Option Int}
      (values : List.Forall₂ (Int.ModEq 256) data others)
      (origins : Option.Rel (Int.ModEq 65536) origin other) :
      Congruent (.loadProgram data origin) (.loadProgram others other)
  /-- The addresses are congruent. -/
  | addPcBreakpoint {address other : Int} (addresses : address ≡ other [ZMOD 65536]) :
      Congruent (.addPcBreakpoint address) (.addPcBreakpoint other)
  /-- The ranges start at congruent addresses and are as long. -/
  | list {start other : Int} (starts : start ≡ other [ZMOD 65536]) (length : Int) :
      Congruent (.list start length) (.list other length)

/-- What a driver can ask for: to carry out a request, or to look up bytes or a source line. -/
inductive Inquiry where
  /-- Carry out a request. -/
  | request (request : Request)
  /-- Show the bytes of a part of memory. -/
  | dump (start length : Int)
  /-- Look up the source line of an address. -/
  | line (address : Int)

/-- Two inquiries differ only in numbers that are congruent. -/
inductive Inquiry.Congruent : Inquiry → Inquiry → Prop where
  /-- The requests are congruent. -/
  | request {request other : Request} (alike : request.Congruent other) :
      Congruent (.request request) (.request other)
  /-- The ranges start at congruent addresses and are as long. -/
  | dump {start other : Int} (starts : start ≡ other [ZMOD 65536]) (length : Int) :
      Congruent (.dump start length) (.dump other length)
  /-- The addresses are congruent. -/
  | line {address other : Int} (addresses : address ≡ other [ZMOD 65536]) :
      Congruent (.line address) (.line other)

/-- What is found by an inquiry. -/
inductive Finding where
  /-- The answer to the request. -/
  | response (response : Response)
  /-- The bytes. -/
  | bytes (bytes : List UInt8)
  /-- The source line, where there is one. -/
  | line (line : Option Nat)

/-- The finding with another configuration, where it shows one. -/
def Finding.showing (configuration : Configuration) : Finding → Finding
  | .response (.shown visible) => .response (.shown { visible with configuration })
  | finding => finding

/-- Congruent initial values are written to the registers alike. -/
theorem InitialState.Congruent.apply_eq {initial other : InitialState}
    (alike : initial.Congruent other) (registers : Registers) :
    initial.apply registers = other.apply registers := by
  have counters : (registers.write (.word .pc) initial.pc).write (.word .sp) initial.sp =
      (registers.write (.word .pc) other.pc).write (.word .sp) other.sp := by
    rw [registers.write_congr (.word .pc) alike.pc,
      Registers.write_congr _ (.word .sp) alike.sp]
  refine List.rel_foldl ?_ counters alike.registers
  rintro written _ rfl ⟨register, value⟩ ⟨_, otherValue⟩ ⟨rfl, values⟩
  exact written.write_congr register values

namespace Session

/-- Congruent requests do the same to a session. -/
theorem respond_congr (session : Session) {request other : Request}
    (alike : request.Congruent other) : session.respond request = session.respond other := by
  cases alike with
  | same => rfl
  | @writeRegister name value other values =>
    have written : session.cpu.writeNamed name value = session.cpu.writeNamed name other := by
      unfold Cpu.writeNamed Registers.writeNamed
      cases found : Register.ofName? name with
      | none => rfl
      | some register => simp only [Registers.write_congr _ register (values register found)]
    rw [respond, respond, written]
  | setPc addresses =>
    simp only [respond, onCpu, session.cpu.setPc_congr addresses]
  | writeMemory addresses values =>
    simp only [respond, onCpu, Cpu.writeMemory, Memory.poke_congr _ addresses values]
  | loadImage origins values =>
    simp only [respond, onCpu, session.cpu.loadProgram_congr origins values]
  | @loadProgram data others origin other values origins =>
    have places : origin.getD session.configuration.origin ≡
        other.getD session.configuration.origin [ZMOD 65536] := by
      cases origins with
      | some given => exact given
      | none => exact Int.ModEq.refl _
    simp only [respond, loadProgram, session.cpu.loadProgram_congr places values]
  | addPcBreakpoint addresses =>
    simp only [respond, Breakpoint.atAddress, word_congr addresses]
  | list starts length =>
    simp only [respond, Memory.listing_congr _ starts]

/-- What is found by an inquiry, and the session that it leaves. -/
def answer (session : Session) : Inquiry → Finding × Session
  | .request request => (session.respond request).map .response id
  | .dump start length => (.bytes (session.cpu.state.memory.dump start length), session)
  | .line address => (.line (session.lineMap.lineAt address), session)

/-- What is found by inquiries that are made one after the other. -/
def findings (session : Session) : List Inquiry → List Finding
  | [] => []
  | inquiry :: rest => (session.answer inquiry).1 :: (session.answer inquiry).2.findings rest

/-- Congruent inquiries do the same to a session. -/
theorem answer_congr (session : Session) {inquiry other : Inquiry}
    (alike : inquiry.Congruent other) : session.answer inquiry = session.answer other := by
  cases alike with
  | request alike => rw [answer, answer, session.respond_congr alike]
  | dump starts length => rw [answer, answer, Memory.dump_congr _ starts]
  | line addresses => rw [answer, answer, LineMap.lineAt_congr _ addresses]

/-- Inquiries keep the configuration. -/
theorem configuration_answer (session : Session) (inquiry : Inquiry) :
    (session.answer inquiry).2.configuration = session.configuration := by
  cases inquiry with
  | request request => exact session.configuration_respond request
  | dump start length => rfl
  | line address => rfl

end Session

/-- The configuration with another origin and another initial state. -/
def Configuration.placed (configuration : Configuration) (origin : Int)
    (initialState : InitialState) : Configuration :=
  { configuration with origin, initialState }

/-- Congruent configurations have all in common but the origin and the initial state. -/
theorem Configuration.Congruent.eq_placed {left right : Configuration}
    (alike : left.Congruent right) : right = left.placed right.origin right.initialState := by
  obtain ⟨_, _, stepsPerTick, historyLimit, onUnimplemented⟩ := alike
  cases left
  cases right
  dsimp only at stepsPerTick historyLimit onUnimplemented
  subst stepsPerTick historyLimit onUnimplemented
  rfl

namespace Session

/-- The session with another origin and another initial state in its configuration. -/
def placed (session : Session) (origin : Int) (initialState : InitialState) : Session :=
  { session with configuration := session.configuration.placed origin initialState }

/-- Runs do not look at the origin and the initial state. -/
theorem unnoticed_placed (origin : Int) (initialState : InitialState) :
    Unnoticed (·.placed origin initialState) where
  unseen _ := rfl
  state _ := rfl
  holdAt _ _ := rfl
  holdAfter _ _ _ _ := rfl
  policy _ := rfl

section Placed

variable {session : Session} {origin : Int} {initialState : InitialState}
  (origins : session.configuration.origin ≡ origin [ZMOD 65536])
  (initial : session.configuration.initialState.Congruent initialState)

include origins in
/-- A source text is loaded alike where the origins are congruent. -/
theorem loadSource_placed (source : String) :
    (session.placed origin initialState).loadSource source =
      (session.loadSource source).placed origin initialState := by
  have loaded (data : List Int) : session.cpu.loadProgram session.configuration.origin data =
      session.cpu.loadProgram origin data :=
    session.cpu.loadProgram_congr origins (List.forall₂_refl data)
  simp only [loadSource, placed, Configuration.placed, assemble_congr source origins, loaded]

include origins in
/-- Bytes are loaded alike where the origins are congruent. -/
theorem loadProgram_placed (data : List Int) (given : Option Int) :
    (session.placed origin initialState).loadProgram data given =
      (session.loadProgram data given).placed origin initialState := by
  have places : given.getD session.configuration.origin ≡ given.getD origin [ZMOD 65536] := by
    cases given with
    | some place => exact Int.ModEq.refl place
    | none => exact origins
  simp only [loadProgram, placed, Configuration.placed,
    session.cpu.loadProgram_congr places (List.forall₂_refl data)]

include initial in
/-- The registers are reset alike where the initial states are congruent. -/
theorem reset_placed :
    (session.placed origin initialState).reset = session.reset.placed origin initialState := by
  simp only [reset, placed, Configuration.placed, initial.apply_eq]

include origins initial

/-- An inquiry finds the same where the origins and the initial states are congruent, apart from
the configuration that is shown, and leaves sessions that differ in nothing else. -/
theorem answer_placed (inquiry : Inquiry) :
    (session.placed origin initialState).answer inquiry =
      (session.answer inquiry).map
        (Finding.showing (session.configuration.placed origin initialState))
        (·.placed origin initialState) := by
  cases inquiry with
  | dump start length => rfl
  | line address => rfl
  | request request =>
    cases request with
    | writeRegister name value =>
      simp only [answer, respond]
      rw [show (session.placed origin initialState).cpu = session.cpu from rfl]
      cases session.cpu.writeNamed name value with
      | ok cpu => rfl
      | error error => rfl
    | loadSource source =>
      simp only [answer, respond, loadSource_placed origins, assemble_congr source origins]
      rfl
    | loadProgram data given =>
      simp only [answer, respond, loadProgram_placed origins]
      rfl
    | stepInstruction =>
      have same := (unnoticed_placed origin initialState).stepInstruction session
      simp only [answer, respond, same]
      rcases session.stepInstruction with ⟨failure | snapshot, after⟩
      · rfl
      · rfl
    | run limit stopDuring =>
      have same := (unnoticed_placed origin initialState).run session limit stopDuring rfl
      simp only [answer, respond, same]
      rcases session.run limit stopDuring with ⟨failure | result, after⟩
      · rfl
      · rfl
    | reset =>
      simp only [answer, respond, reset_placed initial]
      rfl
    | _ => rfl

/-- Congruent inquiries find the same where the origins and the initial states are congruent, apart
from the configuration that is shown. -/
theorem findings_placed {inquiries others : List Inquiry}
    (listed : List.Forall₂ Inquiry.Congruent inquiries others) :
    (session.placed origin initialState).findings others =
      (session.findings inquiries).map
        (Finding.showing (session.configuration.placed origin initialState)) := by
  -- Every pair of inquiries leaves sessions that still differ in the configuration alone.
  induction listed generalizing session with
  | nil => rfl
  | @cons inquiry other _ _ head _ ih =>
    have kept := session.configuration_answer inquiry
    have behind := ih (by rwa [kept]) (by rwa [kept])
    rw [kept] at behind
    have same := answer_placed origins initial other
    rw [← session.answer_congr head] at same
    rw [findings, findings, same, List.map_cons]
    exact congrArg (List.cons _) behind

end Placed

/-- Sessions are built alike from configurations whose initial states are congruent. -/
theorem build_placed {configuration : Configuration} {origin : Int} {initialState : InitialState}
    (initial : configuration.initialState.Congruent initialState) :
    build (configuration.placed origin initialState) =
      (build configuration).map (·.placed origin initialState) := by
  have fresh : (placed { cpu := .powerOn, configuration } origin initialState).reset =
      (reset { cpu := .powerOn, configuration }).placed origin initialState :=
    reset_placed initial
  exact build_eq_map rfl fresh

/-- Numbers wrap around without a trace. Take two sessions that are built from configurations which
differ only by multiples of 65536 in the origin and in the initial values of registers of sixteen
bits, and by multiples of 256 in those of registers of eight bits. Ask of them the same, except that
the numbers given differ only by multiples of 65536 as addresses, origins and values of registers
of sixteen bits, and by multiples of 256 as bytes and values of registers of eight bits. All that is
found is the same, apart from the configuration where it is shown. -/
theorem findings_congr {configuration other : Configuration}
    (alike : configuration.Congruent other) {inquiries others : List Inquiry}
    (listed : List.Forall₂ Inquiry.Congruent inquiries others) :
    (build other).map (·.findings others) =
      (build configuration).map fun session =>
        (session.findings inquiries).map (Finding.showing other) := by
  have placed : build other =
      (build configuration).map (·.placed other.origin other.initialState) := by
    rw [alike.eq_placed]
    exact build_placed alike.initialState
  rw [placed]
  cases built : build configuration with
  | error failure => rfl
  | ok session =>
    obtain ⟨rfl, _⟩ := (Starts.built built).eq_nil
    have found := findings_placed alike.origin alike.initialState listed
    rw [← alike.eq_placed] at found
    exact congrArg Except.ok found

/-- A program around the end of the address space, a byte written over it, a register, a breakpoint
and a run, all given by numbers that are negative or too great on the one side only. -/
theorem findings_congr_around :
    let configuration : Configuration :=
      { origin := -1
        initialState := { pc := 65537, sp := -1, registers := [(.byte .b, .number 300)] } }
    let other : Configuration :=
      { origin := 65535
        initialState := { pc := 1, sp := 65535, registers := [(.byte .b, .number 44)] } }
    let inquiries : List Inquiry :=
      [.request (.loadSource "INC A\nHALT"), .request (.writeRegister "a" (-1)),
        .request (.writeMemory 65536 259), .request (.addPcBreakpoint (-65535)),
        .request (.run (some 5) none), .request .look, .dump (-1) 2, .line (-1), .request .reset,
        .request .look]
    let others : List Inquiry :=
      [.request (.loadSource "INC A\nHALT"), .request (.writeRegister "a" 255),
        .request (.writeMemory 0 3), .request (.addPcBreakpoint 1),
        .request (.run (some 5) none), .request .look, .dump 65535 2, .line 65535, .request .reset,
        .request .look]
    configuration.Congruent other ∧ List.Forall₂ Inquiry.Congruent inquiries others ∧
      ∃ session twin, build configuration = .ok session ∧ build other = .ok twin ∧
        session ≠ twin ∧
        twin.findings others = (session.findings inquiries).map (Finding.showing other) := by
  intro configuration other inquiries others
  have alike : configuration.Congruent other :=
    { origin := by decide
      initialState :=
        { pc := by decide
          sp := by decide
          registers := .cons ⟨rfl, show (300 : Int) ≡ 44 [ZMOD 256] by decide⟩ .nil }
      stepsPerTick := rfl
      historyLimit := rfl
      onUnimplemented := rfl }
  have accumulator (register : Register) (found : Register.ofName? "a" = some register) :
      register.Congruent (-1) 255 := by
    obtain rfl : Register.byte .a = register := Option.some.inj found
    exact show (-1 : Int) ≡ 255 [ZMOD 256] by decide
  have listed : List.Forall₂ Inquiry.Congruent inquiries others :=
    .cons (.request (.same _)) <| .cons (.request (.writeRegister accumulator)) <|
    .cons (.request (.writeMemory (by decide) (by decide))) <|
    .cons (.request (.addPcBreakpoint (by decide))) <| .cons (.request (.same _)) <|
    .cons (.request (.same _)) <| .cons (.dump (by decide) 2) <| .cons (.line (by decide)) <|
    .cons (.request (.same _)) <| .cons (.request (.same _)) .nil
  have found := findings_congr alike listed
  refine ⟨alike, listed, _, _, rfl, rfl, ?_, Except.ok.inj found⟩
  intro same
  exact absurd (congrArg (·.configuration.origin) same) (by decide)

end Session

end Z80Monitor
