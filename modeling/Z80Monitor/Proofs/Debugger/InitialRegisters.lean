import Z80Monitor.Proofs.Configuration.Acceptance
import Z80Monitor.Proofs.Debugger.Requests
import Z80Monitor.Proofs.Register.Writing

/-!
# Initial registers

The registers that a configuration names hold their configured values when a session is built and
whenever it is reset, the counters hold theirs unless they are named as well, and all other
registers hold zero. The order in which the registers are given does not matter, since a
configuration that is read from data names no register twice.
-/

namespace Z80Monitor

namespace InitialState

/-- The registers that values of their own are given for. -/
def named (initial : InitialState) : List Register := initial.registers.map Prod.fst

/-- A state is as an initial state asks for: nothing is done yet, and the registers hold what is
configured. -/
structure InEffect (initial : InitialState) (state : State) : Prop where
  /-- A register with a value of its own holds it. -/
  own (register : Register) (value : RegisterValue)
    (listed : (register, value) ∈ initial.registers) :
    state.registers.read register = register.held value.toInt
  /-- The program counter holds the general value unless it has one of its own. -/
  pc (unnamed : .word .pc ∉ initial.named) :
    state.registers.read (.word .pc) = .number (initial.pc % 65536)
  /-- The stack pointer holds the general value unless it has one of its own. -/
  sp (unnamed : .word .sp ∉ initial.named) :
    state.registers.read (.word .sp) = .number (initial.sp % 65536)
  /-- Any other register holds zero. -/
  rest (register : Register) (unnamed : register ∉ initial.named) (notPc : register ≠ .word .pc)
    (notSp : register ≠ .word .sp) : state.registers.read register = register.held 0
  /-- The processor is not halted. -/
  halted : state.halted = false
  /-- No cycles are spent. -/
  cycles : state.cycles = 0

/-- Initial values are written one after the other, those of single registers last. -/
theorem apply_eq (initial : InitialState) (registers : Registers) :
    initial.apply registers =
      ((registers.write (.word .pc) initial.pc).write (.word .sp) initial.sp).writeAll
        initial.registers := by
  have folded (entries : List (Register × RegisterValue)) (registers : Registers) :
      entries.foldl (fun registers entry => registers.write entry.1 entry.2.toInt) registers =
        registers.writeAll entries := by
    induction entries generalizing registers with
    | nil => rfl
    | cons entry rest ih => exact ih _
  exact folded _ _

/-- At power-on the stack pointer alone does not hold zero. -/
theorem read_powerOn {register : Register} (notSp : register ≠ .word .sp) :
    ({} : Registers).read register = register.held 0 := by
  rcases register with register | register | register <;> cases register <;>
    first | rfl | exact absurd rfl notSp

/-- Initial values that are written at power-on take effect, if no register has two of them. -/
theorem inEffect_apply {initial : InitialState} (distinct : initial.named.Nodup)
    (memory : Memory) : initial.InEffect { registers := initial.apply {}, memory } where
  own register value listed := by
    rw [apply_eq, Registers.read_writeAll_of_mem _ distinct listed]
  pc unnamed := by
    have apart : Register.word .pc ≠ .word .sp := by decide
    rw [apply_eq, Registers.read_writeAll_of_not_mem _ unnamed, Registers.read_write_of_ne _ apart,
      Registers.read_write_self, Register.held]
  sp unnamed := by
    rw [apply_eq, Registers.read_writeAll_of_not_mem _ unnamed, Registers.read_write_self,
      Register.held]
  rest register unnamed notPc notSp := by
    rw [apply_eq, Registers.read_writeAll_of_not_mem _ unnamed, Registers.read_write_of_ne _ notSp,
      Registers.read_write_of_ne _ notPc, read_powerOn notSp]
  halted := rfl
  cycles := rfl

/-- The initial state with other values of single registers. -/
def withRegisters (initial : InitialState) (registers : List (Register × RegisterValue)) :
    InitialState :=
  { initial with registers }

/-- The order of the values does not matter. -/
theorem InEffect.of_perm {initial : InitialState} {registers : List (Register × RegisterValue)}
    {state : State} (effect : (initial.withRegisters registers).InEffect state)
    (reordered : registers.Perm initial.registers) : initial.InEffect state := by
  have names {register : Register} (unnamed : register ∉ initial.named) :
      register ∉ (initial.withRegisters registers).named :=
    fun listed => unnamed ((reordered.map Prod.fst).mem_iff.mp listed)
  exact {
    own := fun register value listed => effect.own register value (reordered.mem_iff.mpr listed)
    pc := fun unnamed => effect.pc (names unnamed)
    sp := fun unnamed => effect.sp (names unnamed)
    rest := fun register unnamed => effect.rest register (names unnamed)
    halted := effect.halted
    cycles := effect.cycles }

/-- A register holds the same in two states as initial states ask for that have the same counters
and give the register the same values. -/
theorem InEffect.read_eq {initial : InitialState} {registers : List (Register × RegisterValue)}
    {state other : State} (effect : initial.InEffect state)
    (otherEffect : (initial.withRegisters registers).InEffect other) {register : Register}
    (same : ∀ value, (register, value) ∈ registers ↔ (register, value) ∈ initial.registers) :
    other.registers.read register = state.registers.read register := by
  by_cases listed : register ∈ initial.named
  · obtain ⟨⟨_, value⟩, inside, rfl⟩ := List.mem_map.mp listed
    rw [effect.own _ value inside, otherEffect.own _ value ((same value).mpr inside)]
  · have unnamed : register ∉ (initial.withRegisters registers).named := by
      intro found
      obtain ⟨⟨_, value⟩, inside, rfl⟩ := List.mem_map.mp found
      exact listed (List.mem_map_of_mem ((same value).mp inside))
    by_cases isPc : register = .word .pc
    · subst isPc
      rw [effect.pc listed, otherEffect.pc unnamed]
      rfl
    · by_cases isSp : register = .word .sp
      · subst isSp
        rw [effect.sp listed, otherEffect.sp unnamed]
        rfl
      · rw [effect.rest register listed isPc isSp, otherEffect.rest register unnamed isPc isSp]

end InitialState

/-- The configuration with other initial values of single registers. -/
def Configuration.withRegisters (configuration : Configuration)
    (registers : List (Register × RegisterValue)) : Configuration :=
  { configuration with initialState := configuration.initialState.withRegisters registers }

namespace Session

/-- A reset puts the initial state into effect. -/
theorem inEffect_reset (session : Session)
    (distinct : session.configuration.initialState.named.Nodup) :
    session.configuration.initialState.InEffect session.reset.cpu.state :=
  InitialState.inEffect_apply distinct session.cpu.state.memory

/-- A session within the limit is built, and its initial state is in effect then and behind every
reset. -/
theorem exists_build_inEffect {configuration : Configuration}
    (limit : configuration.historyLimit ≤ greatestHistoryLimit)
    (distinct : configuration.initialState.named.Nodup) :
    ∃ session, build configuration = .ok session ∧
      configuration.initialState.InEffect session.cpu.state ∧
      ∀ requests, configuration.initialState.InEffect
        (session.perform requests).reset.cpu.state := by
  have made := build_eq configuration
  rw [if_pos limit] at made
  refine ⟨_, made, inEffect_reset { cpu := .powerOn, configuration } distinct, fun requests => ?_⟩
  have kept := (Starts.built made).configuration_perform requests
  have effect := inEffect_reset (perform _ requests) (by rwa [kept])
  rwa [kept] at effect

/-- A configuration that is read from data takes effect as it says, whatever the order of its
registers: when a session is built, and behind every reset that follows any work. A value that is
given for a register changes nothing in the other registers. -/
theorem initialState_takes_effect {value : Value} {configuration : Configuration}
    (accepted : Configuration.ofValue value = .ok configuration)
    (limit : configuration.historyLimit ≤ greatestHistoryLimit)
    {registers : List (Register × RegisterValue)}
    (reordered : registers.Perm configuration.initialState.registers) :
    ∃ session, build (configuration.withRegisters registers) = .ok session ∧
      configuration.initialState.InEffect session.cpu.state ∧
      (∀ requests, configuration.initialState.InEffect
        (session.perform requests).reset.cpu.state) ∧
      ∀ register, ∃ without,
        build (configuration.withRegisters (registers.filter (·.1 ≠ register))) = .ok without ∧
        ∀ other ≠ register,
          without.cpu.state.registers.read other = session.cpu.state.registers.read other := by
  have distinct : (configuration.withRegisters registers).initialState.named.Nodup :=
    (reordered.map Prod.fst).nodup_iff.mpr (Configuration.nodup_registers_of_ofValue accepted)
  obtain ⟨session, made, effect, behind⟩ := exists_build_inEffect
    (show (configuration.withRegisters registers).historyLimit ≤ greatestHistoryLimit from limit)
    distinct
  refine ⟨session, made, effect.of_perm reordered,
    fun requests => (behind requests).of_perm reordered, fun register => ?_⟩
  have fewer : (registers.filter (·.1 ≠ register)).Sublist registers := List.filter_sublist
  obtain ⟨without, madeWithout, effectWithout, _⟩ := exists_build_inEffect
    (show (configuration.withRegisters (registers.filter (·.1 ≠ register))).historyLimit ≤
      greatestHistoryLimit from limit)
    (distinct.sublist (fewer.map Prod.fst))
  refine ⟨without, madeWithout, fun other apart => ?_⟩
  apply effect.read_eq effectWithout
  intro value
  rw [List.mem_filter, decide_eq_true_iff]
  exact and_iff_left apart

/-- Numbers that are cut off, a truth value, a key in upper case that is given again in lower case,
and a value for the stack pointer that counts before the general one, with the registers given in
another order. -/
theorem initialState_takes_effect_cut_off :
    let registers : List (Value × Value) :=
      [(.text "A", .integer 7), (.text "IFF1", .truth true), (.text "Sp", .integer (-2)),
        (.text "a", .text "0x1FE")]
    let initial : List (Value × Value) :=
      [(.text "pc", .integer 70000), (.text "sp", .integer 5),
        (.text "registers", .mapping registers)]
    let value : Value := .mapping [(.text "initial_state", .mapping initial)]
    let initialState : InitialState :=
      { pc := 70000, sp := 5, registers :=
          [(.byte .a, .number 510), (.flipFlop .iff1, .truth true), (.word .sp, .number (-2))] }
    let configuration : Configuration := { initialState }
    let reversed := initialState.registers.reverse
    Configuration.ofValue value = .ok configuration ∧
      configuration.historyLimit ≤ greatestHistoryLimit ∧
      reversed.Perm configuration.initialState.registers ∧
      ∃ session, build (configuration.withRegisters reversed) = .ok session ∧
        session.cpu.state.registers.read (.byte .a) = .number 254 ∧
        session.cpu.state.registers.read (.word .sp) = .number 65534 ∧
        session.cpu.state.registers.read (.word .pc) = .number 4464 ∧
        session.cpu.state.registers.read (.flipFlop .iff1) = .truth true ∧
        initialState.InEffect
          (session.perform [.writeRegister "a" 3, .run (some 2) none]).reset.cpu.state := by
  intro registers initial value initialState configuration reversed
  have accepted : Configuration.ofValue value = .ok configuration := by rfl
  have limit : configuration.historyLimit ≤ greatestHistoryLimit := by decide
  have reordered : reversed.Perm configuration.initialState.registers := List.reverse_perm _
  refine ⟨accepted, limit, reordered, ?_⟩
  obtain ⟨session, made, effect, behind, _⟩ :=
    initialState_takes_effect accepted limit reordered
  refine ⟨session, made, ?_, ?_, ?_, ?_, behind _⟩
  · exact effect.own (.byte .a) (.number 510) (by decide)
  · exact effect.own (.word .sp) (.number (-2)) (by decide)
  · exact effect.pc (by decide)
  · exact effect.own (.flipFlop .iff1) (.truth true) (by decide)

end Session

end Z80Monitor
