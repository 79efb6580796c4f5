import Z80Monitor.Proofs.Register.Views
import Z80Monitor.Register.Named

/-!
# Sequences of writes

All ways to write to registers: by a name, of any register or of a register of one class, and
through pairs and flags. A name outside its class is refused and changes nothing. Behind any
sequence of writes each bit is the one that was put there by the latest write that covers it, and
so each view shows the latest bits, whichever views they were written through.
-/

namespace Z80Monitor

/-- A write to the registers. -/
inductive Assignment where
  /-- Write to the register with a name. -/
  | named (name : String) (value : Int)
  /-- Write to the register of eight bits with a name. -/
  | byteNamed (name : String) (value : Int)
  /-- Write to the register of sixteen bits with a name. -/
  | wordNamed (name : String) (value : Int)
  /-- Write to the flip-flop with a name. -/
  | flipFlopNamed (name : String) (value : Int)
  /-- Write to a pair. -/
  | pair (pair : Pair) (value : Int)
  /-- Set a flag to whether the number differs from zero. -/
  | flag (flag : Flag) (value : Int)

namespace Assignment

/-- The number that is written. -/
def value : Assignment → Int
  | .named _ value => value
  | .byteNamed _ value => value
  | .wordNamed _ value => value
  | .flipFlopNamed _ value => value
  | .pair _ value => value
  | .flag _ value => value

/-- How an assignment is refused, if its name is outside the class asked for. -/
def refusal? : Assignment → Option RegisterError
  | .named name _ => some (.unknown name)
  | .byteNamed name _ => some (.notByte name)
  | .wordNamed name _ => some (.notWord name)
  | .flipFlopNamed name _ => some (.notFlipFlop name)
  | .pair _ _ => none
  | .flag _ _ => none

/-- An assignment writes through a view. -/
inductive Targets : Assignment → View → Prop where
  /-- Any register has its name. -/
  | named (register : Register) (value : Int) :
    Targets (.named register.name value) (.register register)
  /-- A register of eight bits has its name. -/
  | byteNamed (register : ByteRegister) (value : Int) :
    Targets (.byteNamed register.name value) (.register (.byte register))
  /-- A register of sixteen bits has its name. -/
  | wordNamed (register : WordRegister) (value : Int) :
    Targets (.wordNamed register.name value) (.register (.word register))
  /-- A flip-flop has its name. -/
  | flipFlopNamed (register : FlipFlop) (value : Int) :
    Targets (.flipFlopNamed register.name value) (.register (.flipFlop register))
  /-- A pair is a view. -/
  | pair (pair : Pair) (value : Int) : Targets (.pair pair value) (.pair pair)
  /-- A flag is a view. -/
  | flag (flag : Flag) (value : Int) : Targets (.flag flag value) (.flag flag)

/-- An assignment writes to a bit. -/
def Covers (assignment : Assignment) (bit : RegisterBit) : Prop :=
  ∃ view, assignment.Targets view ∧ view.Covers bit

end Assignment

namespace Registers

variable (registers : Registers)

/-- Carry an assignment out. -/
def assign (registers : Registers) : Assignment → Except RegisterError Registers
  | .named name value => registers.writeNamed name value
  | .byteNamed name value => registers.writeByteNamed name value
  | .wordNamed name value => registers.writeWordNamed name value
  | .flipFlopNamed name value => registers.writeFlipFlopNamed name value
  | .pair pair value => .ok (registers.setPair pair value)
  | .flag flag value => .ok (registers.setFlag flag (value != 0))

/-- The registers that an assignment leaves. -/
def assigned (registers : Registers) (assignment : Assignment) : Registers :=
  match registers.assign assignment with
  | .ok changed => changed
  | .error _ => registers

/-- The registers that assignments leave, one after the other. -/
def assignAll : Registers → List Assignment → Registers
  | registers, [] => registers
  | registers, assignment :: rest => assignAll (registers.assigned assignment) rest

/-- An assignment that writes through a view is carried out. -/
theorem assign_of_targets {assignment : Assignment} {view : View}
    (target : assignment.Targets view) :
    registers.assign assignment = .ok (view.write registers assignment.value) := by
  cases target with
  | named register value =>
    rw [assign, writeNamed, register.ofName?_name]
    rfl
  | byteNamed register value =>
    have found : Register.ofName? register.name = some (.byte register) :=
      Register.ofName?_name (.byte register)
    rw [assign, writeByteNamed, found]
    rfl
  | wordNamed register value =>
    have found : Register.ofName? register.name = some (.word register) :=
      Register.ofName?_name (.word register)
    rw [assign, writeWordNamed, found]
    rfl
  | flipFlopNamed register value =>
    have found : Register.ofName? register.name = some (.flipFlop register) :=
      Register.ofName?_name (.flipFlop register)
    rw [assign, writeFlipFlopNamed, found]
    rfl
  | pair pair value => rfl
  | flag flag value => rfl

/-- An assignment that writes through no view is refused. -/
theorem assign_of_not_targets {assignment : Assignment}
    (outside : ∀ view, ¬assignment.Targets view) :
    ∃ error, assignment.refusal? = some error ∧ registers.assign assignment = .error error := by
  cases assignment with
  | named name value =>
    refine ⟨.unknown name, rfl, ?_⟩
    rw [assign, writeNamed]
    split
    · rename_i register found
      obtain rfl := Register.ofName?_eq_some_iff.mp found
      exact absurd (.named register value) (outside _)
    · rfl
  | byteNamed name value =>
    refine ⟨.notByte name, rfl, ?_⟩
    rw [assign, writeByteNamed]
    split
    · rename_i register found
      obtain rfl := Register.ofName?_eq_some_iff.mp found
      exact absurd (.byteNamed register value) (outside _)
    · rfl
  | wordNamed name value =>
    refine ⟨.notWord name, rfl, ?_⟩
    rw [assign, writeWordNamed]
    split
    · rename_i register found
      obtain rfl := Register.ofName?_eq_some_iff.mp found
      exact absurd (.wordNamed register value) (outside _)
    · rfl
  | flipFlopNamed name value =>
    refine ⟨.notFlipFlop name, rfl, ?_⟩
    rw [assign, writeFlipFlopNamed]
    split
    · rename_i register found
      obtain rfl := Register.ofName?_eq_some_iff.mp found
      exact absurd (.flipFlopNamed register value) (outside _)
    · rfl
  | pair pair value => exact absurd (.pair pair value) (outside _)
  | flag flag value => exact absurd (.flag flag value) (outside _)

/-- What an assignment through a view leaves. -/
theorem assigned_of_targets {assignment : Assignment} {view : View}
    (target : assignment.Targets view) :
    registers.assigned assignment = view.write registers assignment.value := by
  rw [assigned, registers.assign_of_targets target]

/-- An assignment leaves the bits alone that it does not write to. -/
theorem bit_assigned_of_not_covers {assignment : Assignment} {bit : RegisterBit}
    (outside : ¬assignment.Covers bit) :
    (registers.assigned assignment).bit bit = registers.bit bit := by
  by_cases target : ∃ view, assignment.Targets view
  · obtain ⟨view, target⟩ := target
    rw [registers.assigned_of_targets target]
    exact View.bit_write_of_not_covers registers (fun covered => outside ⟨view, target, covered⟩) _
  · obtain ⟨error, _, refused⟩ :=
      registers.assign_of_not_targets fun view targets => target ⟨view, targets⟩
    rw [assigned, refused]

/-- Assignments leave the bits alone that none of them writes to. -/
theorem bit_assignAll_of_not_covers {assignments : List Assignment} {bit : RegisterBit}
    (outside : ∀ assignment ∈ assignments, ¬assignment.Covers bit) :
    (registers.assignAll assignments).bit bit = registers.bit bit := by
  induction assignments generalizing registers with
  | nil => rfl
  | cons assignment rest ih =>
    obtain ⟨first, later⟩ := List.forall_mem_cons.mp outside
    rw [assignAll, ih _ later, registers.bit_assigned_of_not_covers first]

/-- Assignments may be carried out in two parts. -/
theorem assignAll_append (first second : List Assignment) :
    registers.assignAll (first ++ second) = (registers.assignAll first).assignAll second := by
  induction first generalizing registers with
  | nil => rfl
  | cons assignment rest ih => exact ih _

section Latest

variable {assignment : Assignment} {view : View} (target : assignment.Targets view)
  (before : List Assignment) {later : List Assignment}

include target

/-- A bit is the one that the latest assignment to it has put there. -/
theorem bit_assignAll_of_latest {bit : RegisterBit} {place : Nat} (shown : view.Shows bit place)
    (latest : ∀ other ∈ later, ¬other.Covers bit) :
    (registers.assignAll (before ++ assignment :: later)).bit bit =
      (view.held assignment.value).bit place := by
  rw [assignAll_append, assignAll, bit_assignAll_of_not_covers _ latest,
    assigned_of_targets _ target, View.bit_write_of_shows _ shown]

/-- A view shows the number of the latest assignment through it, if no bit of the view is written to
behind it. -/
theorem read_assignAll_of_latest
    (latest : ∀ other ∈ later, ∀ bit, view.Covers bit → ¬other.Covers bit) :
    view.read (registers.assignAll (before ++ assignment :: later)) =
      view.held assignment.value := by
  rw [← View.read_write_self (registers.assignAll before) view assignment.value]
  apply View.read_congr
  intro bit covered
  rw [assignAll_append, assignAll, assigned_of_targets _ target]
  exact bit_assignAll_of_not_covers _ fun other listed => latest other listed bit covered

end Latest

/-- The laws of views as ways to look at a register file and to change it. -/
structure Lenses (registers : Registers) : Prop where
  /-- What a view shows are bits of the register file in their places. -/
  shown {view : View} {bit : RegisterBit} {place : Nat} (shows : view.Shows bit place) :
    (view.read registers).bit place = registers.bit bit
  /-- A pair is its upper register times 256 plus its lower one. -/
  pair (pair : Pair) : ((View.pair pair).read registers).toInt =
    256 * (registers.read (.byte pair.high)).toInt + (registers.read (.byte pair.low)).toInt
  /-- A flag is its bit of `f`. -/
  flag (flag : Flag) : (View.flag flag).read registers =
    .truth ((registers.read (.byte .f)).bit flag.position)
  /-- A view shows what is written through it, under the mask of the view. -/
  read_write (view : View) (value : Int) : view.read (view.write registers value) = view.held value
  /-- A number written to a pair is split into two bytes. -/
  halves (pair : Pair) (value : Int) :
    ((View.pair pair).write registers value).read (.byte pair.high) = .number (value / 256 % 256) ∧
    ((View.pair pair).write registers value).read (.byte pair.low) = .number (value % 256)
  /-- Writing back what a view shows changes nothing. -/
  write_read (view : View) : view.write registers (view.read registers).toInt = registers
  /-- Of two writes through a view the second counts. -/
  write_write (view : View) (first second : Int) :
    view.write (view.write registers first) second = view.write registers second
  /-- Writing changes no bit that the view does not cover. -/
  frame {view : View} {bit : RegisterBit} (outside : ¬view.Covers bit) (value : Int) :
    (view.write registers value).bit bit = registers.bit bit
  /-- Writing changes nothing that a view without a bit in common shows. -/
  read_write_of_apart {view other : View} (apart : view.Apart other) (value : Int) :
    other.read (view.write registers value) = other.read registers
  /-- Writes through views with no bit in common commute. -/
  commute {first second : View} (apart : first.Apart second) (left right : Int) :
    second.write (first.write registers left) right =
      first.write (second.write registers right) left
  /-- An assignment with a name of its class is a write through a view. -/
  accepted {assignment : Assignment} {view : View} (target : assignment.Targets view) :
    registers.assign assignment = .ok (view.write registers assignment.value)
  /-- An assignment with any other name is refused and changes nothing. -/
  refused {assignment : Assignment} (outside : ∀ view, ¬assignment.Targets view) :
    (∃ error, assignment.refusal? = some error ∧ registers.assign assignment = .error error) ∧
      registers.assigned assignment = registers

/-- The views of every register file keep to the laws. -/
theorem lenses : registers.Lenses where
  shown := View.bit_read registers
  pair pair := by
    rw [View.read_pair]
    rfl
  flag := View.read_flag registers
  read_write := View.read_write_self registers
  halves := View.read_halves registers
  write_read := View.write_read registers
  write_write := View.write_write registers
  frame := View.bit_write_of_not_covers registers
  read_write_of_apart := View.read_write_of_apart registers
  commute := View.write_comm registers
  accepted := registers.assign_of_targets
  refused outside := by
    obtain ⟨error, cause, refused⟩ := registers.assign_of_not_targets outside
    refine ⟨⟨error, cause, refused⟩, ?_⟩
    rw [assigned, refused]

/-- Views are lenses on one row of bits. Behind any sequence of writes, by names, through pairs and
through flags, the laws of views hold. A bit that was not written to is as it was, and any other bit
is the one put there by the latest write to it, whichever view this went through. A view none of
whose bits were written to behind a write through it shows the number of this write. -/
theorem views_show_latest (start : Registers) (assignments : List Assignment) :
    let now := start.assignAll assignments
    now.Lenses ∧
    (∀ bit, (∀ assignment ∈ assignments, ¬assignment.Covers bit) → now.bit bit = start.bit bit) ∧
    ∀ before assignment later view, assignments = before ++ assignment :: later →
      assignment.Targets view →
      (∀ bit place, view.Shows bit place → (∀ other ∈ later, ¬other.Covers bit) →
        now.bit bit = (view.held assignment.value).bit place) ∧
      ((∀ other ∈ later, ∀ bit, view.Covers bit → ¬other.Covers bit) →
        view.read now = view.held assignment.value) := by
  intro now
  refine ⟨now.lenses, fun bit outside => start.bit_assignAll_of_not_covers outside, ?_⟩
  rintro before assignment later view rfl target
  constructor
  · intro bit place shown latest
    exact start.bit_assignAll_of_latest target before shown latest
  · intro latest
    exact start.read_assignAll_of_latest target before latest

end Registers

end Z80Monitor
