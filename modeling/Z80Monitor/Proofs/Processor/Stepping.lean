import Z80Monitor.Proofs.Processor.Step

/-!
# Stepping the processor

The processor after a number of steps, with what each step did and which accesses it made. Memory
stays as it is throughout. What a step of two processors keeps between them, steps keep.
-/

namespace Z80Monitor.Cpu

/-- The processor after a number of steps. -/
def after (cpu : Cpu) : Nat → Cpu
  | 0 => cpu
  | made + 1 => (cpu.after made).step.2

/-- What the step after `made` steps does. -/
def resultAt (cpu : Cpu) (made : Nat) : StepResult := (cpu.after made).step.1

/-- The accesses of the step after `made` steps, in order. -/
def accessesAt (cpu : Cpu) (made : Nat) : List Access := (cpu.after made).step.2.lastBus

/-- Steps keep the memory. -/
theorem memory_after (cpu : Cpu) (made : Nat) :
    (cpu.after made).state.memory = cpu.state.memory := by
  induction made with
  | zero => rfl
  | succ made ih => exact (cpu.after made).memory_step.trans ih

/-- A relation between two processors that the steps keep holds behind each of them. -/
theorem related_after (related : Cpu → Cpu → Prop) {cpu other : Cpu} {made : Nat}
    (first : related cpu other)
    (kept : ∀ step < made, related (cpu.after step) (other.after step) →
      related (cpu.after (step + 1)) (other.after (step + 1))) :
    ∀ step ≤ made, related (cpu.after step) (other.after step) := by
  intro step
  induction step with
  | zero => exact fun _ => first
  | succ step ih =>
    intro inside
    exact kept step inside (ih (Nat.le_of_succ_le inside))

end Z80Monitor.Cpu
