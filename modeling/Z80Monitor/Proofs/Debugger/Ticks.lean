import Z80Monitor.Proofs.Debugger.RunEnding

/-!
# Runs in ticks

A run whose limit is the sum of two limits, compared with a run up to the first limit and another
from where that one ended. The two agree except where the first run ended right at a breakpoint
on the program counter: there the one run ends, and the other, which starts at that place, passes
the breakpoint over.
-/

namespace Z80Monitor.Session

variable {session : Session}

/-- Short of its limit, a run does not depend on how far away the limit is. -/
theorem ending_eq_of_lt {limit : Int} {made : Nat} (short : made < limit.toNat)
    (stopDuring : Option Nat) :
    session.ending limit stopDuring made =
      (session.endsBehind made).or ((session.after made).endsBefore made stopDuring) := by
  rw [session.ending_eq limit stopDuring made (by omega), if_neg (by omega)]

/-- The checks of a step do not depend on how many steps were made before. -/
theorem ending_add (first : Nat) (limit : Int) (made : Nat) :
    session.ending (first + limit) none (first + (made + 1)) =
      (session.after first).ending limit none (made + 1) := by
  have reached : ((first + made + 1 : Nat) : Int) = first + limit ↔
      ((made + 1 : Nat) : Int) = limit := by omega
  rw [← Nat.add_assoc, ending, ending]
  simp only [snapshotAt_add, configuration_after, breakpoints_after, reached, reduceCtorEq]
  rw [← after_add, ← after_add, ← Nat.add_assoc]

/-- Where a run ended by its limit, every cause but the limit and the breakpoints on the program
counter is absent. -/
theorem ending_of_stepLimit {limit : Int} (admitted : 1 ≤ limit) {made : Nat}
    (ends : session.ending limit none made = some .stepLimit) :
    (made : Int) = limit ∧ (session.after made).cpu.state.halted = false ∧
      ∀ more : Int, 1 ≤ more → session.ending (limit + more) none made =
        if session.breakpoints.SomeMetAt (session.after made).cpu.pc then some .breakpoint
        else none := by
  cases made with
  | zero =>
    rw [ending, if_neg (by omega)] at ends
    split at ends <;> cases ends
  | succ made =>
    have past : session.endsBehind (made + 1) = none := by
      cases found : session.endsBehind (made + 1) with
      | none => rfl
      | some reason =>
        rw [ending_succ, found, Option.some_or] at ends
        exact absurd (found.trans ends) (session.endsBehind_ne_stepLimit (made + 1))
    rw [ending_succ, past, Option.none_or] at ends
    by_cases reached : ((made + 1 : Nat) : Int) = limit
    · refine ⟨reached, session.running_of_endsBehind past, ?_⟩
      intro more further
      rw [ending_succ, past, Option.none_or, if_neg (by omega), if_neg (Option.some_ne_none _).symm]
    · rw [if_neg reached, if_neg (Option.some_ne_none _).symm] at ends
      split at ends <;> cases ends

/-- What does not end a run short of its limit does not end a longer one. -/
theorem ending_add_eq_none {limit more : Int} (further : 0 ≤ more) {made : Nat}
    (short : (made : Int) < limit) (quiet : session.ending limit none made = none) :
    session.ending (limit + more) none made = none := by
  rw [ending_eq_of_lt (by omega)] at quiet ⊢
  exact quiet

/-- A run that ended by its limit at a breakpoint on the program counter would have ended there
by the breakpoint under any greater limit. -/
theorem EndsAt.of_someMetAt {limit more : Int} (admitted : 1 ≤ limit) (further : 1 ≤ more)
    {made : Nat} (ends : session.EndsAt limit none made .stepLimit)
    (met : session.breakpoints.SomeMetAt (session.after made).cpu.pc) :
    session.EndsAt (limit + more) none made .breakpoint := by
  obtain ⟨reached, _, longer⟩ := ending_of_stepLimit admitted ends.1
  constructor
  · rw [longer more further, if_pos met]
  · intro earlier before
    exact ending_add_eq_none (by omega) (by omega) (ends.2 earlier before)

/-- A run that ended by its limit elsewhere would, under a greater limit, have gone on to where
the run from there ends. -/
theorem EndsAt.add {limit more : Int} (admitted : 1 ≤ limit) (further : 1 ≤ more) {made : Nat}
    (ends : session.EndsAt limit none made .stepLimit)
    (free : ¬session.breakpoints.SomeMetAt (session.after made).cpu.pc) {total : Nat}
    {reason : StopReason} (later : (session.after made).EndsAt more none total reason) :
    session.EndsAt (limit + more) none (made + total) reason := by
  obtain ⟨reached, running, longer⟩ := ending_of_stepLimit admitted ends.1
  have shifted (count : Nat) (positive : 1 ≤ count) :
      session.ending (limit + more) none (made + count) =
        (session.after made).ending more none count := by
    obtain ⟨before, rfl⟩ : ∃ before, count = before + 1 := ⟨count - 1, by omega⟩
    rw [← reached, ending_add]
  constructor
  · rw [shifted total (later.pos further running)]
    exact later.1
  · intro earlier inside
    rcases Nat.lt_trichotomy earlier made with before | same | behind
    · exact ending_add_eq_none (by omega) (by omega) (ends.2 earlier before)
    · rw [same, longer more further, if_neg free]
    · obtain ⟨count, rfl⟩ := Nat.exists_eq_add_of_lt behind
      rw [Nat.add_assoc, shifted (count + 1) (by omega)]
      exact later.2 (count + 1) (by omega)

/-- A run in two ticks is one run, unless the first tick ended by its limit right at a breakpoint
on the program counter. There the one run ends by the breakpoint with the steps of the first
tick, while the second tick passes the breakpoint over with a step. -/
theorem run_add {session middle : Session} {limit more : Int} {first : RunResult}
    (tolerant : session.configuration.onUnimplemented ≠ .fail) (admitted : 1 ≤ limit)
    (further : 1 ≤ more) (ran : session.run (some limit) none = (.ok first, middle))
    (limited : first.reason = .stepLimit) :
    ∃ second last, middle.run (some more) none = (.ok second, last) ∧ 1 ≤ second.steps ∧
      session.run (some (limit + more)) none =
        if middle.breakpoints.SomeMetAt middle.cpu.pc then
          (.ok ⟨.breakpoint, first.snapshots⟩, middle)
        else (.ok ⟨second.reason, first.snapshots ++ second.snapshots⟩, last) := by
  obtain ⟨made, reason, ends, made_eq⟩ := exists_run_eq tolerant (some limit) none
  rw [ran, Prod.mk.injEq, Except.ok.injEq] at made_eq
  obtain ⟨rfl, rfl⟩ := made_eq
  obtain rfl : reason = .stepLimit := limited
  obtain ⟨_, running, _⟩ := ending_of_stepLimit admitted ends.1
  have kept : (session.after made).configuration.onUnimplemented ≠ .fail := by
    rw [configuration_after]
    exact tolerant
  obtain ⟨total, later, laterEnds, laterRan⟩ := exists_run_eq kept (some more) none
  refine ⟨_, _, laterRan, ?_, ?_⟩
  · rw [RunResult.steps, length_snapshots]
    exact laterEnds.pos further running
  · rw [breakpoints_after]
    by_cases met : session.breakpoints.SomeMetAt (session.after made).cpu.pc
    · rw [if_pos met, run_eq_of_endsAt tolerant (ends.of_someMetAt admitted further met)]
    · rw [if_neg met, run_eq_of_endsAt tolerant (ends.add admitted further met laterEnds),
        snapshots_add, after_add]

/-- Over a blank memory with a breakpoint at address 1, the first step ends a tick of one step. -/
theorem endsAt_first_of_blank :
    EndsAt { cpu := .powerOn, configuration := {}, breakpoints := [.atAddress 1] } 1 none 1
      .stepLimit := by
  constructor
  · decide +kernel
  · decide +kernel

/-- So the breakpoint there ends the run of two steps, and is met by the second tick. -/
theorem run_add_at_breakpoint :
    let session : Session :=
      { cpu := .powerOn, configuration := {}, breakpoints := [.atAddress 1] }
    let middle := session.after 1
    session.configuration.onUnimplemented ≠ .fail ∧
      ∃ first, session.run (some 1) none = (.ok first, middle) ∧ first.reason = .stepLimit ∧
        session.run (some 2) none = (.ok ⟨.breakpoint, first.snapshots⟩, middle) ∧
        ∃ second last, middle.run (some 1) none = (.ok second, last) ∧ 1 ≤ second.steps := by
  intro session middle
  have tolerant : session.configuration.onUnimplemented ≠ .fail := by decide
  have ran := run_eq_of_endsAt tolerant endsAt_first_of_blank
  obtain ⟨second, last, laterRan, moved, whole⟩ :=
    run_add tolerant (by decide) (show (1 : Int) ≤ 1 by decide) ran rfl
  rw [if_pos (by decide +kernel)] at whole
  exact ⟨tolerant, _, ran, rfl, whole, second, last, laterRan, moved⟩

/-- Ticks are not transparent there: both ticks end by their limits behind address 1, where the
one run ends by the breakpoint. -/
theorem ticks_pass_breakpoint :
    let session : Session :=
      { cpu := .powerOn, configuration := {}, breakpoints := [.atAddress 1] }
    ∃ first middle second last whole final,
      session.run (some 1) none = (.ok first, middle) ∧ first.reason = .stepLimit ∧
      middle.run (some 1) none = (.ok second, last) ∧ second.reason = .stepLimit ∧
      session.run (some 2) none = (.ok whole, final) ∧ whole.reason = .breakpoint ∧
      whole.snapshots ≠ first.snapshots ++ second.snapshots ∧
      last.cpu.pc = 2 ∧ final.cpu.pc = 1 := by
  intro session
  have tolerant : session.configuration.onUnimplemented ≠ .fail := by decide
  have ends : session.EndsAt 1 none 1 .stepLimit := endsAt_first_of_blank
  have laterEnds : (session.after 1).EndsAt 1 none 1 .stepLimit := by
    constructor
    · decide +kernel
    · decide +kernel
  have wholeEnds : session.EndsAt 2 none 1 .breakpoint :=
    ends.of_someMetAt (by decide) (show (1 : Int) ≤ 1 by decide) (by decide +kernel)
  refine ⟨_, _, _, _, _, _, run_eq_of_endsAt tolerant ends, rfl,
    run_eq_of_endsAt (by decide) laterEnds, rfl, run_eq_of_endsAt tolerant wholeEnds, rfl,
    ?_, ?_, ?_⟩
  · intro same
    have sizes := congrArg List.length same
    simp only [List.length_append, length_snapshots] at sizes
    omega
  · decide +kernel
  · decide +kernel

end Z80Monitor.Session
