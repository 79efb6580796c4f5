import Mathlib.Tactic.SplitIfs
import Z80Monitor.Proofs.Debugger.RunEnding

/-!
# Runs under other breakpoints

The same run under two lists of breakpoints. Steps do not look at the breakpoints, so both runs
make the same steps for as long as they go on. Whatever ends the run under the one list also ends
the run under a list that has all enabled conditions of the first, if not by the same cause. Lists
with the same enabled conditions make no difference at all: neither their order nor what is
disabled counts.
-/

namespace Z80Monitor

namespace Breakpoints

/-- Every enabled condition of the one list occurs in the other. -/
def Within (few many : Breakpoints) : Prop :=
  ∀ breakpoint ∈ few, breakpoint.enabled = true → breakpoint ∈ many

instance (few many : Breakpoints) : Decidable (few.Within many) :=
  inferInstanceAs (Decidable (∀ breakpoint ∈ few, _))

variable {few many : Breakpoints}

/-- No breakpoints are within every list. -/
theorem nil_within (many : Breakpoints) : Within [] many :=
  fun _ listed => absurd listed List.not_mem_nil

/-- A step that meets a list meets every list that it is within. -/
theorem SomeMetBy.mono (within : few.Within many) {before : Registers} {snapshot : Snapshot}
    (met : few.SomeMetBy before snapshot) : many.SomeMetBy before snapshot := by
  obtain ⟨breakpoint, listed, enabled, holds⟩ := met
  exact ⟨breakpoint, within breakpoint listed enabled, enabled, holds⟩

/-- An address that meets a list meets every list that it is within. -/
theorem SomeMetAt.mono (within : few.Within many) {pc : UInt16} (met : few.SomeMetAt pc) :
    many.SomeMetAt pc := by
  obtain ⟨breakpoint, listed, enabled, holds⟩ := met
  exact ⟨breakpoint, within breakpoint listed enabled, enabled, holds⟩

/-- No step meets a breakpoint where there is none. -/
theorem not_someMetBy_nil {before : Registers} {snapshot : Snapshot} :
    ¬SomeMetBy [] before snapshot := by
  rintro ⟨breakpoint, listed, _⟩
  cases listed

/-- No address meets a breakpoint where there is none. -/
theorem not_someMetAt_nil {pc : UInt16} : ¬SomeMetAt [] pc := by
  rintro ⟨breakpoint, listed, _⟩
  cases listed

end Breakpoints

namespace Session

/-- A session under other breakpoints. -/
def withBreakpoints (session : Session) (breakpoints : Breakpoints) : Session :=
  { session with breakpoints }

variable (session : Session) (breakpoints : Breakpoints)

variable {session} in
/-- A tolerant session is tolerant under all breakpoints. -/
theorem tolerant_withBreakpoints (tolerant : session.configuration.onUnimplemented ≠ .fail) :
    (session.withBreakpoints breakpoints).configuration.onUnimplemented ≠ .fail := tolerant

/-- Steps do not look at the breakpoints. -/
theorem unseen_withBreakpoints : Unseen (·.withBreakpoints breakpoints) := fun _ => rfl

/-- Steps lead to the same sessions under all breakpoints, apart from the breakpoints. -/
theorem after_withBreakpoints (made : Nat) :
    (session.withBreakpoints breakpoints).after made =
      (session.after made).withBreakpoints breakpoints :=
  (unseen_withBreakpoints breakpoints).after session made

/-- A step leaves the same to be seen under all breakpoints. -/
theorem snapshotAt_withBreakpoints (made : Nat) :
    (session.withBreakpoints breakpoints).snapshotAt made = session.snapshotAt made :=
  (unseen_withBreakpoints breakpoints).snapshotAt session made

/-- Steps leave the same to be seen under all breakpoints. -/
theorem snapshots_withBreakpoints (made : Nat) :
    (session.withBreakpoints breakpoints).snapshots made = session.snapshots made :=
  (unseen_withBreakpoints breakpoints).snapshots session made

variable (limit : Int) (stopDuring : Option Nat)

/-- What a number of steps ends a run by under other breakpoints. -/
theorem ending_withBreakpoints_succ (made : Nat) :
    (session.withBreakpoints breakpoints).ending limit stopDuring (made + 1) =
      if session.configuration.onUnimplemented = .stop ∧
          (session.snapshotAt made).result.status = .unimplemented then some .unimplemented
      else if (session.after (made + 1)).cpu.state.halted = true then some .halted
      else if breakpoints.SomeMetBy (session.after made).cpu.state.registers
          (session.snapshotAt made) then some .breakpoint
      else if (made + 1 : Nat) = limit then some .stepLimit
      else if stopDuring = some (made + 1) then some .stopped
      else if breakpoints.SomeMetAt (session.after (made + 1)).cpu.pc then some .breakpoint
      else none := by
  rw [ending, snapshotAt_withBreakpoints, after_withBreakpoints, after_withBreakpoints]
  rfl

variable {session limit stopDuring} {few many : Breakpoints}

/-- A number of steps that does not end the run under a list does not end it under a list that is
within the first. -/
theorem ending_eq_none_of_within (within : few.Within many) {made : Nat}
    (quiet : (session.withBreakpoints many).ending limit stopDuring made = none) :
    (session.withBreakpoints few).ending limit stopDuring made = none := by
  cases made with
  | zero => exact quiet
  | succ made =>
    rw [ending_withBreakpoints_succ] at quiet ⊢
    split_ifs at quiet with unknown halted met limited asked reached
    rw [if_neg unknown, if_neg halted, if_neg fun fewMet => met (fewMet.mono within), if_neg limited,
      if_neg asked, if_neg fun fewMet => reached (fewMet.mono within)]

/-- A number of steps ends a run by the same cause under lists that are within each other. -/
theorem ending_congr (within : few.Within many) (back : many.Within few) (made : Nat) :
    (session.withBreakpoints many).ending limit stopDuring made =
      (session.withBreakpoints few).ending limit stopDuring made := by
  cases made with
  | zero => rfl
  | succ made =>
    have sameBy (before : Registers) (snapshot : Snapshot) :
        many.SomeMetBy before snapshot ↔ few.SomeMetBy before snapshot :=
      ⟨fun met => met.mono back, fun met => met.mono within⟩
    have sameAt (pc : UInt16) : many.SomeMetAt pc ↔ few.SomeMetAt pc :=
      ⟨fun met => met.mono back, fun met => met.mono within⟩
    simp only [ending_withBreakpoints_succ, sameBy, sameAt]

/-- A run under a list makes no more steps than the run under a list that is within the first. -/
theorem EndsAt.le_of_within (within : few.Within many) {total other : Nat}
    {reason otherReason : StopReason}
    (ends : (session.withBreakpoints many).EndsAt limit stopDuring total reason)
    (otherEnds : (session.withBreakpoints few).EndsAt limit stopDuring other otherReason) :
    total ≤ other := by
  rcases Nat.lt_or_ge other total with before | early
  · have quiet := ending_eq_none_of_within within (ends.2 other before)
    rw [otherEnds.1] at quiet
    cases quiet
  · exact early

/-- A run ends in the same way under lists that are within each other. -/
theorem EndsAt.congr (within : few.Within many) (back : many.Within few) {total : Nat}
    {reason : StopReason}
    (ends : (session.withBreakpoints many).EndsAt limit stopDuring total reason) :
    (session.withBreakpoints few).EndsAt limit stopDuring total reason := by
  constructor
  · rw [← ending_congr within back]
    exact ends.1
  · intro earlier before
    rw [← ending_congr within back]
    exact ends.2 earlier before

/-- Breakpoints only observe. Where the enabled conditions of a list all occur in another one, the
run under this other list makes the first of the steps that the run under the first makes, and
after equally many steps the two sessions are the same apart from their breakpoints. Where both
lists have the same enabled conditions, the runs give the same result. -/
theorem run_withBreakpoints (session : Session) {few many : Breakpoints}
    (within : few.Within many) (limit : Option Int) (stopDuring : Option Nat)
    (tolerant : session.configuration.onUnimplemented ≠ .fail) :
    let under (breakpoints : Breakpoints) := session.withBreakpoints breakpoints
    ∃ longer shorter : RunResult,
      (under few).run limit stopDuring = (.ok longer, (under few).after longer.steps) ∧
      (under many).run limit stopDuring = (.ok shorter, (under many).after shorter.steps) ∧
      shorter.snapshots <+: longer.snapshots ∧
      (∀ made, (under many).after made = ((under few).after made).withBreakpoints many) ∧
      (many.Within few → shorter = longer) := by
  intro under
  obtain ⟨other, otherReason, otherEnds, otherRan⟩ :=
    exists_run_eq (tolerant_withBreakpoints few tolerant) limit stopDuring
  obtain ⟨total, reason, ends, ran⟩ :=
    exists_run_eq (tolerant_withBreakpoints many tolerant) limit stopDuring
  rw [snapshots_withBreakpoints] at otherRan ran
  have otherSize : RunResult.steps ⟨otherReason, session.snapshots other⟩ = other :=
    session.length_snapshots other
  have size : RunResult.steps ⟨reason, session.snapshots total⟩ = total :=
    session.length_snapshots total
  refine ⟨⟨otherReason, session.snapshots other⟩, ⟨reason, session.snapshots total⟩, ?_, ?_, ?_,
    ?_, ?_⟩
  · rw [otherSize]
    exact otherRan
  · rw [size]
    exact ran
  · rw [← session.take_snapshots (ends.le_of_within within otherEnds)]
    exact List.take_prefix total _
  · intro made
    rw [after_withBreakpoints, after_withBreakpoints]
    rfl
  · intro back
    obtain ⟨rfl, rfl⟩ := (ends.congr within back).unique otherEnds
    rfl

/-- Over a blank memory a breakpoint on address 3 admits three steps. With one more on the reading of
address 1 there are two, the first two of the three. A disabled one changes nothing. -/
theorem run_withBreakpoints_earlier :
    let session : Session := { cpu := .powerOn, configuration := {} }
    let few : Breakpoints :=
      [.atAddress 3, { kind := .memoryRead, address := some 0, enabled := false }]
    let many : Breakpoints := [{ kind := .memoryRead, address := some 1 }, .atAddress 3]
    few.Within many ∧ session.configuration.onUnimplemented ≠ .fail ∧
      ∃ longer shorter,
        ((session.withBreakpoints few).run (some 5) none).1 = .ok longer ∧ longer.steps = 3 ∧
        ((session.withBreakpoints many).run (some 5) none).1 = .ok shorter ∧ shorter.steps = 2 ∧
        shorter.snapshots <+: longer.snapshots := by
  intro session few many
  have within : few.Within many := by decide
  have tolerant : session.configuration.onUnimplemented ≠ .fail := by decide
  have ends : (session.withBreakpoints few).EndsAt 5 none 3 .breakpoint := by
    constructor
    · decide +kernel
    · decide +kernel
  have earlyEnds : (session.withBreakpoints many).EndsAt 5 none 2 .breakpoint := by
    constructor
    · decide +kernel
    · decide +kernel
  obtain ⟨longer, shorter, ran, earlyRan, front, _, _⟩ :=
    run_withBreakpoints session within (some 5) none tolerant
  have known := run_eq_of_endsAt (tolerant_withBreakpoints few tolerant) ends
  have earlyKnown := run_eq_of_endsAt (tolerant_withBreakpoints many tolerant) earlyEnds
  refine ⟨within, tolerant, longer, shorter, congrArg Prod.fst ran, ?_, congrArg Prod.fst earlyRan,
    ?_, front⟩
  · rw [← Except.ok.inj (congrArg Prod.fst (known.symm.trans ran))]
    exact length_snapshots _ 3
  · rw [← Except.ok.inj (congrArg Prod.fst (earlyKnown.symm.trans earlyRan))]
    exact length_snapshots _ 2

end Session

end Z80Monitor
