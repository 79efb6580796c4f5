import Z80Monitor.Proofs.Debugger.Ticks
import Z80Monitor.Proofs.Debugger.Watching

/-!
# Resumed runs

A run that ends at a breakpoint can be resumed with the steps that are still missing. Every resumed
run makes a step, since a breakpoint at the place where it starts is passed over and the processor
was not halted there, so that resuming comes to an end. All runs together make the steps of the one
run without any breakpoints.
-/

namespace Z80Monitor.Session

/-- Run for the steps that are missing, and behind each ending at a breakpoint again for those still
missing. Given are the steps of all runs and the session behind the last, or nothing where `rounds`
runs are not enough or a run fails. -/
def resume : (rounds missing : Nat) → Session → Option (List Snapshot × Session)
  | 0, _, _ => none
  | rounds + 1, missing, session =>
    match session.run (some missing) none with
    | (.error _, _) => none
    | (.ok result, after) =>
      if result.reason = .breakpoint ∧ result.steps < missing then
        (resume rounds (missing - result.steps) after).map fun (later, last) =>
          (result.snapshots ++ later, last)
      else some (result.snapshots, after)

variable {session : Session} {limit : Int} {stopDuring : Option Nat} {made total : Nat}
  {reason : StopReason}

/-- The limit ends a run, if nothing did before. -/
theorem ending_limit_ne_none (session : Session) (limit : Int) (stopDuring : Option Nat) :
    session.ending limit stopDuring limit.toNat ≠ none := by
  rw [session.ending_eq limit stopDuring limit.toNat (Nat.le_refl _), if_pos rfl]
  cases session.endsBehind limit.toNat with
  | some reason => exact Option.some_ne_none reason
  | none => exact Option.some_ne_none _

/-- A run makes no more steps than its limit admits. -/
theorem EndsAt.le_limit (ends : session.EndsAt limit stopDuring total reason) :
    total ≤ limit.toNat := by
  rcases Nat.lt_or_ge limit.toNat total with passed | within
  · exact absurd (ends.2 limit.toNat passed) (session.ending_limit_ne_none limit stopDuring)
  · exact within

/-- What a number of steps ends a run by where there are no breakpoints. -/
theorem ending_nil_succ (session : Session) (limit : Int) (made : Nat) :
    (session.withBreakpoints []).ending limit none (made + 1) =
      if session.configuration.onUnimplemented = .stop ∧
          (session.snapshotAt made).result.status = .unimplemented then some .unimplemented
      else if (session.after (made + 1)).cpu.state.halted = true then some .halted
      else if (made + 1 : Nat) = limit then some .stepLimit
      else none := by
  rw [ending_withBreakpoints_succ, if_neg Breakpoints.not_someMetBy_nil,
    if_neg Breakpoints.not_someMetAt_nil, if_neg (Option.some_ne_none _).symm]

/-- What ends a run otherwise than by a breakpoint ends it without breakpoints as well. -/
theorem ending_nil_of_ne (other : reason ≠ .breakpoint)
    (ended : session.ending limit none made = some reason) :
    (session.withBreakpoints []).ending limit none made = some reason := by
  cases made with
  | zero => exact ended
  | succ made =>
    rw [ending_nil_succ]
    rw [ending] at ended
    split_ifs at ended with unknown halted met limited asked reached
    · rw [if_pos unknown, ended]
    · rw [if_neg unknown, if_pos halted, ended]
    · exact absurd (Option.some.inj ended).symm other
    · rw [if_neg unknown, if_neg halted, if_pos limited, ended]
    · cases asked
    · exact absurd (Option.some.inj ended).symm other

/-- In front of the first step breakpoints do not count. -/
theorem ending_zero_ne_breakpoint (session : Session) (limit : Int) (stopDuring : Option Nat) :
    session.ending limit stopDuring 0 ≠ some .breakpoint := by
  intro ended
  rw [ending] at ended
  split_ifs at ended <;> cases ended

/-- Where a breakpoint ends a run, only a limit could end it without breakpoints. -/
theorem ending_nil_of_breakpoint (ended : session.ending limit none made = some .breakpoint)
    (other : Int) :
    (session.withBreakpoints []).ending other none made =
      if (made : Int) = other then some .stepLimit else none := by
  cases made with
  | zero => exact absurd ended (session.ending_zero_ne_breakpoint limit none)
  | succ made =>
    rw [ending_nil_succ]
    rw [ending] at ended
    split_ifs at ended with unknown halted met limited asked reached
    · cases ended
    · cases ended
    · rw [if_neg unknown, if_neg halted]
    · cases ended
    · cases asked
    · rw [if_neg unknown, if_neg halted]

/-- A run that ends otherwise than by a breakpoint ends there without breakpoints as well. -/
theorem EndsAt.nil_of_ne (ends : session.EndsAt limit none total reason)
    (other : reason ≠ .breakpoint) :
    (session.withBreakpoints []).EndsAt limit none total reason :=
  ⟨ending_nil_of_ne other ends.1, fun earlier before =>
    ending_eq_none_of_within (Breakpoints.nil_within session.breakpoints)
      (ends.2 earlier before)⟩

/-- A run that ends by a breakpoint ends there by its limit where there are no breakpoints and
as many steps are admitted as it made. -/
theorem EndsAt.nil_of_breakpoint (ends : session.EndsAt limit none total .breakpoint) :
    (session.withBreakpoints []).EndsAt total none total .stepLimit := by
  constructor
  · rw [ending_nil_of_breakpoint ends.1, if_pos rfl]
  · intro earlier before
    have short := ends.le_limit
    have quiet := ending_eq_none_of_within (Breakpoints.nil_within session.breakpoints)
      (ends.2 earlier before)
    rw [ending_eq_of_lt (by omega)] at quiet ⊢
    exact quiet

/-- A run ends by a breakpoint only behind a step. -/
theorem EndsAt.pos_of_breakpoint (ends : session.EndsAt limit none total .breakpoint) :
    1 ≤ total := by
  rcases Nat.eq_zero_or_pos total with rfl | positive
  · exact absurd ends.1 (session.ending_zero_ne_breakpoint limit none)
  · exact positive

/-- Resuming comes to its end within as many runs as there are steps, behind the steps of the run
without breakpoints. -/
theorem exists_resume_eq (tolerant : session.configuration.onUnimplemented ≠ .fail)
    {rounds missing : Nat} (admitted : 1 ≤ missing) (enough : missing ≤ rounds) :
    ∃ total reason, (session.withBreakpoints []).EndsAt missing none total reason ∧
      session.resume rounds missing = some (session.snapshots total, session.after total) := by
  -- Each round makes a step, so that the steps still missing stay within the rounds that are left.
  induction rounds generalizing session missing with
  | zero => omega
  | succ rounds ih =>
    obtain ⟨made, reason, ends, ran⟩ := exists_run_eq tolerant (some (missing : Int)) none
    have within : made ≤ missing := ends.le_limit
    rw [resume, ran]
    dsimp only
    rw [show RunResult.steps ⟨reason, session.snapshots made⟩ = made from
      session.length_snapshots made]
    by_cases again : reason = .breakpoint ∧ made < missing
    · obtain ⟨rfl, short⟩ := again
      have moved : 1 ≤ made := ends.pos_of_breakpoint
      have fewer : missing - made ≤ rounds := by omega
      have kept : (session.after made).configuration.onUnimplemented ≠ .fail := by
        rw [configuration_after]
        exact tolerant
      obtain ⟨further, last, laterEnds, resumed⟩ :=
        ih kept (show 1 ≤ missing - made by omega) fewer
      rw [← after_withBreakpoints] at laterEnds
      have whole := ends.nil_of_breakpoint.add (by omega) (by omega)
        Breakpoints.not_someMetAt_nil laterEnds
      have sum : (made : Int) + ((missing - made : Nat) : Int) = missing := by omega
      rw [sum] at whole
      rw [if_pos ⟨rfl, short⟩, resumed]
      refine ⟨made + further, last, whole, ?_⟩
      rw [Option.map_some, ← snapshots_add, ← after_add]
    · rw [if_neg again]
      by_cases held : reason = .breakpoint
      · subst held
        have full : ¬made < missing := fun short => again ⟨rfl, short⟩
        obtain rfl : made = missing := by omega
        exact ⟨made, .stepLimit, ends.nil_of_breakpoint, rfl⟩
      · exact ⟨made, reason, ends.nil_of_ne held, rfl⟩

/-- Stopping at breakpoints and resuming loses no step and makes none twice. A run that is resumed
with the steps still missing behind each ending at a breakpoint comes to its end, within as many
runs as there are steps. All these runs make the steps of the one run without breakpoints and leave
the session of that run, apart from the breakpoints. -/
theorem run_resumed (session : Session)
    (tolerant : session.configuration.onUnimplemented ≠ .fail) {count rounds : Nat}
    (admitted : 1 ≤ count) (enough : count ≤ rounds) :
    ∃ result last,
      (session.withBreakpoints []).run (some count) none = (.ok result, last) ∧
      session.resume rounds count =
        some (result.snapshots, last.withBreakpoints session.breakpoints) := by
  obtain ⟨total, reason, ends, resumed⟩ := exists_resume_eq tolerant admitted enough
  have ran := run_eq_of_endsAt (tolerant_withBreakpoints [] tolerant) ends
  refine ⟨_, _, ran, ?_⟩
  rw [snapshots_withBreakpoints, after_withBreakpoints, resumed]
  have kept := session.breakpoints_after total
  rw [← kept]
  rfl

/-- Over a blank memory with breakpoints on address 1 and on the reading of its byte, the first run
stops behind one step. It is resumed until all three steps are made. -/
theorem run_resumed_at_breakpoints :
    let session : Session :=
      { cpu := .powerOn, configuration := {},
        breakpoints := [.atAddress 1, { kind := .memoryRead, address := some 1 }] }
    session.configuration.onUnimplemented ≠ .fail ∧
      (∃ result, (session.run (some 3) none).1 = .ok result ∧ result.reason = .breakpoint ∧
        result.steps = 1) ∧
      ∃ snapshots last, session.resume 3 3 = some (snapshots, last) ∧ snapshots.length = 3 ∧
        last.cpu.pc = 3 := by
  intro session
  have tolerant : session.configuration.onUnimplemented ≠ .fail := by decide
  have stops : session.EndsAt 3 none 1 .breakpoint := by
    constructor
    · decide +kernel
    · decide +kernel
  have ends : (session.withBreakpoints []).EndsAt (3 : Nat) none 3 .stepLimit := by
    constructor
    · decide +kernel
    · decide +kernel
  obtain ⟨result, last, ran, resumed⟩ :=
    run_resumed session tolerant (show 1 ≤ 3 by decide) (Nat.le_refl 3)
  have known := run_eq_of_endsAt (tolerant_withBreakpoints [] tolerant) ends
  rw [known, Prod.mk.injEq] at ran
  obtain ⟨made, reached⟩ := ran
  refine ⟨tolerant, ⟨_, congrArg Prod.fst (run_eq_of_endsAt tolerant stops), rfl,
    session.length_snapshots 1⟩, _, _, resumed, ?_, ?_⟩
  · rw [← Except.ok.inj made]
    exact length_snapshots _ 3
  · rw [← reached]
    decide +kernel

end Z80Monitor.Session
