import Z80Monitor.CommandLine.Command
import Z80Monitor.Proofs.Debugger.RunAnswer

/-!
# The output of a trace

A trace is made in runs of some steps each, and the command prints the steps of every run that
did not fail. So the output has one line for each step that was made, in order, as long as no run
fails. Where one does, the lines of the runs in front of it are all that is printed: the steps of
the failing run are missing, those that carried out an instruction included.
-/

namespace Z80Monitor

namespace Session

variable (session : Session)

/-- What a trace of at most `limit` steps may come to. -/
inductive Traced (limit : Nat) : Trace → Prop where
  /-- The trace holds every step that was made. -/
  | whole {total : Nat} {ending : TraceEnd} (within : total ≤ limit)
      (live : ∀ failure, ending ≠ .failed failure) :
      Traced limit ⟨session.snapshots total, ending, session.after total⟩
  /-- A run fails, and the trace holds the steps of the runs in front of it. -/
  | failed {total : Nat} (within : total < limit) (passed : session.Passes total)
      (fails : session.fails (session.snapshotAt total) = true) :
      Traced limit
        ⟨session.snapshots
            (total / session.configuration.stepsPerTick * session.configuration.stepsPerTick),
          .failed ⟨(session.snapshotAt total).result⟩, session.after (total + 1)⟩

variable {session}

/-- Behind the steps of whole runs, and of a last run that uses up what remains, a trace goes on
to what it comes to. -/
theorem Passes.traceFrom {made remaining : Nat} (passed : session.Passes made)
    (aligned : remaining = 0 ∨ session.configuration.stepsPerTick ∣ made) :
    session.Traced (made + remaining)
      ((session.after made).traceFrom (session.snapshots made).toArray remaining) := by
  -- What is left of the limit falls by a whole run. Only the last run may be shorter than a tick,
  -- and then nothing is left, so that a run which fails starts at a multiple of the tick.
  induction remaining using Nat.strongRecOn generalizing made with
  | ind remaining ih =>
    rw [Session.traceFrom]
    by_cases spent : remaining = 0
    · rw [if_pos spent]
      exact .whole (Nat.le_add_right made remaining) fun _ same => nomatch same
    · have tick := session.configuration.stepsPerTick_pos
      obtain ⟨runs, multiple⟩ := aligned.resolve_left spent
      have answer := (session.after made).run_answers
        (some ((min session.configuration.stepsPerTick remaining : Nat) : Int)) none
      rw [Option.getD_some, Int.toNat_natCast] at answer
      rw [if_neg spent, configuration_after]
      dsimp only
      generalize (session.after made).run _ none = ran at answer ⊢
      cases answer with
      | @ended total reason within behind full =>
        have joined : (session.snapshots made).toArray ++ (session.after made).snapshots total =
            (session.snapshots (made + total)).toArray := by
          apply Array.ext'
          rw [snapshots_add, Array.toList_appendList]
        simp only [RunResult.steps, length_snapshots, joined, ← after_add]
        split
        · rename_i limited
          have steps := full limited.1
          have further := ih (remaining - total) (by omega) (passed.add behind) ?_
          · rwa [show made + total + (remaining - total) = made + remaining by omega] at further
          · rcases Nat.le_total session.configuration.stepsPerTick remaining with short | long
            · right
              rw [steps, Nat.min_eq_left short]
              exact ⟨runs + 1, by rw [multiple, Nat.mul_succ]⟩
            · left
              omega
        · exact .whole (by omega) fun _ same => nomatch same
      | @failed total within behind fails =>
        rw [fails_after, ← snapshotAt_add] at fails
        have start : (made + total) / session.configuration.stepsPerTick *
            session.configuration.stepsPerTick = made := by
          have quotient : (made + total) / session.configuration.stepsPerTick = runs := by
            rw [multiple, Nat.mul_add_div tick, Nat.div_eq_of_lt (by omega), Nat.add_zero]
          rw [quotient, multiple, Nat.mul_comm]
        have outcome := Traced.failed (show made + total < made + remaining by omega)
          (passed.add behind) fails
        rw [start, snapshotAt_add] at outcome
        rw [← after_add]
        exact outcome

/-- A trace comes to one of its outcomes. -/
theorem trace_traced (session : Session) (limit : Nat) :
    session.Traced limit (session.trace limit) := by
  have start : session.Passes 0 := fun _ inside => absurd inside (Nat.not_lt_zero _)
  have traced : session.Traced (0 + limit) _ := start.traceFrom (.inr (Nat.dvd_zero _))
  rwa [Nat.zero_add] at traced

end Session

namespace CommandLine

namespace Settings

/-- The command prints what was loaded, then one line for each step that was made, in order, then
why the trace stopped, where it did so early, and the registers and flags at its end. Only where
the policy is to fail and a step meets an opcode that stands for no instruction, the output ends
with the lines of the runs in front of the one that this step belongs to. -/
theorem traceSource_output (settings : Settings) (session : Session) (source : String) :
    let loaded := session.loadSource source
    let tick := session.configuration.stepsPerTick
    let outcome := settings.traceSource session source
    let front := loadedLine (assemble source session.configuration.origin)
    let final := (loaded.trace settings.stepLimit).session
    (∃ total stops, total ≤ settings.stepLimit ∧ final = loaded.after total ∧
      outcome.failure = none ∧
      outcome.output = front :: (loaded.snapshots total).map (·.traceLine) ++ stops ++
        [registersLine final.cpu.state.registers, stateLine final.cpu.state] ∧
      (stops = [] ∨ ∃ reason : StopReason, stops = ["; stopped: " ++ reason.name])) ∨
    (∃ total, total < settings.stepLimit ∧ final = loaded.after (total + 1) ∧
      session.configuration.onUnimplemented = .fail ∧
      (loaded.snapshotAt total).result.status = .unimplemented ∧
      (∀ step < total, (loaded.snapshotAt step).result.status ≠ .unimplemented) ∧
      outcome.failure = some (.unimplemented ⟨(loaded.snapshotAt total).result⟩) ∧
      outcome.output =
        front :: (loaded.snapshots (total / tick * tick)).map (·.traceLine)) := by
  intro loaded tick outcome front final
  have traced := loaded.trace_traced settings.stepLimit
  simp only [outcome, final, traceSource]
  generalize loaded.trace settings.stepLimit = trace at traced ⊢
  cases traced with
  | @whole total ending within live =>
    left
    refine ⟨total, stopLines ending, within, rfl, ?_, ?_, ?_⟩
    · cases ending with
      | failed failure => exact absurd rfl (live failure)
      | _ => rfl
    · cases ending with
      | failed failure => exact absurd rfl (live failure)
      | _ => rfl
    · cases ending with
      | stopped reason => exact .inr ⟨reason, rfl⟩
      | _ => exact .inl rfl
  | @failed total within passed fails =>
    right
    obtain ⟨policy, unknown⟩ := (loaded.fails_iff _).mp fails
    refine ⟨total, within, rfl, policy, unknown, ?_, rfl, ?_⟩
    · intro step before same
      have passes := passed step before
      rw [(loaded.fails_iff _).mpr ⟨policy, same⟩] at passes
      cases passes
    · simp only [traceLines, stopLines, summaryLines, List.append_nil]
      rfl

end Settings

/-- A jump into an operand under the policy to fail: two instructions are carried out and the
third step fails, and of the three the output of the command says nothing. -/
theorem run_drops_lines :
    let source := "LD A,ED\nJP 1"
    let files : Files := fun path =>
      if path = "prog.asm".toList then .file source.toUTF8.data.toList
      else if path = "session.yaml".toList then
        .file "on_unimplemented: raise\n".toUTF8.data.toList
      else .missing
    ∃ session, Session.build { onUnimplemented := .fail } = .ok session ∧
      let loaded := session.loadSource source
      (run ["prog.asm", "-n", "4", "-c", "session.yaml"] files).output =
        ["; 5 bytes at $0000"] ∧
      (loaded.trace 4).session = loaded.after 3 ∧
      (loaded.snapshotAt 0).result.status = .executed ∧
      (loaded.snapshotAt 1).result.status = .executed ∧
      (loaded.snapshotAt 2).result.status = .unimplemented := by
  intro source files
  refine ⟨_, rfl, ?_, ?_, ?_, ?_, ?_⟩
  all_goals decide +kernel

end CommandLine

end Z80Monitor
