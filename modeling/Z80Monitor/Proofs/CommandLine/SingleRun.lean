import Z80Monitor.CommandLine.Command
import Z80Monitor.Proofs.Debugger.Requests
import Z80Monitor.Proofs.Debugger.TracedRun

/-!
# The command and one run

The command traces a program in runs that are as long as the configuration says. Where the policy
is not to fail, all that it prints is known from one run of the new session, whose limit is the
number of steps that the command may make. So the length of the runs leaves no mark on the output.
-/

namespace Z80Monitor

/-- The configuration with another number of steps for a run that is given no limit. -/
def Configuration.withTick (configuration : Configuration) (tick : Nat) (positive : 0 < tick) :
    Configuration :=
  { configuration with stepsPerTick := tick, stepsPerTick_pos := positive }

namespace Session

/-- The session with another number of steps for a run that is given no limit. -/
def withTick (session : Session) (tick : Nat) (positive : 0 < tick) : Session :=
  { session with configuration := session.configuration.withTick tick positive }

variable (tick : Nat) (positive : 0 < tick)

/-- Runs do not look at the number of steps that they would make without a limit. -/
theorem unnoticed_withTick : Unnoticed (·.withTick tick positive) where
  unseen _ := rfl
  state _ := rfl
  holdAt _ _ := rfl
  holdAfter _ _ _ _ := rfl
  policy _ := rfl

/-- A program is loaded in the same way whatever the length of the runs. -/
theorem loadSource_withTick (session : Session) (source : String) :
    (session.withTick tick positive).loadSource source =
      (session.loadSource source).withTick tick positive := rfl

/-- A session is built in the same way whatever the length of the runs. -/
theorem build_withTick (configuration : Configuration) :
    build (configuration.withTick tick positive) =
      (build configuration).map (·.withTick tick positive) :=
  build_eq_map rfl rfl

/-- Whatever the length of its runs, a trace is the one run with the limit of the trace. -/
theorem exists_trace_withTick_eq {session : Session}
    (tolerant : session.configuration.onUnimplemented ≠ .fail)
    (unwatched : session.breakpoints = []) (limit : Nat) :
    ∃ result last, session.run (some limit) none = (.ok result, last) ∧
      (session.withTick tick positive).trace limit =
        ⟨result.snapshots, result.reason.traceEnd, last.withTick tick positive⟩ := by
  have kept : (session.withTick tick positive).configuration.onUnimplemented ≠ .fail := tolerant
  obtain ⟨result, last, ran, traced⟩ := exists_trace_eq kept unwatched limit
  rw [(unnoticed_withTick tick positive).run session (some limit) none rfl] at ran
  rcases once : session.run (some (limit : Int)) none with ⟨answer, after⟩
  rw [once, Prod.map_apply, Prod.mk.injEq] at ran
  obtain ⟨rfl, rfl⟩ := ran
  exact ⟨result, after, rfl, traced⟩

end Session

namespace CommandLine

/-- The lines of a trace that ends as a run does for a reason. -/
theorem traceLines_traceEnd (snapshots : List Snapshot) (reason : StopReason) (session : Session) :
    traceLines ⟨snapshots, reason.traceEnd, session⟩ =
      snapshots.map (·.traceLine) ++
        (if reason = .stepLimit then [] else ["; stopped: " ++ reason.name]) ++
        [registersLine session.cpu.state.registers, stateLine session.cpu.state] := by
  unfold traceLines StopReason.traceEnd
  by_cases limited : reason = .stepLimit
  · rw [if_pos limited, if_pos limited]
    rfl
  · rw [if_neg limited, if_neg limited]
    rfl

/-- Whatever the length of its runs, the trace of a program in a new session prints the steps of one
run, why it ended unless it was by its limit, and the registers and flags behind it. -/
theorem Settings.traceSource_withTick (settings : Settings) {session : Session}
    (tolerant : session.configuration.onUnimplemented ≠ .fail)
    (unwatched : session.breakpoints = []) (tick : Nat) (positive : 0 < tick) (source : String) :
    let outcome := settings.traceSource (session.withTick tick positive) source
    ∃ result last,
      (session.loadSource source).run (some settings.stepLimit) none = (.ok result, last) ∧
      outcome.failure = none ∧
      outcome.output =
        loadedLine (assemble source session.configuration.origin) ::
          (result.snapshots.map (·.traceLine) ++
            (if result.reason = .stepLimit then [] else ["; stopped: " ++ result.reason.name]) ++
            [registersLine last.cpu.state.registers, stateLine last.cpu.state]) := by
  intro outcome
  have loaded : (session.loadSource source).configuration.onUnimplemented ≠ .fail := tolerant
  have bare : (session.loadSource source).breakpoints = [] := unwatched
  obtain ⟨result, last, ran, traced⟩ :=
    Session.exists_trace_withTick_eq tick positive loaded bare settings.stepLimit
  refine ⟨result, last, ran, ?_⟩
  simp only [outcome, traceSource, Session.loadSource_withTick, traced, traceLines_traceEnd]
  cases result.reason with
  | _ => exact ⟨rfl, rfl⟩

/-- Where the policy is not to fail, the command prints what one run of the new session comes to,
whose limit is the number of steps that the command may make: what was loaded, one line for each
step of the run in order, why the run ended unless it was by its limit, and the registers and flags
behind it. None of this depends on the number of steps that the configuration gives to a tick, and
where no session can be built nothing is printed. The arguments and the configuration can be read
by any readers. -/
theorem run_output_eq (readers : Readers) {arguments : List String} {files : Files}
    {settings : Settings} {configuration : Configuration} {tick : Nat} {source : String}
    (called : readers.invocation arguments files = .ok (.trace settings)) (positive : 0 < tick)
    (configured : readers.configuration settings = .ok (configuration.withTick tick positive))
    (read : settings.source.text = .ok source)
    (tolerant : configuration.onUnimplemented ≠ .fail) :
    match Session.build configuration with
    | .error _ => (readers.run arguments files).output = []
    | .ok session =>
      ∃ result last,
        (session.loadSource source).run (some settings.stepLimit) none = (.ok result, last) ∧
        (readers.run arguments files).failure = none ∧
        (readers.run arguments files).output =
          loadedLine (assemble source configuration.origin) ::
            (result.snapshots.map (·.traceLine) ++
              (if result.reason = .stepLimit then [] else ["; stopped: " ++ result.reason.name]) ++
              [registersLine last.cpu.state.registers, stateLine last.cpu.state]) := by
  have carried : readers.run arguments files = readers.outcome settings := by
    rw [Readers.run, called]
  have prepared : readers.session settings =
      ((Session.build configuration).map (·.withTick tick positive)).mapError .history := by
    rw [Readers.session, configured, ← Session.build_withTick]
    rfl
  rw [carried, Readers.outcome, prepared]
  cases built : Session.build configuration with
  | error failure => rfl
  | ok session =>
    obtain ⟨same, _⟩ := (Session.Starts.built built).eq_nil
    have unwatched : session.breakpoints = [] := by rw [Session.eq_of_build built, Session.reset]
    rw [← same] at tolerant ⊢
    simp only [Except.map, Except.mapError, read]
    exact settings.traceSource_withTick tolerant unwatched tick positive source

/-- A computation that has a result ends with it. -/
theorem eq_ok_of_toOption_eq {Error Result : Type} {computation : Except Error Result}
    {result : Result} (found : computation.toOption = some result) :
    computation = .ok result := by
  cases computation with
  | error error => cases found
  | ok other => exact congrArg Except.ok (Option.some.inj found)

/-- Traced in ticks of two steps, a program of three instructions halts in the middle of the second
tick, and the output is that of one run of at most five steps. -/
theorem run_output_eq_in_ticks :
    let source := "INC A\nINC A\nHALT"
    let text := "steps_per_tick: 2\n"
    let files : Files := fun path =>
      if path = "prog.asm".toList then .file source.toUTF8.data.toList
      else if path = "session.yaml".toList then .file text.toUTF8.data.toList
      else .missing
    let arguments := ["prog.asm", "-n", "5", "-c", "session.yaml"]
    ∃ settings session result last,
      Readers.standard.invocation arguments files = .ok (.trace settings) ∧
      Readers.standard.configuration settings =
        .ok (({} : Configuration).withTick 2 (by decide)) ∧
      settings.source.text = .ok source ∧ Session.build {} = .ok session ∧
      (session.loadSource source).run (some settings.stepLimit) none = (.ok result, last) ∧
      result.reason = .halted ∧
      (run arguments files).output =
        loadedLine (assemble source 0) ::
          (result.snapshots.map (·.traceLine) ++ ["; stopped: HALTED"] ++
            [registersLine last.cpu.state.registers, stateLine last.cpu.state]) := by
  intro source text files arguments
  let settings : Settings :=
    { source := ⟨"prog.asm".toList, source.toUTF8.data.toList⟩
      config := some ⟨"session.yaml".toList, text.toUTF8.data.toList⟩
      origin := none
      stepLimit := 5
      verbose := false }
  have called : Readers.standard.invocation arguments files = .ok (.trace settings) :=
    eq_ok_of_toOption_eq (by decide +kernel)
  have configured : Readers.standard.configuration settings =
      .ok (({} : Configuration).withTick 2 (by decide)) :=
    eq_ok_of_toOption_eq (by decide +kernel)
  have read : settings.source.text = .ok source := eq_ok_of_toOption_eq (by decide +kernel)
  obtain ⟨result, last, ran, _, printed⟩ :=
    run_output_eq .standard called (by decide) configured read (by decide)
  have halted : result.reason = .halted := by
    have reason := congrArg (fun answer => answer.1.toOption.map (·.reason)) ran
    have known : (((Session.reset { cpu := .powerOn, configuration := {} }).loadSource source).run
        (some 5) none).1.toOption.map (·.reason) = some .halted := by decide +kernel
    exact Option.some.inj (reason.symm.trans known)
  rw [halted] at printed
  exact ⟨settings, _, result, last, called, configured, read, rfl, ran, halted, printed⟩

end CommandLine

end Z80Monitor
