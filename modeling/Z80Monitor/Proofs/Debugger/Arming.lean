import Z80Monitor.Proofs.Debugger.Requests

/-!
# The breakpoints of a session

The breakpoints of a session are an ordered set. Which of them are set depends on the requests to
set and to take away alone: those whose last such request sets them. They are listed in the order
in which they came in from outside the list; to set one that is set already does not move it, and to
take one away once is enough, however often it was set.
-/

namespace Z80Monitor

/-- What a request does to the breakpoints. -/
inductive Arming where
  /-- Set a breakpoint. -/
  | sets (breakpoint : Breakpoint)
  /-- Take a breakpoint away. -/
  | unsets (breakpoint : Breakpoint)
  deriving DecidableEq

/-- The breakpoint that is set or taken away. -/
def Arming.breakpoint : Arming → Breakpoint
  | .sets breakpoint => breakpoint
  | .unsets breakpoint => breakpoint

/-- What a request does to the breakpoints, if it does anything to them. -/
def Request.arming? : Request → Option Arming
  | .addBreakpoint breakpoint => some (.sets breakpoint)
  | .addPcBreakpoint address => some (.sets (.atAddress address))
  | .removeBreakpoint breakpoint => some (.unsets breakpoint)
  | _ => none

/-- Set a breakpoint, or take it away. -/
def Breakpoints.arm (breakpoints : Breakpoints) : Arming → Breakpoints
  | .sets breakpoint => breakpoints.add breakpoint
  | .unsets breakpoint => breakpoints.remove breakpoint

/-- The last time that a breakpoint was named, it was set. -/
def Armed (armings : List Arming) (breakpoint : Breakpoint) : Prop :=
  (armings.filter (·.breakpoint = breakpoint)).getLast? = some (.sets breakpoint)

/-- At this place a breakpoint was set that was not set before. -/
structure Brings (armings : List Arming) (breakpoint : Breakpoint) (place : Nat) : Prop where
  /-- It was set here. -/
  sets : armings[place]? = some (.sets breakpoint)
  /-- It was not set before. -/
  outside : ¬Armed (armings.take place) breakpoint

/-- At this place a breakpoint was brought in for the last time. -/
structure ArrivesAt (armings : List Arming) (breakpoint : Breakpoint) (place : Nat) : Prop where
  /-- It was brought in here. -/
  brings : Brings armings breakpoint place
  /-- It was not brought in later. -/
  latest : ∀ later, Brings armings breakpoint later → later ≤ place

/-- A list of breakpoints is what they come to by being set and taken away. -/
structure Lists (armings : List Arming) (breakpoints : Breakpoints) : Prop where
  /-- None is listed twice. -/
  nodup : breakpoints.Nodup
  /-- Those are listed whose last naming sets them. -/
  mem_iff (breakpoint : Breakpoint) : breakpoint ∈ breakpoints ↔ Armed armings breakpoint
  /-- Each of them was brought in. -/
  arrives (breakpoint : Breakpoint) (listed : breakpoint ∈ breakpoints) :
    ∃ place, ArrivesAt armings breakpoint place
  /-- They are listed in the order in which they were brought in last. -/
  ordered : breakpoints.Pairwise fun first second => ∀ place later,
    ArrivesAt armings first place → ArrivesAt armings second later → place < later

/-! ## One more naming -/

section Concat

variable {armings : List Arming} {arming : Arming} {breakpoint : Breakpoint} {place : Nat}

/-- Naming a breakpoint once more decides whether it is set. -/
theorem armed_concat_self (armings : List Arming) (arming : Arming) :
    Armed (armings ++ [arming]) arming.breakpoint ↔ arming = .sets arming.breakpoint := by
  have named : decide (arming.breakpoint = arming.breakpoint) = true := decide_eq_true rfl
  rw [Armed, List.filter_append, List.filter_cons, if_pos named, List.filter_nil,
    List.getLast?_concat, Option.some.injEq]

/-- It does not matter to other breakpoints. -/
theorem armed_concat_of_ne (apart : arming.breakpoint ≠ breakpoint) :
    Armed (armings ++ [arming]) breakpoint ↔ Armed armings breakpoint := by
  have other : ¬decide (arming.breakpoint = breakpoint) = true := by rwa [decide_eq_true_eq]
  rw [Armed, List.filter_append, List.filter_cons, if_neg other, List.filter_nil,
    List.append_nil, Armed]

/-- A place where a breakpoint is brought in is one of the places. -/
theorem Brings.lt_length (brings : Brings armings breakpoint place) : place < armings.length := by
  obtain ⟨inside, _⟩ := List.getElem?_eq_some_iff.mp brings.sets
  exact inside

/-- In front of one more naming, a breakpoint is brought in where it was. -/
theorem brings_concat_of_lt (before : place < armings.length) :
    Brings (armings ++ [arming]) breakpoint place ↔ Brings armings breakpoint place := by
  have named : (armings ++ [arming])[place]? = armings[place]? :=
    List.getElem?_append_left before
  have earlier : (armings ++ [arming]).take place = armings.take place :=
    List.take_append_of_le_length (Nat.le_of_lt before)
  constructor
  · rintro ⟨sets, outside⟩
    exact ⟨named ▸ sets, earlier ▸ outside⟩
  · rintro ⟨sets, outside⟩
    exact ⟨named.symm ▸ sets, earlier.symm ▸ outside⟩

/-- By the new naming it is brought in where that sets it and it was not set. -/
theorem brings_concat_length :
    Brings (armings ++ [arming]) breakpoint armings.length ↔
      arming = .sets breakpoint ∧ ¬Armed armings breakpoint := by
  constructor
  · rintro ⟨sets, outside⟩
    rw [List.getElem?_concat_length, Option.some.injEq] at sets
    rw [List.take_left] at outside
    exact ⟨sets, outside⟩
  · rintro ⟨rfl, outside⟩
    refine ⟨List.getElem?_concat_length, ?_⟩
    rwa [List.take_left]

/-- No breakpoint is brought in behind the new naming. -/
theorem Brings.le_length (brings : Brings (armings ++ [arming]) breakpoint place) :
    place ≤ armings.length := by
  have inside := brings.lt_length
  rw [List.length_append, List.length_singleton] at inside
  exact Nat.le_of_lt_succ inside

/-- A naming that does not bring a breakpoint in leaves its arrival as it is. -/
theorem arrivesAt_concat_iff (idle : arming = .sets breakpoint → Armed armings breakpoint) :
    ArrivesAt (armings ++ [arming]) breakpoint place ↔ ArrivesAt armings breakpoint place := by
  have same (place : Nat) :
      Brings (armings ++ [arming]) breakpoint place ↔ Brings armings breakpoint place := by
    rcases Nat.lt_trichotomy place armings.length with before | rfl | beyond
    · exact brings_concat_of_lt before
    · rw [brings_concat_length]
      exact iff_of_false (fun ⟨sets, outside⟩ => outside (idle sets))
        fun brings => Nat.lt_irrefl _ brings.lt_length
    · exact iff_of_false (fun brings => Nat.not_lt.mpr brings.le_length beyond)
        fun brings => Nat.lt_asymm brings.lt_length beyond
  constructor
  · rintro ⟨brings, latest⟩
    exact ⟨(same place).mp brings, fun later again => latest later ((same later).mpr again)⟩
  · rintro ⟨brings, latest⟩
    exact ⟨(same place).mpr brings, fun later again => latest later ((same later).mp again)⟩

/-- A naming that brings a breakpoint in is its arrival. -/
theorem arrivesAt_concat_sets_iff (outside : ¬Armed armings breakpoint) :
    ArrivesAt (armings ++ [.sets breakpoint]) breakpoint place ↔ place = armings.length := by
  have here : Brings (armings ++ [.sets breakpoint]) breakpoint armings.length :=
    brings_concat_length.mpr ⟨rfl, outside⟩
  constructor
  · rintro ⟨brings, latest⟩
    exact Nat.le_antisymm brings.le_length (latest _ here)
  · rintro rfl
    exact ⟨here, fun later again => again.le_length⟩

end Concat

/-! ## The list behind a naming -/

namespace Lists

variable {armings : List Arming} {breakpoints : Breakpoints}

/-- What stays of a list stays in order behind a naming that brings none of it in. -/
theorem ordered_concat (lists : Lists armings breakpoints) (arming : Arming)
    {rest : Breakpoints} (part : rest.Sublist breakpoints)
    (idle : ∀ breakpoint ∈ rest, arming = .sets breakpoint → Armed armings breakpoint) :
    (∀ breakpoint ∈ rest, ∃ place, ArrivesAt (armings ++ [arming]) breakpoint place) ∧
      rest.Pairwise fun first second => ∀ place later,
        ArrivesAt (armings ++ [arming]) first place →
          ArrivesAt (armings ++ [arming]) second later → place < later := by
  constructor
  · intro breakpoint listed
    obtain ⟨place, arrives⟩ := lists.arrives breakpoint (part.subset listed)
    exact ⟨place, (arrivesAt_concat_iff (idle breakpoint listed)).mpr arrives⟩
  · refine (lists.ordered.sublist part).imp_of_mem ?_
    intro first second listed listed' ordered place later arrives arrives'
    rw [arrivesAt_concat_iff (idle first listed)] at arrives
    rw [arrivesAt_concat_iff (idle second listed')] at arrives'
    exact ordered place later arrives arrives'

/-- To set a breakpoint that is set already changes nothing. -/
theorem sets_of_mem (lists : Lists armings breakpoints) {breakpoint : Breakpoint}
    (listed : breakpoint ∈ breakpoints) :
    Lists (armings ++ [.sets breakpoint]) breakpoints := by
  have armed := (lists.mem_iff breakpoint).mp listed
  have idle (other : Breakpoint) (_ : other ∈ breakpoints)
      (same : Arming.sets breakpoint = .sets other) : Armed armings other := by
    cases same
    exact armed
  obtain ⟨arrives, ordered⟩ := lists.ordered_concat _ (List.Sublist.refl breakpoints) idle
  refine ⟨lists.nodup, ?_, arrives, ordered⟩
  intro other
  by_cases same : breakpoint = other
  · subst same
    exact iff_of_true listed ((armed_concat_self armings (.sets breakpoint)).mpr rfl)
  · have apart : (Arming.sets breakpoint).breakpoint ≠ other := same
    rw [armed_concat_of_ne apart, lists.mem_iff]

/-- A breakpoint that is not set comes in behind the others. -/
theorem sets_of_not_mem (lists : Lists armings breakpoints) {breakpoint : Breakpoint}
    (absent : breakpoint ∉ breakpoints) :
    Lists (armings ++ [.sets breakpoint]) (breakpoints ++ [breakpoint]) := by
  have outside : ¬Armed armings breakpoint := fun armed =>
    absent ((lists.mem_iff breakpoint).mpr armed)
  have idle (other : Breakpoint) (listed : other ∈ breakpoints)
      (same : Arming.sets breakpoint = .sets other) : Armed armings other := by
    cases same
    exact absurd listed absent
  obtain ⟨arrives, ordered⟩ := lists.ordered_concat _ (List.Sublist.refl breakpoints) idle
  constructor
  case nodup =>
    rw [List.nodup_append]
    refine ⟨lists.nodup, List.pairwise_singleton _ breakpoint, ?_⟩
    rintro other listed _ last rfl
    exact absent (List.mem_singleton.mp last ▸ listed)
  case mem_iff =>
    intro other
    rw [List.mem_append, List.mem_singleton, lists.mem_iff]
    by_cases same : breakpoint = other
    · subst same
      exact iff_of_true (.inr rfl) ((armed_concat_self armings (.sets breakpoint)).mpr rfl)
    · have apart : (Arming.sets breakpoint).breakpoint ≠ other := same
      rw [armed_concat_of_ne apart, or_iff_left (Ne.symm same)]
  case arrives =>
    intro other listed
    rcases List.mem_append.mp listed with before | last
    · exact arrives other before
    · obtain rfl := List.mem_singleton.mp last
      exact ⟨_, (arrivesAt_concat_sets_iff outside).mpr rfl⟩
  case ordered =>
    rw [List.pairwise_append]
    refine ⟨ordered, List.pairwise_singleton _ _, ?_⟩
    intro other listed last new place later before behind
    obtain rfl := List.mem_singleton.mp new
    rw [arrivesAt_concat_iff (idle other listed)] at before
    rw [(arrivesAt_concat_sets_iff outside).mp behind]
    exact before.brings.lt_length

/-- A breakpoint that is taken away is gone, and the others stay in order. -/
theorem unsets (lists : Lists armings breakpoints) (breakpoint : Breakpoint) :
    Lists (armings ++ [.unsets breakpoint]) (breakpoints.remove breakpoint) := by
  have idle (other : Breakpoint) (_ : other ∈ breakpoints.remove breakpoint)
      (same : Arming.unsets breakpoint = .sets other) : Armed armings other := nomatch same
  obtain ⟨arrives, ordered⟩ := lists.ordered_concat _ List.erase_sublist idle
  refine ⟨lists.nodup.erase breakpoint, ?_, arrives, ordered⟩
  intro other
  rw [Breakpoints.remove, lists.nodup.mem_erase_iff, lists.mem_iff]
  by_cases same : breakpoint = other
  · subst same
    have gone : Arming.unsets breakpoint ≠ .sets breakpoint := nofun
    exact iff_of_false (fun inside => inside.1 rfl)
      fun armed => gone ((armed_concat_self armings (.unsets breakpoint)).mp armed)
  · have apart : (Arming.unsets breakpoint).breakpoint ≠ other := same
    rw [armed_concat_of_ne apart, and_iff_right (Ne.symm same)]

/-- Behind one more naming the list is what the breakpoints come to by then. -/
theorem arm (lists : Lists armings breakpoints) (arming : Arming) :
    Lists (armings ++ [arming]) (breakpoints.arm arming) := by
  cases arming with
  | sets breakpoint =>
    rw [Breakpoints.arm, Breakpoints.add]
    by_cases listed : breakpoint ∈ breakpoints
    · rw [if_pos (List.contains_iff_mem.mpr listed)]
      exact lists.sets_of_mem listed
    · rw [if_neg (mt List.contains_iff_mem.mp listed)]
      exact lists.sets_of_not_mem listed
  | unsets breakpoint => exact lists.unsets breakpoint

/-- Behind any namings it is. -/
theorem foldl_arm (lists : Lists armings breakpoints) (more : List Arming) :
    Lists (armings ++ more) (more.foldl Breakpoints.arm breakpoints) := by
  induction more generalizing armings breakpoints with
  | nil => rwa [List.append_nil]
  | cons arming rest ih =>
    rw [List.append_cons]
    exact ih (lists.arm arming)

/-- No breakpoints are what they come to without any naming. -/
theorem nil : Lists [] [] where
  nodup := List.nodup_nil
  mem_iff _ := iff_of_false List.not_mem_nil nofun
  arrives _ listed := absurd listed List.not_mem_nil
  ordered := List.Pairwise.nil

end Lists

namespace Session

variable {configuration : Configuration} {session : Session}

/-- Only requests that name a breakpoint change the breakpoints, by setting it or taking it away. -/
theorem breakpoints_respond (session : Session) (request : Request) :
    (session.respond request).2.breakpoints =
      match request.arming? with
      | some arming => session.breakpoints.arm arming
      | none => session.breakpoints := by
  cases request with
  | writeRegister name value =>
    unfold respond
    dsimp only
    split <;> rfl
  | run limit stopDuring =>
    obtain ⟨total, _, left⟩ := session.exists_runSnapshots_eq limit stopDuring
    change (session.run limit stopDuring).2.breakpoints = session.breakpoints
    rw [left, breakpoints_after]
  | _ => rfl

/-- Requests do to the breakpoints what those of them do that name one. -/
theorem breakpoints_perform_eq (session : Session) (requests : List Request) :
    (session.perform requests).breakpoints =
      (requests.filterMap Request.arming?).foldl Breakpoints.arm session.breakpoints := by
  induction requests generalizing session with
  | nil => rfl
  | cons request rest ih =>
    have here := session.breakpoints_respond request
    rw [perform, performFrom, ← perform, ih, here, List.filterMap_cons]
    cases request.arming? <;> rfl

/-- Work begins without breakpoints. -/
theorem Starts.breakpoints_eq_nil (starts : Starts configuration session) :
    session.breakpoints = [] := by
  cases starts with
  | attached made => rw [eq_of_attach made]
  | built made =>
    rw [eq_of_build made]
    rfl

/-- The breakpoints of a session are an ordered set. Whatever is asked of a session, those are
shown that were set when they were named last, none of them twice, and in the order in which each
was last brought in from outside the list. So a single request takes a breakpoint away, however
often it was set, and to take one away that is not set changes nothing. -/
theorem breakpoints_perform (starts : Starts configuration session) (requests : List Request) :
    let reached := session.perform requests
    Lists (requests.filterMap Request.arming?) reached.visible.breakpoints ∧
      (∀ breakpoint,
        breakpoint ∉ (reached.respond (.removeBreakpoint breakpoint)).2.visible.breakpoints) ∧
      ∀ breakpoint, breakpoint ∉ reached.visible.breakpoints →
        (reached.respond (.removeBreakpoint breakpoint)).2 = reached := by
  intro reached
  have lists : Lists (requests.filterMap Request.arming?) reached.breakpoints := by
    have behind := Lists.nil.foldl_arm (requests.filterMap Request.arming?)
    rw [List.nil_append, ← starts.breakpoints_eq_nil, ← breakpoints_perform_eq] at behind
    exact behind
  refine ⟨lists, ?_, ?_⟩
  · exact fun breakpoint => lists.nodup.not_mem_erase
  · intro breakpoint absent
    have same : reached.breakpoints.remove breakpoint = reached.breakpoints :=
      List.erase_of_not_mem absent
    change { reached with breakpoints := reached.breakpoints.remove breakpoint } = reached
    rw [same]

/-- A breakpoint that is set twice is taken away at once and comes in again behind another, which
is the same for an address and for one that is greater by 65536. -/
theorem breakpoints_perform_again :
    let watch : Breakpoint := { kind := .memoryWrite, address := some 0x2000 }
    let requests : List Request :=
      [.addBreakpoint watch, .addPcBreakpoint 65541, .addBreakpoint watch, .stepInstruction,
        .removeBreakpoint watch, .addPcBreakpoint 5, .addBreakpoint watch]
    ∃ session, build {} = .ok session ∧ Starts {} session ∧
      let reached := session.perform requests
      reached.visible.breakpoints = [.atAddress 5, watch] ∧
        Lists (requests.filterMap Request.arming?) reached.visible.breakpoints ∧
        (∀ breakpoint,
          breakpoint ∉ (reached.respond (.removeBreakpoint breakpoint)).2.visible.breakpoints) ∧
        ∀ breakpoint, breakpoint ∉ reached.visible.breakpoints →
          (reached.respond (.removeBreakpoint breakpoint)).2 = reached := by
  intro watch requests
  refine ⟨_, rfl, ?_⟩
  generalize built : Session.reset _ = session
  have starts : Starts {} session := .built (congrArg Except.ok built)
  refine ⟨starts, ?_, breakpoints_perform starts requests⟩
  change (session.perform requests).breakpoints = _
  rw [breakpoints_perform_eq, starts.breakpoints_eq_nil]
  decide

end Session

end Z80Monitor
