import Z80Monitor.Proofs.Debugger.RunEnding

/-!
# Breakpoints beyond the memory

A breakpoint that is set as it is given looks for its address as a whole number, while program
counters and accesses are below 65536. So a condition on an address from 0 to 65535 is the same as
the one on its residue, and a condition on any other address is dead: every run goes as it does
without it, where the condition on the residue may end it. Only a breakpoint that is set by its
address alone wraps at 65536.
-/

namespace Z80Monitor

namespace Breakpoint

/-- The address that a condition on the program counter or on an access looks for. -/
def aim (breakpoint : Breakpoint) : Option Int :=
  match breakpoint.kind with
  | .pcMatch => breakpoint.value
  | .memoryRead | .memoryWrite => breakpoint.address
  | .registerValue | .registerChange => none

/-- The condition with another address to look for. -/
def aimedAt (breakpoint : Breakpoint) (address : Int) : Breakpoint :=
  match breakpoint.kind with
  | .pcMatch => { breakpoint with value := some address }
  | .memoryRead | .memoryWrite => { breakpoint with address := some address }
  | .registerValue | .registerChange => breakpoint

variable {breakpoint : Breakpoint} {address : Int}

/-- A condition looks for its own address. -/
theorem aimedAt_aim (aims : breakpoint.aim = some address) :
    breakpoint.aimedAt address = breakpoint := by
  obtain ⟨kind, value, place, name, enabled⟩ := breakpoint
  cases kind with
  | pcMatch =>
    obtain rfl : value = some address := aims
    rfl
  | memoryRead =>
    obtain rfl : place = some address := aims
    rfl
  | memoryWrite =>
    obtain rfl : place = some address := aims
    rfl
  | registerValue => rfl
  | registerChange => rfl

/-- No word is an address beyond the memory. -/
theorem ne_of_beyond (beyond : ¬(0 ≤ address ∧ address < 65536)) (value : UInt16) :
    (value.toNat : Int) ≠ address := by
  have bound := value.toNat_lt
  omega

/-- A condition on an address beyond the memory is met at no address. -/
theorem holdsAt_of_beyond (aims : breakpoint.aim = some address)
    (beyond : ¬(0 ≤ address ∧ address < 65536)) (pc : UInt16) :
    breakpoint.holdsAt pc.toNat = false := by
  rw [Bool.eq_false_iff]
  intro holds
  rw [holdsAt, Bool.and_eq_true, Bool.and_eq_true, beq_iff_eq, beq_iff_eq] at holds
  obtain ⟨⟨_, kind⟩, value⟩ := holds
  rw [aim, kind] at aims
  exact ne_of_beyond beyond pc (Option.some.inj (value.symm.trans aims))

/-- A step touches no address beyond the memory. -/
theorem touches_of_beyond (aims : breakpoint.address = some address)
    (beyond : ¬(0 ≤ address ∧ address < 65536)) (kind : AccessKind) (snapshot : Snapshot) :
    breakpoint.touches kind snapshot.touched = false := by
  rw [Bool.eq_false_iff, ne_eq, touches_iff]
  rintro ⟨access, _, _, same⟩
  exact ne_of_beyond beyond access.address (Option.some.inj (same.symm.trans aims))

/-- A condition on an address beyond the memory is met by no step. -/
theorem holdsAfter_of_beyond (aims : breakpoint.aim = some address)
    (beyond : ¬(0 ≤ address ∧ address < 65536)) (snapshot : Snapshot)
    (before after : RegisterMap) :
    breakpoint.holdsAfter snapshot.touched before after = false := by
  unfold holdsAfter
  unfold aim at aims
  cases kind : breakpoint.kind with
  | pcMatch => exact Bool.and_false _
  | memoryRead =>
    rw [kind] at aims
    exact (congrArg _ (touches_of_beyond aims beyond .read snapshot)).trans (Bool.and_false _)
  | memoryWrite =>
    rw [kind] at aims
    exact (congrArg _ (touches_of_beyond aims beyond .write snapshot)).trans (Bool.and_false _)
  | registerValue =>
    rw [kind] at aims
    cases aims
  | registerChange =>
    rw [kind] at aims
    cases aims

end Breakpoint

/-- Whether some breakpoint of a list holds, behind one more that is set. -/
theorem Breakpoints.any_add (breakpoints : Breakpoints) (breakpoint : Breakpoint)
    (holds : Breakpoint → Bool) :
    (breakpoints.add breakpoint).any holds = (breakpoints.any holds || holds breakpoint) := by
  unfold add
  split
  · rename_i present
    rw [List.contains_iff_mem] at present
    cases met : holds breakpoint with
    | false => rw [Bool.or_false]
    | true =>
      rw [Bool.or_true, List.any_eq_true]
      exact ⟨breakpoint, present, met⟩
  · rw [List.any_append, List.any_cons, List.any_nil, Bool.or_false]

namespace Session

variable {breakpoint : Breakpoint} {address : Int}

/-- Runs do not notice a condition on an address beyond the memory. -/
theorem unnoticed_addBreakpoint (aims : breakpoint.aim = some address)
    (beyond : ¬(0 ≤ address ∧ address < 65536)) : Unnoticed (·.addBreakpoint breakpoint) where
  unseen _ := rfl
  state _ := rfl
  holdAt session pc := by
    rw [addBreakpoint, Breakpoints.holdAt, Breakpoints.any_add,
      Breakpoint.holdsAt_of_beyond aims beyond, Bool.or_false]
    rfl
  holdAfter session snapshot before after := by
    rw [addBreakpoint, Breakpoints.holdAfter, Breakpoints.any_add,
      Breakpoint.holdsAfter_of_beyond aims beyond, Bool.or_false]
    rfl
  policy _ := rfl

/-- A condition on the program counter or on an access, for an address of any size. Within the
memory it is the condition on the residue of its address, so that the runs under both are the same.
Beyond the memory it is dead: every run gives the result that it gives without the condition, and
leaves the same session but for the condition. A breakpoint that is set by its address alone is the
condition on the residue, wherever the address is. -/
theorem run_addBreakpoint_of_aim (session : Session) {breakpoint : Breakpoint} {address : Int}
    (aims : breakpoint.aim = some address) (limit : Option Int) (stopDuring : Option Nat) :
    (0 ≤ address ∧ address < 65536 →
      (session.addBreakpoint breakpoint).run limit stopDuring =
        (session.addBreakpoint (breakpoint.aimedAt (address % 65536))).run limit stopDuring) ∧
    (¬(0 ≤ address ∧ address < 65536) →
      (session.addBreakpoint breakpoint).run limit stopDuring =
        (session.run limit stopDuring).map id (·.addBreakpoint breakpoint)) ∧
    (session.addBreakpoint (.atAddress address)).run limit stopDuring =
      (session.addBreakpoint { kind := .pcMatch, value := some (address % 65536) }).run limit
        stopDuring := by
  refine ⟨fun within => ?_, fun beyond => ?_, ?_⟩
  · rw [Int.emod_eq_of_lt within.1 within.2, Breakpoint.aimedAt_aim aims]
  · exact (unnoticed_addBreakpoint aims beyond).run session limit stopDuring rfl
  · rw [Breakpoint.atAddress, toNat_word]

/-- Over a blank memory the reading of address 65537 does not end a run of two steps. -/
theorem run_addBreakpoint_of_aim_blank :
    let session : Session := { cpu := .powerOn, configuration := {} }
    let breakpoint : Breakpoint := { kind := .memoryRead, address := some 65537 }
    breakpoint.aim = some 65537 ∧
      (session.addBreakpoint breakpoint).run (some 2) none =
        (.ok ⟨.stepLimit, session.snapshots 2⟩, (session.after 2).addBreakpoint breakpoint) := by
  intro session breakpoint
  have tolerant : session.configuration.onUnimplemented ≠ .fail := by decide
  have ends : session.EndsAt 2 none 2 .stepLimit := by
    constructor
    · decide +kernel
    · decide +kernel
  have aims : breakpoint.aim = some 65537 := rfl
  obtain ⟨_, dead, _⟩ := run_addBreakpoint_of_aim session aims (some 2) none
  refine ⟨aims, (dead (by decide)).trans ?_⟩
  rw [run_eq_of_endsAt tolerant ends]
  rfl

/-- Breakpoints do not wrap. Over a blank memory the program counter at 65537, or the reading of
this address, ends no run, whereas address 1, which has the same residue, ends a run of two steps
behind the first one or behind the second. -/
theorem breakpoint_beyond_memory_passed :
    let session : Session := { cpu := .powerOn, configuration := {} }
    let atPc (address : Int) := session.addBreakpoint { kind := .pcMatch, value := some address }
    let atRead (address : Int) :=
      session.addBreakpoint { kind := .memoryRead, address := some address }
    (65537 : Int) % 65536 = 1 ∧
      ((atPc 65537).run (some 3) none).1 = .ok ⟨.stepLimit, session.snapshots 3⟩ ∧
      ((atPc 1).run (some 3) none).1 = .ok ⟨.breakpoint, session.snapshots 1⟩ ∧
      ((atRead 65537).run (some 3) none).1 = .ok ⟨.stepLimit, session.snapshots 3⟩ ∧
      ((atRead 1).run (some 3) none).1 = .ok ⟨.breakpoint, session.snapshots 2⟩ := by
  intro session atPc atRead
  have tolerant : session.configuration.onUnimplemented ≠ .fail := by decide
  have found (breakpoint : Breakpoint) {total : Nat} {reason : StopReason}
      (ends : (session.addBreakpoint breakpoint).EndsAt 3 none total reason) :
      ((session.addBreakpoint breakpoint).run (some 3) none).1 =
        .ok ⟨reason, session.snapshots total⟩ := by
    have unseen : Unseen (·.addBreakpoint breakpoint) := fun _ => rfl
    have kept : (session.addBreakpoint breakpoint).configuration.onUnimplemented ≠ .fail := tolerant
    rw [run_eq_of_endsAt kept ends, unseen.snapshots]
  refine ⟨rfl, found _ ?_, found _ ?_, found _ ?_, found _ ?_⟩
  · exact ⟨by decide +kernel, by decide +kernel⟩
  · exact ⟨by decide +kernel, by decide +kernel⟩
  · exact ⟨by decide +kernel, by decide +kernel⟩
  · exact ⟨by decide +kernel, by decide +kernel⟩

end Session

end Z80Monitor
