import Z80Monitor.Debugger.Session
import Z80Monitor.Proofs.Assembly.LineAccount

/-!
# Source text in memory

What a session knows of a source text that it has loaded: which lines gave which bytes, where these
stand, and which line each address belongs to. Programs may go round the address space and over
themselves. An address then holds the last byte that goes to it, and belongs to the line which
added this very byte.
-/

namespace Z80Monitor

namespace Assembly

variable {source : String} {origin : Int} {address : UInt16}

/-- An address to which no byte of a program goes belongs to no line. -/
theorem lineAt_of_ne
    (apart : ∀ index < (assemble source origin).data.length,
      word (origin + (index : Nat)) ≠ address) :
    (assemble source origin).lineMap.lineAt address.toNat = none := by
  have size := length_byteLines (sourceLines source) origin
  rw [assemble_eq_ofLines] at apart ⊢
  rw [lineMap_ofLines, LineMap.lineAt, word_toNat, AddressSpace.valueAt_place_of_ne,
    LineMap.empty, AddressSpace.valueAt_filled]
  intro index inside
  rw [List.length_map, size] at inside
  exact apart index inside

/-- An address belongs to the line that adds the last byte which goes to it. -/
theorem lineAt_of_lastAt {index : Nat}
    (last : AddressSpace.LastAt origin (assemble source origin).data.length address index) :
    ∃ line, (assemble source origin).lineMap.lineAt address.toNat = some line ∧
      LiesIn (lineBytes source) index line := by
  have size := length_byteLines (sourceLines source) origin
  rw [assemble_eq_ofLines, ← size] at last
  have noted := List.getElem?_eq_getElem last.inside
  refine ⟨_, ?_, liesIn_of_byteLines noted⟩
  rw [← List.length_map some] at last
  rw [assemble_eq_ofLines, lineMap_ofLines, LineMap.lineAt, word_toNat]
  apply AddressSpace.valueAt_place_of_lastAt _ last
  rw [List.getElem?_map, noted, Option.map_some]

end Assembly

/-- Loading a source text accounts for every line, byte and address. The program is made of the
bytes of the lines, each of which is of one kind, with the diagnostics of the rejected ones in
order. The addresses that belong to a line are those that bytes of the program go to. Each of them
holds the last byte that goes to it and belongs to the line that added this byte, and every other
address keeps what it held. -/
theorem Session.loadSource_accounts (session : Session) (source : String) :
    let origin := session.configuration.origin
    let program := assemble source origin
    let loaded := session.loadSource source
    (program.data = (lineBytes source).flatten ∧
      program.diagnostics.Pairwise (·.line < ·.line) ∧
      (∀ diagnostic ∈ program.diagnostics,
        (sourceLines source)[diagnostic.line]? = some diagnostic.text) ∧
      ∀ line text, (sourceLines source)[line]? = some text →
        ∃! kind, program.Accounts line text (LineOutcome.ofLine text).bytes kind) ∧
    loaded.assembly = some program ∧
    (loaded.cpu.pc.toNat : Int) = origin % 65536 ∧
    ∀ address : UInt16,
      ((program.lineMap.lineAt address.toNat).isSome = true ↔
        ∃ index < program.data.length, word (origin + (index : Nat)) = address) ∧
      (program.lineMap.lineAt address.toNat = none →
        loaded.cpu.state.memory.peek address.toNat =
          session.cpu.state.memory.peek address.toNat) ∧
      ∀ line, program.lineMap.lineAt address.toNat = some line →
        ∃ index, AddressSpace.LastAt origin program.data.length address index ∧
          program.data[index]? = some (loaded.cpu.state.memory.peek address.toNat) ∧
          LiesIn (lineBytes source) index line := by
  intro origin program loaded
  have assembled : program = Assembly.ofLines (sourceLines source) origin :=
    assemble_eq_ofLines source origin
  refine ⟨⟨?_, ?_, ?_, ?_⟩, rfl, toNat_word origin, ?_⟩
  · exact data_eq_flatten_lineBytes source origin
  · rw [assembled]
    exact Assembly.pairwise_diagnostics (sourceLines source) origin
  · intro diagnostic listed
    rw [assembled] at listed
    obtain ⟨text, line, found, refused⟩ :=
      (Assembly.mem_diagnostics_iff (sourceLines source) origin diagnostic).mp listed
    obtain ⟨rfl, rfl⟩ := Assembly.eq_of_diagnosticOf refused
    exact found
  · intro line text found
    rw [assembled]
    exact Assembly.existsUnique_kind (sourceLines source) origin found
  · intro address
    rcases AddressSpace.exists_lastAt origin program.data.length address with
      absent | ⟨index, last⟩
    · have unknown : program.lineMap.lineAt address.toNat = none := Assembly.lineAt_of_ne absent
      rw [unknown]
      refine ⟨iff_of_false Bool.false_ne_true ?_, fun _ => ?_, nofun⟩
      · rintro ⟨index, inside, reaches⟩
        exact absent index inside reaches
      · exact session.cpu.state.memory.peek_load_of_ne absent
    · obtain ⟨line, known, lies⟩ := Assembly.lineAt_of_lastAt last
      rw [known]
      refine ⟨iff_of_true rfl ⟨index, last.inside, last.reaches⟩, nofun, ?_⟩
      intro other same
      obtain rfl := Option.some.inj same
      exact ⟨index, last, session.cpu.state.memory.peek_load_of_lastAt last, lies⟩

end Z80Monitor
