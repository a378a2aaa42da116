import RegisterMachine.Proofs.Execution.Operand
import RegisterMachine.Proofs.Registers

/-!
# What one instruction changes

An instruction that fails changes no register, and the sink hears of it only if it is the sink
that failed (`unchanged_of_dispatch_eq_error`).  One that succeeds changes nothing but the
destination of an operation that stores, or what the sink has taken of a print
(`destination_of_changed`, `sink_of_dispatch_eq_ok`).

What an operation stores is told over the natural numbers, by `Operation.number?`.  The words
that the machine stores are those numbers (`map_toNat_newWord?`).
-/

namespace RegisterMachine

/-! ## Numbers -/

/-- The number that an operation leaves in a destination with the number `word`.  There is none
for a division by zero, and none for an operation that does not store. -/
def Operation.number? (operation : Operation) (word operand : Nat) : Option Nat :=
  match operation with
  | .add => some ((word + operand) % UInt64.size)
  | .mul => some (word * operand % UInt64.size)
  | .div => if operand = 0 then none else some (word / operand)
  | .mod => if operand = 0 then none else some (word - operand * (word / operand))
  | .set => some operand
  | .eq | .jmp | .print | .ret => none

/-- The operations that store into their destination. -/
def Operation.storing : List Operation := [.add, .div, .mod, .mul, .set]

namespace Operation

variable {operation : Operation} {word operand new : UInt64}

/-- The word that the machine stores is the number that the operation leaves. -/
theorem map_toNat_newWord? (operation : Operation) (word operand : UInt64) :
    (operation.newWord? word operand).map UInt64.toNat =
      operation.number? word.toNat operand.toNat := by
  have hzero : operand.toNat = 0 ↔ operand = 0 := by
    rw [← UInt64.toNat_inj, UInt64.toNat_zero]
  cases operation with
  | add => simp [newWord?, number?, UInt64.size]
  | mul => simp [newWord?, number?, UInt64.size]
  | set => rfl
  | eq => rfl
  | jmp => rfl
  | print => rfl
  | ret => rfl
  | div =>
    by_cases h : operand = 0
    · simp [newWord?, number?, h]
    · simp [newWord?, number?, h, hzero]
  | mod =>
    by_cases h : operand = 0
    · simp [newWord?, number?, h]
    · simp [newWord?, number?, h, hzero, Nat.mod_eq_sub]

theorem mem_storing_of_newWord? (h : operation.newWord? word operand = some new) :
    operation ∈ storing := by
  cases operation with
  | eq | jmp | print | ret => cases h
  | add | div | mod | mul | set => simp [storing]

end Operation

/-! ## Effects of an operation -/

namespace Operation

variable {operation : Operation} {registers : RegisterFile} {strings : Array String}
variable {lhs operand word : UInt64}

/-- The destination comes before all else, a division by zero included. -/
theorem effect_of_get_eq_error {fault : Fault} (hshape : operation.shape = .binary)
    (hget : registers.get lhs = .error fault) :
    operation.effect registers strings lhs operand = .error fault := by
  cases operation with
  | jmp | print | ret => cases hshape
  | add | div | eq | mod | mul | set =>
    rw [effect, hget]
    rfl

theorem effect_of_storing (hstoring : operation ∈ storing) (hget : registers.get lhs = .ok word) :
    operation.effect registers strings lhs operand =
      match operation.newWord? word operand with
      | some new => .ok (.store lhs new)
      | none => .error .divisionByZero := by
  cases operation with
  | eq | jmp | print | ret => simp [storing] at hstoring
  | add | mul | set =>
    rw [effect, hget]
    rfl
  | div | mod =>
    rw [effect, hget]
    by_cases hzero : operand = 0
    · simp [Except.bind, newWord?, hzero]
    · simp [Except.bind, newWord?, hzero]

end Operation

theorem Instruction.effect_of_operand {i : Instruction} {operation : Operation}
    {kind : OperandKind} {registers : RegisterFile} {strings : Array String} {operand : UInt64}
    (hopcode : i.opcode = .op operation kind) (hoperand : i.operand registers = .ok operand) :
    i.effect registers strings = operation.effect registers strings i.lhs operand := by
  rw [effect, hopcode, hoperand]
  cases operation <;> rfl

/-! ## Prints -/

theorem Sink.taken_of_write_eq_ok {sink after : Sink} {text : String}
    (h : sink.write text = (.ok (), after)) : after.taken = sink.taken ++ text.toUTF8 := by
  have hrule := sink.write_rule text
  rw [h] at hrule
  cases hrule with
  | empty hbytes => rw [hbytes, ByteArray.append_empty]
  | whole hbytes hreceive => rfl

namespace Instruction

variable {i : Instruction} {strings : Array String} {store after : Store}

/-! ## Instructions that fail -/

/-- An instruction that fails has changed no register, and the sink only if that is what failed. -/
theorem unchanged_of_dispatch_eq_error {fault : Fault}
    (h : i.dispatch strings store = (.error fault, after)) :
    after.registers = store.registers ∧
      ((∀ reason, fault ≠ .output reason) → after.sink = store.sink) := by
  cases heffect : i.effect store.registers strings with
  | error cause =>
    rw [dispatch_of_effect_eq_error heffect] at h
    cases h
    exact ⟨rfl, fun _ => rfl⟩
  | ok effect =>
    rw [dispatch_of_effect_eq_ok heffect] at h
    -- An effect that cannot be applied is a print, and its fault is that of the sink.
    obtain ⟨text, reason, sink, -, -, rfl, rfl⟩ := Effect.eq_print_of_apply h
    exact ⟨rfl, fun hfault => absurd rfl (hfault reason)⟩

/-! ## Instructions that succeed -/

section Succeeded

variable {flow : Flow}

theorem exists_effect_of_dispatch_eq_ok (h : i.dispatch strings store = (.ok flow, after)) :
    ∃ effect, i.effect store.registers strings = .ok effect ∧
      effect.apply store = (.ok flow, after) := by
  cases heffect : i.effect store.registers strings with
  | error cause =>
    rw [dispatch_of_effect_eq_error heffect] at h
    cases h
  | ok effect =>
    rw [dispatch_of_effect_eq_ok heffect] at h
    exact ⟨effect, rfl, h⟩

/-- Where a successful instruction leaves the registers and the sink: it has stored a word in the
destination, or it has printed a string, or it has changed nothing. -/
theorem changes_of_dispatch_eq_ok (h : i.dispatch strings store = (.ok flow, after)) :
    (∃ operation kind word, i.opcode = .op operation kind ∧ operation ∈ Operation.storing ∧
      after = { store with registers := store.registers.put i.lhs word }) ∨
    (∃ kind operand text, i.opcode = .op .print kind ∧
      i.operand store.registers = .ok operand ∧ strings[operand.toNat]? = some text ∧
      after.registers = store.registers ∧
      after.sink.taken = store.sink.taken ++ text.toUTF8) ∨
    ((∀ kind, i.opcode ≠ .op .print kind) ∧ after = store) := by
  obtain ⟨effect, heffect, happly⟩ := exists_effect_of_dispatch_eq_ok h
  cases rule_of_effect heffect with
  | nop hopcode =>
    cases happly
    exact .inr (.inr ⟨by simp [hopcode], rfl⟩)
  | halt hopcode =>
    cases happly
    exact .inr (.inr ⟨by simp [hopcode], rfl⟩)
  | compare hopcode hoperand hword =>
    cases happly
    exact .inr (.inr ⟨by simp [hopcode], rfl⟩)
  | jump hopcode hoperand =>
    cases happly
    exact .inr (.inr ⟨by simp [hopcode], rfl⟩)
  | store hopcode hoperand hword hnew =>
    cases happly
    exact .inl ⟨_, _, _, hopcode, Operation.mem_storing_of_newWord? hnew, rfl⟩
  | @print kind operand text hopcode hoperand htext =>
    refine .inr (.inl ⟨kind, operand, text, hopcode, hoperand, htext, ?_⟩)
    rw [Effect.apply] at happly
    cases hwrite : store.sink.write text with
    | mk answer sink =>
      rw [hwrite] at happly
      cases answer with
      | error reason => cases happly
      | ok taken =>
        cases happly
        exact ⟨rfl, Sink.taken_of_write_eq_ok hwrite⟩

theorem count_of_dispatch_eq_ok (h : i.dispatch strings store = (.ok flow, after)) :
    after.registers.count = store.registers.count := by
  obtain ⟨effect, -, happly⟩ := exists_effect_of_dispatch_eq_ok h
  have hcount := effect.count_apply store
  rwa [happly] at hcount

/-- A register that has changed is the destination of an operation that stores. -/
theorem destination_of_changed {k : Nat} (h : i.dispatch strings store = (.ok flow, after))
    (hk : after.registers.words[k]? ≠ store.registers.words[k]?) :
    k = i.lhs.toNat ∧ ∃ operation ∈ Operation.storing, ∃ kind, i.opcode = .op operation kind := by
  rcases changes_of_dispatch_eq_ok h with ⟨operation, kind, word, hopcode, hstoring, rfl⟩ |
    ⟨kind, operand, text, -, -, -, hregisters, -⟩ | ⟨-, rfl⟩
  · rw [RegisterFile.getElem?_put] at hk
    have hindex : k = i.lhs.toNat :=
      Classical.byContradiction fun hne => hk (if_neg fun hboth => hne hboth.1)
    exact ⟨hindex, operation, hstoring, kind, hopcode⟩
  · exact absurd (by rw [hregisters]) hk
  · exact absurd rfl hk

theorem sink_of_dispatch_eq_ok (h : i.dispatch strings store = (.ok flow, after))
    (hprint : ∀ kind, i.opcode ≠ .op .print kind) : after.sink = store.sink := by
  rcases changes_of_dispatch_eq_ok h with ⟨operation, kind, word, -, -, rfl⟩ |
    ⟨kind, operand, text, hopcode, -⟩ | ⟨-, rfl⟩
  · rfl
  · exact absurd hopcode (hprint kind)
  · rfl

/-- A print that succeeds has given its string to the sink, and nothing else. -/
theorem taken_of_dispatch_eq_ok {kind : OperandKind}
    (h : i.dispatch strings store = (.ok flow, after)) (hprint : i.opcode = .op .print kind) :
    ∃ operand text, i.operand store.registers = .ok operand ∧
      strings[operand.toNat]? = some text ∧
      after.sink.taken = store.sink.taken ++ text.toUTF8 := by
  rcases changes_of_dispatch_eq_ok h with ⟨operation, kind', word, hopcode, hstoring, -⟩ |
    ⟨kind', operand, text, -, hoperand, htext, -, htaken⟩ | ⟨hother, -⟩
  · obtain rfl : operation = .print := by
      rw [hprint] at hopcode
      cases hopcode
      rfl
    simp [Operation.storing] at hstoring
  · exact ⟨operand, text, hoperand, htext, htaken⟩
  · exact absurd hprint (hother kind)

end Succeeded

/-! ## The destination -/

section Destination

variable {operation : Operation} {kind : OperandKind} {operand word : UInt64}

/-- With its operand at hand, an operation without its destination fails with that. -/
theorem dispatch_of_missing_destination (hopcode : i.opcode = .op operation kind)
    (hoperand : i.operand store.registers = .ok operand) (hshape : operation.shape = .binary)
    (hlhs : store.registers.count ≤ i.lhs.toNat) :
    i.dispatch strings store =
      (.error (.registerOutOfBounds i.lhs store.registers.count), store) := by
  have hget := RegisterFile.get_eq_error_iff.2 ⟨hlhs, rfl⟩
  refine dispatch_of_effect_eq_error ?_
  rw [effect_of_operand hopcode hoperand]
  exact Operation.effect_of_get_eq_error hshape hget

theorem dispatch_of_eq (hopcode : i.opcode = .op .eq kind)
    (hoperand : i.operand store.registers = .ok operand)
    (hword : store.registers.get i.lhs = .ok word) :
    i.dispatch strings store = (.ok (.advance (if word = operand then 1 else 2)), store) := by
  have heffect : i.effect store.registers strings =
      .ok (.move (if word = operand then 1 else 2)) := by
    rw [effect_of_operand hopcode hoperand, Operation.effect, hword]
    rfl
  exact dispatch_of_effect_eq_ok heffect

theorem dispatch_of_storing (hopcode : i.opcode = .op operation kind)
    (hoperand : i.operand store.registers = .ok operand)
    (hword : store.registers.get i.lhs = .ok word) (hstoring : operation ∈ Operation.storing) :
    i.dispatch strings store =
      match operation.newWord? word operand with
      | some new => (.ok (.advance 1), { store with registers := store.registers.put i.lhs new })
      | none => (.error .divisionByZero, store) := by
  have heffect : i.effect store.registers strings = _ := effect_of_operand hopcode hoperand
  rw [Operation.effect_of_storing hstoring hword] at heffect
  cases hnew : operation.newWord? word operand with
  | some new =>
    rw [hnew] at heffect
    exact dispatch_of_effect_eq_ok heffect
  | none =>
    rw [hnew] at heffect
    exact dispatch_of_effect_eq_error heffect

/-- The word that is stored is the number of the operation, and a division by zero has none. -/
theorem number_of_storing (hopcode : i.opcode = .op operation kind)
    (hoperand : i.operand store.registers = .ok operand)
    (hword : store.registers.word? i.lhs = some word) (hstoring : operation ∈ Operation.storing) :
    match operation.number? word.toNat operand.toNat with
    | some number =>
      (i.dispatch strings store).1 = .ok (.advance 1) ∧
        ∃ new, (i.dispatch strings store).2.registers.word? i.lhs = some new ∧ new.toNat = number
    | none => i.dispatch strings store = (.error .divisionByZero, store) := by
  have hnumber := operation.map_toNat_newWord? word operand
  have hget := RegisterFile.get_eq_ok_iff.2 hword
  have hdispatch : i.dispatch strings store = _ :=
    dispatch_of_storing hopcode hoperand hget hstoring
  cases hnew : operation.newWord? word operand with
  | none =>
    rw [hnew] at hnumber hdispatch
    rw [← hnumber]
    exact hdispatch
  | some new =>
    rw [hnew] at hnumber hdispatch
    rw [← hnumber, hdispatch]
    dsimp only [Option.map_some]
    have hlhs := RegisterFile.exists_word?_iff.1 ⟨word, hword⟩
    refine ⟨rfl, new, ?_, rfl⟩
    rw [RegisterFile.word?_put, if_pos ⟨rfl, hlhs⟩]

end Destination

/-! ## The whole -/

/-- An instruction that fails changes no register, and nothing at all if it is not the sink that
failed.  One that succeeds changes at most its destination, if it stores, and the sink gets the
bytes of the string that it prints and nothing else.  With its operand at hand, it fails if its
destination does not exist, a comparison goes on by one or skips, and what is stored is the
number that the operation has over the natural numbers, unless that is a division by zero. -/
theorem dispatch_changes (i : Instruction) (strings : Array String) (store : Store) :
    let answer := (i.dispatch strings store).1
    let after := (i.dispatch strings store).2
    (∀ fault, answer = .error fault →
      after.registers = store.registers ∧
        ((∀ reason, fault ≠ .output reason) → after.sink = store.sink)) ∧
    (∀ flow, answer = .ok flow →
      after.registers.count = store.registers.count ∧
      (∀ k : Nat, after.registers.words[k]? ≠ store.registers.words[k]? →
        k = i.lhs.toNat ∧
          ∃ operation ∈ Operation.storing, ∃ kind, i.opcode = .op operation kind) ∧
      ((∀ kind, i.opcode ≠ .op .print kind) → after.sink = store.sink) ∧
      ∀ kind, i.opcode = .op .print kind →
        ∃ operand text, i.operand store.registers = .ok operand ∧
          strings[operand.toNat]? = some text ∧
          after.sink.taken = store.sink.taken ++ text.toUTF8) ∧
    ∀ operation kind operand, i.opcode = .op operation kind → operation.shape = .binary →
      i.operand store.registers = .ok operand →
      (store.registers.count ≤ i.lhs.toNat →
        i.dispatch strings store =
          (.error (.registerOutOfBounds i.lhs store.registers.count), store)) ∧
      ∀ word, store.registers.word? i.lhs = some word →
        (operation = .eq →
          i.dispatch strings store =
            (.ok (.advance (if word = operand then 1 else 2)), store)) ∧
        (operation ∈ Operation.storing →
          match operation.number? word.toNat operand.toNat with
          | some number =>
            answer = .ok (.advance 1) ∧
              ∃ new, after.registers.word? i.lhs = some new ∧ new.toNat = number
          | none => i.dispatch strings store = (.error .divisionByZero, store)) := by
  intro answer after
  refine ⟨?_, ?_, ?_⟩
  · intro fault hanswer
    exact unchanged_of_dispatch_eq_error (Prod.ext hanswer rfl)
  · intro flow hanswer
    have hdispatch : i.dispatch strings store = (.ok flow, after) := Prod.ext hanswer rfl
    exact ⟨count_of_dispatch_eq_ok hdispatch, fun k hk => destination_of_changed hdispatch hk,
      sink_of_dispatch_eq_ok hdispatch, fun kind hprint => taken_of_dispatch_eq_ok hdispatch hprint⟩
  · intro operation kind operand hopcode hshape hoperand
    refine ⟨dispatch_of_missing_destination hopcode hoperand hshape, ?_⟩
    intro word hword
    refine ⟨?_, number_of_storing hopcode hoperand hword⟩
    rintro rfl
    exact dispatch_of_eq hopcode hoperand (RegisterFile.get_eq_ok_iff.2 hword)

/-- A register that is multiplied by itself, a division by zero, the same without a destination,
a comparison, and two prints, of which one fails. -/
theorem dispatch_changes_cases :
    let store : Store := ⟨.ofList [7, 3], .unbounded⟩
    (∃ new, ((mul 0 0).dispatch #[] store).2.registers.word? 0 = some new ∧ new.toNat = 49) ∧
      (divc 1 0).dispatch #[] store = (.error .divisionByZero, store) ∧
      (divc 9 0).dispatch #[] store = (.error (.registerOutOfBounds 9 2), store) ∧
      (eq 0 1).dispatch #[] store = (.ok (.advance 2), store) ∧
      ((printc 0).dispatch #["ab"] store).2.sink.taken = .empty ++ "ab".toUTF8 ∧
      ((printc 1).dispatch #["ab"] store).2.registers = store.registers := by
  intro store
  obtain ⟨-, -, hmul⟩ := dispatch_changes (mul 0 0) #[] store
  obtain ⟨-, -, hdivc⟩ := dispatch_changes (divc 1 0) #[] store
  obtain ⟨-, -, hmissing⟩ := dispatch_changes (divc 9 0) #[] store
  obtain ⟨-, -, heq⟩ := dispatch_changes (eq 0 1) #[] store
  obtain ⟨-, hprint, -⟩ := dispatch_changes (printc 0) #["ab"] store
  obtain ⟨hfails, -, -⟩ := dispatch_changes (printc 1) #["ab"] store
  have hnumber := ((hmul .mul .register 7 rfl rfl rfl).2 7 rfl).2 (by simp [Operation.storing])
  have hzero := ((hdivc .div .immediate 0 rfl rfl rfl).2 3 rfl).2 (by simp [Operation.storing])
  have hcompare := ((heq .eq .register 3 rfl rfl rfl).2 7 rfl).1 rfl
  obtain ⟨-, -, -, htaken⟩ := hprint (.advance 1) rfl
  obtain ⟨operand, text, hoperand, htext, hbytes⟩ := htaken .immediate rfl
  obtain rfl : 0 = operand := Except.ok.inj hoperand
  obtain rfl : "ab" = text := Option.some.inj htext
  exact ⟨hnumber.2, hzero, (hmissing .div .immediate 0 rfl rfl rfl).1 (by decide), hcompare,
    hbytes, (hfails _ rfl).1⟩

end Instruction

end RegisterMachine
