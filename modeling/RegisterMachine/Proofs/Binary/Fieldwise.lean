import RegisterMachine.Proofs.Binary.Image

/-!
# Reading field by field

A reader of the binary format takes one field after the other, each of a width
that is known before it, and looks at a field only when it has all of its bytes.
`Fieldwise` says so of a reader, with the fields that its values consist of.
Every reader of the format is fieldwise (`fieldwise_number`, `fieldwise_string`,
`fieldwise_instruction`, `fieldwise_counted`), since readers that are fieldwise
are so one after the other (`Fieldwise.bind`).

What a fieldwise reader does on an input is one of three things, and each says
what becomes of it when bytes are added at the end (`Outcome`).  It reads a value
and leaves the added bytes.  It refuses a field that is there, and refuses it
still.  Or the input is cut within a field, and then the fault is the same, with
fewer bytes missing, until they are all there.  `Fieldwise.outcome` is one
induction over the fields, and nothing else asks how a reader goes on.
-/

namespace RegisterMachine

open LittleEndian Attempt

/-- A number of which only the lowest bytes are kept. -/
theorem LittleEndian.encode_mod (width n : Nat) :
    encode width (n % capacity width) = encode width n := by
  induction width generalizing n with
  | zero => rfl
  | succ width ih =>
    have hlow : UInt8.ofNat (n % (256 * capacity width)) = UInt8.ofNat n := by
      rw [← UInt8.toNat_inj, UInt8.toNat_ofNat', UInt8.toNat_ofNat']
      exact Nat.mod_mul_right_mod n 256 (capacity width)
    rw [encode, encode, capacity, hlow, Nat.mod_mul_right_div_self, ih]

namespace Cursor

/-! ## Longer inputs -/

/-- The same place in an input that goes on with `more`. -/
def extend (c : Cursor) (more : List UInt8) : Cursor := ⟨c.rest ++ more, c.offset⟩

@[simp] theorem extend_rest (c : Cursor) (more : List UInt8) :
    (c.extend more).rest = c.rest ++ more := rfl

@[simp] theorem extend_offset (c : Cursor) (more : List UInt8) :
    (c.extend more).offset = c.offset := rfl

@[simp] theorem extend_nil (c : Cursor) : c.extend [] = c := by
  rw [extend, List.append_nil]

/-- A field that is there is still there, and the rest goes on. -/
theorem bytes_extend {width : Nat} {c d : Cursor} {field : List UInt8}
    (h : c.bytes width = .ok (field, d)) (more : List UInt8) :
    (c.extend more).bytes width = .ok (field, d.extend more) := by
  obtain ⟨hwidth, hrest, hoffset⟩ := bytes_eq_ok_iff.1 h
  refine bytes_eq_ok_iff.2 ⟨hwidth, ?_, hoffset⟩
  rw [extend_rest, extend_rest, hrest, List.append_assoc]

/-- A field is there, or the input is cut within it. -/
theorem bytes_cases (width : Nat) (c : Cursor) :
    (∃ field d, c.bytes width = .ok (field, d)) ∨
      c.rest.length < width ∧
        c.bytes width = .error (.unexpectedEnd c.offset (width - c.rest.length)) := by
  rw [bytes_eq]
  split
  · exact Or.inl ⟨_, _, rfl⟩
  · rename_i h
    exact Or.inr ⟨Nat.lt_of_not_le h, rfl⟩

theorem Passes.offset_le {c d : Cursor} {front : List UInt8} (h : c.Passes front d) :
    c.offset ≤ d.offset := by
  rw [h.2]
  exact Nat.le_add_right _ _

/-- Fields that were taken and the next one lie side by side. -/
theorem Passes.next {taken : List (List UInt8)} {field : List UInt8} {width : Nat}
    {b c d : Cursor} (h : b.Passes taken.flatten c) (hfield : c.bytes width = .ok (field, d)) :
    b.Passes (taken ++ [field]).flatten d := by
  rw [List.flatten_append, List.flatten_singleton]
  exact passes_append_iff.2 ⟨c, h, (bytes_eq_ok_iff.1 hfield).2⟩

/-! ## Fields -/

/-- What is true of the input from `c` on, when bytes of it are refused for what they are. -/
inductive Refuses (c : Cursor) : DecodeFault → Prop where
  | magic : Refuses c .badMagic
  | text (index : Nat) : Refuses c (.invalidUtf8 index)
  | opcode {front behind : List UInt8} {d : Cursor} {tag : UInt8} (passes : c.Passes front d)
      (next : d.rest = tag :: behind) (unused : 19 ≤ tag.toNat) :
      Refuses c (.invalidOpcode tag d.offset)

theorem Refuses.of_passes {c d : Cursor} {front : List UInt8} {fault : DecodeFault}
    (h : c.Passes front d) (hd : d.Refuses fault) : c.Refuses fault := by
  cases hd with
  | magic => exact .magic
  | text index => exact .text index
  | opcode passes next unused => exact .opcode (passes_append_iff.2 ⟨d, h, passes⟩) next unused

/-- Taken some fields, a reader goes on field by field.  `fields` says of which fields a value
consists, those that were taken before included. -/
inductive Fieldwise {α : Type} (fields : α → List (List UInt8)) :
    List (List UInt8) → (Cursor → Except DecodeFault (α × Cursor)) → Prop where
  | done (a : α) : Fieldwise fields (fields a) fun c => .ok (a, c)
  /-- What was taken is refused. -/
  | refuse {taken : List (List UInt8)} (fault : Nat → DecodeFault)
      (refuses : ∀ {c d : Cursor}, c.Passes taken.flatten d → c.Refuses (fault d.offset)) :
      Fieldwise fields taken fun c => .error (fault c.offset)
  | take {taken : List (List UInt8)} (width : Nat)
      (next : List UInt8 × Cursor → Except DecodeFault (α × Cursor))
      (goesOn : ∀ field : List UInt8, field.length = width →
        Fieldwise fields (taken ++ [field]) fun d => next (field, d)) :
      Fieldwise fields taken fun c => (c.bytes width).bind next

namespace Fieldwise

variable {α β : Type}

theorem bind_append {fields : α → List (List UInt8)} {fields' : β → List (List UInt8)}
    {taken taken' : List (List UInt8)} {read : Cursor → Except DecodeFault (α × Cursor)}
    {next : α × Cursor → Except DecodeFault (β × Cursor)} (h : Fieldwise fields taken read)
    (hnext : ∀ a, Fieldwise fields' (taken' ++ fields a) fun d => next (a, d)) :
    Fieldwise fields' (taken' ++ taken) fun c => (read c).bind next := by
  induction h with
  | done a => exact hnext a
  | refuse fault refuses =>
    refine .refuse fault fun {c d} hpasses => ?_
    rw [List.flatten_append, passes_append_iff] at hpasses
    obtain ⟨e, hfront, hback⟩ := hpasses
    exact .of_passes hfront (refuses hback)
  | take width go _ ih =>
    have hassoc : (fun c : Cursor => ((c.bytes width).bind go).bind next) =
        fun c : Cursor => (c.bytes width).bind fun r => (go r).bind next := by
      funext c
      cases c.bytes width <;> rfl
    rw [hassoc]
    refine .take width (fun r => (go r).bind next) fun field hwidth => ?_
    rw [List.append_assoc]
    exact ih field hwidth

/-- A reader that goes on with what a first one read is fieldwise if both are. -/
theorem bind {fields : α → List (List UInt8)} {fields' : β → List (List UInt8)}
    {taken : List (List UInt8)} {read : Cursor → Except DecodeFault (α × Cursor)}
    {next : α × Cursor → Except DecodeFault (β × Cursor)} (h : Fieldwise fields [] read)
    (hnext : ∀ a, Fieldwise fields' (taken ++ fields a) fun d => next (a, d)) :
    Fieldwise fields' taken fun c => (read c).bind next := by
  have := h.bind_append hnext
  rwa [List.append_nil] at this

section Laws

variable {fields : α → List (List UInt8)} {taken : List (List UInt8)}
variable {read : Cursor → Except DecodeFault (α × Cursor)} {b c : Cursor}

/-- What is read consists of the fields that were taken before and those that were passed. -/
theorem passes {d : Cursor} {a : α} (h : Fieldwise fields taken read)
    (hread : read c = .ok (a, d)) :
    ∃ later, fields a = taken ++ later ∧ c.Passes later.flatten d := by
  induction h generalizing c with
  | done a =>
    cases hread
    exact ⟨[], (List.append_nil _).symm, Passes.refl _⟩
  | refuse => cases hread
  | take width next _ ih =>
    obtain ⟨⟨field, e⟩, hfield, hnext⟩ := bind_eq_ok_iff.1 hread
    obtain ⟨hwidth, hpasses⟩ := bytes_eq_ok_iff.1 hfield
    obtain ⟨later, hfields, hlater⟩ := ih field hwidth hnext
    refine ⟨field :: later, ?_, passes_append_iff.2 ⟨e, hpasses, hlater⟩⟩
    rw [hfields, List.append_assoc, List.singleton_append]

/-- A reader is never short of bytes before the place where it began. -/
theorem offset_le {offset needed : Nat} (h : Fieldwise fields taken read)
    (hstart : b.Passes taken.flatten c)
    (hread : read c = .error (.unexpectedEnd offset needed)) : c.offset ≤ offset := by
  induction h generalizing c with
  | done a => cases hread
  | refuse fault refuses =>
    have hfault := refuses hstart
    rw [Except.error.inj hread] at hfault
    cases hfault
  | take width next _ ih =>
    change (c.bytes width).bind next = _ at hread
    rcases bytes_cases width c with ⟨field, d, hfield⟩ | ⟨-, hcut⟩
    · rw [hfield] at hread
      obtain ⟨hwidth, hpasses⟩ := bytes_eq_ok_iff.1 hfield
      exact Nat.le_trans hpasses.offset_le (ih field hwidth (hstart.next hfield) hread)
    · rw [hcut] at hread
      cases hread
      exact Nat.le_refl _

end Laws

end Fieldwise

/-! ## What becomes of a longer input -/

/-- What a reader does at `c`, with fields counted from `b`, and what becomes of it if the input
goes on. -/
inductive Outcome {α : Type} (fields : α → List (List UInt8))
    (read : Cursor → Except DecodeFault (α × Cursor)) (b c : Cursor) : Prop where
  /-- A value is read, and added bytes are left over. -/
  | whole {a : α} {d : Cursor} (passes : b.Passes (fields a).flatten d)
      (longer : ∀ more, read (c.extend more) = .ok (a, d.extend more))
  /-- Bytes that are there are refused, and added bytes do not matter. -/
  | refused {fault : DecodeFault} (refuses : b.Refuses fault)
      (longer : ∀ more, read (c.extend more) = .error fault)
  /-- A field of the given width begins at `d` and is cut.  Added bytes first fill it. -/
  | cut {taken : List (List UInt8)} {d : Cursor} {width : Nat} (passes : b.Passes taken.flatten d)
      (short : d.rest.length < width)
      (shorter : ∀ more, d.rest.length + more.length < width →
        read (c.extend more) =
          .error (.unexpectedEnd d.offset (width - (d.rest.length + more.length))))
      (reached : ∀ more offset needed, width ≤ d.rest.length + more.length →
        read (c.extend more) = .error (.unexpectedEnd offset needed) → d.offset + width ≤ offset)
      (field : ∀ more a e, read (c.extend more) = .ok (a, e) →
        ∃ field later, fields a = taken ++ field :: later ∧ field.length = width)

theorem Fieldwise.outcome {fields : α → List (List UInt8)} {taken : List (List UInt8)}
    {read : Cursor → Except DecodeFault (α × Cursor)} (h : Fieldwise fields taken read)
    {b c : Cursor} (hstart : b.Passes taken.flatten c) : Outcome fields read b c := by
  induction h generalizing c with
  | done a => exact .whole hstart fun more => rfl
  | refuse fault refuses => exact .refused (refuses hstart) fun more => rfl
  | @take taken width next goesOn ih =>
    rcases bytes_cases width c with ⟨field, d, hfield⟩ | ⟨hshort, -⟩
    · -- The field is there, so what is said of the reader behind it holds of the whole reader.
      have hnext (more : List UInt8) :
          ((c.extend more).bytes width).bind next = next (field, d.extend more) := by
        rw [bytes_extend hfield]
        rfl
      cases ih field (bytes_eq_ok_iff.1 hfield).1 (hstart.next hfield) with
      | whole passes longer => exact .whole passes fun more => (hnext more).trans (longer more)
      | refused refuses longer =>
        exact .refused refuses fun more => (hnext more).trans (longer more)
      | cut passes short shorter reached field' =>
        exact .cut passes short (fun more hmore => (hnext more).trans (shorter more hmore))
          (fun more offset needed hmore hread =>
            reached more offset needed hmore ((hnext more).symm.trans hread))
          (fun more a e hread => field' more a e ((hnext more).symm.trans hread))
    · have hlength (more : List UInt8) :
          (c.extend more).rest.length = c.rest.length + more.length := List.length_append
      refine .cut hstart hshort (fun more hmore => ?_) (fun more offset needed hmore hread => ?_)
        (fun more a e hread => ?_)
      · have hcut : (c.extend more).bytes width =
            .error (.unexpectedEnd c.offset (width - (c.rest.length + more.length))) := by
          rw [bytes_eq, hlength, if_neg (Nat.not_le.2 hmore), extend_offset]
        change ((c.extend more).bytes width).bind next = _
        rw [hcut]
        rfl
      · change ((c.extend more).bytes width).bind next = _ at hread
        rcases bytes_cases width (c.extend more) with ⟨field, d, hfield⟩ | ⟨hcut, -⟩
        · rw [hfield] at hread
          obtain ⟨hwidth, -, hoffset⟩ := bytes_eq_ok_iff.1 hfield
          have hd := (goesOn field hwidth).offset_le
            (Passes.next (b := ⟨taken.flatten ++ (c.extend more).rest, b.offset⟩)
              ⟨rfl, hstart.2⟩ hfield) hread
          rw [hoffset, hwidth, extend_offset] at hd
          exact hd
        · rw [hlength] at hcut
          exact absurd hmore (Nat.not_le.2 hcut)
      · obtain ⟨⟨field, d⟩, hfield, hnext⟩ := bind_eq_ok_iff.1 hread
        have hwidth := (bytes_eq_ok_iff.1 hfield).1
        obtain ⟨later, hfields, -⟩ := (goesOn field hwidth).passes hnext
        refine ⟨field, later, ?_, hwidth⟩
        rw [hfields, List.append_assoc, List.singleton_append]

/-! ## The readers of the format -/

theorem number_eq (width : Nat) : number width = fun c : Cursor => (c.bytes width).bind
    fun (field, d) => .ok (decode field, d) := by
  funext c
  exact map_eq_bind

theorem fieldwise_number (width : Nat) :
    Fieldwise (fun n => [encode width n]) [] (number width) := by
  have hdone (field : List UInt8) (hwidth : field.length = width) :
      Fieldwise (fun n => [encode width n]) [field] fun c => .ok (decode field, c) := by
    have hfield : encode width (decode field) = field := by rw [← hwidth, encode_decode]
    have := @Fieldwise.done Nat (fun n => [encode width n]) (decode field)
    rwa [hfield] at this
  rw [number_eq]
  exact .take width _ hdone

/-- The fields of a string: its length and its UTF-8 bytes. -/
def stringFields (text : String) : List (List UInt8) := [encode 4 text.utf8ByteSize, utf8 text]

/-- Behind its length, the bytes of a string are a text or they are refused. -/
theorem fieldwise_text (index : Nat) {length : Nat} (front : List UInt8)
    (hlength : front.length = length) :
    Fieldwise stringFields [encode 4 length, front] fun c =>
      match String.fromUTF8? front.toByteArray with
      | some text => .ok (text, c)
      | none => .error (.invalidUtf8 index) := by
  cases hfront : String.fromUTF8? front.toByteArray with
  | none => exact .refuse (fun _ => .invalidUtf8 index) fun _ => .text index
  | some text =>
    obtain rfl := fromUTF8?_eq_some_iff.1 hfront
    rw [← hlength, length_utf8]
    exact .done text

theorem string_eq (index : Nat) : string index = fun c : Cursor => (c.number 4).bind
    fun (length, c) => (c.bytes length).bind fun (front, c) =>
      match String.fromUTF8? front.toByteArray with
      | some text => .ok (text, c)
      | none => .error (.invalidUtf8 index) := rfl

theorem fieldwise_string (index : Nat) : Fieldwise stringFields [] (string index) := by
  rw [string_eq]
  refine .bind (fieldwise_number 4) fun length => ?_
  exact .take length _ (fieldwise_text index)

/-- The fields of an instruction: its tag and its two words. -/
def instructionFields (i : Instruction) : List (List UInt8) :=
  [[i.opcode.tag], encode 8 i.lhs.toNat, encode 8 i.rhs.toNat]

/-- A word has the same bytes as the number that it was read from. -/
theorem encode_ofNat (n : Nat) : encode 8 (UInt64.ofNat n).toNat = encode 8 n :=
  encode_mod 8 n

/-- The place of a tag, in terms of the place behind it. -/
theorem instruction_eq : instruction = fun c : Cursor => (c.number 1).bind fun (tag, d) =>
    match Opcode.ofTag? (UInt8.ofNat tag) with
    | none => .error (.invalidOpcode (UInt8.ofNat tag) (d.offset - 1))
    | some opcode =>
      (d.number 8).bind fun (lhs, d) =>
      (d.number 8).bind fun (rhs, d) =>
      .ok (⟨opcode, UInt64.ofNat lhs, UInt64.ofNat rhs⟩, d) := by
  funext c
  rw [instruction]
  cases htag : c.number 1 with
  | error fault => rfl
  | ok result =>
    obtain ⟨tag, d⟩ := result
    have hoffset : d.offset - 1 = c.offset := by
      rw [(number_eq_ok_iff.1 htag).2.2, length_encode, Nat.add_sub_cancel]
    rw [← hoffset]
    rfl

theorem fieldwise_instruction : Fieldwise instructionFields [] instruction := by
  rw [instruction_eq]
  refine .bind (fieldwise_number 1) fun tag => ?_
  show Fieldwise instructionFields [encode 1 tag] fun d =>
    match Opcode.ofTag? (UInt8.ofNat tag) with
    | none => .error (.invalidOpcode (UInt8.ofNat tag) (d.offset - 1))
    | some opcode =>
      (d.number 8).bind fun (lhs, d) =>
      (d.number 8).bind fun (rhs, d) =>
      .ok (⟨opcode, UInt64.ofNat lhs, UInt64.ofNat rhs⟩, d)
  cases hopcode : Opcode.ofTag? (UInt8.ofNat tag) with
  | none =>
    refine .refuse (fun offset => .invalidOpcode (UInt8.ofNat tag) (offset - 1)) ?_
    rintro c d ⟨hrest, hoffset⟩
    have hplace : d.offset - 1 = c.offset := by
      rw [hoffset, List.flatten_singleton, length_encode, Nat.add_sub_cancel]
    rw [hplace]
    exact .opcode (Passes.refl c) hrest (Opcode.ofTag?_eq_none_iff.1 hopcode)
  | some opcode =>
    refine .bind (fieldwise_number 8) fun lhs => .bind (fieldwise_number 8) fun rhs => ?_
    have hfields : instructionFields ⟨opcode, UInt64.ofNat lhs, UInt64.ofNat rhs⟩ =
        [encode 1 tag] ++ [encode 8 lhs] ++ [encode 8 rhs] := by
      rw [instructionFields, Opcode.ofTag?_eq_some_iff.1 hopcode, encode_ofNat, encode_ofNat]
      rfl
    rw [← hfields]
    exact .done _

/-- The fields of counted items: their count and the fields of each. -/
def countedFields {α : Type} (fields : α → List (List UInt8)) (all : Array α) :
    List (List UInt8) :=
  encode 4 all.size :: all.toList.flatMap fields

section Items

variable {α : Type} {fields : α → List (List UInt8)}
variable {read : Nat → Cursor → Except DecodeFault (α × Cursor)}

/-- Items are read on behind those taken before, after a count of all of them. -/
theorem fieldwise_items (h : ∀ index, Fieldwise fields [] (read index)) (count : Nat)
    (taken : Array α) :
    Fieldwise (countedFields fields)
      (encode 4 (taken.size + count) :: taken.toList.flatMap fields)
      (items read count taken) := by
  induction count generalizing taken with
  | zero => exact .done taken
  | succ count ih =>
    have hnext (item : α) : Fieldwise (countedFields fields)
        ((encode 4 (taken.size + (count + 1)) :: taken.toList.flatMap fields) ++ fields item)
        (items read count (taken.push item)) := by
      have := ih (taken.push item)
      rw [Array.size_push, Array.toList_push, List.flatMap_append, List.flatMap_singleton] at this
      rwa [← Nat.add_assoc, Nat.add_right_comm]
    have hitems : items read (count + 1) taken = fun c => (read taken.size c).bind
        fun (item, d) => items read count (taken.push item) d := by
      funext c
      rw [items]
      cases read taken.size c <;> rfl
    rw [hitems]
    exact (h taken.size).bind hnext

theorem fieldwise_counted (h : ∀ index, Fieldwise fields [] (read index)) :
    Fieldwise (countedFields fields) [] (counted read) := by
  have hitems (count : Nat) :
      Fieldwise (countedFields fields) [encode 4 count] (items read count #[]) := by
    have := fieldwise_items h count #[]
    rwa [Array.size_empty, Nat.zero_add] at this
  show Fieldwise (countedFields fields) [] fun c =>
    (c.number 4).bind fun (count, c) => items read count #[] c
  exact .bind (fieldwise_number 4) hitems

end Items

end Cursor

end RegisterMachine
