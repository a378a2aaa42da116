import RegisterMachine.Proofs.Binary.Fieldwise

/-!
# Files that are cut, and files that go on

A program file is a sequence of fields (`Program.fields`), and decoding takes
them one after the other.  So a file that is cut is refused at the field that the
cut goes through, with the number of bytes that this field lacks
(`decode_of_append_eq_ok`), and no file is the beginning of another.

Bytes at the end of any input matter in one way only (`decode_append`).  Behind a
whole file they are too many.  Behind a byte that is refused they do not matter,
and a refused tag is where the fault says it is.  Behind a cut they first fill
the field that is cut.
-/

namespace RegisterMachine

open Attempt
open Cursor (Fieldwise Outcome countedFields stringFields instructionFields)

namespace Program

/-! ## The fields of a file -/

/-- The fields of a file that holds these strings and these instructions. -/
def contentFields : Array String × Array Instruction → List (List UInt8)
  | (strings, instructions) =>
    magic :: (countedFields stringFields strings ++ countedFields instructionFields instructions)

/-- The fields that the file of a program consists of. -/
def fields (p : Program) : List (List UInt8) := contentFields (p.strings, p.instructions)

theorem flatten_countedFields {α : Type} (fields : α → List (List UInt8)) (all : Array α) :
    (countedFields fields all).flatten =
      LittleEndian.encode 4 all.size ++ all.toList.flatMap fun a => (fields a).flatten := by
  rw [countedFields, List.flatten_cons]
  congr 1
  induction all.toList with
  | nil => rfl
  | cons a as ih => rw [List.flatMap_cons, List.flatMap_cons, List.flatten_append, ih]

theorem flatten_fields (p : Program) : p.fields.flatten = p.image := by
  have hstring : (fun text => (stringFields text).flatten) = Cursor.stringBytes := by
    funext text
    simp [stringFields, Cursor.stringBytes]
  have hinstruction : (fun i => (instructionFields i).flatten) = Instruction.encode := by
    funext i
    simp [instructionFields, Instruction.encode]
  rw [fields, contentFields, List.flatten_cons, List.flatten_append, flatten_countedFields,
    flatten_countedFields, hstring, hinstruction]
  rfl

/-! ## Decoding as reading -/

/-- Reads the strings and the instructions of a file. -/
def readContents (c : Cursor) :
    Except DecodeFault ((Array String × Array Instruction) × Cursor) :=
  (c.bytes magic.length).bind fun (front, c) =>
  if front ≠ magic then .error .badMagic
  else
    (c.counted Cursor.string).bind fun (strings, c) =>
    (c.counted fun _ => Cursor.instruction).bind fun (instructions, c) =>
    .ok ((strings, instructions), c)

/-- The program of a file's contents, if there are instructions and nothing follows them. -/
def ofContents : (Array String × Array Instruction) × Cursor → Except DecodeFault Program
  | ((strings, instructions), c) =>
    if c.rest ≠ [] then .error (.trailingBytes c.rest.length)
    else if h : 0 < instructions.size then .ok ⟨instructions, strings, h⟩
    else .error .emptyProgram

theorem decode_eq_bind (bytes : List UInt8) :
    decode bytes = (readContents (Cursor.start bytes)).bind ofContents := by
  rw [decode, readContents]
  cases (Cursor.start bytes).bytes magic.length with
  | error fault => rfl
  | ok result =>
    obtain ⟨front, c⟩ := result
    simp only [Except.bind]
    split
    · rfl
    · cases c.counted Cursor.string with
      | error fault => rfl
      | ok result =>
        obtain ⟨strings, d⟩ := result
        cases hinstructions : d.counted fun _ => Cursor.instruction <;>
          simp [hinstructions, ofContents]

theorem fieldwise_readContents : Fieldwise contentFields [] readContents := by
  refine .take magic.length _ fun front hfront => ?_
  by_cases hmagic : front ≠ magic
  · have hrefuse : Fieldwise contentFields [front] fun _ => .error .badMagic :=
      .refuse (fun _ => .badMagic) fun _ => .magic
    simpa [hmagic] using hrefuse
  · rw [Decidable.not_not] at hmagic
    subst hmagic
    have hread : Fieldwise contentFields [magic] fun c : Cursor =>
        (c.counted Cursor.string).bind fun (strings, c) =>
        (c.counted fun _ => Cursor.instruction).bind fun (instructions, c) =>
        .ok ((strings, instructions), c) := by
      refine .bind (Cursor.fieldwise_counted Cursor.fieldwise_string) fun strings => ?_
      refine .bind (Cursor.fieldwise_counted fun _ => Cursor.fieldwise_instruction)
        fun instructions => ?_
      exact .done (strings, instructions)
    simpa using hread

theorem ofContents_of_rest_ne_nil {contents : Array String × Array Instruction} {c : Cursor}
    (h : c.rest ≠ []) : ofContents (contents, c) = .error (.trailingBytes c.rest.length) := by
  rw [ofContents, if_pos h]

theorem ofContents_cases (contents : Array String × Array Instruction) (c : Cursor) :
    (c.rest = [] ∧ ∃ p, ofContents (contents, c) = .ok p) ∨
      (c.rest = [] ∧ ofContents (contents, c) = .error .emptyProgram) ∨
      ofContents (contents, c) = .error (.trailingBytes c.rest.length) := by
  by_cases hrest : c.rest = []
  · rw [ofContents, if_neg (not_not_intro hrest)]
    split
    · exact Or.inl ⟨hrest, _, rfl⟩
    · exact Or.inr (Or.inl ⟨hrest, rfl⟩)
  · exact Or.inr (Or.inr (ofContents_of_rest_ne_nil hrest))

/-- A program has the fields of the contents that it was made of. -/
theorem fields_of_ofContents {contents : Array String × Array Instruction} {c : Cursor}
    {p : Program} (h : ofContents (contents, c) = .ok p) : p.fields = contentFields contents := by
  rw [ofContents] at h
  split at h
  · cases h
  · split at h
    · cases h
      rfl
    · cases h

/-! ## Longer and shorter files -/

/-- What decoding does with an input, and what becomes of it if the input goes on. -/
inductive Decoding (bytes : List UInt8) : Prop where
  /-- The contents are all there, and `rest` follows them. -/
  | whole {contents : Array String × Array Instruction} {c : Cursor}
      (longer : ∀ more, decode (bytes ++ more) = ofContents (contents, c.extend more))
  | refused {fault : DecodeFault} (refuses : (Cursor.start bytes).Refuses fault)
      (longer : ∀ more, decode (bytes ++ more) = .error fault)
  /-- A field is cut, of which there is only `rest`. -/
  | cut {taken : List (List UInt8)} {rest : List UInt8} {width : Nat}
      (split : bytes = taken.flatten ++ rest) (short : rest.length < width)
      (shorter : ∀ more, rest.length + more.length < width → decode (bytes ++ more) =
        .error (.unexpectedEnd taken.flatten.length (width - (rest.length + more.length))))
      (reached : ∀ more offset needed, width ≤ rest.length + more.length →
        decode (bytes ++ more) = .error (.unexpectedEnd offset needed) →
        taken.flatten.length + width ≤ offset)
      (field : ∀ more p, decode (bytes ++ more) = .ok p →
        ∃ field later, p.fields = taken ++ field :: later ∧ field.length = width)

theorem decoding (bytes : List UInt8) : Decoding bytes := by
  have hdecode (more : List UInt8) : decode (bytes ++ more) =
      (readContents ((Cursor.start bytes).extend more)).bind ofContents :=
    decode_eq_bind (bytes ++ more)
  cases fieldwise_readContents.outcome (Cursor.Passes.refl (Cursor.start bytes)) with
  | whole passes longer =>
    exact .whole fun more => by rw [hdecode, longer]; rfl
  | refused refuses longer =>
    exact .refused refuses fun more => by rw [hdecode, longer]; rfl
  | @cut taken d width passes short shorter reached field =>
    have hoffset : d.offset = taken.flatten.length := passes.2.trans (Nat.zero_add _)
    rw [hoffset] at shorter reached
    refine .cut passes.1 short (fun more hmore => ?_) (fun more offset needed hmore h => ?_)
      (fun more p h => ?_)
    · rw [hdecode, shorter more hmore]
      rfl
    · rw [hdecode] at h
      cases hread : readContents ((Cursor.start bytes).extend more) with
      | error fault =>
        rw [hread] at h
        cases h
        exact reached more offset needed hmore hread
      | ok result =>
        -- The contents are all there, so the input does not end within a field.
        rw [hread] at h
        obtain ⟨contents, c⟩ := result
        change ofContents (contents, c) = _ at h
        rcases ofContents_cases contents c with ⟨-, p, hp⟩ | ⟨-, hp⟩ | hp
        all_goals
          rw [hp] at h
          cases h
    · rw [hdecode] at h
      obtain ⟨⟨contents, c⟩, hread, hp⟩ := bind_eq_ok_iff.1 h
      rw [fields_of_ofContents hp]
      exact field more contents c hread

/-- A longer file is too long by what was added to the contents. -/
theorem decode_eq_trailingBytes {bytes more : List UInt8}
    {contents : Array String × Array Instruction} {c : Cursor} (hmore : more ≠ [])
    (longer : ∀ more, decode (bytes ++ more) = ofContents (contents, c.extend more)) :
    decode (bytes ++ more) = .error (.trailingBytes (c.rest.length + more.length)) := by
  rw [longer, ofContents_of_rest_ne_nil, Cursor.extend_rest, List.length_append]
  exact List.append_ne_nil_of_right_ne_nil _ hmore

/-- What bytes at the end of an input do to its decoding. -/
theorem decode_append_of_ne_nil {bytes more : List UInt8} (hmore : more ≠ []) :
    match decode bytes with
    | .ok _ | .error .emptyProgram => decode (bytes ++ more) = .error (.trailingBytes more.length)
    | .error (.trailingBytes count) =>
      decode (bytes ++ more) = .error (.trailingBytes (count + more.length))
    | .error .badMagic | .error (.invalidOpcode _ _) | .error (.invalidUtf8 _) =>
      decode (bytes ++ more) = decode bytes
    | .error (.unexpectedEnd offset needed) =>
      offset ≤ bytes.length ∧ 1 ≤ needed ∧
      (more.length < needed →
        decode (bytes ++ more) = .error (.unexpectedEnd offset (needed - more.length))) ∧
      ∀ offset' needed', needed ≤ more.length →
        decode (bytes ++ more) = .error (.unexpectedEnd offset' needed') →
        bytes.length + needed ≤ offset' := by
  have hnil := List.append_nil bytes
  cases decoding bytes with
  | @whole contents c longer =>
    have hbytes := longer []
    have hlonger := decode_eq_trailingBytes hmore longer
    rw [hnil, Cursor.extend_nil] at hbytes
    rcases ofContents_cases contents c with ⟨hrest, p, hp⟩ | ⟨hrest, hp⟩ | hp
    · rw [hrest, List.length_nil, Nat.zero_add] at hlonger
      rw [hbytes, hp]
      exact hlonger
    · rw [hrest, List.length_nil, Nat.zero_add] at hlonger
      rw [hbytes, hp]
      exact hlonger
    · rw [hbytes, hp]
      exact hlonger
  | refused refuses longer =>
    have hbytes := longer []
    rw [hnil] at hbytes
    cases refuses with
    | magic => rw [hbytes]; exact longer more
    | text index => rw [hbytes]; exact longer more
    | opcode passes next unused => rw [hbytes]; exact longer more
  | @cut taken rest width split short shorter reached field =>
    have hbytes := shorter [] short
    have hlength : bytes.length = taken.flatten.length + rest.length := by
      rw [split, List.length_append]
    rw [hnil, List.length_nil, Nat.add_zero] at hbytes
    rw [hbytes]
    refine ⟨by omega, by omega, fun hshort => ?_, fun offset needed hfilled h => ?_⟩
    · rw [shorter more (by omega), Nat.sub_add_eq]
    · have := reached more offset needed (by omega) h
      omega

/-- A file that is cut is refused at the field that the cut goes through. -/
theorem decode_of_append_eq_ok {p : Program} {bytes more : List UInt8} (hmore : more ≠ [])
    (h : decode (bytes ++ more) = .ok p) :
    ∃ before field after, p.fields = before ++ field :: after ∧
      before.flatten.length ≤ bytes.length ∧
      bytes.length < before.flatten.length + field.length ∧
      decode bytes = .error (.unexpectedEnd before.flatten.length
        (before.flatten.length + field.length - bytes.length)) := by
  cases decoding bytes with
  | whole longer =>
    rw [decode_eq_trailingBytes hmore longer] at h
    cases h
  | refused refuses longer =>
    rw [longer] at h
    cases h
  | @cut taken rest width split short shorter reached field =>
    obtain ⟨next, later, hfields, rfl⟩ := field more p h
    have hbytes := shorter [] short
    have hlength : bytes.length = taken.flatten.length + rest.length := by
      rw [split, List.length_append]
    rw [List.append_nil, List.length_nil, Nat.add_zero] at hbytes
    refine ⟨taken, next, later, hfields, by omega, by omega, ?_⟩
    rw [hbytes, hlength, Nat.add_sub_add_left]

/-- No file is the beginning of another one. -/
theorem eq_nil_of_decode_append {p q : Program} {bytes more : List UInt8}
    (hbytes : decode bytes = .ok p) (h : decode (bytes ++ more) = .ok q) : more = [] := by
  cases more with
  | nil => rfl
  | cons byte more =>
    have hlonger := @decode_append_of_ne_nil bytes _ (List.cons_ne_nil byte more)
    rw [hbytes] at hlonger
    rw [show decode (bytes ++ byte :: more) = _ from hlonger] at h
    cases h

/-- A tag that is refused stands where the fault says. -/
theorem getElem_of_decode_eq_invalidOpcode {bytes : List UInt8} {tag : UInt8} {offset : Nat}
    (h : decode bytes = .error (.invalidOpcode tag offset)) :
    ∃ hoffset : offset < bytes.length, bytes[offset] = tag ∧ 19 ≤ tag.toNat := by
  cases decoding bytes with
  | @whole contents c longer =>
    have hbytes := longer []
    rw [List.append_nil, h] at hbytes
    rcases ofContents_cases contents (c.extend []) with ⟨-, p, hp⟩ | ⟨-, hp⟩ | hp
    all_goals
      rw [hp] at hbytes
      cases hbytes
  | refused refuses longer =>
    have hbytes := longer []
    rw [List.append_nil, h] at hbytes
    cases hbytes
    cases refuses with
    | @opcode front behind d _ passes next unused =>
      have hsplit : bytes = front ++ tag :: behind := passes.1.trans (by rw [next])
      have hoffset : d.offset = front.length := passes.2.trans (Nat.zero_add _)
      subst hsplit
      refine ⟨?_, ?_, unused⟩
      · rw [hoffset, List.length_append, List.length_cons]
        omega
      · simp [hoffset]
  | cut split short shorter reached field =>
    have hbytes := shorter [] short
    rw [List.append_nil, h] at hbytes
    cases hbytes

/-- Decoding reports the first fault of an input, and bytes that are added at its end matter in
one way only.  A file that is cut lacks bytes up to the end of one of its fields, no file is the
beginning of another, and a tag that is refused stands where the fault says. -/
theorem decode_append :
    (∀ bytes more : List UInt8, more ≠ [] →
      match decode bytes with
      | .ok _ | .error .emptyProgram =>
        decode (bytes ++ more) = .error (.trailingBytes more.length)
      | .error (.trailingBytes count) =>
        decode (bytes ++ more) = .error (.trailingBytes (count + more.length))
      | .error .badMagic | .error (.invalidOpcode _ _) | .error (.invalidUtf8 _) =>
        decode (bytes ++ more) = decode bytes
      | .error (.unexpectedEnd offset needed) =>
        offset ≤ bytes.length ∧ 1 ≤ needed ∧
        (more.length < needed →
          decode (bytes ++ more) = .error (.unexpectedEnd offset (needed - more.length))) ∧
        ∀ offset' needed', needed ≤ more.length →
          decode (bytes ++ more) = .error (.unexpectedEnd offset' needed') →
          bytes.length + needed ≤ offset') ∧
    (∀ (p : Program) (bytes more : List UInt8), more ≠ [] → decode (bytes ++ more) = .ok p →
      p.fields.flatten = bytes ++ more ∧
      ∃ before field after, p.fields = before ++ field :: after ∧
        before.flatten.length ≤ bytes.length ∧
        bytes.length < before.flatten.length + field.length ∧
        decode bytes = .error (.unexpectedEnd before.flatten.length
          (before.flatten.length + field.length - bytes.length))) ∧
    (∀ (p q : Program) (bytes more : List UInt8), decode bytes = .ok p →
      decode (bytes ++ more) = .ok q → more = []) ∧
    (∀ (bytes : List UInt8) (tag : UInt8) (offset : Nat),
      decode bytes = .error (.invalidOpcode tag offset) →
      ∃ h : offset < bytes.length, bytes[offset] = tag ∧ 19 ≤ tag.toNat) := by
  refine ⟨fun bytes more => decode_append_of_ne_nil, fun p bytes more hmore h => ⟨?_, ?_⟩,
    fun p q bytes more => eq_nil_of_decode_append,
    fun bytes tag offset => getElem_of_decode_eq_invalidOpcode⟩
  · rw [flatten_fields, (decode_eq_ok_iff.1 h).2]
  · exact decode_of_append_eq_ok hmore h

/-- The file of `retc 42` without its last three bytes, and the same file with another tag. -/
theorem decode_append_cut :
    let cut : List UInt8 := [0x52, 0x56, 0x4d, 0x01, 0, 0, 0, 0, 1, 0, 0, 0,
      16, 0, 0, 0, 0, 0, 0, 0, 0, 42, 0, 0, 0, 0]
    let untagged : List UInt8 := [0x52, 0x56, 0x4d, 0x01, 0, 0, 0, 0, 1, 0, 0, 0, 19]
    let p : Program := ⟨#[.retc 42], #[], by decide⟩
    decode cut = .error (.unexpectedEnd 21 3) ∧
      decode (cut ++ [0]) = .error (.unexpectedEnd 21 2) ∧
      decode (cut ++ [0, 0, 0]) = .ok p ∧
      (∃ before field after, p.fields = before ++ field :: after ∧
        before.flatten.length ≤ cut.length ∧
        cut.length < before.flatten.length + field.length ∧
        decode cut = .error (.unexpectedEnd before.flatten.length
          (before.flatten.length + field.length - cut.length))) ∧
      decode untagged = .error (.invalidOpcode 19 12) ∧
      ∃ h : 12 < untagged.length, untagged[12] = 19 ∧ 19 ≤ (19 : UInt8).toNat := by
  intro cut untagged p
  have hcut : decode cut = .error (.unexpectedEnd 21 3) := rfl
  have hwhole : decode (cut ++ [0, 0, 0]) = .ok p := rfl
  have htag : decode untagged = .error (.invalidOpcode 19 12) := rfl
  have hlonger := decode_append.1 cut [0] (by decide)
  rw [hcut] at hlonger
  exact ⟨hcut, hlonger.2.2.1 (by decide), hwhole,
    (decode_append.2.1 p cut [0, 0, 0] (by decide) hwhole).2, htag,
    decode_append.2.2.2 untagged 19 12 htag⟩

end Program

end RegisterMachine
