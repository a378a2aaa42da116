import RegisterMachine.Binary.Format
import RegisterMachine.Proofs.Attempt

/-!
# Fields and their bytes

Each reader of the binary format accepts one spelling of what it reads.  A reader
that goes from one cursor to another has taken the bytes between them, and
`Cursor.Passes` says which these are.  Then there is one equivalence for each
reader: it gives a value exactly if the bytes it passes are those that the value
is written as (`number_eq_ok_iff`, `string_eq_ok_iff`, `instruction_eq_ok_iff`).

Both directions of the equivalences are used.  From right to left they say that
what is written reads back, from left to right that nothing else is accepted.
`counted_eq_ok_iff` carries an equivalence from an item to a counted sequence of
items, by induction on the count.
-/

namespace RegisterMachine

open LittleEndian Attempt

/-! ## Little-endian numbers -/

/-- A number is what its bytes stand for exactly if the bytes are its digits. -/
theorem LittleEndian.decode_eq_iff {width n : Nat} {bytes : List UInt8} :
    (bytes.length = width ∧ decode bytes = n) ↔ n < capacity width ∧ bytes = encode width n := by
  constructor
  · rintro ⟨rfl, rfl⟩
    exact ⟨decode_lt bytes, (encode_decode bytes).symm⟩
  · rintro ⟨hn, rfl⟩
    exact ⟨length_encode width n, decode_encode hn⟩

/-! ## UTF-8 -/

/-- Bytes are read as a text exactly if they are its UTF-8 form. -/
theorem fromUTF8?_eq_some_iff_toUTF8 {bytes : ByteArray} {text : String} :
    String.fromUTF8? bytes = some text ↔ bytes = text.toUTF8 := by
  rw [String.fromUTF8?]
  constructor
  · intro h
    split at h
    · cases h
      rfl
    · cases h
  · intro h
    have hvalid : bytes.IsValidUTF8 := h ▸ text.isValidUTF8
    rw [dif_pos hvalid, Option.some.injEq, ← String.toByteArray_inj]
    exact h

theorem fromUTF8?_eq_some_iff {bytes : List UInt8} {text : String} :
    String.fromUTF8? bytes.toByteArray = some text ↔ bytes = utf8 text := by
  rw [fromUTF8?_eq_some_iff_toUTF8, utf8, ByteArray.ext_iff, List.data_toByteArray,
    ← Array.toList_inj]

theorem length_utf8 (text : String) : (utf8 text).length = text.utf8ByteSize := by
  rw [utf8, Array.length_toList, ByteArray.size_data, String.toUTF8_eq_toByteArray,
    String.size_toByteArray]

namespace Cursor

/-! ## Bytes between cursors -/

/-- The bytes `front` lie between a cursor and a later one. -/
def Passes (c : Cursor) (front : List UInt8) (d : Cursor) : Prop :=
  c.rest = front ++ d.rest ∧ d.offset = c.offset + front.length

theorem Passes.refl (c : Cursor) : c.Passes [] c := ⟨rfl, rfl⟩

theorem passes_nil_iff {c d : Cursor} : c.Passes [] d ↔ d = c := by
  rcases c with ⟨rest, offset⟩
  rcases d with ⟨rest', offset'⟩
  simp [Passes, eq_comm]

/-- To pass some bytes and then others is to pass both. -/
theorem passes_append_iff {c e : Cursor} {front back : List UInt8} :
    c.Passes (front ++ back) e ↔ ∃ d, c.Passes front d ∧ d.Passes back e := by
  constructor
  · rintro ⟨hrest, hoffset⟩
    refine ⟨⟨back ++ e.rest, c.offset + front.length⟩, ⟨?_, rfl⟩, ⟨rfl, ?_⟩⟩
    · rw [hrest, List.append_assoc]
    · rw [hoffset, List.length_append, Nat.add_assoc]
  · rintro ⟨d, ⟨hrest, hoffset⟩, hrest', hoffset'⟩
    refine ⟨?_, ?_⟩
    · rw [hrest, hrest', List.append_assoc]
    · rw [hoffset', hoffset, List.length_append, Nat.add_assoc]

theorem bytes_eq_ok_iff {count : Nat} {c d : Cursor} {front : List UInt8} :
    c.bytes count = .ok (front, d) ↔ front.length = count ∧ c.Passes front d := by
  rw [bytes_eq]
  constructor
  · intro h
    split at h
    · rename_i hcount
      cases h
      have hlength : (c.rest.take count).length = count := List.length_take_of_le hcount
      exact ⟨hlength, (List.take_append_drop count c.rest).symm, by rw [hlength]⟩
    · cases h
  · rintro ⟨rfl, hrest, hoffset⟩
    have hcount : front.length ≤ c.rest.length := by
      rw [hrest, List.length_append]
      omega
    rw [if_pos hcount, hrest, List.take_left, List.drop_left, ← hoffset]

/-! ## Fields -/

/-- A number is read exactly where its bytes stand. -/
theorem number_eq_ok_iff {width n : Nat} {c d : Cursor} :
    c.number width = .ok (n, d) ↔ n < capacity width ∧ c.Passes (encode width n) d := by
  rw [number, map_eq_ok_iff]
  constructor
  · rintro ⟨⟨front, e⟩, hbytes, h⟩
    obtain ⟨hdecode, rfl⟩ := Prod.mk.inj h
    obtain ⟨hlength, hpasses⟩ := bytes_eq_ok_iff.1 hbytes
    obtain ⟨hn, rfl⟩ := LittleEndian.decode_eq_iff.1 ⟨hlength, hdecode⟩
    exact ⟨hn, hpasses⟩
  · rintro ⟨hn, hpasses⟩
    refine ⟨(encode width n, d), bytes_eq_ok_iff.2 ⟨length_encode width n, hpasses⟩, ?_⟩
    show (decode (encode width n), d) = (n, d)
    rw [decode_encode hn]

/-- A string is its length and its UTF-8 bytes. -/
def stringBytes (text : String) : List UInt8 := encode 4 text.utf8ByteSize ++ utf8 text

/-- A string is read exactly where its length stands with its bytes behind it. -/
theorem string_eq_ok_iff {index : Nat} {c e : Cursor} {text : String} :
    c.string index = .ok (text, e) ↔
      text.utf8ByteSize < UInt32.size ∧ c.Passes (stringBytes text) e := by
  rw [string, bind_eq_ok_iff, stringBytes, passes_append_iff]
  constructor
  · rintro ⟨⟨length, d⟩, hlength, hbody⟩
    obtain ⟨⟨front, e'⟩, hfront, htext⟩ := bind_eq_ok_iff.1 hbody
    obtain ⟨hbound, hpasses⟩ := number_eq_ok_iff.1 hlength
    obtain ⟨rfl, hpasses'⟩ := bytes_eq_ok_iff.1 hfront
    simp only at htext
    split at htext
    · rename_i text' h
      cases htext
      obtain rfl := fromUTF8?_eq_some_iff.1 h
      rw [length_utf8] at hbound hpasses
      exact ⟨hbound, d, hpasses, hpasses'⟩
    · cases htext
  · rintro ⟨hbound, d, hpasses, hpasses'⟩
    refine ⟨(text.utf8ByteSize, d), number_eq_ok_iff.2 ⟨hbound, hpasses⟩, ?_⟩
    refine bind_eq_ok_iff.2 ⟨(utf8 text, e), bytes_eq_ok_iff.2 ⟨length_utf8 text, hpasses'⟩, ?_⟩
    simp only
    rw [fromUTF8?_eq_some_iff.2 rfl]

theorem instruction_eq_ok_iff {c e : Cursor} {i : Instruction} :
    c.instruction = .ok (i, e) ↔ c.Passes i.encode e := by
  have hword (w : UInt64) : w.toNat < capacity 8 := w.toNat_lt
  have hbyte (byte : UInt8) : encode 1 byte.toNat = [byte] := by simp [encode]
  have hencode : i.encode = encode 1 i.opcode.tag.toNat ++
      (encode 8 i.lhs.toNat ++ encode 8 i.rhs.toNat) := by
    rw [Instruction.encode, hbyte]
    rfl
  rw [hencode, instruction, bind_eq_ok_iff, passes_append_iff]
  constructor
  · rintro ⟨⟨tag, afterTag⟩, hreadTag, hfields⟩
    obtain ⟨htagBound, hpasses⟩ := number_eq_ok_iff.1 hreadTag
    simp only at hfields
    split at hfields
    · cases hfields
    · rename_i opcode hopcode
      obtain ⟨⟨lhs, afterLeft⟩, hreadLeft, hright⟩ := bind_eq_ok_iff.1 hfields
      obtain ⟨⟨rhs, afterRight⟩, hreadRight, hi⟩ := bind_eq_ok_iff.1 hright
      obtain ⟨hleftBound, hpassesLeft⟩ := number_eq_ok_iff.1 hreadLeft
      obtain ⟨hrightBound, hpassesRight⟩ := number_eq_ok_iff.1 hreadRight
      cases hi
      have htag : opcode.tag.toNat = tag := by
        rw [Opcode.ofTag?_eq_some_iff.1 hopcode]
        exact UInt8.toNat_ofNat_of_lt' htagBound
      refine ⟨afterTag, ?_, passes_append_iff.2 ⟨afterLeft, ?_, ?_⟩⟩
      · rwa [htag]
      · rwa [UInt64.toNat_ofNat_of_lt' hleftBound]
      · rwa [UInt64.toNat_ofNat_of_lt' hrightBound]
  · rintro ⟨afterTag, hpasses, hfields⟩
    obtain ⟨afterLeft, hpassesLeft, hpassesRight⟩ := passes_append_iff.1 hfields
    refine ⟨(i.opcode.tag.toNat, afterTag),
      number_eq_ok_iff.2 ⟨i.opcode.tag.toNat_lt, hpasses⟩, ?_⟩
    simp only [UInt8.ofNat_toNat, Opcode.ofTag?_tag]
    refine bind_eq_ok_iff.2 ⟨(i.lhs.toNat, afterLeft),
      number_eq_ok_iff.2 ⟨hword i.lhs, hpassesLeft⟩, ?_⟩
    refine bind_eq_ok_iff.2 ⟨(i.rhs.toNat, e), number_eq_ok_iff.2 ⟨hword i.rhs, hpassesRight⟩, ?_⟩
    simp only [UInt64.ofNat_toNat]

/-! ## Counted sequences -/

section Items

variable {α : Type} {read : Nat → Cursor → Except DecodeFault (α × Cursor)}
variable {fits : α → Prop} {bytesOf : α → List UInt8}
variable (hread : ∀ {index : Nat} {c d : Cursor} {a : α},
  read index c = .ok (a, d) ↔ fits a ∧ c.Passes (bytesOf a) d)
include hread

/-- If a reader accepts one spelling of an item, it accepts one spelling of items in a row. -/
theorem items_eq_ok_iff {count : Nat} {taken all : Array α} {c e : Cursor} :
    items read count taken c = .ok (all, e) ↔
      ∃ new : List α, new.length = count ∧ all.toList = taken.toList ++ new ∧
        (∀ a ∈ new, fits a) ∧ c.Passes (new.flatMap bytesOf) e := by
  induction count generalizing taken c with
  | zero =>
    rw [items]
    constructor
    · intro h
      cases h
      exact ⟨[], rfl, (List.append_nil _).symm, by simp, Passes.refl _⟩
    · rintro ⟨new, hlength, hall, -, hpasses⟩
      obtain rfl := List.eq_nil_of_length_eq_zero hlength
      rw [List.append_nil, Array.toList_inj] at hall
      rw [List.flatMap_nil, passes_nil_iff] at hpasses
      rw [hall, hpasses]
  | succ count ih =>
    rw [items]
    constructor
    · intro h
      split at h
      · rename_i item d hitem
        obtain ⟨hfits, hpasses⟩ := hread.1 hitem
        obtain ⟨new, hlength, hall, hnew, hpasses'⟩ := ih.1 h
        refine ⟨item :: new, by rw [List.length_cons, hlength], ?_, ?_, ?_⟩
        · rw [hall, Array.toList_push, List.append_assoc, List.singleton_append]
        · exact List.forall_mem_cons.2 ⟨hfits, hnew⟩
        · exact passes_append_iff.2 ⟨d, hpasses, hpasses'⟩
      · cases h
    · rintro ⟨new, hlength, hall, hnew, hpasses⟩
      cases new with
      | nil => cases hlength
      | cons item new =>
        obtain ⟨d, hitem, hpasses'⟩ := passes_append_iff.1 hpasses
        obtain ⟨hfits, hnew⟩ := List.forall_mem_cons.1 hnew
        rw [hread.2 ⟨hfits, hitem⟩]
        refine ih.2 ⟨new, Nat.succ.inj hlength, ?_, hnew, hpasses'⟩
        rw [hall, Array.toList_push, List.append_assoc, List.singleton_append]

/-- A counted field is read exactly where the number of its items stands, and then their bytes. -/
theorem counted_eq_ok_iff {all : Array α} {c e : Cursor} :
    c.counted read = .ok (all, e) ↔
      all.size < UInt32.size ∧ (∀ a ∈ all, fits a) ∧
        c.Passes (encode 4 all.size ++ all.toList.flatMap bytesOf) e := by
  rw [counted, bind_eq_ok_iff, passes_append_iff]
  constructor
  · rintro ⟨⟨count, d⟩, hcount, h⟩
    obtain ⟨hbound, hpasses⟩ := number_eq_ok_iff.1 hcount
    obtain ⟨new, rfl, hall, hnew, hpasses'⟩ := (items_eq_ok_iff hread).1 h
    obtain rfl : all.toList = new := hall
    rw [Array.length_toList] at hbound hpasses
    exact ⟨hbound, fun a ha => hnew a ha.val, d, hpasses, hpasses'⟩
  · rintro ⟨hbound, hfits, d, hpasses, hpasses'⟩
    refine ⟨(all.size, d), number_eq_ok_iff.2 ⟨hbound, hpasses⟩, (items_eq_ok_iff hread).2 ?_⟩
    exact ⟨all.toList, Array.length_toList, rfl, fun a ha => hfits a ⟨ha⟩, hpasses'⟩

end Items

end Cursor

end RegisterMachine
