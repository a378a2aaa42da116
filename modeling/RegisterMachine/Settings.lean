import RegisterMachine.Json.Skip

/-!
# Run settings

The settings of a run are kept as a JSON object.  Its only field with a meaning
is `step_limit`, a natural number below 2⁶⁴ or `null`, and no field means no
limit.  Other fields may hold any value.  A list that is empty or holds the step
limit alone is accepted too.
-/

namespace RegisterMachine

/-- How a run is limited. -/
structure Settings where
  /-- The largest number of instructions to execute, if there is one. -/
  stepLimit : Option UInt64 := none
deriving DecidableEq

namespace Settings

open Json (Token)

def stepLimitField : String := "step_limit"

def limit? : List Token → Option (Option UInt64 × List Token)
  | .null :: rest => some (none, rest)
  | .number (some n) :: rest => if n < UInt64.size then some (some (UInt64.ofNat n), rest) else none
  | _ => none

/-- Reads the value of a field, given what an earlier field of the step limit said: the same
with this field, and what follows it.  The step limit may be said once. -/
def field? (seen : Option (Option UInt64)) (name : List Char) (tokens : List Token) :
    Option (Option (Option UInt64) × List Token) :=
  if name = stepLimitField.toList then
    if seen.isSome then none else (limit? tokens).map fun (limit, rest) => (some limit, rest)
  else (Json.skip? tokens).map fun rest => (seen, rest)

theorem length_of_field? {seen after : Option (Option UInt64)} {name : List Char}
    {tokens rest : List Token} (h : field? seen name tokens = some (after, rest)) :
    rest.length ≤ tokens.length := by
  unfold field? at h
  split at h
  · split at h
    · simp at h
    · obtain ⟨⟨limit, tail⟩, hl, hr⟩ := Option.map_eq_some_iff.1 h
      simp only [Prod.mk.injEq] at hr
      unfold limit? at hl
      split at hl
      · simp_all
      · split at hl <;> simp_all
      · simp at hl
  · obtain ⟨tail, hs, hr⟩ := Option.map_eq_some_iff.1 h
    simp only [Prod.mk.injEq] at hr
    exact hr.2 ▸ Json.length_of_skip? hs

/-- Reads the fields of an object from a key on, up to the end of the text. -/
def fields? (seen : Option (Option UInt64)) : List Token → Option (Option (Option UInt64))
  | .string units :: .colon :: tokens =>
    match Json.textOf? units with
    | none => none
    | some name =>
      match h : field? seen name tokens with
      | some (seen, .comma :: rest) =>
        have : rest.length < tokens.length := by
          have := length_of_field? h
          simp only [List.length_cons] at this
          omega
        fields? seen rest
      | some (seen, [.closeObject]) => some seen
      | _ => none
  | _ => none
termination_by tokens => tokens.length

/-- The settings that some tokens are. -/
def ofTokens? : List Token → Option Settings
  | [.openObject, .closeObject] => some {}
  | .openObject :: tokens => (fields? none tokens).map fun seen => ⟨seen.join⟩
  | [.openList, .closeList] => some {}
  | .openList :: tokens =>
    match limit? tokens with
    | some (limit, [.closeList]) => some ⟨limit⟩
    | _ => none
  | _ => none

/-- The settings that a JSON text holds. -/
def ofJson? (text : String) : Option Settings :=
  (Json.tokens? text.toList).bind ofTokens?

def json (settings : Settings) : String :=
  let limit :=
    match settings.stepLimit with
    | some limit => toString limit
    | none => "null"
  s!"\x7b\"{stepLimitField}\":{limit}\x7d"

end Settings

end RegisterMachine
