import RegisterMachine.Json.Token

/-!
# Passing over a JSON value

`skip?` takes one value off a list of tokens, whatever it is, and fails if the
tokens do not begin with one.  It keeps a stack of the lists and objects that
are open, so there is no limit to how deep they may lie in each other.
-/

namespace RegisterMachine.Json

/-- An open list or object. -/
inductive Container where
  | list
  | object
deriving DecidableEq

/-- What may come next within a value. -/
inductive Expectation where
  | value
  /-- A first element or the end of the list. -/
  | firstElement
  /-- A first key or the end of the object. -/
  | firstKey
  | key
  | colon
  /-- A comma or the end of what is open. -/
  | separator
deriving DecidableEq

/-- What a token leads to: the next expectation and the containers open then. -/
def advance? : Expectation → List Container → Token → Option (Expectation × List Container)
  | .value, inside, .openList | .firstElement, inside, .openList =>
    some (.firstElement, .list :: inside)
  | .value, inside, .openObject | .firstElement, inside, .openObject =>
    some (.firstKey, .object :: inside)
  | .value, inside, .null | .firstElement, inside, .null => some (.separator, inside)
  | .value, inside, .bool | .firstElement, inside, .bool => some (.separator, inside)
  | .value, inside, .number _ | .firstElement, inside, .number _ => some (.separator, inside)
  | .value, inside, .string _ | .firstElement, inside, .string _ => some (.separator, inside)
  | .firstElement, _ :: inside, .closeList => some (.separator, inside)
  | .firstKey, _ :: inside, .closeObject => some (.separator, inside)
  | .firstKey, inside, .string _ => some (.colon, inside)
  | .key, inside, .string _ => some (.colon, inside)
  | .colon, inside, .colon => some (.value, inside)
  | .separator, .list :: inside, .comma => some (.value, .list :: inside)
  | .separator, .object :: inside, .comma => some (.key, .object :: inside)
  | .separator, .list :: inside, .closeList => some (.separator, inside)
  | .separator, .object :: inside, .closeObject => some (.separator, inside)
  | _, _, _ => none

/-- Passes over the rest of a value, given what may come next and what is open. -/
def skipFrom? (expected : Expectation) (inside : List Container) :
    List Token → Option (List Token)
  | [] => if expected = .separator ∧ inside = [] then some [] else none
  | token :: tokens =>
    if expected = .separator ∧ inside = [] then some (token :: tokens)
    else
      match advance? expected inside token with
      | some (expected, inside) => skipFrom? expected inside tokens
      | none => none
termination_by structural tokens => tokens

def skip? (tokens : List Token) : Option (List Token) := skipFrom? .value [] tokens

theorem length_of_skipFrom? {tokens rest : List Token} {expected : Expectation}
    {inside : List Container} (h : skipFrom? expected inside tokens = some rest) :
    rest.length ≤ tokens.length := by
  induction tokens generalizing expected inside with
  | nil =>
    rw [skipFrom?] at h
    split at h
    · simp_all
    · simp at h
  | cons token tokens ih =>
    rw [skipFrom?] at h
    split at h
    · simp_all
    · split at h
      · have := ih h
        simp only [List.length_cons]
        omega
      · simp at h

theorem length_of_skip? {tokens rest : List Token} (h : skip? tokens = some rest) :
    rest.length ≤ tokens.length :=
  length_of_skipFrom? h

end RegisterMachine.Json
