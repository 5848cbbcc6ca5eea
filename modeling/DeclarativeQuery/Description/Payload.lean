import DeclarativeQuery.Error
import DeclarativeQuery.Text.Blank

/-!
The plain payloads of directives: names, bounds on the number of records, and sort keys. A sort key
is written as text, `field` or `field direction`, or as an object with the two under their names; a
list holds terms of either kind. Without a direction a term ascends.
-/

namespace DeclarativeQuery.Payload

def invalid {α : Type} (directive : String) (fault : Fault) : Except Error α :=
  .error (.invalidArgument directive fault)

def readName (directive : String) : Json → Except Error String
  | .string name => .ok name
  | other => invalid directive (.nameShape other)

def readNames (directive : String) : Json → Except Error (List String)
  | .string name => .ok [name]
  | .array items => items.mapM (readName directive)
  | other => invalid directive (.namesShape other)

def bound? : Json → Option Int
  | .number (.whole value) =>
      if Text.minInt64 ≤ value ∧ value ≤ Text.maxInt64 then some value else none
  | .string text => Text.readInt64 (Text.trim text.toList)
  | _ => none

def readBound (directive : String) (payload : Json) : Except Error Int :=
  match bound? payload with
  | some value => .ok value
  | none => invalid directive (.boundShape payload)

/-- Null, false and whatever is empty say nothing. -/
def isVoid : Json → Bool
  | .null => true
  | .bool value => !value
  | .string text => text.isEmpty
  | .array items => items.isEmpty
  | .object entries => entries.isEmpty
  | .number _ => false

def filled? (key : String) (entries : List (String × Json)) : Option Json :=
  (entries.lookup key).filter fun value => !isVoid value

def reading {α : Type} (default : α) (payload : Option Json) (read : Json → Except Error α) :
    Except Error α :=
  match payload with
  | none => .ok default
  | some value => read value

end DeclarativeQuery.Payload

namespace DeclarativeQuery

structure OrderTerm where
  field : String
  direction : Direction := .asc
  deriving DecidableEq

namespace OrderTerm

def directive : String := "order"

def invalid {α : Type} (fault : Fault) : Except Error α := .error (.invalidArgument directive fault)

/-- Cuts a direction off the end of a trimmed term. A last word that is no direction stays. -/
def cutDirection (term : List Char) : List Char × Direction :=
  match Text.cutLast Text.isBlank term with
  | some (head, tail) =>
      match Direction.ofKeyword? (String.ofList tail) with
      | some direction => (Text.trimEnd head, direction)
      | none => (term, .asc)
  | none => (term, .asc)

def ofText (text : String) : Except Error OrderTerm :=
  let term := Text.trim text.toList
  if term.isEmpty then invalid .blankOrderTerm
  else
    let (field, direction) := cutDirection term
    .ok ⟨Text.lower (String.ofList field), direction⟩

def readDirection : Option Json → Except Error Direction
  | none => .ok .asc
  | some .null => .ok .asc
  | some (.string keyword) =>
      match Direction.ofKeyword? (Text.trimmed keyword) with
      | some direction => .ok direction
      | none => invalid (.unknownDirection keyword)
  | some other => invalid (.directionShape other)

def ofEntries (entries : List (String × Json)) : Except Error OrderTerm :=
  match entries.lookup "field" with
  | some (.string text) =>
      let field := Text.trimmed text
      if field.isEmpty then invalid .orderFieldMissing
      else do
        let direction ← readDirection (entries.lookup "direction")
        return ⟨Text.lower field, direction⟩
  | _ => invalid .orderFieldMissing

def read : Json → Except Error OrderTerm
  | .string text => ofText text
  | .object entries => ofEntries entries
  | other => invalid (.orderTermShape other)

def readList : Json → Except Error (List OrderTerm)
  | .array items => items.mapM read
  | single => do
      let term ← read single
      return [term]

/-! The stored form. A list stands for an object and gives the fields in their order. -/

def ofStoredFields? (field direction : Option Json) : Option OrderTerm := do
  let .string field ← field | none
  let direction ← Json.storedField? .asc Direction.ofStored? direction
  return ⟨field, direction⟩

def ofStored? : Json → Option OrderTerm
  | .object entries => ofStoredFields? (entries.lookup "field") (entries.lookup "direction")
  | .array [field] => ofStoredFields? (some field) none
  | .array [field, direction] => ofStoredFields? (some field) (some direction)
  | _ => none

def toStored (term : OrderTerm) : Json :=
  .object [("field", .string term.field), ("direction", term.direction.toStored)]

def sql (term : OrderTerm) : String := term.field ++ " " ++ term.direction.sql

end OrderTerm

end DeclarativeQuery
