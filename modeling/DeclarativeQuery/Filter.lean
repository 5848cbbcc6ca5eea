import DeclarativeQuery.Json.Basic
import DeclarativeQuery.Settings
import DeclarativeQuery.Sql.Words
import DeclarativeQuery.Text.Case

/-!
Filters: the tree that they stand for, and how it is read from a mapping. The whole mapping is
checked before anything is built from it; entries are read in their order and the first fault found
is reported, for the directive that the filter belongs to. Null entries are left out.

* `and` and `or`, in any case, open a group unless the settings make them columns.
* `relation.field` is a field of a related record; the key is cut at its last dot.
* Any other key is a field of the record, in lower case.
* A value is compared for equality; a mapping holds one predicate for each operator.
-/

namespace DeclarativeQuery.Operator

def aliases : List (String × String) := [
  ("eq", "="),
  ("neq", "<>"),
  ("gt", ">"),
  ("gte", ">="),
  ("lt", "<"),
  ("lte", "<="),
  ("nlike", "not like"),
  ("nin", "not in"),
  ("notnull", "not null"),
  ("nn", "not null"),
  ("inq", "in")]

def resolve (token : String) : String :=
  match aliases.find? fun (short, _) => Text.equalIgnoringCase short token with
  | some (_, operator) => operator
  | none => Text.lower token

end DeclarativeQuery.Operator

namespace DeclarativeQuery

inductive Predicate where
  | compare (operator : String) (value : Json)
  | between (lower upper : Json)
  | oneOf (values : List Json)
  | noneOf (values : List Json)
  | notNull
  /-- A match of the pattern that ignores case. -/
  | search (pattern : String)

inductive Filter where
  | group (connective : Connective) (filters : List Filter)
  | leaf (field : String) (predicate : Predicate)
  | related (relation field : String) (predicate : Predicate)

structure HavingTerm where
  field : String
  predicate : Predicate

def searchPattern (text : String) : String :=
  String.ofList ('%' :: ['%'].intercalate (Text.words text.toList) ++ ['%'])

def Json.asSet : Json → List Json
  | .array items => items
  | single => [single]

namespace Filter

def invalid {α : Type} (directive : String) (fault : Fault) : Except Error α :=
  .error (.invalidArgument directive fault)

def searchOperand (directive field : String) : Json → Except Error String
  | .string text => .ok (searchPattern text)
  | .number value => .ok (searchPattern value.text)
  | other => invalid directive (.searchOperand field other)

def betweenOperand (field operator : String) : Json → Except Error Predicate
  | .array [lower, upper] => .ok (.between lower upper)
  | .array bounds => .error (.operatorArity field operator 2 bounds.length)
  | _ => .error (.operatorArity field operator 2 1)

/-- `operator` is already resolved. A null operand leaves the predicate out, except that `not null`
disregards its operand. -/
def readOperator (directive field operator : String) (operand : Json) :
    Except Error (Option Predicate) :=
  if operator = "not null" then .ok (some .notNull)
  else if operand.isNull then .ok none
  else if operator = "between" then (betweenOperand field operator operand).map some
  else if operator = "in" then .ok (some (.oneOf operand.asSet))
  else if operator = "not in" then .ok (some (.noneOf operand.asSet))
  else if operator = "search" then
    (searchOperand directive field operand).map fun pattern => some (.search pattern)
  else .ok (some (.compare operator operand))

def readOperators (directive field : String) :
    List (String × Json) → Except Error (List Predicate)
  | [] => .ok []
  | (token, operand) :: rest => do
      let first ← readOperator directive field (Operator.resolve token) operand
      let others ← readOperators directive field rest
      return first.toList ++ others

def readPredicates (directive field : String) : Json → Except Error (List Predicate)
  | .object operators => readOperators directive field operators
  | .array _ => invalid directive (.bareList field)
  | scalar => .ok [.compare "=" scalar]

def columnName (directive key : String) : Except Error String :=
  if Text.allBlank key then invalid directive .blankField else .ok (Text.lower key)

def relationPath? (key : String) : Option (String × String) :=
  (Text.cutLast (· == '.') key.toList).map fun (relation, field) =>
    (String.ofList relation, String.ofList field)

def readField (directive key : String) (value : Json) : Except Error (List Filter) :=
  match relationPath? key with
  | some (relation, field) =>
      if relation.isEmpty || field.isEmpty then invalid directive (.malformedPath key)
      else do
        let predicates ← readPredicates directive field value
        return predicates.map (.related (Text.lower relation) field)
  | none => do
      let field ← columnName directive key
      let predicates ← readPredicates directive field value
      return predicates.map (.leaf field)

mutual

/-- `room` more levels may be opened, this one included. -/
def readLevel (settings : Settings) (directive : String) (room : Nat) :
    Json → Except Error (List Filter)
  | .object entries =>
      match room with
      | 0 => invalid directive (.nestingTooDeep settings.maxNestingDepth)
      | room + 1 => readEntries settings directive room entries
  | _ =>
      if room = 0 then invalid directive (.nestingTooDeep settings.maxNestingDepth)
      else invalid directive .filterShape
termination_by structural value => value

def readEntries (settings : Settings) (directive : String) (room : Nat) :
    List (String × Json) → Except Error (List Filter)
  | [] => .ok []
  | (key, value) :: rest =>
      if value.isNull then readEntries settings directive room rest
      else match settings.groupKey? key with
        | some connective =>
            if value.isObject then do
              let filters ← readLevel settings directive room value
              let others ← readEntries settings directive room rest
              return .group connective filters :: others
            else invalid directive (.groupShape key)
        | none => do
            let predicates ← readField directive key value
            let others ← readEntries settings directive room rest
            return predicates ++ others
termination_by structural entries => entries

end

def read (settings : Settings) (directive : String) (filter : Json) : Except Error (List Filter) :=
  readLevel settings directive settings.maxNestingDepth filter

end Filter

namespace HavingTerm

def readEntries (settings : Settings) (directive : String) :
    List (String × Json) → Except Error (List HavingTerm)
  | [] => .ok []
  | (key, value) :: rest =>
      if value.isNull then readEntries settings directive rest
      else match settings.groupKey? key with
        | some connective => Filter.invalid directive (.groupInHaving connective)
        | none => do
            let field ← Filter.columnName directive key
            let predicates ← Filter.readPredicates directive field value
            let others ← readEntries settings directive rest
            return predicates.map (HavingTerm.mk field) ++ others

/-- Dots in keys have no meaning here. -/
def read (settings : Settings) (directive : String) : Json → Except Error (List HavingTerm)
  | .object entries => readEntries settings directive entries
  | _ => Filter.invalid directive .filterShape

end HavingTerm

end DeclarativeQuery
