import DeclarativeQuery.Description.Basic
import DeclarativeQuery.Error

/-!
The calls that a query builder understands. A description becomes a list of them, and whatever
carries out a list of calls can be the target of a description. Calls inside a group or inside a
related set are carried out on a builder of its own, whose conditions the outer one then takes.
-/

namespace DeclarativeQuery

inductive Level where
  | warn
  | debug
  | trace
  deriving DecidableEq

def Level.word : Level → String
  | .warn => "WARN"
  | .debug => "DEBUG"
  | .trace => "TRACE"

inductive Event where
  | rejected (name : String) (error : Error)
  | directive (name : String) (entries : Nat)
  | unchanged
  | openingGroup (outer inner : Connective)
  | relatedPredicate (relation field : String)
  | predicate (field : String) (connective : Connective)

namespace Event

def level : Event → Level
  | .rejected _ _ => .warn
  | .directive _ _ => .debug
  | .unchanged => .debug
  | .openingGroup _ _ => .trace
  | .relatedPredicate _ _ => .trace
  | .predicate _ _ => .trace

def message : Event → String
  | .rejected _ _ => "DIRECTIVE_REJECTED"
  | .directive _ _ => "DIRECTIVE_OPERATION"
  | .unchanged => "empty description, builder left unchanged"
  | .openingGroup _ _ => "opening predicate group"
  | .relatedPredicate _ _ => "relation predicate"
  | .predicate _ _ => "emitting predicate"

def fields : Event → List (String × Json)
  | .rejected name error => [("directive", .string name), ("error", .string error.message)]
  | .directive name entries => [("directive", .string name), ("entries", .whole entries)]
  | .unchanged => []
  | .openingGroup outer inner =>
      [("outer", .string outer.word), ("inner", .string inner.word)]
  | .relatedPredicate relation field =>
      [("relation", .string relation), ("field", .string field)]
  | .predicate field connective =>
      [("field", .string field), ("connective", .string connective.word)]

end Event

inductive Call where
  | compare (field operator : String) (value : Json) (connective : Connective)
  | between (field : String) (lower upper : Json) (connective : Connective)
  | oneOf (field : String) (values : List Json) (connective : Connective)
  | noneOf (field : String) (values : List Json) (connective : Connective)
  | notNull (field : String) (connective : Connective)
  /-- The first `?` in the expression stands for the binding. -/
  | raw (expression : String) (binding : Json) (connective : Connective)
  /-- A match that ignores case, expressed as the target's dialect does. -/
  | search (field pattern : String) (connective : Connective)
  | group (connective : Connective) (calls : List Call)
  | hasRelated (relation : String) (connective : Connective)
  | related (relation : String) (connective : Connective) (calls : List Call)
  | columns (names : List String)
  | order (term : OrderTerm)
  | limit (bound : Int)
  | offset (bound : Int)
  | groupBy (field : String)
  | having (field operator : String) (value : Json) (connective : Connective)
  | rawHaving (expression : String) (binding : Json) (connective : Connective)
  | searchHaving (field pattern : String)
  | load (loads : List EagerLoad)
  | scope (name : String)
  /-- Tells observers and changes nothing. -/
  | report (event : Event)

namespace LikeStrategy

def searchCall (field pattern : String) (connective : Connective) : LikeStrategy → Call
  | .operator token => .compare field token (.string pattern) connective
  | .collation name => .raw (collated field name) (.string pattern) connective
  | .lowerBoth => .raw (lowered field) (.string pattern) connective

def searchHavingCall (field pattern : String) : LikeStrategy → Call
  | .operator token => .having field token (.string pattern) .and
  | .collation name => .rawHaving (collated field name) (.string pattern) .and
  | .lowerBoth => .rawHaving (lowered field) (.string pattern) .and

end LikeStrategy

end DeclarativeQuery
