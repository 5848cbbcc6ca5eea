import DeclarativeQuery.Json.Basic
import DeclarativeQuery.Sql.Words
import DeclarativeQuery.Text.Quoted

/-!
Why a description, a filter or a configuration is refused. Errors are causes; their wording is in
`message` alone.
-/

namespace DeclarativeQuery

inductive Fault where
  | descriptionShape (got : Json)
  | filterShape
  | nestingTooDeep (limit : Nat)
  | groupShape (key : String)
  | groupInHaving (connective : Connective)
  | malformedPath (key : String)
  | blankField
  | bareList (field : String)
  | searchOperand (field : String) (got : Json)
  | blankOrderTerm
  | orderFieldMissing
  | unknownDirection (keyword : String)
  | directionShape (got : Json)
  | orderTermShape (got : Json)
  | nameShape (got : Json)
  | namesShape (got : Json)
  | boundShape (got : Json)
  | inclusionShape (got : Json)
  | relationNameShape (got : Json)
  | relationPayload (relation : String) (got : Json)
  | relationConfigShape
  /-- A fault in the caller's own words. -/
  | stated (text : String)

namespace Fault

def message : Fault → String
  | .descriptionShape got => "expected a mapping of directives, got " ++ got.text
  | .filterShape => "expected a mapping of field filters"
  | .nestingTooDeep limit =>
      "filter nesting exceeds the maximum depth of " ++ Text.natText limit
  | .groupShape key => "boolean group '" ++ key ++ "' expects a mapping of filters"
  | .groupInHaving connective =>
      "boolean group '" ++ connective.word ++ "' is not supported in having filters"
  | .malformedPath key => "malformed relation path '" ++ key ++ "'"
  | .blankField => "empty field name"
  | .bareList field =>
      "'" ++ field ++ "' has a list value without an operator, use \x7b\"in\": [...]\x7d"
  | .searchOperand field got =>
      "search on '" ++ field ++ "' expects a string, got " ++ got.text
  | .blankOrderTerm => "empty order term"
  | .orderFieldMissing => "order object requires a 'field' string"
  | .unknownDirection keyword =>
      "unknown direction '" ++ keyword ++ "', expected asc or desc"
  | .directionShape got => "direction must be a string, got " ++ got.text
  | .orderTermShape got => "order terms must be strings or objects, got " ++ got.text
  | .nameShape got => "expected a string, got " ++ got.text
  | .namesShape got => "expected a string or a list of strings, got " ++ got.text
  | .boundShape got => "expected an integer, got " ++ got.text
  | .inclusionShape got => "expected a relation name, list or mapping, got " ++ got.text
  | .relationNameShape got => "relation names must be strings, got " ++ got.text
  | .relationPayload relation got =>
      "relation '" ++ relation ++ "' expects true or a mapping, got " ++ got.text
  | .relationConfigShape => "relation configuration must be a mapping"
  | .stated text => text

end Fault

inductive ConfigurationFault where
  | zeroDepth
  | blankColumn (name : String)
  /-- A source that cannot be read, or a value in it that does not fit its key. -/
  | unusableSource
  | stated (text : String)

namespace ConfigurationFault

def message : ConfigurationFault → String
  | .zeroDepth => "max_nesting_depth must be at least 1"
  | .blankColumn name => "literal_columns contains an empty name: " ++ Text.quoted name
  | .unusableSource => "unusable configuration source"
  | .stated text => text

end ConfigurationFault

inductive Error where
  | unsupportedCapability (capability : String)
  | invalidArgument (directive : String) (fault : Fault)
  | operatorArity (field operator : String) (expected actual : Nat)
  | unknownScope (name : String)
  | configuration (fault : ConfigurationFault)

namespace Error

def message : Error → String
  | .unsupportedCapability capability =>
      "Unsupported capability: " ++ capability ++
        " is not available on this builder, use a relation-aware builder"
  | .invalidArgument directive fault =>
      "Invalid argument for '" ++ directive ++ "': " ++ fault.message
  | .operatorArity field operator expected actual =>
      "Operator '" ++ operator ++ "' on '" ++ field ++ "' expects " ++ Text.natText expected ++
        " values, got " ++ Text.natText actual
  | .unknownScope name =>
      "Unknown scope: '" ++ name ++ "' is not on the builder's allow-list"
  | .configuration fault => "Configuration error: " ++ fault.message

def isInvalidArgument : Error → Bool
  | .invalidArgument _ _ => true
  | .operatorArity _ _ _ _ => true
  | _ => false

end Error

end DeclarativeQuery
