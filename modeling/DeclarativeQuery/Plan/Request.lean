import DeclarativeQuery.Description.Basic
import DeclarativeQuery.Plan.Call

/-!
The calls that a checked description stands for. Siblings in a filter are joined by the connective
of the group that holds them; a group that holds nothing is left out. Directives come in a fixed
order: inclusion, filter, related records, scopes, fields, order, bounds, grouping, grouped filter.
-/

namespace DeclarativeQuery

def Predicate.call (field : String) (connective : Connective) : Predicate → Call
  | .compare operator value => .compare field operator value connective
  | .between lower upper => .between field lower upper connective
  | .oneOf values => .oneOf field values connective
  | .noneOf values => .noneOf field values connective
  | .notNull => .notNull field connective
  | .search pattern => .search field pattern connective

def Predicate.calls (field : String) (connective : Connective) (predicate : Predicate) :
    List Call :=
  [.report (.predicate field connective), predicate.call field connective]

namespace Filter

mutual

def calls (connective : Connective) : Filter → List Call
  | .group inner filters =>
      if filters.isEmpty then []
      else [.report (.openingGroup connective inner), .group connective (listCalls inner filters)]
  | .leaf field predicate => predicate.calls field connective
  | .related relation field predicate =>
      [.report (.relatedPredicate relation field),
        .related relation connective (predicate.calls field .and)]
termination_by structural filter => filter

def listCalls (connective : Connective) : List Filter → List Call
  | [] => []
  | filter :: rest => filter.calls connective ++ listCalls connective rest
termination_by structural filters => filters

end

end Filter

/-- Lists and ranges travel as one value, under the name of their operator. -/
def HavingTerm.call (term : HavingTerm) : Call :=
  match term.predicate with
  | .compare operator value => .having term.field operator value .and
  | .between lower upper => .having term.field "between" (.array [lower, upper]) .and
  | .oneOf values => .having term.field "in" (.array values) .and
  | .noneOf values => .having term.field "not in" (.array values) .and
  | .notNull => .having term.field "not null" .null .and
  | .search pattern => .searchHaving term.field pattern

def RelationConfig.calls (config : RelationConfig) : List Call :=
  Filter.listCalls .and config.filters ++
    (config.columns.toList.map .columns ++ config.order.map .order)

namespace Description

def reportedCalls (name : String) (entries : Nat) (calls : List Call) : List Call :=
  if entries = 0 then [] else .report (.directive name entries) :: calls

/-- The report stands even over an empty list. -/
def inclusionCalls : Option (List EagerLoad) → List Call
  | none => []
  | some loads =>
      .report (.directive Directive.inclusion loads.length) ::
        if loads.isEmpty then [] else [.load loads]

def namedCalls (directive : String) (call : String → Call) (names : List String) : List Call :=
  names.flatMap fun name => [.report (.directive directive 1), call name]

def fieldsCalls : Option (List String) → List Call
  | none => []
  | some names => [.report (.directive Directive.fields names.length), .columns names]

def boundCalls (directive : String) (call : Int → Call) : Option Int → List Call
  | none => []
  | some bound => [.report (.directive directive 1), call bound]

def directiveCalls (description : Description) : List Call :=
  inclusionCalls description.inclusion ++
  (reportedCalls Directive.filter description.filters.length
    (Filter.listCalls .and description.filters) ++
  (namedCalls Directive.has (.hasRelated · .and) description.has ++
  (namedCalls Directive.scopes .scope description.scopes ++
  (fieldsCalls description.fields ++
  (reportedCalls Directive.order description.order.length (description.order.map .order) ++
  (boundCalls Directive.limit .limit description.limit ++
  (boundCalls Directive.offset .offset description.offset ++
  (reportedCalls Directive.groupBy description.groupBy.length (description.groupBy.map .groupBy) ++
  reportedCalls Directive.having description.having.length
    (description.having.map HavingTerm.call)))))))))

def calls (description : Description) : List Call :=
  if description.isEmpty then [.report .unchanged] else description.directiveCalls

end Description

/-!
What can be asked of the compiler, and its answer: the calls to carry out, or the reason why there
are none. Every check is made before the first call, so a refused request has no effect.
-/

structure Capabilities where
  inclusion : Bool
  hasScope : String → Bool

structure Rejection where
  error : Error
  /-- The directive that the rejection is reported for, if it is reported. -/
  reportedFor : Option String := none

def Rejection.events (rejection : Rejection) : List Event :=
  rejection.reportedFor.toList.map fun directive => .rejected directive rejection.error

inductive Request where
  /-- A whole description. -/
  | description (settings : Settings) (payload : Json)
  /-- A whole description, read without regard to the target. -/
  | checkedDescription (settings : Settings) (payload : Json)
  /-- A filter mapping; the connective joins its entries. -/
  | filter (settings : Settings) (payload : Json) (connective : Connective)
  | inclusion (settings : Settings) (payload : Json)
  /-- Loads, asked of the target itself. -/
  | loads (settings : Settings) (payload : Json)
  /-- The configuration of a relation, for the query over its records. -/
  | relationConfig (settings : Settings) (payload : Json)
  | having (settings : Settings) (payload : Json)
  | order (payload : Json)

namespace Request

def inclusionUnsupported : Error := .unsupportedCapability "relation inclusion"

def unreported {α : Type} (result : Except Error α) : Except Rejection α :=
  result.mapError fun error => { error }

end Request

/-- The scopes are looked up before any of them runs. -/
def Description.plan (target : Capabilities) (description : Description) :
    Except Rejection (List Call) :=
  if description.inclusion.isSome && !target.inclusion then
    .error { error := Request.inclusionUnsupported }
  else match description.scopes.find? fun name => !target.hasScope name with
    | some name =>
        .error { error := .unknownScope name, reportedFor := some Directive.scopes }
    | none => .ok description.calls

namespace Request

def wantsInclusion : Json → Bool
  | .object entries => (Json.present? Directive.inclusion entries).isSome
  | _ => false

/-- Support for inclusion is asked for before the payload is even read. -/
def planDescription (target : Capabilities) (settings : Settings) (payload : Json) :
    Except Rejection (List Call) :=
  if wantsInclusion payload && !target.inclusion then
    .error { error := inclusionUnsupported, reportedFor := some Directive.inclusion }
  else match Description.read settings payload with
    | .error error => .error { error, reportedFor := some Directive.description }
    | .ok checked => checked.plan target

def plan (target : Capabilities) : Request → Except Rejection (List Call)
  | .description settings payload => planDescription target settings payload
  | .checkedDescription settings payload =>
      unreported (Description.read settings payload) >>= Description.plan target
  | .filter settings payload connective =>
      unreported ((Filter.read settings Directive.filter payload).map
        (Filter.listCalls connective))
  | .inclusion settings payload =>
      if target.inclusion then
        unreported ((Inclusion.read settings payload).map fun loads => [.load loads])
      else .error { error := inclusionUnsupported }
  | .loads settings payload =>
      unreported ((Inclusion.read settings payload).map fun loads => [.load loads])
  | .relationConfig settings payload =>
      unreported ((RelationConfig.read settings payload).map RelationConfig.calls)
  | .having settings payload =>
      unreported ((HavingTerm.read settings Directive.having payload).map
        fun terms => terms.map HavingTerm.call)
  | .order payload =>
      unreported ((OrderTerm.readList payload).map fun terms => terms.map .order)

end Request

end DeclarativeQuery
