import DeclarativeQuery.Description.Payload
import DeclarativeQuery.Filter

/-!
A description of a query: a mapping of directives. All of them are checked before any takes effect,
in a fixed order whatever their order in the mapping. Unknown directives and null ones are
disregarded; `offset` goes before `skip` and `groupBy` before `group_by`.
-/

namespace DeclarativeQuery

structure RelationConfig where
  filters : List Filter := []
  columns : Option (List String) := none
  order : List OrderTerm := []

structure EagerLoad where
  relation : String
  config : Option RelationConfig := none

def EagerLoad.isPlain (load : EagerLoad) : Bool := load.config.isNone

namespace Inclusion

def directive : String := "include"

def invalid {α : Type} (fault : Fault) : Except Error α := Payload.invalid directive fault

end Inclusion

namespace RelationConfig

def keys : List String := ["where", "fields", "order"]

def ofEntries (settings : Settings) (entries : List (String × Json)) :
    Except Error RelationConfig := do
  let filters ← Payload.reading [] (Payload.filled? "where" entries)
    (Filter.read settings Inclusion.directive)
  let columns ← Payload.reading none (Payload.filled? "fields" entries) fun payload =>
    (Payload.readNames Inclusion.directive payload).map some
  let order ← Payload.reading [] (Payload.filled? "order" entries) OrderTerm.readList
  return { filters, columns, order }

def read (settings : Settings) : Json → Except Error RelationConfig
  | .object entries => ofEntries settings entries
  | _ => Inclusion.invalid .relationConfigShape

end RelationConfig

namespace Inclusion

/-- True of the keys that a list gets when it is written as a mapping. -/
def isIndex (name : String) : Bool := (Text.readNat64 name.toList).isSome

def readRelation (settings : Settings) (name : String) (payload : Json) :
    Except Error (Option EagerLoad) :=
  match payload with
  | .null => .ok none
  | .bool false => .ok none
  | .bool true => .ok (some { relation := name })
  | .string relation =>
      if isIndex name then .ok (some { relation })
      else invalid (.relationPayload name payload)
  | .object entries =>
      if RelationConfig.keys.any fun key => (Payload.filled? key entries).isSome then do
        let config ← RelationConfig.ofEntries settings entries
        return some { relation := name, config := some config }
      else .ok (some { relation := name })
  | other => invalid (.relationPayload name other)

def readRelations (settings : Settings) : List (String × Json) → Except Error (List EagerLoad)
  | [] => .ok []
  | (name, payload) :: rest => do
      let first ← readRelation settings name payload
      let others ← readRelations settings rest
      return first.toList ++ others

def readItem : Json → Except Error EagerLoad
  | .string name => .ok { relation := name }
  | other => invalid (.relationNameShape other)

def read (settings : Settings) : Json → Except Error (List EagerLoad)
  | .string name => .ok [{ relation := name }]
  | .array items => items.mapM readItem
  | .object entries => readRelations settings entries
  | other => invalid (.inclusionShape other)

end Inclusion

namespace Directive

def inclusion : String := Inclusion.directive
def filter : String := "where"
def has : String := "has"
def scopes : String := "scopes"
def fields : String := "fields"
def order : String := OrderTerm.directive
def limit : String := "limit"
def offset : String := "offset"
def skip : String := "skip"
def groupBy : String := "groupBy"
def groupBySnake : String := "group_by"
def having : String := "having"

def description : String := "description"

end Directive

structure Description where
  inclusion : Option (List EagerLoad) := none
  filters : List Filter := []
  has : List String := []
  scopes : List String := []
  fields : Option (List String) := none
  order : List OrderTerm := []
  limit : Option Int := none
  offset : Option Int := none
  groupBy : List String := []
  having : List HavingTerm := []

namespace Description

def firstPresent? (entries : List (String × Json)) : List String → Option (String × Json)
  | [] => none
  | key :: rest =>
      match Json.present? key entries with
      | some payload => some (key, payload)
      | none => firstPresent? entries rest

def directive {α : Type} (entries : List (String × Json)) (keys : List String) (default : α)
    (read : String → Json → Except Error α) : Except Error α :=
  match firstPresent? entries keys with
  | none => .ok default
  | some (key, payload) => read key payload

def ofEntries (settings : Settings) (entries : List (String × Json)) :
    Except Error Description := do
  let inclusion ← directive entries [Directive.inclusion] none fun _ payload =>
    (Inclusion.read settings payload).map some
  let filters ← directive entries [Directive.filter] [] (Filter.read settings)
  let has ← directive entries [Directive.has] [] Payload.readNames
  let scopes ← directive entries [Directive.scopes] [] Payload.readNames
  let fields ← directive entries [Directive.fields] none fun key payload =>
    (Payload.readNames key payload).map some
  let order ← directive entries [Directive.order] [] fun _ payload => OrderTerm.readList payload
  let limit ← directive entries [Directive.limit] none fun key payload =>
    (Payload.readBound key payload).map some
  let offset ← directive entries [Directive.offset, Directive.skip] none fun key payload =>
    (Payload.readBound key payload).map some
  let groupBy ← directive entries [Directive.groupBy, Directive.groupBySnake] []
    Payload.readNames
  let having ← directive entries [Directive.having] [] (HavingTerm.read settings)
  return { inclusion, filters, has, scopes, fields, order, limit, offset, groupBy, having }

def read (settings : Settings) : Json → Except Error Description
  | .object entries => ofEntries settings entries
  | other => Payload.invalid Directive.description (.descriptionShape other)

def isEmpty (description : Description) : Bool :=
  description.inclusion.isNone && description.filters.isEmpty && description.has.isEmpty &&
    description.scopes.isEmpty && description.fields.isNone && description.order.isEmpty &&
    description.limit.isNone && description.offset.isNone && description.groupBy.isEmpty &&
    description.having.isEmpty

end Description

end DeclarativeQuery
