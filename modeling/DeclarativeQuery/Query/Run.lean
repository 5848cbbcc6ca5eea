import DeclarativeQuery.Query.Basic

/-!
Carrying out calls and steps on a query. Everything that was done before a failure stays done, but a
group or a related set whose inside fails is not added. A scope is a list of steps that may invoke
scopes in turn, so how deep they do is bounded.
-/

namespace DeclarativeQuery

structure Outcome where
  query : Query
  events : List Event := []
  failure : Option Error := none

namespace Outcome

def done (query : Query) : Outcome := { query }

def failed (query : Query) (error : Error) : Outcome := { query, failure := some error }

def andThen (first : Outcome) (next : Query → Outcome) : Outcome :=
  match first.failure with
  | some _ => first
  | none =>
      let second := next first.query
      { second with events := first.events ++ second.events }

def regardless (first : Outcome) (next : Query → Outcome) : Outcome :=
  let second := next first.query
  { second with events := first.events ++ second.events }

/-- The run on an inner query, taken into the outer one by `take` if it succeeded. -/
def inside (inner : Outcome) (outer : Query) (take : Query → Query) : Outcome :=
  match inner.failure with
  | some _ => { inner with query := outer }
  | none => { inner with query := take inner.query }

theorem andThen_assoc (outcome : Outcome) (next last : Query → Outcome) :
    (outcome.andThen next).andThen last =
      outcome.andThen fun query => (next query).andThen last := by
  obtain ⟨query, events, failure⟩ := outcome
  cases failure with
  | some error => rfl
  | none =>
      simp only [andThen]
      cases second : (next query).failure <;> simp [second]

end Outcome

namespace Query

def load (query : Query) (loads : List EagerLoad) : Outcome :=
  if query.relationAware then .done (query.addLoads loads)
  else .failed query (.unsupportedCapability
    ("relation inclusion on plain query builder for '" ++ query.table ++ "'"))

abbrev Invoker := List Step → Query → Outcome

/-- What a call does that needs nothing but the query. The calls that make queries of their own, may
fail or depend on the dialect are carried out by `perform`. -/
def update (query : Query) : Call → Query
  | .compare field operator value connective =>
      query.addWhere (.compare field operator value) connective
  | .between field lower upper connective => query.addWhere (.between field lower upper) connective
  | .oneOf field values connective => query.addWhere (.oneOf field values) connective
  | .noneOf field values connective => query.addWhere (.noneOf field values) connective
  | .notNull field connective => query.addWhere (.notNull field) connective
  | .raw expression binding connective => query.addWhere (.raw expression (some binding)) connective
  | .hasRelated relation connective => query.addRelated relation [] connective
  | .columns names => { query with columns := names }
  | .order term => query.addOrder term
  | .limit bound => query.setLimit bound
  | .offset bound => query.setOffset bound
  | .groupBy field => query.addGroup field
  | .having field operator value connective =>
      query.addHaving (havingCondition field operator value) connective
  | .rawHaving expression binding connective =>
      query.addHaving (.raw expression (some binding)) connective
  | .search .. | .searchHaving .. | .group .. | .related .. => query
  | .load _ | .scope _ | .report _ => query

mutual

/-- A search is handed on as the call that the dialect makes of it. -/
def perform (invoke : Invoker) (query : Query) : Call → Outcome
  | .search field pattern connective =>
      .done (query.update (query.dialect.likeStrategy.searchCall field pattern connective))
  | .searchHaving field pattern =>
      .done (query.update (query.dialect.likeStrategy.searchHavingCall field pattern))
  | .group connective calls =>
      (performAll invoke (query.subquery query.table) calls).inside query fun inner =>
        query.addNested inner.wheres connective
  | .related relation connective calls =>
      (performAll invoke (query.subquery (query.relationTarget relation).table) calls).inside query
        fun inner => query.addRelated relation inner.wheres connective
  | .load loads => query.load loads
  | .scope name =>
      match query.scopes.get? name with
      | some steps => invoke steps query
      | none => .failed query (.unknownScope name)
  | .report event => { query, events := [event] }
  | call => .done (query.update call)
termination_by structural call => call

def performAll (invoke : Invoker) (query : Query) : List Call → Outcome
  | [] => .done query
  | call :: rest => (perform invoke query call).andThen fun query => performAll invoke query rest
termination_by structural calls => calls

end

theorem performAll_append (invoke : Invoker) (query : Query) (first second : List Call) :
    performAll invoke query (first ++ second) =
      (performAll invoke query first).andThen fun query => performAll invoke query second := by
  induction first generalizing query with
  | nil => simp [performAll, Outcome.andThen, Outcome.done]
  | cons call rest ih =>
      simp only [List.cons_append, performAll, ih]
      exact (Outcome.andThen_assoc _ _ _).symm

def withoutScopes : Invoker := fun _ query => .done query

/-- Builds the query over the records of a loaded relation, with the relation's own
configuration; nothing when the relation is not loaded. -/
def materialize (query : Query) (relation : String) : Option Outcome :=
  (query.loads.find? fun load => load.relation == relation).map fun load =>
    let start := { entity (query.relationTarget relation).table with
      dialect := query.dialect
      relations := query.relations }
    match load.config with
    | none => .done start
    | some config => performAll withoutScopes start config.calls

def relationQuery (query : Query) (relation : String) : Except Error (Option Query) :=
  match query.materialize relation with
  | none => .ok none
  | some outcome =>
      match outcome.failure with
      | some error => .error error
      | none => .ok (some outcome.query)

def enter (query : Query) (relation : String) : Outcome :=
  match query.materialize relation with
  | some outcome => outcome.inside query id
  | none => .done query

def inspect (query : Query) (relation : String) : Outcome :=
  match query.materialize relation with
  | some outcome => { outcome with query }
  | none => .done query

def ask (query : Query) (invoke : Invoker) (request : Request) : Outcome :=
  match request.plan query.capabilities with
  | .ok calls => performAll invoke query calls
  | .error rejection => { query, events := rejection.events, failure := some rejection.error }

mutual

def step (invoke : Invoker) (query : Query) : Step → Outcome
  | .calls calls => performAll invoke query calls
  | .request request => ask query invoke request
  | .group policy connective steps =>
      (stepAll invoke policy (query.subquery query.table) steps).inside query fun inner =>
        query.addNested inner.wheres connective
  | .related policy relation connective steps =>
      (stepAll invoke policy (query.subquery (query.relationTarget relation).table) steps).inside
        query fun inner => query.addRelated relation inner.wheres connective
  | .setDialect dialect => .done { query with dialect }
  | .addRelation name relation => .done (query.addRelation name relation)
  | .setScopes scopes => .done { query with scopes := Registry.ofList scopes }
  | .enter relation => query.enter relation
  | .inspect relation => query.inspect relation
termination_by structural step => step

def stepAll (invoke : Invoker) (policy : Policy) (query : Query) : List Step → Outcome
  | [] => .done query
  | first :: rest =>
      let outcome := step invoke query first
      let next := fun query => stepAll invoke policy query rest
      match policy with
      | .stop => outcome.andThen next
      | .persist => outcome.regardless next
termination_by structural steps => steps

end

/-- Scopes that invoke scopes do so `depth` deep; below that a scope does nothing. -/
def invoker : Nat → Invoker
  | 0 => withoutScopes
  | depth + 1 => fun steps query => stepAll (invoker depth) .persist query steps

/-- Deeper than any chain of scopes that comes to an end by itself is expected to be. -/
def scopeDepth : Nat := 4096

def run (query : Query) (step : Step) : Outcome := query.step (invoker scopeDepth) step

def runScope (query : Query) (steps : List Step) : Outcome := invoker scopeDepth steps query

def apply (query : Query) (settings : Settings) (description : Json) : Outcome :=
  query.ask (invoker scopeDepth) (.description settings description)

end Query

end DeclarativeQuery
