import DeclarativeQuery.Proofs.Reaching

/-!
What a filter adds to a query, as data. Every filter that holds a predicate becomes one condition;
a group that holds none at any depth becomes nothing. Conditions depend on the query only through
its dialect and through what its relation names stand for, and both are the same on the queries
that groups and related sets are built on.
-/

namespace DeclarativeQuery

def Connective.clauses (connective : Connective) (conditions : List Condition) : List Clause :=
  conditions.map fun condition => ⟨condition, connective⟩

theorem Connective.clauses_append (connective : Connective) (first second : List Condition) :
    connective.clauses (first ++ second) = connective.clauses first ++ connective.clauses second :=
  List.map_append

def Predicate.condition (dialect : Dialect) (field : String) : Predicate → Condition
  | .compare operator value => .compare field operator value
  | .between lower upper => .between field lower upper
  | .oneOf values => .oneOf field values
  | .noneOf values => .noneOf field values
  | .notNull => .notNull field
  | .search pattern => dialect.searchCondition field pattern

namespace Filter

section Conditions
variable (dialect : Dialect) (target : String → Relation)

def relatedCondition (relation field : String) (predicate : Predicate) : Condition :=
  .related relation (target relation) (Connective.and.clauses [predicate.condition dialect field])

mutual

def condition? : Filter → Option Condition
  | .group inner filters =>
      let inside := conditions filters
      if inside.isEmpty then none else some (.nested (inner.clauses inside))
  | .leaf field predicate => some (predicate.condition dialect field)
  | .related relation field predicate =>
      some (relatedCondition dialect target relation field predicate)
termination_by structural filter => filter

def conditions : List Filter → List Condition
  | [] => []
  | filter :: rest => filter.condition?.toList ++ conditions rest
termination_by structural filters => filters

end

/-- Predicates on one field of related records ask for the relation once each. -/
theorem conditions_map_related (relation field : String) (predicates : List Predicate) :
    conditions dialect target (predicates.map (.related relation field)) =
      predicates.map (relatedCondition dialect target relation field) := by
  induction predicates with
  | nil => rfl
  | cons predicate rest ih => simp [conditions, condition?, ih]

end Conditions

end Filter

namespace Query

open Outcome

variable {invoke : Invoker}

def addWheres (query : Query) (clauses : List Clause) : Query :=
  { query with wheres := query.wheres ++ clauses }

@[simp]
theorem addWheres_nil (query : Query) : query.addWheres [] = query := by
  simp [addWheres]

@[simp]
theorem addWheres_addWheres (query : Query) (first second : List Clause) :
    (query.addWheres first).addWheres second = query.addWheres (first ++ second) := by
  simp [addWheres]

theorem addWhere_eq_addWheres (query : Query) (condition : Condition) (connective : Connective) :
    query.addWhere condition connective = query.addWheres (connective.clauses [condition]) := rfl

abbrev filterConditions (query : Query) (filters : List Filter) : List Condition :=
  Filter.conditions query.dialect query.relationTarget filters

theorem predicate_calls_reaches (invoke : Invoker) (query : Query) (field : String)
    (connective : Connective) (predicate : Predicate) :
    (performAll invoke query (predicate.calls field connective)).Reaches
      (query.addWhere (predicate.condition query.dialect field) connective) := by
  apply performAll_cons_reaches (report_reaches _)
  apply performAll_cons_reaches _ performAll_nil_reaches
  cases predicate with
  | search pattern => exact perform_search invoke query field pattern connective ▸ done_reaches _
  | _ => exact done_reaches _

theorem related_calls_reaches (query : Query) (relation field : String) (connective : Connective)
    (predicate : Predicate) :
    (performAll invoke query
      [.report (.relatedPredicate relation field),
        .related relation connective (predicate.calls field .and)]).Reaches
      (query.addWhere (Filter.relatedCondition query.dialect query.relationTarget relation field
        predicate) connective) := by
  apply performAll_cons_reaches (report_reaches _)
  apply performAll_cons_reaches _ performAll_nil_reaches
  have inner := predicate_calls_reaches invoke
    (query.subquery (query.relationTarget relation).table) field .and predicate
  exact inner.inside query fun inner => query.addRelated relation inner.wheres connective

/-- Members that hold no predicate leave no clauses, and a group of none is not added. -/
theorem addNested_eq_addWheres (query : Query) (inner connective : Connective)
    (filters : List Filter) :
    query.addNested (inner.clauses (query.filterConditions filters)) connective =
      query.addWheres (connective.clauses
        ((Filter.group inner filters).condition? query.dialect query.relationTarget).toList) := by
  cases inside : query.filterConditions filters with
  | nil => simp [Filter.condition?, inside, addNested, Connective.clauses]
  | cons condition others =>
      simp [Filter.condition?, inside, addNested, Connective.clauses, addWhere, addWheres]

mutual

/-- The induction is on the filter; the query is free, since a group goes on with one of its own. -/
theorem filter_calls_reaches (query : Query) (connective : Connective) : ∀ filter : Filter,
    (performAll invoke query (filter.calls connective)).Reaches
      (query.addWheres (connective.clauses
        (filter.condition? query.dialect query.relationTarget).toList))
  | .leaf field predicate => predicate_calls_reaches invoke query field connective predicate
  | .related relation field predicate =>
      related_calls_reaches query relation field connective predicate
  | .group inner [] => by
      simpa [Filter.calls, Filter.condition?, Filter.conditions, Connective.clauses] using
        performAll_nil_reaches
  | .group inner (first :: rest) => by
      -- the subquery has the dialect and the relations of the query, so its conditions are the same
      have members := filter_listCalls_reaches (query.subquery query.table) inner (first :: rest)
      have taken := members.inside query fun reached => query.addNested reached.wheres connective
      rw [← addNested_eq_addWheres]
      exact performAll_cons_reaches (report_reaches _)
        (performAll_cons_reaches taken performAll_nil_reaches)
termination_by structural filter => filter

theorem filter_listCalls_reaches (query : Query) (connective : Connective) :
    ∀ filters : List Filter,
    (performAll invoke query (Filter.listCalls connective filters)).Reaches
      (query.addWheres (connective.clauses (query.filterConditions filters)))
  | [] => by
      simpa [Filter.listCalls, Filter.conditions, Connective.clauses] using performAll_nil_reaches
  | filter :: rest => by
      have first := filter_calls_reaches query connective filter
      have others := filter_listCalls_reaches
        (query.addWheres (connective.clauses
          (filter.condition? query.dialect query.relationTarget).toList)) connective rest
      rw [addWheres_addWheres, ← Connective.clauses_append] at others
      exact performAll_append_reaches first others
termination_by structural filters => filters

end

/-- Compiling an accepted filter succeeds and only appends to the clauses. -/
theorem ask_filter_reaches (invoke : Invoker) (query : Query) (settings : Settings)
    (payload : Json) (filters : List Filter) (connective : Connective)
    (read : Filter.read settings Directive.filter payload = .ok filters) :
    (query.ask invoke (.filter settings payload connective)).Reaches
      (query.addWheres (connective.clauses (query.filterConditions filters))) := by
  have planned : (Request.filter settings payload connective).plan query.capabilities =
      .ok (Filter.listCalls connective filters) := by
    rw [Request.plan, read]
    rfl
  rw [ask, planned]
  exact filter_listCalls_reaches query connective filters

end Query

end DeclarativeQuery
