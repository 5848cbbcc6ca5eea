import DeclarativeQuery.Proofs.DescriptionReading
import DeclarativeQuery.Proofs.FilterConditions

/-!
The query that a description without scopes leaves behind, in closed form. Each directive touches a
part of the query of its own, and none of them changes what the later ones look at: the dialect and
the relations.
-/

namespace DeclarativeQuery

def HavingTerm.condition (dialect : Dialect) (term : HavingTerm) : Condition :=
  match term.predicate with
  | .compare operator value => Query.havingCondition term.field operator value
  | predicate => predicate.condition dialect term.field

namespace Description

def callsBeforeScopes (description : Description) : List Call :=
  inclusionCalls description.inclusion ++
  (reportedCalls Directive.filter description.filters.length
    (Filter.listCalls .and description.filters) ++
  namedCalls Directive.has (.hasRelated · .and) description.has)

def callsAfterScopes (description : Description) : List Call :=
  fieldsCalls description.fields ++
  (reportedCalls Directive.order description.order.length (description.order.map .order) ++
  (boundCalls Directive.limit .limit description.limit ++
  (boundCalls Directive.offset .offset description.offset ++
  (reportedCalls Directive.groupBy description.groupBy.length (description.groupBy.map .groupBy) ++
  reportedCalls Directive.having description.having.length
    (description.having.map HavingTerm.call)))))

theorem directiveCalls_eq_scopes (description : Description) :
    description.directiveCalls = description.callsBeforeScopes ++
      (namedCalls Directive.scopes .scope description.scopes ++ description.callsAfterScopes) := by
  simp only [directiveCalls, callsBeforeScopes, callsAfterScopes, List.append_assoc]

end Description

namespace Query

open Outcome

variable {invoke : Invoker} {query : Query}

def presence (query : Query) (relation : String) : Condition :=
  .related relation (query.relationTarget relation) []

def boundedPaging (paging : Option Paging) (limit offset : Option Int) : Option Paging :=
  let limited := limit.elim paging fun bound => some { paging.getD {} with limit := some bound }
  offset.elim limited fun bound => some { limited.getD {} with offset := some bound }

/-- The query after a description that names no scopes. -/
def withDescription (query : Query) (description : Description) : Query :=
  { query with
    loads := (query.addLoads (description.inclusion.getD [])).loads
    wheres := query.wheres ++ Connective.and.clauses (query.filterConditions description.filters) ++
      Connective.and.clauses (description.has.map query.presence)
    columns := description.fields.getD query.columns
    orders := query.orders ++ description.order
    paging := boundedPaging query.paging description.limit description.offset
    groups := query.groups ++ description.groupBy
    havings := query.havings ++
      Connective.and.clauses (description.having.map (HavingTerm.condition query.dialect)) }

theorem withDescription_filters (query : Query) (filters : List Filter) :
    query.withDescription { filters } =
      query.addWheres (Connective.and.clauses (query.filterConditions filters)) := by
  simp [withDescription, addWheres, addLoads, Connective.clauses, boundedPaging]

theorem withDescription_loads (query : Query) (loads : List EagerLoad) :
    query.withDescription { inclusion := loads } = query.addLoads loads := by
  simp [withDescription, addLoads, Filter.conditions, Connective.clauses, boundedPaging]

/-! What the calls of one directive do. -/

theorem load_reaches (aware : query.relationAware = true) (loads : List EagerLoad) :
    (perform invoke query (.load loads)).Reaches (query.addLoads loads) := by
  rw [perform, load, aware]
  exact done_reaches _

theorem ask_load_reaches {request : Request} {loads : List EagerLoad}
    (aware : query.relationAware = true)
    (planned : request.plan query.capabilities = .ok [.load loads]) :
    (query.ask invoke request).Reaches (query.addLoads loads) := by
  rw [ask, planned]
  exact performAll_cons_reaches (load_reaches aware loads) performAll_nil_reaches

theorem inclusionCalls_reaches {inclusion : Option (List EagerLoad)}
    (aware : inclusion.isSome = true → query.relationAware = true) :
    (performAll invoke query (Description.inclusionCalls inclusion)).Reaches
      (query.addLoads (inclusion.getD [])) := by
  cases inclusion with
  | none => exact performAll_nil_reaches
  | some loads =>
      apply performAll_cons_reaches (report_reaches _)
      cases loads with
      | nil => exact performAll_nil_reaches
      | cons load rest =>
          exact performAll_cons_reaches (load_reaches (aware rfl) _) performAll_nil_reaches

theorem reportedCalls_reaches {name : String} {entries : Nat} {calls : List Call} {last : Query}
    (none : entries = 0 → calls = []) (reached : (performAll invoke query calls).Reaches last) :
    (performAll invoke query (Description.reportedCalls name entries calls)).Reaches last := by
  unfold Description.reportedCalls
  split
  next empty => rwa [none empty] at reached
  next => exact performAll_cons_reaches (report_reaches _) reached

theorem hasCalls_reaches (names : List String) :
    (performAll invoke query
      (Description.namedCalls Directive.has (.hasRelated · .and) names)).Reaches
      (query.addWheres (Connective.and.clauses (names.map query.presence))) := by
  induction names generalizing query with
  | nil =>
      simpa [Description.namedCalls, Connective.clauses] using performAll_nil_reaches
  | cons name rest ih =>
      have onward := @ih (query.addRelated name [] .and)
      rw [addRelated, addWhere_eq_addWheres, addWheres_addWheres] at onward
      apply performAll_cons_reaches (report_reaches _)
      exact performAll_cons_reaches (done_reaches _) onward

theorem fieldsCalls_reaches (fields : Option (List String)) :
    (performAll invoke query (Description.fieldsCalls fields)).Reaches
      { query with columns := fields.getD query.columns } := by
  cases fields with
  | none => exact performAll_nil_reaches
  | some names =>
      apply performAll_cons_reaches (report_reaches _)
      exact performAll_cons_reaches (done_reaches _) performAll_nil_reaches

theorem limitCalls_reaches (limit : Option Int) :
    (performAll invoke query (Description.boundCalls Directive.limit .limit limit)).Reaches
      { query with paging := boundedPaging query.paging limit none } := by
  cases limit with
  | none => exact performAll_nil_reaches
  | some bound =>
      apply performAll_cons_reaches (report_reaches _)
      exact performAll_cons_reaches (done_reaches _) performAll_nil_reaches

theorem offsetCalls_reaches (offset : Option Int) :
    (performAll invoke query (Description.boundCalls Directive.offset .offset offset)).Reaches
      { query with paging := boundedPaging query.paging none offset } := by
  cases offset with
  | none => exact performAll_nil_reaches
  | some bound =>
      apply performAll_cons_reaches (report_reaches _)
      exact performAll_cons_reaches (done_reaches _) performAll_nil_reaches

theorem orderCalls_reaches (terms : List OrderTerm) :
    (performAll invoke query (terms.map .order)).Reaches
      { query with orders := query.orders ++ terms } := by
  induction terms generalizing query with
  | nil => simpa using performAll_nil_reaches
  | cons term rest ih =>
      have onward := @ih (query.addOrder term)
      rw [addOrder, List.append_assoc] at onward
      exact performAll_cons_reaches (done_reaches _) onward

theorem groupByCalls_reaches (fields : List String) :
    (performAll invoke query (fields.map .groupBy)).Reaches
      { query with groups := query.groups ++ fields } := by
  induction fields generalizing query with
  | nil => simpa using performAll_nil_reaches
  | cons field rest ih =>
      have onward := @ih (query.addGroup field)
      rw [addGroup, List.append_assoc] at onward
      exact performAll_cons_reaches (done_reaches _) onward

theorem havingCall_reaches (term : HavingTerm) :
    (perform invoke query term.call).Reaches
      (query.addHaving (term.condition query.dialect) .and) := by
  rcases term with ⟨field, predicate⟩
  cases predicate with
  | search pattern => exact perform_searchHaving invoke query field pattern ▸ done_reaches _
  | _ => exact done_reaches _

theorem havingCalls_reaches (terms : List HavingTerm) :
    (performAll invoke query (terms.map HavingTerm.call)).Reaches
      { query with havings := query.havings ++
          Connective.and.clauses (terms.map (HavingTerm.condition query.dialect)) } := by
  induction terms generalizing query with
  | nil => simpa [Connective.clauses] using performAll_nil_reaches
  | cons term rest ih =>
      have onward := @ih (query.addHaving (term.condition query.dialect) .and)
      rw [addHaving, List.append_assoc] at onward
      exact performAll_cons_reaches (havingCall_reaches term) onward

/-! The whole description. -/

theorem withDescription_isEmpty {description : Description} (empty : description.isEmpty = true) :
    query.withDescription description = query := by
  obtain ⟨inclusion, filters, has, scopes, fields, order, limit, offset, groupBy, having⟩ :=
    description
  simp only [Description.isEmpty, Bool.and_eq_true, Option.isNone_iff_eq_none,
    List.isEmpty_iff] at empty
  obtain ⟨⟨⟨⟨⟨⟨⟨⟨⟨rfl, rfl⟩, rfl⟩, _⟩, rfl⟩, rfl⟩, rfl⟩, rfl⟩, rfl⟩, rfl⟩ := empty
  simp [withDescription, addLoads, Filter.conditions, Connective.clauses, boundedPaging]

/-- What comes before the scopes of a description adds loads and clauses. -/
theorem callsBeforeScopes_reaches {description : Description}
    (aware : description.inclusion.isSome = true → query.relationAware = true) :
    (performAll invoke query description.callsBeforeScopes).Reaches
      (((query.addLoads (description.inclusion.getD [])).addWheres
        (Connective.and.clauses (query.filterConditions description.filters))).addWheres
          (Connective.and.clauses (description.has.map query.presence))) := by
  have void : description.filters.length = 0 → Filter.listCalls .and description.filters = [] := by
    intro none
    rw [List.length_eq_zero_iff.mp none, Filter.listCalls]
  refine performAll_append_reaches (inclusionCalls_reaches aware) ?_
  refine performAll_append_reaches (reportedCalls_reaches void (filter_listCalls_reaches _ _ _)) ?_
  exact hasCalls_reaches _

/-- What comes after them leaves loads and clauses alone. -/
theorem callsAfterScopes_reaches (description : Description) :
    (performAll invoke query description.callsAfterScopes).Reaches
      { query with
        columns := description.fields.getD query.columns
        orders := query.orders ++ description.order
        paging := boundedPaging query.paging description.limit description.offset
        groups := query.groups ++ description.groupBy
        havings := query.havings ++
          Connective.and.clauses
            (description.having.map (HavingTerm.condition query.dialect)) } := by
  have counted : ∀ {Item : Type} (items : List Item) (call : Item → Call),
      items.length = 0 → items.map call = [] := by
    intro Item items call none
    rw [List.length_eq_zero_iff.mp none, List.map_nil]
  -- one step for each directive, in their order
  refine performAll_append_reaches (fieldsCalls_reaches _) ?_
  refine performAll_append_reaches
    (reportedCalls_reaches (counted _ _) (orderCalls_reaches _)) ?_
  refine performAll_append_reaches (limitCalls_reaches _) ?_
  refine performAll_append_reaches (offsetCalls_reaches _) ?_
  refine performAll_append_reaches
    (reportedCalls_reaches (counted _ _) (groupByCalls_reaches _)) ?_
  exact reportedCalls_reaches (counted _ _) (havingCalls_reaches _)

theorem directiveCalls_reaches {description : Description} (scopeless : description.scopes = [])
    (aware : description.inclusion.isSome = true → query.relationAware = true) :
    (performAll invoke query description.directiveCalls).Reaches
      (query.withDescription description) := by
  rw [Description.directiveCalls_eq_scopes, scopeless]
  refine performAll_append_reaches (callsBeforeScopes_reaches aware) ?_
  exact performAll_append_reaches performAll_nil_reaches (callsAfterScopes_reaches description)

theorem description_calls_reaches {description : Description}
    (scopeless : description.scopes = [])
    (aware : description.inclusion.isSome = true → query.relationAware = true) :
    (performAll invoke query description.calls).Reaches (query.withDescription description) := by
  unfold Description.calls
  split
  -- an empty description is only reported, and its closed form adds nothing
  next empty =>
    refine Reaches.to ?_ (withDescription_isEmpty empty).symm
    exact performAll_cons_reaches (report_reaches _) performAll_nil_reaches
  next => exact directiveCalls_reaches scopeless aware

/-- What passes the checks was read, and asks for no inclusion where there can be none. -/
theorem description_plan_ok {description : Description} {calls : List Call}
    (planned : description.plan query.capabilities = .ok calls) :
    calls = description.calls ∧
      (description.inclusion.isSome = true → query.relationAware = true) := by
  unfold Description.plan at planned
  split at planned
  · contradiction
  next supported =>
  split at planned
  · contradiction
  · cases planned
    refine ⟨rfl, ?_⟩
    intro included
    simpa [included, capabilities] using supported

theorem planDescription_read {settings : Settings} {payload : Json} {calls : List Call}
    (planned : Request.planDescription query.capabilities settings payload = .ok calls) :
    ∃ description, Description.read settings payload = .ok description ∧
      description.plan query.capabilities = .ok calls := by
  unfold Request.planDescription at planned
  split at planned
  · contradiction
  cases read : Description.read settings payload with
  | error error => simp [read] at planned
  | ok description =>
      rw [read] at planned
      exact ⟨description, rfl, planned⟩

theorem planDescription_ok {settings : Settings} {payload : Json} {calls : List Call}
    (planned : Request.planDescription query.capabilities settings payload = .ok calls) :
    ∃ description, Description.read settings payload = .ok description ∧
      calls = description.calls ∧
      (description.inclusion.isSome = true → query.relationAware = true) := by
  obtain ⟨description, read, planned⟩ := planDescription_read planned
  exact ⟨description, read, description_plan_ok planned⟩

theorem apply_of_refused {settings : Settings} {payload : Json} {rejection : Rejection}
    (refused : Request.planDescription query.capabilities settings payload = .error rejection) :
    query.apply settings payload =
      { query, events := rejection.events, failure := some rejection.error } := by
  simp only [apply, ask, Request.plan, refused]

theorem apply_of_planned {settings : Settings} {payload : Json} {calls : List Call}
    (planned : Request.planDescription query.capabilities settings payload = .ok calls) :
    query.apply settings payload = performAll (invoker scopeDepth) query calls := by
  simp only [apply, ask, Request.plan, planned]

/-- A description without scopes takes effect, provided that an inclusion is asked of a query that
knows relations. -/
theorem ask_of_read (invoke : Invoker) {settings : Settings} {payload : Json}
    {description : Description} (read : Description.read settings payload = .ok description)
    (scopeless : description.scopes = [])
    (aware : description.inclusion.isSome = true → query.relationAware = true) :
    (query.ask invoke (.description settings payload)).Reaches
      (query.withDescription description) := by
  obtain ⟨entries, mapping, reads⟩ := Description.read_ok read
  have wanted : Request.wantsInclusion payload = description.inclusion.isSome := by
    rw [mapping, reads.inclusion_isSome]
    rfl
  have supported : (description.inclusion.isSome && !query.relationAware) = false := by
    cases included : description.inclusion.isSome with
    | false => rfl
    | true => rw [aware included, Bool.not_true, Bool.and_false]
  have planned : (Request.description settings payload).plan query.capabilities =
      .ok description.calls := by
    simp [Request.plan, Request.planDescription, Description.plan, capabilities, wanted, supported,
      read, scopeless]
  rw [ask, planned]
  exact description_calls_reaches scopeless aware

theorem apply_of_read {settings : Settings} {payload : Json} {description : Description}
    (read : Description.read settings payload = .ok description)
    (scopeless : description.scopes = []) (aware : query.relationAware = true) :
    (query.apply settings payload).Reaches (query.withDescription description) :=
  ask_of_read (invoker scopeDepth) read scopeless fun _ => aware

/-- A description that a query takes was read, and if it names no scopes its effect is known. -/
theorem apply_reaches {settings : Settings} {payload : Json}
    (accepted : (query.apply settings payload).failure = none) :
    ∃ description, Description.read settings payload = .ok description ∧
      (description.scopes = [] →
        (query.apply settings payload).Reaches (query.withDescription description)) := by
  cases planned : Request.planDescription query.capabilities settings payload with
  | error rejection => simp [apply_of_refused planned] at accepted
  | ok calls =>
      obtain ⟨description, read, same, aware⟩ := planDescription_ok planned
      refine ⟨description, read, ?_⟩
      intro scopeless
      rw [apply_of_planned planned, same]
      exact description_calls_reaches scopeless aware

end Query

end DeclarativeQuery
