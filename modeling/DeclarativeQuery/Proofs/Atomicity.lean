import DeclarativeQuery.Proofs.AppliedDescription

/-!
What can go wrong once a request has passed its checks. Only two calls can fail at all: a load on a
query that knows no relations, and a scope that the query does not know. Loads are checked for
before the first call, whatever runs later; scopes are not, because a scope may itself change which
scopes the query knows.
-/

namespace DeclarativeQuery

def Error.isUnknownScope : Error → Bool
  | .unknownScope _ => true
  | _ => false

namespace Outcome

def MissesOnlyScopes (outcome : Outcome) : Prop :=
  ∀ error, outcome.failure = some error → error.isUnknownScope = true

theorem Reaches.missesOnlyScopes {outcome : Outcome} {query : Query}
    (reached : outcome.Reaches query) : outcome.MissesOnlyScopes := by
  intro error failed
  rw [reached.unfailing] at failed
  contradiction

theorem MissesOnlyScopes.andThen {first : Outcome} {next : Query → Outcome}
    (head : first.MissesOnlyScopes) (tail : ∀ query, (next query).MissesOnlyScopes) :
    (first.andThen next).MissesOnlyScopes := by
  rcases first with ⟨query, events, failure⟩
  cases failure with
  | none => exact tail query
  | some error => exact head

theorem MissesOnlyScopes.inside {inner : Outcome} (within : inner.MissesOnlyScopes)
    (outer : Query) (take : Query → Query) : (inner.inside outer take).MissesOnlyScopes := by
  rcases inner with ⟨query, events, failure⟩
  cases failure with
  | none =>
      intro error failed
      cases failed
  | some error => exact within

end Outcome

namespace Call

mutual

def hasLoad : Call → Bool
  | .load _ => true
  | .group _ calls => anyLoad calls
  | .related _ _ calls => anyLoad calls
  | _ => false
termination_by structural call => call

def anyLoad : List Call → Bool
  | [] => false
  | call :: rest => call.hasLoad || anyLoad rest
termination_by structural calls => calls

end

theorem anyLoad_eq_false_iff (calls : List Call) :
    anyLoad calls = false ↔ ∀ call ∈ calls, call.hasLoad = false := by
  induction calls with
  | nil => simp [anyLoad]
  | cons call rest ih => simp [anyLoad, ih]

theorem anyLoad_append (first second : List Call) :
    anyLoad (first ++ second) = (anyLoad first || anyLoad second) := by
  induction first with
  | nil => simp [anyLoad]
  | cons call rest ih => simp [anyLoad, ih, Bool.or_assoc]

theorem anyLoad_map {Item : Type} (call : Item → Call) (items : List Item)
    (each : ∀ item, (call item).hasLoad = false) : anyLoad (items.map call) = false := by
  rw [anyLoad_eq_false_iff]
  intro made member
  obtain ⟨item, _, same⟩ := List.mem_map.mp member
  rw [← same]
  exact each item

end Call

namespace Query

open Outcome

def Harmless (invoke : Invoker) : Prop := ∀ steps query, (invoke steps query).MissesOnlyScopes

mutual

/-- The induction is on the call; a call with calls inside runs them on another query. -/
theorem perform_missesOnlyScopes {invoke : Invoker} (harmless : Harmless invoke) :
    ∀ (call : Call) (query : Query), call.hasLoad = false →
    (perform invoke query call).MissesOnlyScopes
  | .load _, _, loadless => by simp [Call.hasLoad] at loadless
  | .scope name, query, _ => by
      rw [perform]
      cases known : query.scopes.get? name with
      | some steps => exact harmless steps query
      | none =>
          intro error failed
          cases failed
          rfl
  | .group connective calls, query, loadless =>
      (performAll_missesOnlyScopes harmless calls _ loadless).inside query _
  | .related relation connective calls, query, loadless =>
      (performAll_missesOnlyScopes harmless calls _ loadless).inside query _
  | .compare .., _, _ | .between .., _, _ | .oneOf .., _, _ | .noneOf .., _, _
  | .notNull .., _, _ | .raw .., _, _ | .search .., _, _ | .hasRelated .., _, _
  | .columns _, _, _ | .order _, _, _ | .limit _, _, _ | .offset _, _, _ | .groupBy _, _, _
  | .having .., _, _ | .rawHaving .., _, _ | .searchHaving .., _, _ =>
      (done_reaches _).missesOnlyScopes
  | .report event, _, _ => (report_reaches event).missesOnlyScopes
termination_by structural call => call

theorem performAll_missesOnlyScopes {invoke : Invoker} (harmless : Harmless invoke) :
    ∀ (calls : List Call) (query : Query), Call.anyLoad calls = false →
    (performAll invoke query calls).MissesOnlyScopes
  | [], _, _ => performAll_nil_reaches.missesOnlyScopes
  | call :: rest, query, loadless => by
      simp only [Call.anyLoad, Bool.or_eq_false_iff] at loadless
      have head := perform_missesOnlyScopes harmless call query loadless.1
      exact head.andThen fun reached =>
        performAll_missesOnlyScopes harmless rest reached loadless.2
termination_by structural calls => calls

end

/-- A list of steps that skips what fails does not fail. -/
theorem stepAll_persist_failure (invoke : Invoker) (query : Query) (steps : List Step) :
    (stepAll invoke .persist query steps).failure = none := by
  induction steps generalizing query with
  | nil => rfl
  | cons step rest ih => exact ih (query.step invoke step).query

theorem invoker_failure (depth : Nat) (steps : List Step) (query : Query) :
    (invoker depth steps query).failure = none := by
  cases depth with
  | zero => rfl
  | succ depth => exact stepAll_persist_failure (invoker depth) query steps

theorem invoker_harmless (depth : Nat) : Harmless (invoker depth) := by
  intro steps query error failed
  rw [invoker_failure] at failed
  contradiction

end Query

/-! The calls of a description load relations once, at their head. -/

theorem Predicate.call_hasLoad (field : String) (connective : Connective)
    (predicate : Predicate) : (predicate.call field connective).hasLoad = false := by
  cases predicate <;> rfl

theorem Predicate.calls_anyLoad (field : String) (connective : Connective)
    (predicate : Predicate) : Call.anyLoad (predicate.calls field connective) = false := by
  simp [calls, Call.anyLoad, Call.hasLoad, call_hasLoad]

namespace Filter

mutual

theorem calls_anyLoad (connective : Connective) : ∀ filter : Filter,
    Call.anyLoad (filter.calls connective) = false
  | .leaf field predicate => predicate.calls_anyLoad field connective
  | .related relation field predicate => by
      have inside := predicate.calls_anyLoad field .and
      simp [calls, Call.anyLoad, Call.hasLoad, inside]
  | .group inner filters => by
      have inside := listCalls_anyLoad inner filters
      cases empty : filters.isEmpty <;> simp [calls, Call.anyLoad, Call.hasLoad, inside, empty]
termination_by structural filter => filter

theorem listCalls_anyLoad (connective : Connective) : ∀ filters : List Filter,
    Call.anyLoad (listCalls connective filters) = false
  | [] => rfl
  | filter :: rest => by
      rw [listCalls, Call.anyLoad_append, calls_anyLoad connective filter,
        listCalls_anyLoad connective rest]
      rfl
termination_by structural filters => filters

end

end Filter

theorem HavingTerm.call_hasLoad (term : HavingTerm) : term.call.hasLoad = false := by
  rcases term with ⟨field, predicate⟩
  cases predicate <;> rfl

namespace Description

theorem reportedCalls_anyLoad (name : String) (entries : Nat) (calls : List Call)
    (loadless : Call.anyLoad calls = false) :
    Call.anyLoad (reportedCalls name entries calls) = false := by
  cases entries <;> simp [reportedCalls, Call.anyLoad, Call.hasLoad, loadless]

theorem namedCalls_anyLoad (directive : String) (call : String → Call) (names : List String)
    (each : ∀ name, (call name).hasLoad = false) :
    Call.anyLoad (namedCalls directive call names) = false := by
  induction names with
  | nil => rfl
  | cons name rest ih =>
      rw [namedCalls, List.flatMap_cons, Call.anyLoad_append]
      simpa [namedCalls, Call.anyLoad, Call.hasLoad, each] using ih

theorem boundCalls_anyLoad (directive : String) (call : Int → Call) (bound : Option Int)
    (each : ∀ value, (call value).hasLoad = false) :
    Call.anyLoad (boundCalls directive call bound) = false := by
  cases bound <;> simp [boundCalls, Call.anyLoad, Call.hasLoad, each]

theorem fieldsCalls_anyLoad (fields : Option (List String)) :
    Call.anyLoad (fieldsCalls fields) = false := by
  cases fields <;> rfl

def laterCalls (description : Description) : List Call :=
  reportedCalls Directive.filter description.filters.length
    (Filter.listCalls .and description.filters) ++
  (namedCalls Directive.has (.hasRelated · .and) description.has ++
  (namedCalls Directive.scopes .scope description.scopes ++
  (fieldsCalls description.fields ++
  (reportedCalls Directive.order description.order.length (description.order.map .order) ++
  (boundCalls Directive.limit .limit description.limit ++
  (boundCalls Directive.offset .offset description.offset ++
  (reportedCalls Directive.groupBy description.groupBy.length (description.groupBy.map .groupBy) ++
  reportedCalls Directive.having description.having.length
    (description.having.map HavingTerm.call))))))))

theorem directiveCalls_eq (description : Description) :
    description.directiveCalls = inclusionCalls description.inclusion ++ description.laterCalls :=
  rfl

theorem laterCalls_anyLoad (description : Description) :
    Call.anyLoad description.laterCalls = false := by
  have filters := reportedCalls_anyLoad Directive.filter description.filters.length _
    (Filter.listCalls_anyLoad .and description.filters)
  have has := namedCalls_anyLoad Directive.has (.hasRelated · .and) description.has fun _ => rfl
  have scopes := namedCalls_anyLoad Directive.scopes .scope description.scopes fun _ => rfl
  have fields := fieldsCalls_anyLoad description.fields
  have order := reportedCalls_anyLoad Directive.order description.order.length _
    (Call.anyLoad_map .order description.order fun _ => rfl)
  have limit := boundCalls_anyLoad Directive.limit .limit description.limit fun _ => rfl
  have offset := boundCalls_anyLoad Directive.offset .offset description.offset fun _ => rfl
  have groupBy := reportedCalls_anyLoad Directive.groupBy description.groupBy.length _
    (Call.anyLoad_map .groupBy description.groupBy fun _ => rfl)
  have having := reportedCalls_anyLoad Directive.having description.having.length _
    (Call.anyLoad_map HavingTerm.call description.having HavingTerm.call_hasLoad)
  simp only [laterCalls, Call.anyLoad_append, filters, has, scopes, fields, order, limit, offset,
    groupBy, having, Bool.or_false]

end Description

namespace Query

open Outcome

variable {invoke : Invoker} {query : Query}

theorem description_calls_missesOnlyScopes (harmless : Harmless invoke) (description : Description)
    (aware : description.inclusion.isSome = true → query.relationAware = true) :
    (performAll invoke query description.calls).MissesOnlyScopes := by
  unfold Description.calls
  split
  · exact performAll_missesOnlyScopes harmless _ query rfl
  · rw [Description.directiveCalls_eq, performAll_append]
    exact (inclusionCalls_reaches aware).missesOnlyScopes.andThen fun reached =>
      performAll_missesOnlyScopes harmless _ reached description.laterCalls_anyLoad

/-- Whatever a request of the compiler plans, its run can fail for want of a scope only. -/
theorem planned_missesOnlyScopes (harmless : Harmless invoke) {settings : Settings}
    {payload : Json} {connective : Connective} {request : Request} {calls : List Call}
    (entry : request ∈ [.description settings payload, .checkedDescription settings payload,
      .filter settings payload connective, .inclusion settings payload])
    (planned : request.plan query.capabilities = .ok calls) :
    (performAll invoke query calls).MissesOnlyScopes := by
  simp only [List.mem_cons, List.not_mem_nil, or_false] at entry
  rcases entry with rfl | rfl | rfl | rfl
  · obtain ⟨description, _, same, aware⟩ := planDescription_ok planned
    rw [same]
    exact description_calls_missesOnlyScopes harmless description aware
  · obtain ⟨description, _, planned⟩ := bind_eq_ok_iff.mp planned
    obtain ⟨same, aware⟩ := description_plan_ok planned
    rw [same]
    exact description_calls_missesOnlyScopes harmless _ aware
  · obtain ⟨filters, _, same⟩ := map_eq_ok_iff.mp (unreported_eq_ok_iff.mp planned)
    rw [← same]
    exact performAll_missesOnlyScopes harmless _ query (Filter.listCalls_anyLoad connective filters)
  · rw [Request.plan] at planned
    split at planned
    next aware =>
      obtain ⟨loads, _, same⟩ := map_eq_ok_iff.mp (unreported_eq_ok_iff.mp planned)
      rw [← same]
      exact (performAll_cons_reaches (load_reaches aware loads)
        performAll_nil_reaches).missesOnlyScopes
    · contradiction

/-- What has failed stays failed, whatever was to come. -/
theorem performAll_failure_append {made rest : List Call} {error : Error}
    (failed : (performAll invoke query made).failure = some error) :
    (performAll invoke query (made ++ rest)).failure = some error := by
  rw [performAll_append, andThen, failed]
  exact failed

/-- A request to the compiler that fails for anything but the want of a scope leaves the query as it
was. Its error stems from the checks: once these are passed, nothing else can fail at any point of
the run, however many of the planned calls have been made. -/
theorem refused_request_changes_nothing (depth : Nat) (query : Query) (settings : Settings)
    (payload : Json) (connective : Connective) (request : Request)
    (entry : request ∈ [.description settings payload, .checkedDescription settings payload,
      .filter settings payload connective, .inclusion settings payload]) :
    (∀ error, (query.ask (invoker depth) request).failure = some error →
      error.isUnknownScope = false → (query.ask (invoker depth) request).query = query) ∧
    (∀ made rest, request.plan query.capabilities = .ok (made ++ rest) → ∀ error,
      (performAll (invoker depth) query made).failure = some error →
        error.isUnknownScope = true) := by
  constructor
  · intro error failed other
    unfold ask at failed ⊢
    cases planned : request.plan query.capabilities with
    | error rejection => rfl
    | ok calls =>
        -- past the checks only a scope can be missing, so the error was not raised here
        rw [planned] at failed
        have missing := planned_missesOnlyScopes (invoker_harmless depth) entry planned error failed
        rw [other] at missing
        contradiction
  · intro made rest planned error failed
    exact planned_missesOnlyScopes (invoker_harmless depth) entry planned error
      (performAll_failure_append failed)

def narrowRange : Json := .object [
  ("include", .string "posts"),
  ("where", .object [
    ("name", .string "a"),
    ("or", .object [("Age", .object [("between", .array [.whole 1])])])]),
  ("limit", .whole 3)]

theorem wrong_arity_changes_nothing :
    let started := (entity "users").addWhere (.notNull "id") .and
    let request := Request.description {} narrowRange
    request ∈ [.description {} narrowRange, .checkedDescription {} narrowRange,
      .filter {} narrowRange .and, .inclusion {} narrowRange] ∧
    (started.ask (invoker scopeDepth) request).failure =
      some (.operatorArity "age" "between" 2 1) ∧
    (started.ask (invoker scopeDepth) request).query = started := by
  intro started request
  have entry : request ∈ [.description {} narrowRange, .checkedDescription {} narrowRange,
      .filter {} narrowRange .and, .inclusion {} narrowRange] := List.mem_cons_self
  have failed : (started.ask (invoker scopeDepth) request).failure =
      some (.operatorArity "age" "between" 2 1) := rfl
  have kept := refused_request_changes_nothing scopeDepth started {} narrowRange .and request entry
  exact ⟨entry, failed, kept.1 _ failed rfl⟩

end Query

end DeclarativeQuery
