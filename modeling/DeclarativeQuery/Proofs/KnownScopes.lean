import DeclarativeQuery.Proofs.Atomicity
import DeclarativeQuery.Proofs.QueryEdits

/-!
Scopes are looked up twice: all of them before the first call, and each again when its turn comes.
In between, earlier scopes have run, and a scope may replace the scopes that the query knows. A
request that fails for want of a scope has either changed nothing, or one of its scopes was there
at first and is gone in the end. Where no scope installs others the second cannot happen.
-/

namespace DeclarativeQuery

namespace Query

open Outcome

variable {invoke : Invoker} {query middle : Query}

/-- What follows a run that succeeded decides how the whole ends. -/
theorem append_of_reaches {before : List Call}
    (first : (performAll invoke query before).Reaches middle) (after : List Call) :
    (performAll invoke query (before ++ after)).failure =
        (performAll invoke middle after).failure ∧
      (performAll invoke query (before ++ after)).query =
        (performAll invoke middle after).query := by
  rw [performAll_append, andThen, first.unfailing, first.query_eq]
  exact ⟨rfl, rfl⟩

/-- A run that failed is the end of the whole. -/
theorem append_of_failure {before : List Call} {error : Error}
    (failed : (performAll invoke query before).failure = some error) (after : List Call) :
    performAll invoke query (before ++ after) = performAll invoke query before := by
  rw [performAll_append, andThen, failed]

theorem scopeCall_reaches {name : String} {steps : List Step}
    (known : query.scopes.get? name = some steps)
    (unfailing : (invoke steps query).failure = none) :
    (performAll invoke query [.report (.directive Directive.scopes 1), .scope name]).Reaches
      (invoke steps query).query := by
  apply performAll_cons_reaches (report_reaches _)
  refine performAll_cons_reaches ?_ performAll_nil_reaches
  rw [perform, known]
  exact ⟨rfl, unfailing⟩

theorem scopeCall_missing {name : String} (missing : query.scopes.get? name = none) :
    performAll invoke query [.report (.directive Directive.scopes 1), .scope name] =
      { query
        events := [.directive Directive.scopes 1]
        failure := some (.unknownScope name) } := by
  simp [performAll, perform, missing, andThen, Outcome.failed]

/-- A scope whose turn has come fails only if the query does not know it then. -/
theorem scopeCalls_failure (unfailing : ∀ steps query, (invoke steps query).failure = none)
    {names : List String} {error : Error}
    (failed : (performAll invoke query
      (Description.namedCalls Directive.scopes .scope names)).failure = some error) :
    ∃ name ∈ names, error = .unknownScope name ∧
      (performAll invoke query
        (Description.namedCalls Directive.scopes .scope names)).query.scopes.contains name =
          false := by
  induction names generalizing query with
  | nil => cases failed
  | cons name rest ih =>
      have split : Description.namedCalls Directive.scopes .scope (name :: rest) =
          [.report (.directive Directive.scopes 1), .scope name] ++
            Description.namedCalls Directive.scopes .scope rest := rfl
      rw [split] at failed ⊢
      -- what the scopes before this one have done to the registry is in `query`
      cases known : query.scopes.get? name with
      | none =>
          have missing : (performAll invoke query [.report (.directive Directive.scopes 1),
              .scope name]) = _ := scopeCall_missing known
          rw [append_of_failure (by rw [missing]), missing] at failed ⊢
          cases failed
          refine ⟨name, List.mem_cons_self, rfl, ?_⟩
          rw [Registry.contains, known, Option.isSome_none]
      | some steps =>
          have onward := append_of_reaches (scopeCall_reaches known (unfailing steps query))
            (Description.namedCalls Directive.scopes .scope rest)
          rw [onward.1] at failed
          obtain ⟨lost, member, same, gone⟩ := ih failed
          rw [onward.2]
          exact ⟨lost, List.mem_cons_of_mem name member, same, gone⟩

/-- Of all calls of a description only those of its scopes can fail. -/
theorem directiveCalls_failure (unfailing : ∀ steps query, (invoke steps query).failure = none)
    {description : Description}
    (aware : description.inclusion.isSome = true → query.relationAware = true) {error : Error}
    (failed : (performAll invoke query description.directiveCalls).failure = some error) :
    ∃ name ∈ description.scopes, error = .unknownScope name ∧
      (performAll invoke query description.directiveCalls).query.scopes.contains name =
        false := by
  have before : (performAll invoke query description.callsBeforeScopes).Reaches _ :=
    callsBeforeScopes_reaches aware
  have onward := append_of_reaches before
    (Description.namedCalls Directive.scopes .scope description.scopes ++
      description.callsAfterScopes)
  rw [Description.directiveCalls_eq_scopes] at failed ⊢
  rw [onward.1] at failed
  rw [onward.2]
  cases ended : (performAll invoke _
      (Description.namedCalls Directive.scopes .scope description.scopes)).failure with
  | none =>
      -- what comes after the scopes does not fail
      rw [(append_of_reaches ⟨rfl, ended⟩ description.callsAfterScopes).1,
        (callsAfterScopes_reaches description).unfailing] at failed
      contradiction
  | some first =>
      -- nothing runs after the missing scope, so it is still missing in the end
      rw [append_of_failure ended] at failed ⊢
      exact scopeCalls_failure unfailing failed

theorem description_calls_failure (unfailing : ∀ steps query, (invoke steps query).failure = none)
    {description : Description}
    (aware : description.inclusion.isSome = true → query.relationAware = true) {error : Error}
    (failed : (performAll invoke query description.calls).failure = some error) :
    ∃ name ∈ description.scopes, error = .unknownScope name ∧
      (performAll invoke query description.calls).query.scopes.contains name = false := by
  unfold Description.calls at failed ⊢
  split at failed
  · rw [(performAll_cons_reaches (report_reaches _) performAll_nil_reaches).unfailing] at failed
    contradiction
  · simp only [*, Bool.false_eq_true, ↓reduceIte]
    exact directiveCalls_failure unfailing aware failed

/-! The first look at the scopes. -/

theorem description_plan_known {description : Description} {calls : List Call}
    (planned : description.plan query.capabilities = .ok calls) :
    ∀ name ∈ description.scopes, query.scopes.contains name = true := by
  unfold Description.plan at planned
  split at planned
  · contradiction
  split at planned
  · contradiction
  next found =>
    intro name listed
    have passed := List.find?_eq_none.mp found name listed
    simpa [capabilities] using passed

/-- What a request with a description plans. -/
theorem described_plan {settings : Settings} {payload : Json} {request : Request}
    {calls : List Call}
    (entry : request ∈ [.description settings payload, .checkedDescription settings payload])
    (planned : request.plan query.capabilities = .ok calls) :
    ∃ description, Description.read settings payload = .ok description ∧
      description.plan query.capabilities = .ok calls := by
  simp only [List.mem_cons, List.not_mem_nil, or_false] at entry
  rcases entry with rfl | rfl
  · exact planDescription_read planned
  · obtain ⟨description, read, planned⟩ := bind_eq_ok_iff.mp planned
    exact ⟨description, unreported_eq_ok_iff.mp read, planned⟩

/-! Scopes that install no others. -/

def settled : Freedom := { scopes := false, enter := false }

theorem Edit.scopes_eq {edited : Query} (edit : Edit settled query edited) :
    edited.scopes = query.scopes := by
  cases edit with
  | scopes allowed => cases allowed
  | enter allowed => cases allowed
  | _ => rfl

theorem Edits.scopes_eq {edited : Query} (edits : Edits settled query edited) :
    edited.scopes = query.scopes := by
  induction edits with
  | refl => rfl
  | tail _ edit ih => exact edit.scopes_eq.trans ih

/-- Every scope that was found at first is found when its turn comes. -/
theorem planned_unfailing_of_settled {depth : Nat} {settings : Settings} {payload : Json}
    {request : Request} {calls : List Call} (kept : query.scopes.within settled = true)
    (entry : request ∈ [.description settings payload, .checkedDescription settings payload])
    (planned : request.plan query.capabilities = .ok calls) :
    (performAll (invoker depth) query calls).failure = none := by
  obtain ⟨description, _, planned⟩ := described_plan entry planned
  obtain ⟨rfl, aware⟩ := description_plan_ok planned
  cases failed : (performAll (invoker depth) query description.calls).failure with
  | none => rfl
  | some error =>
      obtain ⟨name, listed, _, gone⟩ :=
        description_calls_failure (invoker_failure depth) aware failed
      have edits := performAll_edits (invoker_faithful depth) description.calls settled query kept
      rw [edits.scopes_eq, description_plan_known planned name listed] at gone
      contradiction

/-- A request that fails for want of a scope has changed nothing, unless the query knew all scopes
of the description at first and one of them is gone in the end. Where no scope installs others
nothing is lost on the way, and once all scopes were found the request does not fail. -/
theorem unknown_scope_changes_nothing_unless_lost (depth : Nat) (query : Query)
    (settings : Settings) (payload : Json) (request : Request)
    (entry : request ∈ [.description settings payload, .checkedDescription settings payload]) :
    (∀ name, (query.ask (invoker depth) request).failure = some (.unknownScope name) →
      (query.ask (invoker depth) request).query = query ∨
      ∃ description, Description.read settings payload = .ok description ∧
        (∀ listed ∈ description.scopes, query.scopes.contains listed = true) ∧
        name ∈ description.scopes ∧
        (query.ask (invoker depth) request).query.scopes.contains name = false) ∧
    (query.scopes.within settled = true →
      (∀ name, (query.ask (invoker depth) request).failure = some (.unknownScope name) →
        (query.ask (invoker depth) request).query = query) ∧
      (∀ calls, request.plan query.capabilities = .ok calls →
        (performAll (invoker depth) query calls).failure = none)) := by
  unfold ask
  constructor
  · intro name failed
    cases planned : request.plan query.capabilities with
    | error rejection => exact .inl rfl
    | ok calls =>
        rw [planned] at failed
        obtain ⟨description, read, planned⟩ := described_plan entry planned
        obtain ⟨rfl, aware⟩ := description_plan_ok planned
        obtain ⟨lost, listed, same, gone⟩ :=
          description_calls_failure (invoker_failure depth) aware failed
        cases same
        exact .inr ⟨description, read, description_plan_known planned, listed, gone⟩
  · intro kept
    constructor
    · intro name failed
      cases planned : request.plan query.capabilities with
      | error rejection => rfl
      | ok calls =>
          rw [planned] at failed
          rw [planned_unfailing_of_settled kept entry planned] at failed
          contradiction
    · intro calls planned
      exact planned_unfailing_of_settled kept entry planned

def strangeScope : Json := .object [
  ("where", .object [("name", .string "ada")]),
  ("scopes", .array [.string "active", .string "drop_tables"])]

theorem strange_scope_changes_nothing :
    let started := { entity "users" with
      scopes := Registry.ofList [("active", Scope.notNull "seen")] }
    let request := Request.description {} strangeScope
    request ∈ [.description {} strangeScope, .checkedDescription {} strangeScope] ∧
    started.scopes.within settled = true ∧
    (started.ask (invoker scopeDepth) request).failure = some (.unknownScope "drop_tables") ∧
    (started.ask (invoker scopeDepth) request).query = started := by
  intro started request
  have entry : request ∈ [.description {} strangeScope, .checkedDescription {} strangeScope] :=
    List.mem_cons_self
  have failed : (started.ask (invoker scopeDepth) request).failure =
      some (.unknownScope "drop_tables") := rfl
  have outcome := unknown_scope_changes_nothing_unless_lost scopeDepth started {} strangeScope
    request entry
  exact ⟨entry, rfl, failed, (outcome.2 rfl).1 _ failed⟩

def forgetfulScopes : List (String × List Step) :=
  [("first", [.setScopes []]), ("second", Scope.notNull "seen")]

def forgetfulRequest : Json := .object [
  ("where", .object [("name", .string "ada")]),
  ("scopes", .array [.string "first", .string "second"])]

/-- Both scopes are known at first, the second is missed in the end, and the filter was added. -/
theorem scope_lost_after_filter :
    let started := { plain "users" with scopes := Registry.ofList forgetfulScopes }
    let outcome := started.apply {} forgetfulRequest
    started.scopes.contains "first" = true ∧ started.scopes.contains "second" = true ∧
    outcome.failure = some (.unknownScope "second") ∧
    outcome.query.wheres = [⟨.compare "name" "=" (.string "ada"), .and⟩] ∧
    outcome.query ≠ started := by
  intro started outcome
  have wheres : outcome.query.wheres = [⟨.compare "name" "=" (.string "ada"), .and⟩] := rfl
  refine ⟨rfl, rfl, rfl, wheres, ?_⟩
  intro same
  rw [same] at wheres
  cases wheres

end Query

end DeclarativeQuery
