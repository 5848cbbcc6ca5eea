import DeclarativeQuery.Proofs.ErrorPrecedence

/-!
The ways to put something to a query. A description is given as it stands, or it is read first and
then carried out; a filter and an inclusion can be given by themselves or in a description that says
nothing else. They differ in what they report, and in which of two faults they meet first. What
becomes of the query is the same.
-/

namespace DeclarativeQuery

/-- The runs leave the same query behind and fail with the same error, if they fail. What they
report is left aside. -/
structure Outcome.EndsLike (first second : Outcome) : Prop where
  query_eq : first.query = second.query
  failure_eq : first.failure = second.failure

theorem Outcome.Reaches.endsLike {first second : Outcome} {reached : Query}
    (one : first.Reaches reached) (other : second.Reaches reached) : first.EndsLike second :=
  ⟨one.query_eq.trans other.query_eq.symm, one.unfailing.trans other.unfailing.symm⟩

namespace Query

open Outcome

variable {invoke : Invoker} {query : Query} {settings : Settings} {payload : Json}

theorem ask_refused_alike {request other : Request} {rejection otherRejection : Rejection}
    (refused : request.plan query.capabilities = .error rejection)
    (alsoRefused : other.plan query.capabilities = .error otherRejection)
    (same : rejection.error = otherRejection.error) :
    (query.ask invoke request).EndsLike (query.ask invoke other) := by
  constructor
  · rw [ask_query_of_refused refused, ask_query_of_refused alsoRefused]
  · rw [ask_failure_of_refused refused, ask_failure_of_refused alsoRefused, same]

/-- A description that is read first is looked at without regard to the query. -/
theorem checked_plan (query : Query) (settings : Settings) (payload : Json) :
    (Request.checkedDescription settings payload).plan query.capabilities =
      match Description.read settings payload with
      | .error error => .error { error }
      | .ok description => description.plan query.capabilities := by
  rw [Request.plan]
  cases Description.read settings payload <;> rfl

theorem staged_endsLike (supported : ¬ query.AsksInVain payload) :
    (query.ask invoke (.description settings payload)).EndsLike
      (query.ask invoke (.checkedDescription settings payload)) := by
  have staged := checked_plan query settings payload
  cases read : Description.read settings payload with
  | error error =>
      rw [read] at staged
      exact ask_refused_alike (plan_of_unread supported read) staged rfl
  | ok description =>
      have whole : (Request.description settings payload).plan query.capabilities = _ :=
        plan_of_not_vain supported
      rw [read] at whole staged
      simp only [ask, whole, staged]
      exact ⟨rfl, rfl⟩

/-- What asks in vain is refused either way, though perhaps for another fault when it is read
first. -/
theorem staged_refused (vain : query.AsksInVain payload) :
    ∃ rejection, (Request.checkedDescription settings payload).plan query.capabilities =
      .error rejection := by
  rw [checked_plan]
  cases read : Description.read settings payload with
  | error error => exact ⟨_, rfl⟩
  | ok description =>
      obtain ⟨entries, mapping, reads⟩ := Description.read_ok read
      have included : description.inclusion.isSome = true := by
        rw [reads.inclusion_isSome]
        rw [mapping] at vain
        exact vain.1
      refine ⟨{ error := Request.inclusionUnsupported }, ?_⟩
      simp [Description.plan, included, capabilities, vain.2]

theorem filter_endsLike (given : payload ≠ .null) :
    (query.ask invoke (.filter settings payload .and)).EndsLike
      (query.ask invoke (.description settings (.object [(Directive.filter, payload)]))) := by
  have described : Description.read settings (.object [(Directive.filter, payload)]) = _ :=
    Description.read_filter_only given
  cases read : Filter.read settings Directive.filter payload with
  | error error =>
      have alone : (Request.filter settings payload .and).plan query.capabilities =
          .error { error } := by
        rw [Request.plan, read]
        rfl
      rw [read] at described
      exact ask_refused_alike alone (plan_of_unread (not_vain_of_unasked rfl) described) rfl
  | ok filters =>
      have alone := ask_filter_reaches invoke query settings payload filters .and read
      rw [read] at described
      have reached : (query.ask invoke _).Reaches _ := ask_of_read invoke described rfl (by simp)
      exact alone.endsLike (reached.to (withDescription_filters query filters))

theorem wantsInclusion_only (given : payload ≠ .null) :
    Request.wantsInclusion (.object [(Directive.inclusion, payload)]) = true := by
  cases payload <;> first | rfl | contradiction

theorem inclusion_endsLike (given : payload ≠ .null) :
    (query.ask invoke (.inclusion settings payload)).EndsLike
      (query.ask invoke (.description settings (.object [(Directive.inclusion, payload)]))) := by
  have described : Description.read settings (.object [(Directive.inclusion, payload)]) = _ :=
    Description.read_inclusion_only given
  cases aware : query.relationAware with
  | false =>
      have alone : (Request.inclusion settings payload).plan query.capabilities =
          .error { error := Request.inclusionUnsupported } := by
        simp [Request.plan, capabilities, aware]
      exact ask_refused_alike alone (plan_in_vain ⟨wantsInclusion_only given, aware⟩) rfl
  | true =>
      have alone : (Request.inclusion settings payload).plan query.capabilities =
          Request.unreported ((Inclusion.read settings payload).map fun loads =>
            [.load loads]) := by
        simp [Request.plan, capabilities, aware]
      cases read : Inclusion.read settings payload with
      | error error =>
          rw [read] at alone described
          exact ask_refused_alike alone (plan_of_unread (not_vain_of_aware aware) described) rfl
      | ok loads =>
          rw [read] at alone described
          have loaded : (query.ask invoke (.inclusion settings payload)).Reaches
              (query.addLoads loads) := ask_load_reaches aware alone
          have reached : (query.ask invoke _).Reaches _ :=
            ask_of_read invoke described rfl fun _ => aware
          exact loaded.endsLike (reached.to (withDescription_loads query loads))

/-- A description leaves the same query behind whether or not it is read first, and fails if it
fails when read first. The error is the same too, unless it asks for an inclusion of a query that
knows no relations: that is seen at once by one of the two, and after all other faults by the other.
A filter and an inclusion that are given by themselves end like the description that says just
that. -/
theorem ways_of_asking_agree (invoke : Invoker) (query : Query) (settings : Settings)
    (payload : Json) :
    let described := query.ask invoke (.description settings payload)
    let staged := query.ask invoke (.checkedDescription settings payload)
    (described.query = staged.query ∧
      (described.failure = none ↔ staged.failure = none) ∧
      (¬ query.AsksInVain payload → described.failure = staged.failure)) ∧
    (payload ≠ .null →
      (query.ask invoke (.filter settings payload .and)).EndsLike
        (query.ask invoke
          (.description settings (.object [(Directive.filter, payload)]))) ∧
      (query.ask invoke (.inclusion settings payload)).EndsLike
        (query.ask invoke
          (.description settings (.object [(Directive.inclusion, payload)])))) := by
  intro described staged
  refine ⟨?_, fun given => ⟨filter_endsLike given, inclusion_endsLike given⟩⟩
  by_cases vain : query.AsksInVain payload
  · -- both are refused, each for its own reason
    have atOnce : (Request.description settings payload).plan query.capabilities = .error _ :=
      plan_in_vain vain
    obtain ⟨rejection, afterReading⟩ : ∃ rejection,
        (Request.checkedDescription settings payload).plan query.capabilities =
          .error rejection := staged_refused vain
    refine ⟨?_, ?_, fun supported => absurd vain supported⟩
    · exact (ask_query_of_refused atOnce).trans (ask_query_of_refused afterReading).symm
    · simp only [described, staged, ask_failure_of_refused atOnce,
        ask_failure_of_refused afterReading, reduceCtorEq]
  · have alike : described.EndsLike staged := staged_endsLike vain
    exact ⟨alike.query_eq, by rw [alike.failure_eq], fun _ => alike.failure_eq⟩

def mistakenInclusion : Json := .object [
  ("where", .object [("Age", .object [("between", .array [.whole 30])])]),
  ("include", .string "posts")]

def activeThree : Json := .object [
  ("limit", .whole 3),
  ("scopes", .array [.string "active"])]

theorem mistaken_inclusion_fails_either_way :
    let members := { plain "users" with
      scopes := Registry.ofList [("active", Scope.notNull "seen")] }
    let described := fun payload => members.ask (invoker scopeDepth) (.description {} payload)
    let staged := fun payload => members.ask (invoker scopeDepth) (.checkedDescription {} payload)
    (described mistakenInclusion).failure ≠ (staged mistakenInclusion).failure ∧
    (described mistakenInclusion).query = (staged mistakenInclusion).query ∧
    ¬ members.AsksInVain activeThree ∧
    (described activeThree).failure = (staged activeThree).failure ∧
    Json.string "posts" ≠ .null ∧
    (members.ask (invoker scopeDepth) (.filter {} (.string "posts") .and)).EndsLike
      (described (.object [("where", .string "posts")])) ∧
    (members.ask (invoker scopeDepth) (.inclusion {} (.string "posts"))).EndsLike
      (described (.object [("include", .string "posts")])) := by
  intro members described staged
  have law := ways_of_asking_agree (invoker scopeDepth) members {}
  have supported : ¬ members.AsksInVain activeThree := not_vain_of_unasked rfl
  have given : Json.string "posts" ≠ .null := by
    rintro ⟨⟩
  have atOnce : (described mistakenInclusion).failure =
      some (.unsupportedCapability "relation inclusion") := rfl
  have afterReading : (staged mistakenInclusion).failure =
      some (.operatorArity "age" "between" 2 1) := rfl
  have differ : (described mistakenInclusion).failure ≠ (staged mistakenInclusion).failure := by
    rw [atOnce, afterReading]
    simp
  exact ⟨differ, (law _).1.1, supported, (law _).1.2.2 supported, given, (law _).2 given⟩

end Query

end DeclarativeQuery
