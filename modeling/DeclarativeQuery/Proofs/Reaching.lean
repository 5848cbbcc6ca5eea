import DeclarativeQuery.Query.Run

/-!
Runs that end without an error. What such a run reports is left aside; what it does to the query is
all that the laws below speak of. They are stated once for a run of one call and lifted to lists.
-/

namespace DeclarativeQuery

/-- The condition of a search, as each database writes it. -/
def Dialect.searchCondition (field pattern : String) : Dialect → Condition
  | .postgres => .compare field "ilike" (.string pattern)
  | .mysql => .raw (field ++ " COLLATE utf8_general_ci LIKE ?") (some (.string pattern))
  | .other => .raw ("LOWER(" ++ field ++ ") LIKE LOWER(?)") (some (.string pattern))

theorem LikeStrategy.collated_mysql (field : String) :
    collated field "utf8_general_ci" = field ++ " COLLATE utf8_general_ci LIKE ?" := by
  simp [collated, String.append_assoc]

namespace Outcome

structure Reaches (outcome : Outcome) (query : Query) : Prop where
  query_eq : outcome.query = query
  unfailing : outcome.failure = none

theorem done_reaches (query : Query) : (done query).Reaches query := ⟨rfl, rfl⟩

theorem Reaches.to {outcome : Outcome} {reached last : Query} (ends : outcome.Reaches reached)
    (same : reached = last) : outcome.Reaches last := same ▸ ends

theorem Reaches.andThen {first : Outcome} {next : Query → Outcome} {middle last : Query}
    (reached : first.Reaches middle) (onward : (next middle).Reaches last) :
    (first.andThen next).Reaches last := by
  rcases first with ⟨query, events, failure⟩
  rcases reached with ⟨same, unfailing⟩
  cases same
  cases unfailing
  exact ⟨onward.query_eq, onward.unfailing⟩

theorem Reaches.inside {inner : Outcome} {reached : Query} (ends : inner.Reaches reached)
    (outer : Query) (take : Query → Query) : (inner.inside outer take).Reaches (take reached) := by
  rcases inner with ⟨query, events, failure⟩
  rcases ends with ⟨same, unfailing⟩
  cases same
  cases unfailing
  exact ⟨rfl, rfl⟩

end Outcome

namespace Query

open Outcome

variable {invoke : Invoker} {query middle last : Query}

theorem performAll_nil_reaches : (performAll invoke query []).Reaches query := ⟨rfl, rfl⟩

theorem performAll_cons_reaches {call : Call} {rest : List Call}
    (first : (perform invoke query call).Reaches middle)
    (onward : (performAll invoke middle rest).Reaches last) :
    (performAll invoke query (call :: rest)).Reaches last :=
  first.andThen onward

theorem performAll_append_reaches {before after : List Call}
    (first : (performAll invoke query before).Reaches middle)
    (onward : (performAll invoke middle after).Reaches last) :
    (performAll invoke query (before ++ after)).Reaches last := by
  rw [performAll_append]
  exact first.andThen onward

theorem perform_search (invoke : Invoker) (query : Query) (field pattern : String)
    (connective : Connective) :
    perform invoke query (.search field pattern connective) =
      .done (query.addWhere (query.dialect.searchCondition field pattern) connective) := by
  rw [perform]
  cases query.dialect with
  | postgres => rfl
  | mysql =>
      rw [Dialect.searchCondition, ← LikeStrategy.collated_mysql]
      rfl
  | other => rfl

/-- The operator of a dialect is none of those that grouped conditions are recognised by. -/
theorem perform_searchHaving (invoke : Invoker) (query : Query) (field pattern : String) :
    perform invoke query (.searchHaving field pattern) =
      .done (query.addHaving (query.dialect.searchCondition field pattern) .and) := by
  rw [perform]
  cases query.dialect with
  | postgres => rfl
  | mysql =>
      rw [Dialect.searchCondition, ← LikeStrategy.collated_mysql]
      rfl
  | other => rfl

theorem report_reaches (event : Event) : (perform invoke query (.report event)).Reaches query :=
  ⟨rfl, rfl⟩

end Query

end DeclarativeQuery
