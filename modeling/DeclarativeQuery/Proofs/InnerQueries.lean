import DeclarativeQuery.Proofs.Atomicity

/-!
Groups and related sets put their conditions together on queries of their own. Such a query begins
with the dialect and the relations of the outer one and with nothing else of it; whatever is done
to it, the outer query gains the conditions, as one clause, or stays as it was. What the inner query
is otherwise made to be, its columns, its order, its bounds and its groups, is lost without a trace.
-/

namespace DeclarativeQuery

/-! Runs on an inner query. -/

/-- What is done to an inner query: steps, of which one that fails ends the run or is skipped, or
the calls of a compiled filter. -/
inductive InnerRun where
  | stepwise (policy : Policy) (steps : List Step)
  | compiled (calls : List Call)

namespace InnerRun

def on (invoke : Query.Invoker) (start : Query) : InnerRun → Outcome
  | .stepwise policy steps => Query.stepAll invoke policy start steps
  | .compiled calls => Query.performAll invoke start calls

def group (connective : Connective) : InnerRun → Step
  | .stepwise policy steps => .group policy connective steps
  | .compiled calls => .call (.group connective calls)

def related (relation : String) (connective : Connective) : InnerRun → Step
  | .stepwise policy steps => .related policy relation connective steps
  | .compiled calls => .call (.related relation connective calls)

end InnerRun

namespace Outcome

/-- A run on an inner query, seen from the outer one: what failed inside changed nothing, what
succeeded added these clauses at the end and changed nothing else. -/
structure Adds (inner : Outcome) (query : Query) (added : List Clause) (outcome : Outcome) :
    Prop where
  failure_eq : outcome.failure = inner.failure
  events_eq : outcome.events = inner.events
  of_failure : inner.failure.isSome = true → outcome.query = query
  of_success : inner.failure = none → outcome.query = query.addWheres added

/-- Whatever the inner run did, the outer query sees no more of it than `take` does. -/
theorem inside_adds {inner : Outcome} {query : Query} {take : Query → Query} {added : List Clause}
    (taken : take inner.query = query.addWheres added) :
    inner.Adds query added (inner.inside query take) := by
  rcases inner with ⟨reached, events, failure⟩
  cases failure with
  | none => exact ⟨rfl, rfl, nofun, fun _ => taken⟩
  | some error => exact ⟨rfl, rfl, fun _ => rfl, nofun⟩

/-- At most the clauses were added. -/
theorem Adds.addWheres {inner outcome : Outcome} {query : Query} {added : List Clause}
    (adds : inner.Adds query added outcome) :
    outcome.query = query ∨ outcome.query = query.addWheres added := by
  cases failed : inner.failure with
  | none => exact .inr (adds.of_success failed)
  | some error => exact .inl (adds.of_failure (by rw [failed]; rfl))

end Outcome

def Clause.grouped (connective : Connective) (clauses : List Clause) : List Clause :=
  if clauses.isEmpty then [] else [⟨.nested clauses, connective⟩]

namespace Query

open Outcome

variable {invoke : Invoker} {query : Query}

theorem addNested_eq_grouped (query : Query) (clauses : List Clause) (connective : Connective) :
    query.addNested clauses connective = query.addWheres (Clause.grouped connective clauses) := by
  unfold addNested Clause.grouped
  split
  · exact (addWheres_nil query).symm
  · rfl

theorem performAll_singleton (invoke : Invoker) (query : Query) (call : Call) :
    performAll invoke query [call] = perform invoke query call := by
  rw [performAll, andThen]
  rcases perform invoke query call with ⟨reached, events, failure⟩
  cases failure <;> simp [performAll, done]

theorem step_group (invoke : Invoker) (query : Query) (connective : Connective) (run : InnerRun) :
    query.step invoke (run.group connective) =
      (run.on invoke (query.subquery query.table)).inside query fun inner =>
        query.addNested inner.wheres connective := by
  cases run with
  | stepwise policy steps => rfl
  | compiled calls => exact performAll_singleton invoke query (.group connective calls)

theorem step_related (invoke : Invoker) (query : Query) (relation : String)
    (connective : Connective) (run : InnerRun) :
    query.step invoke (run.related relation connective) =
      (run.on invoke (query.subquery (query.relationTarget relation).table)).inside query
        fun inner => query.addRelated relation inner.wheres connective := by
  cases run with
  | stepwise policy steps => rfl
  | compiled calls => exact performAll_singleton invoke query (.related relation connective calls)

theorem group_adds (invoke : Invoker) (query : Query) (connective : Connective) (run : InnerRun) :
    let inner := run.on invoke (query.subquery query.table)
    inner.Adds query (Clause.grouped connective inner.query.wheres)
      (query.step invoke (run.group connective)) := by
  intro inner
  rw [step_group]
  exact inside_adds (query.addNested_eq_grouped inner.query.wheres connective)

theorem related_adds (invoke : Invoker) (query : Query) (relation : String)
    (connective : Connective) (run : InnerRun) :
    let target := query.relationTarget relation
    let inner := run.on invoke (query.subquery target.table)
    inner.Adds query [⟨.related relation target inner.query.wheres, connective⟩]
      (query.step invoke (run.related relation connective)) := by
  intro target inner
  rw [step_related]
  exact inside_adds rfl

/-! What an inner query has of the outer one. -/

structure Lends (query other : Query) : Prop where
  dialect_eq : other.dialect = query.dialect
  relationAware_eq : other.relationAware = query.relationAware
  relations_eq : other.relations = query.relations

theorem Lends.subquery_eq {other : Query} (lends : query.Lends other) (table : String) :
    other.subquery table = query.subquery table := by
  simp only [subquery, lends.dialect_eq, lends.relationAware_eq, lends.relations_eq]

theorem Lends.relationTarget_eq {other : Query} (lends : query.Lends other) (relation : String) :
    other.relationTarget relation = query.relationTarget relation := by
  simp only [relationTarget, lends.relations_eq]

/-! What conditions do not depend on. -/

/-- The query without its columns, its order, its bounds and its groups. -/
def bare (query : Query) : Query :=
  { query with columns := [], groups := [], havings := [], orders := [], paging := none }

end Query

namespace Outcome

def bare (outcome : Outcome) : Outcome := { outcome with query := outcome.query.bare }

variable {first second : Outcome} {next other : Query → Outcome}

theorem andThen_bare (head : first.bare = second.bare)
    (tail : ∀ reached also : Query, reached.bare = also.bare →
      (next reached).bare = (other also).bare) :
    (first.andThen next).bare = (second.andThen other).bare := by
  rcases first with ⟨reached, events, failure⟩
  rcases second with ⟨also, sameEvents, sameFailure⟩
  simp only [bare, mk.injEq] at head
  obtain ⟨queries, rfl, rfl⟩ := head
  cases failure with
  | some error => simp only [andThen, bare, queries]
  | none =>
      have onward := tail reached also queries
      simp only [bare, mk.injEq] at onward
      simp only [andThen, bare, onward]

theorem regardless_bare (head : first.bare = second.bare)
    (tail : ∀ reached also : Query, reached.bare = also.bare →
      (next reached).bare = (other also).bare) :
    (first.regardless next).bare = (second.regardless other).bare := by
  simp only [bare, mk.injEq] at head
  have onward := tail first.query second.query head.1
  simp only [bare, mk.injEq] at onward
  simp only [regardless, bare, head.2.1, onward]

/-- An inner run is taken over by its clauses alone. -/
theorem inside_congr (same : first.bare = second.bare) (query : Query)
    (take : List Clause → Query) :
    first.inside query (fun inner => take inner.wheres) =
      second.inside query fun inner => take inner.wheres := by
  rcases first with ⟨reached, events, failure⟩
  rcases second with ⟨also, sameEvents, sameFailure⟩
  simp only [bare, mk.injEq] at same
  obtain ⟨queries, rfl, rfl⟩ := same
  have wheres : reached.bare.wheres = also.bare.wheres := congrArg Query.wheres queries
  change reached.wheres = also.wheres at wheres
  simp only [inside, wheres]

theorem inside_bare (inner : Outcome) (query : Query) {take also : Query → Query}
    (same : (take inner.query).bare = (also inner.query).bare) :
    (inner.inside query take).bare = (inner.inside query.bare also).bare := by
  rcases inner with ⟨reached, events, failure⟩
  cases failure with
  | some error => rfl
  | none => simp only [inside, bare, same]

end Outcome

namespace Query

open Outcome

variable {invoke : Invoker} {query : Query}

theorem addNested_bare (query : Query) (clauses : List Clause) (connective : Connective) :
    (query.addNested clauses connective).bare =
      (query.bare.addNested clauses connective).bare := by
  unfold addNested
  split <;> rfl

def Blind (invoke : Invoker) : Prop :=
  ∀ steps query, (invoke steps query).bare = (invoke steps query.bare).bare

/-- An inner query begins with none of these parts, so no induction on the call is needed. -/
theorem perform_bare (blind : Blind invoke) (query : Query) (call : Call) :
    (perform invoke query call).bare = (perform invoke query.bare call).bare := by
  cases call with
  | group connective calls => exact inside_bare _ query (query.addNested_bare _ connective)
  | related relation connective calls => exact inside_bare _ query rfl
  | load loads =>
      have aware : query.bare.relationAware = query.relationAware := rfl
      simp only [perform, load, aware]
      split <;> rfl
  | scope name =>
      have scopes : query.bare.scopes = query.scopes := rfl
      simp only [perform, scopes]
      cases query.scopes.get? name with
      | none => rfl
      | some steps => exact blind steps query
  | search field pattern connective =>
      rw [perform_search, perform_search]
      rfl
  | searchHaving field pattern =>
      rw [perform_searchHaving, perform_searchHaving]
      rfl
  | _ => rfl

theorem performAll_bare (blind : Blind invoke) (query : Query) (calls : List Call) :
    (performAll invoke query calls).bare = (performAll invoke query.bare calls).bare := by
  induction calls generalizing query with
  | nil => rfl
  | cons call rest ih =>
      refine andThen_bare (perform_bare blind query call) fun reached also same => ?_
      rw [ih reached, same, ← ih also]

theorem ask_bare (blind : Blind invoke) (query : Query) (request : Request) :
    (query.ask invoke request).bare = (query.bare.ask invoke request).bare := by
  have planned : request.plan query.bare.capabilities = request.plan query.capabilities := rfl
  unfold ask
  rw [planned]
  cases request.plan query.capabilities with
  | ok calls => exact performAll_bare blind query calls
  | error rejection => rfl

theorem materialize_bare (query : Query) (relation : String) :
    query.bare.materialize relation = query.materialize relation := rfl

theorem step_bare (blind : Blind invoke) (query : Query) (step : Step) :
    (query.step invoke step).bare = (query.bare.step invoke step).bare := by
  cases step with
  | calls calls => exact performAll_bare blind query calls
  | request request => exact ask_bare blind query request
  | group policy connective steps =>
      exact inside_bare _ query (query.addNested_bare _ connective)
  | related policy relation connective steps => exact inside_bare _ query rfl
  | enter relation =>
      simp only [step, enter, materialize_bare]
      cases query.materialize relation with
      | none => rfl
      | some outcome => exact inside_bare outcome query rfl
  | inspect relation =>
      simp only [step, inspect, materialize_bare]
      cases query.materialize relation <;> rfl
  | _ => rfl

theorem stepAll_bare (blind : Blind invoke) (policy : Policy) (query : Query)
    (steps : List Step) :
    (stepAll invoke policy query steps).bare = (stepAll invoke policy query.bare steps).bare := by
  induction steps generalizing query with
  | nil => rfl
  | cons first rest ih =>
      have onward (reached also : Query) (same : reached.bare = also.bare) :
          (stepAll invoke policy reached rest).bare = (stepAll invoke policy also rest).bare := by
        rw [ih reached, same, ← ih also]
      cases policy with
      | stop => exact andThen_bare (step_bare blind query first) onward
      | persist => exact regardless_bare (step_bare blind query first) onward

theorem invoker_blind (depth : Nat) : Blind (invoker depth) := by
  induction depth with
  | zero => exact fun _ _ => rfl
  | succ depth ih => exact fun steps query => stepAll_bare ih .persist query steps

end Query

/-! Inner runs without what they do to the columns, the order, the bounds and the groups. -/

def Call.isShaping : Call → Bool
  | .columns _ => true
  | .order _ => true
  | .limit _ => true
  | .offset _ => true
  | .groupBy _ => true
  | .having _ _ _ _ => true
  | .rawHaving _ _ _ => true
  | .searchHaving _ _ => true
  | _ => false

def Call.unshaped (calls : List Call) : List Call := calls.filter fun call => !call.isShaping

mutual

def Step.unshaped : Step → Step
  | .calls made => .calls (Call.unshaped made)
  | .group policy connective steps => .group policy connective (Step.listUnshaped steps)
  | .related policy relation connective steps =>
      .related policy relation connective (Step.listUnshaped steps)
  | step => step
termination_by structural step => step

def Step.listUnshaped : List Step → List Step
  | [] => []
  | step :: rest => step.unshaped :: Step.listUnshaped rest
termination_by structural steps => steps

end

def InnerRun.unshaped : InnerRun → InnerRun
  | .stepwise policy steps => .stepwise policy (Step.listUnshaped steps)
  | .compiled calls => .compiled (Call.unshaped calls)

namespace Query

open Outcome

variable {invoke : Invoker} {query : Query}

theorem perform_shaping (invoke : Invoker) {call : Call} (shaping : call.isShaping = true)
    (query : Query) :
    ∃ shaped, perform invoke query call = .done shaped ∧ shaped.bare = query.bare := by
  cases call with
  | searchHaving field pattern => exact ⟨_, perform_searchHaving invoke query field pattern, rfl⟩
  | _ => first | exact ⟨_, rfl, rfl⟩ | contradiction

theorem performAll_unshaped (blind : Blind invoke) (query : Query) (calls : List Call) :
    (performAll invoke query (Call.unshaped calls)).bare =
      (performAll invoke query calls).bare := by
  induction calls generalizing query with
  | nil => rfl
  | cons call rest ih =>
      cases shaping : call.isShaping with
      | true =>
          have left : Call.unshaped (call :: rest) = Call.unshaped rest := by
            simp [Call.unshaped, shaping]
          obtain ⟨shaped, done, same⟩ := perform_shaping invoke shaping query
          have onward : performAll invoke query (call :: rest) = performAll invoke shaped rest := by
            rw [performAll, done]
            rfl
          rw [left, ih, onward, performAll_bare blind query, performAll_bare blind shaped, same]
      | false =>
          have kept : Call.unshaped (call :: rest) = call :: Call.unshaped rest := by
            simp [Call.unshaped, shaping]
          rw [kept]
          refine andThen_bare rfl fun reached also same => ?_
          rw [ih, performAll_bare blind reached, same, ← performAll_bare blind also]

mutual

theorem step_unshaped (blind : Blind invoke) : ∀ (step : Step) (query : Query),
    (query.step invoke step.unshaped).bare = (query.step invoke step).bare
  | .calls calls, query => performAll_unshaped blind query calls
  | .group policy connective steps, query =>
      congrArg Outcome.bare (inside_congr (stepAll_unshaped blind policy steps _) query
        fun wheres => query.addNested wheres connective)
  | .related policy relation connective steps, query =>
      congrArg Outcome.bare (inside_congr (stepAll_unshaped blind policy steps _) query
        fun wheres => query.addRelated relation wheres connective)
  | .request _, _ | .setDialect _, _ | .addRelation .., _ | .setScopes _, _ | .enter _, _
  | .inspect _, _ => rfl
termination_by structural step => step

theorem stepAll_unshaped (blind : Blind invoke) (policy : Policy) :
    ∀ (steps : List Step) (query : Query),
    (stepAll invoke policy query (Step.listUnshaped steps)).bare =
      (stepAll invoke policy query steps).bare
  | [], _ => rfl
  | step :: rest, query => by
      have head := step_unshaped blind step query
      have onward (reached also : Query) (same : reached.bare = also.bare) :
          (stepAll invoke policy reached (Step.listUnshaped rest)).bare =
            (stepAll invoke policy also rest).bare := by
        rw [stepAll_unshaped blind policy rest, stepAll_bare blind policy reached, same,
          ← stepAll_bare blind policy also]
      cases policy with
      | stop => exact andThen_bare head onward
      | persist => exact regardless_bare head onward
termination_by structural steps => steps

end

theorem on_unshaped (blind : Blind invoke) (run : InnerRun) (start : Query) :
    (run.unshaped.on invoke start).bare = (run.on invoke start).bare := by
  cases run with
  | stepwise policy steps => exact stepAll_unshaped blind policy steps start
  | compiled calls => exact performAll_unshaped blind start calls

/-- The calls that shape may be left out inside: the outer query, the reports and the error are the
same. -/
theorem group_unshaped (blind : Blind invoke) (query : Query) (connective : Connective)
    (run : InnerRun) :
    query.step invoke (run.unshaped.group connective) =
      query.step invoke (run.group connective) := by
  rw [step_group, step_group]
  exact inside_congr (on_unshaped blind run _) query fun wheres =>
    query.addNested wheres connective

theorem related_unshaped (blind : Blind invoke) (query : Query) (relation : String)
    (connective : Connective) (run : InnerRun) :
    query.step invoke (run.unshaped.related relation connective) =
      query.step invoke (run.related relation connective) := by
  rw [step_related, step_related]
  exact inside_congr (on_unshaped blind run _) query fun wheres =>
    query.addRelated relation wheres connective

/-! Several inner runs, one after the other. -/

inductive Encloses : Step → Prop
  | group (connective : Connective) (run : InnerRun) : Encloses (run.group connective)
  | related (relation : String) (connective : Connective) (run : InnerRun) :
      Encloses (run.related relation connective)

theorem step_encloses (invoke : Invoker) {step : Step} (encloses : Encloses step) (query : Query) :
    ∃ added, (query.step invoke step).query = query.addWheres added := by
  have unchanged : query = query.addWheres [] := (addWheres_nil query).symm
  cases encloses with
  | group connective run =>
      rcases (group_adds invoke query connective run).addWheres with kept | added
      · exact ⟨[], kept.trans unchanged⟩
      · exact ⟨_, added⟩
  | related relation connective run =>
      rcases (related_adds invoke query relation connective run).addWheres with kept | added
      · exact ⟨[], kept.trans unchanged⟩
      · exact ⟨_, added⟩

theorem stepAll_encloses {steps : List Step} (enclose : ∀ step ∈ steps, Encloses step)
    (policy : Policy) (query : Query) :
    ∃ added, (stepAll invoke policy query steps).query = query.addWheres added := by
  induction steps generalizing query with
  | nil => exact ⟨[], (addWheres_nil query).symm⟩
  | cons first rest ih =>
      obtain ⟨added, head⟩ := step_encloses invoke (enclose first List.mem_cons_self) query
      obtain ⟨more, onward⟩ := ih
        (fun step member => enclose step (List.mem_cons_of_mem first member))
        (query.step invoke first).query
      have whole : (stepAll invoke policy (query.step invoke first).query rest).query =
          query.addWheres (added ++ more) := by
        rw [onward, head, addWheres_addWheres]
      cases policy with
      | persist => exact ⟨_, whole⟩
      | stop =>
          change ∃ added, ((query.step invoke first).andThen fun reached =>
            stepAll invoke .stop reached rest).query = query.addWheres added
          cases failed : (query.step invoke first).failure with
          | none => exact ⟨_, by simpa only [andThen, failed] using whole⟩
          | some error => exact ⟨_, by simpa only [andThen, failed] using head⟩

/-- Whatever is done inside, a group adds the conditions that were put together there as one clause,
if there are any, and a related set adds one clause in any case, for what the outer query knows
under the relation's name; nothing else of the outer query changes, and nothing at all if the inner
run fails. The inner run depends on the dialect, the relations and the kind of the outer query
alone, and what it does to columns, order, bounds and groups has no effect. -/
theorem inner_runs_add_their_clause_only (depth : Nat) (query : Query) (run : InnerRun)
    (relation : String) (connective : Connective) :
    let invoke := invoker depth
    let target := query.relationTarget relation
    let grouped := run.on invoke (query.subquery query.table)
    let found := run.on invoke (query.subquery target.table)
    grouped.Adds query (Clause.grouped connective grouped.query.wheres)
      (query.step invoke (run.group connective)) ∧
    found.Adds query [⟨.related relation target found.query.wheres, connective⟩]
      (query.step invoke (run.related relation connective)) ∧
    (∀ steps, run = .stepwise .persist steps → grouped.failure = none ∧ found.failure = none) ∧
    (∀ other, query.Lends other →
      run.on invoke (other.subquery (other.relationTarget relation).table) = found ∧
      (other.table = query.table → run.on invoke (other.subquery other.table) = grouped)) ∧
    query.step invoke (run.unshaped.group connective) =
      query.step invoke (run.group connective) ∧
    query.step invoke (run.unshaped.related relation connective) =
      query.step invoke (run.related relation connective) ∧
    (∀ policy steps, (∀ step ∈ steps, Encloses step) →
      ∃ added, (stepAll invoke policy query steps).query = query.addWheres added) ∧
    query.step invoke (.whereHas relation []) = query.step invoke (.has relation) := by
  intro invoke target grouped found
  have blind : Blind invoke := invoker_blind depth
  refine ⟨group_adds invoke query connective run, related_adds invoke query relation connective run,
    ?_, ?_, group_unshaped blind query connective run,
    related_unshaped blind query relation connective run, ?_, ?_⟩
  · intro steps persists
    have unfailing (start : Query) : (run.on invoke start).failure = none := by
      rw [persists]
      exact stepAll_persist_failure invoke start steps
    exact ⟨unfailing _, unfailing _⟩
  · intro other lends
    rw [lends.relationTarget_eq, lends.subquery_eq, lends.subquery_eq]
    refine ⟨rfl, ?_⟩
    intro same
    rw [same]
  · intro policy steps enclose
    exact stepAll_encloses enclose policy query
  · exact (performAll_singleton invoke query (.hasRelated relation .and)).symm

def crowdedQuery : Query := { entity "users" with
  columns := ["id"]
  wheres := [⟨.compare "a" "=" (.whole 1), .and⟩]
  orders := [⟨"id", .desc⟩]
  paging := some { limit := some 9 }
  loads := [{ relation := "tags" }]
  relations := [("posts", ⟨"articles", some "articles.user_id = users.id"⟩)]
  scopes := Registry.ofList [("active", Scope.notNull "seen")] }

def busyRun : InnerRun := .stepwise .persist [
  Step.select ["name"],
  Step.limit 5,
  .request (.loads {} (.array [.string "tags"])),
  .setDialect .postgres,
  .addRelation "tags" ⟨"labels", none⟩,
  .request (.description {} (.object [("limit", .string "x")])),
  Step.whereEq "b" (.whole 2),
  .group .stop .or [Step.whereEq "c" (.whole 3), .call (.scope "active")],
  Step.whereHas "tags" [Step.orderAsc "d"]]

theorem busy_run_adds_its_clause_only :
    let target : Relation := ⟨"articles", some "articles.user_id = users.id"⟩
    let inside : List Clause := [⟨.compare "b" "=" (.whole 2), .and⟩,
      ⟨.related "tags" ⟨"labels", none⟩ [], .and⟩]
    let other := { crowdedQuery with wheres := [], columns := ["*"] }
    (crowdedQuery.step (invoker 1) (busyRun.related "posts" .or)).query =
      crowdedQuery.addWheres [⟨.related "posts" target inside, .or⟩] ∧
    (crowdedQuery.step (invoker 1) (busyRun.unshaped.group .and)).query =
      crowdedQuery.addWheres [⟨.nested inside, .and⟩] ∧
    (busyRun.on (invoker 1) (crowdedQuery.subquery "users")).failure = none ∧
    crowdedQuery.Lends other ∧
    busyRun.on (invoker 1) (other.subquery "users") =
      busyRun.on (invoker 1) (crowdedQuery.subquery "users") ∧
    (∀ step ∈ [busyRun.group .or], Encloses step) ∧
    ∃ added, (stepAll (invoker 1) .stop crowdedQuery [busyRun.group .or]).query =
      crowdedQuery.addWheres added := by
  intro target inside other
  have enclose : ∀ step ∈ [busyRun.group .or], Encloses step := by
    rw [List.forall_mem_singleton]
    exact .group .or busyRun
  have lends : crowdedQuery.Lends other := ⟨rfl, rfl, rfl⟩
  obtain ⟨grouped, found, unfailing, lent, unshaped, _, enclosed, _⟩ :=
    inner_runs_add_their_clause_only 1 crowdedQuery busyRun "posts" .and
  have persists := unfailing _ rfl
  have related := (inner_runs_add_their_clause_only 1 crowdedQuery busyRun "posts" .or).2.1
  refine ⟨related.of_success persists.2, ?_, persists.1, lends, (lent other lends).2 rfl, enclose,
    enclosed .stop _ enclose⟩
  rw [unshaped]
  exact grouped.of_success persists.1

-- The last step fails, so nothing comes of the first.
example :
    (crowdedQuery.step (invoker 1) (.group .stop .or
      [Step.whereEq "c" (.whole 3), .call (.scope "active")])).query = crowdedQuery := rfl

end Query

end DeclarativeQuery
