import Mathlib.Logic.Relation
import DeclarativeQuery.Json.Basic
import DeclarativeQuery.Proofs.Reaching

/-!
What a run can do to a query, as single edits. However deep its groups and its scopes go, a run of
steps is a chain of edits of the query that it was given; conditions that groups and related sets
put together on queries of their own arrive as one edit each. So whatever every edit keeps, every
run keeps, whether its steps succeed or fail.
-/

namespace DeclarativeQuery

/-! Conditions that a run can put together. -/

mutual

def Condition.isFilled : Condition → Bool
  | .nested clauses => !clauses.isEmpty && Clause.allFilled clauses
  | .related _ _ clauses => Clause.allFilled clauses
  | _ => true
termination_by structural condition => condition

def Clause.allFilled : List Clause → Bool
  | [] => true
  | ⟨condition, _⟩ :: rest => condition.isFilled && Clause.allFilled rest
termination_by structural clauses => clauses

end

theorem Clause.allFilled_append (first second : List Clause) :
    allFilled (first ++ second) = (allFilled first && allFilled second) := by
  induction first with
  | nil => rfl
  | cons clause rest ih =>
      rcases clause with ⟨condition, connective⟩
      simp [allFilled, ih, Bool.and_assoc]

def Condition.isFlat : Condition → Bool
  | .nested _ => false
  | .related _ _ _ => false
  | _ => true

theorem Dialect.searchCondition_isFilled (field pattern : String) (dialect : Dialect) :
    (dialect.searchCondition field pattern).isFilled = true := by
  cases dialect <;> rfl

theorem Dialect.searchCondition_isFlat (field pattern : String) (dialect : Dialect) :
    (dialect.searchCondition field pattern).isFlat = true := by
  cases dialect <;> rfl

theorem Query.havingCondition_isFlat (field operator : String) (value : Json) :
    (havingCondition field operator value).isFlat = true := by
  unfold havingCondition
  split <;> rfl

/-! Steps that are kept from some of the things that a step can do. -/

/-- What a run may do besides building up the query that it was given. -/
structure Freedom where
  /-- It may replace the scopes that the query knows. -/
  scopes : Bool := true
  /-- It may go on with the query over the records of a loaded relation. -/
  enter : Bool := true

mutual

/-- Steps inside a group or a related set are free, for they run on a query of their own. -/
def Step.within (freedom : Freedom) : Step → Bool
  | .setScopes scopes => freedom.scopes && Step.scopesWithin freedom scopes
  | .enter _ => freedom.enter
  | _ => true
termination_by structural step => step

def Step.listWithin (freedom : Freedom) : List Step → Bool
  | [] => true
  | step :: rest => step.within freedom && Step.listWithin freedom rest
termination_by structural steps => steps

def Step.scopesWithin (freedom : Freedom) : List (String × List Step) → Bool
  | [] => true
  | scope :: rest => Step.scopeWithin freedom scope && Step.scopesWithin freedom rest
termination_by structural scopes => scopes

def Step.scopeWithin (freedom : Freedom) : String × List Step → Bool
  | (_, steps) => Step.listWithin freedom steps
termination_by structural scope => scope

end

namespace Step

mutual

theorem within_all : ∀ step : Step, step.within {} = true
  | .setScopes scopes => by simp [within, scopesWithin_all scopes]
  | .enter _ => rfl
  | .calls _ | .request _ | .group .. | .related .. | .setDialect _ | .addRelation ..
  | .inspect _ => rfl
termination_by structural step => step

theorem listWithin_all : ∀ steps : List Step, listWithin {} steps = true
  | [] => rfl
  | step :: rest => by simp [listWithin, within_all step, listWithin_all rest]
termination_by structural steps => steps

theorem scopesWithin_all : ∀ scopes : List (String × List Step), scopesWithin {} scopes = true
  | [] => rfl
  | scope :: rest => by simp [scopesWithin, scopeWithin_all scope, scopesWithin_all rest]
termination_by structural scopes => scopes

theorem scopeWithin_all : ∀ scope : String × List Step, scopeWithin {} scope = true
  | (_, steps) => by simp [scopeWithin, listWithin_all steps]
termination_by structural scope => scope

end

theorem scopesWithin_iff (freedom : Freedom) (scopes : List (String × List Step)) :
    scopesWithin freedom scopes = true ↔
      ∀ name steps, (name, steps) ∈ scopes → listWithin freedom steps = true := by
  induction scopes with
  | nil => simp [scopesWithin]
  | cons scope rest ih =>
      rcases scope with ⟨first, firstSteps⟩
      rw [scopesWithin, scopeWithin, Bool.and_eq_true, ih, Entries.forall_mem_cons]

end Step

namespace Registry

def within (freedom : Freedom) (registry : Registry) : Bool :=
  Step.scopesWithin freedom registry.entries

theorem mem_putEntry {name : String} {steps : List Step} {entries : List (String × List Step)}
    {entry : String × List Step} (member : entry ∈ putEntry name steps entries) :
    entry = (name, steps) ∨ entry ∈ entries := by
  induction entries with
  | nil => simpa [putEntry] using member
  | cons first rest ih =>
      rcases first with ⟨key, keySteps⟩
      unfold putEntry at member
      split at member
      · rcases List.mem_cons.mp member with here | later
        · exact .inl here
        · exact .inr (List.mem_cons_of_mem _ later)
      · split at member
        · exact List.mem_cons.mp member
        · rcases List.mem_cons.mp member with here | later
          · exact .inr (List.mem_cons.mpr (.inl here))
          · exact (ih later).imp_right (List.mem_cons_of_mem _)

theorem within_register {freedom : Freedom} {registry : Registry} {name : String}
    {steps : List Step} (kept : registry.within freedom = true)
    (free : Step.listWithin freedom steps = true) :
    (registry.register name steps).within freedom = true := by
  rw [within, Step.scopesWithin_iff] at kept ⊢
  intro key keySteps member
  rcases mem_putEntry member with same | old
  · cases same
    exact free
  · exact kept key keySteps old

theorem within_ofList {freedom : Freedom} {scopes : List (String × List Step)}
    (free : Step.scopesWithin freedom scopes = true) : (ofList scopes).within freedom = true := by
  have onto : ∀ registry : Registry, registry.within freedom = true →
      (scopes.foldl (fun registry (name, steps) => registry.register name steps) registry).within
        freedom = true := by
    induction scopes with
    | nil =>
        intro registry kept
        exact kept
    | cons scope rest ih =>
        intro registry kept
        rcases scope with ⟨name, steps⟩
        simp only [Step.scopesWithin, Step.scopeWithin, Bool.and_eq_true] at free
        exact ih free.2 (registry.register name steps) (within_register kept free.1)
  exact onto {} rfl

theorem listWithin_of_get? {freedom : Freedom} {registry : Registry} {name : String}
    {steps : List Step} (kept : registry.within freedom = true)
    (known : registry.get? name = some steps) : Step.listWithin freedom steps = true := by
  rw [within, Step.scopesWithin_iff] at kept
  obtain ⟨before, after, same, _⟩ := List.lookup_eq_some_iff.mp known
  apply kept name steps
  rw [same]
  simp

end Registry

namespace Query

def relatedStart (query : Query) (relation : String) : Query :=
  { entity (query.relationTarget relation).table with
    dialect := query.dialect
    relations := query.relations }

/-- The edits that a run with this freedom is made of. -/
inductive Edit (freedom : Freedom) (query : Query) : Query → Prop
  | condition {condition : Condition} (filled : condition.isFilled = true)
      (connective : Connective) : Edit freedom query (query.addWhere condition connective)
  | having {condition : Condition} (flat : condition.isFlat = true) (connective : Connective) :
      Edit freedom query (query.addHaving condition connective)
  | columns (names : List String) : Edit freedom query { query with columns := names }
  | order (term : OrderTerm) : Edit freedom query (query.addOrder term)
  | limit (bound : Int) : Edit freedom query (query.setLimit bound)
  | offset (bound : Int) : Edit freedom query (query.setOffset bound)
  | group (field : String) : Edit freedom query (query.addGroup field)
  | loads (aware : query.relationAware = true) (loads : List EagerLoad) :
      Edit freedom query (query.addLoads loads)
  | dialect (dialect : Dialect) : Edit freedom query { query with dialect }
  | relation (name : String) (relation : Relation) :
      Edit freedom query (query.addRelation name relation)
  | scopes (allowed : freedom.scopes = true) {scopes : List (String × List Step)}
      (free : Step.scopesWithin freedom scopes = true) :
      Edit freedom query { query with scopes := Registry.ofList scopes }
  | enter (allowed : freedom.enter = true) (relation : String) :
      Edit freedom query (query.relatedStart relation)

abbrev Edits (freedom : Freedom) : Query → Query → Prop := Relation.ReflTransGen (Edit freedom)

variable {freedom : Freedom} {query edited : Query}

theorem Edit.edits (edit : Edit freedom query edited) : Edits freedom query edited :=
  Relation.ReflTransGen.single edit

/-- Whatever single edits keep, chains of them keep. -/
theorem Edits.keep {holds : Query → Prop} (edits : Edits freedom query edited)
    (kept : ∀ {before after}, Edit freedom before after → holds before → holds after)
    (start : holds query) : holds edited := by
  induction edits with
  | refl => exact start
  | tail _ edit ih => exact kept edit ih

theorem Edit.scopes_within (edit : Edit freedom query edited)
    (kept : query.scopes.within freedom = true) : edited.scopes.within freedom = true := by
  cases edit with
  | scopes _ free => exact Registry.within_ofList free
  | enter => rfl
  | _ => exact kept

theorem Edits.scopes_within (edits : Edits freedom query edited)
    (kept : query.scopes.within freedom = true) : edited.scopes.within freedom = true :=
  edits.keep Edit.scopes_within kept

theorem Edit.wheres_filled (edit : Edit freedom query edited)
    (filled : Clause.allFilled query.wheres = true) : Clause.allFilled edited.wheres = true := by
  cases edit with
  | condition added =>
      simp [addWhere, Clause.allFilled_append, Clause.allFilled, filled, added]
  | enter => rfl
  | _ => exact filled

theorem Edits.wheres_filled (edits : Edits freedom query edited)
    (filled : Clause.allFilled query.wheres = true) : Clause.allFilled edited.wheres = true :=
  edits.keep Edit.wheres_filled filled

/-! Runs are chains of edits. -/

theorem andThen_edits {first : Outcome} {next : Query → Outcome}
    (head : Edits freedom query first.query)
    (tail : Edits freedom first.query (next first.query).query) :
    Edits freedom query (first.andThen next).query := by
  rcases first with ⟨reached, events, failure⟩
  cases failure with
  | none => exact head.trans tail
  | some error => exact head

/-- A group is taken over as one condition, and an empty one not at all. -/
theorem nested_edits {inner : Outcome} {table : String} (connective : Connective)
    (inside : Edits {} (query.subquery table) inner.query) :
    Edits freedom query
      (inner.inside query fun inner => query.addNested inner.wheres connective).query := by
  rcases inner with ⟨reached, events, failure⟩
  have filled := inside.wheres_filled rfl
  cases failure with
  | some error => exact .refl
  | none =>
      change Edits freedom query (query.addNested reached.wheres connective)
      unfold addNested
      split
      · exact .refl
      next some =>
        refine (Edit.condition ?_ connective).edits
        simp only [Condition.isFilled, some, filled, Bool.not_false, Bool.and_self]

theorem related_edits {inner : Outcome} {table : String} (relation : String)
    (connective : Connective) (inside : Edits {} (query.subquery table) inner.query) :
    Edits freedom query (inner.inside query fun inner =>
      query.addRelated relation inner.wheres connective).query := by
  rcases inner with ⟨reached, events, failure⟩
  have filled := inside.wheres_filled rfl
  cases failure with
  | some error => exact .refl
  | none =>
      have added : Condition.isFilled (.related relation (query.relationTarget relation)
          reached.wheres) = true := filled
      exact (Edit.condition added connective).edits

def Faithful (invoke : Invoker) : Prop :=
  ∀ (freedom : Freedom) (steps : List Step) (query : Query),
    Step.listWithin freedom steps = true → query.scopes.within freedom = true →
      Edits freedom query (invoke steps query).query

mutual

/-- The induction is on the call; the freedom is free, for calls inside a call have all of it. -/
theorem perform_edits {invoke : Invoker} (faithful : Faithful invoke) :
    ∀ (call : Call) (freedom : Freedom) (query : Query), query.scopes.within freedom = true →
    Edits freedom query (perform invoke query call).query
  | .compare .., _, _, _ | .between .., _, _, _ | .oneOf .., _, _, _ | .noneOf .., _, _, _
  | .notNull .., _, _, _ | .raw .., _, _, _ | .hasRelated .., _, _, _ =>
      (Edit.condition rfl _).edits
  | .search field pattern connective, _, query, _ => by
      rw [perform_search]
      exact (Edit.condition (query.dialect.searchCondition_isFilled field pattern)
        connective).edits
  | .group connective calls, _, query, _ =>
      nested_edits connective (performAll_edits faithful calls {} (query.subquery query.table) rfl)
  | .related relation connective calls, _, query, _ =>
      related_edits relation connective (performAll_edits faithful calls {}
        (query.subquery (query.relationTarget relation).table) rfl)
  | .columns names, _, _, _ => (Edit.columns names).edits
  | .order term, _, _, _ => (Edit.order term).edits
  | .limit bound, _, _, _ => (Edit.limit bound).edits
  | .offset bound, _, _, _ => (Edit.offset bound).edits
  | .groupBy field, _, _, _ => (Edit.group field).edits
  | .having field operator value connective, _, _, _ =>
      (Edit.having (havingCondition_isFlat field operator value) connective).edits
  | .rawHaving .., _, _, _ => (Edit.having rfl _).edits
  | .searchHaving field pattern, _, query, _ => by
      rw [perform_searchHaving]
      exact (Edit.having (query.dialect.searchCondition_isFlat field pattern) .and).edits
  | .load loads, freedom, query, _ => by
      rw [perform, load]
      split
      next aware => exact (Edit.loads aware loads).edits
      next => exact .refl
  | .scope name, freedom, query, kept => by
      rw [perform]
      cases known : query.scopes.get? name with
      | none => exact .refl
      | some steps =>
          exact faithful freedom steps query (Registry.listWithin_of_get? kept known) kept
  | .report _, _, _, _ => .refl
termination_by structural call => call

theorem performAll_edits {invoke : Invoker} (faithful : Faithful invoke) :
    ∀ (calls : List Call) (freedom : Freedom) (query : Query),
    query.scopes.within freedom = true → Edits freedom query (performAll invoke query calls).query
  | [], _, _, _ => .refl
  | call :: rest, freedom, query, kept => by
      have head := perform_edits faithful call freedom query kept
      have tail := performAll_edits faithful rest freedom (perform invoke query call).query
        (head.scopes_within kept)
      exact andThen_edits head tail
termination_by structural calls => calls

end

theorem withoutScopes_faithful : Faithful withoutScopes := fun _ _ _ _ _ => .refl

theorem materialize_edits {relation : String} {outcome : Outcome}
    (materialized : query.materialize relation = some outcome) :
    Edits freedom (query.relatedStart relation) outcome.query := by
  unfold materialize at materialized
  obtain ⟨loaded, _, same⟩ := Option.map_eq_some_iff.mp materialized
  subst same
  cases loaded.config with
  | none => exact .refl
  | some config =>
      exact performAll_edits withoutScopes_faithful config.calls freedom
        (query.relatedStart relation) rfl

theorem ask_edits {invoke : Invoker} (faithful : Faithful invoke) (request : Request)
    (kept : query.scopes.within freedom = true) :
    Edits freedom query (query.ask invoke request).query := by
  unfold ask
  cases request.plan query.capabilities with
  | ok calls => exact performAll_edits faithful calls freedom query kept
  | error rejection => exact .refl

theorem enter_edits (allowed : freedom.enter = true) (relation : String) :
    Edits freedom query (query.enter relation).query := by
  unfold enter
  cases materialized : query.materialize relation with
  | none => exact .refl
  | some outcome =>
      have onward : Edits freedom (query.relatedStart relation) outcome.query :=
        materialize_edits materialized
      rcases outcome with ⟨reached, events, failure⟩
      cases failure with
      | none => exact (Edit.enter allowed relation).edits.trans onward
      | some error => exact .refl

theorem inspect_edits (relation : String) : Edits freedom query (query.inspect relation).query := by
  unfold inspect
  cases query.materialize relation <;> exact .refl

mutual

theorem step_edits {invoke : Invoker} (faithful : Faithful invoke) :
    ∀ (step : Step) (freedom : Freedom) (query : Query), step.within freedom = true →
    query.scopes.within freedom = true → Edits freedom query (query.step invoke step).query
  | .calls calls, freedom, query, _, kept => performAll_edits faithful calls freedom query kept
  | .request request, _, _, _, kept => ask_edits faithful request kept
  | .group policy connective steps, _, query, _, _ =>
      nested_edits connective (stepAll_edits faithful policy steps {}
        (query.subquery query.table) (Step.listWithin_all steps) rfl)
  | .related policy relation connective steps, _, query, _, _ =>
      related_edits relation connective (stepAll_edits faithful policy steps {}
        (query.subquery (query.relationTarget relation).table) (Step.listWithin_all steps) rfl)
  | .setDialect dialect, _, _, _, _ => (Edit.dialect dialect).edits
  | .addRelation name relation, _, _, _, _ => (Edit.relation name relation).edits
  | .setScopes scopes, _, _, free, _ => by
      simp only [Step.within, Bool.and_eq_true] at free
      exact (Edit.scopes free.1 free.2).edits
  | .enter relation, _, _, free, _ => enter_edits free relation
  | .inspect relation, _, _, _, _ => inspect_edits relation
termination_by structural step => step

theorem stepAll_edits {invoke : Invoker} (faithful : Faithful invoke) (policy : Policy) :
    ∀ (steps : List Step) (freedom : Freedom) (query : Query),
    Step.listWithin freedom steps = true → query.scopes.within freedom = true →
    Edits freedom query (stepAll invoke policy query steps).query
  | [], _, _, _, _ => .refl
  | step :: rest, freedom, query, free, kept => by
      simp only [Step.listWithin, Bool.and_eq_true] at free
      have head := step_edits faithful step freedom query free.1 kept
      have tail := stepAll_edits faithful policy rest freedom (query.step invoke step).query free.2
        (head.scopes_within kept)
      cases policy with
      | stop => exact andThen_edits head tail
      | persist => exact head.trans tail
termination_by structural steps => steps

end

theorem invoker_faithful (depth : Nat) : Faithful (invoker depth) := by
  induction depth with
  | zero => exact withoutScopes_faithful
  | succ depth ih =>
      intro freedom steps query free kept
      exact stepAll_edits ih .persist steps freedom query free kept

end Query

end DeclarativeQuery
