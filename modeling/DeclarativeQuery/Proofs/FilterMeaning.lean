import DeclarativeQuery.Proofs.FilterConditions

/-!
The truth of clauses as a database reads their text, and of a filter as a tree. A flat list of
clauses is a disjunction of conjunctions, cut at every OR; the connective of the first clause is not
written and so not read. The two readings agree because the clauses of one group all carry the
connective of that group: no list that a filter becomes mixes AND with OR.
-/

namespace DeclarativeQuery

/-! Clauses. -/

mutual

/-- `truth` decides everything but a nested group, an EXISTS as a whole included. -/
def Condition.holds (truth : Condition → Bool) : Condition → Bool
  | .nested clauses => Clause.listHolds truth clauses
  | atom => truth atom
termination_by structural condition => condition

def Clause.listHolds (truth : Condition → Bool) : List Clause → Bool
  | [] => true
  | ⟨condition, _⟩ :: rest => Clause.restHolds truth (condition.holds truth) rest
termination_by structural clauses => clauses

/-- `current` is the truth of the conjunction that the clauses go on with. -/
def Clause.restHolds (truth : Condition → Bool) (current : Bool) : List Clause → Bool
  | [] => current
  | ⟨condition, .and⟩ :: rest => Clause.restHolds truth (current && condition.holds truth) rest
  | ⟨condition, .or⟩ :: rest => current || Clause.restHolds truth (condition.holds truth) rest
termination_by structural clauses => clauses

end

namespace Clause

def termsAfter (current : List Condition) : List Clause → List (List Condition)
  | [] => [current]
  | ⟨condition, .and⟩ :: rest => termsAfter (current ++ [condition]) rest
  | ⟨condition, .or⟩ :: rest => current :: termsAfter [condition] rest

def terms : List Clause → List (List Condition)
  | [] => [[]]
  | ⟨condition, _⟩ :: rest => termsAfter [condition] rest

theorem restHolds_eq_any (truth : Condition → Bool) (clauses : List Clause)
    (current : List Condition) :
    restHolds truth (current.all (·.holds truth)) clauses =
      (termsAfter current clauses).any fun term => term.all (·.holds truth) := by
  induction clauses generalizing current with
  | nil => simp [restHolds, termsAfter]
  | cons clause rest ih =>
      rcases clause with ⟨condition, connective⟩
      cases connective with
      | and =>
          have longer := ih (current ++ [condition])
          simpa [restHolds, termsAfter] using longer
      | or =>
          have fresh := ih [condition]
          simp only [List.all_cons, List.all_nil, Bool.and_true] at fresh
          simp [restHolds, termsAfter, fresh]

/-- AND binds tighter than OR. -/
theorem listHolds_eq_any (truth : Condition → Bool) (clauses : List Clause) :
    listHolds truth clauses = (terms clauses).any fun term => term.all (·.holds truth) := by
  cases clauses with
  | nil => rfl
  | cons clause rest =>
      rcases clause with ⟨condition, connective⟩
      have read := restHolds_eq_any truth rest [condition]
      simpa [listHolds, terms] using read

def termSql (conditions : List Condition) : String :=
  " AND ".intercalate (conditions.map Condition.sql)

theorem termSql_concat (conditions : List Condition) (condition : Condition)
    (some : conditions ≠ []) :
    termSql (conditions ++ [condition]) = termSql conditions ++ " AND " ++ condition.sql := by
  induction conditions with
  | nil => exact absurd rfl some
  | cons first rest ih =>
      cases rest with
      | nil => simp [termSql]
      | cons second others =>
          have tail := ih (by simp)
          simp only [termSql, List.cons_append, List.map_cons, String.intercalate_cons_cons]
            at tail ⊢
          rw [tail]
          simp only [String.append_assoc]

theorem termsAfter_ne_nil (current : List Condition) (clauses : List Clause) :
    termsAfter current clauses ≠ [] := by
  induction clauses generalizing current with
  | nil => simp [termsAfter]
  | cons clause rest ih =>
      rcases clause with ⟨condition, connective⟩
      -- AND lengthens the term at hand and OR begins another one
      cases connective with
      | and => exact ih (current ++ [condition])
      | or => simp [termsAfter]

theorem restSql_eq_terms (clauses : List Clause) (current : List Condition) (some : current ≠ []) :
    termSql current ++ restSql clauses =
      " OR ".intercalate ((termsAfter current clauses).map termSql) := by
  induction clauses generalizing current with
  | nil => simp [restSql, termsAfter]
  | cons clause rest ih =>
      rcases clause with ⟨condition, connective⟩
      cases connective with
      | and =>
          rw [termsAfter, ← ih (current ++ [condition]) (by simp),
            termSql_concat current condition some]
          simp [restSql, Connective.sql, String.append_assoc]
      | or =>
          have onward := ih [condition] (by simp)
          have more : (termsAfter [condition] rest).map termSql ≠ [] := by
            simpa using termsAfter_ne_nil [condition] rest
          rw [termsAfter, List.map_cons, String.intercalate_cons_of_ne_nil more, ← onward]
          simp [restSql, termSql, Connective.sql, String.append_assoc]

/-- The text shows the same terms that `listHolds_eq_any` reads. -/
theorem listSql_eq_terms (clauses : List Clause) :
    listSql clauses = " OR ".intercalate ((terms clauses).map termSql) := by
  cases clauses with
  | nil => simp [listSql, terms, termSql]
  | cons clause rest =>
      rcases clause with ⟨condition, connective⟩
      have shown := restSql_eq_terms rest [condition] (by simp)
      simpa [listSql, terms, termSql] using shown

end Clause

/-! Filters. -/

namespace Connective

def join : Connective → Bool → Bool → Bool
  | .and => Bool.and
  | .or => Bool.or

def unit : Connective → Bool
  | .and => true
  | .or => false

def joinAll (connective : Connective) (values : List Bool) : Bool :=
  values.foldr connective.join connective.unit

end Connective

namespace Filter

mutual

def isVoid : Filter → Bool
  | .group _ filters => allVoid filters
  | .leaf _ _ => false
  | .related _ _ _ => false
termination_by structural filter => filter

def allVoid : List Filter → Bool
  | [] => true
  | filter :: rest => filter.isVoid && allVoid rest
termination_by structural filters => filters

end

section Meaning
variable (dialect : Dialect) (target : String → Relation) (truth : Condition → Bool)

mutual

def holds : Filter → Bool
  | .group inner filters => listHolds inner filters
  | .leaf field predicate => truth (predicate.condition dialect field)
  | .related relation field predicate =>
      truth (relatedCondition dialect target relation field predicate)
termination_by structural filter => filter

def listHolds (connective : Connective) : List Filter → Bool
  | [] => connective.unit
  | filter :: rest =>
      if filter.isVoid then listHolds connective rest
      else connective.join filter.holds (listHolds connective rest)
termination_by structural filters => filters

end

end Meaning

end Filter

namespace Clause

theorem restHolds_clauses (truth : Condition → Bool) (connective : Connective) (current : Bool)
    (conditions : List Condition) :
    restHolds truth current (connective.clauses conditions) =
      connective.join current (connective.joinAll (conditions.map (·.holds truth))) := by
  induction conditions generalizing current with
  | nil => cases connective <;> simp [Connective.clauses, restHolds, Connective.join,
      Connective.joinAll, Connective.unit]
  | cons condition rest ih =>
      cases connective with
      | and =>
          have onward := ih (current && condition.holds truth)
          simpa [Connective.clauses, restHolds, Connective.join, Connective.joinAll,
            Bool.and_assoc] using onward
      | or =>
          have onward := ih (condition.holds truth)
          simp only [Connective.clauses, Connective.join] at onward
          simp [Connective.clauses, restHolds, Connective.join, Connective.joinAll, onward]

theorem listHolds_clauses (truth : Condition → Bool) (connective : Connective)
    (conditions : List Condition) (some : conditions ≠ []) :
    listHolds truth (connective.clauses conditions) =
      connective.joinAll (conditions.map (·.holds truth)) := by
  cases conditions with
  | nil => exact absurd rfl some
  | cons condition rest => exact restHolds_clauses truth connective (condition.holds truth) rest

end Clause

theorem Dialect.holds_searchCondition (truth : Condition → Bool) (dialect : Dialect)
    (field pattern : String) :
    (dialect.searchCondition field pattern).holds truth =
      truth (dialect.searchCondition field pattern) := by
  cases dialect <;> rfl

theorem Predicate.holds_condition (truth : Condition → Bool) (dialect : Dialect) (field : String)
    (predicate : Predicate) :
    (predicate.condition dialect field).holds truth =
      truth (predicate.condition dialect field) := by
  cases predicate with
  | search pattern => exact dialect.holds_searchCondition truth field pattern
  | _ => rfl

namespace Filter

section Agreement
variable (dialect : Dialect) (target : String → Relation)

mutual

theorem condition?_isSome : ∀ filter : Filter,
    (filter.condition? dialect target).isSome = !filter.isVoid
  | .leaf _ _ => rfl
  | .related _ _ _ => rfl
  | .group inner filters => by
      have inside := conditions_isEmpty filters
      cases empty : (conditions dialect target filters).isEmpty <;>
        simp [condition?, isVoid, ← inside, empty]
termination_by structural filter => filter

theorem conditions_isEmpty : ∀ filters : List Filter,
    (conditions dialect target filters).isEmpty = allVoid filters
  | [] => rfl
  | filter :: rest => by
      have first := condition?_isSome filter
      have others := conditions_isEmpty rest
      rw [allVoid, ← others]
      cases stated : filter.condition? dialect target <;> simp [stated] at first <;>
        simp [conditions, stated, first]
termination_by structural filters => filters

end

theorem conditions_eq_nil_iff (filters : List Filter) :
    conditions dialect target filters = [] ↔ allVoid filters = true := by
  rw [← conditions_isEmpty dialect target filters, List.isEmpty_iff]

variable (truth : Condition → Bool)

mutual

theorem condition?_holds : ∀ (filter : Filter) (condition : Condition),
    filter.condition? dialect target = some condition →
      condition.holds truth = filter.holds dialect target truth
  | .leaf field predicate, condition, stated => by
      cases stated
      exact Predicate.holds_condition truth dialect field predicate
  | .related _ _ _, condition, stated => by
      cases stated
      rfl
  | .group inner filters, condition, stated => by
      have members := conditions_holds inner filters
      by_cases empty : conditions dialect target filters = []
      · simp [condition?, empty] at stated
      · simp [condition?, empty] at stated
        subst stated
        rw [Condition.holds, Clause.listHolds_clauses truth inner _ empty, members]
        rfl
termination_by structural filter => filter

theorem conditions_holds (connective : Connective) : ∀ filters : List Filter,
    connective.joinAll ((conditions dialect target filters).map (·.holds truth)) =
      listHolds dialect target truth connective filters
  | [] => rfl
  | filter :: rest => by
      have others := conditions_holds connective rest
      have present := condition?_isSome dialect target filter
      cases stated : filter.condition? dialect target with
      | none =>
          simp only [stated, Option.isSome_none, Bool.false_eq, Bool.not_eq_false'] at present
          simp [conditions, stated, listHolds, present, others]
      | some condition =>
          have first := condition?_holds filter condition stated
          simp only [stated, Option.isSome_some, Bool.true_eq, Bool.not_eq_true'] at present
          simp only [conditions, stated, listHolds, present, ← others, ← first]
          simp [Connective.joinAll]
termination_by structural filters => filters

end

end Agreement

end Filter

namespace Query

/-- An accepted filter means on the query what it means as a tree, whatever is true of its atomic
conditions; void groups leave no trace. The text of the clauses is a list of terms joined by OR,
each of them a list of conditions joined by AND, and that is how its truth is told. -/
theorem compiled_filter_keeps_meaning (invoke : Invoker) (query : Query) (settings : Settings)
    (payload : Json) (filters : List Filter) (connective : Connective)
    (accepted : Filter.read settings Directive.filter payload = .ok filters)
    (unconditioned : query.wheres = []) :
    let wheres := (query.ask invoke (.filter settings payload connective)).query.wheres
    (query.ask invoke (.filter settings payload connective)).failure = none ∧
    (Filter.allVoid filters = true → wheres = []) ∧
    Clause.listSql wheres = " OR ".intercalate ((Clause.terms wheres).map Clause.termSql) ∧
    (Filter.allVoid filters = false → ∀ truth : Condition → Bool,
      ((Clause.terms wheres).any fun term => term.all fun condition => condition.holds truth) =
        Filter.listHolds query.dialect query.relationTarget truth connective filters) := by
  intro wheres
  have reached := ask_filter_reaches invoke query settings payload filters connective accepted
  have only : wheres = connective.clauses (query.filterConditions filters) := by
    change (query.ask invoke (.filter settings payload connective)).query.wheres = _
    rw [reached.query_eq, addWheres, unconditioned, List.nil_append]
  have void := Filter.conditions_eq_nil_iff query.dialect query.relationTarget filters
  refine ⟨reached.unfailing, ?_, Clause.listSql_eq_terms wheres, ?_⟩
  · intro allVoid
    rw [only, filterConditions, void.mpr allVoid]
    rfl
  · intro present truth
    -- a list without clauses is true, whatever its connective; there is at least one here
    have some : query.filterConditions filters ≠ [] := by
      intro none
      have allVoid := void.mp none
      rw [present] at allVoid
      contradiction
    rw [← Clause.listHolds_eq_any, only, Clause.listHolds_clauses truth connective _ some]
    exact Filter.conditions_holds query.dialect query.relationTarget truth connective filters

def nestedFilter : Json := .object [
  ("OR", .object [("Name", .string "o'brien"), ("and", .object [("or", .object [])])]),
  ("roles.Level", .object [("gte", .whole 3), ("search", .string "a b")])]

theorem nested_filter_keeps_meaning :
    Filter.read {} Directive.filter nestedFilter = .ok [
      .group .or [.leaf "name" (.compare "=" (.string "o'brien")), .group .and [.group .or []]],
      .related "roles" "Level" (.compare ">=" (.whole 3)),
      .related "roles" "Level" (.search "%a%b%")] ∧
    (plain "users").wheres = [] ∧
    (Clause.terms ((plain "users").ask withoutScopes
      (.filter {} nestedFilter .or)).query.wheres).any (fun term =>
        term.all fun condition => condition.holds fun atom => atom.sql == "name = 'o''brien'") =
      true := by
  refine ⟨rfl, rfl, ?_⟩
  have meaning := compiled_filter_keeps_meaning withoutScopes (plain "users") {} nestedFilter _ .or
    rfl rfl
  rw [meaning.2.2.2 rfl]
  decide +kernel

end Query

end DeclarativeQuery
