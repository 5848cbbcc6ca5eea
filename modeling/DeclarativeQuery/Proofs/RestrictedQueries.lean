import DeclarativeQuery.Proofs.AppliedDescription
import DeclarativeQuery.Proofs.FilterMeaning

/-!
What a description's filter does to a query that has conditions already. Its conditions are joined
by AND to a flat list, so they belong to the last of the terms between the ORs. The query never
finds more than before. Records that one of the other terms lets through are not held back by the
description; without another term all of its conditions hold.
-/

namespace DeclarativeQuery

namespace Clause

theorem termsAfter_of_and {clauses : List Clause} (current : List Condition)
    (joined : ∀ clause ∈ clauses, clause.connective = .and) :
    termsAfter current clauses = [current ++ clauses.map Clause.condition] := by
  induction clauses generalizing current with
  | nil => simp [termsAfter]
  | cons clause rest ih =>
      rcases clause with ⟨condition, connective⟩
      obtain ⟨rfl, others⟩ := List.forall_mem_cons.mp joined
      have onward := ih (current ++ [condition]) others
      simpa [termsAfter] using onward

/-- Where no clause is joined by OR there is one term. -/
theorem terms_of_and {clauses : List Clause}
    (joined : ∀ clause ∈ clauses.tail, clause.connective = .and) :
    terms clauses = [clauses.map Clause.condition] := by
  cases clauses with
  | nil => rfl
  | cons clause rest =>
      rcases clause with ⟨condition, _⟩
      exact termsAfter_of_and [condition] joined

/-- More clauses go on with the last term. -/
theorem termsAfter_append (current : List Condition) (clauses : List Clause) :
    ∃ earlier last, termsAfter current clauses = earlier ++ [last] ∧
      ∀ more, termsAfter current (clauses ++ more) = earlier ++ termsAfter last more := by
  induction clauses generalizing current with
  | nil => exact ⟨[], current, rfl, fun more => rfl⟩
  | cons clause rest ih =>
      rcases clause with ⟨condition, connective⟩
      -- AND lengthens the term at hand, OR leaves it among the earlier ones
      cases connective with
      | and =>
          obtain ⟨earlier, last, split, onward⟩ := ih (current ++ [condition])
          exact ⟨earlier, last, split, onward⟩
      | or =>
          obtain ⟨earlier, last, split, onward⟩ := ih [condition]
          refine ⟨current :: earlier, last, ?_, ?_⟩
          · rw [termsAfter, split, List.cons_append]
          · intro more
            rw [List.cons_append, termsAfter, onward, List.cons_append]

theorem clauses_joined (connective : Connective) (conditions : List Condition) :
    ∀ clause ∈ connective.clauses conditions, clause.connective = connective := by
  intro clause member
  obtain ⟨condition, _, same⟩ := List.mem_map.mp member
  rw [← same]

theorem clauses_conditions (connective : Connective) (conditions : List Condition) :
    (connective.clauses conditions).map Clause.condition = conditions := by
  simp [Connective.clauses, Function.comp_def]

theorem terms_append_and (clauses : List Clause) :
    ∃ earlier last, terms clauses = earlier ++ [last] ∧
      ∀ conditions, terms (clauses ++ Connective.and.clauses conditions) =
        earlier ++ [last ++ conditions] := by
  cases clauses with
  | nil =>
      refine ⟨[], [], rfl, ?_⟩
      intro conditions
      have joined := clauses_joined .and conditions
      have single := terms_of_and fun clause later => joined clause (List.mem_of_mem_tail later)
      simpa [clauses_conditions] using single
  | cons clause rest =>
      rcases clause with ⟨condition, _⟩
      obtain ⟨earlier, last, split, onward⟩ := termsAfter_append [condition] rest
      refine ⟨earlier, last, split, ?_⟩
      intro conditions
      rw [List.cons_append, terms, onward, termsAfter_of_and last (clauses_joined .and conditions),
        clauses_conditions]

/-- The list holds if all conditions of one of its terms hold. -/
theorem listHolds_iff_of_terms {truth : Condition → Bool} {clauses : List Clause}
    {earlier : List (List Condition)} {last : List Condition}
    (split : terms clauses = earlier ++ [last]) :
    listHolds truth clauses = true ↔
      (∃ term ∈ earlier, ∀ condition ∈ term, condition.holds truth = true) ∨
        ∀ condition ∈ last, condition.holds truth = true := by
  simp [listHolds_eq_any, split]

/-- Conditions that come to the last term count where no earlier one holds. -/
theorem listHolds_lengthened_iff {before after : List Clause} {earlier : List (List Condition)}
    {last added : List Condition} (split : terms before = earlier ++ [last])
    (lengthened : terms after = earlier ++ [last ++ added]) (truth : Condition → Bool) :
    listHolds truth after = true ↔ listHolds truth before = true ∧
      ((∀ condition ∈ added, condition.holds truth = true) ∨
        ∃ term ∈ earlier, ∀ condition ∈ term, condition.holds truth = true) := by
  rw [listHolds_iff_of_terms lengthened, listHolds_iff_of_terms split, List.forall_mem_append]
  -- an earlier term is there before and after, only the last one asks for what was added
  constructor
  · rintro (other | ⟨old, new⟩)
    · exact ⟨.inl other, .inr other⟩
    · exact ⟨.inr old, .inl new⟩
  · rintro ⟨other | old, new | other⟩
    · exact .inl other
    · exact .inl other
    · exact .inr ⟨old, new⟩
    · exact .inl other

end Clause

namespace Query

def addedConditions (query : Query) (description : Description) : List Condition :=
  query.filterConditions description.filters ++ description.has.map query.presence

theorem apply_wheres {query : Query} {settings : Settings} {payload : Json}
    {description : Description} (accepted : (query.apply settings payload).failure = none)
    (read : Description.read settings payload = .ok description)
    (scopeless : description.scopes = []) :
    (query.apply settings payload).query.wheres =
      query.wheres ++ Connective.and.clauses (query.addedConditions description) := by
  obtain ⟨found, same, reached⟩ := apply_reaches accepted
  rw [read] at same
  cases same
  rw [(reached scopeless).query_eq]
  simp [withDescription, addedConditions, Connective.clauses]

/-- The conditions of an accepted description are added at the end, joined by AND, and so they
become part of the last term of the query's conditions. What satisfies the query afterwards is what
did so before and satisfies all that was added, or else one of the terms before the last; without OR
among the query's own conditions there is no such term. -/
theorem description_restricts_last_term (query : Query) (settings : Settings) (payload : Json)
    (description : Description) (accepted : (query.apply settings payload).failure = none)
    (read : Description.read settings payload = .ok description)
    (scopeless : description.scopes = []) :
    let wheres := (query.apply settings payload).query.wheres
    let added := query.addedConditions description
    wheres = query.wheres ++ Connective.and.clauses added ∧
    Clause.listSql wheres = " OR ".intercalate ((Clause.terms wheres).map Clause.termSql) ∧
    (∃ earlier last, Clause.terms query.wheres = earlier ++ [last] ∧
      Clause.terms wheres = earlier ++ [last ++ added] ∧
      ∀ truth, Clause.listHolds truth wheres = true ↔
        Clause.listHolds truth query.wheres = true ∧
        ((∀ condition ∈ added, condition.holds truth = true) ∨
          ∃ term ∈ earlier, ∀ condition ∈ term, condition.holds truth = true)) ∧
    ((∀ clause ∈ query.wheres.tail, clause.connective = .and) →
      ∀ truth, Clause.listHolds truth wheres = true →
        ∀ condition ∈ added, condition.holds truth = true) := by
  intro wheres added
  have appended : wheres = query.wheres ++ Connective.and.clauses added :=
    apply_wheres accepted read scopeless
  obtain ⟨earlier, last, split, onward⟩ := Clause.terms_append_and query.wheres
  have joined : Clause.terms wheres = earlier ++ [last ++ added] := by rw [appended, onward]
  have restricted := Clause.listHolds_lengthened_iff split joined
  refine ⟨appended, Clause.listSql_eq_terms wheres, ⟨earlier, last, split, joined, restricted⟩, ?_⟩
  intro conjunctive truth holds
  rw [Clause.terms_of_and conjunctive] at split
  have alone : earlier = [] := by simpa using (congrArg List.length split).symm
  rcases ((restricted truth).mp holds).2 with all | ⟨term, other, _⟩
  · exact all
  · rw [alone] at other
    cases other

def alternatives : Query := { plain "users" with
  wheres := [⟨.compare "a" "=" (.whole 1), .and⟩, ⟨.compare "b" "=" (.whole 2), .or⟩] }

def thirdFilter : Json := .object [("where", .object [("c", .whole 3)])]

def thirdDescription : Description where
  filters := [.leaf "c" (.compare "=" (.whole 3))]

theorem filter_restricts_second_alternative :
    (alternatives.apply {} thirdFilter).failure = none ∧
    Description.read {} thirdFilter = .ok thirdDescription ∧ thirdDescription.scopes = [] ∧
    (alternatives.apply {} thirdFilter).query.wheres = alternatives.wheres ++
      [⟨.compare "c" "=" (.whole 3), .and⟩] := by
  have accepted : (alternatives.apply {} thirdFilter).failure = none := rfl
  have outcome := description_restricts_last_term alternatives {} thirdFilter thirdDescription
    accepted rfl rfl
  exact ⟨accepted, rfl, rfl, outcome.1⟩

/-- Where the first alternative holds the filter is not asked. -/
theorem first_alternative_passes_filter :
    let wheres := (alternatives.apply {} thirdFilter).query.wheres
    let truth : Condition → Bool := fun atom => atom.sql == "a = 1"
    (alternatives.apply {} thirdFilter).failure = none ∧
    wheres = alternatives.wheres ++ [⟨.compare "c" "=" (.whole 3), .and⟩] ∧
    Clause.listHolds truth wheres = true ∧
    (Condition.compare "c" "=" (.whole 3)).holds truth = false := by
  refine ⟨rfl, rfl, ?_, ?_⟩ <;> decide +kernel

end Query

end DeclarativeQuery
