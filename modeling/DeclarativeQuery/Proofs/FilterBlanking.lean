import DeclarativeQuery.Proofs.AppliedDescription
import DeclarativeQuery.Proofs.FilterReading
import DeclarativeQuery.Proofs.LiteralRendering

/-!
The texts in a filter do not decide how it is read. A filter whose texts are emptied is accepted if
the filter is, and the two are the same tree but for the values that would be written as literals.
Keys and tokens are no values and stay.
-/

namespace DeclarativeQuery

namespace Json

mutual

def withoutTexts : Json → Json
  | .string _ => .string ""
  | .array items => .array (itemsWithoutTexts items)
  | .object entries => .object (entriesWithoutTexts entries)
  | value => value
termination_by structural value => value

def itemsWithoutTexts : List Json → List Json
  | [] => []
  | item :: rest => item.withoutTexts :: itemsWithoutTexts rest
termination_by structural items => items

def entriesWithoutTexts : List (String × Json) → List (String × Json)
  | [] => []
  | (key, value) :: rest => (key, value.withoutTexts) :: entriesWithoutTexts rest
termination_by structural entries => entries

end

@[simp]
theorem withoutTexts_isNull (value : Json) : value.withoutTexts.isNull = value.isNull := by
  cases value <;> rfl

@[simp]
theorem withoutTexts_isObject (value : Json) : value.withoutTexts.isObject = value.isObject := by
  cases value <;> rfl

@[simp]
theorem withoutTexts_blanked (value : Json) : value.withoutTexts.blanked = value.blanked := by
  cases value <;> rfl

theorem itemsWithoutTexts_blanked (items : List Json) :
    (itemsWithoutTexts items).map blanked = items.map blanked := by
  induction items with
  | nil => rfl
  | cons item rest ih => simp [itemsWithoutTexts, ih]

theorem withoutTexts_asSet (value : Json) :
    value.withoutTexts.asSet.map blanked = value.asSet.map blanked := by
  cases value with
  | array items => exact itemsWithoutTexts_blanked items
  | _ => rfl

end Json

def Predicate.blanked : Predicate → Predicate
  | .compare operator value => .compare operator value.blanked
  | .between lower upper => .between lower.blanked upper.blanked
  | .oneOf values => .oneOf (values.map Json.blanked)
  | .noneOf values => .noneOf (values.map Json.blanked)
  | .notNull => .notNull
  | .search _ => .search ""

/-- Predicates that differ in their values only are built into things that do so. -/
theorem Predicate.map_blanked {Built : Type} (build : Predicate → Built) (blank : Built → Built)
    (inside : ∀ predicate, blank (build predicate) = build predicate.blanked)
    {emptied predicates : List Predicate}
    (alike : emptied.map Predicate.blanked = predicates.map Predicate.blanked) :
    (emptied.map build).map blank = (predicates.map build).map blank := by
  -- blanking moves past the building, where the two lists are the same
  have pushed : ∀ predicates : List Predicate,
      (predicates.map build).map blank = (predicates.map Predicate.blanked).map build := by
    intro predicates
    simp [inside]
  rw [pushed, pushed, alike]

def HavingTerm.blanked (term : HavingTerm) : HavingTerm := ⟨term.field, term.predicate.blanked⟩

namespace Filter

mutual

def blanked : Filter → Filter
  | .group connective filters => .group connective (listBlanked filters)
  | .leaf field predicate => .leaf field predicate.blanked
  | .related relation field predicate => .related relation field predicate.blanked
termination_by structural filter => filter

def listBlanked : List Filter → List Filter
  | [] => []
  | filter :: rest => filter.blanked :: listBlanked rest
termination_by structural filters => filters

end

theorem listBlanked_eq_map (filters : List Filter) : listBlanked filters = filters.map blanked := by
  induction filters with
  | nil => rfl
  | cons filter rest ih => rw [listBlanked, ih, List.map_cons]

/-! Reading -/

variable {settings : Settings} {directive field : String}

theorem readOperator_withoutTexts {operator : String} {operand : Json} {read : Option Predicate}
    (accepted : readOperator directive field operator operand = .ok read) :
    ∃ emptied, readOperator directive field operator operand.withoutTexts = .ok emptied ∧
      emptied.map Predicate.blanked = read.map Predicate.blanked := by
  have again : ∀ {emptied}, OperatorReads operator operand.withoutTexts emptied →
      readOperator directive field operator operand.withoutTexts = .ok emptied :=
    fun reads => reads.accepted directive field
  have reads := readOperator_ok accepted
  cases reads with
  | notNull same => exact ⟨_, again (.notNull same), rfl⟩
  | leftOut other null =>
      rw [← Json.withoutTexts_isNull] at null
      exact ⟨_, again (.leftOut other null), rfl⟩
  | between same range =>
      subst range
      exact ⟨_, again (.between same rfl), by simp [Predicate.blanked]⟩
  | oneOf same present =>
      rw [← Json.withoutTexts_isNull] at present
      exact ⟨_, again (.oneOf same present), by simp [Predicate.blanked, Json.withoutTexts_asSet]⟩
  | noneOf same present =>
      rw [← Json.withoutTexts_isNull] at present
      exact ⟨_, again (.noneOf same present), by simp [Predicate.blanked, Json.withoutTexts_asSet]⟩
  | searchText same sought =>
      subst sought
      exact ⟨_, again (.searchText same rfl), by simp [Predicate.blanked]⟩
  | searchNumber same sought =>
      subst sought
      exact ⟨_, again (.searchNumber same rfl), by simp [Predicate.blanked]⟩
  | compare plain present =>
      rw [← Json.withoutTexts_isNull] at present
      exact ⟨_, again (.compare plain present), by simp [Predicate.blanked]⟩

theorem readOperators_withoutTexts {operators : List (String × Json)}
    {predicates : List Predicate}
    (accepted : readOperators directive field operators = .ok predicates) :
    ∃ emptied, readOperators directive field (Json.entriesWithoutTexts operators) = .ok emptied ∧
      emptied.map Predicate.blanked = predicates.map Predicate.blanked := by
  induction operators generalizing predicates with
  | nil =>
      cases accepted
      exact ⟨[], rfl, rfl⟩
  | cons operator rest ih =>
      rcases operator with ⟨token, operand⟩
      obtain ⟨first, others, head, tail, same⟩ := readOperators_cons_ok accepted
      obtain ⟨firstEmptied, firstAgain, firstAlike⟩ := readOperator_withoutTexts head
      obtain ⟨othersEmptied, othersAgain, othersAlike⟩ := ih tail
      refine ⟨firstEmptied.toList ++ othersEmptied, ?_, ?_⟩
      · rw [Json.entriesWithoutTexts, readOperators, firstAgain, othersAgain]
        rfl
      · rw [same, List.map_append, List.map_append, othersAlike, ← Option.toList_map,
          ← Option.toList_map, firstAlike]

theorem readPredicates_withoutTexts {value : Json} {predicates : List Predicate}
    (accepted : readPredicates directive field value = .ok predicates) :
    ∃ emptied, readPredicates directive field value.withoutTexts = .ok emptied ∧
      emptied.map Predicate.blanked = predicates.map Predicate.blanked := by
  cases value with
  | object operators => exact readOperators_withoutTexts accepted
  | array items => simp [readPredicates, invalid] at accepted
  | _ =>
      cases accepted
      exact ⟨_, rfl, rfl⟩

theorem readField_withoutTexts {key : String} {value : Json} {filters : List Filter}
    (accepted : readField directive key value = .ok filters) :
    ∃ emptied, readField directive key value.withoutTexts = .ok emptied ∧
      emptied.map blanked = filters.map blanked := by
  unfold readField at accepted ⊢
  cases path : relationPath? key with
  | none =>
      simp only [path] at accepted
      obtain ⟨column, named, accepted⟩ := bind_eq_ok_iff.mp accepted
      obtain ⟨predicates, read, same⟩ := bind_eq_ok_iff.mp accepted
      cases same
      obtain ⟨emptied, again, alike⟩ := readPredicates_withoutTexts read
      refine ⟨emptied.map (.leaf column), ?_,
        Predicate.map_blanked (.leaf column) blanked (fun _ => rfl) alike⟩
      exact bind_eq_ok_iff.mpr ⟨column, named, bind_eq_ok_iff.mpr ⟨emptied, again, rfl⟩⟩
  | some parts =>
      rcases parts with ⟨relation, column⟩
      simp only [path] at accepted ⊢
      split at accepted
      · contradiction
      next wellFormed =>
        obtain ⟨predicates, read, same⟩ := bind_eq_ok_iff.mp accepted
        cases same
        obtain ⟨emptied, again, alike⟩ := readPredicates_withoutTexts read
        refine ⟨emptied.map (.related (Text.lower relation) column), ?_,
          Predicate.map_blanked (.related _ column) blanked (fun _ => rfl) alike⟩
        rw [if_neg wellFormed]
        exact bind_eq_ok_iff.mpr ⟨emptied, again, rfl⟩

mutual

/-- The induction is on the payload; the room below a level is free. -/
theorem readLevel_withoutTexts : ∀ (payload : Json) {room : Nat} {filters : List Filter},
    readLevel settings directive room payload = .ok filters →
    ∃ emptied, readLevel settings directive room payload.withoutTexts = .ok emptied ∧
      emptied.map blanked = filters.map blanked
  | .object entries, room, filters, accepted => by
      obtain ⟨read, below, same, more, inside⟩ := readLevel_ok accepted
      cases same
      obtain ⟨emptied, again, alike⟩ := readEntries_withoutTexts entries inside
      refine ⟨emptied, ?_, alike⟩
      rw [more, Json.withoutTexts, readLevel]
      exact again
  | .null, _, _, accepted | .bool _, _, _, accepted | .number _, _, _, accepted
  | .string _, _, _, accepted | .array _, _, _, accepted => by
      obtain ⟨_, _, same, _⟩ := readLevel_ok accepted
      cases same
termination_by structural payload => payload

theorem readEntries_withoutTexts : ∀ (entries : List (String × Json)) {room : Nat}
    {filters : List Filter}, readEntries settings directive room entries = .ok filters →
    ∃ emptied,
      readEntries settings directive room (Json.entriesWithoutTexts entries) = .ok emptied ∧
      emptied.map blanked = filters.map blanked
  | [], _, _, accepted => by
      cases accepted
      exact ⟨[], rfl, rfl⟩
  | (key, value) :: rest, room, filters, accepted => by
      obtain ⟨first, others, head, tail, same⟩ := readEntries_cons_ok accepted
      obtain ⟨othersEmptied, othersAgain, othersAlike⟩ := readEntries_withoutTexts rest tail
      have firstAgain : ∃ emptied,
          readEntry settings directive room key value.withoutTexts = .ok emptied ∧
          emptied.map blanked = first.map blanked := by
        rcases readEntry_ok head with
          ⟨null, none⟩ | ⟨connective, members, group, object, inside, one⟩ | ⟨column, some, read⟩
        · subst null
          exact ⟨[], rfl, by rw [none]⟩
        · obtain ⟨emptied, again, alike⟩ := readLevel_withoutTexts value inside
          refine ⟨[.group connective emptied], ?_, ?_⟩
          · exact readEntry_group group (by rwa [Json.withoutTexts_isObject]) again
          · rw [one]
            simp [blanked, listBlanked_eq_map, alike]
        · obtain ⟨emptied, again, alike⟩ := readField_withoutTexts read
          refine ⟨emptied, ?_, alike⟩
          rwa [readEntry_field column (by rwa [Json.withoutTexts_isNull])]
      obtain ⟨firstEmptied, firstAgain, firstAlike⟩ := firstAgain
      refine ⟨firstEmptied ++ othersEmptied, ?_, ?_⟩
      · rw [Json.entriesWithoutTexts, readEntries_cons, firstAgain, othersAgain]
        rfl
      · rw [same, List.map_append, List.map_append, firstAlike, othersAlike]
termination_by structural entries => entries

end

end Filter

theorem HavingTerm.readEntries_withoutTexts {settings : Settings} {directive : String}
    {entries : List (String × Json)} {terms : List HavingTerm}
    (accepted : readEntries settings directive entries = .ok terms) :
    ∃ emptied, readEntries settings directive (Json.entriesWithoutTexts entries) = .ok emptied ∧
      emptied.map blanked = terms.map blanked := by
  induction entries generalizing terms with
  | nil =>
      cases accepted
      exact ⟨[], rfl, rfl⟩
  | cons entry rest ih =>
      rcases entry with ⟨key, value⟩
      rw [readEntries] at accepted
      rw [Json.entriesWithoutTexts, readEntries, Json.withoutTexts_isNull]
      by_cases null : value.isNull = true
      · simp only [null, ↓reduceIte] at accepted ⊢
        exact ih accepted
      · cases group : settings.groupKey? key with
        | some connective => simp [null, group, Filter.invalid] at accepted
        | none =>
            simp only [null, group, Bool.false_eq_true, ↓reduceIte] at accepted ⊢
            obtain ⟨field, named, accepted⟩ := bind_eq_ok_iff.mp accepted
            obtain ⟨predicates, read, accepted⟩ := bind_eq_ok_iff.mp accepted
            obtain ⟨others, tail, same⟩ := bind_eq_ok_iff.mp accepted
            cases same
            obtain ⟨emptied, again, alike⟩ := Filter.readPredicates_withoutTexts read
            obtain ⟨othersEmptied, othersAgain, othersAlike⟩ := ih tail
            refine ⟨emptied.map (HavingTerm.mk field) ++ othersEmptied, ?_, ?_⟩
            · rw [bind_eq_ok_iff]
              refine ⟨field, named, bind_eq_ok_iff.mpr ⟨emptied, again, ?_⟩⟩
              exact bind_eq_ok_iff.mpr ⟨othersEmptied, othersAgain, rfl⟩
            · have first := Predicate.map_blanked (HavingTerm.mk field) blanked (fun _ => rfl) alike
              rw [List.map_append, List.map_append, othersAlike, first]

/-! The conditions of a blanked filter are the blanked conditions of the filter. -/

theorem Dialect.searchCondition_blanked (dialect : Dialect) (field pattern : String) :
    (dialect.searchCondition field pattern).blanked = dialect.searchCondition field "" := by
  cases dialect <;> rfl

theorem Predicate.condition_blanked (dialect : Dialect) (field : String) (predicate : Predicate) :
    (predicate.condition dialect field).blanked = predicate.blanked.condition dialect field := by
  cases predicate with
  | search pattern => exact Dialect.searchCondition_blanked _ _ _
  | _ => rfl

theorem Connective.blanked_clauses (connective : Connective) (conditions : List Condition) :
    Clause.blanked (connective.clauses conditions) =
      connective.clauses (conditions.map Condition.blanked) := by
  induction conditions with
  | nil => rfl
  | cons condition rest ih =>
      change ⟨condition.blanked, connective⟩ :: Clause.blanked (connective.clauses rest) = _
      rw [ih]
      rfl

namespace Filter

variable (dialect : Dialect) (target : String → Relation)

mutual

theorem condition?_blanked : ∀ filter : Filter,
    filter.blanked.condition? dialect target =
      (filter.condition? dialect target).map Condition.blanked
  | .leaf field predicate => by
      rw [blanked, condition?, condition?, Option.map_some, Predicate.condition_blanked]
  | .related relation field predicate => by
      simp [blanked, condition?, relatedCondition, Condition.blanked, Connective.blanked_clauses,
        Predicate.condition_blanked]
  | .group inner filters => by
      have inside := conditions_listBlanked filters
      cases members : conditions dialect target filters with
      | nil => simp [blanked, condition?, inside, members]
      | cons condition rest =>
          simp [blanked, condition?, inside, members, Condition.blanked,
            Connective.blanked_clauses]
termination_by structural filter => filter

theorem conditions_listBlanked : ∀ filters : List Filter,
    conditions dialect target (listBlanked filters) =
      (conditions dialect target filters).map Condition.blanked
  | [] => rfl
  | filter :: rest => by
      rw [listBlanked, conditions, conditions, condition?_blanked filter,
        conditions_listBlanked rest, List.map_append, Option.toList_map]
termination_by structural filters => filters

end

theorem conditions_blanked (filters : List Filter) :
    conditions dialect target (filters.map blanked) =
      (conditions dialect target filters).map Condition.blanked := by
  rw [← listBlanked_eq_map, conditions_listBlanked]

end Filter

end DeclarativeQuery
