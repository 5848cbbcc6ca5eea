import DeclarativeQuery.Proofs.Sequencing

/-!
The readers of filters, one entry at a time. Reading a list of entries is reading its head and then
its tail; a reading that succeeds took its success from both.
-/

namespace DeclarativeQuery

theorem Json.isNull_of_isObject {value : Json} (object : value.isObject = true) :
    value.isNull = false := by
  cases value with
  | object entries => rfl
  | _ => contradiction

namespace Filter

variable {settings : Settings} {directive : String}

/-- What one entry of a filter mapping stands for; `room` is what is left below its level. -/
def readEntry (settings : Settings) (directive : String) (room : Nat) (key : String)
    (value : Json) : Except Error (List Filter) :=
  if value.isNull then .ok []
  else match settings.groupKey? key with
    | some connective =>
        if value.isObject then
          (readLevel settings directive room value).map fun filters => [.group connective filters]
        else invalid directive (.groupShape key)
    | none => readField directive key value

theorem readEntry_group {room : Nat} {key : String} {value : Json} {connective : Connective}
    {members : List Filter} (group : settings.groupKey? key = some connective)
    (object : value.isObject = true)
    (inside : readLevel settings directive room value = .ok members) :
    readEntry settings directive room key value = .ok [.group connective members] := by
  have present := Json.isNull_of_isObject object
  simp only [readEntry, present, group, object, inside, Bool.false_eq_true, ↓reduceIte]
  rfl

theorem readEntry_field {room : Nat} {key : String} {value : Json}
    (field : settings.groupKey? key = none) (present : value.isNull = false) :
    readEntry settings directive room key value = readField directive key value := by
  simp only [readEntry, present, field, Bool.false_eq_true, ↓reduceIte]

theorem readEntries_cons (room : Nat) (key : String) (value : Json) (rest : List (String × Json)) :
    readEntries settings directive room ((key, value) :: rest) = do
      let first ← readEntry settings directive room key value
      let others ← readEntries settings directive room rest
      return first ++ others := by
  by_cases null : value.isNull = true
  · simp [readEntries, readEntry, null]
    cases readEntries settings directive room rest <;> rfl
  · cases group : settings.groupKey? key with
    | none => simp [readEntries, readEntry, null, group]
    | some connective =>
        by_cases object : value.isObject = true
        · simp only [readEntries, readEntry, null, group, object, ↓reduceIte, Bool.false_eq_true]
          cases readLevel settings directive room value <;> rfl
        · simp [readEntries, readEntry, null, group, object, invalid]
          rfl

theorem readEntries_cons_ok {room : Nat} {key : String} {value : Json}
    {rest : List (String × Json)} {filters : List Filter}
    (accepted : readEntries settings directive room ((key, value) :: rest) = .ok filters) :
    ∃ first others, readEntry settings directive room key value = .ok first ∧
      readEntries settings directive room rest = .ok others ∧ filters = first ++ others := by
  rw [readEntries_cons, bind_eq_ok_iff] at accepted
  obtain ⟨first, head, accepted⟩ := accepted
  obtain ⟨others, tail, same⟩ := bind_eq_ok_iff.mp accepted
  cases same
  exact ⟨first, others, head, tail, rfl⟩

theorem readLevel_ok {room : Nat} {payload : Json} {filters : List Filter}
    (accepted : readLevel settings directive room payload = .ok filters) :
    ∃ entries below, payload = .object entries ∧ room = below + 1 ∧
      readEntries settings directive below entries = .ok filters := by
  cases payload with
  | object entries =>
      cases room with
      | zero => simp [readLevel, invalid] at accepted
      | succ below =>
          rw [readLevel] at accepted
          exact ⟨entries, below, rfl, rfl, accepted⟩
  | _ =>
      simp only [readLevel, invalid] at accepted
      split at accepted <;> contradiction

/-- An accepted entry is null, a group, or a field with its predicates. -/
theorem readEntry_ok {room : Nat} {key : String} {value : Json} {filters : List Filter}
    (accepted : readEntry settings directive room key value = .ok filters) :
    (value = .null ∧ filters = []) ∨
    (∃ connective members, settings.groupKey? key = some connective ∧ value.isObject = true ∧
      readLevel settings directive room value = .ok members ∧
      filters = [.group connective members]) ∨
    (settings.groupKey? key = none ∧ value.isNull = false ∧
      readField directive key value = .ok filters) := by
  unfold readEntry at accepted
  by_cases null : value.isNull = true
  · left
    simp only [null, ↓reduceIte, Except.ok.injEq] at accepted
    cases value <;> simp [Json.isNull] at null
    exact ⟨rfl, accepted.symm⟩
  · right
    simp only [null, Bool.false_eq_true, ↓reduceIte] at accepted
    cases group : settings.groupKey? key with
    | none =>
        right
        rw [group] at accepted
        exact ⟨rfl, by simpa using null, accepted⟩
    | some connective =>
        left
        simp only [group] at accepted
        by_cases object : value.isObject = true
        · simp only [object, ↓reduceIte] at accepted
          obtain ⟨members, inside, same⟩ := map_eq_ok_iff.mp accepted
          exact ⟨connective, members, rfl, object, inside, same.symm⟩
        · simp [object, invalid] at accepted

inductive OperatorReads (operator : String) (operand : Json) : Option Predicate → Prop
  | notNull (same : operator = "not null") : OperatorReads operator operand (some .notNull)
  | leftOut (other : operator ≠ "not null") (null : operand.isNull = true) :
      OperatorReads operator operand none
  | between {lower upper : Json} (same : operator = "between")
      (range : operand = .array [lower, upper]) :
      OperatorReads operator operand (some (.between lower upper))
  | oneOf (same : operator = "in") (present : operand.isNull = false) :
      OperatorReads operator operand (some (.oneOf operand.asSet))
  | noneOf (same : operator = "not in") (present : operand.isNull = false) :
      OperatorReads operator operand (some (.noneOf operand.asSet))
  | searchText {text : String} (same : operator = "search") (sought : operand = .string text) :
      OperatorReads operator operand (some (.search (searchPattern text)))
  | searchNumber {value : Number} (same : operator = "search")
      (sought : operand = .number value) :
      OperatorReads operator operand (some (.search (searchPattern value.text)))
  | compare (plain : operator ∉ ["not null", "between", "in", "not in", "search"])
      (present : operand.isNull = false) :
      OperatorReads operator operand (some (.compare operator operand))

theorem readOperator_ok {field operator : String} {operand : Json} {read : Option Predicate}
    (accepted : readOperator directive field operator operand = .ok read) :
    OperatorReads operator operand read := by
  unfold readOperator at accepted
  by_cases notNull : operator = "not null"
  · rw [if_pos notNull] at accepted
    cases accepted
    exact .notNull notNull
  rw [if_neg notNull] at accepted
  by_cases null : operand.isNull = true
  · rw [if_pos null] at accepted
    cases accepted
    exact .leftOut notNull null
  rw [if_neg null] at accepted
  have present : operand.isNull = false := by simpa using null
  by_cases between : operator = "between"
  · rw [if_pos between, map_eq_ok_iff] at accepted
    obtain ⟨predicate, range, same⟩ := accepted
    cases same
    unfold betweenOperand at range
    split at range <;> cases range
    exact .between between rfl
  rw [if_neg between] at accepted
  by_cases oneOf : operator = "in"
  · rw [if_pos oneOf] at accepted
    cases accepted
    exact .oneOf oneOf present
  rw [if_neg oneOf] at accepted
  by_cases noneOf : operator = "not in"
  · rw [if_pos noneOf] at accepted
    cases accepted
    exact .noneOf noneOf present
  rw [if_neg noneOf] at accepted
  by_cases search : operator = "search"
  · rw [if_pos search, map_eq_ok_iff] at accepted
    obtain ⟨pattern, sought, same⟩ := accepted
    cases same
    unfold searchOperand at sought
    split at sought <;> cases sought
    · exact .searchText search rfl
    · exact .searchNumber search rfl
  · rw [if_neg search] at accepted
    cases accepted
    exact .compare (by simp [notNull, between, oneOf, noneOf, search]) present

/-- Acceptance depends on nothing but the operator and the operand. -/
theorem OperatorReads.accepted {operator : String} {operand : Json} {read : Option Predicate}
    (reads : OperatorReads operator operand read) (directive field : String) :
    readOperator directive field operator operand = .ok read := by
  cases reads with
  | notNull same => exact if_pos same
  | leftOut other null => rw [readOperator, if_neg other, if_pos null]
  | between same range =>
      subst same range
      rfl
  | oneOf same present | noneOf same present =>
      subst same
      simp [readOperator, present]
  | searchText same sought | searchNumber same sought =>
      subst same sought
      rfl
  | compare plain present =>
      simp only [List.mem_cons, List.not_mem_nil, or_false, not_or] at plain
      simp [readOperator, plain, present]

theorem readOperators_cons_ok {field token : String} {operand : Json}
    {rest : List (String × Json)} {predicates : List Predicate}
    (accepted : readOperators directive field ((token, operand) :: rest) = .ok predicates) :
    ∃ first others, readOperator directive field (Operator.resolve token) operand = .ok first ∧
      readOperators directive field rest = .ok others ∧ predicates = first.toList ++ others := by
  rw [readOperators, bind_eq_ok_iff] at accepted
  obtain ⟨first, head, accepted⟩ := accepted
  obtain ⟨others, tail, same⟩ := bind_eq_ok_iff.mp accepted
  cases same
  exact ⟨first, others, head, tail, rfl⟩

theorem columnName_ok {key field : String} (accepted : columnName directive key = .ok field) :
    field = Text.lower key ∧ Text.allBlank key = false := by
  unfold columnName at accepted
  split at accepted
  · contradiction
  next named =>
    cases accepted
    exact ⟨rfl, by simpa using named⟩

/-- An accepted field is one of the record itself or one of a related record. -/
theorem readField_ok {key : String} {value : Json} {filters : List Filter}
    (accepted : readField directive key value = .ok filters) :
    (relationPath? key = none ∧ Text.allBlank key = false ∧
      ∃ predicates, readPredicates directive (Text.lower key) value = .ok predicates ∧
        filters = predicates.map (.leaf (Text.lower key))) ∨
    (∃ relation field, relationPath? key = some (relation, field) ∧
      relation.isEmpty = false ∧ field.isEmpty = false ∧
      ∃ predicates, readPredicates directive field value = .ok predicates ∧
        filters = predicates.map (.related (Text.lower relation) field)) := by
  unfold readField at accepted
  cases path : relationPath? key with
  | none =>
      left
      simp only [path] at accepted
      obtain ⟨column, named, accepted⟩ := bind_eq_ok_iff.mp accepted
      obtain ⟨predicates, read, same⟩ := bind_eq_ok_iff.mp accepted
      obtain ⟨lowered, present⟩ := columnName_ok named
      cases same
      cases lowered
      exact ⟨rfl, present, predicates, read, rfl⟩
  | some parts =>
      right
      rcases parts with ⟨relation, field⟩
      simp only [path] at accepted
      by_cases malformed : (relation.isEmpty || field.isEmpty) = true
      · simp [malformed, invalid] at accepted
      · simp only [malformed, Bool.false_eq_true, ↓reduceIte] at accepted
        obtain ⟨predicates, read, same⟩ := bind_eq_ok_iff.mp accepted
        cases same
        simp only [Bool.or_eq_true, not_or, Bool.not_eq_true] at malformed
        exact ⟨relation, field, rfl, malformed.1, malformed.2, predicates, read, rfl⟩

theorem relationPath?_eq_none {key : String} (path : relationPath? key = none) :
    '.' ∉ key.toList := by
  simp only [relationPath?, Option.map_eq_none_iff, Text.cutLast_eq_none_iff] at path
  intro dot
  simpa using path '.' dot

theorem relationPath?_eq_some {key relation field : String}
    (path : relationPath? key = some (relation, field)) :
    key = relation ++ "." ++ field ∧ '.' ∉ field.toList := by
  simp only [relationPath?, Option.map_eq_some_iff, Prod.mk.injEq, Prod.exists] at path
  obtain ⟨before, after, cut, rfl, rfl⟩ := path
  obtain ⟨dot, isDot, whole, clear⟩ := Text.cutLast_eq_some cut
  -- the cut is at a dot, and no dot is left behind it
  have same : dot = '.' := by simpa using isDot
  subst same
  constructor
  · apply String.toList_inj.mp
    simp [whole]
  · intro dot
    have := clear '.' (by simpa using dot)
    simp at this

/-! A field that is accepted under one directive is accepted under any other, as the same filters:
the directive only says for what a fault is reported. -/

theorem readOperators_under {field : String} {operators : List (String × Json)}
    {predicates : List Predicate}
    (accepted : readOperators directive field operators = .ok predicates) (other : String) :
    readOperators other field operators = .ok predicates := by
  induction operators generalizing predicates with
  | nil => exact accepted
  | cons operator rest ih =>
      rcases operator with ⟨token, operand⟩
      obtain ⟨first, others, head, tail, same⟩ := readOperators_cons_ok accepted
      have reads := readOperator_ok head
      simp only [readOperators, reads.accepted other field, ih tail, same]
      rfl

theorem readPredicates_under {field : String} {value : Json} {predicates : List Predicate}
    (accepted : readPredicates directive field value = .ok predicates) (other : String) :
    readPredicates other field value = .ok predicates := by
  cases value with
  | object operators => exact readOperators_under accepted other
  | array items => cases accepted
  | _ => exact accepted

theorem readField_under {key : String} {value : Json} {filters : List Filter}
    (accepted : readField directive key value = .ok filters) (other : String) :
    readField other key value = .ok filters := by
  rcases readField_ok accepted with
    ⟨path, visible, predicates, read, same⟩ |
      ⟨relation, field, path, present, named, predicates, read, same⟩
  · have column : columnName other key = .ok (Text.lower key) := by simp [columnName, visible]
    simp only [readField, path, column, same]
    simp only [bind, Except.bind, readPredicates_under read other]
    rfl
  · simp only [readField, path, present, named, Bool.or_self, Bool.false_eq_true, ↓reduceIte,
      readPredicates_under read other, same]
    rfl

end Filter

end DeclarativeQuery
