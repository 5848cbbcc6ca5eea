import DeclarativeQuery.Proofs.FilterReading

/-!
Filters without their null entries. Both readers do the same with what is left: they report the same
fault or read the same predicates, in the same places. What they check about a key, a value or the
depth of a group is not checked for an entry that is null.
-/

namespace DeclarativeQuery

namespace Filter

/-- An operator with a null operand is left out, unless it disregards its operand. -/
def countsOperator (operator : String × Json) : Bool :=
  !(operator.2.isNull && Operator.resolve operator.1 != "not null")

def countedOperators : Json → Json
  | .object operators => .object (operators.filter countsOperator)
  | value => value

mutual

/-- Null entries are removed from every group, and operators that do not count from every field. -/
def withoutNulls (settings : Settings) : Json → Json
  | .object entries => .object (entriesWithoutNulls settings entries)
  | filter => filter
termination_by structural filter => filter

def entriesWithoutNulls (settings : Settings) : List (String × Json) → List (String × Json)
  | [] => []
  | (key, value) :: rest =>
      if value.isNull then entriesWithoutNulls settings rest
      else
        let counted := match settings.groupKey? key with
          | some _ => withoutNulls settings value
          | none => countedOperators value
        (key, counted) :: entriesWithoutNulls settings rest
termination_by structural entries => entries

end

variable {settings : Settings} {directive : String}

theorem countedOperators_isNull (value : Json) :
    (countedOperators value).isNull = value.isNull := by
  cases value <;> rfl

theorem withoutNulls_isNull (filter : Json) :
    (withoutNulls settings filter).isNull = filter.isNull := by
  cases filter <;> rfl

theorem withoutNulls_isObject (filter : Json) :
    (withoutNulls settings filter).isObject = filter.isObject := by
  cases filter <;> rfl

/-! What is left of an entry is read like the entry. -/

theorem readOperator_uncounted {field token : String} {operand : Json}
    (uncounted : countsOperator (token, operand) = false) :
    readOperator directive field (Operator.resolve token) operand = .ok none := by
  simp only [countsOperator, Bool.not_eq_false', Bool.and_eq_true, bne_iff_ne] at uncounted
  rw [readOperator, if_neg uncounted.2, if_pos uncounted.1]

theorem readOperators_counted (field : String) (operators : List (String × Json)) :
    readOperators directive field (operators.filter countsOperator) =
      readOperators directive field operators := by
  induction operators with
  | nil => rfl
  | cons operator rest ih =>
      rcases operator with ⟨token, operand⟩
      cases counts : countsOperator (token, operand) with
      | true => rw [List.filter_cons_of_pos counts, readOperators, readOperators, ih]
      | false =>
          rw [List.filter_cons_of_neg (by simp [counts]), ih, readOperators,
            readOperator_uncounted counts]
          cases readOperators directive field rest <;> rfl

theorem readPredicates_counted (field : String) (value : Json) :
    readPredicates directive field (countedOperators value) =
      readPredicates directive field value := by
  cases value with
  | object operators => exact readOperators_counted field operators
  | _ => rfl

theorem readField_counted (key : String) (value : Json) :
    readField directive key (countedOperators value) = readField directive key value := by
  simp only [readField, readPredicates_counted]

/-! Groups: the room below a level is the same, whatever was removed from it. -/

mutual

theorem readLevel_withoutNulls : ∀ (filter : Json) (room : Nat),
    readLevel settings directive room (withoutNulls settings filter) =
      readLevel settings directive room filter
  | .object _, 0 => rfl
  | .object entries, below + 1 => readEntries_withoutNulls entries below
  | .null, _ | .bool _, _ | .number _, _ | .string _, _ | .array _, _ => rfl
termination_by structural filter => filter

theorem readEntries_withoutNulls : ∀ (entries : List (String × Json)) (room : Nat),
    readEntries settings directive room (entriesWithoutNulls settings entries) =
      readEntries settings directive room entries
  | [], _ => rfl
  | (key, value) :: rest, room => by
      have onward := readEntries_withoutNulls rest room
      by_cases null : value.isNull = true
      · rw [entriesWithoutNulls, if_pos null, onward, readEntries, if_pos null]
      · rw [entriesWithoutNulls, if_neg null, readEntries_cons, readEntries_cons, onward]
        cases group : settings.groupKey? key with
        | none =>
            simp only [readEntry, group, countedOperators_isNull, readField_counted]
        | some connective =>
            simp only [readEntry, group, withoutNulls_isNull, withoutNulls_isObject,
              readLevel_withoutNulls value room]
termination_by structural entries => entries

end

end Filter

namespace HavingTerm

variable {settings : Settings} {directive : String}

theorem readEntries_withoutNulls (entries : List (String × Json)) :
    readEntries settings directive (Filter.entriesWithoutNulls settings entries) =
      readEntries settings directive entries := by
  induction entries with
  | nil => rfl
  | cons entry rest ih =>
      rcases entry with ⟨key, value⟩
      by_cases null : value.isNull = true
      · rw [Filter.entriesWithoutNulls, if_pos null, ih, readEntries, if_pos null]
      · rw [Filter.entriesWithoutNulls, if_neg null, readEntries, readEntries, ih]
        cases group : settings.groupKey? key with
        | none =>
            simp only [Filter.countedOperators_isNull, Filter.readPredicates_counted]
        | some connective => simp only [Filter.withoutNulls_isNull]

theorem read_withoutNulls (filter : Json) :
    read settings directive (Filter.withoutNulls settings filter) =
      read settings directive filter := by
  cases filter with
  | object entries => exact readEntries_withoutNulls entries
  | _ => rfl

end HavingTerm

/-- Leaving out every null entry of every group, and every null operand that its operator does not
disregard, changes neither the result nor the error of either reader. -/
theorem Filter.null_entries_are_not_read (settings : Settings) (directive : String)
    (filter : Json) :
    Filter.read settings directive (withoutNulls settings filter) =
      Filter.read settings directive filter ∧
    HavingTerm.read settings directive (withoutNulls settings filter) =
      HavingTerm.read settings directive filter :=
  ⟨readLevel_withoutNulls filter settings.maxNestingDepth, HavingTerm.read_withoutNulls filter⟩

/-- Null hides a broken path, a blank key, a group that is no mapping and a missing operand. -/
example : Filter.withoutNulls {} (.object [
    ("a..b", .null), (" ", .null), ("or", .null),
    ("and", .object [("a", .null), ("b", .object [("gt", .null), ("NN", .null)])])]) =
    .object [("and", .object [("b", .object [("NN", .null)])])] :=
  rfl

end DeclarativeQuery
