import DeclarativeQuery.Proofs.FilterEntries
import DeclarativeQuery.Proofs.FilterGrammar

/-!
Why a filter is refused. A reading fails with a fault of the directive that the filter belongs to,
or with the arity of one of its `between` entries. Together with the grammar that settles what
becomes of any payload.
-/

namespace DeclarativeQuery

def operandCount : Json → Nat
  | .array items => items.length
  | _ => 1

inductive Refusal (directive : String) (entries : List FilterEntry) : Error → Prop
  | argument (fault : Fault) : Refusal directive entries (.invalidArgument directive fault)
  | arity {entry : FilterEntry} {field : String} (member : entry ∈ entries)
      (named : NamesField entry.key field) (range : entry.operator? = some "between")
      (wrong : operandCount entry.operand ≠ 2) :
      Refusal directive entries (.operatorArity field "between" 2 (operandCount entry.operand))

theorem Refusal.mono {directive : String} {some more : List FilterEntry} {error : Error}
    (refusal : Refusal directive some error) (among : some ⊆ more) :
    Refusal directive more error := by
  cases refusal with
  | argument fault => exact .argument fault
  | arity member named range wrong => exact .arity (among member) named range wrong

namespace Filter

variable {settings : Settings} {directive key field : String} {error : Error}

theorem betweenOperand_error {operator : String} {operand : Json}
    (refused : betweenOperand field operator operand = .error error) :
    operandCount operand ≠ 2 ∧ error = .operatorArity field operator 2 (operandCount operand) := by
  unfold betweenOperand at refused
  split at refused
  · cases refused
  next bounds shape =>
      cases refused
      refine ⟨?_, rfl⟩
      intro two
      obtain ⟨lower, upper, pair⟩ := List.length_eq_two.mp two
      exact shape lower upper (by rw [pair])
  next _ single =>
      cases refused
      cases operand with
      | array bounds => exact absurd rfl (single bounds)
      | _ => exact ⟨by simp [operandCount], rfl⟩

/-- An operator is refused for what it makes of its operand, and then the operand is not null. -/
theorem readOperator_error {operator : String} {operand : Json}
    (refused : readOperator directive field operator operand = .error error) :
    operand.isNull = false ∧
      ((∃ fault, error = .invalidArgument directive fault) ∨
        operator = "between" ∧ operandCount operand ≠ 2 ∧
          error = .operatorArity field "between" 2 (operandCount operand)) := by
  unfold readOperator at refused
  split at refused
  · cases refused
  split at refused
  · cases refused
  next present =>
  refine ⟨by simpa using present, ?_⟩
  split at refused
  next between =>
    subst between
    exact .inr ⟨rfl, betweenOperand_error (map_eq_error_iff.mp refused)⟩
  split at refused
  · cases refused
  split at refused
  · cases refused
  split at refused
  · left
    have sought := map_eq_error_iff.mp refused
    unfold searchOperand at sought
    split at sought <;> cases sought
    exact ⟨_, rfl⟩
  · cases refused

theorem readOperators_refusal (named : NamesField key field) {operators : List (String × Json)}
    (refused : readOperators directive field operators = .error error) :
    Refusal directive (FilterEntry.ofField key (.object operators)) error := by
  induction operators with
  | nil => cases refused
  | cons operator rest ih =>
      rcases operator with ⟨token, operand⟩
      rw [FilterEntry.ofField_cons]
      rcases both_eq_error refused with head | tail
      · -- the operand is not null, so the operator has an entry of its own
        obtain ⟨present, why⟩ := readOperator_error head
        rw [present, Bool.false_and]
        rcases why with ⟨fault, same⟩ | ⟨between, wrong, same⟩
        · rw [same]
          exact .argument fault
        · rw [same]
          have range : (FilterEntry.mk key (some token) operand).operator? = some "between" := by
            rw [FilterEntry.operator?, Option.map_some, between]
          exact .arity (List.mem_append_left _ List.mem_cons_self) named range wrong
      · exact (ih tail).mono (List.subset_append_right _ _)

theorem readPredicates_refusal (named : NamesField key field) {value : Json}
    (refused : readPredicates directive field value = .error error) :
    Refusal directive (FilterEntry.ofField key value) error := by
  cases value with
  | object operators => exact readOperators_refusal named refused
  | array items =>
      cases refused
      exact .argument _
  | _ => cases refused

theorem readField_refusal {value : Json}
    (refused : readField directive key value = .error error) :
    Refusal directive (FilterEntry.ofField key value) error := by
  by_cases stands : ∃ field, NamesField key field
  · obtain ⟨field, named⟩ := stands
    obtain ⟨build, same⟩ := readField_of_named directive named value
    rw [same, map_eq_error_iff] at refused
    exact readPredicates_refusal named refused
  · obtain ⟨fault, same⟩ := readField_of_unnamed directive (not_exists.mp stands) value
    rw [same] at refused
    cases refused
    exact .argument fault

/-- An entry is refused for what it is itself, for the level inside it, or as a field. -/
theorem readEntry_error {room : Nat} {value : Json}
    (refused : readEntry settings directive room key value = .error error) :
    value.isNull = false ∧
      ((∃ fault, error = .invalidArgument directive fault) ∨
        (∃ connective, settings.groupKey? key = some connective ∧
          readLevel settings directive room value = .error error) ∨
        settings.groupKey? key = none ∧ readField directive key value = .error error) := by
  unfold readEntry at refused
  split at refused
  · cases refused
  next present =>
  refine ⟨by simpa using present, ?_⟩
  split at refused
  next connective group =>
    split at refused
    · exact .inr (.inl ⟨connective, group, map_eq_error_iff.mp refused⟩)
    · cases refused
      exact .inl ⟨_, rfl⟩
  next group => exact .inr (.inr ⟨group, refused⟩)

mutual

theorem readLevel_refusal : ∀ (payload : Json) {room : Nat} {error : Error},
    readLevel settings directive room payload = .error error →
    Refusal directive (FilterEntry.ofFilter settings payload) error
  | .object entries, room, _, refused => by
      cases room with
      | zero =>
          cases refused
          exact .argument _
      | succ below =>
          rw [readLevel] at refused
          exact readEntries_refusal entries refused
  | .null, room, _, refused | .bool _, room, _, refused | .number _, room, _, refused
  | .string _, room, _, refused | .array _, room, _, refused => by
      simp only [readLevel, invalid] at refused
      split at refused <;> cases refused <;> exact .argument _
termination_by structural payload => payload

theorem readEntries_refusal : ∀ (entries : List (String × Json)) {room : Nat} {error : Error},
    readEntries settings directive room entries = .error error →
    Refusal directive (FilterEntry.ofEntries settings entries) error
  | [], _, _, refused => by cases refused
  | (key, value) :: rest, room, _, refused => by
      rw [readEntries_cons] at refused
      rw [FilterEntry.ofEntries]
      rcases both_eq_error refused with head | tail
      · refine Refusal.mono ?_ (List.subset_append_left _ _)
        obtain ⟨present, ⟨fault, same⟩ | ⟨connective, group, inside⟩ | ⟨group, read⟩⟩ :=
          readEntry_error head
        · rw [same]
          exact .argument fault
        · simp only [present, group, Bool.false_eq_true, ↓reduceIte]
          exact readLevel_refusal value inside
        · simp only [present, group, Bool.false_eq_true, ↓reduceIte]
          exact readField_refusal read
      · exact (readEntries_refusal rest tail).mono (List.subset_append_right _ _)
termination_by structural entries => entries

end

/-- A payload is read if and only if it is in the grammar, with as many levels as the settings
allow. If it is not, the error is a fault of the directive or tells the arity of a `between` entry
of the payload, which expects two values and has another number of them. -/
theorem read_decides_grammar (settings : Settings) (directive : String) (payload : Json) :
    ((∃ filters, read settings directive payload = .ok filters) ↔
      Grammatical settings settings.maxNestingDepth payload) ∧
    ∀ error, read settings directive payload = .error error →
      Refusal directive (FilterEntry.ofFilter settings payload) error := by
  refine ⟨readLevel_ok_iff settings.maxNestingDepth payload, ?_⟩
  intro error refused
  exact readLevel_refusal payload refused

def shallow : Settings := { maxNestingDepth := 2, literalColumns := ["OR"] }

theorem shallow_settings_decide_grammar :
    let group : Json := .object [("and", .object [
      ("or", .whole 1), ("posts.Author", .object [("search", .string "x"), ("between", .null)])])]
    let tooDeep : Json := .object [("and", .object [("and", .object [])])]
    let narrow : Json := .object [("and", .object [("Age", .object [("between", .whole 3)])])]
    Grammatical shallow 2 group ∧ ¬ Grammatical shallow 2 tooDeep ∧
    read shallow Directive.filter narrow = .error (.operatorArity "age" "between" 2 1) ∧
    Refusal Directive.filter (FilterEntry.ofFilter shallow narrow)
      (.operatorArity "age" "between" 2 1) := by
  intro group tooDeep narrow
  have refused : read shallow Directive.filter narrow =
      .error (.operatorArity "age" "between" 2 1) := rfl
  refine ⟨?_, ?_, refused, ?_⟩
  · exact (read_decides_grammar shallow Directive.filter group).1.mp ⟨_, rfl⟩
  · intro grammatical
    obtain ⟨filters, accepted⟩ :=
      (read_decides_grammar shallow Directive.filter tooDeep).1.mpr grammatical
    cases accepted
  · exact (read_decides_grammar shallow Directive.filter narrow).2 _ refused

end Filter

end DeclarativeQuery
