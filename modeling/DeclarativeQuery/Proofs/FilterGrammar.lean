import DeclarativeQuery.Json.Basic
import DeclarativeQuery.Proofs.FilterReading

/-!
The grammar of filters, stated on mappings without reading them. Which operands an operator takes,
which keys name a field and which open a group are told apart first; a filter of some depth is then
a mapping whose entries are fields with fitting values, groups of filters one level less deep, or
null. A filter is read if and only if the grammar has it.
-/

namespace DeclarativeQuery

inductive OperandFits (operator : String) : Json → Prop
  | disregarded (same : operator = "not null") (operand : Json) : OperandFits operator operand
  | leftOut : OperandFits operator .null
  | range (same : operator = "between") (lower upper : Json) :
      OperandFits operator (.array [lower, upper])
  | text (same : operator = "search") (text : String) : OperandFits operator (.string text)
  | number (same : operator = "search") (value : Number) : OperandFits operator (.number value)
  | any (other : operator ∉ ["not null", "between", "search"]) (operand : Json) :
      OperandFits operator operand

inductive ValueFits : Json → Prop
  | bool (value : Bool) : ValueFits (.bool value)
  | number (value : Number) : ValueFits (.number value)
  | string (value : String) : ValueFits (.string value)
  | operators {operators : List (String × Json)}
      (each : ∀ token operand, (token, operand) ∈ operators →
        OperandFits (Operator.resolve token) operand) : ValueFits (.object operators)

/-- The field that a key stands for: the key itself in lower case, or what follows its last dot. -/
inductive NamesField (key : String) : String → Prop
  | own (dotless : '.' ∉ key.toList) (visible : ∃ c ∈ key.toList, Text.isBlank c = false) :
      NamesField key (Text.lower key)
  | related {relation field : String} (cut : key = relation ++ "." ++ field)
      (last : '.' ∉ field.toList) (present : relation ≠ "") (named : field ≠ "") :
      NamesField key field

def Settings.OpensGroup (settings : Settings) (key : String) : Prop :=
  (∃ word ∈ ["and", "or"], Text.equalIgnoringCase key word = true) ∧
    ∀ column ∈ settings.literalColumns, Text.equalIgnoringCase column key = false

/-- An entry that is not null; `inside` tells which mappings a group may hold. -/
inductive EntryFits (settings : Settings) (inside : Json → Prop) (key : String) : Json → Prop
  | group {entries : List (String × Json)} (opens : settings.OpensGroup key)
      (fits : inside (.object entries)) : EntryFits settings inside key (.object entries)
  | field {name : String} {value : Json} (plain : ¬ settings.OpensGroup key)
      (named : NamesField key name) (fits : ValueFits value) : EntryFits settings inside key value

/-- Filters with at most as many levels of mappings, one inside the other. -/
def Grammatical (settings : Settings) : Nat → Json → Prop
  | 0, _ => False
  | levels + 1, filter => ∃ entries, filter = .object entries ∧
      ∀ key value, (key, value) ∈ entries →
        value = .null ∨ EntryFits settings (Grammatical settings levels) key value

theorem Settings.groupKey?_eq_none_iff (settings : Settings) (key : String) :
    settings.groupKey? key = none ↔ ¬ settings.OpensGroup key := by
  have literal : settings.isLiteralColumn key = false ↔
      ∀ column ∈ settings.literalColumns, Text.equalIgnoringCase column key = false := by
    simp [isLiteralColumn]
  unfold groupKey? OpensGroup Connective.ofKey?
  rw [← literal]
  cases settings.isLiteralColumn key <;> cases conjunction : Text.equalIgnoringCase key "and" <;>
    cases disjunction : Text.equalIgnoringCase key "or" <;> simp [conjunction, disjunction]

namespace Filter

variable {settings : Settings} {directive key field : String} {value : Json}

/-! Operators and their operands. -/

theorem operandFits_iff (operator : String) (operand : Json) :
    OperandFits operator operand ↔ ∃ read, OperatorReads operator operand read := by
  constructor
  · intro fits
    cases fits with
    | disregarded same => exact ⟨_, .notNull same⟩
    | leftOut =>
        by_cases same : operator = "not null"
        · exact ⟨_, .notNull same⟩
        · exact ⟨_, .leftOut same rfl⟩
    | range same lower upper => exact ⟨_, .between same rfl⟩
    | text same text => exact ⟨_, .searchText same rfl⟩
    | number same value => exact ⟨_, .searchNumber same rfl⟩
    | any other =>
        -- the grammar takes these operators together, the reader tells `in` and `not in` apart
        simp only [List.mem_cons, List.not_mem_nil, or_false, not_or] at other
        cases null : operand.isNull with
        | true => exact ⟨_, .leftOut other.1 null⟩
        | false =>
            by_cases oneOf : operator = "in"
            · exact ⟨_, .oneOf oneOf null⟩
            by_cases noneOf : operator = "not in"
            · exact ⟨_, .noneOf noneOf null⟩
            · exact ⟨_, .compare (by simp [other, oneOf, noneOf]) null⟩
  · rintro ⟨read, reads⟩
    cases reads with
    | notNull same => exact .disregarded same operand
    | leftOut other null =>
        cases operand <;> simp [Json.isNull] at null
        exact .leftOut
    | between same range =>
        subst range
        exact .range same _ _
    | searchText same sought =>
        subst sought
        exact .text same _
    | searchNumber same sought =>
        subst sought
        exact .number same _
    | oneOf same present | noneOf same present => exact .any (by simp [same]) operand
    | compare plain present =>
        refine .any ?_ operand
        simp only [List.mem_cons, List.not_mem_nil, or_false, not_or] at plain ⊢
        exact ⟨plain.1, plain.2.1, plain.2.2.2.2⟩

theorem readOperator_ok_iff (operator : String) (operand : Json) :
    (∃ read, readOperator directive field operator operand = .ok read) ↔
      OperandFits operator operand := by
  rw [operandFits_iff]
  constructor
  · rintro ⟨read, accepted⟩
    exact ⟨read, readOperator_ok accepted⟩
  · rintro ⟨read, reads⟩
    exact ⟨read, reads.accepted directive field⟩

theorem readOperators_ok_iff (operators : List (String × Json)) :
    (∃ predicates, readOperators directive field operators = .ok predicates) ↔
      ∀ token operand, (token, operand) ∈ operators →
        OperandFits (Operator.resolve token) operand := by
  induction operators with
  | nil => simp [readOperators]
  | cons operator rest ih =>
      rcases operator with ⟨token, operand⟩
      rw [readOperators, both_ok_iff, readOperator_ok_iff, ih, Entries.forall_mem_cons]

/-- Null never gets here: null entries are left out before their value is looked at. -/
theorem readPredicates_ok_iff (some : value ≠ .null) :
    (∃ predicates, readPredicates directive field value = .ok predicates) ↔ ValueFits value := by
  cases value with
  | null => exact absurd rfl some
  | bool value => exact ⟨fun _ => .bool value, fun _ => ⟨_, rfl⟩⟩
  | number value => exact ⟨fun _ => .number value, fun _ => ⟨_, rfl⟩⟩
  | string value => exact ⟨fun _ => .string value, fun _ => ⟨_, rfl⟩⟩
  | array items =>
      constructor
      · rintro ⟨predicates, accepted⟩
        cases accepted
      · intro fits
        cases fits
  | object operators =>
      rw [readPredicates, readOperators_ok_iff]
      constructor
      · exact .operators
      · intro fits
        cases fits with
        | operators each => exact each

/-! Keys. -/

theorem relationPath?_eq_none_iff : relationPath? key = none ↔ '.' ∉ key.toList := by
  refine ⟨relationPath?_eq_none, ?_⟩
  intro dotless
  simp only [relationPath?, Option.map_eq_none_iff, Text.cutLast_eq_none_iff]
  intro c member
  have apart : c ≠ '.' := ne_of_mem_of_not_mem member dotless
  simpa using apart

theorem relationPath?_eq_some_iff {relation : String} :
    relationPath? key = some (relation, field) ↔
      key = relation ++ "." ++ field ∧ '.' ∉ field.toList := by
  refine ⟨relationPath?_eq_some, ?_⟩
  rintro ⟨cut, last⟩
  have parts : Text.cutLast (· == '.') key.toList = some (relation.toList, field.toList) := by
    have clear : ∀ d ∈ field.toList, (d == '.') = false := by
      intro d member
      have apart : d ≠ '.' := ne_of_mem_of_not_mem member last
      simpa using apart
    have split : key.toList = relation.toList ++ '.' :: field.toList := by simp [cut]
    rw [split]
    exact Text.cutLast_append relation.toList rfl clear
  simp [relationPath?, parts]

theorem allBlank_eq_false_iff :
    Text.allBlank key = false ↔ ∃ c ∈ key.toList, Text.isBlank c = false := by
  simp [Text.allBlank]

/-- A field is read by reading its predicates. -/
theorem readField_of_named (directive : String) (named : NamesField key field) (value : Json) :
    ∃ build : Predicate → Filter, readField directive key value =
      (readPredicates directive field value).map (List.map build) := by
  cases named with
  | own dotless visible =>
      refine ⟨.leaf (Text.lower key), ?_⟩
      simp only [readField, relationPath?_eq_none_iff.mpr dotless, columnName,
        allBlank_eq_false_iff.mpr visible, Bool.false_eq_true, ↓reduceIte, bind, Except.bind]
      cases readPredicates directive (Text.lower key) value <;> rfl
  | @related relation _ cut last present named =>
      refine ⟨.related (Text.lower relation) field, ?_⟩
      simp only [readField, relationPath?_eq_some_iff.mpr ⟨cut, last⟩, String.isEmpty_iff, present,
        named, Bool.or_eq_true, or_self, ↓reduceIte]
      cases readPredicates directive field value <;> rfl

theorem readField_of_unnamed (directive : String) (unnamed : ∀ field, ¬ NamesField key field)
    (value : Json) :
    ∃ fault, readField directive key value = .error (.invalidArgument directive fault) := by
  unfold readField
  cases path : relationPath? key with
  | none =>
      cases blank : Text.allBlank key with
      | true =>
          simp only [columnName, blank, ↓reduceIte]
          exact ⟨_, rfl⟩
      | false =>
          have own : NamesField key _ :=
            .own (relationPath?_eq_none_iff.mp path) (allBlank_eq_false_iff.mp blank)
          exact absurd own (unnamed _)
  | some parts =>
      rcases parts with ⟨relation, field⟩
      obtain ⟨cut, last⟩ := relationPath?_eq_some path
      cases missing : relation.isEmpty || field.isEmpty with
      | true =>
          simp only [missing, ↓reduceIte]
          exact ⟨_, rfl⟩
      | false =>
          simp only [Bool.or_eq_false_iff, String.isEmpty_eq_false_iff] at missing
          exact absurd (.related cut last missing.1 missing.2) (unnamed field)

theorem readField_ok_iff (some : value ≠ .null) :
    (∃ filters, readField directive key value = .ok filters) ↔
      (∃ field, NamesField key field) ∧ ValueFits value := by
  by_cases named : ∃ field, NamesField key field
  · obtain ⟨field, stands⟩ := named
    obtain ⟨build, same⟩ := readField_of_named directive stands value
    rw [same, map_ok_iff, readPredicates_ok_iff some]
    exact ⟨fun fits => ⟨⟨field, stands⟩, fits⟩, And.right⟩
  · obtain ⟨fault, refused⟩ := readField_of_unnamed directive (not_exists.mp named) value
    rw [refused]
    constructor
    · rintro ⟨filters, accepted⟩
      cases accepted
    · rintro ⟨stands, _⟩
      exact absurd stands named

/-! Levels. -/

theorem readEntry_ok_iff {room : Nat} :
    (∃ filters, readEntry settings directive room key value = .ok filters) ↔
      value = .null ∨ EntryFits settings (fun inner => ∃ filters,
        readLevel settings directive room inner = .ok filters) key value := by
  by_cases null : value = .null
  · subst null
    exact ⟨fun _ => .inl rfl, fun _ => ⟨[], rfl⟩⟩
  have some : value.isNull = false := by
    cases value <;> first | rfl | exact absurd rfl null
  simp only [null, false_or, readEntry, some, Bool.false_eq_true, ↓reduceIte]
  cases group : settings.groupKey? key with
  | none =>
      have plain := (settings.groupKey?_eq_none_iff key).mp group
      rw [readField_ok_iff null]
      constructor
      · rintro ⟨⟨name, named⟩, fits⟩
        exact .field plain named fits
      · intro entry
        cases entry with
        | group opens => exact absurd opens plain
        | field _ named fits => exact ⟨⟨_, named⟩, fits⟩
  | some connective =>
      have opens : settings.OpensGroup key := by
        have named : settings.groupKey? key ≠ none := by simp [group]
        rw [Ne, settings.groupKey?_eq_none_iff] at named
        exact Classical.not_not.mp named
      cases value with
      | object entries =>
          simp only [Json.isObject, ↓reduceIte]
          rw [map_ok_iff]
          constructor
          · intro inside
            exact .group opens inside
          · intro entry
            cases entry with
            | group _ inside => exact inside
            | field plain => exact absurd opens plain
      | _ =>
          simp only [Json.isObject, Bool.false_eq_true, ↓reduceIte]
          constructor
          · rintro ⟨filters, accepted⟩
            cases accepted
          · intro entry
            cases entry with
            | field plain => exact absurd opens plain

theorem readEntries_ok_iff {room : Nat} (entries : List (String × Json)) :
    (∃ filters, readEntries settings directive room entries = .ok filters) ↔
      ∀ key value, (key, value) ∈ entries →
        value = .null ∨ EntryFits settings (fun inner => ∃ filters,
          readLevel settings directive room inner = .ok filters) key value := by
  induction entries with
  | nil => simp [readEntries]
  | cons entry rest ih =>
      rcases entry with ⟨key, value⟩
      rw [readEntries_cons, both_ok_iff, readEntry_ok_iff, ih, Entries.forall_mem_cons]

/-- A level is read if it is grammatical with the room that is left. -/
theorem readLevel_ok_iff (room : Nat) (payload : Json) :
    (∃ filters, readLevel settings directive room payload = .ok filters) ↔
      Grammatical settings room payload := by
  induction room generalizing payload with
  | zero => cases payload <;> simp [readLevel, invalid, Grammatical]
  | succ below ih =>
      -- groups are below the entries, so the hypothesis is needed as an equality of predicates
      have inside : (fun inner => ∃ filters,
          readLevel settings directive below inner = .ok filters) = Grammatical settings below :=
        funext fun inner => propext (ih inner)
      cases payload with
      | object entries => simp [readLevel, readEntries_ok_iff, inside, Grammatical]
      | _ => simp [readLevel, invalid, Grammatical]

end Filter

end DeclarativeQuery
