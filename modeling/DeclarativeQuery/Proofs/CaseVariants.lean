import Mathlib.Data.List.Forall2
import DeclarativeQuery.Proofs.CanonicalOperators
import DeclarativeQuery.Proofs.FilterGrammar

/-!
Spellings of one filter. Keys of groups and columns, operator tokens and what stands before the last
dot of a key may be written in any case. Filters that differ in nothing else are read as the same
filter, or both refused; filters on grouped records are not even told apart by their errors.
-/

namespace DeclarativeQuery

/-! Spellings of one key. -/

section Spellings
variable {first second : String}

theorem Text.all_congr (same : equalIgnoringCase first second = true) {p : Char → Bool}
    (caseless : ∀ c ∈ capitals, p c.toLower = p c) : first.toList.all p = second.toList.all p := by
  have folded : p ∘ Char.toLower = p := funext (toLower_invariant p caseless)
  rw [← folded, ← List.all_map, map_toLower_congr same, List.all_map]

theorem Text.allBlank_congr (same : equalIgnoringCase first second = true) :
    allBlank first = allBlank second :=
  all_congr same (forall_capitals (by decide))

theorem Text.dotless_congr (same : equalIgnoringCase first second = true)
    (dotless : '.' ∉ first.toList) : '.' ∉ second.toList := by
  have clear : first.toList.all (· != '.') = true := by
    rw [List.all_eq_true]
    intro c member
    exact bne_iff_ne.mpr (ne_of_mem_of_not_mem member dotless)
  rw [all_congr same (forall_capitals (by decide)), List.all_eq_true] at clear
  intro dot
  exact bne_iff_ne.mp (clear '.' dot) rfl

theorem Text.isEmpty_congr (same : equalIgnoringCase first second = true) :
    first.isEmpty = second.isEmpty := by
  have lengths := congrArg List.length (map_toLower_congr same)
  rw [List.length_map, List.length_map, String.length_toList, String.length_toList] at lengths
  rw [Bool.eq_iff_iff, String.isEmpty_iff, String.isEmpty_iff, ← String.length_eq_zero_iff,
    ← String.length_eq_zero_iff, lengths]

theorem Settings.groupKey?_spelled (settings : Settings)
    (same : Text.equalIgnoringCase first second = true) :
    settings.groupKey? first = settings.groupKey? second := by
  unfold groupKey? isLiteralColumn Connective.ofKey?
  simp only [Text.equalIgnoringCase_left same, Text.equalIgnoringCase_right same]

end Spellings

/-! Variants. -/

/-- The keys are the same up to case, and the same after the last dot if there is one. -/
inductive KeyVariant : String → String → Prop
  | whole {key other : String} (dotless : '.' ∉ key.toList)
      (same : Text.equalIgnoringCase key other = true) : KeyVariant key other
  | path {relation other field : String} (last : '.' ∉ field.toList)
      (same : Text.equalIgnoringCase relation other = true) :
      KeyVariant (relation ++ "." ++ field) (other ++ "." ++ field)

inductive ValueVariant : Json → Json → Prop
  | same (value : Json) : ValueVariant value value
  | operators {operators others : List (String × Json)}
      (each : List.Forall₂ (fun operator other =>
        Text.equalIgnoringCase operator.1 other.1 = true ∧ operator.2 = other.2)
        operators others) : ValueVariant (.object operators) (.object others)

mutual

inductive FilterVariant (settings : Settings) : Json → Json → Prop
  | same (filter : Json) : FilterVariant settings filter filter
  | mapping {entries others : List (String × Json)}
      (each : EntriesVariant settings entries others) :
      FilterVariant settings (.object entries) (.object others)

inductive EntriesVariant (settings : Settings) :
    List (String × Json) → List (String × Json) → Prop
  | nil : EntriesVariant settings [] []
  | group {key other : String} {value otherValue : Json} {rest others : List (String × Json)}
      (opens : settings.OpensGroup key) (spelled : Text.equalIgnoringCase key other = true)
      (inside : FilterVariant settings value otherValue)
      (onward : EntriesVariant settings rest others) :
      EntriesVariant settings ((key, value) :: rest) ((other, otherValue) :: others)
  | field {key other : String} {value otherValue : Json} {rest others : List (String × Json)}
      (plain : ¬ settings.OpensGroup key) (spelled : KeyVariant key other)
      (states : ValueVariant value otherValue) (onward : EntriesVariant settings rest others) :
      EntriesVariant settings ((key, value) :: rest) ((other, otherValue) :: others)

end

/-- A dot has no meaning here, so keys may differ after it, too. Groups are refused whatever they
hold. -/
inductive HavingEntryVariant (settings : Settings) : String × Json → String × Json → Prop
  | group {key other : String} {value otherValue : Json} (opens : settings.OpensGroup key)
      (spelled : Text.equalIgnoringCase key other = true)
      (held : value.isNull = otherValue.isNull) :
      HavingEntryVariant settings (key, value) (other, otherValue)
  | field {key other : String} {value otherValue : Json}
      (spelled : Text.equalIgnoringCase key other = true)
      (states : ValueVariant value otherValue) :
      HavingEntryVariant settings (key, value) (other, otherValue)

inductive HavingVariant (settings : Settings) : Json → Json → Prop
  | same (filter : Json) : HavingVariant settings filter filter
  | mapping {entries others : List (String × Json)}
      (each : List.Forall₂ (HavingEntryVariant settings) entries others) :
      HavingVariant settings (.object entries) (.object others)

theorem KeyVariant.spelled {key other : String} (variant : KeyVariant key other) :
    Text.equalIgnoringCase key other = true := by
  cases variant with
  | whole dotless same => exact same
  | path last same =>
      have folded := Text.map_toLower_congr same
      simp [Text.equalIgnoringCase, folded]

theorem ValueVariant.isNull_eq {value other : Json} (variant : ValueVariant value other) :
    value.isNull = other.isNull := by
  cases variant <;> rfl

theorem FilterVariant.isNull_eq {settings : Settings} {filter other : Json}
    (variant : FilterVariant settings filter other) : filter.isNull = other.isNull := by
  cases variant <;> rfl

theorem FilterVariant.isObject_eq {settings : Settings} {filter other : Json}
    (variant : FilterVariant settings filter other) : filter.isObject = other.isObject := by
  cases variant <;> rfl

namespace Filter

variable {settings : Settings} {directive : String}

theorem readPredicates_variant {field : String} {value other : Json}
    (variant : ValueVariant value other) :
    readPredicates directive field value = readPredicates directive field other := by
  cases variant with
  | same => rfl
  | operators each =>
      rw [readPredicates, readPredicates]
      induction each with
      | nil => rfl
      | @cons operator other rest others head _ ih =>
          rcases operator with ⟨token, operand⟩
          rcases other with ⟨spelling, same⟩
          obtain ⟨spelled, operands⟩ := head
          cases operands
          rw [readOperators, readOperators, Operator.resolve_congr spelled, ih]

/-- A malformed path is quoted in the error, so only what is accepted is the same. -/
theorem readField_variant {key other : String} {value otherValue : Json}
    (spelled : KeyVariant key other) (states : ValueVariant value otherValue) :
    (readField directive key value).toOption = (readField directive other otherValue).toOption := by
  unfold readField
  cases spelled with
  | whole dotless same =>
      have path := relationPath?_eq_none_iff.mpr dotless
      have otherPath := relationPath?_eq_none_iff.mpr (Text.dotless_congr same dotless)
      rw [path, otherPath, columnName, columnName, Text.allBlank_congr same, Text.lower_congr same]
      simp only [readPredicates_variant states]
  | @path relation other field last same =>
      have path : relationPath? _ = some (relation, field) :=
        relationPath?_eq_some_iff.mpr ⟨rfl, last⟩
      have otherPath : relationPath? _ = some (other, field) :=
        relationPath?_eq_some_iff.mpr ⟨rfl, last⟩
      simp only [path, otherPath, Text.isEmpty_congr same]
      split
      · rfl
      · rw [readPredicates_variant states, Text.lower_congr same]

/-- The entries are read alike if their values are, as far down as the room goes. -/
theorem readEntry_group_congr {key other : String} {value otherValue : Json} {room : Nat}
    (opens : settings.OpensGroup key) (spelled : Text.equalIgnoringCase key other = true)
    (variant : FilterVariant settings value otherValue)
    (inside : (readLevel settings directive room value).toOption =
      (readLevel settings directive room otherValue).toOption) :
    (readEntry settings directive room key value).toOption =
      (readEntry settings directive room other otherValue).toOption := by
  unfold readEntry
  rw [← settings.groupKey?_spelled spelled, ← variant.isNull_eq, ← variant.isObject_eq]
  cases group : settings.groupKey? key with
  | none => exact absurd opens ((settings.groupKey?_eq_none_iff key).mp group)
  | some connective =>
      by_cases null : value.isNull = true
      · simp only [null, ↓reduceIte]
      · by_cases object : value.isObject = true
        · simp only [null, object, ↓reduceIte]
          exact toOption_map_congr inside _
        · simp only [null, object]
          rfl

theorem readEntry_field_congr {key other : String} {value otherValue : Json} (room : Nat)
    (plain : ¬ settings.OpensGroup key) (spelled : KeyVariant key other)
    (states : ValueVariant value otherValue) :
    (readEntry settings directive room key value).toOption =
      (readEntry settings directive room other otherValue).toOption := by
  have field := (settings.groupKey?_eq_none_iff key).mpr plain
  have otherField := (settings.groupKey?_spelled spelled.spelled).symm.trans field
  by_cases null : value.isNull = true
  · simp only [readEntry, ← states.isNull_eq, null, ↓reduceIte]
  · rw [Bool.not_eq_true] at null
    rw [readEntry_field field null, readEntry_field otherField (states.isNull_eq ▸ null),
      readField_variant spelled states]

mutual

theorem readLevel_variant : ∀ {filter other : Json}, FilterVariant settings filter other →
    ∀ room, (readLevel settings directive room filter).toOption =
      (readLevel settings directive room other).toOption
  | _, _, .same _, _ => rfl
  | _, _, .mapping _, 0 => rfl
  | _, _, .mapping each, below + 1 => readEntries_variant each below
termination_by structural _ _ variant => variant

theorem readEntries_variant : ∀ {entries others : List (String × Json)},
    EntriesVariant settings entries others →
    ∀ room, (readEntries settings directive room entries).toOption =
      (readEntries settings directive room others).toOption
  | _, _, .nil, _ => rfl
  | _, _, .group opens spelled inside onward, room => by
      rw [readEntries_cons, readEntries_cons]
      exact toOption_both_congr
        (readEntry_group_congr opens spelled inside (readLevel_variant inside room))
        (readEntries_variant onward room) _
  | _, _, .field plain spelled states onward, room => by
      rw [readEntries_cons, readEntries_cons]
      exact toOption_both_congr (readEntry_field_congr room plain spelled states)
        (readEntries_variant onward room) _
termination_by structural _ _ variant => variant

end

end Filter

namespace HavingTerm

variable {settings : Settings} {directive : String}

theorem readEntries_variant {entries others : List (String × Json)}
    (each : List.Forall₂ (HavingEntryVariant settings) entries others) :
    readEntries settings directive entries = readEntries settings directive others := by
  induction each with
  | nil => rfl
  | cons head _ ih =>
      cases head with
      | group opens spelled held =>
          rw [readEntries, readEntries, ← settings.groupKey?_spelled spelled, ← held, ih]
          cases connective : settings.groupKey? _ with
          | none => exact absurd opens ((settings.groupKey?_eq_none_iff _).mp connective)
          | some connective => rfl
      | field spelled states =>
          rw [readEntries, readEntries, ← settings.groupKey?_spelled spelled, ← states.isNull_eq,
            ih, Filter.columnName, Filter.columnName, Text.allBlank_congr spelled,
            Text.lower_congr spelled]
          simp only [Filter.readPredicates_variant states]

theorem read_variant {filter other : Json} (variant : HavingVariant settings filter other) :
    read settings directive filter = read settings directive other := by
  cases variant with
  | same => rfl
  | mapping each => exact readEntries_variant each

end HavingTerm

/-- Filters that differ only in the case of keys, of operators and of what stands before a last dot
are read as the same filter, unless both are refused. Filters on grouped records are read the same,
errors included. -/
theorem Filter.case_variants_are_read_alike (settings : Settings) (directive : String) :
    (∀ filter other, FilterVariant settings filter other →
      ∀ filters, Filter.read settings directive filter = .ok filters ↔
        Filter.read settings directive other = .ok filters) ∧
    (∀ filter other, HavingVariant settings filter other →
      HavingTerm.read settings directive filter = HavingTerm.read settings directive other) ∧
    ∀ token other, Text.equalIgnoringCase token other = true →
      Operator.resolve token = Operator.resolve other := by
  refine ⟨?_, fun _ _ => HavingTerm.read_variant, fun _ _ => Operator.resolve_congr⟩
  intro filter other variant filters
  have alike : (read settings directive filter).toOption =
      (read settings directive other).toOption :=
    readLevel_variant variant settings.maxNestingDepth
  rw [← toOption_eq_some_iff, ← toOption_eq_some_iff]
  exact Eq.congr_left alike

def shoutedFilter : List (String × Json) := [
  ("AND", .object [
    ("POSTS.TAGS.Name", .object [("NLIKE", .string "A%"), ("Not Null", .null)]),
    ("OR", .bool true)]),
  ("ODOΣ", .whole 1)]

def quietFilter : List (String × Json) := [
  ("and", .object [
    ("posts.tags.Name", .object [("nlike", .string "A%"), ("not null", .null)]),
    ("or", .bool true)]),
  ("odoΣ", .whole 1)]

theorem Filter.shouted_filter_is_read_alike :
    let settings : Settings := { literalColumns := ["Or"] }
    FilterVariant settings (.object shoutedFilter) (.object quietFilter) ∧
    HavingVariant settings (.object shoutedFilter) (.object quietFilter) ∧
    Text.equalIgnoringCase "NLIKE" "nlike" = true ∧
    (∃ filters, Filter.read settings Directive.filter (.object shoutedFilter) = .ok filters ∧
      Filter.read settings Directive.filter (.object quietFilter) = .ok filters) ∧
    HavingTerm.read settings Directive.having (.object shoutedFilter) =
      HavingTerm.read settings Directive.having (.object quietFilter) ∧
    Operator.resolve "NLIKE" = Operator.resolve "nlike" := by
  intro settings
  have opens : settings.OpensGroup "AND" := ⟨⟨"and", by decide, by decide⟩, by decide⟩
  have token : Text.equalIgnoringCase "NLIKE" "nlike" = true := by decide
  have path : KeyVariant ("POSTS.TAGS" ++ "." ++ "Name") ("posts.tags" ++ "." ++ "Name") :=
    .path (by decide) (by decide)
  have operators : ValueVariant
      (.object [("NLIKE", .string "A%"), ("Not Null", .null)])
      (.object [("nlike", .string "A%"), ("not null", .null)]) :=
    .operators (.cons ⟨token, rfl⟩ (.cons ⟨by decide, rfl⟩ .nil))
  have column : ∀ key, settings.groupKey? key = none → ¬ settings.OpensGroup key :=
    fun key => (settings.groupKey?_eq_none_iff key).mp
  have last : ¬ settings.OpensGroup "ODOΣ" := column _ (by decide)
  have variant : FilterVariant settings (.object shoutedFilter) (.object quietFilter) :=
    .mapping (.group opens (by decide)
      (.mapping (.field (column _ (by decide)) path operators
        (.field (column _ (by decide)) (.whole (by decide) (by decide)) (.same _) .nil)))
      (.field last (.whole (by decide) (by decide)) (.same _) .nil))
  have grouped : HavingVariant settings (.object shoutedFilter) (.object quietFilter) :=
    .mapping (.cons (.group opens (by decide) rfl) (.cons (.field (by decide) (.same _)) .nil))
  have law := case_variants_are_read_alike settings
  obtain ⟨filters, accepted⟩ := exists_ok_of_isOk
    (show (Filter.read settings Directive.filter (.object shoutedFilter)).isOk = true by
      decide +kernel)
  exact ⟨variant, grouped, token,
    ⟨filters, accepted, ((law Directive.filter).1 _ _ variant filters).mp accepted⟩,
    (law Directive.having).2.1 _ _ grouped, (law Directive.filter).2.2 _ _ token⟩

end DeclarativeQuery
