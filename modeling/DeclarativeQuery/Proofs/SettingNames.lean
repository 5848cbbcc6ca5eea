import Mathlib.Data.List.TakeDrop
import DeclarativeQuery.Proofs.LowerCase
import DeclarativeQuery.Settings.LayerValue

/-!
What the name of a setting leads to. Every name begins with an entry of the whole table, case does
not count, and a name leads to an entry and no deeper only if it is the key of that entry.
-/

namespace DeclarativeQuery

namespace Text

/-- What stands behind a prefix of a lowered text is lowered. -/
theorem lower_of_suffix {text : String} {before after : List Char}
    (cut : (lower text).toList = before ++ after) :
    lower (String.ofList after) = String.ofList after := by
  have settled : ∀ c ∈ after, Lowered c := by
    intro c member
    have among : c ∈ (lower text).toList := by
      rw [cut]
      exact List.mem_append_right before member
    rw [lower, String.toList_ofList] at among
    exact lowered_of_mem_lowerAfter among
  rw [lower, String.toList_ofList, lowerAfter_of_lowered settled]

theorem lower_of_spelled {text word : String} (same : equalIgnoringCase text word = true)
    (small : (word.toList.all fun c => decide (c.toNat ≤ 0x7a) && !c.isUpper) = true) :
    lower text = word := by
  rw [lower_congr same, lower_of_small small]

end Text

namespace Settings.KeyPath

theorem mapM_cons_some_iff {α β : Type} {f : α → Option β} {item : α} {rest : List α}
    {results : List β} : (item :: rest).mapM f = some results ↔
      ∃ first others, f item = some first ∧ rest.mapM f = some others ∧
        first :: others = results := by
  simp [List.mapM_cons, Option.bind_eq_some_iff]

theorem eq_of_splitOnP_singleton {text part : List Char} {mark : Char}
    (split : text.splitOnP (· == mark) = [part]) : text = part := by
  have whole : [mark].intercalate (text.splitOn mark) = text := List.intercalate_splitOn mark
  rw [List.splitOn, split] at whole
  simpa using whole.symm

/-- A part is a word and the items after it; with no items it is the word. -/
theorem readPart?_eq_some {part : List Char} {path : KeyPath}
    (read : readPart? part = some path) : ∃ word items,
      path = .entry (String.ofList word) :: items ∧ (items = [] → part = word) := by
  simp only [readPart?, List.span_eq_takeWhile_dropWhile, guard, Option.bind_eq_bind] at read
  split at read
  · rename_i fits
    simp only [Option.pure_def, Option.bind_some, Option.bind_eq_some_iff, Option.some.injEq]
      at read
    obtain ⟨items, brackets, rfl⟩ := read
    refine ⟨_, items, rfl, ?_⟩
    rintro rfl
    obtain ⟨_, closed⟩ := Bool.and_eq_true_iff.mp fits
    obtain ⟨before, cut⟩ := List.getLast?_eq_some_iff.mp (by simpa using closed)
    rw [cut, List.dropLast_concat] at brackets
    cases before with
    | nil =>
        have nothing := eq_of_splitOnP_singleton cut
        have whole := List.takeWhile_append_dropWhile (p := isWordChar) (l := part)
        rw [nothing, List.append_nil] at whole
        exact whole.symm
    | cons first others =>
        obtain ⟨_, _, _, _, filled⟩ := mapM_cons_some_iff.mp brackets
        cases filled
  · simp [failure] at read

/-- The first part begins the path, and a path of one entry has no other part. -/
theorem read?_eq_some {text : List Char} {path : KeyPath} (read : read? text = some path) :
    ∃ word deeper, path = .entry (String.ofList word) :: deeper ∧ (deeper = [] → text = word) := by
  simp only [read?, Option.map_eq_some_iff] at read
  obtain ⟨parts, all, rfl⟩ := read
  cases split : text.splitOnP (· == '.') with
  | nil => exact absurd split (List.splitOnP_ne_nil _ _)
  | cons first others =>
      rw [split] at all
      obtain ⟨start, rest, head, tail, rfl⟩ := mapM_cons_some_iff.mp all
      obtain ⟨word, items, rfl, whole⟩ := readPart?_eq_some head
      refine ⟨word, items ++ rest.flatten, rfl, ?_⟩
      intro nothing
      obtain ⟨rfl, bare⟩ := List.append_eq_nil_iff.mp nothing
      rw [← whole rfl]
      cases others with
      | nil => exact eq_of_splitOnP_singleton split
      | cons second more =>
          obtain ⟨next, _, here, _, rfl⟩ := mapM_cons_some_iff.mp tail
          obtain ⟨_, _, rfl, _⟩ := readPart?_eq_some here
          contradiction

theorem ofName_eq_cons (name : String) : ∃ key deeper,
    ofName name = .entry key :: deeper ∧ (deeper = [] → Text.lower name = key) := by
  rw [ofName]
  cases read : read? (Text.lower name).toList with
  | none => exact ⟨_, [], rfl, fun _ => rfl⟩
  | some path =>
      obtain ⟨word, deeper, rfl, whole⟩ := read?_eq_some read
      refine ⟨_, deeper, rfl, ?_⟩
      intro nothing
      rw [← whole nothing, String.ofList_toList]

theorem ofName_of_small {name : String} {path : KeyPath}
    (small : (name.toList.all fun c => decide (c.toNat ≤ 0x7a) && !c.isUpper) = true)
    (read : read? name.toList = some path) : ofName name = path := by
  rw [ofName, Text.lower_of_small small, read]
  rfl

theorem ofName_congr {first second : String} (same : Text.lower first = Text.lower second) :
    ofName first = ofName second := by
  rw [ofName, ofName, same]

/-- Where a key leads to its own entry, the names that lead there are its spellings. -/
theorem ofName_eq_entry_iff {key : String} (plain : ofName key = [.entry key]) {name : String} :
    ofName name = [.entry key] ↔ Text.lower name = key := by
  have exact {name : String} (leads : ofName name = [.entry key]) : Text.lower name = key := by
    obtain ⟨first, deeper, path, whole⟩ := ofName_eq_cons name
    rw [path] at leads
    cases leads
    exact whole rfl
  constructor
  · exact exact
  · intro same
    rw [ofName_congr (same.trans (exact plain).symm), plain]

end Settings.KeyPath

end DeclarativeQuery
