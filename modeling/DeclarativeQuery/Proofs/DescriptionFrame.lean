import DeclarativeQuery.Proofs.DescriptionReading
import DeclarativeQuery.Proofs.FilterBlanking

/-!
The frame of a description: what is left of it once the texts that its filters compare with are
emptied. Descriptions with one frame are read as the same description but for such texts.
-/

namespace DeclarativeQuery

namespace Filter

variable {settings : Settings} {directive : String}

theorem read_withoutTexts {payload : Json} {filters : List Filter}
    (accepted : read settings directive payload = .ok filters) :
    ∃ emptied, read settings directive payload.withoutTexts = .ok emptied ∧
      emptied.map blanked = filters.map blanked :=
  readLevel_withoutTexts payload accepted

end Filter

theorem HavingTerm.read_withoutTexts {settings : Settings} {directive : String} {payload : Json}
    {terms : List HavingTerm} (accepted : read settings directive payload = .ok terms) :
    ∃ emptied, read settings directive payload.withoutTexts = .ok emptied ∧
      emptied.map blanked = terms.map blanked := by
  cases payload with
  | object entries => exact readEntries_withoutTexts accepted
  | _ => contradiction

namespace Description

/-- The description with the values of its filters blanked. Inclusions are left out: they never
reach the query text. -/
def blanked (description : Description) : Description :=
  { description with
    inclusion := none
    filters := description.filters.map Filter.blanked
    having := description.having.map HavingTerm.blanked }

def frameValue (key : String) (value : Json) : Json :=
  if key = Directive.inclusion then .null
  else if key ∈ [Directive.filter, Directive.having] then value.withoutTexts
  else value

def frameEntries (entries : List (String × Json)) : List (String × Json) :=
  entries.map fun (key, value) => (key, frameValue key value)

def frame : Json → Json
  | .object entries => .object (frameEntries entries)
  | other => other

theorem lookup_frameEntries (entries : List (String × Json)) (key : String) :
    (frameEntries entries).lookup key = (entries.lookup key).map (frameValue key) := by
  induction entries with
  | nil => rfl
  | cons entry rest ih =>
      rcases entry with ⟨first, value⟩
      rw [frameEntries, List.map_cons, List.lookup_cons, List.lookup_cons]
      by_cases here : key = first
      · simp [here]
      · have other : (key == first) = false := by simpa using here
        rw [other]
        exact ih

theorem present_inclusion (entries : List (String × Json)) :
    Json.present? Directive.inclusion (frameEntries entries) = none := by
  rw [Json.present?, lookup_frameEntries]
  cases entries.lookup Directive.inclusion <;> rfl

theorem frameValue_isNull {key : String} (other : key ≠ Directive.inclusion) (value : Json) :
    (frameValue key value).isNull = value.isNull := by
  unfold frameValue
  rw [if_neg other]
  split
  · exact value.withoutTexts_isNull
  · rfl

theorem present_frameEntries {key : String} (other : key ≠ Directive.inclusion)
    (entries : List (String × Json)) :
    Json.present? key (frameEntries entries) =
      (Json.present? key entries).map (frameValue key) := by
  rw [Json.present?, Json.present?, lookup_frameEntries]
  cases entries.lookup key with
  | none => rfl
  | some value => cases null : value.isNull <;> simp [Option.filter, frameValue_isNull other, null]

section Reading
variable {settings : Settings} {entries : List (String × Json)}

/-- A directive that is neither an inclusion nor a filter reads the same. -/
theorem directive_frameEntries {α : Type} {keys : List String} (default : α)
    (read : String → Json → Except Error α)
    (others : ∀ key ∈ keys, key ∉ [Directive.inclusion, Directive.filter, Directive.having]) :
    directive (frameEntries entries) keys default read = directive entries keys default read := by
  have same : firstPresent? (frameEntries entries) keys = firstPresent? entries keys := by
    induction keys with
    | nil => rfl
    | cons key rest ih =>
        have other := others key List.mem_cons_self
        simp only [List.mem_cons, List.not_mem_nil, or_false, not_or] at other
        have kept : frameValue key = id := by
          funext value
          simp [frameValue, other]
        rw [firstPresent?, firstPresent?, present_frameEntries other.1, kept, Option.map_id]
        rw [ih fun key member => others key (List.mem_cons_of_mem _ member)]
        rfl
  rw [directive, same]
  rfl

/-- A filter directive reads the same but for its values. -/
theorem directive_withoutTexts {Item : Type} {key : String} {result : List Item}
    {read : String → Json → Except Error (List Item)} {blank : Item → Item}
    (filter : key ∈ [Directive.filter, Directive.having])
    (each : ∀ payload result, read key payload = .ok result →
      ∃ emptied, read key payload.withoutTexts = .ok emptied ∧
        emptied.map blank = result.map blank)
    (accepted : directive entries [key] [] read = .ok result) :
    ∃ emptied, directive (frameEntries entries) [key] [] read = .ok emptied ∧
      emptied.map blank = result.map blank := by
  have other : key ≠ Directive.inclusion := by
    rintro rfl
    revert filter
    decide
  have value : ∀ payload, frameValue key payload = payload.withoutTexts := by
    intro payload
    rw [frameValue, if_neg other, if_pos filter]
  rw [directive_single] at accepted
  rw [directive_single, present_frameEntries other]
  cases present : Json.present? key entries with
  | none =>
      simp only [present, Option.map_none] at accepted ⊢
      exact ⟨result, accepted, rfl⟩
  | some payload =>
      simp only [present, Option.map_some, value] at accepted ⊢
      exact each payload result accepted

theorem reads_frameEntries {description : Description}
    (reads : Reads settings entries description) :
    ∃ emptied, Reads settings (frameEntries entries) emptied ∧
      emptied.blanked = description.blanked := by
  obtain ⟨filters, filtered, filtersAlike⟩ := directive_withoutTexts (by decide)
    (fun _ _ => Filter.read_withoutTexts) reads.filters
  obtain ⟨having, kept, havingAlike⟩ := directive_withoutTexts (by decide)
    (fun _ _ => HavingTerm.read_withoutTexts) reads.having
  refine ⟨{ description with inclusion := none, filters, having }, ?_, ?_⟩
  · constructor
    case inclusion => simp only [directive, firstPresent?, present_inclusion]
    case filters => exact filtered
    case having => exact kept
    case has => exact (directive_frameEntries _ _ (by decide)).trans reads.has
    case scopes => exact (directive_frameEntries _ _ (by decide)).trans reads.scopes
    case fields => exact (directive_frameEntries _ _ (by decide)).trans reads.fields
    case order => exact (directive_frameEntries _ _ (by decide)).trans reads.order
    case limit => exact (directive_frameEntries _ _ (by decide)).trans reads.limit
    case offset => exact (directive_frameEntries _ _ (by decide)).trans reads.offset
    case groupBy => exact (directive_frameEntries _ _ (by decide)).trans reads.groupBy
  · simp [blanked, filtersAlike, havingAlike]

end Reading

/-- Accepted descriptions with one frame differ in the values of their filters at most. -/
theorem blanked_eq_of_frame_eq {settings : Settings} {first second : Json}
    {firstRead secondRead : Description}
    (firstAccepted : read settings first = .ok firstRead)
    (secondAccepted : read settings second = .ok secondRead)
    (alike : frame first = frame second) : firstRead.blanked = secondRead.blanked := by
  obtain ⟨firstEntries, rfl, firstReads⟩ := read_ok firstAccepted
  obtain ⟨secondEntries, rfl, secondReads⟩ := read_ok secondAccepted
  obtain ⟨firstEmptied, firstAgain, firstSame⟩ := reads_frameEntries firstReads
  obtain ⟨secondEmptied, secondAgain, secondSame⟩ := reads_frameEntries secondReads
  have framed : frameEntries firstEntries = frameEntries secondEntries := Json.object.inj alike
  -- reading gives one result, so the two emptied descriptions are the same
  have one := ofEntries_eq_ok_iff.mpr firstAgain
  rw [framed, ofEntries_eq_ok_iff.mpr secondAgain] at one
  cases one
  rw [← firstSame, ← secondSame]

end Description

end DeclarativeQuery
