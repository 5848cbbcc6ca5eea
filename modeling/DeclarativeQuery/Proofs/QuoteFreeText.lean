import DeclarativeQuery.Description.Payload
import DeclarativeQuery.Filter
import DeclarativeQuery.Proofs.LiteralScan
import DeclarativeQuery.Proofs.LowerCase
import DeclarativeQuery.Proofs.Sequencing

/-!
Where quotes cannot come from. Numerals are made of digits, signs, points and an exponent mark; the
lower-case form of a character is a quote for a quote only; what is cut out of a text has no more
quotes than the text.
-/

namespace DeclarativeQuery

namespace Sql

@[simp]
theorem quoteFree_append (first second : String) :
    quoteFree (first ++ second) = (quoteFree first && quoteFree second) := by
  simp [quoteFree]

theorem quoteFree_ofList {text : List Char} :
    quoteFree (String.ofList text) = true ↔ '\'' ∉ text := by
  rw [quoteFree_iff, String.toList_ofList]

theorem quoteFree_intercalate {separator : String} {items : List String}
    (apart : quoteFree separator = true) (clear : ∀ item ∈ items, quoteFree item = true) :
    quoteFree (separator.intercalate items) = true := by
  induction items with
  | nil => simp [quoteFree]
  | cons first rest ih =>
      have head := clear first List.mem_cons_self
      have tail := ih fun item member => clear item (List.mem_cons_of_mem first member)
      cases rest with
      | nil => simpa using head
      | cons second rest =>
          rw [String.intercalate_cons_cons]
          simp [head, apart, tail]

end Sql

namespace Text

open Sql

def isNumeral (c : Char) : Bool := c.isDigit || c = '-' || c = '+' || c = '.' || c = 'e'

theorem quoteFree_of_numeral {text : String} (numeral : ∀ c ∈ text.toList, isNumeral c = true) :
    quoteFree text = true :=
  quoteFree_iff.mpr fun member => absurd (numeral '\'' member) (by decide)

theorem natDigits_numeral (value : Nat) : ∀ c ∈ natDigits value, isNumeral c = true := by
  intro c member
  have digit := Nat.isDigit_of_mem_toDigits (by omega) (by omega) member
  simp [isNumeral, digit]

theorem intText_numeral (value : Int) : ∀ c ∈ (intText value).toList, isNumeral c = true := by
  have digits := natDigits_numeral value.natAbs
  rw [intText, String.toList_ofList, intDigits]
  split
  · exact List.forall_mem_cons.mpr ⟨rfl, digits⟩
  · exact digits

theorem intText_quoteFree (value : Int) : quoteFree (intText value) = true :=
  quoteFree_of_numeral (intText_numeral value)

theorem lowerChar_clear {c : Char} (plain : c ≠ '\'') : '\'' ∉ lowerChar c := by
  rcases lowerChar_cases c with ⟨_, two⟩ | ⟨run, listed, covered, one⟩ | itself
  · rw [two]
    decide
  · -- a letter is lowered by the shift of its run, and every run ends up above the quote
    rw [one, List.mem_singleton]
    intro quote
    have known : Char.ofNat (run.target c.toNat) ≠ Char.ofNat 0 := by
      rw [← quote]
      decide
    have code := toNat_ofNat known
    rw [← quote, CaseRun.target] at code
    have above := caseRuns_above_letters run listed
    simp only [CaseRun.covers, Bool.and_eq_true, decide_eq_true_eq] at covered
    have low : '\''.toNat = 0x27 := rfl
    omega
  · rw [itself, List.mem_singleton]
    exact plain.symm

theorem lowerAfter_clear {text : List Char} (clear : '\'' ∉ text) (before : List Char) :
    '\'' ∉ lowerAfter before text := by
  induction text generalizing before with
  | nil => simp [lowerAfter]
  | cons c rest ih =>
      have plain : c ≠ '\'' := fun quote => clear (quote ▸ List.mem_cons_self)
      have onward := ih (List.not_mem_of_not_mem_cons clear) (c :: before)
      rw [lowerAfter, List.mem_append, not_or]
      refine ⟨?_, onward⟩
      split
      · split <;> simp
      · exact lowerChar_clear plain

theorem lower_quoteFree {text : String} (clear : quoteFree text = true) :
    quoteFree (lower text) = true := by
  rw [lower, quoteFree_ofList]
  exact lowerAfter_clear (quoteFree_iff.mp clear) []

theorem trimEnd_clear {text : List Char} (clear : '\'' ∉ text) : '\'' ∉ trimEnd text := by
  intro member
  have kept := (List.dropWhile_suffix isBlank).subset (List.mem_reverse.mp member)
  exact clear (List.mem_reverse.mp kept)

theorem trim_clear {text : List Char} (clear : '\'' ∉ text) : '\'' ∉ trim text :=
  trimEnd_clear fun member => clear ((List.dropWhile_suffix isBlank).subset member)

theorem trimmed_quoteFree {text : String} (clear : quoteFree text = true) :
    quoteFree (trimmed text) = true := by
  rw [trimmed, quoteFree_ofList]
  exact trim_clear (quoteFree_iff.mp clear)

end Text

namespace Decimal.Layout

open Text (isNumeral)

theorem zeros_numeral (count : Nat) : ∀ c ∈ zeros count, isNumeral c = true := by
  intro c member
  rw [List.eq_of_mem_replicate member]
  rfl

theorem inlineText_numeral (layout : Layout) {digits : List Char}
    (numeral : ∀ c ∈ digits, isNumeral c = true) (exponent : Int) :
    ∀ c ∈ layout.inlineText digits exponent, isNumeral c = true := by
  have kept : ∀ count, ∀ c ∈ digits.take count, isNumeral c = true := fun count c member =>
    numeral c (List.mem_of_mem_take member)
  have left : ∀ count, ∀ c ∈ digits.drop count, isNumeral c = true := fun count c member =>
    numeral c (List.mem_of_mem_drop member)
  have padded : ∀ count zeroCount, ∀ c ∈ digits.take count ++ zeros zeroCount,
      isNumeral c = true := fun count zeroCount =>
    List.forall_mem_append.mpr ⟨kept count, zeros_numeral zeroCount⟩
  have point : ∀ {text}, (∀ c ∈ text, isNumeral c = true) → ∀ c ∈ '.' :: text,
      isNumeral c = true := fun after => List.forall_mem_cons.mpr ⟨rfl, after⟩
  unfold inlineText
  split
  · refine List.forall_mem_append.mpr ⟨?_, numeral⟩
    exact List.forall_mem_cons.mpr ⟨rfl, point (zeros_numeral _)⟩
  · simp only
    split
    · exact List.forall_mem_append.mpr ⟨padded _ _, point (left _)⟩
    · split
      · exact List.forall_mem_append.mpr ⟨padded _ _, point (zeros_numeral 1)⟩
      · exact padded _ _

theorem exponentText_numeral {digits : List Char} (numeral : ∀ c ∈ digits, isNumeral c = true)
    (exponent : Int) : ∀ c ∈ exponentText digits exponent, isNumeral c = true := by
  have first : ∀ c ∈ digits.take 1, isNumeral c = true := fun c member =>
    numeral c (List.mem_of_mem_take member)
  have left : ∀ c ∈ digits.drop 1, isNumeral c = true := fun c member =>
    numeral c (List.mem_of_mem_drop member)
  have power := Text.natDigits_numeral exponent.natAbs
  unfold exponentText
  refine List.forall_mem_append.mpr ⟨List.forall_mem_append.mpr ⟨first, ?_⟩, ?_⟩
  · split
    · simp
    · exact List.forall_mem_cons.mpr ⟨rfl, left⟩
  · refine List.forall_mem_cons.mpr ⟨rfl, List.forall_mem_cons.mpr ⟨?_, power⟩⟩
    split <;> rfl

theorem significantDigits_numeral (digits : Nat) :
    ∀ c ∈ significantDigits digits, isNumeral c = true := by
  intro c member
  have kept := (List.dropWhile_suffix (· == '0')).subset (List.mem_reverse.mp member)
  exact Text.natDigits_numeral digits c (List.mem_reverse.mp kept)

theorem magnitudeText_numeral (layout : Layout) (double : Binary64) :
    ∀ c ∈ layout.magnitudeText double, isNumeral c = true := by
  have zero : ∀ c ∈ ['0'], isNumeral c = true := zeros_numeral 1
  unfold magnitudeText
  split
  · split
    · exact List.forall_mem_cons.mpr ⟨rfl, List.forall_mem_cons.mpr ⟨rfl, zero⟩⟩
    · exact zero
  · simp only
    split
    · exact inlineText_numeral layout (significantDigits_numeral _) _
    · exact exponentText_numeral (significantDigits_numeral _) _

theorem text_numeral (layout : Layout) (double : Binary64) :
    ∀ c ∈ (layout.text double).toList, isNumeral c = true := by
  have magnitude := magnitudeText_numeral layout double
  rw [text, String.toList_ofList]
  split
  · exact List.forall_mem_cons.mpr ⟨rfl, magnitude⟩
  · exact magnitude

end Decimal.Layout

theorem Number.text_numeral (value : Number) :
    ∀ c ∈ value.text.toList, Text.isNumeral c = true := by
  cases value with
  | whole value => exact Text.intText_numeral value
  | double value => exact Decimal.Layout.text_numeral Number.layout value

theorem Number.text_quoteFree (value : Number) : Sql.quoteFree value.text = true :=
  Text.quoteFree_of_numeral value.text_numeral

namespace Json

mutual

def isQuoteFree : Json → Bool
  | .string text => Sql.quoteFree text
  | .array items => itemsQuoteFree items
  | .object entries => entriesQuoteFree entries
  | _ => true
termination_by structural value => value

def itemsQuoteFree : List Json → Bool
  | [] => true
  | item :: rest => item.isQuoteFree && itemsQuoteFree rest
termination_by structural items => items

def entriesQuoteFree : List (String × Json) → Bool
  | [] => true
  | (key, value) :: rest => Sql.quoteFree key && value.isQuoteFree && entriesQuoteFree rest
termination_by structural entries => entries

end

theorem isQuoteFree_of_mem {items : List Json} (clear : itemsQuoteFree items = true) {item : Json}
    (member : item ∈ items) : item.isQuoteFree = true := by
  induction items with
  | nil => contradiction
  | cons first rest ih =>
      simp only [itemsQuoteFree, Bool.and_eq_true] at clear
      rcases List.mem_cons.mp member with here | later
      · exact here ▸ clear.1
      · exact ih clear.2 later

theorem isQuoteFree_of_lookup {entries : List (String × Json)} {key : String} {value : Json}
    (clear : entriesQuoteFree entries = true) (found : entries.lookup key = some value) :
    value.isQuoteFree = true := by
  induction entries with
  | nil => contradiction
  | cons entry rest ih =>
      rcases entry with ⟨first, firstValue⟩
      simp only [entriesQuoteFree, Bool.and_eq_true] at clear
      rw [List.lookup_cons] at found
      split at found
      · cases found
        exact clear.1.2
      · exact ih clear.2 found

end Json

open Sql (quoteFree)

theorem Payload.readNames_quoteFree {directive : String} {payload : Json} {names : List String}
    (accepted : readNames directive payload = .ok names) (clear : payload.isQuoteFree = true) :
    ∀ name ∈ names, quoteFree name = true := by
  intro name member
  unfold readNames at accepted
  split at accepted
  next text =>
    cases accepted
    rw [List.mem_singleton.mp member]
    exact clear
  next items =>
    obtain ⟨item, among, read⟩ := mapM_ok_mem accepted member
    have text := Json.isQuoteFree_of_mem clear among
    unfold readName at read
    split at read
    · cases read
      exact text
    · contradiction
  next => contradiction

namespace OrderTerm

theorem cutDirection_clear {term : List Char} (clear : '\'' ∉ term) :
    '\'' ∉ (cutDirection term).1 := by
  unfold cutDirection
  split
  next head tail cut =>
    obtain ⟨blank, _, whole, _⟩ := Text.cutLast_eq_some cut
    have before : '\'' ∉ head := fun member => clear (whole ▸ List.mem_append_left _ member)
    split
    · exact Text.trimEnd_clear before
    · exact clear
  · exact clear

theorem ofText_quoteFree {text : String} {term : OrderTerm} (accepted : ofText text = .ok term)
    (clear : quoteFree text = true) : quoteFree term.field = true := by
  simp only [ofText] at accepted
  split at accepted
  · contradiction
  · rw [← Except.ok.inj accepted]
    apply Text.lower_quoteFree
    rw [Sql.quoteFree_ofList]
    exact cutDirection_clear (Text.trim_clear (Sql.quoteFree_iff.mp clear))

theorem ofEntries_quoteFree {entries : List (String × Json)} {term : OrderTerm}
    (accepted : ofEntries entries = .ok term) (clear : Json.entriesQuoteFree entries = true) :
    quoteFree term.field = true := by
  unfold ofEntries at accepted
  split at accepted
  next text found =>
    have named : quoteFree text = true := Json.isQuoteFree_of_lookup clear found
    simp only at accepted
    split at accepted
    · contradiction
    · obtain ⟨direction, _, same⟩ := bind_eq_ok_iff.mp accepted
      rw [← Except.ok.inj same]
      exact Text.lower_quoteFree (Text.trimmed_quoteFree named)
  next => contradiction

theorem read_quoteFree {payload : Json} {term : OrderTerm} (accepted : read payload = .ok term)
    (clear : payload.isQuoteFree = true) : quoteFree term.field = true := by
  cases payload with
  | string text => exact ofText_quoteFree accepted clear
  | object entries => exact ofEntries_quoteFree accepted clear
  | _ => contradiction

theorem readList_quoteFree {payload : Json} {terms : List OrderTerm}
    (accepted : readList payload = .ok terms) (clear : payload.isQuoteFree = true) :
    ∀ term ∈ terms, quoteFree term.field = true := by
  intro term member
  unfold readList at accepted
  split at accepted
  next items =>
    obtain ⟨item, among, read⟩ := mapM_ok_mem accepted member
    exact read_quoteFree read (Json.isQuoteFree_of_mem clear among)
  next =>
    obtain ⟨single, read, same⟩ := bind_eq_ok_iff.mp accepted
    cases same
    rw [List.mem_singleton.mp member]
    exact read_quoteFree read clear

end OrderTerm

end DeclarativeQuery
