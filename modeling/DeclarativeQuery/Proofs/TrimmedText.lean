import Mathlib.Data.List.DropRight
import DeclarativeQuery.Proofs.LowerCase
import DeclarativeQuery.Text.Blank

/-!
Texts without blanks at their ends. Trimming makes a text such a one and leaves it as it is from
then on. Lowering makes no solid character blank, so it leaves the ends solid.
-/

namespace DeclarativeQuery.Text

variable {text after : List Char}

structure Trimmed (text : List Char) : Prop where
  first : ∀ c ∈ text.head?, isBlank c = false
  last : ∀ c ∈ text.getLast?, isBlank c = false

theorem trimmed_of_solid (solid : ∀ c ∈ text, isBlank c = false) : Trimmed text where
  first c head := solid c (List.mem_of_mem_head? head)
  last c last := solid c (List.mem_of_mem_getLast? last)

theorem head_of_dropWhile (text : List Char) :
    ∀ c ∈ (text.dropWhile isBlank).head?, isBlank c = false := by
  intro c head
  have stopped := List.head?_dropWhile_not isBlank text
  rw [Option.mem_def.mp head] at stopped
  exact stopped

theorem trimmed_trim (text : List Char) : Trimmed (trim text) where
  first := by
    intro c head
    obtain ⟨rest, whole⟩ : trim text <+: trimStart text := List.rdropWhile_prefix isBlank _
    have first : c ∈ (trimStart text).head? := by simp [← whole, Option.mem_def.mp head]
    exact head_of_dropWhile text c first
  last := by
    intro c last
    rw [trim, trimEnd, List.getLast?_reverse] at last
    exact head_of_dropWhile _ c last

theorem trimStart_of_first (first : ∀ c ∈ text.head?, isBlank c = false) :
    trimStart text = text := by
  cases text with
  | nil => rfl
  | cons c rest =>
      have solid : isBlank c = false := first c rfl
      rw [trimStart, List.dropWhile_cons_of_neg (by simp [solid])]

theorem trimEnd_of_last (last : ∀ c ∈ text.getLast?, isBlank c = false) :
    trimEnd text = text := by
  refine List.rdropWhile_eq_self_iff.mpr fun filled => ?_
  rw [Bool.not_eq_true]
  exact last _ (List.getLast?_eq_some_getLast filled)

theorem Trimmed.trim_eq (trimmed : Trimmed text) : trim text = text := by
  rw [trim, trimStart_of_first trimmed.first, trimEnd_of_last trimmed.last]

theorem trimEnd_append_of_blank (text : List Char) (blank : ∀ c ∈ after, isBlank c = true) :
    trimEnd (text ++ after) = trimEnd text := by
  have passed : ∀ c ∈ after.reverse, isBlank c = true := fun c member =>
    blank c (List.mem_reverse.mp member)
  rw [trimEnd, List.reverse_append, List.dropWhile_append_of_pos passed, trimEnd]

theorem trimStart_append (solid : text.all isBlank = false) (after : List Char) :
    trimStart (text ++ after) = trimStart text ++ after := by
  have stops : text.dropWhile isBlank ≠ [] := by
    simpa using solid
  rw [trimStart, List.dropWhile_append, trimStart]
  simp [stops]

theorem trim_eq_nil_iff : trim text = [] ↔ ∀ c ∈ text, isBlank c = true := by
  constructor
  · intro nothing
    by_contra solid
    have stops : text.dropWhile isBlank ≠ [] := by simpa using solid
    have all := List.rdropWhile_eq_nil_iff.mp nothing
    have head := List.head_dropWhile_not isBlank stops
    rw [all _ (List.head_mem stops)] at head
    contradiction
  · intro blank
    rw [trim, trimStart, List.dropWhile_eq_nil_iff.mpr blank]
    rfl

theorem allBlank_eq_true_iff {text : String} : allBlank text = true ↔ trimmed text = "" := by
  rw [allBlank, List.all_eq_true, ← trim_eq_nil_iff, trimmed]
  simp

/-! Blanks and case. -/

theorem isBlank_toLower (c : Char) : isBlank c.toLower = isBlank c :=
  toLower_invariant isBlank (forall_capitals (by decide)) c

def blankCodes : List Nat :=
  List.range' 0x9 5 ++ [0x20, 0x85, 0xa0, 0x1680] ++ List.range' 0x2000 11 ++
    [0x2028, 0x2029, 0x202f, 0x205f, 0x3000]

theorem mem_blankCodes {c : Char} (blank : isBlank c = true) : c.toNat ∈ blankCodes := by
  simp only [isBlank, Bool.or_eq_true, Bool.and_eq_true, decide_eq_true_eq, beq_iff_eq] at blank
  simp only [blankCodes, List.mem_append, List.mem_range'_1, List.mem_cons, List.not_mem_nil]
  omega

/-- No run of the table lowers anything to a blank. -/
theorem targets_solid :
    runBits (fun run => run.codes.map run.target) caseRuns &&& codeBits blankCodes = 0 := by
  decide +kernel

theorem lowerChar_solid {c : Char} (solid : isBlank c = false) :
    ∀ d ∈ lowerChar c, isBlank d = false := by
  rcases lowerChar_cases c with ⟨_, two⟩ | ⟨run, listed, covered, one⟩ | itself
  · simp only [two, List.forall_mem_cons]
    exact ⟨rfl, rfl, List.forall_mem_nil _⟩
  · rw [one, List.forall_mem_singleton]
    by_cases zero : Char.ofNat (run.target c.toNat) = Char.ofNat 0
    · rw [zero]
      rfl
    · rw [← Bool.not_eq_true]
      intro blank
      have code := testBit_codeBits (mem_blankCodes blank)
      rw [toNat_ofNat zero, testBit_target targets_solid listed covered] at code
      contradiction
  · rw [itself, List.forall_mem_singleton]
    exact solid

theorem lowerChar_ne_nil (c : Char) : lowerChar c ≠ [] := by
  rcases lowerChar_cases c with ⟨_, two⟩ | ⟨run, listed, covered, one⟩ | itself
  · simp [two]
  · simp [one]
  · simp [itself]

/-- A character becomes at least one, solid if it was so. -/
theorem lowerAfter_cons (before : List Char) (c : Char) (rest : List Char) :
    ∃ lowered, lowered ≠ [] ∧ (isBlank c = false → ∀ d ∈ lowered, isBlank d = false) ∧
      lowerAfter before (c :: rest) = lowered ++ lowerAfter (c :: before) rest := by
  by_cases sigma : c = '\u03a3'
  · refine ⟨[if isFinalSigma before rest then '\u03c2' else '\u03c3'], by simp, ?_, ?_⟩
    · intro _
      rw [List.forall_mem_singleton]
      split <;> rfl
    · rw [lowerAfter, if_pos sigma]
  · refine ⟨lowerChar c, lowerChar_ne_nil c, lowerChar_solid, ?_⟩
    rw [lowerAfter, if_neg sigma]

theorem lowerAfter_ne_nil (before : List Char) (filled : text ≠ []) :
    lowerAfter before text ≠ [] := by
  cases text with
  | nil => contradiction
  | cons c rest =>
      obtain ⟨lowered, filled, _, same⟩ := lowerAfter_cons before c rest
      simp [same, filled]

theorem lowerAfter_first (before : List Char) (first : ∀ c ∈ text.head?, isBlank c = false) :
    ∀ c ∈ (lowerAfter before text).head?, isBlank c = false := by
  cases text with
  | nil => exact nofun
  | cons c rest =>
      obtain ⟨lowered, filled, solid, same⟩ := lowerAfter_cons before c rest
      intro d head
      rw [same, List.head?_append_of_ne_nil _ filled] at head
      exact solid (first c rfl) d (List.mem_of_mem_head? head)

theorem lowerAfter_last (before : List Char) (last : ∀ c ∈ text.getLast?, isBlank c = false) :
    ∀ c ∈ (lowerAfter before text).getLast?, isBlank c = false := by
  induction text generalizing before with
  | nil => exact nofun
  | cons c rest ih =>
      obtain ⟨lowered, filled, solid, same⟩ := lowerAfter_cons before c rest
      intro d final
      rw [same] at final
      cases rest with
      | nil =>
          rw [lowerAfter, List.append_nil] at final
          exact solid (last c rfl) d (List.mem_of_mem_getLast? final)
      | cons e rest =>
          have more := lowerAfter_ne_nil (c :: before) (List.cons_ne_nil e rest)
          rw [List.getLast?_append_of_ne_nil _ more] at final
          exact ih (c :: before) last d final

theorem Trimmed.lowerAfter (trimmed : Trimmed text) (before : List Char) :
    Trimmed (lowerAfter before text) :=
  ⟨lowerAfter_first before trimmed.first, lowerAfter_last before trimmed.last⟩

end DeclarativeQuery.Text
