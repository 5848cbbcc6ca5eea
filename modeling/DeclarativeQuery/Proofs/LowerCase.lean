import DeclarativeQuery.Text.Case

/-!
What lowering a text forgets and what it leaves. It forgets the case of ASCII letters, in the
neighbours of a sigma too. It leaves nothing that could be lowered further. And a word of small
ASCII letters is what is left of its own spellings alone, where the Kelvin sign spells the letter k.
-/

namespace DeclarativeQuery.Text

def CaseRun.target (run : CaseRun) (code : Nat) : Nat := (code + run.shift).toNat

/-- A character is lowered to two, or by the table, or not at all. -/
theorem lowerChar_cases (c : Char) :
    (c = '\u0130' ∧ lowerChar c = ['i', '\u0307']) ∨
    (∃ run ∈ caseRuns, run.covers c.toNat = true ∧
      lowerChar c = [Char.ofNat (run.target c.toNat)]) ∨
    lowerChar c = [c] := by
  by_cases dotted : c = '\u0130'
  · exact .inl ⟨dotted, by rw [lowerChar, if_pos dotted]⟩
  right
  rw [lowerChar, if_neg dotted]
  cases found : caseRuns.find? fun run => run.covers c.toNat with
  | none => exact .inr rfl
  | some run =>
      exact .inl ⟨run, List.mem_of_find?_eq_some found, by simpa using List.find?_some found, rfl⟩

theorem toNat_ofNat {code : Nat} (known : Char.ofNat code ≠ Char.ofNat 0) :
    (Char.ofNat code).toNat = code := by
  by_cases valid : code.isValidChar
  · rw [Char.ofNat, dif_pos valid]
    rfl
  · rw [Char.ofNat, dif_neg valid] at known
    contradiction

/-! The case of ASCII letters. -/

def capitals : List Char := (List.range' 0x41 26).map Char.ofNat

/-- The letters are checked by their codes: there are too many characters to go through. -/
theorem forall_capitals {holds : Char → Prop}
    (codes : ∀ code ∈ List.range' 0x41 26, holds (Char.ofNat code)) : ∀ c ∈ capitals, holds c :=
  List.forall_mem_map.mpr codes

theorem mem_capitals {c : Char} (low : 0x41 ≤ c.toNat) (high : c.toNat ≤ 0x5a) : c ∈ capitals := by
  refine List.mem_map.mpr ⟨c.toNat, ?_, Char.ofNat_toNat c⟩
  rw [List.mem_range'_1]
  omega

theorem toLower_of_not_capital {c : Char} (other : c ∉ capitals) : c.toLower = c := by
  unfold Char.toLower
  split
  next letter => exact absurd (mem_capitals letter.1 letter.2) other
  next => rfl

/-- What capitals have in common with their small letters, all characters have. -/
theorem toLower_invariant {α : Type} (f : Char → α) (letters : ∀ c ∈ capitals, f c.toLower = f c)
    (c : Char) : f c.toLower = f c := by
  by_cases capital : c ∈ capitals
  · exact letters c capital
  · rw [toLower_of_not_capital capital]

theorem capitals_codes : ∀ c ∈ capitals, (0x41 ≤ c.toNat ∧ c.toNat ≤ 0x5a) ∧
    0x61 ≤ c.toLower.toNat ∧ c.toLower.toNat ≤ 0x7a :=
  forall_capitals (by decide)

theorem lowerChar_of_uncovered {c : Char} (plain : c ≠ '\u0130')
    (outside : ∀ run ∈ caseRuns, run.covers c.toNat = false) : lowerChar c = [c] := by
  have unfound : (caseRuns.find? fun run => run.covers c.toNat) = none := by
    simpa using outside
  rw [lowerChar, if_neg plain, unfound]

theorem caseRuns_apart_small :
    ∀ run ∈ caseRuns, 0x41 ≤ run.first ∧ run.last ≤ 0x5a ∨ 0x7a < run.first := by
  decide +kernel

theorem lowerChar_of_small {c : Char} (low : c.toNat ≤ 0x7a) (small : c ∉ capitals) :
    lowerChar c = [c] := by
  apply lowerChar_of_uncovered
  · rintro rfl
    contradiction
  · intro run listed
    rw [← Bool.not_eq_true, CaseRun.covers]
    simp only [Bool.and_eq_true, decide_eq_true_eq]
    rintro ⟨⟨first, last⟩, _⟩
    rcases caseRuns_apart_small run listed with letters | above
    · exact small (mem_capitals (by omega) (by omega))
    · omega

theorem lowerChar_capitals : ∀ c ∈ capitals, lowerChar c = [c.toLower] :=
  forall_capitals (by decide +kernel)

theorem lowerChar_toLower (c : Char) : lowerChar c.toLower = lowerChar c := by
  refine toLower_invariant lowerChar ?_ c
  intro capital member
  obtain ⟨_, low, high⟩ := capitals_codes capital member
  rw [lowerChar_capitals capital member]
  apply lowerChar_of_small high
  intro large
  have small := (capitals_codes _ large).1.2
  omega

theorem isCased_toLower (c : Char) : isCased c.toLower = isCased c := by
  have letters : ∀ c ∈ capitals, isCased c.toLower = true ∧ isCased c = true :=
    forall_capitals (by decide +kernel)
  refine toLower_invariant isCased ?_ c
  intro capital member
  obtain ⟨small, large⟩ := letters capital member
  rw [small, large]

/-- No range of characters that are passed over has a letter of ASCII. -/
theorem caseIgnorableRanges_apart : ∀ range ∈ caseIgnorableRanges,
    range.2 < 0x41 ∨ 0x5a < range.1 ∧ range.2 < 0x61 ∨ 0x7a < range.1 := by
  decide +kernel

theorem isCaseIgnorable_toLower (c : Char) : isCaseIgnorable c.toLower = isCaseIgnorable c := by
  refine toLower_invariant isCaseIgnorable ?_ c
  intro capital member
  obtain ⟨large, small⟩ := capitals_codes capital member
  have apart : ∀ letter : Char, (0x41 ≤ letter.toNat ∧ letter.toNat ≤ 0x5a) ∨
      (0x61 ≤ letter.toNat ∧ letter.toNat ≤ 0x7a) → isCaseIgnorable letter = false := by
    intro letter code
    rw [isCaseIgnorable, inRanges, List.any_eq_false]
    intro range among
    have outside := caseIgnorableRanges_apart range among
    simp only [Bool.and_eq_true, decide_eq_true_eq]
    omega
  rw [apart _ (.inr small), apart _ (.inl large)]

theorem meetsCased_map_toLower (text : List Char) :
    meetsCased (text.map Char.toLower) = meetsCased text := by
  have passed : isCaseIgnorable ∘ Char.toLower = isCaseIgnorable :=
    funext isCaseIgnorable_toLower
  rw [meetsCased, List.dropWhile_map, passed, meetsCased]
  cases text.dropWhile isCaseIgnorable with
  | nil => rfl
  | cons c rest => exact isCased_toLower c

theorem toLower_eq_sigma_iff (c : Char) : c.toLower = '\u03a3' ↔ c = '\u03a3' := by
  have same := toLower_invariant (fun c => decide (c = '\u03a3')) (forall_capitals (by decide)) c
  simpa using same

/-- The text before, too, matters only up to case. -/
theorem lowerAfter_map_toLower (before text : List Char) :
    lowerAfter (before.map Char.toLower) (text.map Char.toLower) = lowerAfter before text := by
  induction text generalizing before with
  | nil => rfl
  | cons c rest ih =>
      have onward := ih (c :: before)
      rw [List.map_cons] at onward
      rw [List.map_cons, lowerAfter, lowerAfter, onward]
      by_cases sigma : c = '\u03a3'
      · rw [if_pos sigma, if_pos ((toLower_eq_sigma_iff c).mpr sigma), isFinalSigma, isFinalSigma,
          meetsCased_map_toLower, meetsCased_map_toLower]
      · rw [if_neg sigma, if_neg (sigma ∘ (toLower_eq_sigma_iff c).mp), lowerChar_toLower]

/-! What one of two spellings tells, the other tells too. -/

section
variable {first second : String}

theorem map_toLower_congr (same : equalIgnoringCase first second = true) :
    first.toList.map Char.toLower = second.toList.map Char.toLower := by
  simpa [equalIgnoringCase] using same

theorem equalIgnoringCase_left (same : equalIgnoringCase first second = true) (word : String) :
    equalIgnoringCase first word = equalIgnoringCase second word := by
  rw [equalIgnoringCase, map_toLower_congr same, equalIgnoringCase]

theorem equalIgnoringCase_right (same : equalIgnoringCase first second = true) (word : String) :
    equalIgnoringCase word first = equalIgnoringCase word second := by
  rw [equalIgnoringCase, map_toLower_congr same, equalIgnoringCase]

theorem lower_congr (same : equalIgnoringCase first second = true) :
    lower first = lower second := by
  rw [lower, lower, ← lowerAfter_map_toLower [] first.toList, map_toLower_congr same,
    lowerAfter_map_toLower]

end

/-! Texts that are in lower case already. -/

/-- The character stays as it is wherever it stands. -/
def Lowered (c : Char) : Prop := c ≠ '\u03a3' ∧ lowerChar c = [c]

def dottedRun : CaseRun := ⟨0x130, 0x130, 1, 0⟩

def CaseRun.codes (run : CaseRun) : List Nat :=
  List.range' run.first ((run.last - run.first) / run.stride + 1) run.stride

theorem CaseRun.mem_codes {run : CaseRun} {code : Nat} (covered : run.covers code = true) :
    code ∈ run.codes := by
  simp only [covers, Bool.and_eq_true, decide_eq_true_eq, beq_iff_eq] at covered
  obtain ⟨⟨low, high⟩, step⟩ := covered
  have whole := Nat.div_add_mod (code - run.first) run.stride
  have before : (code - run.first) / run.stride ≤ (run.last - run.first) / run.stride :=
    Nat.div_le_div_right (by omega)
  exact List.mem_range'.mpr ⟨(code - run.first) / run.stride, by omega, by omega⟩

/-! Sets of characters as numbers, with one bit for each: the table is too long to compare every
run in it with every other one. -/

def codeBits (codes : List Nat) : Nat := codes.foldr (fun code rest => 1 <<< code ||| rest) 0

def runBits (codes : CaseRun → List Nat) (runs : List CaseRun) : Nat :=
  runs.foldr (fun run rest => codeBits (codes run) ||| rest) 0

theorem testBit_codeBits {codes : List Nat} {code : Nat} (member : code ∈ codes) :
    (codeBits codes).testBit code = true := by
  induction codes with
  | nil => contradiction
  | cons first rest ih =>
      have split : codeBits (first :: rest) = 1 <<< first ||| codeBits rest := rfl
      rw [split, Nat.testBit_or, Bool.or_eq_true]
      rcases List.mem_cons.mp member with here | later
      · left
        rw [here, Nat.testBit_shiftLeft, Nat.sub_self]
        simp
      · exact .inr (ih later)

theorem testBit_runBits {codes : CaseRun → List Nat} {runs : List CaseRun} {run : CaseRun}
    {code : Nat} (listed : run ∈ runs) (member : code ∈ codes run) :
    (runBits codes runs).testBit code = true := by
  induction runs with
  | nil => contradiction
  | cons first rest ih =>
      have split : runBits codes (first :: rest) = codeBits (codes first) ||| runBits codes rest :=
        rfl
      rw [split, Nat.testBit_or, Bool.or_eq_true]
      rcases List.mem_cons.mp listed with here | later
      · exact .inl (testBit_codeBits (here ▸ member))
      · exact .inr (ih later)

/-- Nothing that a run is lowered to could be lowered further. -/
theorem targets_apart : runBits (fun run => run.codes.map run.target) caseRuns &&&
    runBits CaseRun.codes (dottedRun :: caseRuns) = 0 := by
  decide +kernel

/-- Only the capitals and the Kelvin sign are lowered to letters of ASCII, and nothing below. -/
theorem caseRuns_above_letters : ∀ run ∈ caseRuns, 0x7a < run.first + run.shift ∨
    run.first = 0x41 ∧ run.last = 0x5a ∧ run.shift = 32 ∨
    run.first = 0x212a ∧ run.last = 0x212a ∧ run.shift = -8383 := by
  decide +kernel

/-- What a run lowers a code to is in no set of codes apart from all of these. -/
theorem testBit_target {run : CaseRun} {code others : Nat}
    (apart : runBits (fun run => run.codes.map run.target) caseRuns &&& others = 0)
    (listed : run ∈ caseRuns) (covered : run.covers code = true) :
    others.testBit (run.target code) = false := by
  have target : (runBits (fun run => run.codes.map run.target) caseRuns).testBit
      (run.target code) = true :=
    testBit_runBits listed (List.mem_map_of_mem (CaseRun.mem_codes covered))
  have nowhere := congrArg (Nat.testBit · (run.target code)) apart
  simpa only [Nat.testBit_and, target, Bool.true_and, Nat.zero_testBit] using nowhere

theorem target_uncovered {run other : CaseRun} {code : Nat} (listed : run ∈ caseRuns)
    (among : other ∈ dottedRun :: caseRuns) (covered : run.covers code = true) :
    other.covers (run.target code) = false := by
  rw [← Bool.not_eq_true]
  intro again
  have source : (runBits CaseRun.codes (dottedRun :: caseRuns)).testBit (run.target code) = true :=
    testBit_runBits among (CaseRun.mem_codes again)
  rw [testBit_target targets_apart listed covered] at source
  contradiction

/-- Two capitals outside ASCII, and what is left of others that the table does not lower. -/
theorem lowerChar_listed : lowerChar '\u03a3' = ['\u03c3'] ∧ lowerChar '\u212a' = ['k'] ∧
    lowerChar '\u0307' = ['\u0307'] ∧ lowerChar '\u03c2' = ['\u03c2'] ∧
    lowerChar '\u03c3' = ['\u03c3'] := by
  decide +kernel

theorem lowered_of_small {c : Char} (low : c.toNat ≤ 0x7a) (small : c ∉ capitals) :
    Lowered c := by
  refine ⟨?_, lowerChar_of_small low small⟩
  rintro rfl
  contradiction

theorem lowered_of_uncovered {c : Char}
    (outside : ∀ run ∈ dottedRun :: caseRuns, run.covers c.toNat = false) : Lowered c := by
  obtain ⟨undotted, unlisted⟩ := List.forall_mem_cons.mp outside
  have plain : c ≠ '\u0130' := by
    rintro rfl
    contradiction
  have itself := lowerChar_of_uncovered plain unlisted
  refine ⟨?_, itself⟩
  rintro rfl
  rw [lowerChar_listed.1] at itself
  contradiction

theorem lowered_of_mem_lowerChar {c d : Char} (other : c ≠ '\u03a3') (member : d ∈ lowerChar c) :
    Lowered d := by
  rcases lowerChar_cases c with ⟨_, two⟩ | ⟨run, listed, covered, one⟩ | itself
  · simp only [two, List.mem_cons, List.not_mem_nil, or_false] at member
    rcases member with rfl | rfl
    · exact lowered_of_small (by decide) (by decide)
    · exact ⟨by decide, lowerChar_listed.2.2.1⟩
  · rw [one, List.mem_singleton] at member
    rw [member]
    by_cases zero : Char.ofNat (run.target c.toNat) = Char.ofNat 0
    · rw [zero]
      exact lowered_of_small (by decide) (by decide)
    · apply lowered_of_uncovered
      rw [toNat_ofNat zero]
      intro another among
      exact target_uncovered listed among covered
  · rw [itself, List.mem_singleton] at member
    rw [member]
    exact ⟨other, itself⟩

theorem lowered_of_mem_lowerAfter {before text : List Char} {d : Char}
    (member : d ∈ lowerAfter before text) : Lowered d := by
  induction text generalizing before with
  | nil => contradiction
  | cons c rest ih =>
      rw [lowerAfter, List.mem_append] at member
      rcases member with here | later
      · by_cases sigma : c = '\u03a3'
        · rw [if_pos sigma, List.mem_singleton] at here
          rw [here]
          split
          · exact ⟨by decide, lowerChar_listed.2.2.2.1⟩
          · exact ⟨by decide, lowerChar_listed.2.2.2.2⟩
        · rw [if_neg sigma] at here
          exact lowered_of_mem_lowerChar sigma here
      · exact ih later

theorem lowerAfter_of_lowered {text : List Char} (all : ∀ c ∈ text, Lowered c)
    (before : List Char) : lowerAfter before text = text := by
  induction text generalizing before with
  | nil => rfl
  | cons c rest ih =>
      obtain ⟨⟨plain, stays⟩, others⟩ := List.forall_mem_cons.mp all
      rw [lowerAfter, if_neg plain, stays, ih others]
      rfl

theorem lower_of_small {text : String}
    (small : (text.toList.all fun c => decide (c.toNat ≤ 0x7a) && !c.isUpper) = true) :
    lower text = text := by
  have upper : ∀ c ∈ capitals, c.isUpper = true := forall_capitals (by decide)
  have settled : lowerAfter [] text.toList = text.toList := by
    apply lowerAfter_of_lowered
    intro c member
    have plain := List.all_eq_true.mp small c member
    simp only [Bool.and_eq_true, decide_eq_true_eq, Bool.not_eq_true'] at plain
    apply lowered_of_small plain.1
    intro large
    rw [upper c large] at plain
    exact absurd plain.2 (by decide)
  rw [lower, settled, String.ofList_toList]

theorem lower_lower (text : String) : lower (lower text) = lower text := by
  have settled : lowerAfter [] (lower text).toList = (lower text).toList := by
    apply lowerAfter_of_lowered
    intro c member
    rw [lower, String.toList_ofList] at member
    exact lowered_of_mem_lowerAfter member
  rw [lower, settled, String.ofList_toList]

/-- No capital is left to tell the text apart from another one by its case. -/
theorem map_toLower_lower (text : String) :
    (lower text).toList.map Char.toLower = (lower text).toList := by
  have large : ∀ c ∈ capitals, c.toLower ≠ c := forall_capitals (by decide)
  have small : ∀ c ∈ (lower text).toList, c.toLower = id c := by
    intro c member
    rw [lower, String.toList_ofList] at member
    have settled := lowered_of_mem_lowerAfter member
    apply toLower_of_not_capital
    intro capital
    have lowered := (lowerChar_capitals c capital).symm.trans settled.2
    exact large c capital (List.singleton_inj.mp lowered)
  rw [List.map_congr_left small, List.map_id]

/-! Spellings of a word of small ASCII letters. -/

def spelledLetter (c : Char) : Char := if c = '\u212a' then 'k' else c.toLower

theorem lowerChar_of_letters {c : Char} (letters : ∀ d ∈ lowerChar c, d.isLower = true) :
    lowerChar c = [spelledLetter c] := by
  by_cases capital : c ∈ capitals
  · have plain : ∀ c ∈ capitals, c ≠ '\u212a' := forall_capitals (by decide)
    rw [spelledLetter, if_neg (plain c capital), lowerChar_capitals c capital]
  by_cases kelvin : c = '\u212a'
  · rw [kelvin]
    exact lowerChar_listed.2.1
  have itself : spelledLetter c = c := by
    rw [spelledLetter, if_neg kelvin, toLower_of_not_capital capital]
  rcases lowerChar_cases c with ⟨_, two⟩ | ⟨run, listed, covered, one⟩ | unchanged
  · -- the dot is no letter
    have dot := letters '\u0307' (by simp [two])
    contradiction
  · have letter : (Char.ofNat (run.target c.toNat)).isLower = true := letters _ (by simp [one])
    have known : Char.ofNat (run.target c.toNat) ≠ Char.ofNat 0 := by
      intro zero
      rw [zero] at letter
      contradiction
    have small : (Char.ofNat (run.target c.toNat)).toNat ≤ 0x7a :=
      of_decide_eq_true (Bool.and_eq_true_iff.mp letter).2
    rw [toNat_ofNat known, CaseRun.target] at small
    simp only [CaseRun.covers, Bool.and_eq_true, decide_eq_true_eq] at covered
    obtain ⟨⟨low, high⟩, _⟩ := covered
    rcases caseRuns_above_letters run listed with
      above | ⟨first, last, _⟩ | ⟨first, last, _⟩
    · omega
    · exact absurd (mem_capitals (by omega) (by omega)) capital
    · have code : c.toNat = '\u212a'.toNat := by
        rw [first] at low
        rw [last] at high
        exact Nat.le_antisymm high low
      exact absurd (Char.toNat_inj.mp code) kelvin
  · rw [itself, unchanged]

/-- Whatever lowers to a word of small letters spells it. -/
theorem spelling_of_lowerAfter {before text word : List Char}
    (letters : ∀ d ∈ word, d.isLower = true) (lowered : lowerAfter before text = word) :
    text.map spelledLetter = word := by
  induction text generalizing before word with
  | nil => exact lowered
  | cons c rest ih =>
      rw [← lowered] at letters ⊢
      rw [lowerAfter, List.forall_mem_append] at letters
      obtain ⟨here, later⟩ := letters
      rw [List.map_cons, ih later rfl, lowerAfter]
      by_cases sigma : c = '\u03a3'
      · -- neither form of the sigma is a letter of ASCII
        rw [if_pos sigma] at here
        have letter := here _ List.mem_cons_self
        split at letter <;> contradiction
      · rw [if_neg sigma] at here ⊢
        rw [lowerChar_of_letters here]
        rfl

end DeclarativeQuery.Text
