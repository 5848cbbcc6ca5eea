import DeclarativeQuery.Text.Numeral

/-!
What the readers of numerals accept, and as what. A numeral is an optional sign and at least one
digit of ASCII; leading zeros make no difference. The readers accept every numeral of a number
within their bounds and nothing else, and so they read back what is written for a number.
-/

namespace DeclarativeQuery.Text

variable {text : List Char}

structure Spells (digits : List Char) (value : Nat) : Prop where
  filled : digits ≠ []
  ascii : ∀ c ∈ digits, c.isDigit = true
  value_eq : Nat.ofDigitChars 10 digits 0 = value

inductive Denotes : List Char → Int → Prop
  | unsigned {digits : List Char} {value : Nat} (spelled : Spells digits value) :
      Denotes digits value
  | plus {digits : List Char} {value : Nat} (spelled : Spells digits value) :
      Denotes ('+' :: digits) value
  | minus {digits : List Char} {value : Nat} (spelled : Spells digits value) :
      Denotes ('-' :: digits) (-value)

def Within64 (value : Int) : Prop := minInt64 ≤ value ∧ value ≤ maxInt64

instance (value : Int) : Decidable (Within64 value) :=
  inferInstanceAs (Decidable (_ ∧ _))

/-! Reading -/

theorem readDigitsFrom_eq_some_iff {start value : Nat} :
    readDigitsFrom start text = some value ↔
      (∀ c ∈ text, c.isDigit = true) ∧ Nat.ofDigitChars 10 text start = value := by
  induction text generalizing start with
  | nil => simp [readDigitsFrom]
  | cons c rest ih =>
      by_cases digit : c.isDigit = true
      · simp [readDigitsFrom, digitValue?, digit, ih, Nat.ofDigitChars_cons]
      · simp [readDigitsFrom, digitValue?, digit]

theorem readDigits_eq_some_iff {value : Nat} :
    readDigits text = some value ↔ Spells text value := by
  cases text with
  | nil => exact ⟨nofun, fun spelled => absurd rfl spelled.filled⟩
  | cons c rest =>
      rw [readDigits, readDigitsFrom_eq_some_iff]
      · exact ⟨fun ⟨ascii, same⟩ => ⟨List.cons_ne_nil c rest, ascii, same⟩,
          fun spelled => ⟨spelled.ascii, spelled.value_eq⟩⟩
      · exact nofun

/-- Digits have no sign. -/
theorem Spells.ne_signed {digits : List Char} {value : Nat} (spelled : Spells digits value)
    {c : Char} (sign : c.isDigit = false) (rest : List Char) : digits ≠ c :: rest := by
  rintro rfl
  rw [spelled.ascii c List.mem_cons_self] at sign
  contradiction

theorem readSigned_eq_some_iff {value : Int} :
    readSigned text = some value ↔ Denotes text value := by
  constructor
  · intro read
    unfold readSigned at read
    split at read
    next digits =>
      obtain ⟨number, spelled, rfl⟩ := Option.map_eq_some_iff.mp read
      exact .plus (readDigits_eq_some_iff.mp spelled)
    next digits =>
      cases spelled : readDigits digits with
      | none => simp [spelled] at read
      | some number =>
          have same : -(number : Int) = value := by simpa [spelled] using read
          exact same ▸ .minus (readDigits_eq_some_iff.mp spelled)
    next =>
      obtain ⟨number, spelled, rfl⟩ := Option.map_eq_some_iff.mp read
      exact .unsigned (readDigits_eq_some_iff.mp spelled)
  · intro denoted
    cases denoted with
    | plus spelled => simp [readSigned, readDigits_eq_some_iff.mpr spelled]
    | minus spelled => simp [readSigned, readDigits_eq_some_iff.mpr spelled]
    | unsigned spelled =>
        rw [readSigned, readDigits_eq_some_iff.mpr spelled]
        · rfl
        · exact spelled.ne_signed rfl
        · exact spelled.ne_signed rfl

theorem readInt64_eq_some_iff {value : Int} :
    readInt64 text = some value ↔ Denotes text value ∧ Within64 value := by
  rw [← readSigned_eq_some_iff, readInt64, Within64]
  cases readSigned text with
  | none => simp
  | some found =>
      simp only [Option.ite_none_right_eq_some, Option.some.injEq]
      constructor
      · rintro ⟨within, rfl⟩
        exact ⟨rfl, within⟩
      · rintro ⟨rfl, within⟩
        exact ⟨within, rfl⟩

/-! Reading what is written -/

theorem natDigits_spells (value : Nat) : Spells (natDigits value) value where
  filled := Nat.toDigits_ne_nil
  ascii _ member := Nat.isDigit_of_mem_toDigits (by decide) (by decide) member
  value_eq := Nat.ofDigitChars_ten_toDigits

theorem intDigits_denotes (value : Int) : Denotes (intDigits value) value := by
  have spelled := natDigits_spells value.natAbs
  rw [intDigits]
  split
  next negative =>
    have denoted := Denotes.minus spelled
    rwa [Int.ofNat_natAbs_of_nonpos (by omega), Int.neg_neg] at denoted
  next natural =>
    have denoted := Denotes.unsigned spelled
    rwa [Int.natAbs_of_nonneg (by omega)] at denoted

theorem readNat64_natDigits {value : Nat} (within : value ≤ maxNat64) :
    readNat64 (natDigits value) = some value := by
  have spelled := natDigits_spells value
  rw [readNat64]
  · simp only [readDigits_eq_some_iff.mpr spelled, within, ↓reduceIte]
  · exact spelled.ne_signed rfl

end DeclarativeQuery.Text
