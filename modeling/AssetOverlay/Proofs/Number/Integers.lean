import AssetOverlay.Proofs.Number.Numerals
import AssetOverlay.Text.Blank
import Mathlib.Algebra.Ring.Int.Defs

/-!
# Integers

An integer of 64 bits is written in decimal with an optional sign, or as the bits of a word behind
`0x`.  This module tells which texts write an integer and which one, without regard to how they are
read, and that exactly these are read.  The digits may go on as long as they like while the number
that they write is in range.

Every integer is written by its decimal numeral and by the hexadecimal one of its bits.
-/

namespace AssetOverlay

/-- An optional plus sign and at least one digit. -/
def WrittenNatural (base : Nat) (text : List Char) (number : Nat) : Prop :=
  ∃ plus digits, text = plus ++ digits ∧ (plus = [] ∨ plus = ['+']) ∧ digits ≠ [] ∧
    Writes base digits number

/-- A text that writes an integer of 64 bits. -/
inductive WrittenInteger : List Char → Int → Prop where
  /-- Words from the middle of their range on stand for the negative integers. -/
  | hexadecimal {text : List Char} {word : Nat} : WrittenNatural 16 text word → word < 2 ^ 64 →
      WrittenInteger ('0' :: 'x' :: text) (if word < 2 ^ 63 then word else word - 2 ^ 64)
  | decimal {text : List Char} {number : Nat} : WrittenNatural 10 text number →
      number < 2 ^ 63 → WrittenInteger text number
  | negative {digits : List Char} {number : Nat} : digits ≠ [] → Writes 10 digits number →
      number ≤ 2 ^ 63 → WrittenInteger ('-' :: digits) (-number)

/-! ## Natural numbers -/

section Naturals

variable {base number : Nat} {character : Char} {rest : List Char}

theorem not_digitOf_sign {sign : Char} (h : sign = '+' ∨ sign = '-') (value : Nat) :
    ¬ DigitOf base sign value := by
  have hcode : sign.toNat < 48 := by
    rcases h with rfl | rfl
    · decide
    · decide
  rw [digitOf_iff]
  omega

theorem not_writes_sign {sign : Char} (h : sign = '+' ∨ sign = '-') :
    ¬ Writes base (sign :: rest) number := by
  rw [writes_iff_writesFrom, writesFrom_cons]
  rintro ⟨value, hdigit, -⟩
  exact not_digitOf_sign h value hdigit

theorem not_writtenNatural_nil : ¬ WrittenNatural base [] number := by
  rintro ⟨plus, digits, htext, -, hdigits, -⟩
  exact hdigits (List.append_eq_nil_iff.mp htext.symm).2

theorem writtenNatural_plus_iff :
    WrittenNatural base ('+' :: rest) number ↔ rest ≠ [] ∧ Writes base rest number := by
  constructor
  · rintro ⟨_, digits, htext, rfl | rfl, hdigits, hwrites⟩
    · rw [List.nil_append] at htext
      rw [← htext] at hwrites
      exact absurd hwrites (not_writes_sign (.inl rfl))
    · rw [List.singleton_append, List.cons.injEq] at htext
      rw [htext.2]
      exact ⟨hdigits, hwrites⟩
  · rintro ⟨hdigits, hwrites⟩
    exact ⟨['+'], rest, rfl, .inr rfl, hdigits, hwrites⟩

theorem writtenNatural_cons_iff (h : character ≠ '+') :
    WrittenNatural base (character :: rest) number ↔ Writes base (character :: rest) number := by
  constructor
  · rintro ⟨_, digits, htext, rfl | rfl, -, hwrites⟩
    · rwa [htext]
    · rw [List.singleton_append, List.cons.injEq] at htext
      exact absurd htext.1 h
  · intro hwrites
    exact ⟨[], _, rfl, .inl rfl, List.cons_ne_nil _ _, hwrites⟩

end Naturals

/-! ## Reading integers -/

namespace Integer

/-- What digits are read to if the numbers up to a limit stand for values. -/
theorem map_readDigits_eq_ok_iff {Value : Type} {digit? : Char → Option Nat} {base limit : Nat}
    {beyond : Failure} {digits : List Char} {value : Value} (valueOf : Nat → Value)
    (hbase : 0 < base)
    (hdigit : ∀ character value, digit? character = some value ↔ DigitOf base character value) :
    (readDigits digit? base limit beyond 0 digits).map valueOf = .ok value ↔
      ∃ number, Writes base digits number ∧ number ≤ limit ∧ valueOf number = value := by
  have hread (number : Nat) : readDigits digit? base limit beyond 0 digits = .ok number ↔
      Writes base digits number ∧ number ≤ limit := by
    rw [writes_iff_writesFrom]
    exact readDigits_eq_ok_iff hbase hdigit (Nat.zero_le limit)
  simp only [← and_assoc, ← hread]
  cases readDigits digit? base limit beyond 0 digits with
  | error failure => simp [Except.map]
  | ok number => simp [Except.map]

theorem readHex_eq_ok_iff {text : List Char} {word : UInt64} :
    readHex text = .ok word ↔ WrittenNatural 16 text word.toNat := by
  have hdigits (digits : List Char) :
      (readDigits Hex.digitValue? 16 (Nat.pow 2 64 - 1) .tooLarge 0 digits).map UInt64.ofNat =
        .ok word ↔ Writes 16 digits word.toNat := by
    rw [map_readDigits_eq_ok_iff UInt64.ofNat (by decide) fun _ _ ↦ digitValue?_eq_some_iff]
    have hlimit : Nat.pow 2 64 = 2 ^ 64 := rfl
    have hword := word.toNat_lt
    constructor
    · rintro ⟨number, hwrites, hle, rfl⟩
      rwa [UInt64.toNat_ofNat', Nat.mod_eq_of_lt (by omega)]
    · intro hwrites
      exact ⟨word.toNat, hwrites, by omega, UInt64.ofNat_toNat⟩
  rcases text with _ | ⟨character, rest⟩
  · exact iff_of_false nofun not_writtenNatural_nil
  · by_cases hplus : character = '+'
    · subst hplus
      rw [writtenNatural_plus_iff]
      cases rest with
      | nil => exact iff_of_false nofun fun h ↦ h.1 rfl
      | cons first rest =>
        rw [and_iff_right (List.cons_ne_nil _ _), ← hdigits]
        rfl
    · rw [writtenNatural_cons_iff hplus, ← hdigits]
      simp [readHex, hplus]

/-- An integer that is in range is the value of one integer of 64 bits. -/
theorem ofInt_eq_iff {number : Int} {value : Int64} (hlow : -2 ^ 63 ≤ number)
    (hhigh : number < 2 ^ 63) : Int64.ofInt number = value ↔ value.toInt = number := by
  rw [← Int64.toInt_inj, Int64.toInt_ofInt_of_le hlow hhigh, eq_comm]

theorem map_cast {Value : Type} (read : Except Failure Nat) (valueOf : Int → Value) :
    (do return ((← read : Nat) : Int) : Except Failure Int).map valueOf =
      read.map fun number : Nat ↦ valueOf number := by
  cases read with
  | error failure => rfl
  | ok number => rfl

section Decimal

variable {digits : List Char} {value : Int64}

/-- What decimal digits are read to if the numbers up to a limit stand for integers in range. -/
theorem readDigits_decimal_eq_ok_iff {limit : Nat} {beyond : Failure} (integerOf : Int → Int)
    (hrange : ∀ number : Nat, number ≤ limit →
      -2 ^ 63 ≤ integerOf number ∧ integerOf number < 2 ^ 63) :
    (readDigits decimalDigit? 10 limit beyond 0 digits).map
        (fun number ↦ Int64.ofInt (integerOf number)) = .ok value ↔
      ∃ number : Nat, Writes 10 digits number ∧ number ≤ limit ∧
        value.toInt = integerOf number := by
  rw [map_cast, map_readDigits_eq_ok_iff _ (by decide) fun _ _ ↦ decimalDigit?_eq_some_iff]
  constructor
  · rintro ⟨number, hwrites, hle, hvalue⟩
    obtain ⟨hlow, hhigh⟩ := hrange number hle
    exact ⟨number, hwrites, hle, (ofInt_eq_iff hlow hhigh).mp hvalue⟩
  · rintro ⟨number, hwrites, hle, hvalue⟩
    obtain ⟨hlow, hhigh⟩ := hrange number hle
    exact ⟨number, hwrites, hle, (ofInt_eq_iff hlow hhigh).mpr hvalue⟩

theorem readDigits_positive_eq_ok_iff :
    (readDigits decimalDigit? 10 (Nat.pow 2 63 - 1) .tooLarge 0 digits).map
        (fun number ↦ Int64.ofInt number) = .ok value ↔
      ∃ number : Nat, Writes 10 digits number ∧ number < 2 ^ 63 ∧ value.toInt = number := by
  have hlimit : Nat.pow 2 63 = 2 ^ 63 := rfl
  have hless (number : Nat) : number < 2 ^ 63 ↔ number ≤ Nat.pow 2 63 - 1 := by omega
  simp only [hless]
  exact readDigits_decimal_eq_ok_iff (fun number ↦ number) (by omega)

theorem readDigits_negative_eq_ok_iff :
    (readDigits decimalDigit? 10 (Nat.pow 2 63) .tooSmall 0 digits).map
        (fun number ↦ Int64.ofInt (-(number : Int))) = .ok value ↔
      ∃ number : Nat, Writes 10 digits number ∧ number ≤ 2 ^ 63 ∧ value.toInt = -number := by
  have hlimit : Nat.pow 2 63 = 2 ^ 63 := rfl
  exact readDigits_decimal_eq_ok_iff (fun number ↦ -number) (by omega)

/-- A text that starts with a minus sign is no natural number, and only such a text is negative. -/
theorem readDecimal_eq_ok_iff {text : List Char} :
    readDecimal text = .ok value ↔
      (∃ number : Nat, WrittenNatural 10 text number ∧ number < 2 ^ 63 ∧ value.toInt = number) ∨
        ∃ digits, text = '-' :: digits ∧ digits ≠ [] ∧
          ∃ number : Nat, Writes 10 digits number ∧ number ≤ 2 ^ 63 ∧ value.toInt = -number := by
  rcases text with _ | ⟨character, rest⟩
  · simp [readDecimal, not_writtenNatural_nil]
  · by_cases hminus : character = '-'
    · subst hminus
      simp only [writtenNatural_cons_iff (show '-' ≠ '+' by decide), not_writes_sign (.inr rfl),
        false_and, exists_false, false_or, List.cons.injEq, true_and, exists_eq_left']
      cases rest with
      | nil => exact iff_of_false nofun fun h ↦ h.1 rfl
      | cons first rest =>
        rw [and_iff_right (List.cons_ne_nil _ _), ← readDigits_negative_eq_ok_iff]
        rfl
    · simp only [List.cons.injEq, hminus, false_and, exists_false, or_false]
      by_cases hplus : character = '+'
      · subst hplus
        simp only [writtenNatural_plus_iff]
        cases rest with
        | nil => simp [readDecimal]
        | cons first rest =>
          simp only [ne_eq, reduceCtorEq, not_false_eq_true, true_and,
            ← readDigits_positive_eq_ok_iff]
          rfl
      · simp only [writtenNatural_cons_iff hplus, ← readDigits_positive_eq_ok_iff]
        simp [readDecimal, hplus, hminus]

end Decimal

/-- The value of a word as a signed integer. -/
theorem toInt_toInt64 (word : UInt64) :
    word.toInt64.toInt =
      if word.toNat < 2 ^ 63 then (word.toNat : Int) else word.toNat - 2 ^ 64 := by
  have hcases : word.toInt64.toInt =
      if 2 * word.toNat < 2 ^ 64 then (word.toNat : Int) else word.toNat - (2 ^ 64 : Nat) :=
    BitVec.toInt_eq_toNat_cond word.toBitVec
  rw [hcases]
  split <;> split <;> omega

theorem not_writtenNatural_marked {text : List Char} {number : Nat} :
    ¬ WrittenNatural 10 ('0' :: 'x' :: text) number := by
  have hcode : 'x'.toNat = 120 := rfl
  rw [writtenNatural_cons_iff (by decide), writes_iff_writesFrom, writesFrom_cons]
  rintro ⟨first, -, hrest⟩
  obtain ⟨value, hdigit, -⟩ := writesFrom_cons.mp hrest
  rw [digitOf_iff] at hdigit
  omega

theorem map_readHex_eq_ok_iff {text : List Char} {value : Int64} :
    (readHex text).map UInt64.toInt64 = .ok value ↔
      ∃ word : UInt64, WrittenNatural 16 text word.toNat ∧ word.toInt64 = value := by
  simp only [← readHex_eq_ok_iff]
  cases readHex text with
  | error failure => simp [Except.map]
  | ok word => simp [Except.map]

/-- Exactly the texts that write an integer are read. -/
theorem read_eq_ok_iff {text : List Char} {value : Int64} :
    read text = .ok value ↔ WrittenInteger text value.toInt := by
  unfold read
  split
  · next text =>
    rw [map_readHex_eq_ok_iff]
    constructor
    · rintro ⟨word, hword, rfl⟩
      rw [toInt_toInt64]
      exact .hexadecimal hword word.toNat_lt
    · intro h
      generalize hvalue : value.toInt = integer at h
      cases h with
      | @hexadecimal _ word hword hlt =>
        have hnat : (UInt64.ofNat word).toNat = word := by
          rw [UInt64.toNat_ofNat', Nat.mod_eq_of_lt hlt]
        refine ⟨UInt64.ofNat word, hnat.symm ▸ hword, ?_⟩
        rw [← Int64.toInt_inj, toInt_toInt64, hnat, hvalue]
      | decimal hnumber => exact absurd hnumber not_writtenNatural_marked
  · next text hmark =>
    rw [readDecimal_eq_ok_iff]
    constructor
    · rintro (⟨number, hnumber, hlt, hvalue⟩ | ⟨digits, rfl, hdigits, number, hwrites, hle, hvalue⟩)
      · rw [hvalue]
        exact .decimal hnumber hlt
      · rw [hvalue]
        exact .negative hdigits hwrites hle
    · intro h
      generalize hvalue : value.toInt = integer at h
      cases h with
      | hexadecimal => exact absurd rfl (hmark _)
      | decimal hnumber hlt => exact .inl ⟨_, hnumber, hlt, rfl⟩
      | negative hdigits hwrites hle => exact .inr ⟨_, rfl, hdigits, _, hwrites, hle, rfl⟩

end Integer

/-! ## Numerals of an integer -/

theorem writtenNatural_of_writes {base number : Nat} {digits : List Char} (hdigits : digits ≠ [])
    (hwrites : Writes base digits number) : WrittenNatural base digits number :=
  ⟨[], digits, rfl, .inl rfl, hdigits, hwrites⟩

theorem writtenInteger_toString (value : Int64) :
    WrittenInteger (toString value.toInt).toList value.toInt := by
  have hwrites (number : Nat) : Writes 10 number.repr.toList number := by
    rw [Nat.repr_eq_ofList_toDigits, String.toList_ofList]
    exact writes_toDigits (by decide) (by decide) number
  have hdigits (number : Nat) : number.repr.toList ≠ [] := by
    rw [Nat.repr_eq_ofList_toDigits, String.toList_ofList]
    exact Nat.toDigits_ne_nil
  have hlow := value.le_toInt
  have hhigh := value.toInt_lt
  rw [Int.toString_eq_repr]
  cases hvalue : value.toInt with
  | ofNat number =>
    change value.toInt = (number : Int) at hvalue
    exact .decimal (writtenNatural_of_writes (hdigits number) (hwrites number)) (by omega)
  | negSucc number =>
    have hnegative :
        WrittenInteger ('-' :: (number + 1).repr.toList) (-((number + 1 : Nat) : Int)) :=
      .negative (hdigits _) (hwrites _) (by omega)
    rw [Int.repr, String.toList_append]
    exact hnegative

/-- Letters may be in either case, and there may be any number of zeros in front. -/
theorem writtenInteger_toDigits (value : Int64) (zeros : Nat) {digits : List Char}
    (hdigits : List.Forall₂ (fun first second ↦ first.toLower = second.toLower) digits
      (Nat.toDigits 16 value.toUInt64.toNat)) :
    WrittenInteger ('0' :: 'x' :: (List.replicate zeros '0' ++ digits)) value.toInt := by
  have hwrites := (writes_toDigits (by decide) (by decide) _).of_toLower hdigits
  have hne : List.replicate zeros '0' ++ digits ≠ [] := by
    rintro hnil
    rw [(List.append_eq_nil_iff.mp hnil).2, List.forall₂_nil_left_iff] at hdigits
    exact Nat.toDigits_ne_nil hdigits
  rw [← Int64.toInt64_toUInt64 value, Integer.toInt_toInt64]
  refine .hexadecimal (writtenNatural_of_writes hne ?_) value.toUInt64.toNat_lt
  exact (writes_zeros_append_iff (by decide) zeros).mpr hwrites

end AssetOverlay
