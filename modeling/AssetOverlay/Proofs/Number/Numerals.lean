import AssetOverlay.Number.Integer
import Mathlib.Data.List.Forall2
import Mathlib.Data.Nat.Digits.Defs

/-!
# Numerals

A numeral writes a number by the values of its digits, the most significant one first, where letters
of either case are the same digits.  Readers go over the digits from the left and keep the number
that the digits so far write, so what they read is told from any number on; zeros in front do not
change the number zero that they start from.

Every number is written by its shortest numeral.
-/

namespace AssetOverlay

/-- The digits of base sixteen, each in the place of its value. -/
def digitLetters : List Char :=
  ['0', '1', '2', '3', '4', '5', '6', '7', '8', '9', 'a', 'b', 'c', 'd', 'e', 'f']

/-- A character is the digit of a value in a base, in either case of a letter. -/
def DigitOf (base : Nat) (character : Char) (value : Nat) : Prop :=
  (digitLetters.take base)[value]? = some character.toLower
deriving Decidable

/-- Digits that write a number, the most significant one first. -/
def Writes (base : Nat) (digits : List Char) (number : Nat) : Prop :=
  ∃ values, List.Forall₂ (DigitOf base) digits values ∧ Nat.ofDigits base values.reverse = number

/-- Digits that write a number together with those before them, which write the start. -/
def WritesFrom (base start : Nat) (digits : List Char) (number : Nat) : Prop :=
  ∃ values, List.Forall₂ (DigitOf base) digits values ∧
    values.foldl (fun number value ↦ base * number + value) start = number

/-! ## Digits -/

section Digits

variable {base : Nat} {character : Char} {value : Nat}

theorem toNat_toLower (character : Char) : character.toLower.toNat =
    if 65 ≤ character.toNat ∧ character.toNat ≤ 90 then character.toNat + 32
    else character.toNat := by
  unfold Char.toLower
  by_cases h : character.val ≥ 'A'.val ∧ character.val ≤ 'Z'.val
  · have hrange : 65 ≤ character.toNat ∧ character.toNat ≤ 90 := h
    rw [dif_pos h, if_pos hrange]
    change (character.val + 32).toNat = character.val.toNat + 32
    rw [UInt32.toNat_add]
    change 65 ≤ character.val.toNat ∧ character.val.toNat ≤ 90 at hrange
    exact Nat.mod_eq_of_lt (show character.val.toNat + 32 < 2 ^ 32 by omega)
  · have hrange : ¬ (65 ≤ character.toNat ∧ character.toNat ≤ 90) := h
    rw [dif_neg h, if_neg hrange]

/-- Characters outside of ASCII have no case. -/
theorem toLower_eq_self (h : 128 ≤ character.toNat) : character.toLower = character := by
  apply Char.toNat_inj.mp
  rw [toNat_toLower, if_neg (by omega)]

theorem getElem?_digitLetters {letter : Char} : digitLetters[value]? = some letter ↔
    value < 16 ∧ letter.toNat = if value < 10 then 48 + value else 87 + value := by
  have hcodes : ∀ value < 16, digitLetters[value]?.map Char.toNat =
      some (if value < 10 then 48 + value else 87 + value) := by decide
  constructor
  · intro h
    have hvalue : value < 16 := (List.getElem?_eq_some_iff.mp h).1
    have hcode := hcodes value hvalue
    rw [h] at hcode
    exact ⟨hvalue, Option.some_inj.mp hcode⟩
  · rintro ⟨hvalue, hletter⟩
    obtain ⟨found, hfound, hcode⟩ := Option.map_eq_some_iff.mp (hcodes value hvalue)
    rw [hfound, Char.toNat_inj.mp (hcode.trans hletter.symm)]

/-- The digits of a base by their codes. -/
theorem digitOf_iff : DigitOf base character value ↔ value < base ∧
    (value < 10 ∧ character.toNat = 48 + value ∨
      10 ≤ value ∧ value < 16 ∧ (character.toNat = 87 + value ∨ character.toNat = 55 + value)) := by
  rw [DigitOf, List.getElem?_take]
  split
  · next hbase =>
    rw [getElem?_digitLetters, toNat_toLower]
    split <;> split <;> omega
  · next hbase => simp [hbase]

/-- All digits are ASCII characters. -/
theorem DigitOf.ascii (h : DigitOf base character value) : character.toNat < 128 := by
  rw [digitOf_iff] at h
  omega

theorem inRange_iff {low high : Char} : low ≤ character ∧ character ≤ high ↔
    low.toNat ≤ character.toNat ∧ character.toNat ≤ high.toNat :=
  Iff.rfl

theorem digitValue?_eq_some_iff :
    Hex.digitValue? character = some value ↔ DigitOf 16 character value := by
  have h0 : '0'.toNat = 48 := rfl
  have h9 : '9'.toNat = 57 := rfl
  have ha : 'a'.toNat = 97 := rfl
  have hf : 'f'.toNat = 102 := rfl
  have hA : 'A'.toNat = 65 := rfl
  have hF : 'F'.toNat = 70 := rfl
  simp only [digitOf_iff, Hex.digitValue?, inRange_iff, h0, h9, ha, hf, hA, hF]
  split
  · rw [Option.some_inj]
    omega
  · split
    · rw [Option.some_inj]
      omega
    · split
      · rw [Option.some_inj]
        omega
      · simp only [reduceCtorEq, false_iff]
        omega

theorem decimalDigit?_eq_some_iff :
    Integer.decimalDigit? character = some value ↔ DigitOf 10 character value := by
  have h0 : '0'.toNat = 48 := rfl
  have h9 : '9'.toNat = 57 := rfl
  simp only [digitOf_iff, Integer.decimalDigit?, inRange_iff, h0, h9]
  split
  · rw [Option.some_inj]
    omega
  · simp only [reduceCtorEq, false_iff]
    omega

end Digits

/-! ## Digits behind others -/

section WritesFrom

variable {base start number : Nat} {character : Char} {rest digits : List Char}

theorem writes_iff_writesFrom : Writes base digits number ↔ WritesFrom base 0 digits number := by
  have hfold (values : List Nat) : Nat.ofDigits base values.reverse =
      values.foldl (fun number value ↦ base * number + value) 0 := by
    rw [Nat.ofDigits_eq_foldr, List.foldr_reverse]
    simp only [Nat.cast_id, Nat.add_comm]
  simp only [Writes, WritesFrom, hfold]

theorem writesFrom_nil : WritesFrom base start [] number ↔ start = number := by
  constructor
  · rintro ⟨values, hvalues, rfl⟩
    cases hvalues
    rfl
  · rintro rfl
    exact ⟨[], .nil, rfl⟩

theorem writesFrom_cons : WritesFrom base start (character :: rest) number ↔
    ∃ value, DigitOf base character value ∧ WritesFrom base (base * start + value) rest number := by
  constructor
  · rintro ⟨values, hvalues, rfl⟩
    cases hvalues with
    | cons hfirst hrest => exact ⟨_, hfirst, _, hrest, rfl⟩
  · rintro ⟨value, hfirst, values, hrest, rfl⟩
    exact ⟨value :: values, .cons hfirst hrest, rfl⟩

theorem WritesFrom.start_le (hbase : 0 < base) (h : WritesFrom base start digits number) :
    start ≤ number := by
  induction digits generalizing start with
  | nil => exact Nat.le_of_eq (writesFrom_nil.mp h)
  | cons character rest ih =>
    obtain ⟨value, -, hrest⟩ := writesFrom_cons.mp h
    calc
      start ≤ base * start := Nat.le_mul_of_pos_left start hbase
      _ ≤ base * start + value := Nat.le_add_right _ _
      _ ≤ number := ih hrest

end WritesFrom

/-! ## Readers -/

theorem valueFrom?_eq_some_iff {start number : Nat} {digits : List Char} :
    Hex.valueFrom? start digits = some number ↔ WritesFrom 16 start digits number := by
  induction digits generalizing start with
  | nil => rw [Hex.valueFrom?, Option.some_inj, writesFrom_nil]
  | cons character rest ih =>
    rw [Hex.valueFrom?, writesFrom_cons]
    simp only [← digitValue?_eq_some_iff]
    cases Hex.digitValue? character with
    | none => simp
    | some value => simp [ih]

/-- What is read up to a limit are the numerals of numbers up to it. -/
theorem readDigits_eq_ok_iff {digit? : Char → Option Nat} {base limit start number : Nat}
    {beyond : Integer.Failure} {digits : List Char} (hbase : 0 < base)
    (hdigit : ∀ character value, digit? character = some value ↔ DigitOf base character value)
    (hstart : start ≤ limit) :
    Integer.readDigits digit? base limit beyond start digits = .ok number ↔
      WritesFrom base start digits number ∧ number ≤ limit := by
  induction digits generalizing start with
  | nil =>
    rw [Integer.readDigits, writesFrom_nil, Except.ok.injEq]
    exact ⟨fun h ↦ ⟨h, h ▸ hstart⟩, And.left⟩
  | cons character rest ih =>
    rw [Integer.readDigits, writesFrom_cons]
    simp only [← hdigit]
    cases digit? character with
    | none => simp
    | some value =>
      simp only [Option.some_inj, exists_eq_left']
      split
      · next hbeyond =>
        -- The number only grows, so it never comes back below the limit.
        refine iff_of_false nofun ?_
        rintro ⟨hwrites, hle⟩
        have hpast := hwrites.start_le hbase
        omega
      · next hinside => exact ih (Nat.not_lt.mp hinside)

/-! ## Numerals of a number -/

section Numerals

variable {base number : Nat} {digits : List Char}

theorem digitOf_zero_iff (hbase : 0 < base) (value : Nat) : DigitOf base '0' value ↔ value = 0 := by
  have hcode : '0'.toNat = 48 := rfl
  rw [digitOf_iff, hcode]
  omega

/-- Zeros in front change nothing. -/
theorem writes_zeros_append_iff (hbase : 0 < base) (zeros : Nat) :
    Writes base (List.replicate zeros '0' ++ digits) number ↔ Writes base digits number := by
  rw [writes_iff_writesFrom, writes_iff_writesFrom]
  induction zeros with
  | zero => rfl
  | succ zeros ih =>
    rw [List.replicate_succ, List.cons_append, writesFrom_cons]
    simp only [digitOf_zero_iff hbase, exists_eq_left, Nat.mul_zero, Nat.add_zero, ih]

/-- Case does not count. -/
theorem Writes.of_toLower {other : List Char} (h : Writes base digits number)
    (hcase : List.Forall₂ (fun first second ↦ first.toLower = second.toLower) other digits) :
    Writes base other number := by
  obtain ⟨values, hvalues, hnumber⟩ := h
  refine ⟨values, ?_, hnumber⟩
  clear hnumber
  induction hcase generalizing values with
  | nil => exact hvalues
  | cons hfirst hrest ih =>
    cases hvalues with
    | cons hdigit hvalues =>
      refine .cons ?_ (ih _ hvalues)
      rwa [DigitOf, hfirst]

theorem writes_append_singleton {front : List Char} {higher value : Nat} {last : Char}
    (hfront : Writes base front higher) (hlast : DigitOf base last value) :
    Writes base (front ++ [last]) (base * higher + value) := by
  obtain ⟨values, hvalues, rfl⟩ := hfront
  refine ⟨values ++ [value], List.rel_append hvalues (.cons hlast .nil), ?_⟩
  rw [List.reverse_append, List.reverse_singleton, List.singleton_append, Nat.ofDigits_cons]
  simp [Nat.add_comm]

theorem digitOf_digitChar (hsmall : base ≤ 16) {value : Nat} (hvalue : value < base) :
    DigitOf base (Nat.digitChar value) value := by
  have hdigits : ∀ value < 16,
      digitLetters[value]? = some (Nat.digitChar value).toLower := by decide
  rw [DigitOf, List.getElem?_take_of_lt hvalue]
  exact hdigits value (Nat.lt_of_lt_of_le hvalue hsmall)

theorem writes_toDigits (hbase : 1 < base) (hsmall : base ≤ 16) (number : Nat) :
    Writes base (Nat.toDigits base number) number := by
  induction number using Nat.strongRecOn with
  | ind number ih =>
    rcases Nat.lt_or_ge number base with hlt | hge
    · rw [Nat.toDigits_of_lt_base hlt]
      have hwrites : Writes base ([] ++ [Nat.digitChar number]) (base * 0 + number) :=
        writes_append_singleton ⟨[], .nil, rfl⟩ (digitOf_digitChar hsmall hlt)
      simpa only [List.nil_append, Nat.mul_zero, Nat.zero_add] using hwrites
    · have hpos : 0 < base := Nat.zero_lt_of_lt hbase
      have hless : number / base < number := Nat.div_lt_self (Nat.lt_of_lt_of_le hpos hge) hbase
      have hlast := digitOf_digitChar hsmall (Nat.mod_lt number hpos)
      have hwrites := writes_append_singleton (ih (number / base) hless) hlast
      rwa [Nat.div_add_mod, ← Nat.toDigits_of_base_le hbase hge] at hwrites

end Numerals

end AssetOverlay
