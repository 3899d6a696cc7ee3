import AssetOverlay.Proofs.Key.Spelling
import Mathlib.Algebra.Ring.Nat

/-!
# Literal keys

A name that is one of three words, an underscore and one to sixteen hexadecimal digits writes its
key itself, and the key is the number that the digits write, less its highest bit.  Every other name
is hashed: one with more digits or without any, and one with anything in front of the word or behind
the digits.

Case does not count in the words.  The long s is taken for a form of the letter s there, and this is
the only character outside of ASCII with which a name can still be a literal key.
-/

namespace AssetOverlay

/-- A character stands for a small letter of ASCII, in either case. -/
def CaseOf (character letter : Char) : Prop :=
  character.toLower = letter
deriving Decidable

/-- A character stands for a small letter, in either case or as a long s. -/
def CaseOrLongS (character letter : Char) : Prop :=
  CaseOf character letter ∨ character = 'ſ' ∧ letter = 's'
deriving Decidable

/-- A text writes a number as a key: a word in letters of some form, an underscore, and up to the
end one to sixteen digits of the number. -/
def KeyWritten (Form : Char → Char → Prop) (text : String) (number : Nat) : Prop :=
  ∃ word ∈ ["hash", "script", "file"], ∃ letters digits : List Char,
    text.toList = letters ++ '_' :: digits ∧ List.Forall₂ Form letters word.toList ∧
      1 ≤ digits.length ∧ digits.length ≤ 16 ∧ Writes 16 digits number

theorem KeyWritten.imp {Form Form' : Char → Char → Prop} {text : String} {number : Nat}
    (hform : ∀ character letter, Form character letter → Form' character letter)
    (h : KeyWritten Form text number) : KeyWritten Form' text number := by
  obtain ⟨word, hword, letters, digits, htext, hletters, hdigits⟩ := h
  exact ⟨word, hword, letters, digits, htext, hletters.imp hform, hdigits⟩

/-- Without the long s nothing outside of ASCII is written. -/
theorem KeyWritten.ascii {text : String} {number : Nat} (h : KeyWritten CaseOf text number) :
    ∀ character ∈ text.toList, character.toNat < 128 := by
  have hwords : ∀ word ∈ ["hash", "script", "file"],
      (word.toList.all fun letter ↦ letter.toNat < 128) = true := by decide
  obtain ⟨word, hword, letters, digits, htext, hletters, -, -, values, hvalues, -⟩ := h
  have hlower : letters.map Char.toLower = word.toList := by
    rwa [← List.forall₂_eq_eq_eq, List.forall₂_map_left_iff]
  have hdigits : ∀ digit ∈ digits, digit.toNat < 128 :=
    ((List.forall₂_and_left digits values).mp
      (hvalues.imp fun digit value hdigit ↦ ⟨hdigit.ascii, hdigit⟩)).1
  intro character hmem
  rw [htext, List.mem_append, List.mem_cons] at hmem
  rcases hmem with hletter | rfl | hdigit
  · refine Nat.lt_of_not_le fun hcode ↦ ?_
    have hsmall : character.toLower ∈ word.toList := hlower ▸ List.mem_map_of_mem hletter
    rw [toLower_eq_self hcode] at hsmall
    have hletter := of_decide_eq_true (List.all_eq_true.mp (hwords word hword) character hsmall)
    exact absurd hletter (Nat.not_lt.mpr hcode)
  · decide
  · exact hdigits character hdigit

/-- Only the long s is taken for a letter that it is no case of. -/
theorem KeyWritten.caseOf {text : String} {number : Nat} (hlong : 'ſ' ∉ text.toList)
    (h : KeyWritten CaseOrLongS text number) : KeyWritten CaseOf text number := by
  obtain ⟨word, hword, letters, digits, htext, hletters, hdigits⟩ := h
  have hne : ∀ character ∈ letters, character ≠ 'ſ' := by
    rintro character hmem rfl
    exact hlong (htext ▸ List.mem_append_left _ hmem)
  refine ⟨word, hword, letters, digits, htext, ?_, hdigits⟩
  refine ((List.forall₂_and_left letters word.toList).mpr ⟨hne, hletters⟩).imp ?_
  rintro character letter ⟨hshort, hcase | ⟨rfl, -⟩⟩
  · exact hcase
  · exact absurd rfl hshort

namespace Key

/-- Folding case finds the letter that a character stands for. -/
theorem caseOrLongS_iff {character letter : Char} (hletter : letter ≠ 'ſ') :
    CaseOrLongS character letter ↔ foldCase character = letter := by
  unfold CaseOrLongS CaseOf foldCase
  by_cases hlong : character = 'ſ'
  · have hlower : 'ſ'.toLower = 'ſ' := by decide
    subst hlong
    rw [if_pos rfl, hlower]
    constructor
    · rintro (rfl | ⟨-, rfl⟩)
      · exact absurd rfl hletter
      · rfl
    · exact fun h ↦ .inr ⟨rfl, h.symm⟩
  · rw [if_neg hlong]
    exact or_iff_left fun h ↦ hlong h.1

theorem forall₂_caseOrLongS_iff {letters word : List Char} (hword : 'ſ' ∉ word) :
    List.Forall₂ CaseOrLongS letters word ↔ letters.map foldCase = word := by
  induction letters generalizing word with
  | nil => rw [List.forall₂_nil_left_iff, List.map_nil, eq_comm]
  | cons character rest ih =>
    cases word with
    | nil => simp
    | cons letter word =>
      rw [List.mem_cons, not_or] at hword
      rw [List.forall₂_cons, caseOrLongS_iff (Ne.symm hword.1), ih hword.2, List.map_cons,
        List.cons.injEq]

theorem digitsAfter?_eq_some_iff {word text digits : List Char} :
    digitsAfter? word text = some digits ↔ ∃ letters, text = letters ++ '_' :: digits ∧
      letters.map foldCase = word ∧ 1 ≤ digits.length ∧ digits.length ≤ 16 := by
  unfold digitsAfter?
  constructor
  · intro h
    split at h
    · next hletters =>
      split at h
      · next behind hdrop =>
        split at h
        · next hlength =>
          cases h
          refine ⟨text.take word.length, ?_, hletters, hlength⟩
          rw [← hdrop, List.take_append_drop]
        · cases h
      · cases h
    · cases h
  · rintro ⟨letters, rfl, rfl, hlength⟩
    rw [List.length_map, List.take_left, List.drop_left, if_pos rfl]
    exact if_pos hlength

/-- The first letter tells the words apart. -/
theorem word_unique {word word' text digits digits' : List Char} (hword : word ∈ literalWords)
    (hword' : word' ∈ literalWords) (h : digitsAfter? word text = some digits)
    (h' : digitsAfter? word' text = some digits') : word = word' := by
  have hfirst : ∀ first ∈ literalWords, ∀ second ∈ literalWords,
      first.head? = second.head? → first = second := by decide
  have hletter : ∀ found ∈ literalWords, ∀ rest, digitsAfter? found text = some rest →
      (text.map foldCase).head? = found.head? := by
    rintro found hfound rest hrest
    have hne : ∀ known ∈ literalWords, known ≠ [] := by decide
    obtain ⟨letters, rfl, rfl, -⟩ := digitsAfter?_eq_some_iff.mp hrest
    rw [List.map_append, List.head?_append_of_ne_nil _ (hne _ hfound)]
  apply hfirst word hword word' hword'
  rw [← hletter word hword digits h, hletter word' hword' digits' h']

/-- The value that is read after a word. -/
theorem valueAfter_eq_some_iff {word text : List Char} {value : UInt64} :
    (match digitsAfter? word text with
      | some digits => (Hex.value? digits).map UInt64.ofNat
      | none => none) = some value ↔
      ∃ digits number, digitsAfter? word text = some digits ∧ Writes 16 digits number ∧
        UInt64.ofNat number = value := by
  cases digitsAfter? word text with
  | none => simp
  | some digits =>
    simp only [Hex.value?, Option.map_eq_some_iff, valueFrom?_eq_some_iff,
      ← writes_iff_writesFrom, Option.some_inj]
    constructor
    · rintro ⟨number, hwrites, hvalue⟩
      exact ⟨digits, number, rfl, hwrites, hvalue⟩
    · rintro ⟨_, number, rfl, hwrites, hvalue⟩
      exact ⟨number, hwrites, hvalue⟩

/-- A literal key is read exactly where one is written. -/
theorem literal?_eq_some_iff {text : String} {value : UInt64} :
    literal? text = some value ↔
      ∃ number, KeyWritten CaseOrLongS text number ∧ UInt64.ofNat number = value := by
  have hwords : literalWords = ["hash", "script", "file"].map String.toList := rfl
  have hlong : ∀ word ∈ literalWords, 'ſ' ∉ word := by decide
  constructor
  · intro h
    obtain ⟨word, hword, hread⟩ := List.exists_of_findSome?_eq_some h
    obtain ⟨digits, number, hdigits, hwrites, hvalue⟩ := valueAfter_eq_some_iff.mp hread
    obtain ⟨letters, htext, hletters, hlength⟩ := digitsAfter?_eq_some_iff.mp hdigits
    rw [← forall₂_caseOrLongS_iff (hlong word hword)] at hletters
    rw [hwords, List.mem_map] at hword
    obtain ⟨name, hname, rfl⟩ := hword
    exact ⟨number, ⟨name, hname, letters, digits, htext, hletters, hlength.1, hlength.2, hwrites⟩,
      hvalue⟩
  · rintro ⟨number, hwritten, hvalue⟩
    obtain ⟨name, hname, letters, digits, htext, hletters, hone, hsixteen, hwrites⟩ := hwritten
    have hword : name.toList ∈ literalWords := List.mem_map_of_mem hname
    rw [forall₂_caseOrLongS_iff (hlong _ hword)] at hletters
    have hdigits : digitsAfter? name.toList text.toList = some digits :=
      digitsAfter?_eq_some_iff.mpr ⟨letters, htext, hletters, hone, hsixteen⟩
    have hread := valueAfter_eq_some_iff.mpr ⟨digits, number, hdigits, hwrites, hvalue⟩
    -- The words are tried in turn, so the one that is found must be this one.
    cases hfound : literal? text with
    | none =>
      have hnone := List.findSome?_eq_none_iff.mp hfound name.toList hword
      exact absurd (hnone.symm.trans hread) nofun
    | some other =>
      obtain ⟨word, hother, hreadOther⟩ := List.exists_of_findSome?_eq_some hfound
      obtain ⟨digits', -, hdigits', -⟩ := valueAfter_eq_some_iff.mp hreadOther
      obtain rfl := word_unique hother hword hdigits' hdigits
      exact hreadOther.symm.trans hread

/-- The highest bit of a word does not count. -/
theorem toNat_ofWord (word : UInt64) : (ofWord word).value.toNat = word.toNat % 2 ^ 63 := by
  have hmask : mask.toNat = 2 ^ 63 - 1 := rfl
  rw [ofWord, UInt64.toNat_and, hmask, Nat.and_two_pow_sub_one_eq_mod]

theorem toNat_ofWord_ofNat (number : Nat) :
    (ofWord (UInt64.ofNat number)).value.toNat = number % 2 ^ 63 := by
  rw [toNat_ofWord, UInt64.toNat_ofNat']
  exact Nat.mod_mod_of_dvd _ (by decide)

theorem ofName_of_keyWritten {text : String} {number : Nat}
    (h : KeyWritten CaseOrLongS text number) : (ofName text).value.toNat = number % 2 ^ 63 := by
  rw [ofName, literal?_eq_some_iff.mpr ⟨number, h, rfl⟩]
  exact toNat_ofWord_ofNat number

theorem ofName_of_not_keyWritten {text : String}
    (h : ∀ number, ¬ KeyWritten CaseOrLongS text number) : ofName text = hash text := by
  cases hread : literal? text with
  | none => rw [ofName, hread]
  | some value =>
    obtain ⟨number, hwritten, -⟩ := literal?_eq_some_iff.mp hread
    exact absurd hwritten (h number)

end Key

/-- A text in which a number is written as a key, in letters of ASCII, has this number without its
highest bit as its key, and a text without a long s in which none is written is hashed.  If a long s
counts as a letter s of the words, both are true of all texts. -/
theorem literal_keys_exactly (text : String) :
    (∀ number, KeyWritten CaseOf text number →
        (Key.ofName text).value.toNat = number % 2 ^ 63) ∧
      ('ſ' ∉ text.toList → (∀ number, ¬ KeyWritten CaseOf text number) →
        Key.ofName text = Key.hash text) ∧
      (∀ number, KeyWritten CaseOrLongS text number →
        (Key.ofName text).value.toNat = number % 2 ^ 63) ∧
      ((∀ number, ¬ KeyWritten CaseOrLongS text number) → Key.ofName text = Key.hash text) := by
  refine ⟨?_, ?_, ?_, Key.ofName_of_not_keyWritten⟩
  · intro number hwritten
    exact Key.ofName_of_keyWritten (hwritten.imp fun _ _ ↦ Or.inl)
  · intro hlong hnone
    refine Key.ofName_of_not_keyWritten fun number hwritten ↦ ?_
    exact hnone number (hwritten.caseOf hlong)
  · exact fun number ↦ Key.ofName_of_keyWritten

/-- A text with a character outside of ASCII that isn't hashed. -/
theorem long_s_taken_for_letter :
    (∀ number, ¬ KeyWritten CaseOf "haſh_10" number) ∧
      Key.ofName "haſh_10" = ⟨0x10⟩ ∧ Key.ofName "haſh_10" ≠ Key.hash "haſh_10" := by
  refine ⟨fun number hwritten ↦ ?_, by decide +kernel⟩
  have hlong : 'ſ' ∈ "haſh_10".toList := by decide
  exact absurd (hwritten.ascii 'ſ' hlong) (by decide)

end AssetOverlay
