import AssetOverlay.Key
import AssetOverlay.Proofs.Number.Numerals
import Mathlib.Algebra.Ring.Nat

/-!
# Spellings of a name

A name may be spelt with letters of either case and with slashes of either kind.  Hashing doesn't
tell spellings apart, because it looks at the bytes without regard to both.  Whether a name is a
literal key and which one doesn't depend on the spelling either: no word that announces one has a
slash, no slash is a digit, and digits of either case have the same value.

Both are proved by bringing a name into a normal form, in which all letters are small and all slashes
lean forward.
-/

namespace AssetOverlay

/-! ## Characters -/

/-- A slash of either kind. -/
def IsSlash (character : Char) : Prop :=
  character = '/' ∨ character = '\\'
deriving Decidable

/-- Two characters that differ at most in the case of an ASCII letter or in the kind of slash. -/
def Interchangeable (first second : Char) : Prop :=
  first.toLower = second.toLower ∨ IsSlash first ∧ IsSlash second
deriving Decidable

/-- Two spellings of the same name. -/
def Respelling (first second : String) : Prop :=
  List.Forall₂ Interchangeable first.toList second.toList
deriving Decidable

/-- A character without regard to case and kind of slash. -/
def normalChar (character : Char) : Char :=
  if character.toLower = '\\' then '/' else character.toLower

theorem IsSlash.normalChar_eq {character : Char} (h : IsSlash character) :
    normalChar character = '/' := by
  rcases h with rfl | rfl
  · decide
  · decide

theorem Interchangeable.normalChar_eq {first second : Char} (h : Interchangeable first second) :
    normalChar first = normalChar second := by
  rcases h with hcase | ⟨hfirst, hsecond⟩
  · rw [normalChar, normalChar, hcase]
  · rw [hfirst.normalChar_eq, hsecond.normalChar_eq]

theorem Respelling.map_normalChar_eq {first second : String} (h : Respelling first second) :
    first.toList.map normalChar = second.toList.map normalChar := by
  rw [← List.forall₂_eq_eq_eq, List.forall₂_map_left_iff, List.forall₂_map_right_iff]
  exact h.imp fun _ _ ↦ Interchangeable.normalChar_eq

/-- Characters outside of ASCII have neither case nor slashes. -/
theorem normalChar_eq_self {character : Char} (h : 128 ≤ character.toNat) :
    normalChar character = character := by
  rw [normalChar, toLower_eq_self h, if_neg]
  rintro rfl
  exact absurd h (by decide)

/-- What is true of every ASCII character and of every character that is its own normal form is true
of every character. -/
@[elab_as_elim]
theorem forall_of_ascii {Holds : Char → Prop}
    (hascii : ∀ code < 128, Holds (Char.ofNat code))
    (hnormal : ∀ character, normalChar character = character → Holds character)
    (character : Char) : Holds character := by
  rcases Nat.lt_or_ge character.toNat 128 with hlt | hge
  · rw [← Char.ofNat_toNat character]
    exact hascii character.toNat hlt
  · exact hnormal character (normalChar_eq_self hge)

namespace Key

/-! ## Hashing -/

theorem map_normalByte_utf8EncodeChar (character : Char) :
    (String.utf8EncodeChar (normalChar character)).map normalByte =
      (String.utf8EncodeChar character).map normalByte := by
  refine forall_of_ascii ?_ ?_ character
  · decide +kernel
  · intro character h
    rw [h]

theorem map_normalByte_ofText (text : String) :
    (Bytes.ofText text).map normalByte =
      (text.toList.map normalChar).flatMap fun character ↦
        (String.utf8EncodeChar character).map normalByte := by
  rw [Bytes.ofText, List.map_flatMap, List.flatMap_map]
  simp only [map_normalByte_utf8EncodeChar]

theorem hash_eq_foldl (name : String) :
    hash name = ofWord (((Bytes.ofText name).map normalByte).foldl
      (fun state byte ↦ (state ^^^ signExtend byte) * multiplier) basis) := by
  rw [List.foldl_map]
  rfl

/-- Hashing doesn't tell spellings apart. -/
theorem hash_respelling {first second : String} (h : Respelling first second) :
    hash second = hash first := by
  rw [hash_eq_foldl, hash_eq_foldl, map_normalByte_ofText, map_normalByte_ofText,
    h.map_normalChar_eq]

/-! ## Literal keys -/

theorem digitValue?_normalChar (character : Char) :
    Hex.digitValue? (normalChar character) = Hex.digitValue? character := by
  refine forall_of_ascii ?_ ?_ character
  · decide +kernel
  · intro character h
    rw [h]

theorem valueFrom?_map_normalChar (value : Nat) (digits : List Char) :
    Hex.valueFrom? value (digits.map normalChar) = Hex.valueFrom? value digits := by
  induction digits generalizing value with
  | nil => rfl
  | cons digit rest ih =>
    rw [List.map_cons, Hex.valueFrom?, Hex.valueFrom?, digitValue?_normalChar]
    simp only [ih]

theorem normalChar_eq_underscore_iff (character : Char) :
    normalChar character = '_' ↔ character = '_' := by
  refine forall_of_ascii ?_ ?_ character
  · decide +kernel
  · intro character h
    rw [h]

/-- The normal form stands for the same letter, unless the character is a slash. -/
theorem foldCase_normalChar (character : Char) :
    foldCase (normalChar character) = foldCase character ∨
      foldCase (normalChar character) = '/' ∧ foldCase character = '\\' := by
  refine forall_of_ascii ?_ ?_ character
  · decide +kernel
  · intro character h
    exact .inl (congrArg foldCase h)

/-- A text is a word without slashes if and only if its normal form is. -/
theorem map_foldCase_map_normalChar_iff {word : List Char} (hforward : '/' ∉ word)
    (hbackward : '\\' ∉ word) (text : List Char) :
    (text.map normalChar).map foldCase = word ↔ text.map foldCase = word := by
  induction text generalizing word with
  | nil => rfl
  | cons character rest ih =>
    cases word with
    | nil => simp
    | cons letter word =>
      simp only [List.mem_cons, not_or] at hforward hbackward
      have hletter : foldCase (normalChar character) = letter ↔ foldCase character = letter := by
        rcases foldCase_normalChar character with hsame | ⟨hnormal, hslash⟩
        · rw [hsame]
        · rw [hnormal, hslash]
          exact iff_of_false hforward.1 hbackward.1
      rw [List.map_cons, List.map_cons, List.map_cons, List.cons.injEq, List.cons.injEq, hletter,
        ih hforward.2 hbackward.2]

theorem digitsAfter?_map_normalChar {word : List Char} (hforward : '/' ∉ word)
    (hbackward : '\\' ∉ word) (text : List Char) :
    digitsAfter? word (text.map normalChar) = (digitsAfter? word text).map (List.map normalChar) := by
  unfold digitsAfter?
  rw [← List.map_take, ← List.map_drop]
  simp only [map_foldCase_map_normalChar_iff hforward hbackward]
  split
  · cases text.drop word.length with
    | nil => rfl
    | cons character digits =>
      by_cases hunderscore : character = '_'
      · have hnormal : normalChar '_' = '_' := by decide
        subst hunderscore
        simp only [List.map_cons, hnormal, List.length_map]
        split <;> rfl
      · have hnormal := mt (normalChar_eq_underscore_iff character).mp hunderscore
        simp [hunderscore, hnormal]
  · rfl

/-- The number that is written after a word depends on the normal form only. -/
theorem bind_digitsAfter? {word : List Char} (hforward : '/' ∉ word) (hbackward : '\\' ∉ word)
    (text : List Char) :
    (digitsAfter? word text).bind Hex.value? =
      (digitsAfter? word (text.map normalChar)).bind Hex.value? := by
  rw [digitsAfter?_map_normalChar hforward hbackward, Option.bind_map]
  exact congrArg _ (funext fun digits ↦ (valueFrom?_map_normalChar 0 digits).symm)

/-- Whether a name is a literal key, and which one, doesn't depend on its spelling. -/
theorem literal?_respelling {first second : String} (h : Respelling first second) :
    literal? second = literal? first := by
  have hslashes : ∀ word ∈ literalWords, '/' ∉ word ∧ '\\' ∉ word := by decide
  rw [literal?, literal?, ← List.head?_filterMap, ← List.head?_filterMap]
  apply congrArg List.head?
  apply List.filterMap_congr
  intro word hword
  obtain ⟨hforward, hbackward⟩ := hslashes word hword
  calc
    _ = ((digitsAfter? word second.toList).bind Hex.value?).map UInt64.ofNat := by
      cases digitsAfter? word second.toList <;> rfl
    _ = ((digitsAfter? word first.toList).bind Hex.value?).map UInt64.ofNat := by
      rw [bind_digitsAfter? hforward hbackward, ← h.map_normalChar_eq,
        ← bind_digitsAfter? hforward hbackward]
    _ = _ := by
      cases digitsAfter? word first.toList <;> rfl

/-! ## Keys -/

/-- A name has the same key in every spelling. -/
theorem ofName_respelling {first second : String} (h : Respelling first second) :
    ofName second = ofName first := by
  rw [ofName, ofName, literal?_respelling h, hash_respelling h]

theorem toNat_ofWord_lt (word : UInt64) : (ofWord word).value.toNat < 2 ^ 63 := by
  have hmask : (ofWord word).value.toNat ≤ mask.toNat := by
    rw [ofWord, UInt64.toNat_and]
    exact Nat.and_le_right
  exact Nat.lt_of_le_of_lt hmask (by decide)

theorem toNat_hash_lt (name : String) : (hash name).value.toNat < 2 ^ 63 :=
  toNat_ofWord_lt _

theorem toNat_ofName_lt (name : String) : (ofName name).value.toNat < 2 ^ 63 := by
  unfold ofName
  split
  · exact toNat_ofWord_lt _
  · exact toNat_hash_lt name

end Key

end AssetOverlay
