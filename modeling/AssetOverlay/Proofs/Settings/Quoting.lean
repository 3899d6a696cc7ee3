import AssetOverlay.Proofs.Bytes.Texts
import AssetOverlay.Settings.Reader
import AssetOverlay.Settings.Text

/-!
# Texts in settings

A text is written between quotes, with an escape for every character that can't stand there as it
is.  The reader goes over the bytes one by one, and which byte means what depends on the bytes
before: so escapes are followed byte by byte here, from between two characters to between two
characters.  Whatever the text, reading gives it back and stops right behind the closing quote.
-/

namespace AssetOverlay

/-- The UTF-8 form of several characters. -/
def encodeChars (characters : List Char) : Bytes :=
  characters.flatMap String.utf8EncodeChar

@[simp]
theorem encodeChars_append (first second : List Char) :
    encodeChars (first ++ second) = encodeChars first ++ encodeChars second :=
  List.flatMap_append

theorem encodeChars_cons (character : Char) (rest : List Char) :
    encodeChars (character :: rest) = String.utf8EncodeChar character ++ encodeChars rest := rfl

theorem ofText_eq_encodeChars (text : String) : Bytes.ofText text = encodeChars text.toList := rfl

namespace Json

/-- The place after some more bytes. -/
def Place.afterAll (place : Place) (bytes : Bytes) : Place :=
  bytes.foldl Place.after place

/-! ## Scanning several bytes -/

/-- What several bytes mean in a text that goes on behind them: the bytes of the text, and where the
scanner is then. -/
def stepTextAll (part : TextPart) : Bytes → Option (Bytes × TextPart)
  | [] => some ([], part)
  | byte :: rest =>
    match stepText false part byte with
    | .ok (some (meant, next)) =>
      (stepTextAll next rest).map fun (later, last) ↦ (meant ++ later, last)
    | _ => none

theorem stepTextAll_append {part middle last : TextPart} {first second meant later : Bytes}
    (hfirst : stepTextAll part first = some (meant, middle))
    (hsecond : stepTextAll middle second = some (later, last)) :
    stepTextAll part (first ++ second) = some (meant ++ later, last) := by
  induction first generalizing part meant with
  | nil =>
    cases hfirst
    exact hsecond
  | cons byte rest ih =>
    rw [List.cons_append, stepTextAll]
    rw [stepTextAll] at hfirst
    split at hfirst
    · next now next hstep =>
      obtain ⟨⟨behind, _⟩, hrest, heq⟩ := Option.map_eq_some_iff.mp hfirst
      cases heq
      rw [ih hrest]
      simp
    · cases hfirst

theorem scanText_append {part last : TextPart} {bytes meant : Bytes}
    (h : stepTextAll part bytes = some (meant, last)) (read : Bytes) (place : Place)
    (rest : Bytes) :
    scanText false part read place (bytes ++ rest) =
      scanText false last (meant.reverse ++ read) (place.afterAll bytes) rest := by
  induction bytes generalizing part meant read place with
  | nil =>
    cases h
    rfl
  | cons byte bytes ih =>
    rw [stepTextAll] at h
    split at h
    · next now next hstep =>
      obtain ⟨⟨behind, _⟩, hbytes, heq⟩ := Option.map_eq_some_iff.mp h
      cases heq
      rw [List.cons_append, scanText, hstep]
      dsimp only
      rw [ih hbytes, List.reverse_append, List.append_assoc]
      rfl
    · cases h

/-! ## Escapes -/

/-- Bytes other than quotes, backslashes and controls mean themselves. -/
theorem stepTextAll_plain {bytes : Bytes}
    (h : ∀ byte ∈ bytes, byte ≠ 34 ∧ byte ≠ 92 ∧ 32 ≤ byte) :
    stepTextAll .plain bytes = some (bytes, .plain) := by
  induction bytes with
  | nil => rfl
  | cons byte rest ih =>
    obtain ⟨⟨hquote, hbackslash, hcontrol⟩, hrest⟩ := List.forall_mem_cons.mp h
    have hstep : stepText false .plain byte = .ok (some ([byte], .plain)) := by
      rw [stepText, if_neg hquote, if_neg hbackslash, if_neg (UInt8.not_lt.mpr hcontrol)]
    rw [stepTextAll, hstep]
    dsimp only
    rw [ih hrest]
    rfl

/-- An escape by four digits means the character with this number, unless it is half of a pair. -/
theorem stepTextAll_digits {first second third fourth : UInt8} {unit : Nat}
    (hunit : codeUnit? [fourth, third, second, first] = some unit) (hsmall : unit < 0xd800) :
    stepTextAll .plain [92, 117, first, second, third, fourth] =
      some (encodePoint unit, .plain) := by
  have hlow : isLowSurrogate unit = false := by
    simp only [isLowSurrogate, Bool.and_eq_false_iff, decide_eq_false_iff_not]
    omega
  have hhigh : isHighSurrogate unit = false := by
    simp only [isHighSurrogate, Bool.and_eq_false_iff, decide_eq_false_iff_not]
    omega
  have hread : stepTextAll .plain [92, 117, first, second, third] =
      some ([], .digits none [third, second, first]) := rfl
  have hlast : stepTextAll (.digits none [third, second, first]) [fourth] =
      some (encodePoint unit ++ [], .plain) := by
    simp [stepTextAll, stepText, hunit, finishEscape, hlow, hhigh, Except.map]
  rw [List.append_nil] at hlast
  exact stepTextAll_append hread hlast

end Json

namespace Settings

open Json

/-- The characters that stand between quotes as they are. -/
theorem plain_of_mem_utf8EncodeChar {character : Char} (hquote : character ≠ '"')
    (hbackslash : character ≠ '\\') (hcontrol : 32 ≤ character.toNat) {byte : UInt8}
    (hbyte : byte ∈ String.utf8EncodeChar character) : byte ≠ 34 ∧ byte ≠ 92 ∧ 32 ≤ byte := by
  rcases Bytes.utf8EncodeChar_ascii_or_not character with ⟨hascii, hencode⟩ | hhigh
  · rw [hencode, List.mem_singleton] at hbyte
    subst hbyte
    have hcode : (UInt8.ofNat character.toNat).toNat = character.toNat :=
      UInt8.toNat_ofNat_of_lt' (Nat.lt_trans hascii (by decide))
    simp only [← UInt8.toNat_inj, UInt8.le_iff_toNat_le, Ne, hcode]
    exact ⟨fun h ↦ hquote (Char.toNat_inj.mp h), fun h ↦ hbackslash (Char.toNat_inj.mp h), hcontrol⟩
  · have hbyte := UInt8.le_iff_toNat_le.mp (hhigh byte hbyte)
    simp only [← UInt8.toNat_inj, UInt8.le_iff_toNat_le, Ne]
    change 128 ≤ byte.toNat at hbyte
    change ¬ byte.toNat = 34 ∧ ¬ byte.toNat = 92 ∧ 32 ≤ byte.toNat
    omega

/-- The byte of a hexadecimal digit. -/
def digitByte (value : Nat) : UInt8 :=
  UInt8.ofNat (Nat.digitChar value).toNat

/-- A control character is written by its code. -/
theorem encodeChars_control : ∀ unit < 32,
    encodeChars ['\\', 'u', '0', '0', Nat.digitChar (unit / 16), Nat.digitChar (unit % 16)] =
      [92, 117, 48, 48, digitByte (unit / 16), digitByte (unit % 16)] := by
  decide

theorem codeUnit?_control : ∀ unit < 32,
    codeUnit? [digitByte (unit % 16), digitByte (unit / 16), 48, 48] = some unit := by
  decide

/-- What stands between quotes for a character means this character. -/
theorem stepTextAll_escape (character : Char) :
    stepTextAll .plain (encodeChars (escape character)) =
      some (String.utf8EncodeChar character, .plain) := by
  fun_cases escape character with
  | case1 | case2 | case3 | case4 | case5 | case6 | case7 => rfl
  | case8 _ _ _ _ _ _ _ _ hcontrol =>
    have hsmall : character.toNat < 0xd800 := Nat.lt_trans hcontrol (by decide)
    rw [encodeChars_control _ hcontrol, stepTextAll_digits (codeUnit?_control _ hcontrol) hsmall,
      encodePoint, Char.ofNat_toNat]
  | case9 _ hquote hbackslash _ _ _ _ _ hcontrol =>
    rw [encodeChars, List.flatMap_singleton]
    apply stepTextAll_plain
    exact fun byte ↦ plain_of_mem_utf8EncodeChar hquote hbackslash (Nat.not_lt.mp hcontrol)

/-- What stands between quotes for a text means this text. -/
theorem stepTextAll_escapes (characters : List Char) :
    stepTextAll .plain (encodeChars (characters.flatMap escape)) =
      some (encodeChars characters, .plain) := by
  induction characters with
  | nil => rfl
  | cons character rest ih =>
    rw [List.flatMap_cons, encodeChars_append]
    exact stepTextAll_append (stepTextAll_escape character) ih

theorem encodeChars_quote (text : String) :
    encodeChars (quote text) = 34 :: (encodeChars (text.toList.flatMap escape) ++ [34]) := by
  rw [quote, List.cons_append, encodeChars_cons, encodeChars_append]
  rfl

theorem encodeChars_quote_append (text : String) (rest : Bytes) :
    encodeChars (quote text) ++ rest =
      34 :: (encodeChars (text.toList.flatMap escape) ++ 34 :: rest) := by
  simp [encodeChars_quote]

/-- A text that was written is read again, up to its closing quote. -/
theorem readText_quote (text : String) (place : Place) (rest : Bytes) :
    readText (Cursor.next ⟨place, encodeChars (quote text) ++ rest⟩) =
      .ok (text, ⟨place.afterAll (encodeChars (quote text)), rest⟩) := by
  let escapes := encodeChars (text.toList.flatMap escape)
  have hscan : scanText false .plain [] (place.after 34) (escapes ++ 34 :: rest) =
      .ok ((encodeChars text.toList).reverse ++ [],
        ⟨(place.after 34).afterAll escapes, 34 :: rest⟩) := by
    rw [scanText_append (stepTextAll_escapes text.toList)]
    rfl
  have htext : Bytes.toText? (encodeChars text.toList) = some text :=
    Bytes.toText?_eq_some_iff.mpr rfl
  have hplace : ((place.after 34).afterAll escapes).after 34 =
      place.afterAll (encodeChars (quote text)) := by
    simp [encodeChars_quote, Place.afterAll, escapes]
  rw [encodeChars_quote_append, Cursor.next, readText]
  dsimp only
  rw [hscan, List.append_nil]
  dsimp only
  rw [List.reverse_reverse, htext, ← hplace]
  rfl

end Settings

end AssetOverlay
