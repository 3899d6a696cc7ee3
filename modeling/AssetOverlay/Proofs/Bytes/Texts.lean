import AssetOverlay.Bytes
import Mathlib.Data.List.Basic

/-!
# Texts in byte strings

In UTF-8 an ASCII character is one byte below 128, and all bytes of any other character are 128 or
more.  So a text may be cut at every ASCII byte: what is in front of it and what is behind it are
texts again, and texts on both sides of it make up a text.
-/

namespace AssetOverlay.Bytes

theorem ofText_injective : Function.Injective ofText := by
  intro first second h
  have hencode : first.toList.utf8Encode = second.toList.utf8Encode :=
    congrArg List.toByteArray h
  rw [String.utf8Encode_toList, String.utf8Encode_toList] at hencode
  exact String.toByteArray_inj.mp hencode

/-- The byte string is the UTF-8 form of a text. -/
def IsText (bytes : Bytes) : Prop :=
  ∃ text, ofText text = bytes

theorem toText?_eq_some_iff {bytes : Bytes} {text : String} :
    toText? bytes = some text ↔ ofText text = bytes := by
  have hbytes (text : String) : (ofText text).toByteArray = text.toByteArray :=
    String.utf8Encode_toList
  have harray (bytes : Bytes) : (⟨bytes.toArray⟩ : ByteArray) = bytes.toByteArray :=
    ByteArray.ext List.data_toByteArray.symm
  rw [toText?, harray]
  constructor
  · intro h
    obtain ⟨hvalid, htext⟩ := Option.dite_none_right_eq_some.mp h
    rw [← List.toByteArray_inj, hbytes, ← Option.some.inj htext]
    rfl
  · rintro rfl
    rw [hbytes]
    exact dif_pos text.isValidUTF8

theorem isText_iff {bytes : Bytes} : IsText bytes ↔ ∃ text, toText? bytes = some text := by
  simp only [toText?_eq_some_iff, IsText]

theorem toText?_eq_none_iff {bytes : Bytes} : toText? bytes = none ↔ ¬ IsText bytes := by
  rw [isText_iff, ← Option.isSome_iff_exists, Option.not_isSome_iff_eq_none]

theorem mapM_toText?_eq_some_iff {parts : List Bytes} {texts : List String} :
    parts.mapM toText? = some texts ↔ parts = texts.map ofText := by
  induction parts generalizing texts with
  | nil => cases texts <;> simp
  | cons part parts ih =>
    rw [List.mapM_cons]
    simp only [bind, pure, Option.bind_eq_some_iff, toText?_eq_some_iff, ih, Option.some.injEq]
    constructor
    · rintro ⟨text, rfl, rest, rfl, rfl⟩
      rfl
    · intro h
      obtain ⟨text, rest, rfl, rfl, rfl⟩ := List.map_eq_cons_iff.mp h.symm
      exact ⟨text, rfl, rest, rfl, rfl⟩

theorem isText_iff_exists_characters {bytes : Bytes} :
    IsText bytes ↔ ∃ characters : List Char, characters.flatMap String.utf8EncodeChar = bytes := by
  constructor
  · rintro ⟨text, rfl⟩
    exact ⟨text.toList, rfl⟩
  · rintro ⟨characters, rfl⟩
    exact ⟨String.ofList characters, by rw [ofText, String.toList_ofList]⟩

theorem isText_nil : IsText [] :=
  ⟨"", rfl⟩

theorem IsText.append {front rest : Bytes} (hfront : IsText front) (hrest : IsText rest) :
    IsText (front ++ rest) := by
  obtain ⟨first, rfl⟩ := hfront
  obtain ⟨second, rfl⟩ := hrest
  exact ⟨first ++ second, by rw [ofText, String.toList_append, List.flatMap_append]; rfl⟩

theorem isText_iff_isValidUTF8 {bytes : Bytes} :
    IsText bytes ↔ bytes.toByteArray.IsValidUTF8 := by
  rw [isText_iff_exists_characters]
  constructor
  · rintro ⟨characters, rfl⟩
    exact ⟨characters, rfl⟩
  · rintro ⟨characters, hcharacters⟩
    exact ⟨characters, (List.toByteArray_inj.mp hcharacters).symm⟩

/-- A character in front of a text makes no difference. -/
theorem isText_utf8EncodeChar_append_iff (character : Char) {rest : Bytes} :
    IsText (String.utf8EncodeChar character ++ rest) ↔ IsText rest := by
  have happend : (String.utf8EncodeChar character ++ rest).toByteArray =
      [character].utf8Encode ++ rest.toByteArray := by
    rw [List.toByteArray_append, List.utf8Encode_singleton]
  rw [isText_iff_isValidUTF8, isText_iff_isValidUTF8, happend]
  exact ByteArray.isValidUTF8_utf8Encode_singleton_append_iff

/-- A character of ASCII is the byte of its code, and no byte of any other character is ASCII. -/
theorem utf8EncodeChar_ascii_or_not (character : Char) :
    (character.toNat < 128 ∧ String.utf8EncodeChar character = [UInt8.ofNat character.toNat]) ∨
      ∀ byte ∈ String.utf8EncodeChar character, 128 ≤ byte := by
  have hhigh (lead value size : Nat) (hlead : 128 ≤ lead) (hsize : lead + size ≤ 256)
      (hpos : 0 < size) : (128 : UInt8) ≤ UInt8.ofNat (value % size + lead) := by
    have hmod : value % size < size := Nat.mod_lt value hpos
    rw [UInt8.le_iff_toNat_le, UInt8.toNat_ofNat_of_lt' (by show _ < 256; omega)]
    exact Nat.le_trans hlead (Nat.le_add_left lead _)
  fun_cases String.utf8EncodeChar character with
  | case1 value hvalue => exact .inl ⟨Nat.lt_succ_of_le hvalue, rfl⟩
  | case2 | case3 | case4 =>
    refine .inr ?_
    simp (disch := omega) only [List.forall_mem_cons, hhigh, List.not_mem_nil, true_and,
      IsEmpty.forall_iff, implies_true]

theorem utf8EncodeChar_of_ascii {byte : UInt8} (h : byte < 128) :
    String.utf8EncodeChar (Char.ofNat byte.toNat) = [byte] := by
  have hall : ∀ code < 128,
      String.utf8EncodeChar (Char.ofNat code) = [UInt8.ofNat code] := by
    decide +kernel
  rw [hall byte.toNat (UInt8.lt_iff_toNat_lt.mp h), UInt8.ofNat_toNat]

theorem isText_cut {front rest : Bytes} {byte : UInt8} (hbyte : byte < 128)
    (h : IsText (front ++ byte :: rest)) : IsText front ∧ IsText rest := by
  simp only [isText_iff_exists_characters] at h ⊢
  obtain ⟨characters, hcharacters⟩ := h
  induction characters generalizing front with
  | nil => simp at hcharacters
  | cons character characters ih =>
    rw [List.flatMap_cons] at hcharacters
    rcases utf8EncodeChar_ascii_or_not character with ⟨-, hfirst⟩ | hhigh
    · rw [hfirst] at hcharacters
      cases front with
      | nil => exact ⟨⟨[], rfl⟩, characters, (List.cons.inj hcharacters).2⟩
      | cons head front =>
        obtain ⟨hhead, htail⟩ := List.cons.inj hcharacters
        obtain ⟨⟨before, hbefore⟩, hrest⟩ := ih htail
        refine ⟨⟨character :: before, ?_⟩, hrest⟩
        rw [List.flatMap_cons, hfirst, hbefore, hhead]
        rfl
    · rcases List.append_eq_append_iff.mp hcharacters with ⟨between, hfront, htail⟩ |
        ⟨between, hencoded, htail⟩
      · obtain ⟨⟨before, hbefore⟩, hrest⟩ := ih htail
        refine ⟨⟨character :: before, ?_⟩, hrest⟩
        rw [List.flatMap_cons, hbefore, hfront]
      · cases between with
        | nil =>
          obtain ⟨⟨before, hbefore⟩, hrest⟩ := @ih [] htail.symm
          exact ⟨⟨[character], by simpa using hencoded⟩, hrest⟩
        | cons head between =>
          obtain ⟨rfl, -⟩ := List.cons.inj htail
          have hle : 128 ≤ byte := hhigh byte (by simp [hencoded])
          exact absurd hbyte (UInt8.not_lt.mpr hle)

theorem isText_append_cons_iff {front rest : Bytes} {byte : UInt8} (h : byte < 128) :
    IsText (front ++ byte :: rest) ↔ IsText front ∧ IsText rest := by
  constructor
  · exact isText_cut h
  · rintro ⟨hfront, hrest⟩
    refine hfront.append ?_
    have hbyte : IsText [byte] := by
      refine isText_iff_exists_characters.mpr ⟨[Char.ofNat byte.toNat], ?_⟩
      rw [List.flatMap_singleton, utf8EncodeChar_of_ascii h]
    exact hbyte.append hrest

/-- A text may be cut in front of an ASCII byte. -/
theorem isText_append_iff_of_head {front rest : Bytes} (h : ∀ byte ∈ rest.head?, byte < 128) :
    IsText (front ++ rest) ↔ IsText front ∧ IsText rest := by
  cases rest with
  | nil => simp [isText_nil]
  | cons byte rest =>
    have hcons : IsText ([] ++ byte :: rest) ↔ IsText [] ∧ IsText rest :=
      isText_append_cons_iff (h byte rfl)
    rw [isText_append_cons_iff (h byte rfl)]
    simpa [isText_nil] using fun _ ↦ hcons.symm

/-- ASCII bytes in front of a text make no difference. -/
theorem isText_append_iff_of_front {front rest : Bytes} (h : ∀ byte ∈ front, byte < 128) :
    IsText (front ++ rest) ↔ IsText rest := by
  induction front with
  | nil => rfl
  | cons byte front ih =>
    obtain ⟨hbyte, hfront⟩ := List.forall_mem_cons.mp h
    have hcons : IsText ([] ++ byte :: (front ++ rest)) ↔ IsText [] ∧ IsText (front ++ rest) :=
      isText_append_cons_iff hbyte
    rw [List.cons_append, ← ih hfront]
    simpa [isText_nil] using hcons

end AssetOverlay.Bytes
