import AssetOverlay.Bytes
import Mathlib.Data.Nat.Bitwise

/-!
# Words and parts of byte strings

A word is little-endian: each byte counts 256 times as much as the one before it.  Writing a word and
reading it are inverse to each other, so a word in front of a byte string can be read if and only if
the byte string is that word, written, and the rest.  A double word is its low word and then its high
one.
-/

namespace AssetOverlay.Bytes

/-! ## Parts -/

/-- A part of the given length can be split off if and only if it is there. -/
theorem splitExactly?_eq_some_iff {count : Nat} {bytes front rest : Bytes} :
    bytes.splitExactly? count = some (front, rest) ↔
      front.length = count ∧ bytes = front ++ rest := by
  unfold splitExactly?
  dsimp only
  constructor
  · intro h
    split at h
    · next hlength =>
      cases h
      exact ⟨hlength, (List.take_append_drop count bytes).symm⟩
    · cases h
  · rintro ⟨rfl, rfl⟩
    simp

theorem splitExactly?_eq_none_iff {count : Nat} {bytes : Bytes} :
    bytes.splitExactly? count = none ↔ bytes.length < count := by
  unfold splitExactly?
  dsimp only
  rw [List.length_take]
  split
  · simp only [reduceCtorEq, false_iff]
    omega
  · simp only [true_iff]
    omega

theorem byteAt_append_left {front : Bytes} {position : Nat} (rest : Bytes)
    (h : position < front.length) : (front ++ rest).byteAt position = front.byteAt position :=
  List.getD_append _ _ _ _ h

theorem byteAt_drop (bytes : Bytes) (count position : Nat) :
    byteAt (bytes.drop count) position = bytes.byteAt (count + position) := by
  simp only [byteAt, List.getD_eq_getElem?_getD, List.getElem?_drop]

theorem word16At_append_left {front : Bytes} {position : Nat} (rest : Bytes)
    (h : position + 2 ≤ front.length) :
    (front ++ rest).word16At position = front.word16At position := by
  unfold word16At
  rw [byteAt_append_left rest (by omega), byteAt_append_left rest (by omega)]

theorem word16At_drop (bytes : Bytes) (count position : Nat) :
    word16At (bytes.drop count) position = bytes.word16At (count + position) := by
  simp only [word16At, byteAt_drop, Nat.add_assoc]

theorem word32At_append_left {front : Bytes} {position : Nat} (rest : Bytes)
    (h : position + 4 ≤ front.length) :
    (front ++ rest).word32At position = front.word32At position := by
  unfold word32At
  rw [byteAt_append_left rest (by omega), byteAt_append_left rest (by omega),
    byteAt_append_left rest (by omega), byteAt_append_left rest (by omega)]

theorem word32At_drop (bytes : Bytes) (count position : Nat) :
    word32At (bytes.drop count) position = bytes.word32At (count + position) := by
  simp only [word32At, byteAt_drop, Nat.add_assoc]

theorem word64At_drop (bytes : Bytes) (count position : Nat) :
    word64At (bytes.drop count) position = bytes.word64At (count + position) := by
  simp only [word64At, word32At_drop, Nat.add_assoc]

/-- A part of a byte string can be left as it is while what follows it is changed to as many other
bytes. -/
theorem take_take_append {bytes behind : Bytes} {count : Nat}
    (h : behind.length = (bytes.drop count).length) :
    (bytes.take count ++ behind).take count = bytes.take count := by
  rcases Nat.le_total count bytes.length with hle | hle
  · exact List.take_left' (List.length_take_of_le hle)
  · rw [List.drop_eq_nil_of_le hle] at h
    rw [List.eq_nil_of_length_eq_zero h, List.append_nil, List.take_take, Nat.min_self]

theorem drop_take_append {bytes behind : Bytes} {count : Nat}
    (h : behind.length = (bytes.drop count).length) :
    (bytes.take count ++ behind).drop count = behind := by
  rcases Nat.le_total count bytes.length with hle | hle
  · exact List.drop_left' (List.length_take_of_le hle)
  · rw [List.drop_eq_nil_of_le hle] at h
    rw [List.eq_nil_of_length_eq_zero h, List.append_nil]
    exact List.drop_eq_nil_of_le (List.length_take_le count bytes)

section Part

variable {bytes other : Bytes} {start size : Nat}
  (h : (bytes.drop start).take size = (other.drop start).take size)

include h

theorem byteAt_of_part (place : Nat) (hplace : place < size) :
    bytes.byteAt (start + place) = other.byteAt (start + place) := by
  have hbyte := congrArg (·[place]?) h
  simp only [List.getElem?_take_of_lt hplace, List.getElem?_drop] at hbyte
  simp only [byteAt, List.getD_eq_getElem?_getD, hbyte]

theorem word16At_of_part (place : Nat) (hplace : place + 2 ≤ size) :
    bytes.word16At (start + place) = other.word16At (start + place) := by
  simp only [word16At, Nat.add_assoc]
  rw [byteAt_of_part h _ (by omega), byteAt_of_part h _ (by omega)]

theorem word32At_of_part (place : Nat) (hplace : place + 4 ≤ size) :
    bytes.word32At (start + place) = other.word32At (start + place) := by
  simp only [word32At, Nat.add_assoc]
  rw [byteAt_of_part h _ (by omega), byteAt_of_part h _ (by omega),
    byteAt_of_part h _ (by omega), byteAt_of_part h _ (by omega)]

theorem word64At_of_part (place : Nat) (hplace : place + 8 ≤ size) :
    bytes.word64At (start + place) = other.word64At (start + place) := by
  simp only [word64At, Nat.add_assoc]
  rw [word32At_of_part h _ (by omega), word32At_of_part h _ (by omega)]

end Part

/-! ## Words -/

/-- A byte put above the bits of a word. -/
theorem toNat_or_shiftLeft {word shift : UInt32} (byte : UInt8)
    (hword : word.toNat < 2 ^ shift.toNat) (hshift : shift.toNat ≤ 24) :
    (word ||| byte.toUInt32 <<< shift).toNat = word.toNat + 2 ^ shift.toNat * byte.toNat := by
  have hplace : shift.toNat % 32 = shift.toNat := Nat.mod_eq_of_lt (by omega)
  have hfits : 2 ^ shift.toNat * byte.toNat < 2 ^ 32 := by
    calc
      2 ^ shift.toNat * byte.toNat ≤ 2 ^ 24 * byte.toNat :=
        Nat.mul_le_mul_right _ (Nat.pow_le_pow_right Nat.two_pos hshift)
      _ < 2 ^ 32 := by
        have hbyte := byte.toNat_lt
        omega
  rw [UInt32.toNat_or, UInt32.toNat_shiftLeft, UInt8.toNat_toUInt32, hplace, Nat.shiftLeft_eq,
    Nat.mul_comm byte.toNat, Nat.mod_eq_of_lt hfits, Nat.or_comm,
    ← Nat.two_pow_add_eq_or_of_lt hword, Nat.add_comm]

theorem toNat_word32At (bytes : Bytes) (position : Nat) :
    (bytes.word32At position).toNat =
      (bytes.byteAt position).toNat + 2 ^ 8 * (bytes.byteAt (position + 1)).toNat +
        2 ^ 16 * (bytes.byteAt (position + 2)).toNat +
          2 ^ 24 * (bytes.byteAt (position + 3)).toNat := by
  let first := (bytes.byteAt position).toUInt32
  let second := first ||| (bytes.byteAt (position + 1)).toUInt32 <<< 8
  let third := second ||| (bytes.byteAt (position + 2)).toUInt32 <<< 16
  have hfirst : first.toNat = (bytes.byteAt position).toNat := UInt8.toNat_toUInt32 _
  have hbyte0 := (bytes.byteAt position).toNat_lt
  have hbyte1 := (bytes.byteAt (position + 1)).toNat_lt
  have hbyte2 := (bytes.byteAt (position + 2)).toNat_lt
  have hsecond : second.toNat = first.toNat + 2 ^ 8 * (bytes.byteAt (position + 1)).toNat :=
    toNat_or_shiftLeft _ (hfirst ▸ hbyte0) (by decide)
  have hthird : third.toNat = second.toNat + 2 ^ 16 * (bytes.byteAt (position + 2)).toNat := by
    refine toNat_or_shiftLeft _ ?_ (by decide)
    change second.toNat < 2 ^ 16
    omega
  calc
    _ = third.toNat + 2 ^ 24 * (bytes.byteAt (position + 3)).toNat := by
      refine toNat_or_shiftLeft _ ?_ (by decide)
      change third.toNat < 2 ^ 24
      omega
    _ = _ := by rw [hthird, hsecond, hfirst]

/-- The word in front of a byte string of four bytes or more. -/
theorem toNat_word32At_cons (byte0 byte1 byte2 byte3 : UInt8) (rest : Bytes) :
    (word32At (byte0 :: byte1 :: byte2 :: byte3 :: rest) 0).toNat =
      byte0.toNat + 2 ^ 8 * byte1.toNat + 2 ^ 16 * byte2.toNat + 2 ^ 24 * byte3.toNat :=
  toNat_word32At _ 0

theorem length_ofWord32 (word : UInt32) : (ofWord32 word).length = 4 := rfl

/-- What was written is read. -/
theorem word32At_ofWord32 (word : UInt32) (rest : Bytes) :
    word32At (ofWord32 word ++ rest) 0 = word := by
  apply UInt32.toNat_inj.mp
  have hword := word.toNat_lt
  calc
    _ = word.toUInt8.toNat + 2 ^ 8 * (word >>> 8).toUInt8.toNat +
        2 ^ 16 * (word >>> 16).toUInt8.toNat + 2 ^ 24 * (word >>> 24).toUInt8.toNat :=
      toNat_word32At_cons _ _ _ _ rest
    _ = word.toNat := by
      simp only [UInt32.toNat_toUInt8, UInt32.toNat_shiftRight, UInt32.reduceToNat, Nat.reduceMod,
        Nat.shiftRight_eq_div_pow]
      omega

/-- What was read is written. -/
theorem ofWord32_word32At {bytes : Bytes} (h : bytes.length = 4) :
    ofWord32 (bytes.word32At 0) = bytes := by
  match bytes, h with
  | [byte0, byte1, byte2, byte3], _ =>
    have hword := toNat_word32At_cons byte0 byte1 byte2 byte3 []
    have hbyte0 := byte0.toNat_lt
    have hbyte1 := byte1.toNat_lt
    have hbyte2 := byte2.toNat_lt
    have hbyte3 := byte3.toNat_lt
    simp only [ofWord32, List.cons.injEq, and_true, ← UInt8.toNat_inj, UInt32.toNat_toUInt8,
      UInt32.toNat_shiftRight, UInt32.reduceToNat, Nat.reduceMod, Nat.shiftRight_eq_div_pow]
    omega

theorem word32At_of_drop_eq {bytes : Bytes} {position : Nat} {word : UInt32} (rest : Bytes)
    (h : bytes.drop position = ofWord32 word ++ rest) : bytes.word32At position = word := by
  rw [← Nat.add_zero position, ← word32At_drop, h, word32At_ofWord32]

/-- The bytes from which a word was read. -/
theorem ofWord32_word32At_eq_take {bytes : Bytes} {position : Nat}
    (h : position + 4 ≤ bytes.length) :
    ofWord32 (bytes.word32At position) = (bytes.drop position).take 4 := by
  have hlength : ((bytes.drop position).take 4).length = 4 := by
    rw [List.length_take, List.length_drop]
    omega
  have hread : bytes.word32At position = word32At ((bytes.drop position).take 4) 0 := by
    rw [← word32At_append_left ((bytes.drop position).drop 4) (Nat.le_of_eq hlength.symm),
      List.take_append_drop, word32At_drop, Nat.add_zero]
  rw [hread, ofWord32_word32At hlength]

/-- Each byte of a word, by the word that is read there. -/
theorem getElem?_word32At {bytes : Bytes} {position index : Nat}
    (h : position + 4 ≤ bytes.length) (hindex : index < 4) :
    bytes[position + index]? = (ofWord32 (bytes.word32At position))[index]? := by
  rw [ofWord32_word32At_eq_take h, List.getElem?_take_of_lt hindex, List.getElem?_drop]

/-- A word can be read in front of a byte string if and only if it was written there. -/
theorem nextWord32?_eq_some_iff {bytes rest : Bytes} {word : UInt32} :
    bytes.nextWord32? = some (word, rest) ↔ bytes = ofWord32 word ++ rest := by
  unfold nextWord32?
  constructor
  · intro h
    split at h
    · next front rest hsplit =>
      obtain ⟨hlength, hbytes⟩ := splitExactly?_eq_some_iff.mp hsplit
      cases h
      rw [hbytes, ofWord32_word32At hlength]
    · cases h
  · rintro rfl
    rw [splitExactly?_eq_some_iff.mpr ⟨length_ofWord32 word, rfl⟩]
    have hword := word32At_ofWord32 word []
    rw [List.append_nil] at hword
    dsimp only
    rw [hword]

theorem nextWord32?_eq_none_iff {bytes : Bytes} :
    bytes.nextWord32? = none ↔ bytes.length < 4 := by
  rw [← splitExactly?_eq_none_iff, nextWord32?]
  cases bytes.splitExactly? 4 with
  | none => exact iff_of_true rfl rfl
  | some parts => exact iff_of_false nofun nofun

/-- A word that is not negative as a signed number has the same value as an unsigned one. -/
theorem toInt_toInt32_of_nonneg {word : UInt32} (h : 0 ≤ word.toInt32.toInt) :
    word.toInt32.toInt = word.toNat := by
  have hword := word.toNat_lt
  have hcases : word.toInt32.toInt =
      if 2 * word.toNat < 2 ^ 32 then (word.toNat : Int) else word.toNat - (2 ^ 32 : Nat) :=
    BitVec.toInt_eq_toNat_cond word.toBitVec
  omega

/-! ## Double words -/

theorem length_ofWord64 (word : UInt64) : (ofWord64 word).length = 8 := rfl

theorem toNat_word64At (bytes : Bytes) (position : Nat) :
    (bytes.word64At position).toNat =
      (bytes.word32At position).toNat + 2 ^ 32 * (bytes.word32At (position + 4)).toNat := by
  have hlow := (bytes.word32At position).toNat_lt
  have hfits : (bytes.word32At (position + 4)).toNat * 2 ^ 32 < 2 ^ 64 := by
    have hhigh := (bytes.word32At (position + 4)).toNat_lt
    omega
  rw [word64At, UInt64.toNat_or, UInt64.toNat_shiftLeft, UInt32.toNat_toUInt64,
    UInt32.toNat_toUInt64, Nat.shiftLeft_eq]
  change _ ||| _ * 2 ^ 32 % 2 ^ 64 = _
  rw [Nat.mod_eq_of_lt hfits, Nat.or_comm, Nat.mul_comm, ← Nat.two_pow_add_eq_or_of_lt hlow,
    Nat.add_comm]

theorem word64At_of_drop_eq {bytes : Bytes} {position : Nat} {word : UInt64} (rest : Bytes)
    (h : bytes.drop position = ofWord64 word ++ rest) : bytes.word64At position = word := by
  have hlow : bytes.word32At position = word.toUInt32 :=
    word32At_of_drop_eq _ (h.trans (List.append_assoc ..))
  have hhigh : bytes.word32At (position + 4) = (word >>> 32).toUInt32 := by
    apply word32At_of_drop_eq rest
    rw [← List.drop_drop, h]
    rfl
  have hword := word.toNat_lt
  apply UInt64.toNat_inj.mp
  rw [toNat_word64At, hlow, hhigh]
  simp only [UInt64.toNat_toUInt32, UInt64.toNat_shiftRight, UInt64.reduceToNat, Nat.reduceMod,
    Nat.shiftRight_eq_div_pow]
  omega

/-- The bytes from which a double word was read. -/
theorem ofWord64_word64At_eq_take {bytes : Bytes} {position : Nat}
    (h : position + 8 ≤ bytes.length) :
    ofWord64 (bytes.word64At position) = (bytes.drop position).take 8 := by
  have hwhole := toNat_word64At bytes position
  have hlow : (bytes.word64At position).toUInt32 = bytes.word32At position := by
    have hfits := (bytes.word32At position).toNat_lt
    apply UInt32.toNat_inj.mp
    rw [UInt64.toNat_toUInt32, hwhole]
    omega
  have hhigh : (bytes.word64At position >>> 32).toUInt32 = bytes.word32At (position + 4) := by
    have hlow := (bytes.word32At position).toNat_lt
    have hfits := (bytes.word32At (position + 4)).toNat_lt
    apply UInt32.toNat_inj.mp
    simp only [UInt64.toNat_toUInt32, UInt64.toNat_shiftRight, UInt64.reduceToNat, Nat.reduceMod,
      Nat.shiftRight_eq_div_pow, hwhole]
    omega
  rw [ofWord64, hlow, hhigh, ofWord32_word32At_eq_take (by omega),
    ofWord32_word32At_eq_take (by omega), ← List.drop_drop, ← List.take_add]

end AssetOverlay.Bytes
