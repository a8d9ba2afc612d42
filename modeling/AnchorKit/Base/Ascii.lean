import Mathlib.Data.List.Basic

/-!
# ASCII letters in UTF-8 text

Lowercasing the ASCII letters of a text is lowercasing the ASCII letters among its
bytes: a character of the ASCII range is one byte, and every byte of another character
is beyond that range.
-/

set_option autoImplicit false

namespace AnchorKit.Base.Ascii

def toAsciiLowercase (text : String) : String :=
  String.ofList (text.toList.map Char.toLower)

theorem forall_mem_of_all {holds : Char → Prop} [DecidablePred holds] {chars : List Char}
    (checked : chars.all (fun c => decide (holds c)) = true) : ∀ c ∈ chars, holds c :=
  fun c member => of_decide_eq_true (List.all_eq_true.1 checked c member)

def utf8Bytes (text : String) : List UInt8 :=
  text.toUTF8.data.toList

def lowerByte (byte : UInt8) : UInt8 :=
  if 65 ≤ byte ∧ byte ≤ 90 then byte + 32 else byte

theorem utf8Bytes_ofList (chars : List Char) :
    utf8Bytes (String.ofList chars) = chars.flatMap String.utf8EncodeChar := by
  unfold utf8Bytes
  simp [List.utf8Encode]

theorem utf8Bytes_eq_flatMap (text : String) :
    utf8Bytes text = text.toList.flatMap String.utf8EncodeChar := by
  rw [← utf8Bytes_ofList, String.ofList_toList]

theorem utf8Bytes_injective {left right : String} (same : utf8Bytes left = utf8Bytes right) :
    left = right :=
  String.toByteArray_inj.mp (ByteArray.ext (Array.toList_inj.mp same))

theorem utf8EncodeChar_cases (c : Char) :
    c.toNat < 128 ∧ String.utf8EncodeChar c = [UInt8.ofNat c.toNat] ∨
      128 ≤ c.toNat ∧ ∀ byte ∈ String.utf8EncodeChar c, 128 ≤ byte.toNat := by
  have same : c.val.toNat = c.toNat := rfl
  unfold String.utf8EncodeChar
  simp only [same]
  split
  · exact .inl ⟨by omega, rfl⟩
  · refine .inr ⟨by omega, ?_⟩
    split
    · simp only [List.forall_mem_cons, UInt8.toNat_ofNat']
      exact ⟨by omega, by omega, nofun⟩
    · split
      · simp only [List.forall_mem_cons, UInt8.toNat_ofNat']
        exact ⟨by omega, by omega, by omega, nofun⟩
      · simp only [List.forall_mem_cons, UInt8.toNat_ofNat']
        exact ⟨by omega, by omega, by omega, by omega, nofun⟩

theorem isUpper_iff (c : Char) : c.isUpper = true ↔ 65 ≤ c.toNat ∧ c.toNat ≤ 90 := by
  have range : c.isUpper = decide ('A'.val ≤ c.val ∧ c.val ≤ 'Z'.val) := rfl
  rw [range, decide_eq_true_iff, UInt32.le_iff_toNat_le, UInt32.le_iff_toNat_le]
  rfl

theorem isLower_iff (c : Char) : c.isLower = true ↔ 97 ≤ c.toNat ∧ c.toNat ≤ 122 := by
  have range : c.isLower = (decide ('a'.val ≤ c.val) && decide (c.val ≤ 'z'.val)) := rfl
  rw [range, Bool.and_eq_true, decide_eq_true_iff, decide_eq_true_iff, UInt32.le_iff_toNat_le,
    UInt32.le_iff_toNat_le]
  rfl

theorem isDigit_iff (c : Char) : c.isDigit = true ↔ 48 ≤ c.toNat ∧ c.toNat ≤ 57 := by
  have range : c.isDigit = (decide ('0'.val ≤ c.val) && decide (c.val ≤ '9'.val)) := rfl
  rw [range, Bool.and_eq_true, decide_eq_true_iff, decide_eq_true_iff, UInt32.le_iff_toNat_le,
    UInt32.le_iff_toNat_le]
  rfl

theorem isAlphanum_iff (c : Char) :
    c.isAlphanum = true ↔ c.isUpper = true ∨ c.isLower = true ∨ c.isDigit = true := by
  have classes : c.isAlphanum = ((c.isUpper || c.isLower) || c.isDigit) := rfl
  rw [classes, Bool.or_eq_true, Bool.or_eq_true, or_assoc]

theorem toLower_toNat (c : Char) :
    c.toLower.toNat = if 65 ≤ c.toNat ∧ c.toNat ≤ 90 then c.toNat + 32 else c.toNat := by
  have range : c.val ≥ 'A'.val ∧ c.val ≤ 'Z'.val ↔ 65 ≤ c.toNat ∧ c.toNat ≤ 90 := by
    rw [ge_iff_le, UInt32.le_iff_toNat_le, UInt32.le_iff_toNat_le]
    rfl
  unfold Char.toLower
  by_cases upper : 65 ≤ c.toNat ∧ c.toNat ≤ 90
  · rw [dif_pos (range.mpr upper), if_pos upper]
    have sum : (c.val + ('a'.val - 'A'.val)).toNat = (c.toNat + 32) % 2 ^ 32 :=
      UInt32.toNat_add c.val _
    exact sum.trans (Nat.mod_eq_of_lt (by omega))
  · rw [dif_neg (mt range.mp upper), if_neg upper]

theorem lowerByte_toNat (byte : UInt8) :
    (lowerByte byte).toNat =
      if 65 ≤ byte.toNat ∧ byte.toNat ≤ 90 then byte.toNat + 32 else byte.toNat := by
  have range : 65 ≤ byte ∧ byte ≤ 90 ↔ 65 ≤ byte.toNat ∧ byte.toNat ≤ 90 := by
    rw [UInt8.le_iff_toNat_le, UInt8.le_iff_toNat_le]
    rfl
  unfold lowerByte
  by_cases upper : 65 ≤ byte.toNat ∧ byte.toNat ≤ 90
  · rw [if_pos (range.mpr upper), if_pos upper, UInt8.toNat_add]
    exact Nat.mod_eq_of_lt (by simp; omega)
  · rw [if_neg (mt range.mp upper), if_neg upper]

theorem utf8EncodeChar_of_lt {c : Char} (small : c.toNat < 128) :
    String.utf8EncodeChar c = [UInt8.ofNat c.toNat] := by
  rcases utf8EncodeChar_cases c with ⟨_, single⟩ | ⟨large, _⟩
  · exact single
  · omega

theorem utf8EncodeChar_toLower (c : Char) :
    String.utf8EncodeChar c.toLower = (String.utf8EncodeChar c).map lowerByte := by
  have lower := toLower_toNat c
  rcases utf8EncodeChar_cases c with ⟨small, single⟩ | ⟨large, beyond⟩
  · have stays : c.toLower.toNat < 128 := by
      rw [lower]
      split
      · omega
      · exact small
    rw [utf8EncodeChar_of_lt stays, single, List.map_singleton, List.singleton_inj,
      ← UInt8.toNat_inj, lowerByte_toNat, lower]
    have whole : (UInt8.ofNat c.toNat).toNat = c.toNat :=
      UInt8.toNat_ofNat_of_lt' (Nat.lt_trans small (by decide))
    rw [whole]
    split
    · exact UInt8.toNat_ofNat_of_lt' (show c.toNat + 32 < 256 by omega)
    · exact whole
  · have same : c.toLower = c := by
      rw [if_neg (by omega)] at lower
      exact Char.toNat_inj.mp lower
    rw [same]
    conv => lhs; rw [← List.map_id (String.utf8EncodeChar c)]
    refine List.map_congr_left fun byte member => UInt8.toNat_inj.mp ?_
    rw [lowerByte_toNat, if_neg (by have := beyond byte member; omega)]
    rfl

theorem utf8Bytes_toAsciiLowercase (text : String) :
    utf8Bytes (toAsciiLowercase text) = (utf8Bytes text).map lowerByte := by
  rw [toAsciiLowercase, utf8Bytes_ofList, utf8Bytes_eq_flatMap, List.flatMap_map,
    List.map_flatMap]
  simp only [utf8EncodeChar_toLower]

end AnchorKit.Base.Ascii
