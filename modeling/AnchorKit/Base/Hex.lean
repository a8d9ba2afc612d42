import AnchorKit.Base.Ascii

/-!
# Hexadecimal text

Bytes are written as two lower-case digits each, and read from digits of either case.
Reading works on the bytes of a text, so that a character beyond the ASCII range is
met as the bytes of its encoding.  A text is read as some bytes exactly if lowercasing
it gives the text that is written for them.
-/

set_option autoImplicit false

namespace AnchorKit.Base.Hex

open AnchorKit.Base.Ascii

inductive FromHexError where
  | invalidHexCharacter (c : UInt8) (index : Nat)
  | oddLength
  deriving DecidableEq, Repr

def val (c : UInt8) (index : Nat) : Except FromHexError UInt8 :=
  if 65 ≤ c ∧ c ≤ 70 then .ok (c - 65 + 10)
  else if 97 ≤ c ∧ c ≤ 102 then .ok (c - 97 + 10)
  else if 48 ≤ c ∧ c ≤ 57 then .ok (c - 48)
  else .error (.invalidHexCharacter c index)

def join (high low : UInt8) : UInt8 :=
  high <<< 4 ||| low

def decodePairs (index : Nat) : List UInt8 → Except FromHexError (List UInt8)
  | high :: low :: rest => do
      let high ← val high index
      let low ← val low (index + 1)
      let others ← decodePairs (index + 2) rest
      return join high low :: others
  | _ => return []

def decodeBytes (hex : List UInt8) : Except FromHexError (List UInt8) :=
  if hex.length % 2 ≠ 0 then .error .oddLength else decodePairs 0 hex

def decode (text : String) : Except FromHexError (List UInt8) :=
  decodeBytes (utf8Bytes text)

def digits : List Char :=
  ['0', '1', '2', '3', '4', '5', '6', '7', '8', '9', 'a', 'b', 'c', 'd', 'e', 'f']

def digit (value : UInt8) : Char :=
  digits.getD value.toNat '0'

def pair (byte : UInt8) : List Char :=
  [digit (byte >>> 4), digit (byte &&& 15)]

def encode (data : List UInt8) : String :=
  String.ofList (data.flatMap pair)

/-! ## Digits -/

theorem digit_toNat {value : UInt8} (small : value.toNat < 16) :
    (digit value).toNat = if value.toNat < 10 then value.toNat + 48 else value.toNat + 87 := by
  unfold digit
  generalize value.toNat = number at small ⊢
  revert number
  decide

/-- The code of a digit of either case, and its value. -/
def Reads (code value : Nat) : Prop :=
  65 ≤ code ∧ code ≤ 70 ∧ value + 55 = code ∨ 97 ≤ code ∧ code ≤ 102 ∧ value + 87 = code ∨
    48 ≤ code ∧ code ≤ 57 ∧ value + 48 = code

theorem le_and_le_iff (low c high : UInt8) :
    low ≤ c ∧ c ≤ high ↔ low.toNat ≤ c.toNat ∧ c.toNat ≤ high.toNat := by
  rw [UInt8.le_iff_toNat_le, UInt8.le_iff_toNat_le]

theorem ok_offset_iff {c base value : UInt8} (above : base.toNat ≤ c.toNat) (extra : UInt8)
    (bounded : c.toNat - base.toNat + extra.toNat < 256) :
    (Except.ok (c - base + extra) : Except FromHexError UInt8) = .ok value ↔
      value.toNat = c.toNat - base.toNat + extra.toNat := by
  have difference : (c - base).toNat = c.toNat - base.toNat :=
    UInt8.toNat_sub_of_le _ _ (UInt8.le_iff_toNat_le.mpr above)
  have sum : (c - base + extra).toNat = c.toNat - base.toNat + extra.toNat := by
    rw [UInt8.toNat_add, difference]
    exact Nat.mod_eq_of_lt bounded
  rw [Except.ok.injEq, ← UInt8.toNat_inj, sum, eq_comm]

theorem val_eq_ok_iff_reads (c : UInt8) (index : Nat) (value : UInt8) :
    val c index = .ok value ↔ Reads c.toNat value.toNat := by
  unfold val Reads
  simp only [le_and_le_iff, UInt8.reduceToNat]
  split
  · rw [ok_offset_iff (by simp; omega) 10 (by simp; omega)]
    simp only [UInt8.reduceToNat]
    omega
  · split
    · rw [ok_offset_iff (by simp; omega) 10 (by simp; omega)]
      simp only [UInt8.reduceToNat]
      omega
    · split
      · have zero : c - 48 = c - 48 + 0 := (UInt8.add_zero _).symm
        rw [zero, ok_offset_iff (by simp; omega) 0 (by simp; omega)]
        simp only [UInt8.reduceToNat]
        omega
      · simp only [reduceCtorEq, false_iff]
        omega

theorem reads_iff (c value : UInt8) :
    Reads c.toNat value.toNat ↔
      value.toNat < 16 ∧ (lowerByte c).toNat = (digit value).toNat := by
  rw [lowerByte_toNat]
  unfold Reads
  constructor
  · intro reads
    have small : value.toNat < 16 := by omega
    refine ⟨small, ?_⟩
    rw [digit_toNat small]
    split
    · rw [if_neg (by omega)]
      omega
    · split
      · omega
      · omega
  · rintro ⟨small, same⟩
    rw [digit_toNat small] at same
    split at same
    · split at same
      · omega
      · omega
    · split at same
      · omega
      · omega

theorem join_toNat {high low : UInt8} (highSmall : high.toNat < 16) (lowSmall : low.toNat < 16) :
    (join high low).toNat = high.toNat * 16 + low.toNat := by
  have shifted : (high <<< 4).toNat = high.toNat <<< 4 := by
    rw [UInt8.toNat_shiftLeft]
    exact Nat.mod_eq_of_lt (by simp [Nat.shiftLeft_eq]; omega)
  rw [join, UInt8.toNat_or, shifted, ← Nat.shiftLeft_add_eq_or_of_lt lowSmall,
    Nat.shiftLeft_eq]

theorem shiftRight_toNat (byte : UInt8) : (byte >>> 4).toNat = byte.toNat / 16 := by
  rw [UInt8.toNat_shiftRight]
  exact Nat.shiftRight_eq_div_pow byte.toNat 4

theorem and_toNat (byte : UInt8) : (byte &&& 15).toNat = byte.toNat % 16 := by
  rw [UInt8.toNat_and]
  exact Nat.and_two_pow_sub_one_eq_mod byte.toNat 4

theorem join_halves (byte : UInt8) : join (byte >>> 4) (byte &&& 15) = byte := by
  have range := byte.toNat_lt
  have high := shiftRight_toNat byte
  have low := and_toNat byte
  rw [← UInt8.toNat_inj, join_toNat (by omega) (by omega), high, low]
  omega

theorem halves_join {high low : UInt8} (highSmall : high.toNat < 16)
    (lowSmall : low.toNat < 16) : join high low >>> 4 = high ∧ join high low &&& 15 = low := by
  have whole := join_toNat highSmall lowSmall
  constructor
  · rw [← UInt8.toNat_inj, shiftRight_toNat, whole]
    omega
  · rw [← UInt8.toNat_inj, and_toNat, whole]
    omega

/-! ## Reading and writing -/

def digitByte (value : UInt8) : UInt8 :=
  UInt8.ofNat (digit value).toNat

theorem digitByte_toNat {value : UInt8} (small : value.toNat < 16) :
    (digit value).toNat < 128 ∧ (digitByte value).toNat = (digit value).toNat := by
  have code := digit_toNat small
  have ascii : (digit value).toNat < 128 := by
    rw [code]
    split
    · omega
    · omega
  exact ⟨ascii, UInt8.toNat_ofNat_of_lt' (Nat.lt_trans ascii (by decide))⟩

theorem val_eq_ok_iff (c : UInt8) (index : Nat) (value : UInt8) :
    val c index = .ok value ↔ value.toNat < 16 ∧ lowerByte c = digitByte value := by
  rw [val_eq_ok_iff_reads, reads_iff]
  refine and_congr_right fun small => ?_
  rw [← (digitByte_toNat small).2, UInt8.toNat_inj]

theorem utf8Bytes_encode_cons (byte : UInt8) (rest : List UInt8) :
    utf8Bytes (encode (byte :: rest)) =
      digitByte (byte >>> 4) :: digitByte (byte &&& 15) :: utf8Bytes (encode rest) := by
  have range := byte.toNat_lt
  have high := shiftRight_toNat byte
  have low := and_toNat byte
  simp only [encode, utf8Bytes_ofList, List.flatMap_cons, pair, List.flatMap_append,
    List.flatMap_nil]
  rw [utf8EncodeChar_of_lt (digitByte_toNat (by omega)).1,
    utf8EncodeChar_of_lt (digitByte_toNat (by omega)).1]
  rfl

theorem decodePairs_cons_eq_ok_iff (index : Nat) (high low : UInt8) (rest data : List UInt8) :
    decodePairs index (high :: low :: rest) = .ok data ↔
      ∃ first second others, val high index = .ok first ∧ val low (index + 1) = .ok second ∧
        decodePairs (index + 2) rest = .ok others ∧ data = join first second :: others := by
  rw [decodePairs]
  simp only [bind, Except.bind, pure, Except.pure]
  cases ofHigh : val high index with
  | error error => simp
  | ok first =>
      cases ofLow : val low (index + 1) with
      | error error => simp
      | ok second =>
          cases ofRest : decodePairs (index + 2) rest with
          | error error => simp
          | ok others => simp [eq_comm]

theorem decodePairs_eq_ok_iff (index : Nat) (bytes data : List UInt8)
    (even : bytes.length % 2 = 0) :
    decodePairs index bytes = .ok data ↔ bytes.map lowerByte = utf8Bytes (encode data) := by
  induction index, bytes using decodePairs.induct generalizing data with
  | case1 index high low rest ih =>
      have evenRest : rest.length % 2 = 0 := by
        simp only [List.length_cons] at even
        omega
      rw [decodePairs_cons_eq_ok_iff]
      constructor
      · rintro ⟨first, second, others, ofHigh, ofLow, ofRest, rfl⟩
        rw [val_eq_ok_iff] at ofHigh ofLow
        rw [ih others evenRest] at ofRest
        obtain ⟨highHalf, lowHalf⟩ := halves_join ofHigh.1 ofLow.1
        rw [utf8Bytes_encode_cons, highHalf, lowHalf, ← ofHigh.2, ← ofLow.2, ← ofRest]
        rfl
      · intro written
        cases data with
        | nil => cases written
        | cons byte others =>
            rw [utf8Bytes_encode_cons] at written
            simp only [List.map_cons, List.cons.injEq] at written
            have range := byte.toNat_lt
            have highSmall := shiftRight_toNat byte
            have lowSmall := and_toNat byte
            refine ⟨byte >>> 4, byte &&& 15, others, ?_, ?_, (ih others evenRest).mpr written.2.2,
              by rw [join_halves]⟩
            · exact (val_eq_ok_iff _ _ _).mpr ⟨by omega, written.1⟩
            · exact (val_eq_ok_iff _ _ _).mpr ⟨by omega, written.2.1⟩
  | case2 bytes index short =>
      cases bytes with
      | nil =>
          cases data with
          | nil => exact ⟨fun _ => rfl, fun _ => rfl⟩
          | cons byte others =>
              rw [utf8Bytes_encode_cons]
              exact ⟨nofun, nofun⟩
      | cons first rest =>
          cases rest with
          | nil => cases even
          | cons second others => exact absurd rfl (short first second others)

theorem length_utf8Bytes_encode (data : List UInt8) :
    (utf8Bytes (encode data)).length = 2 * data.length := by
  induction data with
  | nil => rfl
  | cons byte rest ih =>
      rw [utf8Bytes_encode_cons, List.length_cons, List.length_cons, ih, List.length_cons]
      omega

theorem decode_eq_ok_iff (text : String) (data : List UInt8) :
    decode text = .ok data ↔ toAsciiLowercase text = encode data := by
  have spelled : toAsciiLowercase text = encode data ↔
      (utf8Bytes text).map lowerByte = utf8Bytes (encode data) := by
    rw [← utf8Bytes_toAsciiLowercase]
    exact ⟨fun same => by rw [same], utf8Bytes_injective⟩
  rw [spelled]
  unfold decode decodeBytes
  by_cases even : (utf8Bytes text).length % 2 = 0
  · rw [if_neg (not_not.mpr even), decodePairs_eq_ok_iff 0 _ _ even]
  · rw [if_pos even]
    refine ⟨nofun, fun same => absurd ?_ even⟩
    have lengths := congrArg List.length same
    rw [List.length_map, length_utf8Bytes_encode] at lengths
    omega

/-! ## Texts that are refused -/

def HexCode (code : Nat) : Prop :=
  65 ≤ code ∧ code ≤ 70 ∨ 97 ≤ code ∧ code ≤ 102 ∨ 48 ≤ code ∧ code ≤ 57

def HexDigit (c : Char) : Prop :=
  '0' ≤ c ∧ c ≤ '9' ∨ 'a' ≤ c ∧ c ≤ 'f' ∨ 'A' ≤ c ∧ c ≤ 'F'

theorem exists_val_iff (c : UInt8) (index : Nat) :
    (∃ value, val c index = .ok value) ↔ HexCode c.toNat := by
  have range := c.toNat_lt
  simp only [val_eq_ok_iff_reads]
  unfold Reads HexCode
  constructor
  · rintro ⟨value, reads⟩
    omega
  · intro code
    have given : ∀ value < 256, (UInt8.ofNat value).toNat = value :=
      fun value small => UInt8.toNat_ofNat_of_lt' small
    rcases code with upper | lower | decimal
    · exact ⟨UInt8.ofNat (c.toNat - 55), by rw [given _ (by omega)]; omega⟩
    · exact ⟨UInt8.ofNat (c.toNat - 87), by rw [given _ (by omega)]; omega⟩
    · exact ⟨UInt8.ofNat (c.toNat - 48), by rw [given _ (by omega)]; omega⟩

theorem exists_decodePairs_iff (index : Nat) (bytes : List UInt8)
    (even : bytes.length % 2 = 0) :
    (∃ data, decodePairs index bytes = .ok data) ↔ ∀ byte ∈ bytes, HexCode byte.toNat := by
  induction index, bytes using decodePairs.induct with
  | case1 index high low rest ih =>
      have evenRest : rest.length % 2 = 0 := by
        simp only [List.length_cons] at even
        omega
      rw [List.forall_mem_cons, List.forall_mem_cons, ← ih evenRest,
        ← exists_val_iff high index, ← exists_val_iff low (index + 1)]
      constructor
      · rintro ⟨data, read⟩
        obtain ⟨first, second, others, ofHigh, ofLow, ofRest, _⟩ :=
          (decodePairs_cons_eq_ok_iff index high low rest data).mp read
        exact ⟨⟨first, ofHigh⟩, ⟨second, ofLow⟩, others, ofRest⟩
      · rintro ⟨⟨first, ofHigh⟩, ⟨second, ofLow⟩, others, ofRest⟩
        exact ⟨_, (decodePairs_cons_eq_ok_iff index high low rest _).mpr
          ⟨first, second, others, ofHigh, ofLow, ofRest, rfl⟩⟩
  | case2 bytes index short =>
      cases bytes with
      | nil => exact ⟨fun _ => nofun, fun _ => ⟨[], rfl⟩⟩
      | cons first rest =>
          cases rest with
          | nil => cases even
          | cons second others => exact absurd rfl (short first second others)

theorem hexDigit_iff (c : Char) : HexDigit c ↔ HexCode c.toNat := by
  unfold HexDigit HexCode
  simp only [Char.le_def, UInt32.le_iff_toNat_le]
  have codes : '0'.val.toNat = 48 ∧ '9'.val.toNat = 57 ∧ 'a'.val.toNat = 97 ∧
      'f'.val.toNat = 102 ∧ 'A'.val.toNat = 65 ∧ 'F'.val.toNat = 70 := by decide
  have same : c.val.toNat = c.toNat := rfl
  omega

theorem hexCode_bytes_iff (c : Char) :
    (∀ byte ∈ String.utf8EncodeChar c, HexCode byte.toNat) ↔ HexDigit c := by
  rw [hexDigit_iff]
  rcases utf8EncodeChar_cases c with ⟨small, single⟩ | ⟨large, beyond⟩
  · have whole : (UInt8.ofNat c.toNat).toNat = c.toNat :=
      UInt8.toNat_ofNat_of_lt' (Nat.lt_trans small (by decide))
    rw [single, List.forall_mem_singleton, whole]
  · constructor
    · intro codes
      obtain ⟨first, rest, split⟩ := List.exists_cons_of_ne_nil String.utf8EncodeChar_ne_nil
      have member : first ∈ String.utf8EncodeChar c := by
        rw [split]
        exact List.mem_cons_self
      have code := codes first member
      have high := beyond first member
      unfold HexCode at code
      omega
    · intro code
      unfold HexCode at code
      omega

theorem hexCode_utf8Bytes_iff (text : String) :
    (∀ byte ∈ utf8Bytes text, HexCode byte.toNat) ↔ ∀ c ∈ text.toList, HexDigit c := by
  rw [utf8Bytes_eq_flatMap]
  simp only [List.mem_flatMap, ← hexCode_bytes_iff]
  constructor
  · intro codes c member byte inside
    exact codes byte ⟨c, member, inside⟩
  · rintro digits byte ⟨c, member, inside⟩
    exact digits c member byte inside

theorem decode_fails_iff (text : String) :
    (∃ error, decode text = .error error) ↔
      (utf8Bytes text).length % 2 = 1 ∨ ∃ c ∈ text.toList, ¬ HexDigit c := by
  unfold decode decodeBytes
  by_cases even : (utf8Bytes text).length % 2 = 0
  · rw [if_neg (not_not.mpr even)]
    have reads := exists_decodePairs_iff 0 _ even
    rw [hexCode_utf8Bytes_iff] at reads
    have digits : (∃ c ∈ text.toList, ¬ HexDigit c) ↔ ¬ ∀ c ∈ text.toList, HexDigit c := by
      simp only [not_forall, exists_prop]
    rw [digits, ← reads]
    cases run : decodePairs 0 (utf8Bytes text) with
    | error error => simp
    | ok data => simp [even]
  · rw [if_pos even]
    exact ⟨fun _ => .inl (by omega), fun _ => ⟨_, rfl⟩⟩

end AnchorKit.Base.Hex
