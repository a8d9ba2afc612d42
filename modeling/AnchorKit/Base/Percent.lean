import AnchorKit.Base.Hex
import Mathlib.Data.List.TakeWhile

/-!
# Percent-encoded text and the parameters of a URL

A byte that may not stand for itself is written as `%` and two upper-case digits, and
decoding reads such triplets back, digits of either case.  A URL ends before its
fragment, its query begins after the first `?`, and each part of the query between two
`&` is a name and a value, at the first `=`.
-/

set_option autoImplicit false

namespace AnchorKit.Base.Percent

open AnchorKit.Base.Ascii

/-! ## Triplets -/

def upperDigits : List Char :=
  ['0', '1', '2', '3', '4', '5', '6', '7', '8', '9', 'A', 'B', 'C', 'D', 'E', 'F']

def upperDigit (value : UInt8) : Char :=
  upperDigits.getD value.toNat '0'

def escape (byte : UInt8) : List Char :=
  ['%', upperDigit (byte >>> 4), upperDigit (byte &&& 15)]

/-- The bytes that are `kept` stand for themselves. -/
def encode (kept : UInt8 → Bool) (bytes : List UInt8) : List Char :=
  bytes.flatMap fun byte => if kept byte then [Char.ofNat byte.toNat] else escape byte

def hexValue (digit : UInt8) : Option UInt8 :=
  (Hex.val digit 0).toOption

/-- A `%` that no two digits follow stands for itself. -/
def decode : List UInt8 → List UInt8
  | byte :: high :: low :: rest =>
      if byte = 37 then
        match hexValue high, hexValue low with
        | some high, some low => Hex.join high low :: decode rest
        | _, _ => byte :: decode (high :: low :: rest)
      else byte :: decode (high :: low :: rest)
  | bytes => bytes

/-- The characters that RFC 3986 calls unreserved. -/
def Unreserved (c : Char) : Prop :=
  c.isAlphanum = true ∨ c ∈ ['-', '_', '.', '~']

instance (c : Char) : Decidable (Unreserved c) :=
  inferInstanceAs (Decidable (c.isAlphanum = true ∨ c ∈ ['-', '_', '.', '~']))

/-- Unreserved characters and triplets with upper-case digits. -/
inductive Encoded : List Char → Prop
  | nil : Encoded []
  | plain {c : Char} {rest : List Char} (unreserved : Unreserved c) (encoded : Encoded rest) :
      Encoded (c :: rest)
  | triplet {high low : Char} {rest : List Char} (highDigit : high ∈ upperDigits)
      (lowDigit : low ∈ upperDigits) (encoded : Encoded rest) :
      Encoded ('%' :: high :: low :: rest)

theorem upperDigit_toNat {value : UInt8} (small : value.toNat < 16) :
    (upperDigit value).toNat =
      if value.toNat < 10 then value.toNat + 48 else value.toNat + 55 := by
  unfold upperDigit
  generalize value.toNat = number at small ⊢
  revert number
  decide

theorem upperDigit_mem {value : UInt8} (small : value.toNat < 16) :
    upperDigit value ∈ upperDigits := by
  unfold upperDigit
  generalize value.toNat = number at small
  revert number
  decide

theorem shiftRight_lt (byte : UInt8) : (byte >>> 4).toNat < 16 := by
  rw [Hex.shiftRight_toNat]
  have bound := byte.toNat_lt
  omega

theorem and_lt (byte : UInt8) : (byte &&& 15).toNat < 16 := by
  rw [Hex.and_toNat]
  exact Nat.mod_lt _ (by decide)

theorem hexValue_upperDigit {value : UInt8} (small : value.toNat < 16) :
    String.utf8EncodeChar (upperDigit value) = [UInt8.ofNat (upperDigit value).toNat] ∧
      hexValue (UInt8.ofNat (upperDigit value).toNat) = some value := by
  have code := upperDigit_toNat small
  have ascii : (upperDigit value).toNat < 128 := by
    rw [code]
    split
    · omega
    · omega
  refine ⟨utf8EncodeChar_of_lt ascii, ?_⟩
  have whole : (UInt8.ofNat (upperDigit value).toNat).toNat = (upperDigit value).toNat :=
    UInt8.toNat_ofNat_of_lt' (show (upperDigit value).toNat < 256 by omega)
  have read : Hex.val (UInt8.ofNat (upperDigit value).toNat) 0 = .ok value := by
    rw [Hex.val_eq_ok_iff_reads, whole, code, Hex.Reads]
    split
    · omega
    · omega
  rw [hexValue, read]
  rfl

theorem decode_cons_of_ne {byte : UInt8} (plain : byte ≠ 37) (rest : List UInt8) :
    decode (byte :: rest) = byte :: decode rest := by
  match rest with
  | [] => rfl
  | [_] => rfl
  | high :: low :: others => rw [decode, if_neg plain]

theorem decode_triplet {high low first second : UInt8} (highRead : hexValue high = some first)
    (lowRead : hexValue low = some second) (rest : List UInt8) :
    decode (37 :: high :: low :: rest) = Hex.join first second :: decode rest := by
  rw [decode, if_pos rfl, highRead, lowRead]

theorem decode_escape (byte : UInt8) (rest : List UInt8) :
    decode ((escape byte).flatMap String.utf8EncodeChar ++ rest) = byte :: decode rest := by
  obtain ⟨highByte, highRead⟩ := hexValue_upperDigit (shiftRight_lt byte)
  obtain ⟨lowByte, lowRead⟩ := hexValue_upperDigit (and_lt byte)
  have percent : String.utf8EncodeChar '%' = [37] := rfl
  rw [escape]
  simp only [List.flatMap_cons, List.flatMap_nil, percent, highByte, lowByte, List.append_nil,
    List.cons_append, List.nil_append]
  rw [decode_triplet highRead lowRead, Hex.join_halves]

theorem toNat_ofNat_of_lt {code : Nat} (ascii : code < 128) :
    (Char.ofNat code).toNat = code := by
  revert code
  decide

section Kept

variable {kept : UInt8 → Bool}

theorem decode_encode
    (plain : ∀ byte, kept byte = true → byte.toNat < 128 ∧ byte ≠ 37) (bytes : List UInt8) :
    decode (utf8Bytes (String.ofList (encode kept bytes))) = bytes := by
  rw [utf8Bytes_ofList]
  induction bytes with
  | nil => rfl
  | cons byte rest ih =>
      rw [encode, List.flatMap_cons, List.flatMap_append]
      split
      · rename_i keeps
        obtain ⟨ascii, notPercent⟩ := plain byte keeps
        have code : (Char.ofNat byte.toNat).toNat = byte.toNat :=
          toNat_ofNat_of_lt ascii
        have single : String.utf8EncodeChar (Char.ofNat byte.toNat) = [byte] := by
          rw [utf8EncodeChar_of_lt (by rw [code]; exact ascii), code, UInt8.ofNat_toNat]
        rw [List.flatMap_cons, List.flatMap_nil, single, List.append_nil, List.singleton_append,
          decode_cons_of_ne notPercent]
        exact congrArg _ ih
      · rw [decode_escape]
        exact congrArg _ ih

theorem encode_encoded
    (unreserved : ∀ byte, kept byte = true → Unreserved (Char.ofNat byte.toNat))
    (bytes : List UInt8) : Encoded (encode kept bytes) := by
  induction bytes with
  | nil => exact .nil
  | cons byte rest ih =>
      rw [encode, List.flatMap_cons]
      split
      · rename_i keeps
        exact .plain (unreserved byte keeps) ih
      · exact .triplet (upperDigit_mem (shiftRight_lt byte)) (upperDigit_mem (and_lt byte)) ih

end Kept

def delimiters : List Char := ['#', '?', '&', '=']

theorem Encoded.not_mem {text : List Char} (encoded : Encoded text) {delimiter : Char}
    (reserved : delimiter ∈ delimiters) : delimiter ∉ text := by
  have notPlain : ∀ c ∈ delimiters, ¬ Unreserved c := forall_mem_of_all (by decide)
  have notTriplet : ∀ c ∈ delimiters, c ≠ '%' ∧ c ∉ upperDigits := forall_mem_of_all (by decide)
  induction encoded with
  | nil => exact List.not_mem_nil
  | plain unreserved _ ih =>
      rw [List.mem_cons, not_or]
      refine ⟨?_, ih⟩
      rintro rfl
      exact notPlain _ reserved unreserved
  | triplet highDigit lowDigit _ ih =>
      obtain ⟨notPercent, notDigit⟩ := notTriplet _ reserved
      simp only [List.mem_cons, not_or]
      refine ⟨notPercent, ?_, ?_, ih⟩
      · rintro rfl
        exact notDigit highDigit
      · rintro rfl
        exact notDigit lowDigit

/-! ## Parameters -/

def query (url : List Char) : Option (List Char) :=
  match (url.takeWhile (· != '#')).dropWhile (· != '?') with
  | [] => none
  | _ :: query => some query

def parameter (part : List Char) : List Char × List Char :=
  (part.takeWhile (· != '='), (part.dropWhile (· != '=')).tail)

def parameters (url : List Char) : List (List Char × List Char) :=
  match query url with
  | none => []
  | some query => (query.splitOnP (· == '&')).map parameter

section Inert

variable {delimiter : Char}

theorem takeWhile_of_not_mem {text : List Char} (absent : delimiter ∉ text) :
    text.takeWhile (· != delimiter) = text := by
  rw [List.takeWhile_eq_self_iff]
  intro c member
  rw [bne_iff_ne]
  rintro rfl
  exact absent member

theorem splitOnP_of_not_mem {text : List Char} (absent : delimiter ∉ text) :
    text.splitOnP (· == delimiter) = [text] := by
  refine List.splitOnP_eq_singleton ?_
  intro c member
  rw [beq_eq_false_iff_ne]
  rintro rfl
  exact absent member

theorem splitOnP_append (separates : Char → Bool) (left : List Char) :
    ∃ before last, ∀ right first after, right.splitOnP separates = first :: after →
      (left ++ right).splitOnP separates = before ++ (last ++ first) :: after := by
  induction left with
  | nil => exact ⟨[], [], fun right first after split => split⟩
  | cons c rest ih =>
      obtain ⟨before, last, goesOn⟩ := ih
      cases here : separates c with
      | true =>
          refine ⟨[] :: before, last, ?_⟩
          intro right first after split
          rw [List.cons_append, List.splitOnP_cons_eq_if_modifyHead, if_pos here,
            goesOn right first after split]
          rfl
      | false =>
          cases before with
          | nil =>
              refine ⟨[], c :: last, ?_⟩
              intro right first after split
              rw [List.cons_append, List.splitOnP_cons_eq_if_modifyHead, here,
                goesOn right first after split]
              rfl
          | cons head others =>
              refine ⟨(c :: head) :: others, last, ?_⟩
              intro right first after split
              rw [List.cons_append, List.splitOnP_cons_eq_if_modifyHead, here,
                goesOn right first after split]
              rfl

theorem parameter_append (part : List Char) :
    ∃ name lead, ∀ value, parameter (part ++ '=' :: value) = (name, lead ++ value) := by
  induction part with
  | nil => exact ⟨[], [], fun value => rfl⟩
  | cons c rest ih =>
      by_cases ends : c = '='
      · refine ⟨[], rest ++ ['='], ?_⟩
        intro value
        rw [ends, List.append_assoc]
        rfl
      · obtain ⟨name, lead, split⟩ := ih
        have passes : (c != '=') = true := bne_iff_ne.mpr ends
        refine ⟨c :: name, lead, ?_⟩
        intro value
        have rest := Prod.mk.inj (split value)
        rw [parameter, List.cons_append, List.takeWhile_cons, if_pos passes,
          List.dropWhile_cons, if_pos passes, rest.1, rest.2]

theorem query_append {path : List Char} (unasked : '?' ∉ path) (noFragment : '#' ∉ path)
    (rest : List Char) :
    query (path ++ '?' :: rest) = some (rest.takeWhile (· != '#')) := by
  have beforeFragment := List.takeWhile_eq_self_iff.mp (takeWhile_of_not_mem noFragment)
  have before := List.takeWhile_eq_self_iff.mp (takeWhile_of_not_mem unasked)
  rw [query, List.takeWhile_append_of_pos beforeFragment, List.takeWhile_cons, if_pos (by decide),
    List.dropWhile_append_of_pos before, List.dropWhile_cons, if_neg (by decide)]

theorem parameters_append {path rest : List Char} (unasked : '?' ∉ path)
    (noFragment : '#' ∉ path) (noHash : '#' ∉ rest) :
    parameters (path ++ '?' :: rest) = (rest.splitOnP (· == '&')).map parameter := by
  rw [parameters, query_append unasked noFragment, takeWhile_of_not_mem noHash]

theorem query_of_mem {front : List Char} (asks : '?' ∈ front) (noFragment : '#' ∉ front) :
    ∃ start, ∀ rest, query (front ++ rest) = some (start ++ rest.takeWhile (· != '#')) := by
  obtain ⟨path, start, rfl, unasked⟩ := List.eq_append_cons_of_mem asks
  rw [List.mem_append, List.mem_cons, not_or, not_or] at noFragment
  refine ⟨start, ?_⟩
  intro rest
  rw [List.append_assoc, List.cons_append, query_append unasked noFragment.1,
    List.takeWhile_append_of_pos]
  exact List.takeWhile_eq_self_iff.mp (takeWhile_of_not_mem noFragment.2.2)

theorem parameters_of_fragment {front : List Char} (fragment : '#' ∈ front) (rest : List Char) :
    parameters (front ++ rest) = parameters front := by
  have shorter : ¬ (front.takeWhile (· != '#')).length = front.length := by
    intro same
    have whole := (List.takeWhile_prefix (· != '#')).eq_of_length same
    rw [List.takeWhile_eq_self_iff] at whole
    exact bne_iff_ne.mp (whole '#' fragment) rfl
  have same : (front ++ rest).takeWhile (· != '#') = front.takeWhile (· != '#') := by
    rw [List.takeWhile_append, if_neg shorter]
  rw [parameters, parameters, query, query, same]

/-- A value without delimiters that is written behind `=`, and that nothing or a further
parameter follows, is part of one value and changes no other parameter. -/
theorem parameters_of_value {front back : List Char} (asks : '?' ∈ front)
    (noFragment : '#' ∉ front) (ends : back = [] ∨ ∃ rest, back = '&' :: rest) :
    ∃ before name lead after, ∀ value, '#' ∉ value → '&' ∉ value →
      parameters (front ++ '=' :: (value ++ back)) =
        before ++ (name, lead ++ value) :: after := by
  obtain ⟨start, asked⟩ := query_of_mem asks noFragment
  obtain ⟨earlier, last, goesOn⟩ := splitOnP_append (· == '&') start
  obtain ⟨name, lead, named⟩ := parameter_append last
  have closes : ∃ after, ∀ value, '#' ∉ value → '&' ∉ value →
      (('=' :: (value ++ back)).takeWhile (· != '#')).splitOnP (· == '&') =
        ('=' :: value) :: after := by
    rcases ends with rfl | ⟨rest, rfl⟩
    · refine ⟨[], ?_⟩
      intro value noHash noAmpersand
      rw [List.append_nil, takeWhile_of_not_mem (by simpa using noHash)]
      exact splitOnP_of_not_mem (by simpa using noAmpersand)
    · refine ⟨(rest.takeWhile (· != '#')).splitOnP (· == '&'), ?_⟩
      intro value noHash noAmpersand
      rw [← List.cons_append, List.takeWhile_append_of_pos, List.takeWhile_cons,
        if_pos (by decide), List.splitOnP_append_cons _ _ (by decide),
        splitOnP_of_not_mem (by simpa using noAmpersand)]
      · rfl
      · exact List.takeWhile_eq_self_iff.mp (takeWhile_of_not_mem (by simpa using noHash))
  obtain ⟨after, closes⟩ := closes
  refine ⟨earlier.map parameter, name, lead, after.map parameter, ?_⟩
  intro value noHash noAmpersand
  rw [parameters, asked]
  dsimp only
  rw [goesOn _ _ _ (closes value noHash noAmpersand), List.map_append, List.map_cons, named]

end Inert

end AnchorKit.Base.Percent
