import AnchorKit.Base.Percent

/-!
# The URLs of `watch.rs`

The transaction id is the one part of the URLs that is encoded.  Whatever it is, it is
part of the value of one parameter.
-/

set_option autoImplicit false

namespace AnchorKit.Cli.Watch

open AnchorKit.Base
open AnchorKit.Base.Ascii (utf8Bytes)

def isUnreserved (b : UInt8) : Bool :=
  'A'.toUInt8 ≤ b && b ≤ 'Z'.toUInt8 || 'a'.toUInt8 ≤ b && b ≤ 'z'.toUInt8 ||
    '0'.toUInt8 ≤ b && b ≤ '9'.toUInt8 || b == '-'.toUInt8 || b == '_'.toUInt8 ||
    b == '.'.toUInt8 || b == '~'.toUInt8

def urlencodingSimple (s : String) : String :=
  String.ofList (Percent.encode isUnreserved (utf8Bytes s))

def longPollUrl (baseUrl transactionId : String) (timeoutSecs : UInt64) : String :=
  baseUrl ++ "/transactions?id=" ++ urlencodingSimple transactionId ++
    "&long_poll_timeout=" ++ toString timeoutSecs

def pollUrl (baseUrl transactionId : String) : String :=
  baseUrl ++ "/transaction?id=" ++ urlencodingSimple transactionId

theorem isUnreserved_spec (b : UInt8) (unreserved : isUnreserved b = true) :
    b.toNat < 128 ∧ b ≠ 37 ∧ Percent.Unreserved (Char.ofNat b.toNat) := by
  have all : ∀ code < 256, isUnreserved (UInt8.ofNat code) = true →
      code < 128 ∧ code ≠ 37 ∧ Percent.Unreserved (Char.ofNat code) := by
    decide +kernel
  have same : UInt8.ofNat b.toNat = b := UInt8.ofNat_toNat
  obtain ⟨ascii, notPercent, plain⟩ := all b.toNat b.toNat_lt (by rw [same]; exact unreserved)
  refine ⟨ascii, ?_, plain⟩
  rintro rfl
  exact notPercent rfl

theorem urlencodingSimple_encoded (s : String) :
    Percent.Encoded (urlencodingSimple s).toList := by
  rw [urlencodingSimple, String.toList_ofList]
  exact Percent.encode_encoded (fun b kept => (isUnreserved_spec b kept).2.2) _

theorem decode_urlencodingSimple (s : String) :
    Percent.decode (utf8Bytes (urlencodingSimple s)) = utf8Bytes s :=
  Percent.decode_encode
    (fun b kept => ⟨(isUnreserved_spec b kept).1, (isUnreserved_spec b kept).2.1⟩) _

theorem urlencodingSimple_injective : Function.Injective urlencodingSimple := by
  intro first second same
  refine Ascii.utf8Bytes_injective ?_
  rw [← decode_urlencodingSimple first, ← decode_urlencodingSimple second, same]

/-- The id is part of the value of one parameter, or of the fragment of the URL. -/
def ConfinesId (url : String → String) : Prop :=
  (∃ before name lead after, ∀ transactionId,
    Percent.parameters (url transactionId).toList =
      before ++ (name, lead ++ (urlencodingSimple transactionId).toList) :: after) ∨
    ∀ transactionId other, Percent.parameters (url transactionId).toList =
      Percent.parameters (url other).toList

theorem confinesId_of_toList {url : String → String} (baseUrl path back : List Char)
    (written : ∀ transactionId, (url transactionId).toList =
      baseUrl ++ path ++ '=' :: ((urlencodingSimple transactionId).toList ++ back))
    (asks : '?' ∈ path) (noFragment : '#' ∉ path)
    (ends : back = [] ∨ ∃ rest, back = '&' :: rest) : ConfinesId url := by
  by_cases fragment : '#' ∈ baseUrl
  · refine .inr ?_
    intro transactionId other
    rw [written, written, List.append_assoc, List.append_assoc,
      Percent.parameters_of_fragment fragment, Percent.parameters_of_fragment fragment]
  · refine .inl ?_
    obtain ⟨before, name, lead, after, value⟩ := Percent.parameters_of_value
      (List.mem_append_right baseUrl asks)
      (by rw [List.mem_append, not_or]; exact ⟨fragment, noFragment⟩) ends
    refine ⟨before, name, lead, after, ?_⟩
    intro transactionId
    have encoded := urlencodingSimple_encoded transactionId
    rw [written]
    exact value _ (encoded.not_mem (by decide)) (encoded.not_mem (by decide))

theorem longPollUrl_confinesId (baseUrl : String) (timeoutSecs : UInt64) :
    ConfinesId (longPollUrl baseUrl · timeoutSecs) := by
  refine confinesId_of_toList baseUrl.toList "/transactions?id".toList
    ("&long_poll_timeout=".toList ++ (toString timeoutSecs).toList) ?_ ?_ ?_ ?_
  · intro transactionId
    simp [longPollUrl]
  · decide
  · decide
  · exact .inr ⟨_, rfl⟩

theorem pollUrl_confinesId (baseUrl : String) : ConfinesId (pollUrl baseUrl) := by
  refine confinesId_of_toList baseUrl.toList "/transaction?id".toList [] ?_ ?_ ?_ (.inl rfl)
  · intro transactionId
    simp [pollUrl]
  · decide
  · decide

theorem not_mem_toString (number : UInt64) {c : Char} (noDigit : c.isDigit = false) :
    c ∉ (toString number).toList := by
  intro member
  have digit : c.isDigit = true := by
    have digits : (toString number).toList = Nat.toDigits 10 number.toNat :=
      String.toList_ofList
    rw [digits] at member
    exact Nat.isDigit_of_mem_toDigits (by decide) (Nat.le_refl 10) member
  rw [digit] at noDigit
  cases noDigit

section PlainBase

variable {baseUrl : String} (unasked : '?' ∉ baseUrl.toList) (noFragment : '#' ∉ baseUrl.toList)

include unasked noFragment

theorem parameters_longPollUrl (transactionId : String) (timeoutSecs : UInt64) :
    Percent.parameters (longPollUrl baseUrl transactionId timeoutSecs).toList =
      [("id".toList, (urlencodingSimple transactionId).toList),
        ("long_poll_timeout".toList, (toString timeoutSecs).toList)] := by
  have encoded := urlencodingSimple_encoded transactionId
  have written : (longPollUrl baseUrl transactionId timeoutSecs).toList =
      (baseUrl.toList ++ "/transactions".toList) ++ '?' ::
        ("id=".toList ++ (urlencodingSimple transactionId).toList ++
          '&' :: ("long_poll_timeout=".toList ++ (toString timeoutSecs).toList)) := by
    simp [longPollUrl]
  rw [written, Percent.parameters_append, List.splitOnP_append_cons _ _ (by decide),
    Percent.splitOnP_of_not_mem, Percent.splitOnP_of_not_mem]
  · rfl
  · simp [not_mem_toString timeoutSecs (show '&'.isDigit = false from rfl)]
  · simp [encoded.not_mem (show '&' ∈ Percent.delimiters by decide)]
  · simp [unasked]
  · simp [noFragment]
  · simp [encoded.not_mem (show '#' ∈ Percent.delimiters by decide),
      not_mem_toString timeoutSecs (show '#'.isDigit = false from rfl)]

theorem parameters_pollUrl (transactionId : String) :
    Percent.parameters (pollUrl baseUrl transactionId).toList =
      [("id".toList, (urlencodingSimple transactionId).toList)] := by
  have encoded := urlencodingSimple_encoded transactionId
  have written : (pollUrl baseUrl transactionId).toList =
      (baseUrl.toList ++ "/transaction".toList) ++ '?' ::
        ("id=".toList ++ (urlencodingSimple transactionId).toList) := by
    simp [pollUrl]
  rw [written, Percent.parameters_append, Percent.splitOnP_of_not_mem]
  · rfl
  · simp [encoded.not_mem (show '&' ∈ Percent.delimiters by decide)]
  · simp [unasked]
  · simp [noFragment]
  · simp [encoded.not_mem (show '#' ∈ Percent.delimiters by decide)]

end PlainBase

/-- Ids are encoded without loss, and the id of a URL changes no parameter but its own. -/
theorem transaction_id_encoding_inert :
    (∀ s, Percent.Encoded (urlencodingSimple s).toList ∧
      Percent.decode (utf8Bytes (urlencodingSimple s)) = utf8Bytes s) ∧
      Function.Injective urlencodingSimple ∧
      (∀ baseUrl timeoutSecs, ConfinesId (longPollUrl baseUrl · timeoutSecs)) ∧
      (∀ baseUrl, ConfinesId (pollUrl baseUrl)) ∧
      ∀ baseUrl : String, '?' ∉ baseUrl.toList → '#' ∉ baseUrl.toList →
        ∀ transactionId timeoutSecs,
          Percent.parameters (longPollUrl baseUrl transactionId timeoutSecs).toList =
              [("id".toList, (urlencodingSimple transactionId).toList),
                ("long_poll_timeout".toList, (toString timeoutSecs).toList)] ∧
            Percent.parameters (pollUrl baseUrl transactionId).toList =
              [("id".toList, (urlencodingSimple transactionId).toList)] := by
  refine ⟨fun s => ⟨urlencodingSimple_encoded s, decode_urlencodingSimple s⟩,
    urlencodingSimple_injective, longPollUrl_confinesId, pollUrl_confinesId, ?_⟩
  intro baseUrl unasked noFragment transactionId timeoutSecs
  exact ⟨parameters_longPollUrl unasked noFragment transactionId timeoutSecs,
    parameters_pollUrl unasked noFragment transactionId⟩

/-- An id that tries to set a second parameter. -/
theorem intrusive_id_is_inert :
    urlencodingSimple "7&id=8#" = "7%26id%3D8%23" ∧
      Percent.parameters (pollUrl "https://anchor.example" "7&id=8#").toList =
        [("id".toList, "7%26id%3D8%23".toList)] := by
  have encoded : urlencodingSimple "7&id=8#" = "7%26id%3D8%23" := by decide +kernel
  refine ⟨encoded, ?_⟩
  rw [← encoded]
  exact (transaction_id_encoding_inert.2.2.2.2 "https://anchor.example" (by decide) (by decide)
    "7&id=8#" 30).2

end AnchorKit.Cli.Watch
