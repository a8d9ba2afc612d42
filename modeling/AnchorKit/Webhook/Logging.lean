import AnchorKit.Base.Ascii
import AnchorKit.Base.JsonTree

/-!
# Redaction of logged requests, of `logging.rs`

`redact_body` and `redact_scalar_or_recurse` call each other: here the second is given
what the first makes of its value.  A map is the list of its entries in order, and
redaction keeps the keys, so that collecting the entries again changes nothing.  What
`serde_json` writes for the headers and the body is a parameter.

Against it stands what is to be hidden, leaf by leaf: `Covered` says it of a scalar
and the steps that lead to it.
-/

set_option autoImplicit false

namespace AnchorKit.Webhook

open AnchorKit.Base
open AnchorKit.Base.Ascii (toAsciiLowercase)
open AnchorKit.Base.JsonTree (Step KeepsScalars)

def redacted : String := "[REDACTED]"

def sensitiveHeaderNames : List String :=
  ["authorization", "cookie", "set-cookie", "x-api-key"]

def sensitiveKeyNames : List String :=
  ["authorization", "token", "access_token", "refresh_token", "api_key", "apikey",
    "secret", "password", "jwt", "client_secret"]

def isJwtShaped (s : String) : Bool :=
  let segments := s.toList.splitOn '.'
  segments.length == 3 && segments.all fun seg =>
    !seg.isEmpty && seg.all fun c => c.isAlphanum || c == '-' || c == '_'

def redactHeaders (headers : List (String × String)) : List (String × String) :=
  headers.map fun header =>
    (header.1,
      if sensitiveHeaderNames.contains (toAsciiLowercase header.1) || isJwtShaped header.2 then
        redacted
      else header.2)

variable {Num : Type}

/-- `recursed` is what `redact_body` makes of the value. -/
def redactScalarOrRecurse (value recursed : JsonTree Num) : JsonTree Num :=
  match value with
  | .object _ => recursed
  | .array _ => recursed
  | .null => .null
  | _ => .string redacted

mutual

def redactBody : JsonTree Num → JsonTree Num
  | .object members => .object (redactMembers members)
  | .array items => .array (redactItems items)
  | .string s => if isJwtShaped s then .string redacted else .string s
  | .null => .null
  | .bool value => .bool value
  | .number value => .number value

def redactMembers : List (String × JsonTree Num) → List (String × JsonTree Num)
  | [] => []
  | (key, value) :: rest =>
      (key,
        if sensitiveKeyNames.contains (toAsciiLowercase key) then
          redactScalarOrRecurse value (redactBody value)
        else redactBody value) :: redactMembers rest

def redactItems : List (JsonTree Num) → List (JsonTree Num)
  | [] => []
  | first :: rest => redactBody first :: redactItems rest

end

/-- What the crate takes from `serde_json`. -/
structure Serializer (Num : Type) where
  headersToString : List (String × String) → String
  bodyToString : JsonTree Num → String

structure LoggingConfig where
  redact : Bool

/-- `LoggingConfig::new`, and `without_redaction` to turn it off. -/
def LoggingConfig.default : LoggingConfig where
  redact := true

def LoggingConfig.withoutRedaction (config : LoggingConfig) : LoggingConfig :=
  { config with redact := false }

def requestLine (serializer : Serializer Num) (method url : String)
    (headers : List (String × String)) (body : JsonTree Num) : String :=
  "[webhook-sdk] request method=" ++ method ++ " url=" ++ url ++ " headers=" ++
    serializer.headersToString headers ++ " body=" ++ serializer.bodyToString body

def LoggingConfig.logRequest (serializer : Serializer Num) (config : LoggingConfig)
    (method url : String) (headers : List (String × String)) (body : JsonTree Num) : String :=
  if config.redact then
    requestLine serializer method url (redactHeaders headers) (redactBody body)
  else requestLine serializer method url headers body

/-! ## What is to be hidden -/

/-- A character of `[A-Za-z0-9_-]`. -/
def Base64UrlChar (c : Char) : Prop :=
  'A' ≤ c ∧ c ≤ 'Z' ∨ 'a' ≤ c ∧ c ≤ 'z' ∨ '0' ≤ c ∧ c ≤ '9' ∨ c = '_' ∨ c = '-'

structure JwtSegment (segment : List Char) : Prop where
  nonempty : segment ≠ []
  legal : ∀ c ∈ segment, Base64UrlChar c

/-- Three segments joined by dots. -/
def JwtShaped (text : String) : Prop :=
  ∃ header payload signature, JwtSegment header ∧ JwtSegment payload ∧ JwtSegment signature ∧
    text.toList = header ++ '.' :: payload ++ '.' :: signature

def SensitiveName (name : String) : Prop :=
  toAsciiLowercase name ∈ sensitiveKeyNames

/-- The scalars that are hidden, with the steps that lead to them, the last one
first. -/
inductive Covered : List Step → JsonTree Num → Prop
  | jwt (path : List Step) {text : String} (shaped : JwtShaped text) :
      Covered path (.string text)
  | stored {name : String} (above : List Step) {leaf : JsonTree Num}
      (sensitive : SensitiveName name) (scalar : leaf.isScalar = true)
      (present : leaf ≠ .null) : Covered (.key name :: above) leaf

theorem base64UrlChar_iff (c : Char) :
    (c.isAlphanum || c == '-' || c == '_') = true ↔ Base64UrlChar c := by
  have upper : c.isUpper = decide ('A' ≤ c ∧ c ≤ 'Z') := rfl
  have lower : c.isLower = (decide ('a' ≤ c) && decide (c ≤ 'z')) := rfl
  have digit : c.isDigit = (decide ('0' ≤ c) && decide (c ≤ '9')) := rfl
  have classes : c.isAlphanum = ((c.isUpper || c.isLower) || c.isDigit) := rfl
  simp only [classes, upper, lower, digit, Bool.or_eq_true, Bool.and_eq_true,
    decide_eq_true_eq, beq_iff_eq, Base64UrlChar]
  constructor
  · rintro ((((upper | lower) | digit) | dash) | underscore)
    · exact .inl upper
    · exact .inr (.inl lower)
    · exact .inr (.inr (.inl digit))
    · exact .inr (.inr (.inr (.inr dash)))
    · exact .inr (.inr (.inr (.inl underscore)))
  · rintro (upper | lower | digit | underscore | dash)
    · exact .inl (.inl (.inl (.inl upper)))
    · exact .inl (.inl (.inl (.inr lower)))
    · exact .inl (.inl (.inr digit))
    · exact .inr underscore
    · exact .inl (.inr dash)

theorem jwtSegment_iff (segment : List Char) :
    (!segment.isEmpty && segment.all fun c => c.isAlphanum || c == '-' || c == '_') = true ↔
      JwtSegment segment := by
  rw [Bool.and_eq_true, Bool.not_eq_true', List.isEmpty_eq_false_iff, List.all_eq_true]
  simp only [base64UrlChar_iff]
  exact ⟨fun ⟨nonempty, legal⟩ => ⟨nonempty, legal⟩,
    fun segment => ⟨segment.nonempty, segment.legal⟩⟩

theorem JwtSegment.no_dot {segment : List Char} (legal : JwtSegment segment) :
    '.' ∉ segment := by
  intro member
  have dot := legal.legal '.' member
  revert dot
  unfold Base64UrlChar
  decide

theorem isJwtShaped_iff (text : String) : isJwtShaped text = true ↔ JwtShaped text := by
  unfold isJwtShaped
  rw [Bool.and_eq_true, beq_iff_eq, List.all_eq_true]
  simp only [jwtSegment_iff]
  constructor
  · rintro ⟨three, legal⟩
    obtain ⟨header, payload, signature, split⟩ := List.length_eq_three.mp three
    rw [split] at legal
    have joined : ['.'].intercalate (text.toList.splitOn '.') = text.toList :=
      List.intercalate_splitOn '.'
    rw [split] at joined
    refine ⟨header, payload, signature, legal _ (by simp), legal _ (by simp),
      legal _ (by simp), ?_⟩
    rw [← joined]
    simp [List.intercalate]
  · rintro ⟨header, payload, signature, first, second, third, joined⟩
    have split : text.toList.splitOn '.' = [header, payload, signature] := by
      rw [joined, List.append_assoc, List.cons_append,
        List.splitOn_append_cons_self_of_not_mem first.no_dot,
        List.splitOn_append_cons_self_of_not_mem second.no_dot,
        List.splitOn_eq_singleton third.no_dot]
    rw [split]
    simp [first, second, third]

theorem redacted_not_jwtShaped : ¬ JwtShaped redacted := by
  rw [← isJwtShaped_iff]
  decide

instance (text : String) : Decidable (JwtShaped text) :=
  decidable_of_iff _ (isJwtShaped_iff text)

instance (name : String) : Decidable (SensitiveName name) :=
  inferInstanceAs (Decidable (toAsciiLowercase name ∈ sensitiveKeyNames))

def isPresent : JsonTree Num → Bool
  | .null => false
  | leaf => leaf.isScalar

theorem isPresent_iff (leaf : JsonTree Num) :
    isPresent leaf = true ↔ leaf.isScalar = true ∧ leaf ≠ .null := by
  cases leaf with
  | null => simp [isPresent]
  | _ => simp [isPresent]

/-- Whether a scalar is hidden for the step that leads to it. -/
def storedSensitively (path : List Step) (leaf : JsonTree Num) : Bool :=
  match path with
  | .key name :: _ => decide (SensitiveName name) && isPresent leaf
  | _ => false

def covers (path : List Step) (leaf : JsonTree Num) : Bool :=
  storedSensitively path leaf ||
    match leaf with
    | .string text => isJwtShaped text
    | _ => false

theorem storedSensitively_iff (path : List Step) (leaf : JsonTree Num) :
    storedSensitively path leaf = true ↔ ∃ name above, path = .key name :: above ∧
      SensitiveName name ∧ leaf.isScalar = true ∧ leaf ≠ .null := by
  unfold storedSensitively
  split
  · rename_i name above
    rw [Bool.and_eq_true, decide_eq_true_eq, isPresent_iff]
    constructor
    · intro hidden
      exact ⟨name, above, rfl, hidden⟩
    · rintro ⟨other, below, same, hidden⟩
      cases same
      exact hidden
  · rename_i elsewhere
    constructor
    · exact nofun
    · rintro ⟨name, above, same, _⟩
      exact absurd same (elsewhere name above)

theorem covers_iff (path : List Step) (leaf : JsonTree Num) :
    covers path leaf = true ↔ Covered path leaf := by
  unfold covers
  rw [Bool.or_eq_true, storedSensitively_iff]
  constructor
  · rintro (⟨name, above, same, sensitive, scalar, present⟩ | shaped)
    · rw [same]
      exact .stored above sensitive scalar present
    · split at shaped
      · exact .jwt path ((isJwtShaped_iff _).mp shaped)
      · cases shaped
  · intro covered
    cases covered with
    | jwt path shaped => exact .inr ((isJwtShaped_iff _).mpr shaped)
    | stored above sensitive scalar present =>
        exact .inl ⟨_, above, rfl, sensitive, scalar, present⟩

instance (path : List Step) (leaf : JsonTree Num) : Decidable (Covered path leaf) :=
  decidable_of_iff _ (covers_iff path leaf)

/-! ## Redaction hides exactly what is covered -/

def hide (path : List Step) (leaf : JsonTree Num) : JsonTree Num :=
  if Covered path leaf then .string redacted else leaf

theorem hide_keepsScalars :
    KeepsScalars (hide : List Step → JsonTree Num → JsonTree Num) := by
  intro path leaf scalar
  unfold hide
  split
  · rfl
  · exact scalar

theorem hide_hide (path : List Step) (leaf : JsonTree Num) :
    hide path (hide path leaf) = hide path leaf := by
  by_cases covered : Covered path leaf
  · simp [hide, covered]
  · simp [hide, covered]

theorem hide_not_jwtShaped {path : List Step} {leaf : JsonTree Num} {text : String}
    (hidden : hide path leaf = .string text) : ¬ JwtShaped text := by
  unfold hide at hidden
  split at hidden
  · cases hidden
    exact redacted_not_jwtShaped
  · rename_i bare
    rw [hidden] at bare
    intro shaped
    exact bare (.jwt path shaped)

def redactUnder (path : List Step) (value : JsonTree Num) : JsonTree Num :=
  match path with
  | .key name :: _ =>
      if SensitiveName name then redactScalarOrRecurse value (redactBody value)
      else redactBody value
  | _ => redactBody value

theorem redactUnder_array (path : List Step) (items : List (JsonTree Num)) :
    redactUnder path (.array items) = .array (redactItems items) := by
  unfold redactUnder
  split
  · split
    · rfl
    · rfl
  · rfl

theorem redactUnder_object (path : List Step) (members : List (String × JsonTree Num)) :
    redactUnder path (.object members) = .object (redactMembers members) := by
  unfold redactUnder
  split
  · split
    · rfl
    · rfl
  · rfl

theorem redactMembers_cons (name : String) (value : JsonTree Num)
    (rest : List (String × JsonTree Num)) (above : List Step) :
    redactMembers ((name, value) :: rest) =
      (name, redactUnder (.key name :: above) value) :: redactMembers rest := by
  by_cases sensitive : SensitiveName name
  · rw [redactMembers, if_pos (List.contains_iff_mem.mpr sensitive), redactUnder,
      if_pos sensitive]
  · rw [redactMembers, if_neg (mt List.contains_iff_mem.mp sensitive), redactUnder,
      if_neg sensitive]

theorem hide_of_covers {path : List Step} {leaf : JsonTree Num}
    (covered : covers path leaf = true) : hide path leaf = .string redacted :=
  if_pos ((covers_iff path leaf).mp covered)

theorem hide_of_not_covers {path : List Step} {leaf : JsonTree Num}
    (bare : covers path leaf = false) : hide path leaf = leaf :=
  if_neg fun covered => by simp [(covers_iff path leaf).mpr covered] at bare

theorem redactUnder_scalar (path : List Step) {leaf : JsonTree Num}
    (scalar : leaf.isScalar = true) : redactUnder path leaf = hide path leaf := by
  cases stored : storedSensitively path leaf with
  | true =>
      rw [hide_of_covers (by simp [covers, stored])]
      obtain ⟨name, above, same, sensitive, _, present⟩ :=
        (storedSensitively_iff path leaf).mp stored
      rw [same, redactUnder, if_pos sensitive]
      cases leaf with
      | null => exact absurd rfl present
      | array items => cases scalar
      | object members => cases scalar
      | _ => rfl
  | false =>
      have body : redactUnder path leaf = redactBody leaf := by
        unfold redactUnder
        split
        · split
          · rename_i name above sensitive
            -- only `null` is not hidden under a sensitive name
            have absent : isPresent leaf = false := by
              simpa [storedSensitively, sensitive] using stored
            cases leaf with
            | null => rfl
            | array items => cases scalar
            | object members => cases scalar
            | _ => cases absent
          · rfl
        · rfl
      rw [body]
      cases leaf with
      | string text =>
          cases shaped : isJwtShaped text with
          | true => rw [hide_of_covers (by simp [covers, shaped]), redactBody, if_pos shaped]
          | false =>
              rw [hide_of_not_covers (by simp [covers, stored, shaped]), redactBody, shaped]
              rfl
      | array items => cases scalar
      | object members => cases scalar
      | _ =>
          rw [hide_of_not_covers (by simp [covers, stored])]
          rfl

theorem redactUnder_eq_mapLeaves (value : JsonTree Num) :
    ∀ path, redactUnder path value = value.mapLeaves hide path := by
  induction value using JsonTree.induct with
  | scalar leaf scalar =>
      intro path
      rw [redactUnder_scalar path scalar, JsonTree.mapLeaves_of_isScalar hide scalar]
  | array items ih =>
      intro path
      rw [redactUnder_array, JsonTree.mapLeaves]
      generalize 0 = position
      congr 1
      induction items generalizing position with
      | nil => rfl
      | cons first rest rest_ih =>
          rw [redactItems, JsonTree.mapItems, ← ih first List.mem_cons_self,
            rest_ih (fun item member => ih item (List.mem_cons_of_mem _ member))]
          rfl
  | object members ih =>
      intro path
      rw [redactUnder_object, JsonTree.mapLeaves]
      congr 1
      induction members with
      | nil => rfl
      | cons first rest rest_ih =>
          rw [redactMembers_cons first.1 first.2 rest path, JsonTree.mapMembers,
            ← ih first List.mem_cons_self,
            rest_ih (fun member found => ih member (List.mem_cons_of_mem _ found))]

theorem redactBody_eq_mapLeaves (value : JsonTree Num) :
    redactBody value = value.mapLeaves hide [] :=
  redactUnder_eq_mapLeaves value []

theorem leaves_redactBody (value : JsonTree Num) :
    (redactBody value).leaves [] =
      (value.leaves []).map fun leaf => (leaf.1, hide leaf.1 leaf.2) := by
  rw [redactBody_eq_mapLeaves, JsonTree.leaves_mapLeaves hide_keepsScalars]

theorem shape_redactBody (value : JsonTree Num) : (redactBody value).shape = value.shape := by
  rw [redactBody_eq_mapLeaves, JsonTree.shape_mapLeaves hide_keepsScalars]

/-- Redaction keeps the shape of every value and replaces exactly the leaves that are
covered.  Nothing in the result looks like a token, and redacting again changes
nothing. -/
theorem redact_body_exact (value : JsonTree Num) :
    (redactBody value).shape = value.shape ∧
      (redactBody value).leaves [] = (value.leaves []).map (fun leaf =>
        (leaf.1, if Covered leaf.1 leaf.2 then .string "[REDACTED]" else leaf.2)) ∧
      (∀ leaf ∈ (redactBody value).leaves [], ∀ text, leaf.2 = .string text →
        ¬ JwtShaped text) ∧
      redactBody (redactBody value) = redactBody value := by
  refine ⟨shape_redactBody value, leaves_redactBody value, ?_, ?_⟩
  · intro leaf member text found
    rw [leaves_redactBody, List.mem_map] at member
    obtain ⟨before, _, same⟩ := member
    rw [← same] at found
    exact hide_not_jwtShaped found
  · rw [redactBody_eq_mapLeaves, redactBody_eq_mapLeaves,
      JsonTree.mapLeaves_mapLeaves hide_keepsScalars]
    simp only [hide_hide]

/-! ## What reaches the log -/

/-- The same scalar, or one that is hidden in both bodies: both stand directly under
one sensitive name, or both look like a token. -/
inductive Concealed : List Step × JsonTree Num → List Step × JsonTree Num → Prop
  | same (leaf : List Step × JsonTree Num) : Concealed leaf leaf
  | stored {name : String} (above : List Step) {left right : JsonTree Num}
      (sensitive : SensitiveName name) (leftScalar : left.isScalar = true)
      (rightScalar : right.isScalar = true) (agree : left = .null ↔ right = .null) :
      Concealed (.key name :: above, left) (.key name :: above, right)
  | jwt (path : List Step) {left right : String} (leftShaped : JwtShaped left)
      (rightShaped : JwtShaped right) :
      Concealed (path, .string left) (path, .string right)

theorem Concealed.hide_eq {left right : List Step × JsonTree Num}
    (concealed : Concealed left right) :
    (left.1, hide left.1 left.2) = (right.1, hide right.1 right.2) := by
  cases concealed with
  | same leaf => rfl
  | jwt path leftShaped rightShaped =>
      simp only [hide]
      rw [if_pos (.jwt path leftShaped), if_pos (.jwt path rightShaped)]
  | @stored name above left right sensitive leftScalar rightScalar agree =>
      by_cases absent : left = .null
      · rw [absent, agree.mp absent]
      · have present : right ≠ .null := fun other => absent (agree.mpr other)
        simp only [hide]
        rw [if_pos (.stored above sensitive leftScalar absent),
          if_pos (.stored above sensitive rightScalar present)]

theorem map_hide_eq {lefts rights : List (List Step × JsonTree Num)}
    (concealed : List.Forall₂ Concealed lefts rights) :
    (lefts.map fun leaf => (leaf.1, hide leaf.1 leaf.2)) =
      rights.map fun leaf => (leaf.1, hide leaf.1 leaf.2) := by
  induction concealed with
  | nil => rfl
  | cons first _ ih => rw [List.map_cons, List.map_cons, first.hide_eq, ih]

theorem redactBody_eq_of_concealed {left right : JsonTree Num}
    (alike : left.shape = right.shape)
    (concealed : List.Forall₂ Concealed (left.leaves []) (right.leaves [])) :
    redactBody left = redactBody right := by
  apply JsonTree.eq_of_shape_of_leaves
  · rw [shape_redactBody, shape_redactBody, alike]
  · rw [leaves_redactBody, leaves_redactBody, map_hide_eq concealed]

/-- With redaction on, two bodies that differ only in scalars that are hidden in both
are logged alike. -/
theorem concealed_scalars_never_logged (serializer : Serializer Num) (config : LoggingConfig)
    (method url : String) (headers : List (String × String)) (left right : JsonTree Num)
    (redacting : config.redact = true) (alike : left.shape = right.shape)
    (concealed : List.Forall₂ Concealed (left.leaves []) (right.leaves [])) :
    config.logRequest serializer method url headers left =
      config.logRequest serializer method url headers right := by
  rw [LoggingConfig.logRequest, LoggingConfig.logRequest, if_pos redacting, if_pos redacting,
    redactBody_eq_of_concealed alike concealed]

section Sample

mutual

/-- The text of values whose strings need no escapes. -/
def compactText : JsonTree Nat → String
  | .null => "null"
  | .bool value => if value then "true" else "false"
  | .number value => ToString.toString value
  | .string text => "\"" ++ text ++ "\""
  | .array items => "[" ++ String.intercalate "," (itemTexts items) ++ "]"
  | .object members => "\x7b" ++ String.intercalate "," (memberTexts members) ++ "\x7d"

def itemTexts : List (JsonTree Nat) → List String
  | [] => []
  | first :: rest => compactText first :: itemTexts rest

def memberTexts : List (String × JsonTree Nat) → List String
  | [] => []
  | (name, value) :: rest => ("\"" ++ name ++ "\":" ++ compactText value) :: memberTexts rest

end

def compactSerializer : Serializer Nat where
  headersToString := fun headers =>
    compactText (.object (headers.map fun header => (header.1, .string header.2)))
  bodyToString := compactText

def login (password token : String) : JsonTree Nat :=
  .object [("event", .string "login"), ("Password", .string password),
    ("notes", .array [.string token, .null])]

def secretList (secret : String) : JsonTree Nat :=
  .object [("secret", .array [.string secret])]

end Sample

/-- The same scalar, or scalars anywhere beneath one sensitive name. -/
inductive Beneath : List Step × JsonTree Num → List Step × JsonTree Num → Prop
  | same (leaf : List Step × JsonTree Num) : Beneath leaf leaf
  | below {path : List Step} {name : String} {left right : JsonTree Num}
      (member : .key name ∈ path) (sensitive : SensitiveName name)
      (agree : left = .null ↔ right = .null) : Beneath (path, left) (path, right)

theorem logins_logged_alike :
    (login "hunter2" "a.b.c").leaves [] ≠ (login "swordfish" "d.e.f").leaves [] ∧
      LoggingConfig.default.logRequest compactSerializer "POST" "https://a.example" []
          (login "hunter2" "a.b.c") =
        LoggingConfig.default.logRequest compactSerializer "POST" "https://a.example" []
          (login "swordfish" "d.e.f") := by
  refine ⟨by simp [login, JsonTree.leaves, JsonTree.memberLeaves, JsonTree.itemLeaves],
    concealed_scalars_never_logged compactSerializer .default "POST" "https://a.example" []
      (login "hunter2" "a.b.c") (login "swordfish" "d.e.f") rfl rfl ?_⟩
  refine .cons (.same _) (.cons ?_ (.cons ?_ (.cons (.same _) .nil)))
  · exact .stored [] (by decide) rfl rfl (by simp)
  · exact .jwt _ (by decide) (by decide)

/-- A secret in a list under a sensitive name is written to the log. -/
theorem listed_secret_is_logged :
    (secretList "hunter2").shape = (secretList "swordfish").shape ∧
      List.Forall₂ Beneath ((secretList "hunter2").leaves [])
        ((secretList "swordfish").leaves []) ∧
      LoggingConfig.default.logRequest compactSerializer "POST" "https://a.example" []
          (secretList "hunter2") ≠
        LoggingConfig.default.logRequest compactSerializer "POST" "https://a.example" []
          (secretList "swordfish") := by
  refine ⟨rfl, ?_, by decide⟩
  have sensitive : SensitiveName "secret" := by decide
  refine .cons (.below ?_ sensitive (by simp)) .nil
  simp

end AnchorKit.Webhook
