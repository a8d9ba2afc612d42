import AnchorKit.Base.Ascii
import AnchorKit.Base.JsonTree
import AnchorKit.Base.Pattern
import Mathlib.Data.List.TakeWhile

/-!
# Secret redaction of the developer panel

`redactSecrets` replaces what stands under a sensitive key and rewrites every other string
by two regular expressions.  `toLowerCase` and `JSON.stringify` belong to the language and
are parameters.  A payload is a JSON value whose objects have each key once; a leaf that is
neither a string nor a boolean nor `null` is a number here, whatever it is.  A character
outside the basic plane is one character, where the language has two code units: no regular
expression of the module tells the difference.
-/

set_option autoImplicit false

namespace AnchorKit.DevPanel

open AnchorKit.Base AnchorKit.Base.Ascii

variable {Num : Type}

structure Payload (Num : Type) where
  value : JsonTree Num
  distinctKeys : value.DistinctKeys

/-! ## Strings -/

/-- `\w`. -/
def isWordChar (c : Char) : Bool :=
  c.isAlphanum || c == '_'

/-- `\b`. -/
def isBoundary (before after : Option Char) : Bool :=
  before.any isWordChar != after.any isWordChar

/-- `[A-Z0-9]`. -/
def isKeyChar (c : Char) : Bool :=
  c.isUpper || c.isDigit

/-- `\bSB[A-Z0-9]{54}\b`. -/
def findPrivateKey (before : Option Char) (text : List Char) : Option Nat :=
  if isBoundary before text.head? && (text.take 2 == ['S', 'B']) &&
      (((text.drop 2).take 54).length == 54 && ((text.drop 2).take 54).all isKeyChar) &&
      isBoundary (text.take 56).getLast? (text.drop 56).head? then
    some 56
  else none

/-- `\s`, by code points. -/
def isSpace (c : Char) : Bool :=
  [0x9, 0xA, 0xB, 0xC, 0xD, 0x20, 0xA0, 0x1680, 0x2028, 0x2029, 0x202F, 0x205F, 0x3000,
    0xFEFF].contains c.toNat ||
  (decide (0x2000 ≤ c.toNat) && decide (c.toNat ≤ 0x200A))

/-- `[A-Za-z0-9\-_.~+/]`. -/
def isTokenChar (c : Char) : Bool :=
  c.isAlphanum || ['-', '_', '.', '~', '+', '/'].contains c

/-- `bearer\s+[A-Za-z0-9\-_.~+/]+=*`, in any case.  No character is both a space and one of a
token, so that each repetition takes all it can. -/
def findBearer (text : List Char) : Option Nat :=
  let spaces := (text.drop 6).takeWhile isSpace
  let afterSpaces := (text.drop 6).dropWhile isSpace
  let token := afterSpaces.takeWhile isTokenChar
  let padding := (afterSpaces.dropWhile isTokenChar).takeWhile (· == '=')
  if ((text.take 6).map Char.toLower == ['b', 'e', 'a', 'r', 'e', 'r']) && !spaces.isEmpty &&
      !token.isEmpty then
    some (6 + spaces.length + token.length + padding.length)
  else none

theorem findPrivateKey_fits {before : Option Char} {text : List Char} {length : Nat}
    (found : findPrivateKey before text = some length) :
    0 < length ∧ length ≤ text.length := by
  unfold findPrivateKey at found
  split at found
  next holds =>
    simp only [Bool.and_eq_true, beq_iff_eq, List.length_take, List.length_drop] at holds
    cases found
    omega
  next => cases found

structure BearerParts (lead spaces token padding rest : List Char) : Prop where
  named : lead.map Char.toLower = ['b', 'e', 'a', 'r', 'e', 'r']
  spaced : spaces ≠ []
  isSpace : ∀ c ∈ spaces, isSpace c = true
  isTokenChar : ∀ c ∈ token, isTokenChar c = true
  padded : ∀ c ∈ padding, c = '='
  longest : padding = [] → ∀ c ∈ rest.head?, DevPanel.isTokenChar c = false

theorem findBearer_parts {text : List Char} {length : Nat}
    (found : findBearer text = some length) :
    ∃ lead spaces token padding rest, text = lead ++ spaces ++ token ++ padding ++ rest ∧
      length = (lead ++ spaces ++ token ++ padding).length ∧
      BearerParts lead spaces token padding rest := by
  unfold findBearer at found
  dsimp only at found
  split at found
  next holds =>
    simp only [Bool.and_eq_true, beq_iff_eq, Bool.not_eq_true', List.isEmpty_eq_false_iff]
      at holds
    obtain ⟨⟨named, spaced⟩, -⟩ := holds
    have six : (text.take 6).length = 6 := by
      rw [← List.length_map Char.toLower, named]
      rfl
    generalize afterToken : ((text.drop 6).dropWhile isSpace).dropWhile isTokenChar = back
      at found
    have whole := List.takeWhile_append_dropWhile (p := (· == '=')) (l := back)
    refine ⟨text.take 6, (text.drop 6).takeWhile isSpace,
      ((text.drop 6).dropWhile isSpace).takeWhile isTokenChar,
      back.takeWhile (· == '='), back.dropWhile (· == '='), ?_, ?_, named, spaced,
      fun c => List.mem_takeWhile_imp, fun c => List.mem_takeWhile_imp, ?_, ?_⟩
    · rw [List.append_assoc, whole, ← afterToken, List.append_assoc,
        List.takeWhile_append_dropWhile, List.append_assoc, List.takeWhile_append_dropWhile,
        List.take_append_drop]
    · cases found
      simp only [List.length_append, six]
    · intro c member
      have padding := List.mem_takeWhile_imp member
      exact beq_iff_eq.1 padding
    · intro unpadded c head
      have stops := List.head?_dropWhile_not isTokenChar ((text.drop 6).dropWhile isSpace)
      rw [unpadded, List.nil_append] at whole
      rw [whole, ← afterToken, Option.mem_def] at head
      rwa [head] at stops
  next => cases found

theorem findBearer_fits {text : List Char} {length : Nat}
    (found : findBearer text = some length) : 0 < length ∧ length ≤ text.length := by
  obtain ⟨lead, spaces, token, padding, rest, rfl, rfl, parts⟩ := findBearer_parts found
  have positive := List.length_pos_of_ne_nil parts.spaced
  simp only [List.length_append]
  omega

def privateKeys : Pattern Char where
  find := findPrivateKey
  fits := findPrivateKey_fits

def bearerTokens : Pattern Char where
  find _ := findBearer
  fits := findBearer_fits

def redactedPrivateKey : List Char := "[REDACTED_PRIVATE_KEY]".toList
def redactedToken : List Char := "bearer [REDACTED_TOKEN]".toList

def redactString (str : String) : String :=
  String.ofList (bearerTokens.replace redactedToken
    (privateKeys.replace redactedPrivateKey str.toList))

/-! ## Values -/

def sensitiveKeys : List String :=
  ["secret", "password", "token", "authorization", "x-auth-token", "x-api-key", "api_key",
    "private_key", "private", "seed", "signing_key", "access_token", "refresh_token"]

/-- `text.includes(part)`. -/
def includes (text part : String) : Bool :=
  text.toList.tails.any fun rest => part.toList.isPrefixOf rest

section Redaction

variable (toLowerCase : String → String)

def isSensitiveKey (key : String) : Bool :=
  let lowerKey := toLowerCase key
  sensitiveKeys.any fun sensKey => includes lowerKey sensKey

/-- `object[key] = value`.  An assignment to `__proto__` may set the prototype and adds no
member. -/
def assign (key : String) (value : JsonTree Num) (object : List (String × JsonTree Num)) :
    List (String × JsonTree Num) :=
  if key = "__proto__" then object
  else if key ∈ object.map Prod.fst then
    object.map fun member => if member.1 = key then (key, value) else member
  else object ++ [(key, value)]

mutual

def redactSecrets : JsonTree Num → JsonTree Num
  | .null => .null
  | .string text => .string (redactString text)
  | .array items => .array (redactItems items)
  | .object members => .object (redactEntries [] members)
  | .bool value => .bool value
  | .number value => .number value

def redactItems : List (JsonTree Num) → List (JsonTree Num)
  | [] => []
  | first :: rest => redactSecrets first :: redactItems rest

/-- The loop over the entries, with the object that it has built so far. -/
def redactEntries (redacted : List (String × JsonTree Num)) :
    List (String × JsonTree Num) → List (String × JsonTree Num)
  | [] => redacted
  | (key, value) :: rest =>
      redactEntries
        (assign key
          (if isSensitiveKey toLowerCase key then .string "[REDACTED]" else redactSecrets value)
          redacted)
        rest

end

def redactedJSON (stringify : JsonTree Num → String) (obj : JsonTree Num) : String :=
  stringify (redactSecrets toLowerCase obj)

theorem redactItems_eq (items : List (JsonTree Num)) :
    redactItems toLowerCase items = items.map (redactSecrets toLowerCase) := by
  induction items with
  | nil => rfl
  | cons first rest ofRest => rw [redactItems, ofRest, List.map_cons]

def redactEntry (entry : String × JsonTree Num) : String × JsonTree Num :=
  (entry.1,
    if isSensitiveKey toLowerCase entry.1 then .string "[REDACTED]"
    else redactSecrets toLowerCase entry.2)

theorem redactEntries_cons (redacted : List (String × JsonTree Num))
    (entry : String × JsonTree Num) (rest : List (String × JsonTree Num)) :
    redactEntries toLowerCase redacted (entry :: rest) =
      redactEntries toLowerCase
        (assign entry.1 (redactEntry toLowerCase entry).2 redacted) rest :=
  rfl

/-- The keys differ, so that each assignment adds a member, but for `__proto__`. -/
theorem redactEntries_eq (redacted entries : List (String × JsonTree Num))
    (distinct : ((redacted ++ entries).map Prod.fst).Nodup) :
    redactEntries toLowerCase redacted entries =
      redacted ++
        (entries.filter (·.1 ≠ "__proto__")).map (redactEntry toLowerCase) := by
  induction entries generalizing redacted with
  | nil => simp [redactEntries]
  | cons entry rest ofRest =>
      rw [redactEntries_cons]
      by_cases proto : entry.1 = "__proto__"
      · have fewer : ((redacted ++ rest).map Prod.fst).Nodup :=
          distinct.sublist (by simp)
        rw [assign, if_pos proto, ofRest redacted fewer, List.filter_cons, if_neg (by simp [proto])]
      · have absent : entry.1 ∉ redacted.map Prod.fst := by
          intro present
          rw [List.map_append, List.nodup_append] at distinct
          exact distinct.2.2 _ present _ (by simp) rfl
        have moved :
            ((redacted ++ [redactEntry toLowerCase entry] ++ rest).map Prod.fst).Nodup := by
          simpa [redactEntry] using distinct
        rw [assign, if_neg proto, if_neg absent, List.filter_cons, if_pos (by simp [proto]),
          List.map_cons]
        have grown := ofRest (redacted ++ [redactEntry toLowerCase entry]) moved
        rw [List.append_assoc, List.singleton_append] at grown
        exact grown

/-! ## What a reader of the output learns -/

mutual

/-- Two values with the same keys and array lengths, but for what stands under hidden keys,
and with related leaves. -/
inductive Corresponds (hidden : String → Bool) (leaves : JsonTree Num → JsonTree Num → Prop) :
    JsonTree Num → JsonTree Num → Prop
  | scalar {left right : JsonTree Num} (ofLeft : left.isScalar = true)
      (ofRight : right.isScalar = true) (related : leaves left right) :
      Corresponds hidden leaves left right
  | array {lefts rights : List (JsonTree Num)}
      (items : ItemsCorrespond hidden leaves lefts rights) :
      Corresponds hidden leaves (.array lefts) (.array rights)
  | object {lefts rights : List (String × JsonTree Num)}
      (members : MembersCorrespond hidden leaves lefts rights) :
      Corresponds hidden leaves (.object lefts) (.object rights)

inductive ItemsCorrespond (hidden : String → Bool)
    (leaves : JsonTree Num → JsonTree Num → Prop) :
    List (JsonTree Num) → List (JsonTree Num) → Prop
  | nil : ItemsCorrespond hidden leaves [] []
  | cons {left right : JsonTree Num} {lefts rights : List (JsonTree Num)}
      (first : Corresponds hidden leaves left right)
      (rest : ItemsCorrespond hidden leaves lefts rights) :
      ItemsCorrespond hidden leaves (left :: lefts) (right :: rights)

inductive MembersCorrespond (hidden : String → Bool)
    (leaves : JsonTree Num → JsonTree Num → Prop) :
    List (String × JsonTree Num) → List (String × JsonTree Num) → Prop
  | nil : MembersCorrespond hidden leaves [] []
  | hidden {key : String} {left right : JsonTree Num} {lefts rights : List (String × JsonTree Num)}
      (first : hidden key = true) (rest : MembersCorrespond hidden leaves lefts rights) :
      MembersCorrespond hidden leaves ((key, left) :: lefts) ((key, right) :: rights)
  | shown {key : String} {left right : JsonTree Num} {lefts rights : List (String × JsonTree Num)}
      (first : Corresponds hidden leaves left right)
      (rest : MembersCorrespond hidden leaves lefts rights) :
      MembersCorrespond hidden leaves ((key, left) :: lefts) ((key, right) :: rights)

end

def EqualOutside (left right : JsonTree Num) : Prop :=
  Corresponds (isSensitiveKey toLowerCase) (· = ·) left right

def SameShape (left right : JsonTree Num) : Prop :=
  Corresponds (isSensitiveKey toLowerCase) (fun _ _ => True) left right

theorem redactItems_congr (lefts rights : List (JsonTree Num))
    (equal : ItemsCorrespond (isSensitiveKey toLowerCase) (· = ·) lefts rights)
    (ofItems : ∀ left ∈ lefts, ∀ right, EqualOutside toLowerCase left right →
      redactSecrets toLowerCase left = redactSecrets toLowerCase right) :
    redactItems toLowerCase lefts = redactItems toLowerCase rights := by
  induction lefts generalizing rights with
  | nil => cases equal; rfl
  | cons left lefts ofLefts =>
      rw [List.forall_mem_cons] at ofItems
      cases equal with
      | cons first rest =>
          rw [redactItems, redactItems, ofItems.1 _ first, ofLefts _ rest ofItems.2]

theorem redactEntries_congr (redacted lefts rights : List (String × JsonTree Num))
    (equal : MembersCorrespond (isSensitiveKey toLowerCase) (· = ·) lefts rights)
    (ofMembers : ∀ left ∈ lefts, ∀ right, EqualOutside toLowerCase left.2 right →
      redactSecrets toLowerCase left.2 = redactSecrets toLowerCase right) :
    redactEntries toLowerCase redacted lefts = redactEntries toLowerCase redacted rights := by
  induction lefts generalizing redacted rights with
  | nil => cases equal; rfl
  | cons left lefts ofLefts =>
      rw [List.forall_mem_cons] at ofMembers
      cases equal with
      | hidden first rest =>
          rw [redactEntries, redactEntries, if_pos first, if_pos first,
            ofLefts _ _ rest ofMembers.2]
      | shown first rest =>
          rw [redactEntries, redactEntries, ofMembers.1 _ first, ofLefts _ _ rest ofMembers.2]

theorem redactSecrets_congr (left right : JsonTree Num)
    (equal : EqualOutside toLowerCase left right) :
    redactSecrets toLowerCase left = redactSecrets toLowerCase right := by
  induction left using JsonTree.induct generalizing right with
  | scalar leaf isScalar =>
      cases equal with
      | scalar ofLeft ofRight related => rw [related]
      | array items => cases isScalar
      | object members => cases isScalar
  | array lefts ofItems =>
      cases equal with
      | scalar ofLeft ofRight related => cases ofLeft
      | array items =>
          rw [redactSecrets, redactSecrets, redactItems_congr toLowerCase _ _ items ofItems]
  | object lefts ofMembers =>
      cases equal with
      | scalar ofLeft ofRight related => cases ofLeft
      | object members =>
          rw [redactSecrets, redactSecrets,
            redactEntries_congr toLowerCase [] _ _ members ofMembers]

theorem redactSecrets_object {members : List (String × JsonTree Num)}
    (distinct : (members.map Prod.fst).Nodup) :
    redactSecrets toLowerCase (.object members) =
      .object ((members.filter (·.1 ≠ "__proto__")).map (redactEntry toLowerCase)) := by
  rw [redactSecrets, redactEntries_eq toLowerCase [] members distinct, List.nil_append]

theorem redactSecrets_isScalar {leaf : JsonTree Num} (isScalar : leaf.isScalar = true) :
    (redactSecrets toLowerCase leaf).isScalar = true := by
  cases leaf <;> first | rfl | cases isScalar

theorem sameShape_items (items : List (JsonTree Num))
    (ofItems : ∀ item ∈ items, SameShape toLowerCase item (redactSecrets toLowerCase item)) :
    ItemsCorrespond (isSensitiveKey toLowerCase) (fun _ _ => True) items
      (items.map (redactSecrets toLowerCase)) := by
  induction items with
  | nil => exact .nil
  | cons first rest ofRest =>
      rw [List.forall_mem_cons] at ofItems
      exact .cons ofItems.1 (ofRest ofItems.2)

theorem sameShape_members (members : List (String × JsonTree Num))
    (ofMembers : ∀ member ∈ members,
      SameShape toLowerCase member.2 (redactSecrets toLowerCase member.2)) :
    MembersCorrespond (isSensitiveKey toLowerCase) (fun _ _ => True) members
      (members.map (redactEntry toLowerCase)) := by
  induction members with
  | nil => exact .nil
  | cons first rest ofRest =>
      rw [List.forall_mem_cons] at ofMembers
      rw [List.map_cons, redactEntry]
      by_cases sensitive : isSensitiveKey toLowerCase first.1 = true
      · exact .hidden sensitive (ofRest ofMembers.2)
      · rw [if_neg sensitive]
        exact .shown ofMembers.1 (ofRest ofMembers.2)

theorem sameShape_redactSecrets (value : JsonTree Num) (distinct : value.DistinctKeys)
    (plain : ¬ value.OwnsKey "__proto__") :
    SameShape toLowerCase value (redactSecrets toLowerCase value) := by
  induction distinct with
  | scalar isScalar =>
      exact .scalar isScalar (redactSecrets_isScalar toLowerCase isScalar) trivial
  | array inside ofItems =>
      rw [redactSecrets, redactItems_eq]
      refine .array (sameShape_items toLowerCase _ ?_)
      intro item member
      exact ofItems item member fun owns => plain (.item member owns)
  | object distinct inside ofMembers =>
      rw [redactSecrets_object toLowerCase distinct, List.filter_eq_self.2]
      · refine .object (sameShape_members toLowerCase _ ?_)
        intro entry member
        exact ofMembers entry member fun owns => plain (.member member owns)
      · intro entry member
        rw [decide_eq_true_eq]
        rintro proto
        exact plain (.here (List.mem_map.2 ⟨entry, member, proto⟩))

/-- Payloads that are equal outside the subtrees under sensitive keys are redacted to the same
text, and outside those subtrees a payload without the key `__proto__` keeps its keys and its
array lengths. -/
theorem redaction_conceals_sensitive_subtrees (stringify : JsonTree Num → String) :
    (∀ left right : Payload Num, EqualOutside toLowerCase left.value right.value →
      redactedJSON toLowerCase stringify left.value =
        redactedJSON toLowerCase stringify right.value) ∧
    ∀ payload : Payload Num, ¬ payload.value.OwnsKey "__proto__" →
      SameShape toLowerCase payload.value (redactSecrets toLowerCase payload.value) := by
  constructor
  · intro left right equal
    rw [redactedJSON, redactedJSON, redactSecrets_congr toLowerCase _ _ equal]
  · intro payload plain
    exact sameShape_redactSecrets toLowerCase payload.value payload.distinctKeys plain

end Redaction

section Sample

def bracketed (opening closing : String) (depth : Nat) (lines : List String) : String :=
  let indent := fun levels => "\n" ++ String.ofList (List.replicate (2 * levels) ' ')
  if lines.isEmpty then opening ++ closing
  else
    opening ++ indent (depth + 1) ++ String.intercalate ("," ++ indent (depth + 1)) lines ++
      indent depth ++ closing

mutual

/-- `JSON.stringify(value, null, 2)` for values whose strings need no escapes. -/
def indentedText (depth : Nat) : JsonTree Nat → String
  | .null => "null"
  | .bool value => if value then "true" else "false"
  | .number value => ToString.toString value
  | .string text => "\"" ++ text ++ "\""
  | .array items => bracketed "[" "]" depth (indentedItems depth items)
  | .object members => bracketed "\x7b" "\x7d" depth (indentedMembers depth members)

def indentedItems (depth : Nat) : List (JsonTree Nat) → List String
  | [] => []
  | first :: rest => indentedText (depth + 1) first :: indentedItems depth rest

def indentedMembers (depth : Nat) : List (String × JsonTree Nat) → List String
  | [] => []
  | (name, value) :: rest =>
      ("\"" ++ name ++ "\": " ++ indentedText (depth + 1) value) :: indentedMembers depth rest

end

def session (token : JsonTree Nat) (distinct : token.DistinctKeys) : Payload Nat where
  value := .array [.object [("user", .string "alice"), ("sessionToken", token)]]
  distinctKeys := by
    refine .array (List.forall_mem_singleton.2 (.object (by simp) ?_))
    exact List.forall_mem_cons.2 ⟨.scalar rfl, List.forall_mem_singleton.2 distinct⟩

def textToken : Payload Nat :=
  session (.string "eyJh") (.scalar rfl)

def listedToken : Payload Nat :=
  session (.array [.number 7]) (.array (List.forall_mem_singleton.2 (.scalar rfl)))

theorem sessionToken_sensitive : isSensitiveKey toAsciiLowercase "sessionToken" = true := by
  unfold isSensitiveKey includes toAsciiLowercase
  rw [String.toList_ofList]
  decide

theorem textToken_plain : ¬ textToken.value.OwnsKey "__proto__" := by
  intro owns
  cases owns with
  | item member inside =>
      obtain rfl := List.mem_singleton.1 member
      cases inside with
      | here own => revert own; decide
      | member member inside =>
          rcases List.mem_cons.1 member with rfl | member
          · cases inside
          · obtain rfl := List.mem_singleton.1 member
            cases inside

end Sample

theorem sessions_redacted_alike :
    textToken.value ≠ listedToken.value ∧
      redactedJSON toAsciiLowercase (indentedText 0) textToken.value =
        redactedJSON toAsciiLowercase (indentedText 0) listedToken.value ∧
      SameShape toAsciiLowercase textToken.value
        (redactSecrets toAsciiLowercase textToken.value) := by
  obtain ⟨alike, shape⟩ := redaction_conceals_sensitive_subtrees toAsciiLowercase (indentedText 0)
  refine ⟨by simp [textToken, listedToken, session], alike _ _ ?_, shape _ textToken_plain⟩
  exact .array (.cons (.object (.shown (.scalar rfl rfl rfl)
    (.hidden sessionToken_sensitive .nil))) .nil)

end AnchorKit.DevPanel
