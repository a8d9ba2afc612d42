import AnchorKit.DevPanel.SecretRedaction

/-!
# Secret seeds in redacted payloads

The first regular expression knows the seeds whose second letter is `B`, and the second one
hides a seed only by accident, as part of a bearer token.  What a string shows of a seed is
read off the string itself: its pieces between the keys that the first expression matches,
and in a piece the characters that belong to no bearer token.
-/

set_option autoImplicit false

namespace AnchorKit.DevPanel

open AnchorKit.Base AnchorKit.Base.Ascii

variable {Num : Type}

/-- `[A-Z2-7]`. -/
def isBase32Char (c : Char) : Bool :=
  c.isUpper || (decide ('2' ≤ c) && decide (c ≤ '7'))

/-- `S`, one of `A` to `D`, and 54 characters of the base32 alphabet. -/
def IsSeed (seed : List Char) : Prop :=
  ∃ second rest, seed = 'S' :: second :: rest ∧ second ∈ ['A', 'B', 'C', 'D'] ∧
    rest.length = 54 ∧ ∀ c ∈ rest, isBase32Char c = true

/-- The seed stands in the text, delimited by characters that belong to no word or by the
ends of the text. -/
def ContainsSeed (seed : List Char) (text : String) : Prop :=
  IsSeed seed ∧ Delimited isWordChar seed text.toList

def isWordMark (c : Char × Bool) : Bool :=
  isWordChar c.1

/-- The seed stands in the piece and no character of it belongs to a bearer token. -/
def Untouched (seed piece : List Char) : Prop :=
  Delimited isWordMark (seed.map (·, false)) (bearerTokens.mark piece)

/-- Between the `SB` keys of the text another seed is left that no bearer token touches. -/
def LeavesSeed (text : String) : Prop :=
  ∃ piece ∈ privateKeys.pieces text.toList,
    ∃ seed, IsSeed seed ∧ seed.take 2 ≠ ['S', 'B'] ∧ Untouched seed piece

/-! ## Seeds as words -/

theorem IsSeed.length_eq {seed : List Char} (isSeed : IsSeed seed) : seed.length = 56 := by
  obtain ⟨second, rest, rfl, -, size, -⟩ := isSeed
  simp [size]

theorem IsSeed.ne_nil {seed : List Char} (isSeed : IsSeed seed) : seed ≠ [] := by
  obtain ⟨second, rest, rfl, -⟩ := isSeed
  simp

theorem isWordChar_iff (c : Char) :
    isWordChar c = true ↔
      (65 ≤ c.toNat ∧ c.toNat ≤ 90) ∨ (97 ≤ c.toNat ∧ c.toNat ≤ 122) ∨
      (48 ≤ c.toNat ∧ c.toNat ≤ 57) ∨ c.toNat = 95 := by
  have underscore : c = '_' ↔ c.toNat = 95 :=
    ⟨fun same => by rw [same]; rfl, fun same => Char.ext (UInt32.toNat_inj.1 same)⟩
  rw [isWordChar, Bool.or_eq_true, beq_iff_eq, isAlphanum_iff, isUpper_iff, isLower_iff,
    isDigit_iff, underscore, or_assoc, or_assoc]

theorem isBase32Char_iff (c : Char) :
    isBase32Char c = true ↔
      (65 ≤ c.toNat ∧ c.toNat ≤ 90) ∨ (50 ≤ c.toNat ∧ c.toNat ≤ 55) := by
  rw [isBase32Char, Bool.or_eq_true, Bool.and_eq_true, isUpper_iff, decide_eq_true_iff,
    decide_eq_true_iff, Char.le_def, Char.le_def, UInt32.le_iff_toNat_le, UInt32.le_iff_toNat_le]
  rfl

theorem isWordChar_of_isBase32Char {c : Char} (base32 : isBase32Char c = true) :
    isWordChar c = true := by
  rw [isBase32Char_iff] at base32
  rw [isWordChar_iff]
  omega

theorem isKeyChar_iff (c : Char) :
    isKeyChar c = true ↔ (65 ≤ c.toNat ∧ c.toNat ≤ 90) ∨ (48 ≤ c.toNat ∧ c.toNat ≤ 57) := by
  rw [isKeyChar, Bool.or_eq_true, isUpper_iff, isDigit_iff]

theorem isKeyChar_of_isBase32Char {c : Char} (base32 : isBase32Char c = true) :
    isKeyChar c = true := by
  rw [isBase32Char_iff] at base32
  rw [isKeyChar_iff]
  omega

theorem IsSeed.isBase32Char {seed : List Char} (isSeed : IsSeed seed) :
    ∀ c ∈ seed, isBase32Char c = true := by
  obtain ⟨second, rest, rfl, letter, -, base32⟩ := isSeed
  have letters : ∀ c ∈ ['A', 'B', 'C', 'D'], DevPanel.isBase32Char c = true :=
    forall_mem_of_all (by decide)
  rw [List.forall_mem_cons, List.forall_mem_cons]
  exact ⟨by decide, letters second letter, base32⟩

theorem IsSeed.mem_words_iff {seed text : List Char} (isSeed : IsSeed seed) :
    seed ∈ words isWordChar text ↔ Delimited isWordChar seed text := by
  rw [Base.mem_words_iff]
  refine ⟨fun word => word.2.2, fun delimited => ⟨isSeed.ne_nil, ?_, delimited⟩⟩
  exact fun c member => isWordChar_of_isBase32Char (isSeed.isBase32Char c member)

theorem IsSeed.untouched_iff {seed piece : List Char} (isSeed : IsSeed seed) :
    Untouched seed piece ↔
      seed.map (·, false) ∈ words isWordMark (bearerTokens.mark piece) := by
  rw [Base.mem_words_iff]
  refine ⟨fun delimited => ⟨by simpa using isSeed.ne_nil, ?_, delimited⟩, fun word => word.2.2⟩
  intro c member
  obtain ⟨char, inside, rfl⟩ := List.mem_map.1 member
  exact isWordChar_of_isBase32Char (isSeed.isBase32Char char inside)

/-! ## The two patterns -/

theorem bearerTokens_blind : bearerTokens.Blind :=
  fun _ _ => rfl

theorem findBearer_eq_none {text : List Char}
    (unnamed : (text.take 6).map Char.toLower ≠ ['b', 'e', 'a', 'r', 'e', 'r']) :
    findBearer text = none := by
  unfold findBearer
  dsimp only
  rw [if_neg]
  simp only [Bool.and_eq_true, beq_iff_eq]
  exact fun holds => unnamed holds.1.1

theorem bearerTokens_barred : bearerTokens.Barred '[' := by
  intro before text rest
  change findBearer (text ++ '[' :: rest) = findBearer text
  by_cases long : 6 ≤ text.length
  · unfold findBearer
    dsimp only
    rw [List.take_append_of_le_length long, List.drop_append_of_le_length long,
      Pattern.takeWhile_append_stop (by decide), Pattern.dropWhile_append_stop (by decide),
      Pattern.takeWhile_append_stop (by decide), Pattern.dropWhile_append_stop (by decide),
      Pattern.takeWhile_append_stop (by decide)]
  · rw [findBearer_eq_none, findBearer_eq_none]
    · intro named
      have size := congrArg List.length named
      simp at size
      omega
    · intro named
      have bracket := Pattern.mem_take_append_cons (Nat.lt_of_not_le long) '[' rest
      have lower := List.mem_map_of_mem (f := Char.toLower) bracket
      rw [named] at lower
      revert lower
      decide

theorem findBearer_cons {c : Char} (other : c.toLower ≠ 'b') (rest : List Char) :
    findBearer (c :: rest) = none := by
  refine findBearer_eq_none ?_
  simp [other]

theorem isWordChar_of_isKeyChar {c : Char} (keyChar : isKeyChar c = true) :
    isWordChar c = true := by
  rw [isKeyChar_iff] at keyChar
  rw [isWordChar_iff]
  omega

def isPrivateKey (run : List Char) : Bool :=
  run.length == 56 && run.take 2 == ['S', 'B'] && (run.drop 2).all isKeyChar

theorem isPrivateKey_iff (run : List Char) :
    isPrivateKey run = true ↔
      run.length = 56 ∧ run.take 2 = ['S', 'B'] ∧ ∀ c ∈ run.drop 2, isKeyChar c = true := by
  simp [isPrivateKey, and_assoc]

theorem isWordChar_of_isPrivateKey {run : List Char} (key : isPrivateKey run = true) :
    ∀ c ∈ run, isWordChar c = true := by
  obtain ⟨-, lead, keyChars⟩ := (isPrivateKey_iff run).1 key
  have ofLead : ∀ c ∈ ['S', 'B'], isWordChar c = true := forall_mem_of_all (by decide)
  intro c member
  rw [← List.take_append_drop 2 run, lead, List.mem_append] at member
  rcases member with inLead | inBody
  · exact ofLead c inLead
  · exact isWordChar_of_isKeyChar (keyChars c inBody)

theorem findPrivateKey_eq (before : Option Char) (text : List Char) :
    findPrivateKey before text =
      if isBoundary before text.head? && isPrivateKey (text.take 56) &&
        isBoundary (text.take 56).getLast? (text.drop 56).head? then some 56
      else none := by
  have size : ((text.take 56).length == 56) = (((text.drop 2).take 54).length == 54) := by
    rw [Bool.eq_iff_iff, beq_iff_eq, beq_iff_eq, List.length_take, List.length_take,
      List.length_drop]
    omega
  have same : (isBoundary before text.head? && (text.take 2 == ['S', 'B']) &&
      (((text.drop 2).take 54).length == 54 && ((text.drop 2).take 54).all isKeyChar)) =
      (isBoundary before text.head? && isPrivateKey (text.take 56)) := by
    rw [isPrivateKey, size, List.take_take, List.drop_take]
    change _ = (_ && ((_ && (text.take 2 == _)) && ((text.drop 2).take 54).all isKeyChar))
    ac_rfl
  rw [findPrivateKey, same]

theorem privateKeys_barred {c : Char} (outside : isWordChar c = false) :
    privateKeys.Barred c := by
  intro before text rest
  change findPrivateKey before (text ++ c :: rest) = findPrivateKey before text
  rw [findPrivateKey_eq, findPrivateKey_eq]
  by_cases long : 56 ≤ text.length
  · have head : (text ++ c :: rest).head? = text.head? := by
      cases text with
      | nil => simp at long
      | cons first others => rfl
    have behind : isBoundary (text.take 56).getLast? ((text.drop 56) ++ c :: rest).head? =
        isBoundary (text.take 56).getLast? (text.drop 56).head? := by
      cases text.drop 56 with
      | nil => simp [isBoundary, outside]
      | cons first others => rfl
    rw [head, List.take_append_of_le_length long, List.drop_append_of_le_length long, behind]
  · have cutShort : isPrivateKey (text.take 56) = false := by
      rw [Bool.eq_false_iff]
      intro key
      have size := ((isPrivateKey_iff _).1 key).1
      rw [List.length_take] at size
      omega
    have broken : isPrivateKey ((text ++ c :: rest).take 56) = false := by
      rw [Bool.eq_false_iff]
      intro key
      have member := Pattern.mem_take_append_cons (Nat.lt_of_not_le long) c rest
      have word := isWordChar_of_isPrivateKey key c member
      rw [outside] at word
      cases word
    rw [cutShort, broken]
    simp

theorem isBoundary_of_breaks {before : Option Char} (breaks : Breaks isWordChar before) {c : Char}
    (word : isWordChar c = true) : isBoundary before (some c) = true := by
  cases before with
  | none => simp [isBoundary, word]
  | some other => simp [isBoundary, word, breaks other rfl]

theorem privateKeys_cut_inside {before : Char} (word : isWordChar before = true)
    (run : List Char) (inside : ∀ c ∈ run, isWordChar c = true) :
    privateKeys.cut (some before) run = run.map .kept := by
  induction run generalizing before with
  | nil => rfl
  | cons c rest ofRest =>
      rw [List.forall_mem_cons] at inside
      have missed : privateKeys.find (some before) (c :: rest) = none := by
        change findPrivateKey (some before) (c :: rest) = none
        rw [findPrivateKey_eq, if_neg]
        simp [isBoundary, word, inside.1]
      rw [Pattern.cut_miss _ missed, ofRest inside.1 inside.2]
      rfl

theorem exists_last_word {run : List Char} (nonempty : run ≠ [])
    (inside : ∀ c ∈ run, isWordChar c = true) :
    ∃ last, run.getLast? = some last ∧ isWordChar last = true :=
  ⟨run.getLast nonempty, List.getLast?_eq_some_getLast nonempty,
    inside _ (List.getLast_mem nonempty)⟩

theorem findPrivateKey_of_isPrivateKey {before : Option Char} {run : List Char}
    (breaks : Breaks isWordChar before) (key : isPrivateKey run = true) :
    findPrivateKey before run = some run.length := by
  have inside := isWordChar_of_isPrivateKey key
  have size := ((isPrivateKey_iff run).1 key).1
  cases run with
  | nil => cases size
  | cons c rest =>
      obtain ⟨last, ends, word⟩ := exists_last_word (List.cons_ne_nil c rest) inside
      have begins := isBoundary_of_breaks breaks (inside c (by simp))
      have closes : isBoundary (some last) none = true := by
        simp [isBoundary, word]
      rw [findPrivateKey_eq, List.take_of_length_le size.le, List.drop_of_length_le size.le, ends,
        List.head?_cons, List.head?_nil, begins, key, closes, size]
      rfl

theorem findPrivateKey_of_not_isPrivateKey {before : Option Char} {run : List Char}
    (inside : ∀ c ∈ run, isWordChar c = true) (other : isPrivateKey run = false) :
    findPrivateKey before run = none := by
  rw [findPrivateKey_eq, if_neg]
  intro holds
  simp only [Bool.and_eq_true] at holds
  obtain ⟨⟨-, key⟩, ends⟩ := holds
  cases behind : run.drop 56 with
  | nil =>
      -- nothing stands behind the match, so it is the whole run
      rw [List.take_of_length_le (List.drop_eq_nil_iff.1 behind), other] at key
      cases key
  | cons next others =>
      have ofNext : isWordChar next = true :=
        inside next (List.mem_of_mem_drop (i := 56) (by simp [behind]))
      have nonempty : run.take 56 ≠ [] := by
        intro empty
        rw [empty] at key
        cases key
      obtain ⟨last, latest, word⟩ :=
        exists_last_word nonempty (isWordChar_of_isPrivateKey key)
      simp [behind, latest, isBoundary, word, ofNext] at ends

theorem privateKeys_between_run (before : Option Char) (run : List Char)
    (breaks : Breaks isWordChar before) (inside : ∀ c ∈ run, isWordChar c = true) :
    (Segment.between (privateKeys.cut before run)).flatMap (words isWordChar) =
      (words isWordChar run).filter fun run => !isPrivateKey run := by
  cases run with
  | nil => simp [Segment.between]
  | cons c rest =>
      have single := words_run (List.cons_ne_nil c rest) inside
      cases key : isPrivateKey (c :: rest) with
      | true =>
          have found : privateKeys.find before ((c :: rest) ++ []) = some (c :: rest).length := by
            rw [List.append_nil]
            exact findPrivateKey_of_isPrivateKey breaks key
          have cut := Pattern.cut_hit privateKeys found
          rw [List.append_nil] at cut
          simp [cut, single, key, Segment.between]
      | false =>
          have missed : privateKeys.find before (c :: rest) = none :=
            findPrivateKey_of_not_isPrivateKey inside key
          rw [List.forall_mem_cons] at inside
          have kept : privateKeys.cut before (c :: rest) = (c :: rest).map .kept := by
            rw [Pattern.cut_miss _ missed, privateKeys_cut_inside inside.1 rest inside.2]
            rfl
          rw [kept, Segment.between_kept]
          simp [single, key]

theorem words_pieces (text : List Char) :
    (privateKeys.pieces text).flatMap (words isWordChar) =
      (words isWordChar text).filter fun run => !isPrivateKey run :=
  Pattern.words_between_cut (fun _ => privateKeys_barred) privateKeys_between_run none breaks_none
    text

theorem mem_words_piece {text piece run : List Char} (member : piece ∈ privateKeys.pieces text)
    (word : run ∈ words isWordChar piece) :
    run ∈ words isWordChar text ∧ isPrivateKey run = false := by
  have inside : run ∈ (privateKeys.pieces text).flatMap (words isWordChar) :=
    List.mem_flatMap.2 ⟨piece, member, word⟩
  rw [words_pieces, List.mem_filter] at inside
  simpa using inside

theorem isTokenChar_of_isWordChar {c : Char} (word : isWordChar c = true) :
    isTokenChar c = true := by
  unfold isWordChar at word
  unfold isTokenChar
  rcases Bool.or_eq_true_iff.1 word with alphanumeric | underscore
  · rw [alphanumeric, Bool.true_or]
  · rw [beq_iff_eq.1 underscore]
    decide

theorem isWordChar_of_isSpace {c : Char} (space : isSpace c = true) : isWordChar c = false := by
  rw [Bool.eq_false_iff, ne_eq, isWordChar_iff]
  simp only [isSpace, List.contains_cons, List.contains_nil, Bool.or_eq_true, Bool.and_eq_true,
    beq_iff_eq, decide_eq_true_eq, Bool.or_false] at space
  omega

theorem isWordChar_of_toLower {c : Char} (lower : c.toLower ∈ ['b', 'e', 'a', 'r', 'e', 'r']) :
    isWordChar c = true := by
  have range : ∀ letter ∈ ['b', 'e', 'a', 'r', 'e', 'r'],
      97 ≤ letter.toNat ∧ letter.toNat ≤ 122 :=
    forall_mem_of_all (by decide)
  have code := range c.toLower lower
  rw [toLower_toNat] at code
  rw [isWordChar_iff]
  split at code <;> omega

/-! ## The second replacement -/

theorem mem_words_unmarked_iff (run text : List Char) :
    run.map (·, false) ∈ words isWordMark (text.map (·, false)) ↔ run ∈ words isWordChar text := by
  have injective : Function.Injective (List.map fun c : Char => (c, false)) :=
    List.map_injective_iff.2 fun _ _ same => (Prod.mk.inj same).1
  rw [words_map]
  exact List.mem_map_of_injective injective

theorem IsSeed.mem_words_before_lead {seed lead : List Char} (isSeed : IsSeed seed)
    (named : lead.map Char.toLower = ['b', 'e', 'a', 'r', 'e', 'r']) (front : List Char) :
    seed ∈ words isWordChar (front ++ ['b', 'e', 'a', 'r', 'e', 'r']) ↔
      seed.map (·, false) ∈ words isWordMark (front.map (·, false) ++ lead.map (·, true)) := by
  obtain ⟨inner, run, rfl, ofRun, breaks⟩ := exists_last_run isWordChar front
  have nonempty : lead ≠ [] := by
    rintro rfl
    cases named
  have ofLead : ∀ c ∈ lead, isWordChar c = true := by
    intro c member
    refine isWordChar_of_toLower ?_
    rw [← named]
    exact List.mem_map_of_mem member
  have notRun : seed ≠ run ++ ['b', 'e', 'a', 'r', 'e', 'r'] := by
    rintro rfl
    exact absurd (isSeed.isBase32Char 'b' (by simp)) (by decide)
  have notMarked : seed.map (·, false) ≠ run.map (·, false) ++ lead.map (·, true) := by
    intro same
    obtain ⟨c, member⟩ := List.exists_mem_of_ne_nil lead nonempty
    have inside : (c, true) ∈ seed.map (·, false) := by
      rw [same]
      simp [member]
    simp at inside
  have breaksMarked : Breaks isWordMark (inner.map (·, false)).getLast? := by
    rw [List.getLast?_map, breaks_map]
    exact breaks
  rw [words_append_run breaks ofRun (by simp) (forall_mem_of_all (by decide)), List.map_append,
    words_append_run breaksMarked (by simpa [isWordMark] using ofRun) (by simpa using nonempty)
      (by simpa [isWordMark] using ofLead)]
  rw [List.mem_append, List.mem_append, List.mem_singleton, List.mem_singleton,
    mem_words_unmarked_iff]
  simp [notRun, notMarked]

theorem IsSeed.mem_words_redactedToken {seed : List Char} (isSeed : IsSeed seed)
    (front rest : List Char) :
    seed ∈ words isWordChar (front ++ (redactedToken ++ rest)) ↔
      seed ∈ words isWordChar (front ++ ['b', 'e', 'a', 'r', 'e', 'r']) ∨
      seed ∈ words isWordChar rest := by
  generalize tail : " [REDACTED_TOKEN]".toList = back
  have split : redactedToken = ['b', 'e', 'a', 'r', 'e', 'r'] ++ back := by
    rw [← tail]
    decide
  have short : ∀ run ∈ words isWordChar back, run.length ≠ 56 := by
    rw [← tail]
    decide
  have absent : seed ∉ words isWordChar back :=
    fun member => short seed member isSeed.length_eq
  rw [split, List.append_assoc, ← List.append_assoc front, words_append_enclosed]
  · simp only [List.mem_append, absent, false_or]
  all_goals
    rw [← tail]
    decide

theorem IsSeed.mem_words_token {seed lead spaces token padding rest : List Char}
    (isSeed : IsSeed seed) (parts : BearerParts lead spaces token padding rest)
    (front : List Char) (marked : List (Char × Bool)) (source : marked.map Prod.fst = rest) :
    seed.map (·, false) ∈ words isWordMark (front.map (·, false) ++
        ((lead ++ spaces ++ token ++ padding).map (·, true) ++ marked)) ↔
      seed.map (·, false) ∈ words isWordMark (front.map (·, false) ++ lead.map (·, true)) ∨
      seed.map (·, false) ∈ words isWordMark marked := by
  have begins :
      Breaks isWordMark ((spaces ++ token ++ padding).map (·, true) ++ marked).head? := by
    obtain ⟨space, others, rfl⟩ := List.exists_cons_of_ne_nil parts.spaced
    exact breaks_some.2 (isWordChar_of_isSpace (parts.isSpace space (by simp)))
  -- the token was taken as far as it goes, or it ends with its padding
  have seam : Breaks isWordMark ((spaces ++ token ++ padding).map (·, true)).getLast? ∨
      Breaks isWordMark marked.head? := by
    rcases List.eq_nil_or_concat padding with unpadded | ⟨equals, last, rfl⟩
    · right
      intro c head
      have inRest : c.1 ∈ rest.head? := by
        rw [← source, List.head?_map, Option.mem_def.1 head]
        rfl
      have notToken := parts.longest unpadded c.1 inRest
      rw [Bool.eq_false_iff] at notToken ⊢
      exact fun word => notToken (isTokenChar_of_isWordChar word)
    · left
      have padding := parts.padded last (by simp)
      rw [List.concat_eq_append, ← List.append_assoc, List.map_append, padding]
      simp [Breaks]
      decide
  have absent : seed.map (·, false) ∉
      words isWordMark ((spaces ++ token ++ padding).map (·, true)) := by
    intro member
    rw [words_map] at member
    obtain ⟨run, -, same⟩ := List.mem_map.1 member
    obtain ⟨second, rest, rfl, -⟩ := isSeed
    cases run <;> simp at same
  rw [List.append_assoc lead, List.append_assoc lead, List.map_append, List.append_assoc,
    ← List.append_assoc (front.map _), words_append (.inr begins), words_append seam]
  simp only [List.mem_append, absent, false_or]

/-- A seed stands in the replaced text exactly if it stands unmarked in the text. -/
theorem IsSeed.mem_words_replaced_iff {seed : List Char} (isSeed : IsSeed seed)
    (before : Option Char) (text front : List Char) :
    seed ∈ words isWordChar
        (front ++ (bearerTokens.cut before text).flatMap (Segment.image redactedToken)) ↔
      seed.map (·, false) ∈ words isWordMark
        (front.map (·, false) ++ (bearerTokens.cut before text).flatMap Segment.marks) := by
  induction before, text using bearerTokens.induct generalizing front with
  | nil before =>
      rw [Pattern.cut_nil, List.flatMap_nil, List.flatMap_nil, List.append_nil, List.append_nil,
        mem_words_unmarked_iff]
  | miss before symbol rest missed ofRest =>
      have grown := ofRest (front ++ [symbol])
      rw [Pattern.cut_miss _ missed]
      simpa [Segment.image, Segment.marks] using grown
  | hit before text rest found ofRest =>
      obtain ⟨lead, spaces, token, padding, behind, whole, size, parts⟩ := findBearer_parts found
      obtain ⟨rfl, rfl⟩ := List.append_inj whole size
      rw [Pattern.cut_hit _ found, List.flatMap_cons, List.flatMap_cons, Segment.image,
        Segment.marks, isSeed.mem_words_redactedToken,
        isSeed.mem_words_token parts front _ (Pattern.map_fst_marks _ _ _),
        isSeed.mem_words_before_lead parts.named]
      exact or_congr Iff.rfl (ofRest [])

/-! ## The first replacement -/

theorem marks_redactedPrivateKey (front rest : List Char) :
    bearerTokens.mark (front ++ (redactedPrivateKey ++ rest)) =
      bearerTokens.mark front ++
        (redactedPrivateKey.map (·, false) ++ bearerTokens.mark rest) := by
  have bracket : redactedPrivateKey = '[' :: "REDACTED_PRIVATE_KEY]".toList := by decide
  have misses : ∀ c ∈ "REDACTED_PRIVATE_KEY]".toList, ∀ before rest,
      bearerTokens.find before (c :: rest) = none := by
    have other : ∀ c ∈ "REDACTED_PRIVATE_KEY]".toList, c.toLower ≠ 'b' :=
      forall_mem_of_all (by decide)
    exact fun c member _ rest => findBearer_cons (other c member) rest
  unfold Pattern.mark
  rw [bracket, List.cons_append, bearerTokens_barred.cut_append,
    Pattern.cut_of_misses misses bearerTokens_blind]
  simp [Segment.marks]

theorem IsSeed.mem_words_between_iff {seed : List Char} (isSeed : IsSeed seed)
    (parts : List (Segment Char)) (front : List Char) :
    seed.map (·, false) ∈ words isWordMark
        (bearerTokens.mark (front ++ parts.flatMap (Segment.image redactedPrivateKey))) ↔
      ∃ piece ∈ (Segment.between parts).modifyHead (front ++ ·),
        seed.map (·, false) ∈ words isWordMark (bearerTokens.mark piece) := by
  induction parts generalizing front with
  | nil => simp [Segment.between]
  | cons part rest ofRest =>
      cases part with
      | kept c =>
          have grown := ofRest (front ++ [c])
          rw [Segment.between, List.modifyHead_modifyHead]
          simpa [Segment.image, Function.comp_def] using grown
      | matched text =>
          have short : ∀ run ∈ words isWordMark (redactedPrivateKey.map (·, false)),
              run.length ≠ 56 := by
            decide
          have absent : seed.map (·, false) ∉
              words isWordMark (redactedPrivateKey.map (·, false)) :=
            fun member => short _ member (by simpa using isSeed.length_eq)
          have behind := ofRest []
          rw [List.nil_append, Segment.modifyHead_nil_append] at behind
          rw [List.flatMap_cons, Segment.image, marks_redactedPrivateKey,
            words_append_enclosed (by decide) (by decide) (by decide), List.mem_append,
            List.mem_append, behind, Segment.between, List.modifyHead_cons, List.append_nil]
          simp only [absent, false_or, List.mem_cons, exists_eq_or_imp]

/-- The redacted text contains a seed exactly if a piece of the text between its `SB` keys has
it outside of bearer tokens. -/
theorem IsSeed.delimited_redactString_iff {seed : List Char} (isSeed : IsSeed seed)
    (text : String) :
    Delimited isWordChar seed (redactString text).toList ↔
      ∃ piece ∈ privateKeys.pieces text.toList, Untouched seed piece := by
  have second := isSeed.mem_words_replaced_iff none
    (privateKeys.replace redactedPrivateKey text.toList) []
  have first := isSeed.mem_words_between_iff (privateKeys.cut none text.toList) []
  rw [List.map_nil, List.nil_append, List.nil_append] at second
  rw [List.nil_append, Segment.modifyHead_nil_append] at first
  simp only [isSeed.untouched_iff]
  rw [← isSeed.mem_words_iff, redactString, String.toList_ofList]
  exact second.trans first

theorem IsSeed.isPrivateKey {seed : List Char} (isSeed : IsSeed seed)
    (second : seed.take 2 = ['S', 'B']) : isPrivateKey seed = true := by
  rw [isPrivateKey_iff]
  refine ⟨isSeed.length_eq, second, ?_⟩
  intro c member
  exact isKeyChar_of_isBase32Char (isSeed.isBase32Char c (List.mem_of_mem_drop member))

theorem IsSeed.delimited_of_untouched {seed piece : List Char} (isSeed : IsSeed seed)
    {text : String} (member : piece ∈ privateKeys.pieces text.toList)
    (untouched : Untouched seed piece) :
    Delimited isWordChar seed text.toList ∧ seed.take 2 ≠ ['S', 'B'] := by
  rw [isSeed.untouched_iff] at untouched
  have source : (bearerTokens.mark piece).map Prod.fst = piece :=
    Pattern.map_fst_marks _ _ _
  have word : seed ∈ words isWordChar piece := by
    rw [← source, words_map]
    exact List.mem_map.2 ⟨_, untouched, by simp [Function.comp_def]⟩
  obtain ⟨inText, other⟩ := mem_words_piece member word
  refine ⟨isSeed.mem_words_iff.1 inText, ?_⟩
  intro second
  rw [isSeed.isPrivateKey second] at other
  cases other

theorem IsSeed.not_delimited_redactString {seed : List Char} (isSeed : IsSeed seed)
    (second : seed.take 2 = ['S', 'B']) (text : String) :
    ¬ Delimited isWordChar seed (redactString text).toList := by
  rw [isSeed.delimited_redactString_iff]
  rintro ⟨piece, member, untouched⟩
  exact (isSeed.delimited_of_untouched member untouched).2 second

/-! ## Payloads -/

section Payloads

variable (toLowerCase : String → String)

def OpenString (text : String) (value : JsonTree Num) : Prop :=
  JsonTree.Reached (fun key => !isSensitiveKey toLowerCase key) value (.string text)

def isShown (key : String) : Bool :=
  !isSensitiveKey toLowerCase key && decide (key ≠ "__proto__")

def ShownString (text : String) (value : JsonTree Num) : Prop :=
  JsonTree.Reached (isShown toLowerCase) value (.string text)

def ShownKey (key : String) (value : JsonTree Num) : Prop :=
  ∃ members, JsonTree.Reached (isShown toLowerCase) value (.object members) ∧
    key ∈ members.map Prod.fst ∧ key ≠ "__proto__"

/-- No seed of an open string is in the output, neither in a string nor in a key. -/
def HidesSeeds (payload : Payload Num) : Prop :=
  ∀ text seed, OpenString toLowerCase text payload.value → ContainsSeed seed text →
    ∀ output, (redactSecrets toLowerCase payload.value).HasText output → ¬ ContainsSeed seed output

/-- No string that is shown leaves a seed, and no key that is shown repeats one. -/
def Sheltered (payload : Payload Num) : Prop :=
  (∀ text, ShownString toLowerCase text payload.value → ¬ LeavesSeed text) ∧
  ∀ key text seed, ShownKey toLowerCase key payload.value →
    OpenString toLowerCase text payload.value → ContainsSeed seed text → ¬ ContainsSeed seed key

theorem reached_redactSecrets {value inner : JsonTree Num} (distinct : value.DistinctKeys)
    (reached : JsonTree.Reached (isShown toLowerCase) value inner) :
    JsonTree.Reached (fun _ => true) (redactSecrets toLowerCase value)
      (redactSecrets toLowerCase inner) := by
  induction reached with
  | self value => exact .self _
  | item member inside ofInside =>
      cases distinct with
      | scalar isScalar => cases isScalar
      | array ofItems =>
          rw [redactSecrets, redactItems_eq]
          exact .item (List.mem_map_of_mem member) (ofInside (ofItems _ member))
  | @member members entry inner member shown inside ofInside =>
      cases distinct with
      | scalar isScalar => cases isScalar
      | object distinct ofMembers =>
          simp only [isShown, Bool.and_eq_true, Bool.not_eq_true', decide_eq_true_eq] at shown
          have redacted : redactEntry toLowerCase entry =
              (entry.1, redactSecrets toLowerCase entry.2) := by
            rw [redactEntry, shown.1]
            rfl
          rw [redactSecrets_object toLowerCase distinct]
          refine .member (List.mem_map_of_mem (List.mem_filter.2 ⟨member, ?_⟩)) rfl ?_
          · simpa using shown.2
          · rw [redacted]
            exact ofInside (ofMembers _ member)

/-- What stands in the output is the redaction of something shown, or hides something. -/
theorem reached_of_redactSecrets {value output : JsonTree Num} (distinct : value.DistinctKeys)
    (reached : JsonTree.Reached (fun _ => true) (redactSecrets toLowerCase value) output) :
    (∃ inner, JsonTree.Reached (isShown toLowerCase) value inner ∧
      output = redactSecrets toLowerCase inner) ∨ output = .string "[REDACTED]" := by
  induction distinct with
  | scalar isScalar =>
      have whole := reached.eq_of_isScalar (redactSecrets_isScalar toLowerCase isScalar)
      exact .inl ⟨_, .self _, whole⟩
  | array inside ofItems =>
      rw [redactSecrets, redactItems_eq] at reached
      cases reached with
      | self => exact .inl ⟨_, .self _, by rw [redactSecrets, redactItems_eq]⟩
      | item member reached =>
          obtain ⟨item, ofItem, rfl⟩ := List.mem_map.1 member
          refine (ofItems item ofItem reached).imp_left ?_
          rintro ⟨inner, within, rfl⟩
          exact ⟨inner, .item ofItem within, rfl⟩
  | object distinct inside ofMembers =>
      rw [redactSecrets_object toLowerCase distinct] at reached
      cases reached with
      | self => exact .inl ⟨_, .self _, (redactSecrets_object toLowerCase distinct).symm⟩
      | member member pass reached =>
          obtain ⟨entry, kept, rfl⟩ := List.mem_map.1 member
          obtain ⟨ofEntry, plain⟩ := List.mem_filter.1 kept
          cases sensitive : isSensitiveKey toLowerCase entry.1 with
          | true =>
              rw [redactEntry, if_pos sensitive] at reached
              exact .inr (reached.eq_of_isScalar rfl)
          | false =>
              rw [redactEntry, if_neg (by simp [sensitive])] at reached
              refine (ofMembers entry ofEntry reached).imp_left ?_
              rintro ⟨inner, within, rfl⟩
              refine ⟨inner, .member ofEntry ?_ within, rfl⟩
              rw [isShown, sensitive, plain]
              rfl

theorem string_of_redactSecrets {inner : JsonTree Num} {output : String}
    (redacted : .string output = redactSecrets toLowerCase inner) :
    ∃ text, inner = .string text ∧ output = redactString text := by
  cases inner with
  | string text =>
      rw [redactSecrets, JsonTree.string.injEq] at redacted
      exact ⟨text, rfl, redacted⟩
  | _ => rw [redactSecrets] at redacted; cases redacted

theorem object_of_redactSecrets {inner : JsonTree Num} {members : List (String × JsonTree Num)}
    (distinct : inner.DistinctKeys)
    (redacted : .object members = redactSecrets toLowerCase inner) :
    ∃ entries, inner = .object entries ∧
      members = (entries.filter (·.1 ≠ "__proto__")).map (redactEntry toLowerCase) := by
  cases distinct with
  | scalar isScalar =>
      have scalar := redactSecrets_isScalar toLowerCase isScalar
      rw [← redacted] at scalar
      cases scalar
  | array inside => rw [redactSecrets] at redacted; cases redacted
  | object distinct inside =>
      rw [redactSecrets_object toLowerCase distinct, JsonTree.object.injEq] at redacted
      exact ⟨_, rfl, redacted⟩

theorem hasText_redactSecrets {value : JsonTree Num} (distinct : value.DistinctKeys)
    {output : String} (shows : (redactSecrets toLowerCase value).HasText output) :
    (∃ text, ShownString toLowerCase text value ∧ output = redactString text) ∨
      ShownKey toLowerCase output value ∨ output = "[REDACTED]" := by
  rcases shows with inString | ⟨members, reached, key⟩
  · rcases reached_of_redactSecrets toLowerCase distinct inString with
      ⟨inner, within, redacted⟩ | hidden
    · obtain ⟨text, rfl, rfl⟩ := string_of_redactSecrets toLowerCase redacted
      exact .inl ⟨text, within, rfl⟩
    · exact .inr (.inr (JsonTree.string.inj hidden))
  · rcases reached_of_redactSecrets toLowerCase distinct reached with
      ⟨inner, within, redacted⟩ | hidden
    · obtain ⟨entries, rfl, rfl⟩ :=
        object_of_redactSecrets toLowerCase (distinct.of_reached within) redacted
      rw [List.map_map] at key
      obtain ⟨entry, kept, rfl⟩ := List.mem_map.1 key
      obtain ⟨ofEntry, plain⟩ := List.mem_filter.1 kept
      exact .inr (.inl ⟨entries, within, List.mem_map.2 ⟨entry, ofEntry, rfl⟩,
        of_decide_eq_true plain⟩)
    · cases hidden

theorem hasText_of_shownString {value : JsonTree Num} (distinct : value.DistinctKeys)
    {text : String} (shown : ShownString toLowerCase text value) :
    (redactSecrets toLowerCase value).HasText (redactString text) := by
  have reached := reached_redactSecrets toLowerCase distinct shown
  rw [redactSecrets] at reached
  exact .inl reached

theorem hasText_of_shownKey {value : JsonTree Num} (distinct : value.DistinctKeys)
    {key : String} (shown : ShownKey toLowerCase key value) :
    (redactSecrets toLowerCase value).HasText key := by
  obtain ⟨members, within, ofKey, plain⟩ := shown
  have reached := reached_redactSecrets toLowerCase distinct within
  cases distinct.of_reached within with
  | scalar isScalar => cases isScalar
  | object distinctHere inside =>
      rw [redactSecrets_object toLowerCase distinctHere] at reached
      refine .inr ⟨_, reached, ?_⟩
      obtain ⟨entry, ofEntry, rfl⟩ := List.mem_map.1 ofKey
      rw [List.map_map]
      exact List.mem_map_of_mem (f := Prod.fst ∘ redactEntry toLowerCase)
        (List.mem_filter.2 ⟨ofEntry, by simpa using plain⟩)

theorem openString_of_shownString {value : JsonTree Num} {text : String}
    (shown : ShownString toLowerCase text value) : OpenString toLowerCase text value := by
  refine JsonTree.Reached.mono ?_ shown
  intro key shown
  exact (Bool.and_eq_true_iff.1 shown).1

theorem placeholder_no_seed (seed : List Char) : ¬ ContainsSeed seed "[REDACTED]" := by
  rintro ⟨isSeed, delimited⟩
  have short : ∀ run ∈ words isWordChar "[REDACTED]".toList, run.length ≠ 56 := by decide
  exact short seed (isSeed.mem_words_iff.2 delimited) isSeed.length_eq

/-- The output contains no seed of an open string exactly if every seed that is shown, other
than an `SB` key, is touched by a bearer token, and no key repeats a seed. -/
theorem seeds_hidden_iff_sheltered (payload : Payload Num) :
    HidesSeeds toLowerCase payload ↔ Sheltered toLowerCase payload := by
  constructor
  · intro hides
    refine ⟨?_, ?_⟩
    · rintro text shown ⟨piece, member, seed, isSeed, -, untouched⟩
      obtain ⟨inText, -⟩ := isSeed.delimited_of_untouched member untouched
      refine hides text seed (openString_of_shownString toLowerCase shown) ⟨isSeed, inText⟩ _
        (hasText_of_shownString toLowerCase payload.distinctKeys shown) ⟨isSeed, ?_⟩
      exact (isSeed.delimited_redactString_iff text).2 ⟨piece, member, untouched⟩
    · intro key text seed shown inside contains
      exact hides text seed inside contains key
        (hasText_of_shownKey toLowerCase payload.distinctKeys shown)
  · rintro ⟨strings, keys⟩ text seed inside contains output shows ⟨isSeed, delimited⟩
    rcases hasText_redactSecrets toLowerCase payload.distinctKeys shows with
      ⟨shownText, shown, rfl⟩ | shown | rfl
    · obtain ⟨piece, member, untouched⟩ := (isSeed.delimited_redactString_iff shownText).1 delimited
      have other := (isSeed.delimited_of_untouched member untouched).2
      exact strings shownText shown ⟨piece, member, seed, isSeed, other, untouched⟩
    · exact keys output text seed shown inside contains ⟨isSeed, delimited⟩
    · exact placeholder_no_seed seed ⟨isSeed, delimited⟩

end Payloads

def leakedSeed : List Char :=
  'S' :: 'A' :: List.replicate 54 'Q'

def memoPayload : Payload Nat where
  value := .object [("memo", .string (String.ofList leakedSeed))]
  distinctKeys := .object (by decide) (by simpa using .scalar rfl)

theorem memo_shows_seed : ¬ HidesSeeds toAsciiLowercase memoPayload := by
  intro hides
  have isSeed : IsSeed leakedSeed :=
    ⟨'A', List.replicate 54 'Q', rfl, by decide, by decide, forall_mem_of_all (by decide)⟩
  have insensitive : isSensitiveKey toAsciiLowercase "memo" = false := by
    unfold isSensitiveKey includes toAsciiLowercase
    rw [String.toList_ofList]
    decide
  have scanned : bearerTokens.replace redactedToken
      (privateKeys.replace redactedPrivateKey leakedSeed) = leakedSeed := by
    decide +kernel
  have unchanged : redactString (String.ofList leakedSeed) = String.ofList leakedSeed := by
    rw [redactString, String.toList_ofList, scanned]
  have contains : ContainsSeed leakedSeed (String.ofList leakedSeed) := by
    refine ⟨isSeed, [], [], ?_, breaks_none, breaks_none⟩
    rw [String.toList_ofList, List.nil_append, List.append_nil]
  have shown : ShownString toAsciiLowercase (String.ofList leakedSeed) memoPayload.value :=
    .member List.mem_cons_self (by simp [isShown, insensitive]) (.self _)
  have output := hasText_of_shownString toAsciiLowercase memoPayload.distinctKeys shown
  rw [unchanged] at output
  exact hides _ leakedSeed (openString_of_shownString toAsciiLowercase shown) contains _ output
    contains

end AnchorKit.DevPanel
