import AnchorKit.Base.Ascii
import Mathlib.Algebra.Ring.Nat

/-!
# The domain check of `domain_validator.rs`

`is_valid_domain_syntax` reads a domain byte by byte and keeps the length of the
label it is in, the byte before and whether a dot was seen.  The grammar it stands
for is stated on the labels: what splitting the domain at its dots yields.
-/

set_option autoImplicit false

namespace AnchorKit.Contract.DomainValidator

open AnchorKit.Base.Ascii (utf8Bytes)

def maxDomainLen : UInt32 := 255

def maxLabelLen : UInt32 := 63

def dash : UInt8 := 45

def dot : UInt8 := 46

/-- `u8::is_ascii_alphanumeric`. -/
def isAsciiAlphanumeric (c : UInt8) : Bool :=
  decide (48 ≤ c ∧ c ≤ 57) || decide (65 ≤ c ∧ c ≤ 90) || decide (97 ≤ c ∧ c ≤ 122)

structure Scan where
  hasDot : Bool
  labelLen : UInt32
  prev : Option UInt8
  deriving DecidableEq, Repr

/-- `label_len == 0 || prev == Some(b'-')`: the label read so far cannot end here. -/
def Scan.unfinished (scan : Scan) : Bool :=
  scan.labelLen == 0 || scan.prev == some dash

/-- One iteration of the loop, or its `return false`. -/
def scanByte (scan : Scan) (c : UInt8) : Option Scan :=
  let isAlnum := isAsciiAlphanumeric c
  let isDash := c == dash
  let isDot := c == dot
  if !isAlnum && !isDash && !isDot then none
  else if isDot then
    if scan.unfinished then none
    else some ⟨true, 0, some c⟩
  else if isDash && scan.labelLen == 0 then none
  else
    let labelLen := scan.labelLen + 1
    if maxLabelLen < labelLen then none
    else some ⟨scan.hasDot, labelLen, some c⟩

def scanBytes (scan : Scan) : List UInt8 → Bool
  | [] => if scan.unfinished then false else scan.hasDot
  | c :: rest =>
      match scanByte scan c with
      | none => false
      | some next => scanBytes next rest

def isValidDomainSyntax (len : UInt32) (bytes : List UInt8) : Bool :=
  if !(decide (3 ≤ len) && decide (len ≤ maxDomainLen)) then false
  else scanBytes ⟨false, 0, none⟩ bytes

def validateAnchorDomain (domain : List UInt8) : Bool :=
  isValidDomainSyntax (UInt32.ofNat domain.length) domain

def validateDomainSyntax (domain : String) : Bool :=
  isValidDomainSyntax (UInt32.ofNat (utf8Bytes domain).length) (utf8Bytes domain)

/-! ## The grammar -/

def isLabelByte (c : UInt8) : Bool :=
  isAsciiAlphanumeric c || c == dash

structure LabelWellFormed (label : List UInt8) : Prop where
  nonempty : 1 ≤ label.length
  short : label.length ≤ 63
  legal : ∀ c ∈ label, isLabelByte c = true
  first : label.head? ≠ some dash
  last : label.getLast? ≠ some dash

structure DomainWellFormed (domain : List UInt8) : Prop where
  long : 3 ≤ domain.length
  short : domain.length ≤ 255
  dotted : 2 ≤ (domain.splitOn dot).length
  labels : ∀ label ∈ domain.splitOn dot, LabelWellFormed label

theorem splitOn_cons_dot (rest : List UInt8) :
    (dot :: rest).splitOn dot = [] :: rest.splitOn dot := by
  unfold List.splitOn
  rw [List.splitOnP_cons_eq_if_modifyHead, if_pos (beq_self_eq_true dot)]

theorem splitOn_cons_of_ne {c : UInt8} (other : c ≠ dot) (rest : List UInt8) :
    (c :: rest).splitOn dot = (rest.splitOn dot).modifyHead (c :: ·) := by
  unfold List.splitOn
  rw [List.splitOnP_cons_eq_if_modifyHead, if_neg]
  simpa using other

theorem eq_dot_or_mem_label {c : UInt8} {domain : List UInt8} (member : c ∈ domain) :
    c = dot ∨ ∃ label ∈ domain.splitOn dot, c ∈ label := by
  induction domain with
  | nil => exact absurd member (List.not_mem_nil)
  | cons head rest ih =>
      obtain ⟨first, others, split⟩ :=
        List.exists_cons_of_ne_nil (List.splitOn_ne_nil dot rest)
      by_cases dotted : head = dot
      · subst dotted
        rw [splitOn_cons_dot]
        rcases List.mem_cons.mp member with same | later
        · exact Or.inl same
        · obtain same | ⟨label, listed, inside⟩ := ih later
          · exact Or.inl same
          · exact Or.inr ⟨label, List.mem_cons_of_mem _ listed, inside⟩
      · rw [splitOn_cons_of_ne dotted, split]
        rcases List.mem_cons.mp member with same | later
        · exact Or.inr ⟨head :: first, List.mem_cons_self, by simp [same]⟩
        · obtain same | ⟨label, listed, inside⟩ := ih later
          · exact Or.inl same
          · rw [split] at listed
            rcases List.mem_cons.mp listed with same | elsewhere
            · refine Or.inr ⟨head :: first, List.mem_cons_self, ?_⟩
              exact List.mem_cons_of_mem _ (same ▸ inside)
            · exact Or.inr ⟨label, List.mem_cons_of_mem _ elsewhere, inside⟩

/-! ## What the loop has read -/

/-- The locals after the bytes `label` since the last dot. -/
structure Reading (label : List UInt8) (scan : Scan) : Prop where
  counted : scan.labelLen.toNat = label.length
  short : label.length ≤ 63
  legal : ∀ c ∈ label, isLabelByte c = true
  first : label.head? ≠ some dash
  before : label ≠ [] → scan.prev = label.getLast?

theorem Reading.empty (hasDot : Bool) (prev : Option UInt8) :
    Reading [] ⟨hasDot, 0, prev⟩ where
  counted := rfl
  short := by simp
  legal := by simp
  first := by simp
  before := by simp

theorem Reading.labelLen_eq_zero_iff {label : List UInt8} {scan : Scan}
    (reading : Reading label scan) : scan.labelLen = 0 ↔ label = [] := by
  rw [← UInt32.toNat_inj, reading.counted]
  simp

theorem Reading.unfinished_eq_false_iff {label : List UInt8} {scan : Scan}
    (reading : Reading label scan) :
    scan.unfinished = false ↔ LabelWellFormed label := by
  simp only [Scan.unfinished, Bool.or_eq_false_iff, beq_eq_false_iff_ne, ne_eq,
    reading.labelLen_eq_zero_iff]
  constructor
  · intro ⟨nonempty, last⟩
    rw [reading.before nonempty] at last
    exact ⟨List.length_pos_iff.mpr nonempty, reading.short, reading.legal, reading.first, last⟩
  · intro formed
    have nonempty : label ≠ [] := List.length_pos_iff.mp formed.nonempty
    refine ⟨nonempty, ?_⟩
    rw [reading.before nonempty]
    exact formed.last

theorem isLabelByte_of_ne_dot {c : UInt8} (other : c ≠ dot) :
    (!isAsciiAlphanumeric c && !(c == dash) && !(c == dot)) = !isLabelByte c := by
  simp [isLabelByte, other]

theorem scanByte_dot (scan : Scan) :
    scanByte scan dot = if scan.unfinished then none else some ⟨true, 0, some dot⟩ := by
  have plain : (!isAsciiAlphanumeric dot && !(dot == dash) && !(dot == dot)) = false := by
    decide
  rw [scanByte, plain]
  simp

/-- A byte other than a dot is refused only if no label of the grammar starts with
what would then have been read. -/
theorem scanByte_refused {label : List UInt8} {scan : Scan} {c : UInt8}
    (reading : Reading label scan) (other : c ≠ dot)
    (refused : scanByte scan c = none) (more : List UInt8) :
    ¬ LabelWellFormed (label ++ c :: more) := by
  intro formed
  have legal : isLabelByte c = true := formed.legal c (by simp)
  have notLeading : (c == dash && scan.labelLen == 0) = false := by
    rw [Bool.and_eq_false_iff, beq_eq_false_iff_ne, beq_eq_false_iff_ne, ne_eq, ne_eq,
      reading.labelLen_eq_zero_iff]
    by_cases blank : label = []
    · subst blank
      exact Or.inl fun same => formed.first (by simp [same])
    · exact Or.inr blank
  have fits : ¬ maxLabelLen < scan.labelLen + 1 := by
    have bounded := formed.short
    simp only [List.length_append, List.length_cons] at bounded
    rw [UInt32.lt_iff_toNat_lt, UInt32.toNat_add, reading.counted]
    simp only [maxLabelLen, UInt32.reduceToNat]
    omega
  simp only [scanByte, isLabelByte_of_ne_dot other, legal, notLeading, fits, other,
    Bool.not_true, Bool.false_eq_true, if_false, beq_iff_eq] at refused
  exact absurd refused (by simp)

theorem scanByte_reading {label : List UInt8} {scan next : Scan} {c : UInt8}
    (reading : Reading label scan) (other : c ≠ dot)
    (read : scanByte scan c = some next) :
    Reading (label ++ [c]) next ∧ next.hasDot = scan.hasDot := by
  simp only [scanByte, isLabelByte_of_ne_dot other] at read
  by_cases legal : isLabelByte c = true
  · rw [legal] at read
    simp only [Bool.not_true, Bool.false_eq_true, if_false, beq_iff_eq, other] at read
    by_cases leading : (c == dash && scan.labelLen == 0) = true
    · simp [leading] at read
    · by_cases long : maxLabelLen < scan.labelLen + 1
      · simp [leading, long] at read
      · simp only [leading, long, Bool.false_eq_true, if_false, Option.some.injEq] at read
        subst read
        have room := reading.short
        have counted : (scan.labelLen + 1).toNat = label.length + 1 := by
          rw [UInt32.toNat_add, reading.counted]
          simp only [UInt32.reduceToNat]
          omega
        rw [UInt32.lt_iff_toNat_lt, counted] at long
        refine ⟨⟨?_, ?_, ?_, ?_, ?_⟩, rfl⟩
        · simpa using counted
        · simpa [maxLabelLen] using long
        · intro byte member
          rcases List.mem_append.mp member with old | new
          · exact reading.legal byte old
          · rw [List.mem_singleton.mp new]
            exact legal
        · cases label with
          | nil =>
              have zero : scan.labelLen = 0 := reading.labelLen_eq_zero_iff.mpr rfl
              simpa [zero] using leading
          | cons head tail => exact reading.first
        · intro _
          simp
  · simp [legal] at read

theorem scanBytes_eq_true_iff (rest : List UInt8) {label : List UInt8} {scan : Scan}
    (reading : Reading label scan) :
    scanBytes scan rest = true ↔
      (scan.hasDot = true ∨ 2 ≤ (rest.splitOn dot).length) ∧
        ∀ part ∈ (rest.splitOn dot).modifyHead (label ++ ·), LabelWellFormed part := by
  induction rest generalizing label scan with
  | nil =>
      simp only [scanBytes, List.splitOn_nil, List.modifyHead_cons, List.append_nil,
        List.forall_mem_singleton, List.length_singleton]
      rw [← reading.unfinished_eq_false_iff]
      cases scan.unfinished with
      | true => simp
      | false => simp
  | cons c rest ih =>
      obtain ⟨first, others, split⟩ :=
        List.exists_cons_of_ne_nil (List.splitOn_ne_nil dot rest)
      by_cases dotted : c = dot
      · subst dotted
        rw [splitOn_cons_dot, scanBytes, scanByte_dot]
        cases stuck : scan.unfinished with
        | true =>
            have unformed : ¬ LabelWellFormed label := by
              rw [← reading.unfinished_eq_false_iff, stuck]
              simp
            simp [unformed]
        | false =>
            have formed := reading.unfinished_eq_false_iff.mp stuck
            simp only [Bool.false_eq_true, if_false]
            rw [ih (Reading.empty true (some dot)), split]
            simp [formed]
      · rw [splitOn_cons_of_ne dotted, scanBytes, split]
        cases read : scanByte scan c with
        | none =>
            have unformed := scanByte_refused reading dotted read first
            simp [unformed]
        | some next =>
            obtain ⟨longer, same⟩ := scanByte_reading reading dotted read
            dsimp only
            rw [ih longer, same, split]
            simp

theorem isValidDomainSyntax_eq_true_iff (bytes : List UInt8)
    (counted : bytes.length < 2 ^ 32) :
    isValidDomainSyntax (UInt32.ofNat bytes.length) bytes = true ↔
      DomainWellFormed bytes := by
  have size : (UInt32.ofNat bytes.length).toNat = bytes.length := by
    rw [UInt32.toNat_ofNat']
    exact Nat.mod_eq_of_lt counted
  have scanned := scanBytes_eq_true_iff bytes (Reading.empty false none)
  have unchanged : (bytes.splitOn dot).modifyHead ([] ++ ·) = bytes.splitOn dot :=
    congrFun List.modifyHead_id _
  simp only [unchanged, Bool.false_eq_true, false_or] at scanned
  simp only [isValidDomainSyntax, UInt32.le_iff_toNat_le, size, maxDomainLen,
    UInt32.reduceToNat]
  constructor
  · intro accepted
    by_cases bounds : 3 ≤ bytes.length ∧ bytes.length ≤ 255
    · simp only [bounds.1, bounds.2, decide_true, Bool.and_true, Bool.not_true,
        Bool.false_eq_true, if_false] at accepted
      obtain ⟨dotted, labels⟩ := scanned.mp accepted
      exact ⟨bounds.1, bounds.2, dotted, labels⟩
    · simp [bounds] at accepted
  · intro formed
    simp only [formed.long, formed.short, decide_true, Bool.and_true, Bool.not_true,
      Bool.false_eq_true, if_false]
    exact scanned.mpr ⟨formed.dotted, formed.labels⟩

theorem DomainWellFormed.legal {domain : List UInt8} (formed : DomainWellFormed domain)
    {c : UInt8} (member : c ∈ domain) :
    isAsciiAlphanumeric c = true ∨ c = dash ∨ c = dot := by
  obtain same | ⟨label, listed, inside⟩ := eq_dot_or_mem_label member
  · exact Or.inr (Or.inr same)
  · have legal := (formed.labels label listed).legal c inside
    simp only [isLabelByte, Bool.or_eq_true, beq_iff_eq] at legal
    rcases legal with alnum | dashed
    · exact Or.inl alnum
    · exact Or.inr (Or.inl dashed)

/-- Both entry points accept exactly the grammar, nothing they accept holds a byte
outside `[A-Za-z0-9.-]`, and they agree. -/
theorem validators_accept_exactly_grammar (domain : List UInt8) (text : String)
    (counted : domain.length < 2 ^ 32) (textCounted : (utf8Bytes text).length < 2 ^ 32) :
    (validateAnchorDomain domain = true ↔ DomainWellFormed domain) ∧
      (validateDomainSyntax text = true ↔ DomainWellFormed (utf8Bytes text)) ∧
      (validateAnchorDomain domain = true →
        ∀ c ∈ domain, isAsciiAlphanumeric c = true ∨ c = dash ∨ c = dot) ∧
      (validateDomainSyntax text = true →
        ∀ c ∈ utf8Bytes text, isAsciiAlphanumeric c = true ∨ c = dash ∨ c = dot) ∧
      (utf8Bytes text = domain → validateDomainSyntax text = validateAnchorDomain domain) := by
  have onBytes := isValidDomainSyntax_eq_true_iff domain counted
  have onText := isValidDomainSyntax_eq_true_iff (utf8Bytes text) textCounted
  refine ⟨onBytes, onText, ?_, ?_, ?_⟩
  · intro accepted c member
    exact (onBytes.mp accepted).legal member
  · intro accepted c member
    exact (onText.mp accepted).legal member
  · intro same
    rw [validateDomainSyntax, validateAnchorDomain, same]

def shortDomain : List UInt8 := [97, 46, 99, 111]

theorem shortDomain_accepted :
    shortDomain.length < 2 ^ 32 ∧ (utf8Bytes "a.co").length < 2 ^ 32 ∧
      validateAnchorDomain shortDomain = true ∧ DomainWellFormed shortDomain ∧
      validateDomainSyntax "a.co" = validateAnchorDomain shortDomain := by
  have bytes : utf8Bytes "a.co" = shortDomain := by decide
  have counted : shortDomain.length < 2 ^ 32 := by decide
  have textCounted : (utf8Bytes "a.co").length < 2 ^ 32 := by
    rw [bytes]
    exact counted
  have accepted : validateAnchorDomain shortDomain = true := by decide
  obtain ⟨grammar, _, _, _, agree⟩ :=
    validators_accept_exactly_grammar shortDomain "a.co" counted textCounted
  exact ⟨counted, textCounted, accepted, grammar.mp accepted, agree bytes⟩

end AnchorKit.Contract.DomainValidator
