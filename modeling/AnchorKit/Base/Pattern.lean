import AnchorKit.Base.Words

/-!
# Global replacement

A pattern says at each place of a text, knowing the symbol before it, whether a match
starts there and how long it is.  A text is cut from its left end: a match is taken as
soon as one starts, and the search goes on behind it.
-/

set_option autoImplicit false

namespace AnchorKit.Base

/-- No match is empty, and none is longer than the text. -/
structure Pattern (Sym : Type) where
  find : Option Sym → List Sym → Option Nat
  fits : ∀ {before text length}, find before text = some length →
    0 < length ∧ length ≤ text.length

inductive Segment (Sym : Type) where
  | kept (symbol : Sym)
  | matched (text : List Sym)

namespace Segment

variable {Sym : Type}

def image (replacement : List Sym) : Segment Sym → List Sym
  | .kept symbol => [symbol]
  | .matched _ => replacement

/-- Each symbol with whether it belongs to a match. -/
def marks : Segment Sym → List (Sym × Bool)
  | .kept symbol => [(symbol, false)]
  | .matched text => text.map (·, true)

/-- What stands before, between and behind the matches. -/
def between : List (Segment Sym) → List (List Sym)
  | [] => [[]]
  | .kept symbol :: rest => (between rest).modifyHead (symbol :: ·)
  | .matched _ :: rest => [] :: between rest

theorem between_eq_cons (parts : List (Segment Sym)) :
    ∃ first others, between parts = first :: others := by
  induction parts with
  | nil => exact ⟨[], [], rfl⟩
  | cons part rest ofRest =>
      obtain ⟨first, others, shape⟩ := ofRest
      cases part with
      | kept symbol => exact ⟨symbol :: first, others, by rw [between, shape]; rfl⟩
      | matched text => exact ⟨[], first :: others, by rw [between, shape]⟩

theorem between_kept (text : List Sym) : between (text.map .kept) = [text] := by
  induction text with
  | nil => rfl
  | cons symbol rest ofRest => rw [List.map_cons, between, ofRest, List.modifyHead_cons]

theorem modifyHead_nil_append (pieces : List (List Sym)) :
    pieces.modifyHead ([] ++ ·) = pieces := by
  cases pieces <;> rfl

end Segment

namespace Pattern

variable {Sym : Type} (pattern : Pattern Sym)

/-- The parts of a text whose first `skip` symbols belong to a match that is taken
already. -/
def cutFrom (before : Option Sym) : Nat → List Sym → List (Segment Sym)
  | _, [] => []
  | skip + 1, symbol :: rest => cutFrom (some symbol) skip rest
  | 0, symbol :: rest =>
      match pattern.find before (symbol :: rest) with
      | some (length + 1) =>
          .matched (symbol :: rest.take length) :: cutFrom (some symbol) length rest
      | _ => .kept symbol :: cutFrom (some symbol) 0 rest

def cut (before : Option Sym) (text : List Sym) : List (Segment Sym) :=
  cutFrom pattern before 0 text

def replace (replacement text : List Sym) : List Sym :=
  (pattern.cut none text).flatMap (Segment.image replacement)

/-- The text with the symbols of its matches marked. -/
def mark (text : List Sym) : List (Sym × Bool) :=
  (pattern.cut none text).flatMap Segment.marks

def pieces (text : List Sym) : List (List Sym) :=
  Segment.between (pattern.cut none text)

@[simp] theorem cut_nil (before : Option Sym) : pattern.cut before [] = [] :=
  rfl

theorem cutFrom_length (symbol : Sym) (front rest : List Sym) :
    pattern.cutFrom (some symbol) front.length (front ++ rest) =
      pattern.cut (symbol :: front).getLast? rest := by
  induction front generalizing symbol with
  | nil => rfl
  | cons next front ofFront =>
      rw [List.length_cons, List.cons_append, cutFrom, ofFront, List.getLast?_cons_cons]

theorem cut_miss {before : Option Sym} {symbol : Sym} {rest : List Sym}
    (miss : pattern.find before (symbol :: rest) = none) :
    pattern.cut before (symbol :: rest) = .kept symbol :: pattern.cut (some symbol) rest := by
  unfold cut
  rw [cutFrom, miss]

theorem cut_hit {before : Option Sym} {text rest : List Sym}
    (hit : pattern.find before (text ++ rest) = some text.length) :
    pattern.cut before (text ++ rest) = .matched text :: pattern.cut text.getLast? rest := by
  cases text with
  | nil => exact absurd (pattern.fits hit).1 (by simp)
  | cons symbol front =>
      rw [← cutFrom_length]
      rw [List.cons_append, List.length_cons] at hit
      unfold cut
      rw [List.cons_append, cutFrom, hit]
      simp

theorem induct {motive : Option Sym → List Sym → Prop}
    (nil : ∀ before, motive before [])
    (miss : ∀ before symbol rest, pattern.find before (symbol :: rest) = none →
      motive (some symbol) rest → motive before (symbol :: rest))
    (hit : ∀ before text rest, pattern.find before (text ++ rest) = some text.length →
      motive text.getLast? rest → motive before (text ++ rest))
    (before : Option Sym) (text : List Sym) : motive before text := by
  induction size : text.length using Nat.strongRecOn generalizing before text with
  | ind size shorter =>
      cases text with
      | nil => exact nil before
      | cons symbol rest =>
          cases found : pattern.find before (symbol :: rest) with
          | none =>
              exact miss before symbol rest found
                (shorter rest.length (by simp [← size]) _ _ rfl)
          | some length =>
              obtain ⟨positive, fits⟩ := pattern.fits found
              have front : ((symbol :: rest).take length).length = length :=
                List.length_take_of_le fits
              rw [← List.take_append_drop length (symbol :: rest)] at found ⊢
              refine hit before _ _ (by rw [found, front]) (shorter _ ?_ _ _ rfl)
              rw [List.length_drop]
              omega

theorem map_fst_marks (before : Option Sym) (text : List Sym) :
    ((pattern.cut before text).flatMap Segment.marks).map Prod.fst = text := by
  induction before, text using pattern.induct with
  | nil => rfl
  | miss before symbol rest missed ofRest =>
      rw [cut_miss _ missed, List.flatMap_cons, List.map_append, ofRest]
      rfl
  | hit before text rest found ofRest =>
      rw [cut_hit _ found, List.flatMap_cons, List.map_append, ofRest, Segment.marks]
      simp [Function.comp_def]

section Locality

def Blind : Prop :=
  ∀ before text, pattern.find before text = pattern.find none text

/-- No match reaches this symbol. -/
def Barred (symbol : Sym) : Prop :=
  ∀ before text rest, pattern.find before (text ++ symbol :: rest) = pattern.find before text

variable {pattern}

theorem Blind.cut_eq (blind : pattern.Blind) (before other : Option Sym) (text : List Sym) :
    pattern.cut before text = pattern.cut other text := by
  induction before, text using pattern.induct generalizing other with
  | nil => rfl
  | miss before symbol rest missed ofRest =>
      rw [cut_miss _ missed, cut_miss]
      rw [blind, ← blind before, missed]
  | hit before text rest found ofRest =>
      rw [cut_hit _ found, cut_hit]
      rw [blind, ← blind before, found]

theorem Barred.find_cons {symbol : Sym} (barred : pattern.Barred symbol) (before : Option Sym)
    (rest : List Sym) : pattern.find before (symbol :: rest) = none := by
  have empty := barred before [] rest
  rw [List.nil_append] at empty
  rw [empty]
  cases found : pattern.find before [] with
  | none => rfl
  | some length =>
      have fits := pattern.fits found
      rw [List.length_nil] at fits
      omega

theorem Barred.cut_append {symbol : Sym} (barred : pattern.Barred symbol)
    (before : Option Sym) (text rest : List Sym) :
    pattern.cut before (text ++ symbol :: rest) =
      pattern.cut before text ++ .kept symbol :: pattern.cut (some symbol) rest := by
  induction before, text using pattern.induct with
  | nil before => exact cut_miss _ (barred.find_cons before rest)
  | miss before first others missed ofOthers =>
      rw [cut_miss _ missed, List.cons_append, cut_miss, ofOthers, List.cons_append]
      rw [← List.cons_append, barred, missed]
  | hit before front others found ofOthers =>
      rw [cut_hit _ found, List.append_assoc, cut_hit, ofOthers, List.cons_append]
      rw [← List.append_assoc, barred, found]

theorem cut_of_misses {front : List Sym}
    (misses : ∀ symbol ∈ front, ∀ before rest, pattern.find before (symbol :: rest) = none)
    (blind : pattern.Blind) (before : Option Sym) (rest : List Sym) :
    pattern.cut before (front ++ rest) = front.map .kept ++ pattern.cut none rest := by
  induction front generalizing before with
  | nil => exact blind.cut_eq before none rest
  | cons symbol front ofFront =>
      rw [List.forall_mem_cons] at misses
      rw [List.cons_append, cut_miss _ (misses.1 before _), ofFront misses.2]
      rfl

end Locality

/-! ## Texts that go on behind a symbol -/

section Stops

variable {holds : Sym → Bool} {stop : Sym}

theorem takeWhile_append_stop (fails : holds stop = false) (front rest : List Sym) :
    (front ++ stop :: rest).takeWhile holds = front.takeWhile holds := by
  induction front with
  | nil => simp [fails]
  | cons first front ofFront => cases here : holds first <;> simp [here, ofFront]

theorem dropWhile_append_stop (fails : holds stop = false) (front rest : List Sym) :
    (front ++ stop :: rest).dropWhile holds = front.dropWhile holds ++ stop :: rest := by
  induction front with
  | nil => simp [fails]
  | cons first front ofFront => cases here : holds first <;> simp [here, ofFront]

theorem mem_take_append_cons {text : List Sym} {count : Nat} (short : text.length < count)
    (symbol : Sym) (rest : List Sym) : symbol ∈ (text ++ symbol :: rest).take count := by
  obtain ⟨more, size⟩ : ∃ more, count - text.length = more + 1 :=
    ⟨count - text.length - 1, by omega⟩
  rw [List.take_append, List.mem_append, size, List.take_succ_cons]
  exact .inr List.mem_cons_self

end Stops

/-! ## Patterns of whole words -/

section WholeWords

variable {pattern} {word : Sym → Bool}

theorem words_between_append {symbol : Sym} (outside : word symbol = false)
    (left right : List (Segment Sym)) (front : List Sym) :
    ((Segment.between (left ++ .kept symbol :: right)).modifyHead (front ++ ·)).flatMap
        (words word) =
      ((Segment.between left).modifyHead (front ++ ·)).flatMap (words word) ++
        (Segment.between right).flatMap (words word) := by
  induction left generalizing front with
  | nil =>
      obtain ⟨first, others, shape⟩ := Segment.between_eq_cons right
      simp [Segment.between, shape, words_append_cons outside]
  | cons part left ofLeft =>
      cases part with
      | kept other =>
          have grown := ofLeft (front ++ [other])
          simp only [List.cons_append, Segment.between, List.modifyHead_modifyHead]
          simpa [Function.comp_def] using grown
      | matched text =>
          have behind := ofLeft []
          rw [Segment.modifyHead_nil_append, Segment.modifyHead_nil_append] at behind
          simp [Segment.between, behind]

/-- No match goes over the end of a word, and of the words alone just those that are `caught`
are matched: the words of the pieces are the other words of the text. -/
theorem words_between_cut {caught : List Sym → Bool}
    (barred : ∀ symbol, word symbol = false → pattern.Barred symbol)
    (ofRun : ∀ before run, Breaks word before → (∀ symbol ∈ run, word symbol = true) →
      (Segment.between (pattern.cut before run)).flatMap (words word) =
        (words word run).filter fun run => !caught run)
    (before : Option Sym) (breaks : Breaks word before) (text : List Sym) :
    (Segment.between (pattern.cut before text)).flatMap (words word) =
      (words word text).filter fun run => !caught run := by
  induction size : text.length using Nat.strongRecOn generalizing text with
  | ind size shorter =>
      obtain ⟨front, run, rfl, inside, ends⟩ := exists_last_run word text
      rcases List.eq_nil_or_concat front with rfl | ⟨rest, symbol, rfl⟩
      · exact ofRun before run breaks inside
      · rw [List.concat_eq_append] at ends size ⊢
        have outside : word symbol = false := ends symbol (by simp)
        have earlier := shorter rest.length (by simp [← size]) rest rfl
        have latest := ofRun (some symbol) run (breaks_some.2 outside) inside
        have parted := words_between_append outside (pattern.cut before rest)
          (pattern.cut (some symbol) run) []
        rw [Segment.modifyHead_nil_append, Segment.modifyHead_nil_append] at parted
        rw [List.append_assoc, List.singleton_append, (barred symbol outside).cut_append, parted,
          earlier, latest, words_append_cons outside, List.filter_append]

end WholeWords

end Pattern

end AnchorKit.Base
