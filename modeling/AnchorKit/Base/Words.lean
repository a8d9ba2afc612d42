import Mathlib.Data.List.Induction

/-!
# The words of a text

A word is a longest run of word symbols.  Where no word reaches over the seam of two
texts, the words of both together are those of each.
-/

set_option autoImplicit false

namespace AnchorKit.Base

variable {Sym Other : Type}

def words (word : Sym → Bool) (text : List Sym) : List (List Sym) :=
  (text.splitOnP fun symbol => !word symbol).filter fun run => !run.isEmpty

/-- No word goes on with this neighbour. -/
def Breaks (word : Sym → Bool) (neighbour : Option Sym) : Prop :=
  ∀ symbol ∈ neighbour, word symbol = false

instance (word : Sym → Bool) (neighbour : Option Sym) : Decidable (Breaks word neighbour) :=
  inferInstanceAs (Decidable (∀ symbol ∈ neighbour, word symbol = false))

/-- The run stands in the text, between neighbours that are no word symbols or the ends
of the text. -/
def Delimited (word : Sym → Bool) (run text : List Sym) : Prop :=
  ∃ before after, text = before ++ run ++ after ∧
    Breaks word before.getLast? ∧ Breaks word after.head?

section Words

variable {word : Sym → Bool}

theorem breaks_none : Breaks word none := by
  simp [Breaks]

theorem breaks_some {symbol : Sym} : Breaks word (some symbol) ↔ word symbol = false := by
  simp [Breaks]

theorem breaks_map {word : Other → Bool} {rename : Sym → Other} {neighbour : Option Sym} :
    Breaks word (neighbour.map rename) ↔ Breaks (word ∘ rename) neighbour := by
  cases neighbour <;> simp [Breaks]

@[simp] theorem words_nil : words word [] = [] := by
  simp [words]

theorem words_append_cons {symbol : Sym} (outside : word symbol = false)
    (left right : List Sym) :
    words word (left ++ symbol :: right) = words word left ++ words word right := by
  unfold words
  rw [List.splitOnP_append_cons _ _ (by simp [outside]), List.filter_append]

theorem words_cons {symbol : Sym} (outside : word symbol = false) (text : List Sym) :
    words word (symbol :: text) = words word text := by
  simpa using words_append_cons outside [] text

theorem words_run {run : List Sym} (nonempty : run ≠ [])
    (inside : ∀ symbol ∈ run, word symbol = true) : words word run = [run] := by
  unfold words
  rw [List.splitOnP_eq_singleton (by simpa using inside)]
  simpa using nonempty

theorem words_append {left right : List Sym}
    (seam : Breaks word left.getLast? ∨ Breaks word right.head?) :
    words word (left ++ right) = words word left ++ words word right := by
  rcases seam with ends | begins
  · rcases List.eq_nil_or_concat left with rfl | ⟨front, last, rfl⟩
    · simp
    · have outside : word last = false := ends last (by simp)
      rw [List.concat_eq_append, List.append_assoc, List.singleton_append,
        words_append_cons outside, words_append_cons outside, words_nil, List.append_nil]
  · cases right with
    | nil => simp
    | cons first rest =>
        have outside : word first = false := begins first (by simp)
        rw [words_append_cons outside, words_cons outside]

theorem words_append_enclosed {middle : List Sym} (nonempty : middle ≠ [])
    (begins : Breaks word middle.head?) (ends : Breaks word middle.getLast?)
    (left right : List Sym) :
    words word (left ++ (middle ++ right)) =
      words word left ++ (words word middle ++ words word right) := by
  have goesOn : Breaks word (middle ++ right).head? := by
    obtain ⟨first, rest, rfl⟩ := List.exists_cons_of_ne_nil nonempty
    exact begins
  rw [words_append (.inr goesOn), words_append (.inl ends)]

theorem exists_last_run (word : Sym → Bool) (text : List Sym) :
    ∃ front run, text = front ++ run ∧ (∀ symbol ∈ run, word symbol = true) ∧
      Breaks word front.getLast? := by
  induction text using List.reverseRecOn with
  | nil => exact ⟨[], [], rfl, by simp, breaks_none⟩
  | append_singleton text last ofText =>
      cases inside : word last with
      | false => exact ⟨text ++ [last], [], by simp, by simp, by simp [Breaks, inside]⟩
      | true =>
          obtain ⟨front, run, rfl, ofRun, breaks⟩ := ofText
          refine ⟨front, run ++ [last], by simp, ?_, breaks⟩
          intro symbol member
          rcases List.mem_append.1 member with earlier | latest
          · exact ofRun symbol earlier
          · rwa [List.mem_singleton.1 latest]

theorem words_append_run {front run tail : List Sym} (breaks : Breaks word front.getLast?)
    (ofRun : ∀ symbol ∈ run, word symbol = true) (nonempty : tail ≠ [])
    (ofTail : ∀ symbol ∈ tail, word symbol = true) :
    words word (front ++ run ++ tail) = words word front ++ [run ++ tail] := by
  have joined : words word (run ++ tail) = [run ++ tail] := by
    refine words_run (by simp [nonempty]) ?_
    intro symbol member
    exact (List.mem_append.1 member).elim (ofRun symbol) (ofTail symbol)
  rw [List.append_assoc, words_append (.inl breaks), joined]

theorem splitOnP_map (separates : Other → Bool) (rename : Sym → Other) (text : List Sym) :
    (text.map rename).splitOnP separates =
      (text.splitOnP (separates ∘ rename)).map (List.map rename) := by
  induction text with
  | nil => simp
  | cons first rest ofRest =>
      rw [List.map_cons, List.splitOnP_cons_eq_if_modifyHead,
        List.splitOnP_cons_eq_if_modifyHead, ofRest, Function.comp_apply]
      cases separates (rename first) with
      | true => simp
      | false => cases rest.splitOnP (separates ∘ rename) <;> simp

theorem words_map (word : Other → Bool) (rename : Sym → Other) (text : List Sym) :
    words word (text.map rename) = (words (word ∘ rename) text).map (List.map rename) := by
  unfold words
  rw [splitOnP_map, List.filter_map]
  simp [Function.comp_def]

theorem eq_of_mem_words_run {run text : List Sym}
    (inside : ∀ symbol ∈ text, word symbol = true) (member : run ∈ words word text) :
    run = text ∧ run ≠ [] := by
  by_cases empty : text = []
  · simp [empty] at member
  · rw [words_run empty inside, List.mem_singleton] at member
    exact ⟨member, member ▸ empty⟩

theorem delimited_of_mem_words {run text : List Sym} (member : run ∈ words word text) :
    run ≠ [] ∧ (∀ symbol ∈ run, word symbol = true) ∧ Delimited word run text := by
  -- the run is the last one of the text, or it stands before the symbol ahead of the last
  induction size : text.length using Nat.strongRecOn generalizing text with
  | ind size shorter =>
      obtain ⟨front, last, rfl, inside, breaks⟩ := exists_last_run word text
      rw [words_append (.inl breaks), List.mem_append] at member
      rcases member with earlier | latest
      · rcases List.eq_nil_or_concat front with rfl | ⟨rest, separator, rfl⟩
        · simp at earlier
        · rw [List.concat_eq_append] at earlier breaks size ⊢
          have outside : word separator = false := breaks separator (by simp)
          rw [words_append_cons outside, words_nil, List.append_nil] at earlier
          obtain ⟨nonempty, ofRun, before, after, rfl, left, right⟩ :=
            shorter rest.length (by simp [← size]) earlier rfl
          refine ⟨nonempty, ofRun, before, after ++ separator :: last, by simp, left, ?_⟩
          cases after with
          | nil => exact breaks_some.2 outside
          | cons next others => exact right
      · obtain ⟨rfl, nonempty⟩ := eq_of_mem_words_run inside latest
        exact ⟨nonempty, inside, front, [], by simp, breaks, breaks_none⟩

theorem mem_words_iff {run text : List Sym} :
    run ∈ words word text ↔
      run ≠ [] ∧ (∀ symbol ∈ run, word symbol = true) ∧ Delimited word run text := by
  refine ⟨delimited_of_mem_words, ?_⟩
  rintro ⟨nonempty, inside, before, after, rfl, left, right⟩
  rw [words_append (.inr right), words_append (.inl left), words_run nonempty inside]
  simp

end Words

end AnchorKit.Base
