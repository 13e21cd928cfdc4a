import Mathlib.Data.List.Basic

namespace ErieCanal.Lib
namespace RegExp

inductive Atom where
  | char (c : Char)
  | any
  deriving DecidableEq, Repr

/-- The dot accepts every character but a line terminator. -/
def Atom.accepts : Atom → Char → Bool
  | .char expected, c => c == expected
  | .any, c => !(['\n', '\r', '\u2028', '\u2029'].contains c)

inductive Term where
  | one (atom : Atom)
  | star (atom : Atom)
  deriving DecidableEq, Repr

/-- A pattern is a sequence of terms. It has no alternatives, groups, classes or assertions. -/
abbrev Pattern := List Term

inductive Token where
  | atom (atom : Atom)
  | star
  deriving DecidableEq, Repr

def syntaxCharacters : List Char :=
  ['^', '$', '\\', '.', '*', '+', '?', '(', ')', '[', ']', '{', '}', '|']

/-- A backslash before a character that is neither a letter nor a digit takes it literally. -/
def tokens : List Char → Option (List Token)
  | [] => some []
  | '\\' :: c :: rest =>
      if c.isAlphanum then none else (tokens rest).map (.atom (.char c) :: ·)
  | '.' :: rest => (tokens rest).map (.atom .any :: ·)
  | '*' :: rest => (tokens rest).map (.star :: ·)
  | c :: rest =>
      if syntaxCharacters.contains c then none else (tokens rest).map (.atom (.char c) :: ·)

/-- A star repeats the atom before it. -/
def terms : List Token → Option Pattern
  | [] => some []
  | .atom a :: .star :: rest => (terms rest).map (.star a :: ·)
  | .atom a :: rest => (terms rest).map (.one a :: ·)
  | .star :: _ => none

def compile (source : String) : Option Pattern := (tokens source.toList).bind terms

theorem tokens_escape {c : Char} (literal : c.isAlphanum = false) (rest : List Char) :
    tokens ('\\' :: c :: rest) = (tokens rest).map (.atom (.char c) :: ·) := by
  rw [tokens, if_neg (by rw [literal]; decide)]

theorem tokens_literal {c : Char} (literal : c ∉ syntaxCharacters) (rest : List Char) :
    tokens (c :: rest) = (tokens rest).map (.atom (.char c) :: ·) := by
  have different (other : Char) (reserved : other ∈ syntaxCharacters) : c ≠ other :=
    fun same => literal (same ▸ reserved)
  have backslash := different '\\' (by decide)
  have dot := different '.' (by decide)
  have star := different '*' (by decide)
  rw [tokens]
  · rw [if_neg (by rwa [List.contains_iff_mem])]
  all_goals simp_all

theorem terms_one {a : Atom} {rest : List Token} (unrepeated : rest.head? ≠ some .star) :
    terms (.atom a :: rest) = (terms rest).map (.one a :: ·) := by
  cases rest with
  | nil => rfl
  | cons token rest =>
      cases token with
      | atom next => rfl
      | star => simp at unrepeated

/-- A star first takes as many characters as it can, then gives back one after the other. -/
def many (a : Atom) (next : List Char → Option Nat) : List Char → Option Nat
  | [] => next []
  | c :: rest =>
      if a.accepts c then ((many a next rest).map (· + 1)).or (next (c :: rest))
      else next (c :: rest)

/-- The length of the preferred match at the beginning of the text. -/
def matchHere : Pattern → List Char → Option Nat
  | [], _ => some 0
  | .one _ :: _, [] => none
  | .one a :: rest, c :: text =>
      if a.accepts c then (matchHere rest text).map (· + 1) else none
  | .star a :: rest, text => many a (matchHere rest) text

/-- The end of the first match in the text. -/
def search (pattern : Pattern) : List Char → Option Nat
  | [] => matchHere pattern []
  | c :: rest => (matchHere pattern (c :: rest)).or ((search pattern rest).map (· + 1))

/-- The pattern matches the whole word. -/
def Word : Pattern → List Char → Prop
  | [], word => word = []
  | .one a :: rest, word => ∃ c tail, word = c :: tail ∧ a.accepts c = true ∧ Word rest tail
  | .star a :: rest, word => ∃ repeated tail, word = repeated ++ tail ∧
      (∀ c ∈ repeated, a.accepts c = true) ∧ Word rest tail

theorem word_literals (text word : List Char) :
    Word (text.map fun c => .one (.char c)) word ↔ word = text := by
  induction text generalizing word with
  | nil => rfl
  | cons c text ih =>
      constructor
      · rintro ⟨first, tail, rfl, accepted, matched⟩
        rw [(ih tail).mp matched, beq_iff_eq.mp accepted]
      · rintro rfl
        exact ⟨c, text, rfl, beq_self_eq_true c, (ih text).mpr rfl⟩

theorem many_isSome_iff (a : Atom) (next : List Char → Option Nat) (text : List Char) :
    (many a next text).isSome = true ↔ ∃ repeated rest, text = repeated ++ rest ∧
      (∀ c ∈ repeated, a.accepts c = true) ∧ (next rest).isSome = true := by
  induction text with
  | nil =>
      constructor
      · intro found
        exact ⟨[], [], rfl, by simp, found⟩
      · rintro ⟨repeated, rest, split, _, found⟩
        obtain ⟨rfl, rfl⟩ := List.nil_eq_append_iff.mp split
        exact found
  | cons c text ih =>
      have stop : (next (c :: text)).isSome = true → ∃ repeated rest,
          c :: text = repeated ++ rest ∧ (∀ c ∈ repeated, a.accepts c = true) ∧
            (next rest).isSome = true := fun found => ⟨[], c :: text, rfl, by simp, found⟩
      by_cases accepted : a.accepts c = true
      · rw [many, if_pos accepted, Option.isSome_or, Option.isSome_map, Bool.or_eq_true, ih]
        constructor
        · rintro (⟨repeated, rest, rfl, each, found⟩ | found)
          · exact ⟨c :: repeated, rest, rfl, List.forall_mem_cons.mpr ⟨accepted, each⟩, found⟩
          · exact stop found
        · rintro ⟨repeated, rest, split, each, found⟩
          cases repeated with
          | nil => exact Or.inr (split ▸ found)
          | cons first repeated =>
              obtain ⟨rfl, rfl⟩ := List.cons.inj split
              exact Or.inl ⟨repeated, rest, rfl, (List.forall_mem_cons.mp each).2, found⟩
      · rw [many, if_neg accepted]
        refine ⟨stop, ?_⟩
        rintro ⟨repeated, rest, split, each, found⟩
        cases repeated with
        | nil => exact split ▸ found
        | cons first repeated =>
            obtain ⟨rfl, rfl⟩ := List.cons.inj split
            exact absurd (each c List.mem_cons_self) accepted

/-- There is a match at the beginning of the text if some word of the pattern is there. -/
theorem matchHere_isSome_iff (pattern : Pattern) (text : List Char) :
    (matchHere pattern text).isSome = true ↔
      ∃ word rest, text = word ++ rest ∧ Word pattern word := by
  induction pattern generalizing text with
  | nil => simp [matchHere, Word]
  | cons term pattern ih =>
      cases term with
      | one a =>
          cases text with
          | nil =>
              refine iff_of_false (by simp [matchHere]) ?_
              rintro ⟨_, rest, split, c, tail, rfl, _⟩
              cases split
          | cons c text =>
              by_cases accepted : a.accepts c = true
              · rw [matchHere, if_pos accepted, Option.isSome_map, ih]
                constructor
                · rintro ⟨word, rest, rfl, matched⟩
                  exact ⟨c :: word, rest, rfl, c, word, rfl, accepted, matched⟩
                · rintro ⟨_, rest, split, first, word, rfl, _, matched⟩
                  obtain ⟨rfl, rfl⟩ := List.cons.inj split
                  exact ⟨word, rest, rfl, matched⟩
              · rw [matchHere, if_neg accepted]
                refine iff_of_false (by simp) ?_
                rintro ⟨_, rest, split, first, word, rfl, accepts, _⟩
                obtain ⟨rfl, rfl⟩ := List.cons.inj split
                exact accepted accepts
      | star a =>
          rw [matchHere, many_isSome_iff]
          constructor
          · rintro ⟨repeated, rest, rfl, each, found⟩
            obtain ⟨word, rest, rfl, matched⟩ := (ih rest).mp found
            exact ⟨repeated ++ word, rest, (List.append_assoc ..).symm, repeated, word, rfl, each,
              matched⟩
          · rintro ⟨_, rest, rfl, repeated, word, rfl, each, matched⟩
            exact ⟨repeated, word ++ rest, List.append_assoc .., each,
              (ih _).mpr ⟨word, rest, rfl, matched⟩⟩

/-- The search finds something if a word of the pattern is anywhere in the text. -/
theorem search_isSome_iff (pattern : Pattern) (text : List Char) :
    (search pattern text).isSome = true ↔
      ∃ word, word <:+: text ∧ Word pattern word := by
  induction text with
  | nil =>
      rw [search, matchHere_isSome_iff]
      constructor
      · rintro ⟨word, rest, split, matched⟩
        exact ⟨word, ⟨[], rest, split.symm⟩, matched⟩
      · rintro ⟨word, inside, matched⟩
        obtain rfl := List.infix_nil.mp inside
        exact ⟨[], [], rfl, matched⟩
  | cons c text ih =>
      rw [search, Option.isSome_or, Option.isSome_map, Bool.or_eq_true, ih, matchHere_isSome_iff]
      constructor
      · rintro (⟨word, rest, split, matched⟩ | ⟨word, inside, matched⟩)
        · exact ⟨word, ⟨[], rest, split.symm⟩, matched⟩
        · exact ⟨word, List.infix_cons inside, matched⟩
      · rintro ⟨word, inside, matched⟩
        rcases List.infix_cons_iff.mp inside with ⟨rest, split⟩ | inside
        · exact Or.inl ⟨word, rest, split.symm, matched⟩
        · exact Or.inr ⟨word, inside, matched⟩

/-- The characters that a star takes are followed by what comes after it. -/
theorem many_some {a : Atom} {next : List Char → Option Nat} {text : List Char} {length : Nat}
    (found : many a next text = some length) :
    ∃ repeated rest more, text = repeated ++ rest ∧ (∀ c ∈ repeated, a.accepts c = true) ∧
      next rest = some more ∧ length = repeated.length + more := by
  induction text generalizing length with
  | nil => exact ⟨[], [], length, rfl, by simp, found, by simp⟩
  | cons c text ih =>
      have stop (found : next (c :: text) = some length) :
          ∃ repeated rest more, c :: text = repeated ++ rest ∧
            (∀ c ∈ repeated, a.accepts c = true) ∧ next rest = some more ∧
            length = repeated.length + more :=
        ⟨[], c :: text, length, rfl, by simp, found, by simp⟩
      rw [many] at found
      split at found
      next accepted =>
        rcases Option.or_eq_some_iff.mp found with taken | ⟨-, here⟩
        · obtain ⟨inner, longer, rfl⟩ := Option.map_eq_some_iff.mp taken
          obtain ⟨repeated, rest, more, rfl, each, later, rfl⟩ := ih longer
          refine ⟨c :: repeated, rest, more, rfl, List.forall_mem_cons.mpr ⟨accepted, each⟩, later, ?_⟩
          rw [List.length_cons]
          omega
        · exact stop here
      next => exact stop found

/-- A match is a word of the pattern at the beginning of the text. -/
theorem matchHere_some {pattern : Pattern} {text : List Char} {length : Nat}
    (found : matchHere pattern text = some length) :
    ∃ word rest, text = word ++ rest ∧ Word pattern word ∧ length = word.length := by
  induction pattern generalizing text length with
  | nil =>
      rw [matchHere, Option.some.injEq] at found
      exact ⟨[], text, rfl, rfl, found.symm⟩
  | cons term pattern ih =>
      cases term with
      | one a =>
          cases text with
          | nil => cases found
          | cons c text =>
              rw [matchHere, Option.ite_none_right_eq_some] at found
              obtain ⟨inner, later, rfl⟩ := Option.map_eq_some_iff.mp found.2
              obtain ⟨word, rest, rfl, matched, rfl⟩ := ih later
              exact ⟨c :: word, rest, rfl, ⟨c, word, rfl, found.1, matched⟩, rfl⟩
      | star a =>
          obtain ⟨repeated, rest, more, rfl, each, later, rfl⟩ := many_some found
          obtain ⟨word, rest, rfl, matched, rfl⟩ := ih later
          exact ⟨repeated ++ word, rest, (List.append_assoc ..).symm,
            ⟨repeated, word, rfl, each, matched⟩, (List.length_append ..).symm⟩

/-- The search ends behind a word of the pattern. -/
theorem search_some {pattern : Pattern} {text : List Char} {index : Nat}
    (found : search pattern text = some index) :
    ∃ front word rest, text = front ++ word ++ rest ∧ Word pattern word ∧
      index = front.length + word.length := by
  induction text generalizing index with
  | nil =>
      obtain ⟨word, rest, split, matched, rfl⟩ := matchHere_some found
      exact ⟨[], word, rest, split, matched, by simp⟩
  | cons c text ih =>
      rw [search] at found
      rcases Option.or_eq_some_iff.mp found with here | ⟨-, behind⟩
      · obtain ⟨word, rest, split, matched, rfl⟩ := matchHere_some here
        exact ⟨[], word, rest, split, matched, by simp⟩
      · obtain ⟨inner, later, rfl⟩ := Option.map_eq_some_iff.mp behind
        obtain ⟨front, word, rest, rfl, matched, rfl⟩ := ih later
        refine ⟨c :: front, word, rest, rfl, matched, ?_⟩
        rw [List.length_cons]
        omega

end RegExp

/-- A regular expression object with the global flag remembers where its last match ended. -/
structure RegExp where
  pattern : RegExp.Pattern
  lastIndex : Nat := 0
  deriving DecidableEq, Repr

namespace RegExp

def new (source : String) : Option RegExp := (compile source).map fun pattern => { pattern }

/-- A test starts at the last index; a failed test resets it. -/
def test (regex : RegExp) (text : String) : Bool × RegExp :=
  let found := if regex.lastIndex ≤ text.toList.length then
    search regex.pattern (text.toList.drop regex.lastIndex) else none
  match found with
  | some index => (true, { regex with lastIndex := regex.lastIndex + index })
  | none => (false, { regex with lastIndex := 0 })

/-- The first test of an object searches the whole text. -/
theorem test_fresh_iff (pattern : Pattern) (text : String) :
    ((RegExp.mk pattern 0).test text).1 = true ↔
      ∃ word, word <:+: text.toList ∧ Word pattern word := by
  rw [← search_isSome_iff, test]
  cases found : search pattern text.toList <;> simp [found]

/-- A test never changes the pattern. -/
@[simp] theorem pattern_test (regex : RegExp) (text : String) :
    (regex.test text).2.pattern = regex.pattern := by
  simp only [test]
  split <;> rfl

/-- A test fails and starts over if no word of the pattern is in the text. -/
theorem test_eq_false {regex : RegExp} {text : String}
    (absent : ∀ word, Word regex.pattern word → ¬ word <:+: text.toList.drop regex.lastIndex) :
    regex.test text = (false, { regex with lastIndex := 0 }) := by
  have missing : search regex.pattern (text.toList.drop regex.lastIndex) = none := by
    rw [← Option.not_isSome_iff_eq_none, search_isSome_iff]
    rintro ⟨word, inside, matched⟩
    exact absent word matched inside
  simp only [test, missing, ite_self]

end RegExp
end ErieCanal.Lib
