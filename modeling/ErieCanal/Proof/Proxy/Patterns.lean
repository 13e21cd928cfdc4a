import ErieCanal.Construction.Proxy.Ingress
import ErieCanal.Construction.Strings
import Mathlib.Data.List.TakeWhile

namespace ErieCanal.Proxy
open Lib Route RegExp

section Patterns

/-- The pattern of a host takes a star for any number of dots, and a question mark for a dot. -/
def globTerm (c : Char) : Term :=
  if c = '*' then .star (.char '.') else if c = '?' then .one (.char '.') else .one (.char c)

def globTokens (c : Char) : List Token :=
  if c = '*' then [.atom (.char '.'), .star]
  else if c = '?' then [.atom (.char '.')] else [.atom (.char c)]

def globCharacters (c : Char) : List Char :=
  if c = '*' then ['\\', '.', '*'] else if c = '?' then ['\\', '.']
  else if quotedCharacters.contains c then ['\\', c] else [c]

/-- The two replacements only meet the characters that the text had before it was quoted. -/
theorem globSource_eq (text : List Char) : globSource text = text.flatMap globCharacters := by
  simp only [globSource, prepareQuote, List.flatMap_assoc]
  congr 1
  funext c
  by_cases star : c = '*'
  · subst star
    decide
  · by_cases question : c = '?'
    · subst question
      decide
    · by_cases quoted : c ∈ quotedCharacters <;> simp [globCharacters, star, question, quoted]

theorem isAlphanum_quoted {c : Char} (quoted : c ∈ quotedCharacters) : c.isAlphanum = false := by
  have all : quotedCharacters.all (fun c => !c.isAlphanum) = true := by decide
  simpa using List.all_eq_true.mp all c quoted

theorem quoted_of_reserved {c : Char} (reserved : c ∈ syntaxCharacters) : c ∈ quotedCharacters := by
  have all : syntaxCharacters.all quotedCharacters.contains = true := by decide
  exact List.contains_iff_mem.mp (List.all_eq_true.mp all c reserved)

theorem tokens_glob (text : List Char) :
    tokens (text.flatMap globCharacters) = some (text.flatMap globTokens) := by
  induction text with
  | nil => rfl
  | cons c text ih =>
      rw [List.flatMap_cons, List.flatMap_cons]
      by_cases star : c = '*'
      · subst star
        exact (tokens_escape (by decide) _).trans (by simp [tokens, ih, globTokens])
      · by_cases question : c = '?'
        · subst question
          exact (tokens_escape (by decide) _).trans (by simp [ih, globTokens])
        · by_cases quoted : c ∈ quotedCharacters
          · simp only [globCharacters, globTokens, star, question, quoted, List.contains_iff_mem,
              if_false, if_true]
            exact (tokens_escape (isAlphanum_quoted quoted) _).trans (by simp [ih])
          · simp only [globCharacters, globTokens, star, question, quoted, List.contains_iff_mem,
              if_false]
            exact (tokens_literal (mt quoted_of_reserved quoted) _).trans (by simp [ih])

theorem head_globTokens (text : List Char) : (text.flatMap globTokens).head? ≠ some .star := by
  cases text with
  | nil => simp
  | cons c text =>
      by_cases star : c = '*'
      · simp [globTokens, star]
      · by_cases question : c = '?' <;> simp [globTokens, star, question]

theorem terms_glob (text : List Char) :
    terms (text.flatMap globTokens) = some (text.map globTerm) := by
  induction text with
  | nil => rfl
  | cons c text ih =>
      have follows := head_globTokens text
      rw [List.flatMap_cons, List.map_cons]
      by_cases star : c = '*'
      · simp [globTokens, globTerm, star, terms, ih]
      · by_cases question : c = '?'
        · simpa [globTokens, globTerm, star, question, ih] using terms_one follows
        · simpa [globTokens, globTerm, star, question, ih] using terms_one follows

/-- Every host has a pattern. -/
theorem globStringToRegex_eq (text : String) :
    globStringToRegex text = some ⟨text.toList.map globTerm, 0⟩ := by
  simp only [globStringToRegex, RegExp.new, compile, String.toList_ofList, globSource_eq,
    tokens_glob, Option.bind_some, terms_glob, Option.map_some]

end Patterns

section Hosts
variable {d h : String}

/-- A wildcard host covers the names that put one label before its domain. -/
def Covers (d h : String) : Prop :=
  ∃ label : List Char, label ≠ [] ∧ '.' ∉ label ∧ h.toList = label ++ '.' :: d.toList

/-- The label is what stands before the first dot. -/
theorem covers_iff : Covers d h ↔ h.toList.takeWhile (· ≠ '.') ≠ [] ∧
    h.toList.dropWhile (· ≠ '.') = '.' :: d.toList := by
  constructor
  · rintro ⟨label, nonempty, dotless, split⟩
    have plain : ∀ c ∈ label, decide (c ≠ '.') = true := fun c member =>
      decide_eq_true fun same => dotless (same ▸ member)
    rw [split, List.takeWhile_append_of_pos plain, List.dropWhile_append_of_pos plain]
    simpa using nonempty
  · rintro ⟨nonempty, rest⟩
    refine ⟨_, nonempty, ?_, by rw [← rest, List.takeWhile_append_dropWhile]⟩
    intro dotted
    simpa using List.mem_takeWhile_imp dotted

theorem Covers.unique {d' : String} (first : Covers d h) (second : Covers d' h) : d = d' := by
  have same := (covers_iff.mp first).2.symm.trans (covers_iff.mp second).2
  exact String.toList_injective (List.cons.inj same).2

instance decidableCovers (d h : String) : Decidable (Covers d h) :=
  decidable_of_iff _ covers_iff.symm

/-- The name has the dotted domain somewhere inside. -/
def Contains (d h : String) : Prop := '.' :: d.toList <:+: h.toList

instance decidableContains (d h : String) : Decidable (Contains d h) :=
  inferInstanceAs (Decidable (_ <:+: _))

theorem Covers.contains (covers : Covers d h) : Contains d h := by
  obtain ⟨label, _, _, split⟩ := covers
  exact ⟨label, [], by rw [split, List.append_nil]⟩

theorem wildcard_toList (d : String) : ("*." ++ d).toList = '*' :: '.' :: d.toList := by
  rw [String.toList_append]
  rfl

theorem wildcard_injective {d d' : String} (same : "*." ++ d = "*." ++ d') : d = d' := by
  have texts := congrArg String.toList same
  rw [wildcard_toList, wildcard_toList, List.cons.injEq, List.cons.injEq] at texts
  exact String.toList_injective texts.2.2

/-- The characters of a domain stand for themselves. -/
theorem map_globTerm_domain (valid : Strings.isDNS1123Subdomain d = true) :
    d.toList.map globTerm = d.toList.map fun c => .one (.char c) := by
  apply List.map_congr_left
  intro c member
  have plain (special : Char) (reserved : ¬(special = '.' ∨
      (special.isLower || special.isDigit || special == '-') = true)) : c ≠ special := by
    rintro rfl
    exact reserved (Strings.isDNS1123Subdomain_mem valid member)
  rw [globTerm, if_neg (plain '*' (by decide)), if_neg (plain '?' (by decide))]

/-- The pattern of a wildcard host matches any number of dots before its dotted domain. -/
theorem word_wildcard_iff (valid : Strings.isDNS1123Subdomain d = true) (word : List Char) :
    Word (("*." ++ d).toList.map globTerm) word ↔
      ∃ dots : List Char, (∀ c ∈ dots, c = '.') ∧ word = dots ++ '.' :: d.toList := by
  have pattern : ("*." ++ d).toList.map globTerm =
      .star (.char '.') :: ('.' :: d.toList).map fun c => .one (.char c) := by
    rw [wildcard_toList, List.map_cons, List.map_cons, map_globTerm_domain valid]
    rfl
  rw [pattern]
  constructor
  · rintro ⟨dots, tail, rfl, each, matched⟩
    exact ⟨dots, fun c member => beq_iff_eq.mp (each c member), by rw [(word_literals _ _).mp matched]⟩
  · rintro ⟨dots, each, rfl⟩
    exact ⟨dots, _, rfl, fun c member => beq_iff_eq.mpr (each c member), (word_literals _ _).mpr rfl⟩

/-- At its first use the pattern finds the dotted domain anywhere in a name. -/
theorem test_wildcard_iff (valid : Strings.isDNS1123Subdomain d = true) (h : String) :
    ((RegExp.mk (("*." ++ d).toList.map globTerm) 0).test h).1 = true ↔ Contains d h := by
  rw [test_fresh_iff]
  constructor
  · rintro ⟨word, inside, matched⟩
    obtain ⟨dots, _, rfl⟩ := (word_wildcard_iff valid word).mp matched
    exact (List.suffix_append dots _).isInfix.trans inside
  · intro contains
    exact ⟨'.' :: d.toList, contains, (word_wildcard_iff valid _).mpr ⟨[], by simp, rfl⟩⟩

end Hosts

end ErieCanal.Proxy
