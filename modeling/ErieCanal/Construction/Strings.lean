import Mathlib.Logic.Basic

namespace ErieCanal.Strings

/-- The lowered texts are host names and keywords, so the ASCII letters suffice. -/
def toLower (s : String) : String := String.ofList (s.toList.map Char.toLower)

def hasSuffix (s suffix : String) : Bool := suffix.toList.isSuffixOf s.toList

def trimSuffix (s suffix : String) : String :=
  if hasSuffix s suffix then String.ofList (s.toList.take (s.toList.length - suffix.toList.length))
  else s

def trimPrefix (s front : String) : String :=
  if front.toList.isPrefixOf s.toList then String.ofList (s.toList.drop front.toList.length) else s

theorem hasSuffix_iff {s suffix : String} :
    hasSuffix s suffix = true ↔ ∃ front, s = front ++ suffix := by
  rw [hasSuffix, List.isSuffixOf_iff_suffix]
  constructor
  · rintro ⟨front, split⟩
    refine ⟨String.ofList front, String.toList_injective ?_⟩
    rw [String.toList_append, String.toList_ofList, split]
  · rintro ⟨front, rfl⟩
    rw [String.toList_append]
    exact List.suffix_append _ _

theorem trimSuffix_append (front suffix : String) : trimSuffix (front ++ suffix) suffix = front := by
  rw [trimSuffix, if_pos (hasSuffix_iff.mpr ⟨front, rfl⟩)]
  simp [String.toList_append]

theorem trimPrefix_append (front rest : String) : trimPrefix (front ++ rest) front = rest := by
  have starts : front.toList.isPrefixOf (front ++ rest).toList = true := by
    rw [List.isPrefixOf_iff_prefix, String.toList_append]
    exact List.prefix_append _ _
  rw [trimPrefix, if_pos starts]
  simp [String.toList_append]

def split (s : String) (sep : Char) : List String := (s.toList.splitOn sep).map String.ofList

/-- The texts before and after the first separator are determined. -/
theorem append_separator_inj {separator : Char} {first second rest rest' : List Char}
    (before : separator ∉ first) (before' : separator ∉ second)
    (same : first ++ separator :: rest = second ++ separator :: rest') :
    first = second ∧ rest = rest' := by
  induction first generalizing second with
  | nil =>
      cases second with
      | nil => exact ⟨rfl, (List.cons.inj same).2⟩
      | cons c second =>
          have head : separator = c := (List.cons.inj same).1
          simp [head] at before'
  | cons c first ih =>
      cases second with
      | nil =>
          have head : c = separator := (List.cons.inj same).1
          simp [head] at before
      | cons c' second =>
          obtain ⟨rfl, tails⟩ := List.cons.inj same
          obtain ⟨rfl, rfl⟩ := ih (fun inside => before (List.mem_cons_of_mem _ inside))
            (fun inside => before' (List.mem_cons_of_mem _ inside)) tails
          exact ⟨rfl, rfl⟩

/-- The text after the last separator is determined. -/
theorem append_last_separator_inj {separator : Char} {first second rest rest' : List Char}
    (after : separator ∉ rest) (after' : separator ∉ rest')
    (same : first ++ separator :: rest = second ++ separator :: rest') : rest = rest' := by
  have reversed := congrArg List.reverse same
  simp only [List.reverse_append, List.reverse_cons, List.append_assoc, List.singleton_append]
    at reversed
  have reverses := append_separator_inj (by simpa using after) (by simpa using after') reversed
  exact List.reverse_inj.mp reverses.1

/-- This is `%x` of an unsigned number. -/
def hex (value : UInt64) : String := String.ofList (Nat.toDigits 16 value.toNat)

theorem hex_ne_empty (value : UInt64) : hex value ≠ "" := by
  intro empty
  have digits : Nat.toDigits 16 value.toNat = [] := by
    simpa [hex] using congrArg String.toList empty
  exact Nat.toDigits_ne_nil digits

/-- Different numbers have different digits. -/
theorem toDigits_injective {first second : Nat}
    (same : Nat.toDigits 16 first = Nat.toDigits 16 second) : first = second := by
  have digit : ∀ one < 16, ∀ two < 16, Nat.digitChar one = Nat.digitChar two → one = two := by
    decide
  induction first using Nat.strongRecOn generalizing second with
  | ind first ih =>
      rw [Nat.toDigits_eq_if (by decide), Nat.toDigits_eq_if (n := second) (by decide)] at same
      by_cases small : first < 16 <;> by_cases small' : second < 16 <;>
        simp only [small, small', if_true, if_false] at same
      · exact digit first small second small' (List.singleton_inj.mp same)
      · have length := congrArg List.length same
        have some := List.length_pos_iff.mpr (Nat.toDigits_ne_nil (b := 16) (n := second / 16))
        simp only [List.length_append, List.length_singleton] at length
        omega
      · have length := congrArg List.length same
        have some := List.length_pos_iff.mpr (Nat.toDigits_ne_nil (b := 16) (n := first / 16))
        simp only [List.length_append, List.length_singleton] at length
        omega
      · obtain ⟨high, low⟩ := List.append_inj' same rfl
        have quotients := ih (first / 16) (by omega) high
        have remainders := digit _ (Nat.mod_lt _ (by decide)) _ (Nat.mod_lt _ (by decide))
          (List.singleton_inj.mp low)
        omega

theorem hex_injective : Function.Injective hex := by
  intro first second same
  have digits := congrArg String.toList same
  simp only [hex, String.toList_ofList] at digits
  exact UInt64.toNat_inj.mp (toDigits_injective digits)

/-- A decimal number needs a digit and nothing but digits. -/
def decimal (digits : List Char) : Option Nat :=
  if digits.isEmpty || !digits.all Char.isDigit then none
  else some (digits.foldl (fun value digit => 10 * value + (digit.toNat - 48)) 0)

/-- This is `strconv.Atoi`: an optional sign, decimal digits and a 64-bit result. -/
def atoi (s : String) : Option Int :=
  let parsed : Option Int := match s.toList with
    | '-' :: digits => (decimal digits).map fun value => -(value : Int)
    | '+' :: digits => (decimal digits).map fun value => (value : Int)
    | digits => (decimal digits).map fun value => (value : Int)
  parsed.filter fun value => decide (-9223372036854775808 ≤ value ∧ value ≤ 9223372036854775807)

/-- This is the number that `strconv.Atoi` returns also with an error: zero for another text, and
the nearest bound for a number out of range. -/
def atoiValue (s : String) : Int :=
  let parsed : Option Int := match s.toList with
    | '-' :: digits => (decimal digits).map fun value => -(value : Int)
    | '+' :: digits => (decimal digits).map fun value => (value : Int)
    | digits => (decimal digits).map fun value => (value : Int)
  max (-9223372036854775808) (min 9223372036854775807 (parsed.getD 0))

/-- This is `cache.SplitMetaNamespaceKey`. -/
def splitMetaNamespaceKey (key : String) : Except String (String × String) :=
  match split key '/' with
  | [name] => .ok ("", name)
  | [ns, name] => .ok (ns, name)
  | _ => .error ("unexpected key format: " ++ key)

/-- A DNS label starts and ends with a lower-case letter or a digit. -/
def isDNS1123Label (label : List Char) : Bool :=
  let alphanumeric (c : Char) : Bool := c.isLower || c.isDigit
  label.head?.any alphanumeric && label.getLast?.any alphanumeric &&
    label.all fun c => alphanumeric c || c == '-'

/-- API objects have names of this form. -/
def isDNS1123Subdomain (value : String) : Bool :=
  value.toList.length ≤ 253 && (value.toList.splitOn '.').all isDNS1123Label

theorem mem_of_mem_intercalate {separator item : Char} {labels : List (List Char)}
    (member : item ∈ [separator].intercalate labels) :
    item = separator ∨ ∃ label ∈ labels, item ∈ label := by
  induction labels with
  | nil => cases member
  | cons label rest ih =>
      cases rest with
      | nil =>
          rw [List.intercalate_singleton] at member
          exact Or.inr ⟨label, List.mem_singleton_self _, member⟩
      | cons second others =>
          rw [List.intercalate_cons_cons, List.mem_append, List.mem_append,
            List.mem_singleton] at member
          rcases member with (here | same) | later
          · exact Or.inr ⟨label, List.mem_cons_self, here⟩
          · exact Or.inl same
          · exact (ih later).imp id fun ⟨other, listed, held⟩ =>
              ⟨other, List.mem_cons_of_mem _ listed, held⟩

/-- A subdomain consists of dots and of the characters of its labels. -/
theorem isDNS1123Subdomain_mem {value : String} {c : Char}
    (valid : isDNS1123Subdomain value = true) (member : c ∈ value.toList) :
    c = '.' ∨ (c.isLower || c.isDigit || c == '-') = true := by
  rw [isDNS1123Subdomain, Bool.and_eq_true, List.all_eq_true] at valid
  rw [← @List.intercalate_splitOn _ value.toList _ _ '.'] at member
  refine (mem_of_mem_intercalate member).imp id ?_
  rintro ⟨label, listed, held⟩
  have labelled := valid.2 label listed
  rw [isDNS1123Label, Bool.and_eq_true, List.all_eq_true] at labelled
  exact labelled.2 c held

/-- This is `validation.IsWildcardDNS1123Subdomain` without its error texts. -/
def isWildcardDNS1123Subdomain (value : String) : Bool :=
  value.toList.length ≤ 253 && match value.toList with
    | '*' :: '.' :: subdomain => (subdomain.splitOn '.').all isDNS1123Label
    | _ => false

end ErieCanal.Strings
