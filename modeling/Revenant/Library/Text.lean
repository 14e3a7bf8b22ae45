import Mathlib.Data.List.Basic

namespace Revenant
namespace Library
namespace Text

/-!
# Reading plain text

Prefixes, suffixes, the last separator and unsigned decimals, over the letters
of a text.  What a writer assembles from these pieces is read back as the same
pieces, provided the separator does not start again behind itself.
-/

/-- The text behind a prefix. -/
def stripPrefix : List Char → List Char → Option (List Char)
  | [], text => some text
  | _ :: _, [] => none
  | expected :: front, letter :: text => if expected = letter then stripPrefix front text else none

/-- The text in front of a suffix. -/
def stripSuffix (suffix text : List Char) : Option (List Char) :=
  (stripPrefix suffix.reverse text.reverse).map List.reverse

/-- The text behind a prefix that may be repeated, for at most `fuel` times. -/
def trimStart (front : List Char) : Nat → List Char → List Char
  | 0, text => text
  | fuel + 1, text =>
      match stripPrefix front text with
      | none => text
      | some rest => trimStart front fuel rest

/-- `trim_start_matches`; a text holds no more prefixes than letters. -/
def trimStartMatches (front text : List Char) : List Char := trimStart front text.length text

/-- The text around the last occurrence of a separator. -/
def rsplitOnce (separator : List Char) : List Char → Option (List Char × List Char)
  | [] => (stripPrefix separator []).map (fun back => ([], back))
  | letter :: text =>
      match rsplitOnce separator text with
      | some (front, back) => some (letter :: front, back)
      | none => (stripPrefix separator (letter :: text)).map (fun back => ([], back))

/-- The text around the first occurrence of a separator. -/
def splitOnce (separator : List Char) : List Char → Option (List Char × List Char)
  | [] => (stripPrefix separator []).map (fun back => ([], back))
  | letter :: text =>
      match stripPrefix separator (letter :: text) with
      | some back => some ([], back)
      | none => (splitOnce separator text).map (fun (front, back) => (letter :: front, back))

/-- An unsigned decimal up to a bound; a leading plus sign is allowed. -/
def parseUnsigned (bound : Nat) (text : List Char) : Option Nat :=
  let digits := match text with
    | '+' :: rest => rest
    | _ => text
  if digits ≠ [] ∧ digits.all Char.isDigit = true ∧ Nat.ofDigitChars 10 digits 0 ≤ bound then
    some (Nat.ofDigitChars 10 digits 0)
  else none

@[simp] theorem stripPrefix_append (front text : List Char) :
    stripPrefix front (front ++ text) = some text := by
  induction front with
  | nil => rfl
  | cons letter front inductionHypothesis =>
      simp only [List.cons_append, stripPrefix, if_true, inductionHypothesis]

theorem stripPrefix_eq_some {front text rest : List Char} :
    stripPrefix front text = some rest ↔ text = front ++ rest := by
  constructor
  · intro found
    induction front generalizing text with
    | nil => exact Option.some.inj found
    | cons expected front inductionHypothesis =>
        cases text with
        | nil => cases found
        | cons letter text =>
            unfold stripPrefix at found
            split at found
            · next same => rw [same, inductionHypothesis found, List.cons_append]
            · cases found
  · rintro rfl
    exact stripPrefix_append front rest

/-- Behind one prefix that is not repeated. -/
theorem trimStartMatches_append {front text : List Char} (started : front ≠ [])
    (once : stripPrefix front text = none) : trimStartMatches front (front ++ text) = text := by
  have last : ∀ fuel, trimStart front fuel text = text := by
    intro fuel
    cases fuel with
    | zero => rfl
    | succ fuel => simp only [trimStart, once]
  obtain ⟨letter, front, rfl⟩ := List.exists_cons_of_ne_nil started
  rw [trimStartMatches, List.cons_append, List.length_cons, trimStart, ← List.cons_append,
    stripPrefix_append]
  exact last _

@[simp] theorem stripSuffix_append (text suffix : List Char) :
    stripSuffix suffix (text ++ suffix) = some text := by
  simp only [stripSuffix, List.reverse_append, stripPrefix_append, Option.map_some,
    List.reverse_reverse]

/-- No separator starts in a text without its first letter. -/
theorem rsplitOnce_none {letter : Char} {separator text : List Char} (absent : letter ∉ text) :
    rsplitOnce (letter :: separator) text = none := by
  induction text with
  | nil => rfl
  | cons first text inductionHypothesis =>
      have different : letter ≠ first := fun same => absent (same ▸ List.mem_cons_self)
      have later : letter ∉ text := fun member => absent (List.mem_cons_of_mem _ member)
      simp only [rsplitOnce, inductionHypothesis later, stripPrefix, different, if_false,
        Option.map_none]

/-- A letter in front of a text without the separator does not start one. -/
theorem rsplitOnce_cons_none {letter first : Char} {separator text : List Char}
    (later : rsplitOnce (letter :: separator) text = none)
    (apart : letter ≠ first ∨ stripPrefix separator text = none) :
    rsplitOnce (letter :: separator) (first :: text) = none := by
  simp only [rsplitOnce, later, stripPrefix]
  rcases apart with different | absent
  · rw [if_neg different]
    rfl
  · rw [absent, ite_self]
    rfl

/-- The separator in front of a text in which it does not start again. -/
theorem rsplitOnce_append {separator back : List Char} {letter : Char} (front : List Char)
    (last : rsplitOnce (letter :: separator) (separator ++ back) = none) :
    rsplitOnce (letter :: separator) (front ++ (letter :: separator ++ back)) =
      some (front, back) := by
  induction front with
  | nil =>
      have here : stripPrefix (letter :: separator) (letter :: (separator ++ back)) = some back :=
        stripPrefix_append (letter :: separator) back
      simp only [List.nil_append, List.cons_append, rsplitOnce, last, here, Option.map_some]
  | cons first front inductionHypothesis =>
      simp only [List.cons_append] at inductionHypothesis ⊢
      simp only [rsplitOnce, inductionHypothesis]

theorem isDigit_of_mem_repr {value : Nat} {letter : Char} (member : letter ∈ (Nat.repr value).toList) :
    letter.isDigit = true := by
  rw [Nat.toList_repr] at member
  exact Nat.isDigit_of_mem_toDigits (by decide) (by decide) member

/-- A number that fits is read back from its decimal text. -/
theorem parseUnsigned_repr {bound value : Nat} (fits : value ≤ bound) :
    parseUnsigned bound (Nat.repr value).toList = some value := by
  have digits : ∀ letter ∈ (Nat.repr value).toList, letter.isDigit = true :=
    fun letter => isDigit_of_mem_repr
  have written : (Nat.repr value).toList ≠ [] := by
    rw [Nat.toList_repr]
    exact Nat.toDigits_ne_nil
  have parsed : Nat.ofDigitChars 10 (Nat.repr value).toList 0 = value := by
    rw [Nat.toList_repr, Nat.ofDigitChars_ten_toDigits]
  unfold parseUnsigned
  have unsigned : (match (Nat.repr value).toList with
      | '+' :: rest => rest
      | _ => (Nat.repr value).toList) = (Nat.repr value).toList := by
    split
    · next rest found =>
        have sign := digits '+' (found ▸ List.mem_cons_self)
        exact absurd sign (by decide)
    · rfl
  simp only [unsigned, parsed]
  exact if_pos ⟨written, List.all_eq_true.mpr digits, fits⟩

end Text
end Library
end Revenant
