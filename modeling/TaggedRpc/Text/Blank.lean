/-!
# Blanks and words

A *blank* is a character with the Unicode property White_Space. The *words* of a
text are its longest stretches without blanks.
-/

namespace TaggedRpc.Text

/-- The ranges of blanks, each with its first and its last code point. -/
def blankRanges : List (Nat × Nat) := [
  (0x09, 0x0D), (0x20, 0x20), (0x85, 0x85), (0xA0, 0xA0), (0x1680, 0x1680), (0x2000, 0x200A),
  (0x2028, 0x2029), (0x202F, 0x202F), (0x205F, 0x205F), (0x3000, 0x3000)]

/-- Whether a character is a blank. -/
def isBlank (c : Char) : Bool :=
  blankRanges.any fun (first, last) => first ≤ c.toNat && c.toNat ≤ last

/-- Every blank that core knows is one. -/
theorem isBlank_of_isWhitespace {c : Char} (h : c.isWhitespace = true) : isBlank c = true := by
  simp only [Char.isWhitespace, Bool.or_eq_true, decide_eq_true_eq] at h
  rcases h with ((rfl | rfl) | rfl) | rfl <;> decide

/-- The words of a list of characters; `word` is the one under way, in reverse. -/
def wordsFrom : (word : List Char) → List Char → List (List Char)
  | word, [] => if word.isEmpty then [] else [word.reverse]
  | word, c :: cs =>
    if isBlank c then
      if word.isEmpty then wordsFrom [] cs else word.reverse :: wordsFrom [] cs
    else wordsFrom (c :: word) cs

/-- The words of a text. -/
def words (s : String) : List String :=
  (wordsFrom [] s.toList).map String.ofList

/-- A list of characters without the blanks at its two ends. -/
def trimChars (cs : List Char) : List Char :=
  ((cs.dropWhile isBlank).reverse.dropWhile isBlank).reverse

/-- A text without the blanks at its two ends. -/
def trim (s : String) : String :=
  String.ofList (trimChars s.toList)

/-- The parts of a list of characters between separators; `part` is the one
    under way, in reverse. -/
def splitFrom (sep : Char) : (part : List Char) → List Char → List (List Char)
  | part, [] => [part.reverse]
  | part, c :: cs =>
    if c = sep then part.reverse :: splitFrom sep [] cs else splitFrom sep (c :: part) cs

/-- The parts of a text between separators. -/
def split (sep : Char) (s : String) : List String :=
  (splitFrom sep [] s.toList).map String.ofList

end TaggedRpc.Text
