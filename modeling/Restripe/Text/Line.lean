import Restripe.Text.Utf8

/-!
# Lines and tokens

A text is a sequence of lines, and a line a sequence of tokens.  Lines end at a line feed, with or
without a carriage return before it; tokens are parted by any run of separators.
-/

/-!
## Blank characters

Two classes of white space matter.  Tokens of a metadata row are parted by ASCII separators alone,
while a path that holds any blank of the Unicode property `White_Space` is never written as a token.
Every separator is a blank, so a token that may be written is never split when it is read.
-/

namespace Restripe

/-- The Unicode property `White_Space`. -/
def isBlank (char : Char) : Bool :=
  let code := char.toNat
  (0x09 ≤ code && code ≤ 0x0D) || code == 0x20 || code == 0x85 || code == 0xA0 || code == 0x1680
    || (0x2000 ≤ code && code ≤ 0x200A) || code == 0x2028 || code == 0x2029 || code == 0x202F
    || code == 0x205F || code == 0x3000

/-- The characters that part tokens: space, tab, line feed, form feed and carriage return. -/
def isSeparator (char : Char) : Bool :=
  char == ' ' || char == '\t' || char == '\n' || char == '\x0c' || char == '\r'

theorem isBlank_of_isSeparator {char : Char} (h : isSeparator char = true) :
    isBlank char = true := by
  simp only [isSeparator, Bool.or_eq_true, beq_iff_eq] at h
  rcases h with (((rfl | rfl) | rfl) | rfl) | rfl <;> rfl

/-- Drop the blanks at both ends of a text. -/
def trimBlanks (text : Text) : Text :=
  ((text.dropWhile isBlank).reverse.dropWhile isBlank).reverse

/-! ## Cutting a text -/

/-- Cut a text at every separator, keeping empty parts: the part before the first separator, and
the others. -/
def cutAtSeparators : Text → Text × List Text
  | [] => ([], [])
  | char :: rest =>
      let (first, others) := cutAtSeparators rest
      if isSeparator char then ([], first :: others) else (char :: first, others)

/-- The tokens of a line: its maximal runs of characters that are no separators. -/
def tokens (line : Text) : List Text :=
  let (first, others) := cutAtSeparators line
  (first :: others).filter (· ≠ [])

/-- Cut a text after every line feed: the complete lines, each without its line feed, and what
follows the last one. -/
def cutAtLineFeeds : Text → List Text × Text
  | [] => ([], [])
  | char :: rest =>
      match cutAtLineFeeds rest with
      | (complete, last) =>
          if char = '\n' then ([] :: complete, last)
          else match complete with
            | [] => ([], char :: last)
            | line :: others => ((char :: line) :: others, last)

/-- Drop one carriage return at the end of a line. -/
def dropCarriageReturn (line : Text) : Text :=
  if line.getLast? = some '\r' then line.dropLast else line

/-- The lines of a text.  A line ends at a line feed and a carriage return right before it; a final
line feed adds no empty line, and a last line without one is kept as it is. -/
def lines (text : Text) : List Text :=
  let (complete, last) := cutAtLineFeeds text
  complete.map dropCarriageReturn ++ if last = [] then [] else [last]

end Restripe
