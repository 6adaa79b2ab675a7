/-!
# StubGen.Text.Lines

Texts as lines, in the three senses that occur in this library:

1. a comment block ends its lines at any of the terminators of `isLineEnd`, where a carriage return
   and the line feed behind it are one terminator, and a terminator at the very end opens no
   further line;
2. generated code ends its lines at the line feed alone, and every line feed opens a line;
3. a text that a formatting program hands back is read with all of `\r\n` and `\r` as `\n`.

The first sense keeps the terminators (`spans`), so that the block is the concatenation of its
lines with their terminators.
-/

namespace StubGen.Text

/-! ## Comment blocks -/

/-- The characters that end a line of a comment block: line feed, vertical tab, form feed, carriage
return, the information separators from file to record, next line, line and paragraph separator. -/
def isLineEnd (c : Char) : Bool :=
  [0x0a, 0x0b, 0x0c, 0x0d, 0x1c, 0x1d, 0x1e, 0x85, 0x2028, 0x2029].contains c.toNat

/-- A line with the terminator that ends it, which is empty for an unfinished last line. -/
structure Span where
  text : List Char
  ending : List Char
deriving DecidableEq, Repr

/-- Put a character in front of the first line. -/
def Span.consFirst (c : Char) : List Span → List Span
  | [] => [⟨[c], []⟩]
  | span :: more => ⟨c :: span.text, span.ending⟩ :: more

/-- The lines of a block with their terminators. -/
def spans : List Char → List Span
  | [] => []
  | '\r' :: '\n' :: rest => ⟨[], ['\r', '\n']⟩ :: spans rest
  | c :: rest => if isLineEnd c then ⟨[], [c]⟩ :: spans rest else Span.consFirst c (spans rest)

/-- The lines of a block without their terminators. -/
def blockLines (text : String) : List String :=
  (spans text.toList).map fun span => String.ofList span.text

/-! ## Generated code -/

/-- The lines of generated code: one more than there are line feeds. -/
def codeLines (text : String) : List String :=
  (text.toList.splitOn '\n').map String.ofList

def joinLines (lines : List String) : String :=
  "\n".intercalate lines

/-- A text without the characters at its end that satisfy `p`. -/
def dropTrailing (p : Char → Bool) (text : String) : String :=
  String.ofList (text.toList.reverse.dropWhile p).reverse

def dropTrailingNewlines (text : String) : String :=
  dropTrailing (· == '\n') text

/-! ## Texts read back -/

/-- Every `\r\n` and every other `\r` as `\n`. -/
def unifyNewlineChars : List Char → List Char
  | [] => []
  | '\r' :: '\n' :: rest => '\n' :: unifyNewlineChars rest
  | c :: rest => (if c = '\r' then '\n' else c) :: unifyNewlineChars rest

/-- A text with `\n` as its only line terminator. -/
def unifyNewlines (text : String) : String :=
  String.ofList (unifyNewlineChars text.toList)

end StubGen.Text
