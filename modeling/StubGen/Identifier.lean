import StubGen.Text.Lowercase

/-!
# StubGen.Identifier

Names of the generated code.  A method name of the schema becomes snake case and is then kept apart
from the keywords of the generated language.

Snake case puts an underscore before every upper-case letter that

1. follows a lower-case letter or a digit, or
2. follows an upper-case letter and precedes a lower-case letter,

and lower-cases the whole.  The boundaries are looked for among ASCII letters and digits only,
whereas lower-casing takes in all scripts.
-/

namespace StubGen.Identifier

open Text

/-! ## Keywords -/

/-- The reserved words of the generated language. -/
def keywords : List String :=
  ["False", "None", "True", "and", "as", "assert", "async", "await", "break", "class", "continue",
   "def", "del", "elif", "else", "except", "finally", "for", "from", "global", "if", "import", "in",
   "is", "lambda", "nonlocal", "not", "or", "pass", "raise", "return", "try", "while", "with",
   "yield"]

def isKeyword (name : String) : Bool :=
  keywords.contains name

/-- A name that is not reserved: a reserved word gets an underscore at its end. -/
def avoidKeyword (name : String) : String :=
  if isKeyword name then name ++ "_" else name

/-! ## Snake case -/

/-- Whether a text starts with a lower-case ASCII letter. -/
def startsLower : List Char → Bool
  | [] => false
  | c :: _ => c.isLower

/-- Whether a word starts at `c`, which stands between `before` and `after`. -/
def isBoundary (before c : Char) (after : List Char) : Bool :=
  c.isUpper && (before.isLower || before.isDigit || (before.isUpper && startsLower after))

/-- A name with an underscore at every boundary. -/
def splitWords : List Char → List Char
  | before :: c :: after =>
    -- the boundaries are those of the name as it was, not of what has been split already
    if isBoundary before c after then before :: '_' :: splitWords (c :: after)
    else before :: splitWords (c :: after)
  | cs => cs

/-- A name in snake case. -/
def snakeCase (name : String) : String :=
  String.ofList (lowerChars (splitWords name.toList))

/-- The name under which a schema method appears on the generated classes. -/
def methodName (name : String) : String :=
  avoidKeyword (snakeCase name)

end StubGen.Identifier
