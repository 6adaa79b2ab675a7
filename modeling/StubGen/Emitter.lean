import StubGen.Stub.Snippet

/-!
# StubGen.Emitter

Lines of generated code, collected at a level of indentation.  A line that is not empty gets the
indentation once per level; an empty line stays empty.  The finished text has its lines joined by
line feeds and ends in exactly one.
-/

namespace StubGen

/-- Collected lines, and the level at which the next ones are added. -/
structure Emitter where
  /-- One level of indentation. -/
  indent : String := "    "
  level : Nat := 0
  lines : List String := []
deriving DecidableEq, Repr

namespace Emitter

/-- A line behind some indentation, unless it is empty. -/
def indentLine (indentation line : String) : String :=
  if line = "" then "" else indentation ++ line

/-- The indentation of the current level. -/
def indentation (out : Emitter) : String :=
  String.join (List.replicate out.level out.indent)

/-- Add lines at the current level. -/
def extend (out : Emitter) (lines : List String) : Emitter :=
  { out with lines := out.lines ++ lines.map (indentLine out.indentation) }

def line (out : Emitter) (text : String) : Emitter :=
  out.extend [text]

def blank (out : Emitter) : Emitter :=
  out.line ""

/-- Add the lines of a snippet at the current level. -/
def render (out : Emitter) (snippet : Stub.Snippet) : Emitter :=
  out.extend (Text.codeLines snippet.text)

def enter (out : Emitter) : Emitter :=
  { out with level := out.level + 1 }

def exit (out : Emitter) : Emitter :=
  { out with level := out.level - 1 }

/-- Write `body` one level deeper. -/
def indented (out : Emitter) (body : Emitter → Emitter) : Emitter :=
  (body out.enter).exit

def each (out : Emitter) (elements : List α) (body : Emitter → α → Emitter) : Emitter :=
  elements.foldl body out

/-- The collected text, which ends in exactly one line feed. -/
def text (out : Emitter) : String :=
  Text.dropTrailingNewlines (Text.joinLines out.lines) ++ "\n"

end Emitter

end StubGen
