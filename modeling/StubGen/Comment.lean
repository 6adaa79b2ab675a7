import StubGen.Schema
import StubGen.Text.Lines

/-!
# StubGen.Comment

Schema comments as comment lines of the generated language.  A line gets the comment marker in
front, and a space behind the marker unless the line is empty or starts with a space.  Before a node
stand its detached blocks, each followed by an empty comment line, and then its leading block;
behind it stands its trailing block.
-/

namespace StubGen

def commentMarker : String := "#"

/-- A raw line as a comment line. -/
def markLine (marker line : String) : String :=
  match line.toList with
  | [] => marker
  | c :: _ => if c = ' ' then marker ++ line else marker ++ " " ++ line

def markLines (marker : String) (lines : List String) : List String :=
  lines.map (markLine marker)

namespace NodeComments

/-- The raw lines that stand before a node. -/
def rawLeading (comments : NodeComments) : List String :=
  (comments.detached.flatMap fun block => Text.blockLines block ++ [""]) ++
    Text.blockLines comments.leading

/-- The comment lines before the generated code of a node. -/
def leadingLines (comments : NodeComments) : List String :=
  markLines commentMarker comments.rawLeading

/-- The comment lines behind the generated code of a node. -/
def trailingLines (comments : NodeComments) : List String :=
  markLines commentMarker (Text.blockLines comments.trailing)

end NodeComments

namespace CommentIndex

def leadingAt (index : CommentIndex) (location : Location) : List String :=
  (index.get location).leadingLines

def trailingAt (index : CommentIndex) (location : Location) : List String :=
  (index.get location).trailingLines

end CommentIndex

end StubGen
