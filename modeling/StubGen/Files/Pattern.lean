/-!
# StubGen.Files.Pattern

Patterns for file names:

1. `*` matches any characters, `?` any one character;
2. `[…]` matches one character of a set and `[!…]` one outside of it, where a `]` at the start
   belongs to the set, and a bracket that is never closed stands for itself;
3. in a set, a dash between two characters makes a range.  A range that runs backwards is taken out
   with both its ends; if nothing is left, the set matches nothing, or everything if negated;
4. any other character stands for itself.
-/

namespace StubGen.Pattern

/-! ## Sets -/

/-- A part of a set, both ends included. -/
structure CharRange where
  first : Char
  last : Char
deriving DecidableEq, Repr

/-- What one or more characters of a name are matched by. -/
inductive Atom where
  | char (c : Char)
  | any
  | many
  | set (negated : Bool) (ranges : List CharRange)
deriving DecidableEq, Repr

/-- Cut the inside of a set at the dashes that make ranges.  A dash at position `wait` or later is
one; behind it the next two characters are no such dash. -/
def cutChunks (wait : Nat) (chunk : List Char) : List Char → List (List Char)
  | [] => [chunk.reverse]
  | c :: rest =>
    match wait with
    | wait + 1 => cutChunks wait (c :: chunk) rest
    | 0 => if c = '-' then chunk.reverse :: cutChunks 2 [] rest else cutChunks 0 (c :: chunk) rest

/-- A dash with nothing behind it belongs to the chunk in front. -/
def closeChunks : List (List Char) → List (List Char)
  | [] => []
  | [chunk] => [chunk]
  | [chunk, []] => [chunk ++ ['-']]
  | chunk :: rest => chunk :: closeChunks rest

/-- Take out the ranges that run backwards, the last first. -/
def dropBackwards : List (List Char) → List (List Char)
  | [] => []
  | chunk :: rest =>
    match dropBackwards rest with
    | [] => [chunk]
    | next :: more =>
      match chunk.getLast?, next with
      | some low, high :: after =>
        if high < low then (chunk.dropLast ++ after) :: more else chunk :: next :: more
      | _, _ => chunk :: next :: more

def single (cs : List Char) : List CharRange :=
  cs.map fun c => ⟨c, c⟩

/-- The ranges between a chunk and those behind it, and the characters inside them.  A dash with
nothing in front of it is a character. -/
def chunkRanges (chunk : List Char) : List (List Char) → List CharRange
  | [] => single chunk
  | next :: more =>
    match chunk.getLast?, next with
    | some low, high :: after => single chunk.dropLast ++ ⟨low, high⟩ :: chunkRanges after more
    | _, _ => ⟨'-', '-'⟩ :: chunkRanges next more

/-- The inside of a set. -/
def readSet (inside : List Char) : Atom :=
  -- a dash right at the start of the set stands for itself
  let wait := if inside.head? = some '!' then 2 else 1
  let chunks := if inside.contains '-' then dropBackwards (closeChunks (cutChunks wait [] inside))
    else [inside]
  match chunks with
  -- the negation of a set of which nothing is left
  | [['!']] => .any
  | ('!' :: chunk) :: more => .set true (chunkRanges chunk more)
  | chunk :: more => .set false (chunkRanges chunk more)
  | [] => .set false []

/-! ## Patterns -/

/-- The number of characters at the start of a set that cannot close it. -/
def setOpening : List Char → Nat
  | '!' :: ']' :: _ => 2
  | '!' :: _ => 1
  | ']' :: _ => 1
  | _ => 0

/-- The inside of a set and what is behind its closing bracket, if it is closed. -/
def splitSet (cs : List Char) : Option (List Char × List Char) :=
  let body := cs.drop (setOpening cs)
  match body.dropWhile (· != ']') with
  | [] => none
  | _ :: rest => some (cs.take (setOpening cs) ++ body.takeWhile (· != ']'), rest)

theorem length_lt_of_splitSet {cs inside rest : List Char}
    (h : splitSet cs = some (inside, rest)) : rest.length < cs.length + 1 := by
  unfold splitSet at h
  simp only at h
  split at h
  · cases h
  · next c tail heq =>
    have hsub : List.Sublist ((cs.drop (setOpening cs)).dropWhile (· != ']'))
        (cs.drop (setOpening cs)) := List.dropWhile_sublist _
    have hle := hsub.length_le
    rw [heq, List.length_cons, List.length_drop] at hle
    simp only [Option.some.injEq, Prod.mk.injEq] at h
    rw [← h.2]
    omega

/-- The atoms of a pattern. -/
def atoms (cs : List Char) : List Atom :=
  match cs with
  | [] => []
  | '*' :: rest => .many :: atoms rest
  | '?' :: rest => .any :: atoms rest
  | '[' :: rest =>
    match _ : splitSet rest with
    | some (inside, behind) => readSet inside :: atoms behind
    | none => .char '[' :: atoms rest
  | c :: rest => .char c :: atoms rest
termination_by cs.length
decreasing_by
  all_goals first
    | (simp only [List.length_cons]; omega)
    | exact length_lt_of_splitSet (by assumption)

def inRanges (ranges : List CharRange) (c : Char) : Bool :=
  ranges.any fun range => range.first ≤ c && c ≤ range.last

/-- Whether an atom matches one character. -/
def Atom.matchesChar (atom : Atom) (c : Char) : Bool :=
  match atom with
  | .char d => c == d
  | .any => true
  | .many => true
  | .set negated ranges => inRanges ranges c != negated

/-- Whether one of some answers is yes, for them all, for all but the first, and so on. -/
def anyFromEach (answers : List Bool) : List Bool :=
  answers.foldr (fun answer later => (answer || later.headD false) :: later) []

/-- Whether atoms match the whole of a name, all of it but its first character, and so on down to
the empty rest.  The answers for an atom follow from those for the atoms behind it, so that each
atom is looked at once for each character. -/
def restMatches (name : List Char) : List Atom → List Bool
  | [] => name.map (fun _ => false) ++ [true]
  | .many :: atoms => anyFromEach (restMatches name atoms)
  | atom :: atoms =>
    name.zipWith (fun c behind => atom.matchesChar c && behind) (restMatches name atoms).tail ++
      [false]

/-- Whether a pattern matches a name. -/
def matchesName (pattern name : String) : Bool :=
  (restMatches name.toList (atoms pattern.toList)).headD false

/-- Whether a text holds a character that makes it a pattern. -/
def isPattern (text : String) : Bool :=
  text.toList.any fun c => c == '*' || c == '?' || c == '['

end StubGen.Pattern
