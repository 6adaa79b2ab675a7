import StubGen.Emitter

/-!
# StubGen.Proofs.LogicalLines

Generated code as its reader takes it in: not line by line, but by *logical lines*.

1. A *scanner* reads the characters of a line.  It tells code from literals and comments, and keeps
   the brackets that are open, each of which has to be closed by its own kind.  Literals in single
   quotes end with their line, those in triple quotes need not.  Backslashes do not occur.
2. Blank lines and comment lines count for nothing.  A line that ends inside an open bracket goes on
   in the next one.  What is left of a logical line is its indentation and whether it ends in a
   colon (`logicalLines?`).
3. Reading code in parts is reading it as a whole (`logicalLines?_append`), and code that is
   indented as a whole reads the same, only deeper (`logicalLines?_indented`).
-/

namespace StubGen.Layout

open Emitter

/-! ## Characters -/

/-- The quotes around literals. -/
inductive Quote where
  | single
  | double
deriving DecidableEq, Repr

/-- The kinds of brackets. -/
inductive Bracket where
  | round
  | square
  | curly
deriving DecidableEq, Repr

/-- What a character is to a scanner. -/
inductive Kind where
  | quote (quote : Quote)
  | opening (bracket : Bracket)
  | closing (bracket : Bracket)
  | colon
  /-- The marker of comments. -/
  | marker
  /-- A character that belongs in no line of code: the line feed, and the backslash. -/
  | foreign
  | other
deriving DecidableEq, Repr

/-- The kind of a character, by its code point. -/
def Kind.ofChar (c : Char) : Kind :=
  let code := c.toNat
  if code = 0x22 then .quote .double
  else if code = 0x27 then .quote .single
  else if code = 0x28 then .opening .round
  else if code = 0x29 then .closing .round
  else if code = 0x5b then .opening .square
  else if code = 0x5d then .closing .square
  else if code = 0x7b then .opening .curly
  else if code = 0x7d then .closing .curly
  else if code = 0x3a then .colon
  else if code = 0x23 then .marker
  else if code = 0x0a || code = 0x5c then .foreign
  else .other

/-! ## Scanning a line -/

/-- What the next character belongs to. -/
inductive Mode where
  | code
  | comment
  /-- A literal of which the first quote has been read. -/
  | opened (quote : Quote)
  /-- Two quotes: an empty literal, unless a third one follows. -/
  | paired (quote : Quote)
  /-- A literal that ends with its line. -/
  | short (quote : Quote)
  /-- A literal that may go on in the next line, behind some of the quotes that end it. -/
  | long (quote : Quote) (ending : Nat)
deriving DecidableEq, Repr

/-- A reader of characters: its mode, the open brackets, and whether it has just read a colon in
code. -/
structure Scanner where
  mode : Mode := .code
  brackets : List Bracket := []
  colon : Bool := false
deriving DecidableEq, Repr

namespace Scanner

/-- Read a character of code. -/
def readCode (scanner : Scanner) : Kind → Option Scanner
  | .quote quote => some ⟨.opened quote, scanner.brackets, false⟩
  | .opening bracket => some ⟨.code, bracket :: scanner.brackets, false⟩
  | .closing bracket =>
    match scanner.brackets with
    | [] => none
    | innermost :: outer => if innermost = bracket then some ⟨.code, outer, false⟩ else none
  | .colon => some ⟨.code, scanner.brackets, true⟩
  | .marker => some ⟨.comment, scanner.brackets, scanner.colon⟩
  | .foreign => none
  | .other => some ⟨.code, scanner.brackets, false⟩

/-- Read a character behind a quote: go to one mode at the same quote, and to another at anything
else. -/
def readLiteral (scanner : Scanner) (quote : Quote) (atQuote inside : Mode) :
    Kind → Option Scanner
  | .foreign => none
  | kind => some { scanner with mode := if kind = .quote quote then atQuote else inside }

/-- Read a character of a comment. -/
def readComment (scanner : Scanner) : Kind → Option Scanner
  | .foreign => none
  | _ => some scanner

/-- Read a character. -/
def read (scanner : Scanner) (c : Char) : Option Scanner :=
  match scanner.mode with
  | .code => scanner.readCode (.ofChar c)
  | .comment => scanner.readComment (.ofChar c)
  | .opened quote => scanner.readLiteral quote (.paired quote) (.short quote) (.ofChar c)
  | .paired quote =>
    if Kind.ofChar c = .quote quote then some { scanner with mode := .long quote 0 }
    else scanner.readCode (.ofChar c)
  | .short quote => scanner.readLiteral quote .code (.short quote) (.ofChar c)
  | .long quote ending =>
    scanner.readLiteral quote (if ending = 2 then .code else .long quote (ending + 1))
      (.long quote 0) (.ofChar c)

/-- Read some characters. -/
def readAll (scanner : Scanner) (chars : List Char) : Option Scanner :=
  chars.foldlM read scanner

end Scanner

/-- What is open between two lines: a literal, and brackets. -/
structure Pause where
  literal : Option Quote := none
  brackets : List Bracket := []
deriving DecidableEq, Repr

/-- The scanner at the start of a line. -/
def Pause.resume (pause : Pause) : Scanner :=
  match pause.literal with
  | none => ⟨.code, pause.brackets, false⟩
  | some quote => ⟨.long quote 0, pause.brackets, false⟩

/-- What is open at the end of a line, at which no short literal may be open. -/
def Scanner.pause? (scanner : Scanner) : Option Pause :=
  match scanner.mode with
  | .code | .comment | .paired _ => some ⟨none, scanner.brackets⟩
  | .long quote _ => some ⟨some quote, scanner.brackets⟩
  | .opened _ | .short _ => none

/-- Read a line: what is open behind it, and whether its code ends in a colon. -/
def Pause.readLine (pause : Pause) (line : List Char) : Option (Pause × Bool) := do
  let scanner ← pause.resume.readAll line
  let next ← scanner.pause?
  return (next, scanner.colon)

/-! ## Logical lines -/

/-- The number of spaces that a line starts with. -/
def marginOf (line : List Char) : Nat :=
  (line.takeWhile (· == ' ')).length

/-- Whether a line counts: there is a character that is no space, and the first one is not the
marker of comments. -/
def isSignificant (line : List Char) : Bool :=
  match line.dropWhile (· == ' ') with
  | [] => false
  | c :: _ => c != '#'

/-- A logical line: how far it is indented, and whether it ends in a colon. -/
structure LogicalLine where
  indent : Nat
  opens : Bool
deriving DecidableEq, Repr

/-- The logical lines of lines that all count, behind a pause.  A line that starts inside no bracket
sets the indentation of its logical line; inside one, that is `start`. -/
def readLines (pause : Pause) (start : Nat) : List (List Char) → Option (List LogicalLine)
  | [] => if pause = {} then some [] else none
  | line :: rest =>
    let start := if pause.brackets.isEmpty then marginOf line else start
    match pause.readLine line with
    | none => none
    | some (next, colon) =>
      if next.brackets.isEmpty then (readLines next start rest).map (⟨start, colon⟩ :: ·)
      else readLines next start rest

/-- The logical lines of lines that need not all count. -/
def readSignificant (lines : List (List Char)) : Option (List LogicalLine) :=
  readLines {} 0 (lines.filter isSignificant)

/-- The logical lines of some lines, if these are well formed: no bracket is closed by another kind,
and neither a bracket nor a literal stays open. -/
def logicalLines? (lines : List String) : Option (List LogicalLine) :=
  readSignificant (lines.map String.toList)

/-! ## Reading in parts -/

/-- Characters may be read in two goes. -/
theorem readAll_append (scanner : Scanner) (first second : List Char) :
    scanner.readAll (first ++ second) =
      (scanner.readAll first).bind fun next => next.readAll second :=
  List.foldlM_append ..

/-- Where no bracket is open, the next line sets the indentation. -/
theorem readLines_start {pause : Pause} (h : pause.brackets = []) (start : Nat)
    (lines : List (List Char)) : readLines pause start lines = readLines pause 0 lines := by
  cases lines with
  | nil => rfl
  | cons line rest => simp [readLines, h]

/-- Lines may be read in two goes, if nothing stays open between them. -/
theorem readLines_append {pause : Pause} {start : Nat} {first second : List (List Char)}
    {read : List LogicalLine} (h : readLines pause start first = some read) :
    readLines pause start (first ++ second) = (readLines {} 0 second).map (read ++ ·) := by
  induction first generalizing pause start read with
  | nil =>
      by_cases hpause : pause = {}
      · subst hpause
        rw [readLines, if_pos rfl] at h
        rw [List.nil_append, readLines_start rfl, ← Option.some.inj h]
        simp
      · rw [readLines, if_neg hpause] at h
        contradiction
  | cons line rest ih =>
      simp only [readLines, List.cons_append] at h ⊢
      cases hline : pause.readLine line with
      | none => simp [hline] at h
      | some result =>
          simp only [hline] at h ⊢
          by_cases hclosed : result.1.brackets.isEmpty
          · rw [if_pos hclosed, Option.map_eq_some_iff] at h
            obtain ⟨tail, htail, rfl⟩ := h
            rw [if_pos hclosed, ih htail, Option.map_map]
            rfl
          · rw [if_neg hclosed] at h ⊢
            exact ih h

/-- Code that is read in parts is read as a whole. -/
theorem logicalLines?_append {first second : List String} {read read' : List LogicalLine}
    (hfirst : logicalLines? first = some read) (hsecond : logicalLines? second = some read') :
    logicalLines? (first ++ second) = some (read ++ read') := by
  rw [logicalLines?, readSignificant] at hfirst hsecond
  rw [logicalLines?, readSignificant, List.map_append, List.filter_append,
    readLines_append hfirst, hsecond, Option.map_some]

/-! ## Indented code -/

/-- A logical line that stands further to the right. -/
def LogicalLine.shift (columns : Nat) (line : LogicalLine) : LogicalLine :=
  { line with indent := columns + line.indent }

section

variable {spaces : List Char} (hspaces : ∀ c ∈ spaces, (c == ' ') = true)

include hspaces

theorem marginOf_append (line : List Char) :
    marginOf (spaces ++ line) = spaces.length + marginOf line := by
  rw [marginOf, List.takeWhile_append_of_pos hspaces, List.length_append, marginOf]

theorem isSignificant_append (line : List Char) :
    isSignificant (spaces ++ line) = isSignificant line := by
  rw [isSignificant, List.dropWhile_append_of_pos hspaces, isSignificant]

/-- Spaces at the start of a line change nothing, be it in code or in a literal. -/
theorem readLine_append (pause : Pause) (line : List Char) :
    pause.readLine (spaces ++ line) = pause.readLine line := by
  have hspace : pause.resume.read ' ' = some pause.resume := by
    cases pause with
    | mk literal brackets => cases literal <;> rfl
  have hread : pause.resume.readAll spaces = some pause.resume := by
    induction spaces with
    | nil => rfl
    | cons c spaces ih =>
        rw [List.forall_mem_cons, beq_iff_eq] at hspaces
        rw [Scanner.readAll, List.foldlM_cons, hspaces.1, hspace]
        exact ih hspaces.2
  rw [Pause.readLine, readAll_append, hread]
  rfl

/-- Lines that are all indented alike read the same, only deeper. -/
theorem readLines_map_append (pause : Pause) (start : Nat) (lines : List (List Char)) :
    readLines pause (spaces.length + start) (lines.map (spaces ++ ·)) =
      (readLines pause start lines).map (List.map (LogicalLine.shift spaces.length)) := by
  induction lines generalizing pause start with
  | nil => by_cases hpause : pause = {} <;> simp [readLines, hpause]
  | cons line rest ih =>
      have hstart : (if pause.brackets.isEmpty then marginOf (spaces ++ line)
          else spaces.length + start) =
          spaces.length + if pause.brackets.isEmpty then marginOf line else start := by
        rw [marginOf_append hspaces]
        split <;> rfl
      simp only [List.map_cons, readLines, readLine_append hspaces, hstart, ih]
      cases pause.readLine line with
      | none => rfl
      | some result =>
          by_cases hclosed : result.1.brackets.isEmpty
          · simp only [if_pos hclosed, Option.map_map]
            rfl
          · simp only [if_neg hclosed]

end

/-- Code that is indented as a whole reads the same, only deeper. -/
theorem logicalLines?_indented {spaces : String} (h : ∀ c ∈ spaces.toList, c = ' ')
    (lines : List String) :
    logicalLines? (lines.map (indentLine spaces)) =
      (logicalLines? lines).map (List.map (LogicalLine.shift spaces.length)) := by
  have hspaces : ∀ c ∈ spaces.toList, (c == ' ') = true := by simpa using h
  have hkept : ((lines.map (indentLine spaces)).map String.toList).filter isSignificant =
      ((lines.map String.toList).filter isSignificant).map (spaces.toList ++ ·) := by
    induction lines with
    | nil => rfl
    | cons line rest ih =>
        simp only [List.map_cons, List.filter_cons, ih]
        by_cases hline : line = ""
        · simp [hline, indentLine, isSignificant]
        · rw [indentLine, if_neg hline, String.toList_append, isSignificant_append hspaces]
          split <;> rfl
  rw [logicalLines?, readSignificant, hkept, ← readLines_start rfl (spaces.toList.length + 0),
    readLines_map_append hspaces, String.length_toList]
  rfl

end StubGen.Layout
