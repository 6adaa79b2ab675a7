import StubGen.CommandLine.Options
import StubGen.Text.Digit

/-!
# StubGen.CommandLine.Word

The words of a command line, told apart into values and options:

1. a word that is empty or does not start with a dash is a value, and so is a single dash;
2. a word that spells an option is that option;
3. a word whose part before the first `=` spells an option is that option with the part behind the
   `=` attached;
4. a word with two dashes may be the start of one long spelling, up to its first `=`, behind which
   something may be attached; a word with one dash may be a short spelling with something attached;
   a word that several spellings fit is ambiguous;
5. of the words left, negative numbers and words with a space are values, and the others options
   that do not exist;
6. from a word of two dashes on, all words are values that no option takes.
-/

namespace StubGen.CommandLine

/-- A word of a command line. -/
inductive Word where
  | value (text : String)
  /-- An option, whether it was spelled with one dash, and what was attached to it. -/
  | switch (switch : Switch) (short : Bool) (attached : Option (List Char))
  /-- An option that does not exist. -/
  | unknown (text : String)
deriving DecidableEq, Repr

/-- Whether a spelling has one dash only. -/
def isShort (spelling : String) : Bool :=
  match spelling.toList with
  | '-' :: '-' :: _ => false
  | _ => true

/-- The parts of a word before and behind its first `=`. -/
def splitEquals (cs : List Char) : List Char × Option (List Char) :=
  match cs.dropWhile (· != '=') with
  | [] => (cs, none)
  | _ :: behind => (cs.takeWhile (· != '='), some behind)

/-- The option that a word spells, alone or with something attached by `=`. -/
def exactSwitch? (word : String) : Option Word :=
  match Switch.ofSpelling? word with
  | some switch => some (.switch switch (isShort word) none)
  | none =>
    match splitEquals word.toList with
    | (_, none) => none
    | (before, some behind) =>
      (Switch.ofSpelling? (String.ofList before)).map fun switch =>
        .switch switch (isShort word) (some behind)

/-- The spellings that a word may stand for, each with the word read so. -/
def candidates (word : String) : List (String × Word) :=
  match word.toList with
  | '-' :: '-' :: _ =>
    -- long spellings may be cut short, as long as it is clear which one is meant
    let (start, attached) := splitEquals word.toList
    (Switch.table.filter fun entry => start.isPrefixOf entry.1.toList).map fun entry =>
      (entry.1, .switch entry.2 (isShort entry.1) attached)
  | '-' :: c :: attached =>
    (Switch.table.filter fun entry => entry.1.toList == ['-', c]).map fun entry =>
      (entry.1, .switch entry.2 true (some attached))
  | _ => []

/-- Whether characters are a negative number: a dash, and digits with a point before or among them,
or none.  One line feed may follow. -/
def isNegativeNumber (cs : List Char) : Bool :=
  let cs := if cs.getLast? = some '\n' then cs.dropLast else cs
  match cs with
  | '-' :: number =>
    match number.dropWhile Text.isDecimalChar with
    | [] => !number.isEmpty
    | '.' :: fraction => !fraction.isEmpty && fraction.all Text.isDecimalChar
    | _ => false
  | _ => false

/-- A word that several spellings fit. -/
structure Ambiguity where
  word : String
  spellings : List String
deriving DecidableEq, Repr

/-- Tell a word apart. -/
def classify (word : String) : Except Ambiguity Word :=
  match word.toList with
  | [] => .ok (.value word)
  | [_] => .ok (.value word)
  | c :: _ =>
    if c ≠ '-' then .ok (.value word)
    else match exactSwitch? word with
      -- a full spelling counts even if it is also the start of longer ones
      | some read => .ok read
      | none =>
        match candidates word with
        | [candidate] => .ok candidate.2
        | [] =>
          if isNegativeNumber word.toList || word.toList.contains ' ' then .ok (.value word)
          else .ok (.unknown word)
        | several => .error ⟨word, several.map Prod.fst⟩

/-- The word behind which there are no options. -/
def separator : String := "--"

/-- Tell the words of a command line apart. -/
def classifyAll : List String → Except Ambiguity (List Word)
  | [] => .ok []
  | word :: rest =>
    if word = separator then .ok (.unknown word :: rest.map .value)
    else
      match classify word with
      | .error ambiguity => .error ambiguity
      | .ok first => (classifyAll rest).map (first :: ·)

end StubGen.CommandLine
