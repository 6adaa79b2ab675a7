import StubGen.CommandLine.Word
import StubGen.Text.Quoted

/-!
# StubGen.CommandLine.Parse

The settings that a command line makes.  All words are told apart first.  Each option then goes with
the values that follow it:

1. an option with something attached takes that as its only value, or no value if that is two
   dashes; without, it takes the values that follow, as many as it can have;
2. an option without values that is spelled with one dash may have further such options attached, of
   which the last may take values;
3. values that no option takes, and options that do not exist, are left over, which is an error once
   all else is read;
4. asking for help ends the reading there and then.
-/

namespace StubGen.CommandLine

/-! ## Outcomes -/

/-- Why a command line cannot be read. -/
inductive UsageError where
  | ambiguous (ambiguity : Ambiguity)
  /-- An option lacks its value. -/
  | missingValue (switch : Switch)
  /-- An option without values has one attached. -/
  | ignoredValue (switch : Switch) (value : String)
  /-- Words are left over. -/
  | leftOver (words : List String)
deriving DecidableEq, Repr

/-- How the reading of a command line ends early. -/
inductive Stop where
  | help
  | usage (error : UsageError)
deriving DecidableEq, Repr

def UsageError.message : UsageError → String
  | .ambiguous ambiguity =>
    "ambiguous option: " ++ ambiguity.word ++ " could match " ++
      ", ".intercalate ambiguity.spellings
  | .missingValue switch =>
    "argument " ++ switch.display ++ ": expected " ++
      (if switch.arity = .one then "one argument" else "at least one argument")
  | .ignoredValue switch value =>
    "argument " ++ switch.display ++ ": ignored explicit argument " ++ Text.quoted value
  | .leftOver words => "unrecognized arguments: " ++ " ".intercalate words

/-! ## Groups -/

/-- An option with the values that follow it. -/
structure Group where
  head : Word
  values : List String
deriving DecidableEq, Repr

/-- The values in front of the first option, and the options with the values that follow each. -/
def groupWords : List Word → List String × List Group
  | [] => ([], [])
  | .value text :: rest =>
    let (values, groups) := groupWords rest
    (text :: values, groups)
  | head :: rest =>
    let (values, groups) := groupWords rest
    ([], ⟨head, values⟩ :: groups)

/-- Options with their values, and the words that are left over. -/
structure Reading where
  uses : List Use := []
  rest : List String := []
deriving DecidableEq, Repr

/-- An option to which nothing is attached takes values that follow it. -/
def readAlone (switch : Switch) (values : List String) : Except UsageError Reading :=
  match switch.arity, values with
  | .none, _ => .ok ⟨[⟨switch, []⟩], values⟩
  | .one, value :: rest => .ok ⟨[⟨switch, [value]⟩], rest⟩
  | .oneOrMore, _ :: _ => .ok ⟨[⟨switch, values⟩], []⟩
  | _, [] => .error (.missingValue switch)

/-- The values that something attached makes. -/
def attachedValues (attached : List Char) : List String :=
  if String.ofList attached = separator then [] else [String.ofList attached]

/-- An option to which something is attached. -/
def readAttached (switch : Switch) (short : Bool) (values : List String) :
    (attached : List Char) → Except UsageError Reading
  | [] =>
    if switch.arity = .none then .error (.ignoredValue switch "")
    else .ok ⟨[⟨switch, [""]⟩], values⟩
  | c :: attached =>
    if switch.arity ≠ .none then .ok ⟨[⟨switch, attachedValues (c :: attached)⟩], values⟩
    else if short then
      -- what is attached to an option without values is read as further short options
      match Switch.ofSpelling? (String.ofList ['-', c]) with
      | none => .error (.ignoredValue switch (String.ofList (c :: attached)))
      | some next =>
        let joined := if attached.isEmpty then readAlone next values
          else readAttached next true values attached
        joined.map fun reading => { reading with uses := ⟨switch, []⟩ :: reading.uses }
    else .error (.ignoredValue switch (String.ofList (c :: attached)))

/-- The options of a group with their values, and what is left over. -/
def Group.read (group : Group) : Except UsageError Reading :=
  match group.head with
  | .value text | .unknown text => .ok ⟨[], text :: group.values⟩
  | .switch switch _ none => readAlone switch group.values
  | .switch switch short (some attached) => readAttached switch short group.values attached

/-! ## The whole line -/

/-- The settings after some options, unless one asks for help. -/
def applyUses (options : Options) : List Use → Except Stop Options
  | [] => .ok options
  | use :: rest => if use.switch = .help then .error .help else applyUses (use.apply options) rest

/-- The settings and the left-over words after some groups. -/
def readGroups (options : Options) (rest : List String) :
    List Group → Except Stop (Options × List String)
  | [] => .ok (options, rest)
  | group :: groups =>
    match group.read with
    | .error problem => .error (.usage problem)
    | .ok reading =>
      match applyUses options reading.uses with
      | .error stop => .error stop
      | .ok options => readGroups options (rest ++ reading.rest) groups

/-- The settings that the words of a command line make. -/
def parse (words : List String) : Except Stop Options :=
  match classifyAll words with
  | .error ambiguity => .error (.usage (.ambiguous ambiguity))
  | .ok words =>
    let (front, groups) := groupWords words
    match readGroups {} front groups with
    | .error stop => .error stop
    | .ok (options, []) => .ok options
    -- words that are left over are reported last of all
    | .ok (_, rest) => .error (.usage (.leftOver rest))

end StubGen.CommandLine
