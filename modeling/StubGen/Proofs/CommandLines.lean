import Mathlib.Data.List.Forall2
import StubGen.CommandLine.Parse

/-!
# StubGen.Proofs.CommandLines

Command lines that give some of the options, each of them once.

1. An option with its values can be written in up to three ways (`Use.WrittenAs`), and a command
   line is made of options that are written one after the other (`Written`).
2. Each of them is read as a group of its own (`Use.WrittenAs.exists_group`): its values end where
   the next option starts, and none is left over.  So a command line makes the settings that its
   options make one after the other (`parse_of_written`).
3. An option decides what the settings hold for it and for no other option (`held_apply_self`,
   `held_apply_of_ne`).  So the order of the options does not matter (`held_applyAll_of_mem`,
   `held_applyAll_of_forall_ne`).
-/

namespace StubGen.CommandLine

/-! ## Written options -/

/-- A value that does not start with a dash. -/
def IsPlain (value : String) : Prop :=
  value.toList.head? ≠ some '-'

instance : DecidablePred IsPlain := fun value =>
  inferInstanceAs (Decidable (value.toList.head? ≠ some '-'))

/-- The long spelling of an option. -/
def longSpelling : Switch → String
  | .help => "--help"
  | .clean => "--clean"
  | .paths => "--paths"
  | .descriptorSets => "--descriptor-sets"
  | .excludes => "--excludes"
  | .outputDir => "--output-dir"
  | .importPaths => "--import-path"
  | .protoc => "--protoc"
  | .noFormat => "--no-format"
  | .pyright => "--pyright"
  | .recursive => "--recursive"

/-- The short spelling of an option, if it has one. -/
def shortSpelling? : Switch → Option String
  | .help => some "-h"
  | .clean => some "-c"
  | .paths => some "-p"
  | .descriptorSets => some "-d"
  | .excludes => some "-e"
  | .outputDir => some "-o"
  | .importPaths => some "-I"
  | .recursive => some "-r"
  | .protoc | .noFormat | .pyright => none

/-- The words that an option with its values can be written as. -/
inductive Use.WrittenAs : Use → List String → Prop
  | short {use : Use} {spelling : String} (h : shortSpelling? use.switch = some spelling) :
      WrittenAs use (spelling :: use.values)
  | long {use : Use} : WrittenAs use (longSpelling use.switch :: use.values)
  | joined {switch : Switch} {value : String} (h : switch = .outputDir ∨ switch = .protoc) :
      WrittenAs ⟨switch, [value]⟩ [longSpelling switch ++ "=" ++ value]

/-- The command lines that options can be written as, one after the other. -/
inductive Written : List Use → List String → Prop
  | nil : Written [] []
  | cons {use : Use} {uses : List Use} {words rest : List String} (h : use.WrittenAs words)
      (hrest : Written uses rest) : Written (use :: uses) (words ++ rest)

/-- As many values as an option takes. -/
def Arity.Fits : Arity → List String → Prop
  | .none, values => values = []
  | .one, values => ∃ value, values = [value]
  | .oneOrMore, values => values ≠ []

/-- An option that makes settings, with values that it can take. -/
structure Use.IsProper (use : Use) : Prop where
  settles : use.switch ≠ .help
  fits : use.switch.arity.Fits use.values
  plain : ∀ value ∈ use.values, IsPlain value

/-! ## Words -/

/-- Long spellings are told apart. -/
theorem ofSpelling?_longSpelling (switch : Switch) :
    Switch.ofSpelling? (longSpelling switch) = some switch := by
  cases switch <;> decide

/-- Short spellings are told apart. -/
theorem ofSpelling?_shortSpelling {switch : Switch} {spelling : String}
    (h : shortSpelling? switch = some spelling) : Switch.ofSpelling? spelling = some switch := by
  cases switch <;> cases h <;> decide

/-- The form of a spelling. -/
structure IsSpelling (word : String) : Prop where
  dashed : ∃ c rest, word.toList = '-' :: c :: rest
  undivided : '=' ∉ word.toList
  ne_separator : word ≠ separator

/-- Whether a word has the form of a spelling. -/
def isSpelling (word : String) : Bool :=
  match word.toList with
  | '-' :: _ :: _ => !word.toList.contains '=' && word != separator
  | _ => false

theorem isSpelling_of_eq_true {word : String} (h : isSpelling word = true) : IsSpelling word := by
  unfold isSpelling at h
  split at h
  · next c rest hword =>
      simp only [Bool.and_eq_true, Bool.not_eq_true', List.contains_eq_mem,
        decide_eq_false_iff_not, bne_iff_ne] at h
      exact ⟨⟨c, rest, hword⟩, h.1, h.2⟩
  · contradiction

/-- All spellings in the table have the form of one. -/
theorem isSpelling_of_ofSpelling? {word : String} {switch : Switch}
    (h : Switch.ofSpelling? word = some switch) : IsSpelling word := by
  have hall : (Switch.table.all fun entry => isSpelling entry.1) = true := by decide
  obtain ⟨entry, hfind, _⟩ := Option.map_eq_some_iff.mp h
  have hword : entry.1 = word := by simpa using List.find?_some hfind
  rw [← hword]
  exact isSpelling_of_eq_true
    (List.all_eq_true.mp hall entry (List.mem_of_find?_eq_some hfind))

/-- A spelling is read as its option, with nothing attached. -/
theorem classify_of_ofSpelling? {word : String} {switch : Switch}
    (h : Switch.ofSpelling? word = some switch) :
    classify word = .ok (.switch switch (isShort word) none) := by
  obtain ⟨c, rest, hword⟩ := (isSpelling_of_ofSpelling? h).dashed
  simp [classify, exactSwitch?, hword, h]

/-- What is attached starts behind the first equals sign. -/
theorem splitEquals_append {before : List Char} (h : '=' ∉ before) (behind : List Char) :
    splitEquals (before ++ '=' :: behind) = (before, some behind) := by
  have hbefore : ∀ c ∈ before, (c != '=') = true := fun c hc =>
    bne_iff_ne.mpr fun heq => h (heq ▸ hc)
  rw [splitEquals, List.dropWhile_append_of_pos hbefore, List.takeWhile_append_of_pos hbefore]
  simp

theorem mem_toList_joined (spelling value : String) :
    '=' ∈ (spelling ++ "=" ++ value).toList := by
  simp

/-- A spelling with a value behind an `=` is the option with that value attached. -/
theorem classify_joined {spelling : String} {switch : Switch}
    (h : Switch.ofSpelling? spelling = some switch) (value : String) :
    classify (spelling ++ "=" ++ value) =
      .ok (.switch switch (isShort (spelling ++ "=" ++ value)) (some value.toList)) := by
  have hspelling := isSpelling_of_ofSpelling? h
  obtain ⟨c, rest, hdashed⟩ := hspelling.dashed
  have hword : (spelling ++ "=" ++ value).toList = spelling.toList ++ '=' :: value.toList := by
    simp
  have hsplit := splitEquals_append hspelling.undivided value.toList
  -- no option is spelled with an `=`, so the word as a whole spells none
  have hnone : Switch.ofSpelling? (spelling ++ "=" ++ value) = none := by
    by_contra hsome
    obtain ⟨other, hother⟩ := Option.ne_none_iff_exists'.mp hsome
    exact (isSpelling_of_ofSpelling? hother).undivided (mem_toList_joined spelling value)
  have hexact : exactSwitch? (spelling ++ "=" ++ value) =
      some (.switch switch (isShort (spelling ++ "=" ++ value)) (some value.toList)) := by
    simp [exactSwitch?, hnone, hword, hsplit, h]
  rw [hdashed] at hword
  simp [classify, hword, hexact]

/-- A plain value is read as a value. -/
theorem classify_of_isPlain {value : String} (h : IsPlain value) :
    classify value = .ok (.value value) := by
  unfold classify
  split
  · rfl
  · rfl
  · next c more hvalue =>
      rw [if_pos]
      intro hdash
      exact h (by rw [hvalue, hdash]; rfl)

theorem IsPlain.ne_separator {value : String} (h : IsPlain value) : value ≠ separator := by
  intro heq
  rw [heq] at h
  exact absurd h (by decide)

/-- In front of the separator, words are told apart one by one. -/
theorem classifyAll_cons {word : String} {first : Word} (hne : word ≠ separator)
    (h : classify word = .ok first) (rest : List String) :
    classifyAll (word :: rest) = (classifyAll rest).map (first :: ·) := by
  rw [classifyAll, if_neg hne, h]

/-- Plain values are read as values, whatever follows them. -/
theorem classifyAll_values_append {values : List String} (h : ∀ value ∈ values, IsPlain value)
    (rest : List String) :
    classifyAll (values ++ rest) = (classifyAll rest).map (values.map Word.value ++ ·) := by
  induction values with
  | nil => cases hrest : classifyAll rest <;> simp [hrest, Except.map]
  | cons value values ih =>
      have hvalue := List.forall_mem_cons.mp h
      rw [List.cons_append, classifyAll_cons hvalue.1.ne_separator (classify_of_isPlain hvalue.1),
        ih hvalue.2]
      cases classifyAll rest <;> rfl

/-! ## Groups -/

/-- The words of a group. -/
def Group.words (group : Group) : List Word :=
  group.head :: group.values.map .value

/-- A group that is read as one option with its values. -/
structure Group.Spells (group : Group) (use : Use) : Prop where
  isOption : ∃ short attached, group.head = .switch use.switch short attached
  read_eq : group.read = .ok ⟨[use], []⟩

/-- An option takes values that fit it, and leaves none over. -/
theorem readAlone_of_fits {switch : Switch} {values : List String}
    (h : switch.arity.Fits values) : readAlone switch values = .ok ⟨[⟨switch, values⟩], []⟩ := by
  unfold readAlone
  cases harity : switch.arity with
  | none =>
      rw [harity] at h
      rw [show values = [] from h]
  | one =>
      rw [harity] at h
      obtain ⟨value, rfl⟩ := h
      rfl
  | oneOrMore =>
      rw [harity] at h
      obtain ⟨value, more, rfl⟩ := List.exists_cons_of_ne_nil h
      rfl

/-- An attached value is the only one. -/
theorem readAttached_of_isPlain {switch : Switch} (harity : switch.arity ≠ .none) (short : Bool)
    {value : String} (h : IsPlain value) :
    readAttached switch short [] value.toList = .ok ⟨[⟨switch, [value]⟩], []⟩ := by
  have hvalue : String.ofList value.toList = value := String.ofList_toList
  cases hchars : value.toList with
  | nil =>
      rw [hchars] at hvalue
      rw [readAttached, if_neg harity, ← hvalue]
  | cons c more =>
      rw [hchars] at hvalue
      rw [readAttached, if_pos harity, attachedValues, hvalue, if_neg h.ne_separator]

/-- A spelling and the values behind it are the words of a group that spells the option. -/
theorem exists_group_of_ofSpelling? {use : Use} {spelling : String} (hproper : use.IsProper)
    (h : Switch.ofSpelling? spelling = some use.switch) :
    ∃ group : Group, group.Spells use ∧ ∀ rest, classifyAll (spelling :: use.values ++ rest) =
      (classifyAll rest).map (group.words ++ ·) := by
  refine ⟨⟨.switch use.switch (isShort spelling) none, use.values⟩,
    ⟨⟨_, _, rfl⟩, readAlone_of_fits hproper.fits⟩, fun rest => ?_⟩
  have hne := (isSpelling_of_ofSpelling? h).ne_separator
  rw [List.cons_append, classifyAll_cons hne (classify_of_ofSpelling? h),
    classifyAll_values_append hproper.plain]
  cases classifyAll rest <;> rfl

/-- However an option is written, its words are those of a group that is read as the option. -/
theorem Use.WrittenAs.exists_group {use : Use} {words : List String} (h : use.WrittenAs words)
    (hproper : use.IsProper) :
    ∃ group : Group, group.Spells use ∧ ∀ rest, classifyAll (words ++ rest) =
      (classifyAll rest).map (group.words ++ ·) := by
  cases h with
  | short h => exact exists_group_of_ofSpelling? hproper (ofSpelling?_shortSpelling h)
  | long => exact exists_group_of_ofSpelling? hproper (ofSpelling?_longSpelling use.switch)
  | @joined switch value hswitch =>
      have harity : switch.arity ≠ .none := by
        rcases hswitch with rfl | rfl <;> decide
      have hne : longSpelling switch ++ "=" ++ value ≠ separator := by
        intro heq
        have hmem := mem_toList_joined (longSpelling switch) value
        rw [heq] at hmem
        exact absurd hmem (by decide)
      have hplain : IsPlain value := hproper.plain value (by simp)
      have hclassify := classify_joined (ofSpelling?_longSpelling switch) value
      refine ⟨⟨.switch switch (isShort (longSpelling switch ++ "=" ++ value)) (some value.toList),
        []⟩, ⟨⟨_, _, rfl⟩, readAttached_of_isPlain harity _ hplain⟩, fun rest => ?_⟩
      rw [List.singleton_append, classifyAll_cons hne hclassify]
      rfl

/-- A command line falls into groups, one for each option that was written, in order. -/
theorem Written.exists_groups {uses : List Use} {words : List String} (h : Written uses words)
    (hproper : ∀ use ∈ uses, use.IsProper) :
    ∃ groups, List.Forall₂ Group.Spells groups uses ∧
      classifyAll words = .ok (groups.flatMap Group.words) := by
  induction h with
  | nil => exact ⟨[], .nil, rfl⟩
  | cons h _ ih =>
      have hall := List.forall_mem_cons.mp hproper
      obtain ⟨group, hspells, hwords⟩ := h.exists_group hall.1
      obtain ⟨groups, hgroups, hrest⟩ := ih hall.2
      refine ⟨group :: groups, .cons hspells hgroups, ?_⟩
      rw [hwords, hrest, List.flatMap_cons]
      rfl

/-- Values in front of all options stay together. -/
theorem groupWords_values_append (values : List String) (rest : List Word) :
    groupWords (values.map Word.value ++ rest) =
      (values ++ (groupWords rest).1, (groupWords rest).2) := by
  induction values with
  | nil => rfl
  | cons value values ih => rw [List.map_cons, List.cons_append, groupWords, ih, List.cons_append]

/-- The values of a group end where the next group starts. -/
theorem groupWords_flatMap_words {groups : List Group} {uses : List Use}
    (h : List.Forall₂ Group.Spells groups uses) :
    groupWords (groups.flatMap Group.words) = ([], groups) := by
  induction h with
  | nil => rfl
  | @cons group use groups uses hspells _ ih =>
      obtain ⟨short, attached, hhead⟩ := hspells.isOption
      obtain ⟨head, values⟩ := group
      -- the groups behind start with an option, so they leave no values to this one
      rw [show head = _ from hhead, List.flatMap_cons, Group.words, List.cons_append, groupWords,
        groupWords_values_append, ih, List.append_nil]
      simp

/-- The settings after some options, one after the other. -/
def applyAll (options : Options) (uses : List Use) : Options :=
  uses.foldl (fun options use => use.apply options) options

theorem applyAll_cons (options : Options) (use : Use) (uses : List Use) :
    applyAll options (use :: uses) = applyAll (use.apply options) uses :=
  rfl

/-- Groups that spell options make the settings that the options make, and leave nothing over. -/
theorem readGroups_of_spells {groups : List Group} {uses : List Use}
    (h : List.Forall₂ Group.Spells groups uses) (hproper : ∀ use ∈ uses, use.IsProper)
    (options : Options) (rest : List String) :
    readGroups options rest groups = .ok (applyAll options uses, rest) := by
  induction h generalizing options with
  | nil => rfl
  | cons hspells _ ih =>
      have hall := List.forall_mem_cons.mp hproper
      rw [readGroups, hspells.read_eq]
      simp only [applyUses, if_neg hall.1.settles, List.append_nil]
      rw [ih hall.2, applyAll_cons]

/-- A command line makes the settings that its options make one after the other. -/
theorem parse_of_written {uses : List Use} {words : List String} (h : Written uses words)
    (hproper : ∀ use ∈ uses, use.IsProper) :
    parse words = .ok (applyAll {} uses) := by
  obtain ⟨groups, hgroups, hwords⟩ := h.exists_groups hproper
  rw [parse, hwords]
  simp only [groupWords_flatMap_words hgroups, readGroups_of_spells hgroups hproper]

/-! ## Settings by option -/

/-- A setting, by the number of values that its option takes. -/
inductive Held where
  | values (values : List String)
  | value (value : Option String)
  | flag (given : Bool)
deriving DecidableEq, Repr

/-- What settings hold for an option. -/
def held (options : Options) : Switch → Held
  | .help => .flag false
  | .clean => .values options.clean
  | .paths => .values options.paths
  | .descriptorSets => .values options.descriptorSets
  | .excludes => .values options.excludes
  | .outputDir => .value options.outputDir
  | .importPaths => .values options.importPaths
  | .protoc => .value options.protoc
  | .noFormat => .flag options.noFormat
  | .pyright => .flag options.pyright
  | .recursive => .flag options.recursive

/-- What an option with its values asks for. -/
def Use.held (use : Use) : Held :=
  match use.switch.arity with
  | .none => .flag true
  | .one => .value use.values.head?
  | .oneOrMore => .values use.values

/-- Settings are known by what they hold for each option. -/
theorem eq_of_held_eq {options other : Options}
    (h : ∀ switch, held options switch = held other switch) : options = other := by
  cases options
  cases other
  rw [Options.mk.injEq]
  exact ⟨Held.values.inj (h .clean), Held.values.inj (h .paths),
    Held.values.inj (h .descriptorSets), Held.values.inj (h .excludes),
    Held.value.inj (h .outputDir), Held.values.inj (h .importPaths), Held.value.inj (h .protoc),
    Held.flag.inj (h .noFormat), Held.flag.inj (h .pyright), Held.flag.inj (h .recursive)⟩

/-- An option makes its own setting. -/
theorem held_apply_self {use : Use} (h : use.switch ≠ .help) (options : Options) :
    held (use.apply options) use.switch = use.held := by
  obtain ⟨switch, values⟩ := use
  cases switch <;> first | contradiction | rfl

/-- An option makes no other setting. -/
theorem held_apply_of_ne {use : Use} {switch : Switch} (h : use.switch ≠ switch)
    (options : Options) : held (use.apply options) switch = held options switch := by
  obtain ⟨used, values⟩ := use
  -- one case for each pair of options, since each has a field of its own
  cases used <;> cases switch <;> first | contradiction | rfl

/-- Options other than one do not change what the settings hold for it. -/
theorem held_applyAll_of_forall_ne {uses : List Use} {switch : Switch}
    (h : ∀ use ∈ uses, use.switch ≠ switch) (options : Options) :
    held (applyAll options uses) switch = held options switch := by
  induction uses generalizing options with
  | nil => rfl
  | cons use uses ih =>
      have hall := List.forall_mem_cons.mp h
      rw [applyAll_cons, ih hall.2, held_apply_of_ne hall.1]

/-- The settings hold for an option what it asks for, wherever it stands, if it stands nowhere
else. -/
theorem held_applyAll_of_mem {uses : List Use} (hproper : ∀ use ∈ uses, use.IsProper)
    (hnodup : (uses.map Use.switch).Nodup) {use : Use} (h : use ∈ uses) (options : Options) :
    held (applyAll options uses) use.switch = use.held := by
  induction uses generalizing options with
  | nil => contradiction
  | cons first uses ih =>
      have hall := List.forall_mem_cons.mp hproper
      obtain ⟨hfirst, hrest⟩ := List.nodup_cons.mp hnodup
      rw [applyAll_cons]
      rcases List.mem_cons.mp h with rfl | hmem
      · have hothers : ∀ other ∈ uses, other.switch ≠ use.switch := fun other hother heq =>
          hfirst (heq ▸ List.mem_map_of_mem hother)
        rw [held_applyAll_of_forall_ne hothers, held_apply_self hall.1.settles]
      · exact ih hall.2 hrest hmem _

/-! ## Choices of options -/

/-- A value for an option. -/
structure PlainValue where
  text : String
  plain : IsPlain text

/-- A plain value is proper for an option with one value. -/
theorem PlainValue.isProper (value : PlainValue) {switch : Switch} (h : switch.arity = .one) :
    Use.IsProper ⟨switch, [value.text]⟩ where
  settles := by rintro rfl; contradiction
  fits := by rw [h]; exact ⟨value.text, rfl⟩
  plain := by simpa using value.plain

/-- Values for an option that takes one or more. -/
structure PlainValues where
  texts : List String
  nonempty : texts ≠ []
  plain : ∀ text ∈ texts, IsPlain text

/-- Plain values are proper for an option with one or more values. -/
theorem PlainValues.isProper (values : PlainValues) {switch : Switch}
    (h : switch.arity = .oneOrMore) : Use.IsProper ⟨switch, values.texts⟩ where
  settles := by rintro rfl; contradiction
  fits := by rw [h]; exact values.nonempty
  plain := values.plain

theorem isProper_of_ite {switch : Switch} (hne : switch ≠ .help) (harity : switch.arity = .none)
    {flag : Bool} {values : List String} (h : (if flag then some [] else none) = some values) :
    Use.IsProper ⟨switch, values⟩ := by
  obtain ⟨_, rfl⟩ : flag = true ∧ [] = values := by simpa using h
  exact ⟨hne, by rw [harity]; rfl, by simp⟩

/-- Some of the options, with values for those that take values.  Asking for help makes no settings
and is not among them. -/
structure Choice where
  clean : Option PlainValues := none
  paths : Option PlainValues := none
  descriptorSets : Option PlainValues := none
  excludes : Option PlainValues := none
  outputDir : Option PlainValue := none
  importPaths : Option PlainValues := none
  protoc : Option PlainValue := none
  noFormat : Bool := false
  pyright : Bool := false
  recursive : Bool := false

namespace Choice

/-- The settings that a choice stands for. -/
def options (choice : Choice) : Options where
  clean := choice.clean.elim [] PlainValues.texts
  paths := choice.paths.elim ["**/*.proto"] PlainValues.texts
  descriptorSets := choice.descriptorSets.elim [] PlainValues.texts
  excludes := choice.excludes.elim [] PlainValues.texts
  outputDir := some (choice.outputDir.elim "" PlainValue.text)
  importPaths := choice.importPaths.elim [] PlainValues.texts
  protoc := some (choice.protoc.elim "protoc" PlainValue.text)
  noFormat := choice.noFormat
  pyright := choice.pyright
  recursive := choice.recursive

/-- What a choice gives to an option, if it is among the chosen ones. -/
def given? (choice : Choice) : Switch → Option (List String)
  | .help => none
  | .clean => choice.clean.map PlainValues.texts
  | .paths => choice.paths.map PlainValues.texts
  | .descriptorSets => choice.descriptorSets.map PlainValues.texts
  | .excludes => choice.excludes.map PlainValues.texts
  | .outputDir => choice.outputDir.map fun value => [value.text]
  | .importPaths => choice.importPaths.map PlainValues.texts
  | .protoc => choice.protoc.map fun value => [value.text]
  | .noFormat => if choice.noFormat then some [] else none
  | .pyright => if choice.pyright then some [] else none
  | .recursive => if choice.recursive then some [] else none

/-- The chosen options with their values, in order of declaration. -/
def uses (choice : Choice) : List Use :=
  Switch.all.filterMap fun switch => (choice.given? switch).map fun values => ⟨switch, values⟩

/-- The options of a choice, with their values. -/
theorem mem_uses {choice : Choice} {use : Use} :
    use ∈ choice.uses ↔ choice.given? use.switch = some use.values := by
  have hall : ∀ switch, switch ∈ Switch.all := fun switch => by cases switch <;> decide
  simp only [uses, List.mem_filterMap, Option.map_eq_some_iff]
  constructor
  · rintro ⟨switch, _, values, hvalues, rfl⟩
    exact hvalues
  · intro h
    exact ⟨use.switch, hall use.switch, use.values, h, rfl⟩

/-- A choice uses each option at most once. -/
theorem nodup_switch_uses (choice : Choice) : (choice.uses.map Use.switch).Nodup := by
  have hall : Switch.all.Nodup := by decide
  have hswitches : choice.uses.map Use.switch =
      Switch.all.filter fun switch => (choice.given? switch).isSome := by
    rw [uses, List.map_filterMap, ← List.filterMap_eq_filter]
    congr 1
    funext switch
    cases hgiven : choice.given? switch <;> simp [Option.guard, hgiven]
  rw [hswitches]
  exact hall.filter _

/-- The options of a choice are all used properly. -/
theorem isProper_of_mem_uses {choice : Choice} {use : Use} (h : use ∈ choice.uses) :
    use.IsProper := by
  rw [mem_uses] at h
  obtain ⟨switch, values⟩ := use
  cases switch with
  | help => contradiction
  | clean | paths | descriptorSets | excludes | importPaths =>
      obtain ⟨chosen, _, rfl⟩ := Option.map_eq_some_iff.mp h
      exact chosen.isProper rfl
  | outputDir | protoc =>
      obtain ⟨chosen, _, rfl⟩ := Option.map_eq_some_iff.mp h
      exact chosen.isProper rfl
  | noFormat | pyright | recursive => exact isProper_of_ite (by decide) rfl h

/-- The settings of a choice, option by option. -/
theorem held_options (choice : Choice) (switch : Switch) :
    held choice.options switch =
      (choice.given? switch).elim (held {} switch) fun values => Use.held ⟨switch, values⟩ := by
  have hlist (chosen : Option PlainValues) (default : List String) :
      Held.values (chosen.elim default PlainValues.texts) =
        (chosen.map PlainValues.texts).elim (.values default) .values := by
    cases chosen <;> rfl
  have hsingle (chosen : Option PlainValue) (default : String) :
      Held.value (some (chosen.elim default PlainValue.text)) =
        (chosen.map fun value => [value.text]).elim (.value (some default))
          fun values => .value values.head? := by
    cases chosen <;> rfl
  have hflag (chosen : Bool) :
      Held.flag chosen = (if chosen then some [] else none : Option (List String)).elim
        (.flag false) fun _ => .flag true := by
    cases chosen <;> rfl
  cases switch with
  | help => rfl
  | clean | paths | descriptorSets | excludes | importPaths => exact hlist _ _
  | outputDir | protoc => exact hsingle _ _
  | noFormat | pyright | recursive => exact hflag _

end Choice

/-- **Command lines round-trip.**  Take some of the options, with any values that they can take and
that do not start with a dash.  In whatever order they are written, each in whatever way, the
command line is read, and the settings hold what was chosen, and for every other option its
default. -/
theorem command_line_round_trip (choice : Choice) {uses : List Use} {words : List String}
    (horder : uses.Perm choice.uses) (hwritten : Written uses words) :
    parse words = .ok choice.options := by
  have hproper : ∀ use ∈ uses, use.IsProper := fun use h =>
    Choice.isProper_of_mem_uses (horder.mem_iff.mp h)
  have hnodup : (uses.map Use.switch).Nodup :=
    (horder.map Use.switch).nodup_iff.mpr choice.nodup_switch_uses
  rw [parse_of_written hwritten hproper]
  congr 1
  apply eq_of_held_eq
  intro switch
  rw [choice.held_options]
  cases hgiven : choice.given? switch with
  | none =>
      apply held_applyAll_of_forall_ne
      rintro use huse rfl
      rw [horder.mem_iff, Choice.mem_uses, hgiven] at huse
      contradiction
  | some values =>
      have hmem : ⟨switch, values⟩ ∈ uses := horder.mem_iff.mpr (Choice.mem_uses.mpr hgiven)
      exact held_applyAll_of_mem hproper hnodup hmem {}

/-- A choice with empty values, and with values that hold spaces, dashes and equals signs. -/
def mixedChoice : Choice where
  excludes := some ⟨["", "a -b", "x=y"], by decide, by decide⟩
  outputDir := some ⟨"a=-b", by decide⟩
  protoc := some ⟨"", by decide⟩
  noFormat := true
  recursive := true

/-- The options of the choice in another order. -/
def mixedUses : List Use :=
  [⟨.protoc, [""]⟩, ⟨.recursive, []⟩, ⟨.excludes, ["", "a -b", "x=y"]⟩, ⟨.outputDir, ["a=-b"]⟩,
   ⟨.noFormat, []⟩]

/-- A command line for the choice. -/
def mixedWords : List String :=
  ["--protoc=", "-r", "-e", "", "a -b", "x=y", "--output-dir=a=-b", "--no-format"]

theorem command_line_round_trip_mixed :
    mixedUses.Perm mixedChoice.uses ∧ Written mixedUses mixedWords ∧
      parse mixedWords = .ok { excludes := ["", "a -b", "x=y"], outputDir := some "a=-b",
                               protoc := some "", noFormat := true, recursive := true } := by
  have horder : mixedUses.Perm mixedChoice.uses := by decide
  have hwritten : Written mixedUses mixedWords :=
    .cons (.joined (.inr rfl)) (.cons (.short rfl) (.cons (.short rfl)
      (.cons (.joined (.inl rfl)) (.cons .long .nil))))
  exact ⟨horder, hwritten, command_line_round_trip mixedChoice horder hwritten⟩

end StubGen.CommandLine
