import StubGen.Proofs.LogicalLines
import StubGen.Proofs.PlainNames

/-!
# StubGen.Proofs.Sketch

Code reads the same whatever plain names it has.

1. A scanner is *settled* if names do not change it.  It is, behind any character that is neither a
   quote nor a colon (`settled_of_read`).
2. A *sketch* of a text has its characters without the names.  Names stand behind settled code, or
   in literals that something else than a quote follows, so that a scanner reads both alike
   (`readAll_of_sketch`).
3. So the logical lines of some code are those of its sketch (`reads_of_sketch`), and these can be
   computed.
-/

namespace StubGen.Layout

open Text Stub

/-! ## Scanning names -/

/-- The scanner treats all plain characters alike. -/
theorem ofChar_of_isPlainChar {c : Char} (h : isPlainChar c = true) : Kind.ofChar c = .other := by
  have hne : ∀ code : Nat, isPlainChar (Char.ofNat code) = false → c.toNat ≠ code := by
    rintro code hcode rfl
    rw [Char.ofNat_toNat, h] at hcode
    contradiction
  simp only [Kind.ofChar, hne 0x22 rfl, hne 0x27 rfl, hne 0x28 rfl, hne 0x29 rfl, hne 0x5b rfl,
    hne 0x5d rfl, hne 0x7b rfl, hne 0x7d rfl, hne 0x3a rfl, hne 0x23 rfl, hne 0x0a rfl,
    hne 0x5c rfl, decide_false, Bool.or_false, if_false, Bool.false_eq_true]

namespace Scanner

/-- The scanner behind a name. -/
def afterName (scanner : Scanner) : Scanner :=
  match scanner.mode with
  | .code | .paired _ => ⟨.code, scanner.brackets, false⟩
  | .comment => scanner
  | .opened quote | .short quote => { scanner with mode := .short quote }
  | .long quote _ => { scanner with mode := .long quote 0 }

/-- A scanner that names do not change. -/
def Settled (scanner : Scanner) : Prop :=
  scanner.afterName = scanner

/-- A name settles any scanner. -/
theorem settled_afterName (scanner : Scanner) : scanner.afterName.Settled := by
  cases scanner with
  | mk mode brackets colon => cases mode <;> rfl

/-- One plain character is read like any other. -/
theorem read_of_isPlainChar (scanner : Scanner) {c : Char} (h : isPlainChar c = true) :
    scanner.read c = some scanner.afterName := by
  cases scanner with
  | mk mode brackets colon =>
      cases mode <;> simp [read, ofChar_of_isPlainChar h, readCode, readLiteral, readComment,
        afterName]

/-- A settled scanner passes over plain names. -/
theorem Settled.readAll_of_plain {scanner : Scanner} (hsettled : scanner.Settled)
    {chars : List Char} (h : ∀ c ∈ chars, isPlainChar c = true) :
    scanner.readAll chars = some scanner := by
  induction chars with
  | nil => rfl
  | cons c chars ih =>
      rw [List.forall_mem_cons] at h
      rw [readAll, List.foldlM_cons, read_of_isPlainChar scanner h.1, hsettled]
      exact ih h.2

/-- A name is read in the same way whatever it is, as long as it is something. -/
theorem readAll_of_plain (scanner : Scanner) {c : Char} {chars : List Char}
    (h : ∀ other ∈ c :: chars, isPlainChar other = true) :
    scanner.readAll (c :: chars) = some scanner.afterName := by
  rw [List.forall_mem_cons] at h
  rw [readAll, List.foldlM_cons, read_of_isPlainChar scanner h.1]
  exact scanner.settled_afterName.readAll_of_plain h.2

end Scanner

/-- Whether scanners are settled behind a character of a kind. -/
def Kind.isQuiet : Kind → Bool
  | .opening _ | .closing _ | .other => true
  | .quote _ | .colon | .marker | .foreign => false

namespace Scanner

/-- A quiet character settles a scanner that reads code. -/
theorem settled_of_readCode {scanner next : Scanner} {kind : Kind} (hquiet : kind.isQuiet = true)
    (h : scanner.readCode kind = some next) : next.Settled := by
  cases kind with
  | opening bracket => rw [← Option.some.inj h]; rfl
  | other => rw [← Option.some.inj h]; rfl
  | closing bracket =>
      rw [readCode] at h
      split at h
      · contradiction
      · split at h
        · rw [← Option.some.inj h]; rfl
        · contradiction
  | quote _ | colon | marker | foreign => contradiction

/-- A quiet character settles a scanner wherever it stands. -/
theorem settled_of_read {scanner next : Scanner} {c : Char}
    (hquiet : (Kind.ofChar c).isQuiet = true) (h : scanner.read c = some next) : next.Settled := by
  have hquote : ∀ quote, Kind.ofChar c ≠ .quote quote := by
    intro quote hkind
    rw [hkind] at hquiet
    contradiction
  have hforeign : Kind.ofChar c ≠ .foreign := by
    intro hkind
    rw [hkind] at hquiet
    contradiction
  cases scanner with
  | mk mode brackets colon =>
      cases mode with
      | code => exact settled_of_readCode hquiet h
      | comment =>
          simp only [read, readComment, Option.some.injEq] at h
          rw [← h]
          rfl
      | opened quote | short quote | long quote ending =>
          simp only [read, readLiteral, hquote, if_false, Option.some.injEq] at h
          rw [← h]
          rfl
      | paired quote =>
          simp only [read, hquote, if_false] at h
          exact settled_of_readCode hquiet h

end Scanner

/-- Whether scanners are settled behind some characters. -/
def settles (chars : List Char) : Bool :=
  (chars.getLast?.map fun c => (Kind.ofChar c).isQuiet).getD false

/-- A scanner is settled behind a text that ends in a quiet character. -/
theorem settled_of_readAll {chars : List Char} (hsettles : settles chars = true)
    {scanner next : Scanner} (h : scanner.readAll chars = some next) : next.Settled := by
  cases hlast : chars.getLast? with
  | none => simp [settles, hlast] at hsettles
  | some c =>
      obtain ⟨front, rfl⟩ := List.getLast?_eq_some_iff.mp hlast
      have hquiet : (Kind.ofChar c).isQuiet = true := by simpa [settles] using hsettles
      rw [readAll_append] at h
      obtain ⟨middle, _, hnext⟩ := Option.bind_eq_some_iff.mp h
      simp only [Scanner.readAll, List.foldlM_cons, List.foldlM_nil, bind_pure] at hnext
      exact Scanner.settled_of_read hquiet hnext

/-! ## Sketches -/

/-- Whether a character of a kind is read in the same way behind a name and without one. -/
def Kind.isApart : Kind → Bool
  | .opening _ | .closing _ | .colon | .other => true
  | .quote _ | .marker | .foreign => false

/-- Whether the first of some characters is read in the same way behind a name and without one. -/
def startsApart (chars : List Char) : Bool :=
  (chars.head?.map fun c => (Kind.ofChar c).isApart).getD false

/-- Whether some characters are spaces only. -/
def isBlank (chars : List Char) : Bool :=
  chars.all (· == ' ')

/-- A line, and the same line without its plain names.  Lines are put together from left to right,
as their writers do it. -/
inductive LineSketch : String → String → Prop
  | text (text : String) : LineSketch text text
  | behind (front : List Char) {line : String} {sketch : List Char} (hfront : settles front = true)
      (hline : LineSketch line (.ofList sketch)) :
      LineSketch (.ofList front ++ line) (.ofList (front ++ sketch))
  | more {line : String} {sketch : List Char} (hline : LineSketch line (.ofList sketch))
      (back : List Char) : LineSketch (line ++ .ofList back) (.ofList (sketch ++ back))
  /-- A name, in code or in a literal, and something that ends it. -/
  | name {line name : String} {sketch : List Char} (hline : LineSketch line (.ofList sketch))
      (hcode : isBlank sketch = false) (h : Plain name) (back : List Char)
      (hback : startsApart back = true) :
      LineSketch (line ++ name ++ .ofList back) (.ofList (sketch ++ back))
  /-- A name that ends the line. -/
  | lastName {line name : String} {sketch : List Char} (hline : LineSketch line (.ofList sketch))
      (hcode : isBlank sketch = false) (hsettles : settles sketch = true) (h : Plain name) :
      LineSketch (line ++ name) (.ofList sketch)
  /-- A literal that holds nothing but a name, and something else than a quote. -/
  | literal {line name : String} {sketch : List Char} (hline : LineSketch line (.ofList sketch))
      (hcode : isBlank sketch = false) (hsettles : settles sketch = true) (h : Plain name)
      (back : List Char) (hback : startsApart back = true) :
      LineSketch (line ++ inQuotes name ++ .ofList back)
        (.ofList (sketch ++ (['\x22', '\x22'] ++ back)))

/-! ## Kinds of lines -/

theorem isBlank_append {first second : List Char} (h : isBlank first = false) :
    isBlank (first ++ second) = false := by
  rw [isBlank, List.all_append, ← isBlank, h, Bool.false_and]

theorem settles_append (first : List Char) {second : List Char} (h : settles second = true) :
    settles (first ++ second) = true := by
  cases hlast : second.getLast? with
  | none => simp [settles, hlast] at h
  | some c => simpa [settles, List.getLast?_append, hlast] using h

section

variable {name name' : String} (h : Plain name) (h' : Plain name') {front middle back : List Char}
  (hfront : isBlank front = false)

include h hfront

/-- A line with a name in it. -/
theorem lineSketch_name (hback : startsApart back = true) :
    LineSketch (.ofList front ++ name ++ .ofList back) (.ofList (front ++ back)) :=
  .name (.text _) hfront h back hback

/-- A line with a literal in it that holds a name. -/
theorem lineSketch_literal (hsettles : settles front = true) (hback : startsApart back = true) :
    LineSketch (.ofList front ++ inQuotes name ++ .ofList back)
      (.ofList (front ++ (['\x22', '\x22'] ++ back))) :=
  .literal (.text _) hfront hsettles h back hback

include h'

/-- A line with two names in it. -/
theorem lineSketch_names (hmiddle : startsApart middle = true) (hback : startsApart back = true) :
    LineSketch (.ofList front ++ name ++ .ofList middle ++ name' ++ .ofList back)
      (.ofList (front ++ middle ++ back)) :=
  .name (lineSketch_name h hfront hmiddle) (isBlank_append hfront) h' back hback

/-- A line with two such literals in it. -/
theorem lineSketch_literals (hsettles : settles front = true) (hmiddle : startsApart middle = true)
    (hsettles' : settles middle = true) (hback : startsApart back = true) :
    LineSketch
      (.ofList front ++ inQuotes name ++ .ofList middle ++ inQuotes name' ++ .ofList back)
      (.ofList (front ++ (['\x22', '\x22'] ++ middle) ++ (['\x22', '\x22'] ++ back))) :=
  .literal (lineSketch_literal h hfront hsettles hmiddle) (isBlank_append hfront)
    (settles_append front (settles_append ['\x22', '\x22'] hsettles')) h' back hback

end

/-! ## Reading sketches -/

/-- Characters that stand apart are read behind a name as they are without it. -/
theorem read_afterName {c : Char} (h : (Kind.ofChar c).isApart = true) (scanner : Scanner) :
    scanner.afterName.read c = scanner.read c := by
  generalize hkind : Kind.ofChar c = kind at h
  cases scanner with
  | mk mode brackets colon =>
      cases kind with
      | quote _ | marker | foreign => contradiction
      | opening _ | closing _ | colon | other =>
          cases mode <;>
            simp [Scanner.read, Scanner.afterName, Scanner.readCode, Scanner.readLiteral,
              Scanner.readComment, hkind]

/-- What starts apart is read in the same way behind a name and without one. -/
theorem readAll_afterName {chars : List Char} (h : startsApart chars = true) (scanner : Scanner) :
    scanner.afterName.readAll chars = scanner.readAll chars := by
  cases chars with
  | nil => contradiction
  | cons c rest => rw [Scanner.readAll, Scanner.readAll, List.foldlM_cons, List.foldlM_cons,
      read_afterName h]

/-- A plain name leaves nothing behind, if what follows it starts apart. -/
theorem readAll_plain_append {name : String} (h : Plain name) {rest : List Char}
    (hstart : startsApart rest = true) (scanner : Scanner) :
    scanner.readAll (name.toList ++ rest) = scanner.afterName.readAll rest := by
  cases hname : name.toList with
  | nil => exact (readAll_afterName hstart scanner).symm
  | cons c chars =>
      have hread : scanner.readAll (c :: chars) = some scanner.afterName :=
        scanner.readAll_of_plain (by rwa [← hname])
      rw [readAll_append, hread, Option.bind_some]

/-- Two quotes are read in the same way with a name between them and without, up to what a name
behind them would change. -/
theorem exists_read_quotes {scanner : Scanner} (h : scanner.Settled) :
    ∃ opened next next', scanner.read '\x22' = some opened ∧
      opened.read '\x22' = some next ∧ opened.afterName.read '\x22' = some next' ∧
      next.afterName = next'.afterName := by
  cases scanner with
  | mk mode brackets colon =>
      cases mode with
      | code => exact ⟨_, _, _, rfl, rfl, rfl, rfl⟩
      | comment => exact ⟨_, _, _, rfl, rfl, rfl, rfl⟩
      | opened quote | paired quote => simp [Scanner.Settled, Scanner.afterName] at h
      | short quote => cases quote <;> exact ⟨_, _, _, rfl, rfl, rfl, rfl⟩
      | long quote ending =>
          have hending : 0 = ending := by simpa [Scanner.Settled, Scanner.afterName] using h
          subst hending
          cases quote <;> exact ⟨_, _, _, rfl, rfl, rfl, rfl⟩

/-- A literal is read in the same way whatever name it holds, up to what a name behind it would
change. -/
theorem exists_readAll_inQuotes {scanner : Scanner} (hsettled : scanner.Settled) {name : String}
    (h : Plain name) : ∃ next next', scanner.readAll (inQuotes name).toList = some next ∧
      scanner.readAll ['\x22', '\x22'] = some next' ∧ next.afterName = next'.afterName := by
  obtain ⟨opened, next, next', hopened, hnext, hnext', hsame⟩ := exists_read_quotes hsettled
  have hquotes : scanner.readAll ['\x22', '\x22'] = some next := by
    simp [Scanner.readAll, hopened, hnext]
  have hname : (inQuotes name).toList = '\x22' :: (name.toList ++ ['\x22']) := by
    simp [inQuotes]
  have hopening : scanner.readAll (inQuotes name).toList =
      opened.readAll (name.toList ++ ['\x22']) := by
    rw [hname, Scanner.readAll, List.foldlM_cons, hopened]
    rfl
  cases hchars : name.toList with
  | nil =>
      refine ⟨next, next, ?_, hquotes, rfl⟩
      rw [hopening, hchars]
      simp [Scanner.readAll, hnext]
  | cons c chars =>
      have hread : opened.readAll (c :: chars) = some opened.afterName :=
        opened.readAll_of_plain (by rwa [← hchars])
      refine ⟨next', next, ?_, hquotes, hsame.symm⟩
      rw [hopening, hchars, readAll_append, hread]
      simp [Scanner.readAll, hnext']

/-- A settled scanner reads a line and its sketch alike. -/
theorem readAll_of_lineSketch {line sketch : String} (h : LineSketch line sketch)
    {scanner : Scanner} (hsettled : scanner.Settled) :
    scanner.readAll line.toList = scanner.readAll sketch.toList := by
  induction h generalizing scanner with
  | text text => rfl
  | behind front hfront _ ih =>
      rw [String.toList_append, String.toList_ofList, String.toList_ofList, readAll_append,
        readAll_append]
      cases hread : scanner.readAll front with
      | none => rfl
      | some next => simpa using ih (settled_of_readAll hfront hread)
  | more _ back ih =>
      simp only [String.toList_append, String.toList_ofList, readAll_append] at ih ⊢
      rw [ih hsettled]
  -- `back` is read in the same way behind the name, so the scanner need not be settled
  | name _ _ h back hback ih =>
      simp only [String.toList_append, String.toList_ofList, List.append_assoc, readAll_append]
        at ih ⊢
      rw [ih hsettled]
      congr 1
      funext next
      rw [← readAll_append, readAll_plain_append h hback, readAll_afterName hback]
  | @lastName line name sketch _ _ hsettles h ih =>
      simp only [String.toList_append, String.toList_ofList, readAll_append] at ih ⊢
      rw [ih hsettled]
      cases hread : scanner.readAll sketch with
      | none => rfl
      | some next => exact (settled_of_readAll hsettles hread).readAll_of_plain h
  -- the opening quote unsettles the scanner, so both are first read up to the closing one
  | @literal line name sketch _ _ hsettles h back hback ih =>
      simp only [String.toList_append, String.toList_ofList, List.append_assoc, readAll_append]
        at ih ⊢
      rw [ih hsettled]
      cases hread : scanner.readAll sketch with
      | none => rfl
      | some next =>
          obtain ⟨quoted, quoted', hquoted, hquoted', hsame⟩ :=
            exists_readAll_inQuotes (settled_of_readAll hsettles hread) h
          rw [Option.bind_some, Option.bind_some, hquoted, hquoted', Option.bind_some,
            Option.bind_some, ← readAll_afterName hback quoted, hsame, readAll_afterName hback]

/-- Two lines that are the same, or at least start with the same code. -/
def SameStart (first second : List Char) : Prop :=
  first = second ∨ ∃ front rest rest', isBlank front = false ∧ first = front ++ rest ∧
    second = front ++ rest'

namespace SameStart

variable {first second : List Char}

theorem append_left (h : SameStart first second) (front : List Char) :
    SameStart (front ++ first) (front ++ second) := by
  obtain rfl | ⟨code, rest, rest', hcode, rfl, rfl⟩ := h
  · exact .inl rfl
  · refine .inr ⟨front ++ code, rest, rest', ?_, by simp, by simp⟩
    rw [isBlank, List.all_append, ← isBlank, ← isBlank, hcode, Bool.and_false]

theorem append_right (h : SameStart first second) (back : List Char) :
    SameStart (first ++ back) (second ++ back) := by
  obtain rfl | ⟨code, rest, rest', hcode, rfl, rfl⟩ := h
  · exact .inl rfl
  · exact .inr ⟨code, rest ++ back, rest' ++ back, hcode, by simp, by simp⟩

/-- What follows some code may differ. -/
theorem append_of_code (h : SameStart first second) (hcode : isBlank second = false)
    (back back' : List Char) : SameStart (first ++ back) (second ++ back') := by
  obtain rfl | ⟨code, rest, rest', hcode', rfl, rfl⟩ := h
  · exact .inr ⟨first, back, back', hcode, rfl, rfl⟩
  · exact .inr ⟨code, rest ++ back, rest' ++ back', hcode', by simp, by simp⟩

end SameStart

/-- What can be seen at the start of a line does not depend on what follows some code. -/
theorem margin_append {chars : List Char} (h : isBlank chars = false) (rest : List Char) :
    isSignificant (chars ++ rest) = isSignificant chars ∧
      marginOf (chars ++ rest) = marginOf chars := by
  have hnot : ¬ ∀ c ∈ chars, (c == ' ') = true := by
    rw [← List.all_eq_true, ← isBlank, h]
    exact Bool.false_ne_true
  have hdrop : chars.dropWhile (· == ' ') ≠ [] := by rwa [ne_eq, List.dropWhile_eq_nil_iff]
  obtain ⟨c, tail, htail⟩ := List.exists_cons_of_ne_nil hdrop
  have hlength : (chars.takeWhile (· == ' ')).length ≠ chars.length := by
    have hsum := congrArg List.length
      (List.takeWhile_append_dropWhile (p := (· == ' ')) (l := chars))
    rw [List.length_append, htail, List.length_cons] at hsum
    omega
  constructor
  · rw [isSignificant, List.dropWhile_append, htail, isSignificant, htail]
    rfl
  · rw [marginOf, List.takeWhile_append, if_neg hlength, marginOf]

/-- Lines that start with the same code count alike, and start as far to the right. -/
theorem SameStart.margin {first second : List Char} (h : SameStart first second) :
    isSignificant first = isSignificant second ∧ marginOf first = marginOf second := by
  obtain rfl | ⟨code, rest, rest', hcode, rfl, rfl⟩ := h
  · exact ⟨rfl, rfl⟩
  · have hfirst := margin_append hcode rest
    have hsecond := margin_append hcode rest'
    exact ⟨hfirst.1.trans hsecond.1.symm, hfirst.2.trans hsecond.2.symm⟩

/-- Names and literals have code in front of them, so a line starts as its sketch does. -/
theorem sameStart_of_lineSketch {line sketch : String} (h : LineSketch line sketch) :
    SameStart line.toList sketch.toList := by
  induction h with
  | text text => exact .inl rfl
  | behind front _ _ ih =>
      simp only [String.toList_append, String.toList_ofList] at ih ⊢
      exact ih.append_left front
  | more _ back ih =>
      simp only [String.toList_append, String.toList_ofList] at ih ⊢
      exact ih.append_right back
  | name _ hcode _ back _ ih =>
      simp only [String.toList_append, String.toList_ofList, List.append_assoc] at ih ⊢
      exact ih.append_of_code hcode _ back
  | lastName _ hcode _ _ ih =>
      simp only [String.toList_append, String.toList_ofList] at ih ⊢
      simpa using ih.append_of_code hcode _ []
  | literal _ hcode _ _ back _ ih =>
      simp only [String.toList_append, String.toList_ofList, List.append_assoc] at ih ⊢
      exact ih.append_of_code hcode _ _

/-- A line holds a line feed only if its sketch does. -/
theorem newline_mem_of_lineSketch {line sketch : String} (h : LineSketch line sketch)
    (hmem : '\n' ∈ line.toList) : '\n' ∈ sketch.toList := by
  have hplain : ∀ {name : String}, Plain name → '\n' ∉ name.toList :=
    fun hname hmem => absurd (hname _ hmem) (by decide)
  induction h with
  | text text => exact hmem
  | behind front _ _ ih =>
      simp only [String.toList_append, String.toList_ofList, List.mem_append] at hmem ih ⊢
      exact hmem.imp_right ih
  | more _ back ih =>
      simp only [String.toList_append, String.toList_ofList, List.mem_append] at hmem ih ⊢
      exact hmem.imp_left ih
  | name _ _ h back _ ih =>
      simp only [String.toList_append, String.toList_ofList, List.mem_append, hplain h, or_false]
        at hmem ih ⊢
      exact hmem.imp_left ih
  | lastName _ _ _ h ih =>
      simp only [String.toList_append, List.mem_append, hplain h, or_false] at hmem
      exact ih hmem
  | @literal line name sketch _ _ _ h back _ ih =>
      have hquote : '\n' ∉ (inQuotes name).toList := by simp [inQuotes, hplain h]
      simp only [String.toList_append, String.toList_ofList, List.mem_append, hquote, or_false]
        at hmem ih ⊢
      exact hmem.imp ih .inr

theorem settled_resume (pause : Pause) : pause.resume.Settled := by
  cases pause with
  | mk literal brackets => cases literal <;> rfl

section

variable {line : String} {sketch : List Char} (h : LineSketch line (.ofList sketch))

include h

/-- A line and its sketch are indented alike. -/
theorem margin_of_lineSketch :
    isSignificant line.toList = isSignificant sketch ∧ marginOf line.toList = marginOf sketch := by
  simpa using (sameStart_of_lineSketch h).margin

/-- **A line is read as its sketch is.** -/
theorem readLine_of_lineSketch (pause : Pause) :
    pause.readLine line.toList = pause.readLine sketch := by
  have hread := readAll_of_lineSketch h (settled_resume pause)
  rw [String.toList_ofList] at hread
  rw [Pause.readLine, hread, Pause.readLine]

end

/-- Lines, and their characters without the plain names. -/
abbrev LinesSketch : List String → List (List Char) → Prop :=
  List.Forall₂ fun line chars => LineSketch line (.ofList chars)

/-- What is read of code does not depend on its plain names. -/
theorem logicalLines?_of_sketch {lines : List String} {sketch : List (List Char)}
    (h : LinesSketch lines sketch) : logicalLines? lines = readSignificant sketch := by
  have hkept : ∀ pause start,
      readLines pause start ((lines.map String.toList).filter isSignificant) =
        readLines pause start (sketch.filter isSignificant) := by
    induction h with
    | nil => exact fun _ _ => rfl
    | @cons line chars lines sketch hline _ ih =>
        have hmargin := margin_of_lineSketch hline
        intro pause start
        rw [List.map_cons, List.filter_cons, List.filter_cons, hmargin.1]
        split
        · simp only [readLines, readLine_of_lineSketch hline, hmargin.2, ih]
        · exact ih pause start
  exact hkept {} 0

/-! ## Code without line feeds -/

/-- Whether some characters are free of line feeds, by their code points. -/
def isSingle (chars : List Char) : Bool :=
  chars.all fun c => c.toNat != 0x0a

theorem newline_not_mem_of_isSingle {chars : List Char} (h : isSingle chars = true) :
    '\n' ∉ chars :=
  fun hmem => absurd (List.all_eq_true.mp h _ hmem) (by decide)

/-- Lines that hold no line feeds and read as the given logical lines. -/
structure Reads (lines : List String) (read : List LogicalLine) : Prop where
  single : ∀ line ∈ lines, '\n' ∉ line.toList
  logical : logicalLines? lines = some read

/-- Lines are read as their sketches are, which can be computed. -/
theorem reads_of_sketch {lines : List String} {sketch : List (List Char)}
    {read : List LogicalLine} (h : LinesSketch lines sketch) (hsingle : sketch.all isSingle = true)
    (hread : readSignificant sketch = some read) : Reads lines read := by
  refine ⟨?_, by rw [logicalLines?_of_sketch h, hread]⟩
  clear hread
  induction h with
  | nil => simp
  | cons hline _ ih =>
      rw [List.all_cons, Bool.and_eq_true] at hsingle
      have hnot := newline_not_mem_of_isSingle hsingle.1
      exact List.forall_mem_cons.mpr
        ⟨fun hmem => hnot (by simpa using newline_mem_of_lineSketch hline hmem), ih hsingle.2⟩

end StubGen.Layout
