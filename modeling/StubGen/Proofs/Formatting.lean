import StubGen.Proofs.OutputDirectory
import StubGen.Proofs.RepeatedRun
import StubGen.Proofs.Utf8

/-!
# StubGen.Proofs.Formatting

What becomes of a text that is formatted, whatever the formatter does to the temporary file.

1. A formatter that keeps to its file may rewrite it, take it away, end badly, or not start at all,
   for whatever reason the operating system has (`Site.FormatterKeepsToFile`).
2. There is a formatted text exactly if the file was written, both commands have started, the second
   one has ended well and the file is still there (`Format.Formats`).  An attempt finds it if there
   is one, and does not fail (`Format.exists_attempt`).
3. Nothing but the temporary file was touched, so all is as it was when that is gone
   (`Format.get?_withoutTemporaryFile`).
-/

namespace StubGen

open StubGen.Path (place)
open FileTree StubGen.Action

/-! ## Formatters -/

/-- The place of the temporary file. -/
def Site.temporaryPlace (here : Site) : Place :=
  place here.workingDirectory here.temporaryFile

/-- There is nothing at the place of the temporary file, or else a text. -/
def Site.HoldsText (here : Site) (tree : FileTree) : Prop :=
  ∀ entry, tree.get? here.temporaryPlace = some entry →
    ∃ content, entry = .file (Text.encodeUtf8 content)

/-- The commands that formatting starts. -/
def Site.formatCommands (here : Site) : List (List String) :=
  [Format.sortCommand here.temporaryFile, Format.formatCommand here.temporaryFile]

/-- A formatter that works on the temporary file alone.  If one of its commands cannot be started,
it is the operating system that refuses; otherwise it leaves a text, or takes the file away. -/
structure Site.FormatterKeepsToFile (here : Site) : Prop where
  start : ∀ command ∈ here.formatCommands, ∀ tree problem,
    here.programs command tree = .error problem → problem.isSystem = true
  others : ∀ command ∈ here.formatCommands, ∀ tree finished after,
    here.programs command tree = .ok (finished, after) →
      tree.SameOutside (· = here.temporaryPlace) after
  text : ∀ command ∈ here.formatCommands, ∀ tree finished after,
    here.programs command tree = .ok (finished, after) →
      here.HoldsText tree → here.HoldsText after

namespace Format

/-- Both commands start on a file system, the second one ends well, and then the temporary file is
there and holds some content. -/
inductive FormatsFile (here : Site) (tree : FileTree) (content : String) : Prop
  | intro {sorted formatted : FileTree} {first second : Finished} :
    here.programs (sortCommand here.temporaryFile) tree = .ok (first, sorted) →
    here.programs (formatCommand here.temporaryFile) sorted = .ok (second, formatted) →
    second.status = 0 →
    formatted.get? here.temporaryPlace = some (.file (Text.encodeUtf8 content)) →
    FormatsFile here tree content

/-- Some content is what becomes of a text that was put into the temporary file. -/
def Formats (here : Site) (tree : FileTree) (text content : String) : Prop :=
  ∃ written,
    tree.write here.workingDirectory here.temporaryFile (Text.encodeUtf8 text) = .ok written ∧
      FormatsFile here written content

/-- What an attempt is to end with: the content that there is, or else one of the two outcomes that
leave the text alone. -/
def Outcome.Fits (formats : String → Prop) : Outcome → Prop
  | .formatted result => ∃ content, formats content ∧ result = Text.unifyNewlines content
  | .rejected _ | .unavailable _ => ∀ content, ¬ formats content
  | .broken _ => False

/-! ## Attempts -/

variable {here : Site}

/-- Where the operating system refuses something, the text is left alone. -/
theorem exists_ofLaunchError {problem : LaunchError} (h : problem.isSystem = true) :
    ∃ reason, Outcome.ofLaunchError problem = .unavailable reason :=
  ⟨_, if_pos h⟩

/-- A change to the temporary file, once that was written, takes no directory away. -/
theorem keepsDirectories_of_write {tree written formatted : FileTree} {data : Bytes}
    (hwrite : tree.write here.workingDirectory here.temporaryFile data = .ok written)
    (hsame : written.SameOutside (· = here.temporaryPlace) formatted) :
    KeepsDirectories tree formatted := by
  intro spot hspot
  have hne : spot ≠ here.temporaryPlace := by
    rintro rfl
    exact (write_eq_ok_iff.mp hwrite).1.2 hspot
  rw [hsame spot hne, sameOutside_of_write hwrite spot hne, hspot]

/-- What stands at the place of the temporary file is read back. -/
theorem exists_readBack {tree written formatted : FileTree} {data : Bytes}
    (hwrite : tree.write here.workingDirectory here.temporaryFile data = .ok written)
    (hsame : written.SameOutside (· = here.temporaryPlace) formatted)
    (htext : here.HoldsText formatted) :
    ∃ outcome, (∀ world, world.tree = formatted →
        readBack here.temporaryFile here world = (.ok outcome, world)) ∧
      outcome.Fits fun content =>
        formatted.get? here.temporaryPlace = some (.file (Text.encodeUtf8 content)) := by
  have hwritable := (write_eq_ok_iff.mp hwrite).1
  have hkeeps := keepsDirectories_of_write hwrite hsame
  cases hread : formatted.read here.workingDirectory here.temporaryFile with
  | error problem =>
      have hsystem := isSystem_of_read here.hasNull_temporaryFile hread
      obtain ⟨reason, hreason⟩ := @exists_ofLaunchError (.path problem) hsystem
      refine ⟨.unavailable reason, ?_, fun content hcontent => ?_⟩
      · rintro world rfl
        simp only [readBack, site_bind, tree_bind, hread, pure_apply, hreason]
      · have hlookup := hwritable.lookup_of_keepsDirectories hkeeps hcontent
        rw [read_eq_ok_iff.mpr ⟨_, hlookup⟩] at hread
        cases hread
  | ok found =>
      obtain ⟨spot, hlookup⟩ := read_eq_ok_iff.mp hread
      have hget := (get?_place_of_lookup hlookup).2
      obtain ⟨content, hcontent⟩ := htext _ hget
      obtain rfl := Entry.file.inj hcontent
      refine ⟨.formatted (Text.unifyNewlines content), ?_, content, hget, rfl⟩
      rintro world rfl
      simp only [readBack, site_bind, tree_bind, hread, Text.decodeUtf8_encodeUtf8, pure_apply]

/-- Once the code is written, the temporary file holds a text. -/
theorem holdsText_of_write {tree written : FileTree} {text : String}
    (h : tree.write here.workingDirectory here.temporaryFile (Text.encodeUtf8 text) = .ok written) :
    here.HoldsText written := by
  obtain ⟨hwritable, rfl⟩ := write_eq_ok_iff.mp h
  intro entry hentry
  rw [Site.temporaryPlace, get?_put hwritable.place_ne_nil, if_pos rfl] at hentry
  exact ⟨text, (Option.some.inj hentry).symm⟩

/-- If both commands could be started, the file was formatted if the second ended well and has left
a text. -/
theorem FormatsFile.iff_of_ok {tree sorted formatted : FileTree} {first second : Finished}
    (hsort : here.programs (sortCommand here.temporaryFile) tree = .ok (first, sorted))
    (hformat : here.programs (formatCommand here.temporaryFile) sorted = .ok (second, formatted))
    (content : String) :
    FormatsFile here tree content ↔ second.status = 0 ∧
      formatted.get? here.temporaryPlace = some (.file (Text.encodeUtf8 content)) := by
  constructor
  · rintro ⟨hsorted, hformatted, hstatus, hcontent⟩
    rw [hsort] at hsorted
    cases hsorted
    rw [hformat] at hformatted
    cases hformatted
    exact ⟨hstatus, hcontent⟩
  · rintro ⟨hstatus, hcontent⟩
    exact ⟨hsort, hformat, hstatus, hcontent⟩

/-- Each way for the commands to go, with what comes of it. -/
theorem exists_formatFile (hprograms : here.FormatterKeepsToFile) {tree written : FileTree}
    {text : String}
    (hwrite : tree.write here.workingDirectory here.temporaryFile (Text.encodeUtf8 text) =
      .ok written) (world : World) (hworld : world.tree = written) :
    ∃ outcome after, formatFile here.temporaryFile here world = (.ok outcome, after) ∧
      outcome.Fits (FormatsFile here written) ∧
      written.SameOutside (· = here.temporaryPlace) after.tree := by
  subst hworld
  have hsortCommand : sortCommand here.temporaryFile ∈ here.formatCommands := by
    simp [Site.formatCommands]
  have hformatCommand : formatCommand here.temporaryFile ∈ here.formatCommands := by
    simp [Site.formatCommands]
  rw [formatFile]
  cases hsort : here.programs (sortCommand here.temporaryFile) world.tree with
  | error problem =>
      obtain ⟨reason, hreason⟩ := exists_ofLaunchError (hprograms.start _ hsortCommand _ _ hsort)
      rw [bind_of_ok (start_of_error hsort)]
      simp only [hreason]
      refine ⟨.unavailable reason, _, rfl, ?_, refl_of _ _⟩
      rintro content ⟨hsorted, -⟩
      rw [hsort] at hsorted
      cases hsorted
  | ok ended =>
      obtain ⟨first, sorted⟩ := ended
      have hsorted := hprograms.others _ hsortCommand _ _ _ hsort
      have hsortedText := hprograms.text _ hsortCommand _ _ _ hsort (holdsText_of_write hwrite)
      rw [bind_of_ok (start_of_ok hsort)]
      simp only
      cases hformat : here.programs (formatCommand here.temporaryFile) sorted with
      | error problem =>
          obtain ⟨reason, hreason⟩ :=
            exists_ofLaunchError (hprograms.start _ hformatCommand _ _ hformat)
          rw [bind_of_ok (start_of_error hformat)]
          simp only [hreason]
          refine ⟨.unavailable reason, _, rfl, ?_, hsorted⟩
          rintro content ⟨hsort', hformatted, -⟩
          rw [hsort] at hsort'
          cases hsort'
          rw [hformat] at hformatted
          cases hformatted
      | ok ended =>
          obtain ⟨second, formatted⟩ := ended
          have hformatted := hprograms.others _ hformatCommand _ _ _ hformat
          have hformattedText := hprograms.text _ hformatCommand _ _ _ hformat hsortedText
          have hsame := trans_of (SameOutside _) hsorted hformatted
          have hformats := funext fun content =>
            propext (FormatsFile.iff_of_ok hsort hformat content)
          rw [bind_of_ok (start_of_ok hformat), hformats]
          simp only
          split
          next hstatus => exact ⟨.rejected second, _, rfl, fun _ h => hstatus h.1, hsame⟩
          next hstatus =>
            obtain ⟨outcome, hread, hfits⟩ := exists_readBack hwrite hsame hformattedText
            refine ⟨outcome, _, hread _ rfl, ?_, hsame⟩
            simpa [not_not.mp hstatus] using hfits

/-- **An attempt always comes to an end**, and touches no other file. -/
theorem exists_attempt (hprograms : here.FormatterKeepsToFile) (text : String) (world : World) :
    ∃ outcome after, attempt text here world = (.ok outcome, after) ∧
      outcome.Fits (Formats here world.tree text) ∧
      world.tree.SameOutside (· = here.temporaryPlace) after.tree := by
  rw [attempt, site_bind, tree_bind]
  cases hwrite : world.tree.write here.workingDirectory here.temporaryFile
      (Text.encodeUtf8 text) with
  | error problem =>
      have hsystem := isSystem_of_write here.hasNull_temporaryFile hwrite
      obtain ⟨reason, hreason⟩ := @exists_ofLaunchError (.path problem) hsystem
      simp only [hreason]
      refine ⟨.unavailable reason, world, rfl, ?_, refl_of _ _⟩
      rintro content ⟨written, hwritten, -⟩
      rw [hwrite] at hwritten
      cases hwritten
  | ok written =>
      have hformats : Formats here world.tree text = FormatsFile here written := by
        funext content
        simp [Formats, hwrite]
      have hset : setTree written here world = (.ok (), { world with tree := written }) := rfl
      obtain ⟨outcome, after, hresult, hfits, hsame⟩ :=
        exists_formatFile hprograms hwrite { world with tree := written } rfl
      simp only [bind_of_ok hset]
      rw [hformats]
      exact ⟨outcome, after, hresult, hfits,
        trans_of (SameOutside _) (sameOutside_of_write hwrite) hsame⟩

/-! ## The result -/

/-- Without the temporary file, all is as it was. -/
theorem get?_withoutTemporaryFile {before after : FileTree}
    (hfree : before.get? here.temporaryPlace = none)
    (hsame : before.SameOutside (· = here.temporaryPlace) after) (spot : Place) :
    (withoutTemporaryFile here after).get? spot = before.get? spot := by
  by_cases hnil : spot = []
  · rw [hnil, get?_top, get?_top]
  · rw [withoutTemporaryFile, get?_erase hnil, ← Site.temporaryPlace]
    split
    next hspot => rw [hspot, hfree]
    next hspot => exact hsame spot hspot

/-- **Formatting falls back to the text as it was, and leaves no trace.**  It does not fail: the
result is what the formatter has left in the temporary file, with line ends made the same, or the
text itself if there is no such thing.  The file system is as before. -/
theorem formatting_falls_back {here : Site} {world : World}
    (hfree : world.tree.get? here.temporaryPlace = none) (hprograms : here.FormatterKeepsToFile)
    (text : String) :
    ∃ result after, format text here world = (.ok result, after) ∧
      ((∃ content, Formats here world.tree text content ∧ result = Text.unifyNewlines content) ∨
        (∀ content, ¬ Formats here world.tree text content) ∧ result = text) ∧
      ∀ spot, after.tree.get? spot = world.tree.get? spot := by
  obtain ⟨outcome, between, hattempt, hfits, hsame⟩ := exists_attempt hprograms text world
  have hclean := get?_withoutTemporaryFile hfree hsame
  have halways : (attempt text).thenAlways withoutTemporaryFile here world =
      (.ok outcome, { between with tree := withoutTemporaryFile here between.tree }) := by
    rw [thenAlways, hattempt]
  rw [format, site_bind, bind_of_ok halways]
  cases outcome with
  | formatted result => exact ⟨result, _, rfl, .inl hfits, hclean⟩
  | rejected finished => exact ⟨text, _, rfl, .inr ⟨hfits, rfl⟩, hclean⟩
  | unavailable reason => exact ⟨text, _, rfl, .inr ⟨hfits, rfl⟩, hclean⟩
  | broken failure => exact hfits.elim

/-- A formatter that rewrites the temporary file when it sorts the imports, which it reports as a
failure, and rewrites it again when it formats. -/
def rewritingSite (status : Int) : Site where
  workingDirectory := "/work"
  temporaryFile := "/tmp/code.py"
  temporaryDirectory := "/tmp/schemas"
  programs command tree :=
    if command = sortCommand "/tmp/code.py" then
      .ok ({ status := 1 }, tree.put ["tmp", "code.py"] (.file (Text.encodeUtf8 "a =1\r\n")))
    else
      .ok ({ status := status },
        tree.put ["tmp", "code.py"] (.file (Text.encodeUtf8 "a = 1\r\n\rb = 2\r\n")))

def rewritingWorld : World where
  tree := ⟨[(["tmp"], .directory), (["work"], .directory)]⟩

theorem temporaryPlace_rewritingSite (status : Int) :
    (rewritingSite status).temporaryPlace = ["tmp", "code.py"] := by
  have hplace : place "/work" "/tmp/code.py" = ["tmp", "code.py"] := by decide +kernel
  exact hplace

theorem rewritingSite_keepsToFile (status : Int) : (rewritingSite status).FormatterKeepsToFile := by
  have hprograms : ∀ command tree, ∃ finished text,
      (rewritingSite status).programs command tree =
        .ok (finished, tree.put ["tmp", "code.py"] (.file (Text.encodeUtf8 text))) := by
    intro command tree
    simp only [rewritingSite]
    split <;> exact ⟨_, _, rfl⟩
  constructor
  · intro command _ tree problem hplay
    obtain ⟨_, _, hput⟩ := hprograms command tree
    rw [hput] at hplay
    cases hplay
  · intro command _ tree finished after hplay
    obtain ⟨_, _, hput⟩ := hprograms command tree
    rw [hput] at hplay
    cases hplay
    rw [temporaryPlace_rewritingSite]
    exact sameOutside_put tree _ _
  · intro command _ tree finished after hplay _ entry hentry
    obtain ⟨_, text, hput⟩ := hprograms command tree
    rw [hput] at hplay
    cases hplay
    rw [temporaryPlace_rewritingSite, get?_put (by simp), if_pos rfl] at hentry
    exact ⟨text, (Option.some.inj hentry).symm⟩

theorem formatting_falls_back_rewriting :
    (∃ after, format "a=1;b=2" (rewritingSite 0) rewritingWorld = (.ok "a = 1\n\nb = 2\n", after) ∧
      ∀ spot, after.tree.get? spot = rewritingWorld.tree.get? spot) ∧
    (∃ after, format "a=1;b=2" (rewritingSite 2) rewritingWorld = (.ok "a=1;b=2", after) ∧
      ∀ spot, after.tree.get? spot = rewritingWorld.tree.get? spot) := by
  have hends (status : Int) (ended : String)
      (h : (format "a=1;b=2" (rewritingSite status) rewritingWorld).1 = .ok ended) :
      ∃ after, format "a=1;b=2" (rewritingSite status) rewritingWorld = (.ok ended, after) ∧
        ∀ spot, after.tree.get? spot = rewritingWorld.tree.get? spot := by
    have hfree : rewritingWorld.tree.get? (rewritingSite status).temporaryPlace = none := by
      rw [temporaryPlace_rewritingSite]
      decide +kernel
    obtain ⟨result, after, hformat, -, hsame⟩ :=
      formatting_falls_back hfree (rewritingSite_keepsToFile status) "a=1;b=2"
    rw [hformat] at h
    exact ⟨after, hformat.trans (Prod.ext h rfl), hsame⟩
  exact ⟨hends 0 _ (by decide +kernel), hends 2 _ (by decide +kernel)⟩

end Format

end StubGen
