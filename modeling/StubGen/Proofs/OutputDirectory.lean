import StubGen.Proofs.FailedRun
import StubGen.Proofs.FrontEnds

/-!
# StubGen.Proofs.OutputDirectory

Where a run puts files.  A module is written at the path that the name of its schema makes below the
output directory, and the name is taken as it is: it may lead up, or from the top.

1. From any place, the steps of a path lead so many steps up and then down (`Path.Route`), whatever
   the place is.  A relative name therefore leads below a place exactly if it comes down by the same
   names that it went up (`Path.LeadsBelow`).
2. All files that a run creates or changes are modules: temporary files are gone in the end, and the
   programs that were started do not write elsewhere (`Site.ProgramsKeepToFiles`).
-/

namespace StubGen

open StubGen.Path (steps join place after)

/-! ## Up and down -/

namespace Path

/-- Steps up from some place, and then down. -/
structure Route where
  up : Nat := 0
  down : Place := []
deriving DecidableEq, Repr

namespace Route

/-- A route with one more step. -/
def next (route : Route) (step : String) : Route :=
  if step = "" || step = "." then route
  else if step = ".." then
    if route.down.isEmpty then { route with up := route.up + 1 }
    else { route with down := route.down.dropLast }
  else { route with down := route.down ++ [step] }

/-- The route that steps take. -/
def ofSteps (steps : List String) : Route :=
  steps.foldl next {}

/-- Where a route leads to. -/
def target (route : Route) (start : Place) : Place :=
  start.take (start.length - route.up) ++ route.down

/-- A step behind a route makes a longer route. -/
theorem after_target (route : Route) (start : Place) (step : String) :
    after (route.target start) [step] = (route.next step).target start := by
  unfold next
  split
  · next hstay => rw [after_stay (by simpa using hstay)]
  · next hstay =>
      obtain ⟨hempty, hpoint⟩ : step ≠ "" ∧ step ≠ "." := by simpa using hstay
      split
      · next hup =>
          rw [hup, after_up]
          split
          · next hdown =>
              have hlength : min (min (start.length - route.up) start.length - 1)
                  (start.length - route.up) = start.length - (route.up + 1) := by omega
              simp only [target, List.isEmpty_iff.mp hdown, List.append_nil,
                List.dropLast_eq_take, List.take_take, List.length_take, hlength]
          · next hdown =>
              rw [target, target, List.dropLast_append_of_ne_nil (by simpa using hdown)]
      · next hup => rw [after_name hempty hpoint hup, target, target, List.append_assoc]

/-- Steps lead where their route leads, from any place. -/
theorem after_eq_target (start : Place) (steps : List String) :
    after start steps = (ofSteps steps).target start := by
  have hrun (route : Route) :
      after (route.target start) steps = (steps.foldl next route).target start := by
    induction steps generalizing route with
    | nil => exact after_nil _
    | cons step rest ih => rw [after_cons, after_target, ih, List.foldl_cons]
  have hstart : target {} start = start := by simp [target]
  rw [ofSteps, ← hrun, hstart]

/-- A route leads to a place or below it if it comes down by the names that it went up. -/
theorem prefix_target_iff (route : Route) (start : Place) :
    start <+: route.target start ↔ start.drop (start.length - route.up) <+: route.down := by
  have hsplit := List.take_append_drop (start.length - route.up) start
  rw [target]
  nth_rewrite 1 [← hsplit]
  exact List.prefix_append_right_inj _

/-- Without steps up, a route only leads down. -/
theorem up_ofSteps {steps : List String} (h : ".." ∉ steps) : (ofSteps steps).up = 0 := by
  have hrun (route : Route) (hroute : route.up = 0) : (steps.foldl next route).up = 0 := by
    induction steps generalizing route with
    | nil => exact hroute
    | cons step rest ih =>
        obtain ⟨hstep, hrest⟩ : ".." ≠ step ∧ ".." ∉ rest := by simpa using h
        refine ih hrest _ ?_
        unfold next
        split
        · exact hroute
        · rw [if_neg hstep.symm]
          exact hroute
  exact hrun {} rfl

end Route

/-- A place below another one. -/
def Below (base spot : Place) : Prop :=
  base <+: spot ∧ base ≠ spot

/-- Something in a directory lies below a place if the directory is that place or lies below it. -/
theorem below_append_name (base front : Place) (name : String) :
    Below base (front ++ [name]) ↔ base <+: front := by
  rw [Below, List.prefix_concat_iff]
  constructor
  · rintro ⟨heq | hprefix, hne⟩
    · exact absurd heq hne
    · exact hprefix
  · intro hprefix
    refine ⟨.inr hprefix, ?_⟩
    rintro rfl
    have hlength := hprefix.length_le
    rw [List.length_append, List.length_singleton] at hlength
    omega

/-- A name whose directories lead to a place or below it: from the top, or from that place. -/
def LeadsBelow (base : Place) (name : String) : Prop :=
  let route := Route.ofSteps (steps name).dropLast
  if isAbsolute name then base <+: route.down
  else base.drop (base.length - route.up) <+: route.down

instance (base spot : Place) : Decidable (Below base spot) :=
  inferInstanceAs (Decidable (_ ∧ _))

instance (base : Place) (name : String) : Decidable (LeadsBelow base name) :=
  decidable_of_iff _ (iff_of_eq (LeadsBelow.eq_1 base name)).symm

/-- Relative names without steps up always lead below. -/
theorem leadsBelow_of_not_mem {name : String} (habsolute : isAbsolute name = false)
    (hup : ".." ∉ steps name) (base : Place) : LeadsBelow base name := by
  have hdirectories : ".." ∉ (steps name).dropLast := fun hmem =>
    hup (List.dropLast_subset _ hmem)
  rw [LeadsBelow, if_neg (by simp [habsolute]), Route.up_ofSteps hdirectories]
  simp

/-! ## The paths of modules -/

/-- An ending without slashes is part of the last step. -/
theorem steps_append_of_not_mem (path : String) {ending : String} (h : '/' ∉ ending.toList) :
    ∃ last, steps (path ++ ending) = (steps path).dropLast ++ [last ++ ending] := by
  obtain ⟨last, hlast, rfl | ⟨front, rfl⟩⟩ := exists_last_step path
  · refine ⟨path, ?_⟩
    rw [steps_of_not_mem hlast, steps_of_not_mem (by simp [hlast, h])]
    rfl
  · have hending : steps (last ++ ending) = [last ++ ending] :=
      steps_of_not_mem (by simp [hlast, h])
    refine ⟨last, ?_⟩
    rw [String.append_assoc, steps_append_slash, steps_append_slash, steps_of_not_mem hlast,
      hending, List.dropLast_concat]

theorem isAbsolute_append_of_not_mem (path : String) {ending : String} (h : '/' ∉ ending.toList) :
    isAbsolute (path ++ ending) = isAbsolute path := by
  by_cases hpath : path = ""
  · subst hpath
    rw [String.empty_append]
    cases hending : ending.toList with
    | nil => simp [isAbsolute, hending]
    | cons c rest =>
        have hc : '/' ≠ c := by
          rintro rfl
          exact h (by simp [hending])
        simp [isAbsolute, hending, List.isPrefixOf, hc]
  · exact isAbsolute_append hpath ending

end Path

namespace FileName

/-- The suffix that a stem is without holds no slash. -/
theorem exists_append_stem (name : String) :
    ∃ ending, '/' ∉ ending.toList ∧ name = stem name ++ ending := by
  unfold stem
  split
  · next suffix hsuffix =>
      have hends : suffix.toList <:+ name.toList := by simpa using List.find?_some hsuffix
      have hslash : '/' ∉ suffix.toList := by
        have hmem := List.mem_of_find?_eq_some hsuffix
        simp only [schemaSuffixes, List.mem_cons, List.not_mem_nil, or_false] at hmem
        rcases hmem with rfl | rfl <;> decide
      obtain ⟨front, hfront⟩ := hends
      refine ⟨suffix, hslash, String.ext ?_⟩
      simp [dropEnding, ← hfront]
  · exact ⟨"", by simp, by simp⟩

/-- The stub file of a schema lies in the directory that the name of the schema gives. -/
theorem steps_stubFile (name : String) :
    ∃ last, steps (stubFile name) = (steps name).dropLast ++ [last ++ "_pb2_rsocket.py"] := by
  obtain ⟨ending, hending, hname⟩ := exists_append_stem name
  obtain ⟨_, hsteps⟩ := Path.steps_append_of_not_mem (stem name) hending
  obtain ⟨last, hlast⟩ := Path.steps_append_of_not_mem (stem name)
    (show '/' ∉ "_pb2_rsocket.py".toList by decide)
  refine ⟨last, ?_⟩
  rw [← hname] at hsteps
  rw [stubFile, hlast, hsteps, List.dropLast_concat]

/-- The name of a stub file leads down, whatever it starts with. -/
theorem leadsDown_append (front : String) : Path.LeadsDown (front ++ "_pb2_rsocket.py") := by
  have hlength (short : String) (hshort : short.length < 15) :
      front ++ "_pb2_rsocket.py" ≠ short := by
    have hsuffix : "_pb2_rsocket.py".length = 15 := by decide
    rintro rfl
    rw [String.length_append, hsuffix] at hshort
    omega
  exact ⟨hlength "" (by decide), hlength "." (by decide), hlength ".." (by decide)⟩

/-- A stub file leads from the top if its schema file does. -/
theorem isAbsolute_stubFile (name : String) :
    Path.isAbsolute (stubFile name) = Path.isAbsolute name := by
  obtain ⟨ending, hending, hname⟩ := exists_append_stem name
  nth_rewrite 2 [hname]
  rw [stubFile, Path.isAbsolute_append_of_not_mem _ hending,
    Path.isAbsolute_append_of_not_mem _ (by decide)]

end FileName

/-- A stub file lies below a directory exactly if the name of its schema leads there. -/
theorem Path.below_place_stubFile_iff (workingDirectory base name : String) :
    Below (place workingDirectory base)
        (place workingDirectory (join base (FileName.stubFile name))) ↔
      LeadsBelow (place workingDirectory base) name := by
  obtain ⟨last, hsteps⟩ := FileName.steps_stubFile name
  have hname (start : Place) : after start [last ++ "_pb2_rsocket.py"] =
      start ++ [last ++ "_pb2_rsocket.py"] :=
    after_of_leadsDown (by simpa using FileName.leadsDown_append last) start
  cases habsolute : isAbsolute name with
  | true =>
      have hstub := (FileName.isAbsolute_stubFile name).trans habsolute
      rw [join_of_isAbsolute hstub, place_eq_after _ (FileName.stubFile name),
        join_of_isAbsolute hstub, hsteps, after_append, hname, below_append_name,
        Route.after_eq_target, LeadsBelow, if_pos habsolute]
      simp [Route.target]
  | false =>
      have hstub := (FileName.isAbsolute_stubFile name).trans habsolute
      rw [place_join hstub, hsteps, after_append, hname, below_append_name, Route.after_eq_target,
        Route.prefix_target_iff, LeadsBelow, if_neg (by simp [habsolute])]

/-! ## Files that a run writes -/

namespace FileTree

/-- Files that are taken away again are no new files. -/
theorem FilesFrom.of_get?_eq_ite {gone allowed : Place → Prop} [DecidablePred gone]
    {before after rest : FileTree} (h : FilesFrom gone before after)
    (hrest : ∀ spot ≠ [], rest.get? spot = if gone spot then none else after.get? spot) :
    FilesFrom allowed before rest := by
  intro spot data hfile
  have hnil : spot ≠ [] := by
    rintro rfl
    cases hfile
  rw [hrest spot hnil] at hfile
  split at hfile
  · cases hfile
  · next hspot => exact .inl ((h spot data hfile).resolve_right hspot)

/-- A file that is erased is no new file. -/
theorem FilesFrom.erase {allowed : Place → Prop} {gone : Place} {before after : FileTree}
    (h : FilesFrom (· = gone) before after) : FilesFrom allowed before (after.erase gone) :=
  h.of_get?_eq_ite fun _ hspot => get?_erase hspot

/-- Files in a directory that is erased with all that is in it are no new files. -/
theorem FilesFrom.eraseAll {allowed : Place → Prop} {gone : Place} {before after : FileTree}
    (h : FilesFrom (gone <+: ·) before after) : FilesFrom allowed before (after.eraseAll gone) :=
  h.of_get?_eq_ite fun _ hspot => get?_eraseAll hspot

/-- Removing makes no files. -/
theorem Removes.filesFrom {gone allowed : Place → Prop} {before after : FileTree}
    (h : Removes gone before after) : FilesFrom allowed before after := by
  intro spot data hfile
  by_cases hspot : gone spot
  · rw [h.removed spot hspot] at hfile
    cases hfile
  · rw [h.others spot hspot] at hfile
    exact .inl hfile

end FileTree

/-- The programs that a run starts write nothing but the file that each of them is given. -/
structure Site.ProgramsKeepToFiles (here : Site) : Prop where
  compiler : here.CompilerKeepsToOutput
  formatter : ∀ command ∈ [Format.sortCommand here.temporaryFile,
      Format.formatCommand here.temporaryFile],
    ∀ tree finished after, here.programs command tree = .ok (finished, after) →
      tree.SameOutside (· = place here.workingDirectory here.temporaryFile) after
  checker : ∀ paths tree finished after,
    here.programs (Validate.checkCommand paths) tree = .ok (finished, after) →
      tree.SameOutside (fun _ => False) after

open FileTree StubGen.Action

variable {allowed : Place → Prop} {here : Site}

/-- Making directories makes no files. -/
theorem Action.filesFrom_makeDirectories (path : String) :
    Respects (FilesFrom allowed) here (makeDirectories path) := by
  intro world
  rw [makeDirectories_tree]
  exact (addsDirectories_ensureDirectories world.tree here.workingDirectory path).filesFrom

/-- Writing makes a file at the place of its path. -/
theorem Action.filesFrom_writeFile {path : String}
    (h : allowed (place here.workingDirectory path)) (data : Bytes) :
    Respects (FilesFrom allowed) here (writeFile path data) :=
  respects_writeFile fun _ _ hwrite => (sameOutside_of_write hwrite).filesFrom.mono
    fun _ hspot => hspot ▸ h

/-- It is enough to look at the file system after the change. -/
theorem Action.respects_thenAlways {related : FileTree → FileTree → Prop} {action : Action α}
    {change : Site → FileTree → FileTree}
    (h : ∀ world, related world.tree (change here (action here world).2.tree)) :
    Respects related here (action.thenAlways change) := h

/-- Cleaning up makes no files. -/
theorem Run.filesFrom_clean (settings : Settings) :
    Respects (FilesFrom allowed) here (clean settings) := by
  have hremove (paths : List String) : Respects (FilesFrom allowed) here (removeAll paths) := by
    induction paths with
    | nil => exact respects_pure ()
    | cons path rest ih =>
        have hpath : Respects (FilesFrom allowed) here (removeFile path) :=
          respects_removeFile fun _ _ hrest => (removes_of_remove hrest).filesFrom
        exact hpath.bind fun _ => ih
  refine respects_site_bind (respects_tree.bind fun tree =>
    (respects_ofExcept _ _).bind fun given => ?_)
  split
  · exact respects_pure ()
  · exact (respects_ofExcept _ _).bind fun _ => (respects_ofExcept _ _).bind fun _ => hremove _

/-- The schema compiler leaves no files behind. -/
theorem Load.filesFrom_compileTemporarily (hcompiler : here.CompilerKeepsToOutput)
    (compiler : Setting (Option String)) (importPaths files : List String) :
    Respects (FilesFrom allowed) here
      ((compileTemporarily compiler importPaths files).thenAlways withoutTemporaryDirectory) := by
  have hinside : Respects
      (FilesFrom (place here.workingDirectory here.temporaryDirectory <+: ·)) here
      (compileTemporarily compiler importPaths files) := by
    refine respects_site_bind ((filesFrom_makeDirectories _).bind fun _ =>
      (respects_compile (fun name tree finished after hplay => ?_) _).bind fun _ =>
        respects_readFile _)
    refine (hcompiler name importPaths files tree finished after hplay).filesFrom.mono
      fun spot hspot => ?_
    rw [hspot]
    exact prefix_place_compiledFile here
  exact respects_thenAlways fun world => (hinside world).eraseAll

/-- Loading leaves no files behind: those of the compiler are erased again. -/
theorem Load.filesFrom_load (hcompiler : here.CompilerKeepsToOutput) (settings : Settings) :
    Respects (FilesFrom allowed) here (load settings) := by
  unfold load
  split
  · exact respects_foldlM respects_loadSet _ _
  · refine (respects_schemaFileNames settings).bind fun files => ?_
    split
    · exact (respects_note _).bind fun _ => respects_pure _
    · exact respects_site_bind ((respects_ofExcept _ _).bind fun _ =>
        (filesFrom_compileTemporarily hcompiler _ _ _).bind fun _ => respects_schemasOf _ _)

/-- The formatter keeps to the temporary file. -/
theorem Format.filesFrom_formatFile (hprograms : here.ProgramsKeepToFiles) :
    Respects (FilesFrom (· = place here.workingDirectory here.temporaryFile)) here
      (formatFile here.temporaryFile) := by
  have hstart {command : List String} (hcommand : command ∈
      [sortCommand here.temporaryFile, formatCommand here.temporaryFile]) :
      Respects (FilesFrom (· = place here.workingDirectory here.temporaryFile)) here
        (start command) :=
    respects_start fun tree finished after hplay =>
      (hprograms.formatter command hcommand tree finished after hplay).filesFrom
  refine (hstart (by simp)).bind fun sorted => ?_
  cases sorted with
  | error problem => exact respects_pure _
  | ok _ =>
      refine (hstart (by simp)).bind fun ended => ?_
      cases ended with
      | error problem => exact respects_pure _
      | ok finished =>
          simp only
          split
          · exact respects_pure _
          · refine respects_site_bind (respects_tree.bind fun tree => ?_)
            cases tree.read here.workingDirectory here.temporaryFile <;> exact respects_pure _

/-- Formatting leaves no files behind. -/
theorem Format.filesFrom_format (hprograms : here.ProgramsKeepToFiles) (text : String) :
    Respects (FilesFrom allowed) here (format text) := by
  have hattempt : Respects (FilesFrom (· = place here.workingDirectory here.temporaryFile)) here
      (attempt text) := by
    intro world
    rw [attempt, site_bind, tree_bind]
    cases hwrite : world.tree.write here.workingDirectory here.temporaryFile
      (Text.encodeUtf8 text) with
    | error problem => exact refl_of (FilesFrom _) world.tree
    | ok written =>
        exact trans_of (FilesFrom _) (sameOutside_of_write hwrite).filesFrom
          (filesFrom_formatFile hprograms { world with tree := written })
  have hcleared : Respects (FilesFrom allowed) here
      ((attempt text).thenAlways withoutTemporaryFile) :=
    respects_thenAlways fun world => (hattempt world).erase
  refine respects_site_bind (hcleared.bind fun outcome => ?_)
  cases outcome with
  | formatted _ => exact respects_pure _
  | rejected _ | unavailable _ => exact (respects_note _).bind fun _ => respects_pure _
  | broken _ => exact respects_fail _

/-- Checking makes no files. -/
theorem Validate.filesFrom_validate (hprograms : here.ProgramsKeepToFiles) (paths : List String) :
    Respects (FilesFrom allowed) here (validate paths) := by
  have hreject (record : String) (error : ValidationError) :
      Respects (FilesFrom allowed) here (reject record error) :=
    (respects_note _).bind fun _ => respects_fail _
  have hstart : Respects (FilesFrom allowed) here (start (checkCommand paths)) :=
    respects_start fun tree finished after hplay =>
      (hprograms.checker paths tree finished after hplay).filesFrom.mono fun _ => False.elim
  unfold validate
  split
  · exact respects_note _
  · refine (respects_note _).bind fun _ => hstart.bind fun ended => ?_
    cases ended with
    | ok finished =>
        simp only
        split
        · exact hreject _ _
        · exact respects_note _
    | error problem =>
        cases problem with
        | other message => exact hreject _ _
        | system message => exact respects_fail _
        | path error =>
            simp only
            split
            · exact hreject _ _
            · exact respects_fail _

/-- Writing stubs makes files where the stubs are to be. -/
theorem Run.filesFrom_writeOutputs (hprograms : here.ProgramsKeepToFiles) (settings : Settings)
    (directory : String) {outputs : List Stub.Output}
    (h : ∀ output ∈ outputs, allowed (place here.workingDirectory (join directory output.name))) :
    Respects (FilesFrom allowed) here (writeOutputs settings directory outputs) := by
  induction outputs with
  | nil => exact respects_pure _
  | cons output rest ih =>
      have houtput : Respects (FilesFrom allowed) here (writeOutput settings directory output) := by
        have hwrite (text : String) : Respects (FilesFrom allowed) here
            (writeFile (join directory output.name) (Text.encodeUtf8 text)) :=
          filesFrom_writeFile (h output List.mem_cons_self) _
        refine (filesFrom_makeDirectories _).bind fun _ => ?_
        simp only
        split
        · exact (respects_pure _).bind fun text => (hwrite text).bind fun _ =>
            (respects_note _).bind fun _ => respects_pure _
        · exact (Format.filesFrom_format hprograms _).bind fun text => (hwrite text).bind fun _ =>
            (respects_note _).bind fun _ => respects_pure _
      rw [writeOutputs_cons]
      exact houtput.bind fun _ =>
        (ih fun output houtput => h output (List.mem_cons_of_mem _ houtput)).bind fun _ =>
          respects_pure _

/-- A stub is that of one of the files. -/
theorem Run.exists_file_of_mem_outputs {files : List SchemaFile} {outputs : List Stub.Output}
    {output : Stub.Output} {world last : World}
    (h : generate files here world = (.ok outputs, last)) (houtput : output ∈ outputs) :
    ∃ file ∈ files, output.name = FileName.stubFile file.name := by
  have hresult := generate_apply files here world
  rw [h] at hresult
  cases hgenerate : Stub.generate files with
  | error clash =>
      rw [hgenerate] at hresult
      cases hresult
  | ok generated =>
      rw [hgenerate] at hresult
      obtain rfl : outputs = generated := Except.ok.inj hresult
      obtain ⟨file, hfile, hmodule⟩ := exists_of_mem_mapM hgenerate houtput
      refine ⟨file, (List.mem_filter.mp hfile).1, ?_⟩
      unfold Stub.moduleOf at hmodule
      split at hmodule
      · cases hmodule
      · rw [← Except.ok.inj hmodule]

/-- The places of the modules of all schemas that a run loads. -/
def Run.ModulePlace (settings : Settings) (here : Site) (world : World) (spot : Place) : Prop :=
  ∃ files file, ((clean settings >>= fun _ => Load.load settings) here world).1 = .ok files ∧
    file ∈ files ∧ spot = place here.workingDirectory
      (join (settings.outputDirectory here.workingDirectory) (FileName.stubFile file.name))

/-- All files that a run creates or changes are modules. -/
theorem Run.filesFrom_run (hprograms : here.ProgramsKeepToFiles) (settings : Settings)
    (world : World) :
    FilesFrom (ModulePlace settings here world) world.tree (run settings here world).2.tree := by
  rw [run, site_bind, ← bind_assoc (clean settings) fun _ => Load.load settings]
  refine related_bind (((filesFrom_clean settings).bind fun _ =>
    Load.filesFrom_load hprograms.compiler settings) world) fun files loaded hloaded => ?_
  refine related_bind (respects_generate files loaded) fun outputs generated hgenerated => ?_
  refine related_bind (filesFrom_writeOutputs hprograms settings _ ?_ generated)
    fun paths written _ => ?_
  · intro output houtput
    obtain ⟨file, hfile, hname⟩ := exists_file_of_mem_outputs hgenerated houtput
    exact ⟨files, file, by rw [hloaded], hfile, by rw [hname]⟩
  · split
    · exact Validate.filesFrom_validate hprograms paths written
    · exact respects_pure _ written

/-- **Files are written below the output directory if the names of their schemas lead there.**  All
that a run creates or changes are modules of schemas that it has loaded, each at the path that the
name of the schema makes below the output directory.  A module lies below that directory exactly if
the directories in the name lead there: for a relative name that means that it comes down again by
the names that it goes up, and without steps up it always does. -/
theorem written_below_output_directory_iff {settings : Settings} {here : Site} {world : World}
    {spot : Place} {data : Bytes} (hprograms : here.ProgramsKeepToFiles)
    (hfile : (Run.run settings here world).2.tree.get? spot = some (.file data))
    (hnew : world.tree.get? spot ≠ some (.file data)) :
    ∃ files file base, ((Run.clean settings >>= fun _ => Load.load settings) here world).1 =
        .ok files ∧ file ∈ files ∧
      base = settings.outputDirectory here.workingDirectory ∧
      spot = place here.workingDirectory (join base (FileName.stubFile file.name)) ∧
      (Path.Below (place here.workingDirectory base) spot ↔
        Path.LeadsBelow (place here.workingDirectory base) file.name) ∧
      (Path.isAbsolute file.name = false → ".." ∉ steps file.name →
        Path.Below (place here.workingDirectory base) spot) := by
  rcases Run.filesFrom_run hprograms settings world spot data hfile with hbefore | hmodule
  · exact absurd hbefore hnew
  · obtain ⟨files, file, hloaded, hmem, hspot⟩ := hmodule
    have hbelow := Path.below_place_stubFile_iff here.workingDirectory
      (settings.outputDirectory here.workingDirectory) file.name
    rw [← hspot] at hbelow
    exact ⟨files, file, _, hloaded, hmem, rfl, hspot, hbelow, fun habsolute hup =>
      hbelow.mpr (Path.leadsBelow_of_not_mem habsolute hup _)⟩

/-- A descriptor set with a name that leads up, and one that leads up and down again. -/
def strayingSet : Bytes :=
  Wire.encodePayload 1 (Plugin.fileBytes "../talk.proto" "Talk" [Plugin.methodBytes "Say"]) ++
    Wire.encodePayload 1 (Plugin.fileBytes "../out/echo.proto" "Echo" [Plugin.methodBytes "Say"])

def strayingWorld : World where
  tree := ⟨[(["work"], .directory), (["work", "talk.bin"], .file strayingSet)]⟩

def strayingSettings : Settings :=
  .ofOptions { descriptorSets := ["talk.bin"], outputDir := some "out", noFormat := true }

theorem repeatedSite_programsKeepToFiles : repeatedSite.ProgramsKeepToFiles := by
  refine ⟨fun _ _ _ _ _ _ hplay => ?_, fun _ _ _ _ _ hplay => ?_, fun _ _ _ _ hplay => ?_⟩ <;>
    cases hplay

theorem exists_file_of_any {tree : FileTree} {spot : Place}
    (h : (tree.get? spot).any (· ≠ .directory) = true) :
    ∃ data, tree.get? spot = some (.file data) := by
  cases hget : tree.get? spot with
  | none => simp [hget] at h
  | some entry =>
      cases entry with
      | directory => simp [hget] at h
      | file data => exact ⟨data, rfl⟩

theorem written_below_output_directory_iff_echo :
    ∃ data files file, (Run.run strayingSettings repeatedSite strayingWorld).2.tree.get?
        ["work", "out", "echo_pb2_rsocket.py"] = some (.file data) ∧
      ((Run.clean strayingSettings >>= fun _ => Load.load strayingSettings) repeatedSite
        strayingWorld).1 = .ok files ∧ file ∈ files ∧
      ["work", "out", "echo_pb2_rsocket.py"] =
        place "/work" (join "out" (FileName.stubFile file.name)) ∧
      Path.LeadsBelow (place "/work" "out") file.name := by
  obtain ⟨data, hdata⟩ := exists_file_of_any
    (show ((Run.run strayingSettings repeatedSite strayingWorld).2.tree.get?
      ["work", "out", "echo_pb2_rsocket.py"]).any (· ≠ .directory) = true by decide +kernel)
  have hbefore : strayingWorld.tree.get? ["work", "out", "echo_pb2_rsocket.py"] = none := by
    decide +kernel
  have hnew : strayingWorld.tree.get? ["work", "out", "echo_pb2_rsocket.py"] ≠
      some (.file data) := by simp [hbefore]
  obtain ⟨files, file, _, hfiles, hmem, rfl, hspot, hbelow, _⟩ :=
    written_below_output_directory_iff repeatedSite_programsKeepToFiles hdata hnew
  exact ⟨data, files, file, hdata, hfiles, hmem, hspot, hbelow.mp (by decide +kernel)⟩

/-- A module that is not below the output directory. -/
theorem written_not_always_below :
    ∃ data, (Run.run strayingSettings repeatedSite strayingWorld).2.tree.get?
        ["work", "talk_pb2_rsocket.py"] = some (.file data) ∧
      strayingWorld.tree.get? ["work", "talk_pb2_rsocket.py"] = none ∧
      ¬ Path.Below (place "/work" "out") ["work", "talk_pb2_rsocket.py"] := by
  obtain ⟨data, hdata⟩ := exists_file_of_any
    (show ((Run.run strayingSettings repeatedSite strayingWorld).2.tree.get?
      ["work", "talk_pb2_rsocket.py"]).any (· ≠ .directory) = true by decide +kernel)
  exact ⟨data, hdata, by decide +kernel, by decide +kernel⟩

end StubGen
