import StubGen.Proofs.Alias
import StubGen.Proofs.MethodNames

/-!
# StubGen.Proofs.AliasNames

Aliases of the file names that occur in practice.

1. A *path name* is made of letters and numbers of any script, `_`, `-`, `/` and `.`.  Its stem is
   ordinary (`ordinary_stem`), so that of all confusions that of the separators is left.
2. A path name without dots is the stem of the schema file with it (`stem_append_proto`), and can be
   told from the alias.
3. The alias of a name in ASCII is an identifier (`isIdentifier_moduleAlias`).  By its marker it is
   no reserved word (`isKeyword_moduleAlias`).
-/

namespace StubGen.FileName

open Text Identifier

/-! ## Path names -/

/-- Letters and numbers of any script, `_`, `-`, `/` and `.`. -/
def isPathChar (c : Char) : Bool :=
  isAlphanumeric c || c == '_' || c == '-' || c == '/' || c == '.'

/-- A name of these characters only. -/
def IsPathName (name : String) : Prop :=
  ∀ c ∈ name.toList, isPathChar c = true

instance (name : String) : Decidable (IsPathName name) :=
  decidable_of_iff (name.toList.all isPathChar = true) List.all_eq_true

theorem isFiller_of_isPathChar {c : Char} (h : isPathChar c = true) : isFiller c = false := by
  simp only [isPathChar, Bool.or_eq_true, beq_iff_eq] at h
  simp only [isFiller, isWordChar, Bool.not_eq_false', Bool.or_eq_true, beq_iff_eq]
  tauto

/-- A name of path characters has an ordinary stem. -/
theorem IsPathName.ordinary_stem {name : String} (h : IsPathName name) :
    Ordinary (stem name).toList :=
  fun c hc => isFiller_of_isPathChar (h c (stem_subset name hc))

/-- Two path names share their alias exactly if their stems are the same up to their separators. -/
theorem IsPathName.moduleAlias_eq_iff {first second : String} (hfirst : IsPathName first)
    (hsecond : IsPathName second) :
    moduleAlias first = moduleAlias second ↔
      dotted (stem first).toList = dotted (stem second).toList := by
  rw [FileName.moduleAlias_eq_iff, confusable_iff_of_ordinary hfirst.ordinary_stem
    hsecond.ordinary_stem]

/-! ## Names without dots -/

theorem IsPathName.append_proto {name : String} (h : IsPathName name) :
    IsPathName (name ++ ".proto") := by
  have hsuffix : IsPathName ".proto" := by decide
  rw [IsPathName, String.toList_append]
  exact List.forall_mem_append.mpr ⟨h, hsuffix⟩

/-- The suffix that is added to a name is what its stem is without. -/
theorem stem_append_proto (name : String) : stem (name ++ ".proto") = name := by
  have hlong : ".protodevel".toList.isSuffixOf (name ++ ".proto").toList = false := by
    simp [List.isSuffixOf, List.isPrefixOf]
  have hshort : ".proto".toList.isSuffixOf (name ++ ".proto").toList = true := by
    simp [List.isSuffixOf, List.isPrefixOf]
  simp only [stem, schemaSuffixes, List.find?_cons, hlong, hshort]
  simp [dropEnding]

/-- Where there were no dots before, they tell the slashes. -/
theorem dotted_injective {s t : List Char} (hs : '.' ∉ s) (ht : '.' ∉ t)
    (h : dotted s = dotted t) : s = t := by
  have hback {chars : List Char} (hchars : '.' ∉ chars) :
      (dotted chars).map (fun c => if c = '.' then '/' else c) = chars := by
    rw [dotted, List.map_map]
    refine (List.map_congr_left fun c hc => ?_).trans (List.map_id chars)
    have hdot : c ≠ '.' := fun heq => hchars (heq ▸ hc)
    by_cases hslash : c = '/' <;> simp [hslash, hdot]
  rw [← hback hs, h, hback ht]

/-! ## Identifiers -/

/-- A name in ASCII. -/
def IsAscii (name : String) : Prop :=
  ∀ c ∈ name.toList, c.toNat < 0x80

instance (name : String) : Decidable (IsAscii name) :=
  List.decidableBAll (fun c : Char => c.toNat < 0x80) name.toList

/-- Name characters make an identifier, unless the first is a digit. -/
theorem isIdentifier_of_hasNameChars {name : String} {first : Char} {rest : List Char}
    (hname : name.toList = first :: rest) (hfirst : first.isDigit = false)
    (h : HasNameChars name) : isIdentifier name = true := by
  rw [HasNameChars, hname, List.forall_mem_cons] at h
  obtain ⟨hchar, hrest⟩ := h
  unfold isNameChar Char.isAlphanum at hchar
  rw [hfirst, Bool.or_false] at hchar
  unfold isIdentifier
  rw [hname]
  simp only [hchar, List.all_eq_true.mpr hrest, Bool.and_self]

/-- Aliases of names in ASCII have characters of identifiers only. -/
theorem hasNameChars_moduleAlias {name : String} (h : IsAscii name) :
    HasNameChars (moduleAlias name) := by
  have hletters : ∀ c ∈ aliasLetters, isNameChar c = true := List.all_eq_true.mp (by decide)
  intro c hc
  rcases mem_moduleAlias hc with ⟨hmem, hword⟩ | hletter
  · exact forall_ascii (fun c => isWordChar c = true → isNameChar c = true) (by decide +kernel)
      (h c hmem) hword
  · exact hletters c hletter

/-- No alias starts with a digit. -/
theorem exists_head_moduleAlias (name : String) :
    ∃ first rest, (moduleAlias name).toList = first :: rest ∧ isDigitChar first = false := by
  rw [moduleAlias, String.toList_append, String.toList_ofList]
  cases (stem name).toList.flatMap aliasChar with
  | nil => exact ⟨'_', _, rfl, by decide⟩
  | cons c rest =>
      cases hdigit : isDigitChar c with
      | true => exact ⟨'_', _, by rw [guardDigit, if_pos hdigit]; rfl, by decide⟩
      | false => exact ⟨c, _, by rw [guardDigit, hdigit]; rfl, hdigit⟩

/-- The alias of a name in ASCII is an identifier. -/
theorem isIdentifier_moduleAlias {name : String} (h : IsAscii name) :
    isIdentifier (moduleAlias name) = true := by
  have hchars := hasNameChars_moduleAlias h
  obtain ⟨first, rest, hname, hdigit⟩ := exists_head_moduleAlias name
  have hascii : first.toNat < 0x80 := hchars.ascii first (by simp [hname])
  rw [isDigitChar, if_pos hascii] at hdigit
  exact isIdentifier_of_hasNameChars hname hdigit hchars

/-- No reserved word ends as an alias does. -/
theorem isKeyword_moduleAlias (name : String) : isKeyword (moduleAlias name) = false := by
  have hwords : ∀ word ∈ keywords, (word.toList.getLast? != some '2') = true :=
    List.all_eq_true.mp (by decide)
  have hlast : (moduleAlias name).toList.getLast? = some '2' := by
    rw [moduleAlias, String.toList_append]
    simp
  by_contra hkeyword
  have hmem : moduleAlias name ∈ keywords := by simpa [isKeyword] using hkeyword
  simpa [hlast] using hwords _ hmem

/-! ## Aliases of path names -/

/-- **The exact kernel of aliases.**  Two path names share their alias exactly if their stems are
the same with dots for slashes.  Schema files whose names have no other dot than that of their
suffix never share an alias, whatever underscores, dashes, digits and words are in their names.  The
alias of any name in ASCII is an identifier and no reserved word. -/
theorem alias_kernel_exact :
    (∀ first second : String, IsPathName first → IsPathName second →
      (moduleAlias first = moduleAlias second ↔
        dotted (stem first).toList = dotted (stem second).toList)) ∧
    (∀ first second : String, IsPathName first → IsPathName second →
      '.' ∉ first.toList → '.' ∉ second.toList →
      moduleAlias (first ++ ".proto") = moduleAlias (second ++ ".proto") → first = second) ∧
    ∀ name : String, IsAscii name →
      isIdentifier (moduleAlias name) = true ∧ isKeyword (moduleAlias name) = false := by
  refine ⟨fun first second hfirst hsecond => hfirst.moduleAlias_eq_iff hsecond, ?_,
    fun name hascii => ⟨isIdentifier_moduleAlias hascii, isKeyword_moduleAlias name⟩⟩
  intro first second hfirst hsecond hdot hother halias
  rw [hfirst.append_proto.moduleAlias_eq_iff hsecond.append_proto, stem_append_proto,
    stem_append_proto] at halias
  exact String.toList_inj.mp (dotted_injective hdot hother halias)

theorem alias_kernel_exact_spelled :
    moduleAlias "9/été_dot_x.proto" = moduleAlias "9.été_dot_x.proto" ∧
    moduleAlias ("a_dot_b" ++ ".proto") ≠ moduleAlias ("a/b" ++ ".proto") ∧
    moduleAlias ("_9-dash" ++ ".proto") ≠ moduleAlias ("9-dash" ++ ".proto") ∧
    isIdentifier (moduleAlias "9 lives.proto") = true ∧
    isKeyword (moduleAlias "9 lives.proto") = false := by
  obtain ⟨hkernel, hinjective, hidentifier⟩ := alias_kernel_exact
  refine ⟨(hkernel _ _ (by decide) (by decide)).mpr (by decide), fun halias => ?_,
    fun halias => ?_, hidentifier _ (by decide)⟩
  · exact absurd (hinjective _ _ (by decide) (by decide) (by decide) (by decide) halias) (by decide)
  · exact absurd (hinjective _ _ (by decide) (by decide) (by decide) (by decide) halias) (by decide)

end StubGen.FileName
