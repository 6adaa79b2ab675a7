import StubGen.Proofs.Selection

/-!
# StubGen.Proofs.FlagOption

The fire-and-forget option as a message that belongs into method options once.  Several occurrences
of such a message are put together, and then the last flag counts.

1. Messages put together are one message with the fields of all (`isMessage_flatten`).
2. Reading the option occurrence by occurrence comes to the same as reading all of it at once
   (`readFireAndForget_eq_ok_iff`), where the last flag outside of groups counts (`FlagIs`).
3. Hence in method options put together the flag of the latter counts, if they have one, and else
   that of the former (`flag_option_merges`).
-/

namespace StubGen

open Wire

/-! ## Flags -/

/-- A field that holds the flag: a number at field 1. -/
def IsFlag (field : Wire.Field) : Prop :=
  ∃ n, field = ⟨1, .varint n⟩

/-- Whether the flag is set in a message: the last flag counts, and none is unset. -/
inductive FlagIs : List Wire.Field → Bool → Prop
  | last {fields : List Wire.Field} {n : Nat} (h : IsLast IsFlag fields ⟨1, .varint n⟩) :
      FlagIs fields (n != 0)
  | absent {fields : List Wire.Field} (h : ∀ field ∈ fields, ¬ IsFlag field) : FlagIs fields false

theorem numbersAt_append (number : Nat) (first second : List Wire.Field) :
    numbersAt number (first ++ second) = numbersAt number first ++ numbersAt number second :=
  List.filterMap_append

theorem payloads_append (number : Nat) (first second : List Wire.Field) :
    payloads number (first ++ second) = payloads number first ++ payloads number second :=
  List.filterMap_append

/-- A message has no flag if no field of it is one. -/
theorem numbersAt_one_eq_nil_iff {fields : List Wire.Field} :
    numbersAt 1 fields = [] ↔ ∀ field ∈ fields, ¬ IsFlag field := by
  simp only [numbersAt, List.filterMap_eq_nil_iff, Option.eq_none_iff_forall_ne_some,
    ne_eq, numberOf?_eq_some_iff, IsFlag, not_exists]

/-- The flag that is read is the one that counts. -/
theorem flagIs_flagAt (fields : List Wire.Field) : FlagIs fields (flagAt 1 fields) := by
  rcases List.eq_nil_or_concat' (numbersAt 1 fields) with hnone | ⟨earlier, n, hnumbers⟩
  · rw [flagAt, hnone]
    exact .absent (numbersAt_one_eq_nil_iff.mp hnone)
  · rw [flagAt, hnumbers, List.getLastD_concat]
    obtain ⟨before, rest, rfl, _, hrest⟩ := List.filterMap_eq_append_iff.mp hnumbers
    obtain ⟨between, field, after, rfl, _, hfield, hafter⟩ := List.filterMap_eq_cons_iff.mp hrest
    obtain rfl := numberOf?_eq_some_iff.mp hfield
    exact .last ⟨⟨n, rfl⟩, before ++ between, after, by simp, numbersAt_one_eq_nil_iff.mp hafter⟩

/-- Fields without a flag leave the flag as it is. -/
theorem flagAt_append_of_eq_nil {fields others : List Wire.Field} (h : numbersAt 1 others = []) :
    flagAt 1 (fields ++ others) = flagAt 1 fields := by
  rw [flagAt, numbersAt_append, h, List.append_nil, flagAt]

/-- Fields with a flag replace it. -/
theorem flagAt_append_of_ne_nil {fields others : List Wire.Field} (h : numbersAt 1 others ≠ []) :
    flagAt 1 (fields ++ others) = flagAt 1 others := by
  obtain ⟨earlier, n, hnumbers⟩ := (List.eq_nil_or_concat' _).resolve_left h
  rw [flagAt, flagAt, numbersAt_append, hnumbers, ← List.append_assoc, List.getLastD_concat,
    List.getLastD_concat]

/-! ## The option -/

/-- The fields of the fire-and-forget option in method options: those of its occurrences put
together. -/
def OptionHolds (options fields : List Wire.Field) : Prop :=
  IsMessage shortLimit nestingLimit (payloads flagOptionField options).flatten fields

/-- Method options with a flag, whether it is set or not. -/
def CarriesFlag (options : List Wire.Field) : Prop :=
  ∃ fields, OptionHolds options fields ∧ ∃ field ∈ fields, IsFlag field

/-- The option is read if all its occurrences are messages. -/
theorem exists_optionFlags_iff {occurrences : List Bytes} :
    (∃ flags, optionFlags occurrences = .ok flags) ↔
      ∀ payload ∈ occurrences, IsSomeMessage payload := by
  rw [(checks_optionFlags [] occurrences).exists_iff, List.forall_mem_map]
  rfl

/-- Reading occurrence by occurrence comes to the same as reading all at once. -/
theorem optionFlags_eq_ok_iff {occurrences : List Bytes} {flags : List Nat} :
    optionFlags occurrences = .ok flags ↔
      (∀ payload ∈ occurrences, IsSomeMessage payload) ∧
        ∃ fields, IsMessage shortLimit nestingLimit occurrences.flatten fields ∧
          flags = numbersAt 1 fields := by
  have hread {found : List Nat} (h : optionFlags occurrences = .ok found) :
      ∃ fields, IsMessage shortLimit nestingLimit occurrences.flatten fields ∧
        found = numbersAt 1 fields := by
    obtain ⟨contents, hcontents, rfl⟩ := exists_contents_of_optionFlags h
    exact ⟨contents.flatten, isMessage_flatten hcontents, List.filterMap_flatten.symm⟩
  rw [← exists_optionFlags_iff]
  constructor
  · intro h
    exact ⟨⟨flags, h⟩, hread h⟩
  · rintro ⟨⟨found, hfound⟩, fields, hfields, rfl⟩
    obtain ⟨others, hothers, rfl⟩ := hread hfound
    rw [hfields.unique hothers, hfound]

/-- The flag is read from all occurrences of the option put together, if each is a message on its
own. -/
theorem readFireAndForget_eq_ok_iff {options : List Wire.Field} {flag : Bool} :
    readFireAndForget options = .ok flag ↔
      (∀ payload ∈ payloads flagOptionField options, IsSomeMessage payload) ∧
        ∃ fields, OptionHolds options fields ∧ flag = flagAt 1 fields := by
  have hmap : readFireAndForget options = .ok flag ↔
      ∃ flags, optionFlags (payloads flagOptionField options) = .ok flags ∧
        flag = (flags.getLastD 0 != 0) := by
    rw [readFireAndForget]
    cases optionFlags (payloads flagOptionField options) <;> simp [Except.map, eq_comm]
  simp only [hmap, optionFlags_eq_ok_iff, and_assoc, exists_and_left]
  refine and_congr_right fun _ => ⟨?_, ?_⟩
  · rintro ⟨_, ⟨fields, hfields, rfl⟩, rfl⟩
    exact ⟨fields, hfields, rfl⟩
  · rintro ⟨fields, hfields, rfl⟩
    exact ⟨_, ⟨fields, hfields, rfl⟩, rfl⟩

/-- Messages put together are a message. -/
theorem exists_optionHolds {options : List Wire.Field}
    (h : ∀ payload ∈ payloads flagOptionField options, IsSomeMessage payload) :
    ∃ fields, OptionHolds options fields := by
  obtain ⟨flags, hflags⟩ := exists_optionFlags_iff.mpr h
  obtain ⟨_, fields, hfields, _⟩ := optionFlags_eq_ok_iff.mp hflags
  exact ⟨fields, hfields⟩

/-- Where only options are asked for, the first that is no message is all that can be wrong. -/
theorem firstUnmet_map_option_iff {files : List FileDescriptor} {occurrences : List Bytes} :
    FirstUnmet files (occurrences.map .option) .malformedOption ↔
      ∃ payload ∈ occurrences, ¬ IsSomeMessage payload := by
  induction occurrences with
  | nil => simp [FirstUnmet, firstBad_nil]
  | cons payload rest ih =>
      rw [List.map_cons, FirstUnmet, firstBad_cons, ← FirstUnmet, ih, List.exists_mem_cons_iff]
      have hmet : (Requirement.option payload).Met files ↔ IsSomeMessage payload := Iff.rfl
      have hfailure : (Requirement.option payload).failure = .malformedOption := rfl
      rw [hmet]
      tauto

/-- The option is malformed if one of its occurrences is no message. -/
theorem readFireAndForget_eq_malformedOption_iff {options : List Wire.Field} :
    readFireAndForget options = .error .malformedOption ↔
      ∃ payload ∈ payloads flagOptionField options, ¬ IsSomeMessage payload :=
  (checks_readFireAndForget [] options).eq_error_iff.trans firstUnmet_map_option_iff

/-- What options hold together is what they hold one after the other. -/
theorem OptionHolds.append {options others fields otherFields : List Wire.Field}
    (h : OptionHolds options fields) (hother : OptionHolds others otherFields) :
    OptionHolds (options ++ others) (fields ++ otherFields) := by
  rw [OptionHolds, payloads_append, List.flatten_append]
  exact IsMessage.append h hother

/-- Options carry a flag if one is read from them. -/
theorem OptionHolds.carriesFlag_iff {options fields : List Wire.Field}
    (h : OptionHolds options fields) : CarriesFlag options ↔ numbersAt 1 fields ≠ [] := by
  have hfields : CarriesFlag options ↔ ∃ field ∈ fields, IsFlag field := by
    constructor
    · rintro ⟨others, hothers, hflag⟩
      rwa [IsMessage.unique h hothers]
    · exact fun hflag => ⟨fields, h, hflag⟩
  rw [hfields, ne_eq, numbersAt_one_eq_nil_iff]
  simp

/-- What is read from method options put together. -/
theorem readFireAndForget_append {options others : List Wire.Field} {flag otherFlag : Bool}
    (h : readFireAndForget options = .ok flag) (hother : readFireAndForget others = .ok otherFlag) :
    (CarriesFlag others → readFireAndForget (options ++ others) = .ok otherFlag) ∧
      (¬ CarriesFlag others → readFireAndForget (options ++ others) = .ok flag) := by
  rw [readFireAndForget_eq_ok_iff] at h hother
  obtain ⟨hmessages, fields, hfields, rfl⟩ := h
  obtain ⟨hotherMessages, otherFields, hotherFields, rfl⟩ := hother
  have hall : ∀ payload ∈ payloads flagOptionField (options ++ others), IsSomeMessage payload := by
    rw [payloads_append]
    exact List.forall_mem_append.mpr ⟨hmessages, hotherMessages⟩
  have hread : readFireAndForget (options ++ others) = .ok (flagAt 1 (fields ++ otherFields)) :=
    readFireAndForget_eq_ok_iff.mpr ⟨hall, _, hfields.append hotherFields, rfl⟩
  rw [hread, hotherFields.carriesFlag_iff]
  exact ⟨fun hne => by rw [flagAt_append_of_ne_nil hne],
    fun hnil => by rw [flagAt_append_of_eq_nil (not_not.mp hnil)]⟩

/-- **The fire-and-forget option is read as a message that belongs there once.**  Its occurrences in
method options are those outside of groups.  If one of them is no message, the option is malformed.
Otherwise the occurrences put together are one message, and its last flag outside of groups counts.
So in method options put together the flag of the latter counts, set or not, and that of the former
if the latter have none. -/
theorem flag_option_merges {bytes : Bytes} {fields : List Wire.Field}
    (h : message? .methodOptions bytes = some fields) :
    IsMessage shortLimit nestingLimit bytes fields ∧
    (readFireAndForget fields = .error .malformedOption ↔
      ∃ payload ∈ payloads flagOptionField fields, ¬ IsSomeMessage payload) ∧
    ((∀ payload ∈ payloads flagOptionField fields, IsSomeMessage payload) →
      ∃ merged flag, OptionHolds fields merged ∧ FlagIs merged flag ∧
        readFireAndForget fields = .ok flag) ∧
    ∀ (later : Bytes) (laterFields : List Wire.Field) (flag laterFlag : Bool),
      message? .methodOptions later = some laterFields →
      readFireAndForget fields = .ok flag → readFireAndForget laterFields = .ok laterFlag →
      ∃ together, message? .methodOptions (bytes ++ later) = some together ∧
        (CarriesFlag laterFields → readFireAndForget together = .ok laterFlag) ∧
        (¬ CarriesFlag laterFields → readFireAndForget together = .ok flag) := by
  refine ⟨fieldsUpTo?_eq_some_iff.mp (message?_eq_some_iff.mp h).2,
    readFireAndForget_eq_malformedOption_iff, ?_, ?_⟩
  · intro hmessages
    obtain ⟨merged, hmerged⟩ := exists_optionHolds hmessages
    exact ⟨merged, flagAt 1 merged, hmerged, flagIs_flagAt merged,
      readFireAndForget_eq_ok_iff.mpr ⟨hmessages, merged, hmerged, rfl⟩⟩
  · intro later laterFields flag laterFlag hlater hflag hlaterFlag
    exact ⟨fields ++ laterFields, message?_append h hlater,
      readFireAndForget_append hflag hlaterFlag⟩

/-- Method options whose flag is set, and cleared in a group only, where it does not count. -/
def setOptions : Bytes :=
  encodePayload flagOptionField (encodeNumber 1 1) ++
    encodePayload flagOptionField ([0x13] ++ encodeNumber 1 0 ++ [0x14])

/-- Method options whose flag is cleared, by a number whose low 64 bits are zero. -/
def clearedOptions : Bytes :=
  encodePayload flagOptionField
    [0x08, 0x80, 0x80, 0x80, 0x80, 0x80, 0x80, 0x80, 0x80, 0x80, 0x02]

/-- Method options without the flag: the option is there as a number and as a message without
fields. -/
def flaglessOptions : Bytes :=
  encodeNumber flagOptionField 1 ++ encodePayload flagOptionField []

theorem flag_option_merges_cleared :
    ∃ set cleared flagless, message? .methodOptions setOptions = some set ∧
      message? .methodOptions clearedOptions = some cleared ∧ CarriesFlag cleared ∧
      message? .methodOptions flaglessOptions = some flagless ∧ ¬ CarriesFlag flagless ∧
      (∃ together, message? .methodOptions (setOptions ++ clearedOptions) = some together ∧
        readFireAndForget together = .ok false) ∧
      ∃ together, message? .methodOptions (setOptions ++ flaglessOptions) = some together ∧
        readFireAndForget together = .ok true := by
  obtain ⟨set, hset, hsetFlag⟩ : ∃ set, message? .methodOptions setOptions = some set ∧
      readFireAndForget set = .ok true :=
    ⟨[⟨flagOptionField, .bytes [0x08, 0x01]⟩,
      ⟨flagOptionField, .bytes [0x13, 0x08, 0x00, 0x14]⟩], by decide +kernel, by decide +kernel⟩
  obtain ⟨cleared, hcleared, hclearedFlag, hcarries⟩ : ∃ cleared,
      message? .methodOptions clearedOptions = some cleared ∧
        readFireAndForget cleared = .ok false ∧ CarriesFlag cleared :=
    ⟨[⟨flagOptionField,
        .bytes [0x08, 0x80, 0x80, 0x80, 0x80, 0x80, 0x80, 0x80, 0x80, 0x80, 0x02]⟩],
      by decide +kernel, by decide +kernel,
      [⟨1, .varint 0⟩], fieldsUpTo?_eq_some_iff.mp (by decide +kernel), _,
      List.mem_singleton_self _, 0, rfl⟩
  obtain ⟨flagless, hflagless, hflaglessFlag, hlacks⟩ : ∃ flagless,
      message? .methodOptions flaglessOptions = some flagless ∧
        readFireAndForget flagless = .ok false ∧ OptionHolds flagless [] :=
    ⟨[⟨flagOptionField, .varint 1⟩, ⟨flagOptionField, .bytes []⟩], by decide +kernel,
      by decide +kernel, isMessage_nil⟩
  have hnone : ¬ CarriesFlag flagless := by
    rw [hlacks.carriesFlag_iff]
    exact fun hne => hne rfl
  have hmerges := (flag_option_merges hset).2.2.2
  obtain ⟨first, hfirst, hfirstFlag, _⟩ := hmerges _ _ _ _ hcleared hsetFlag hclearedFlag
  obtain ⟨second, hsecond, _, hsecondFlag⟩ := hmerges _ _ _ _ hflagless hsetFlag hflaglessFlag
  exact ⟨set, cleared, flagless, hset, hcleared, hcarries, hflagless, hnone,
    ⟨first, hfirst, hfirstFlag hcarries⟩, ⟨second, hsecond, hsecondFlag hnone⟩⟩

end StubGen
