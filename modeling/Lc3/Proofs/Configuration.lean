import Lc3.Run

/-!
Loading a configuration that was loaded before. A checked configuration, written as a mapping of
the four keys, is accepted as it stands. Main statement: an argument and its normal form ask for
the same machine, however often it was normalized.
-/

namespace Lc3

theorem Text.ofString_inj {left right : String} :
    ofString left = ofString right ↔ left = right := by
  constructor
  · intro same
    have strings := congrArg toString? same
    simpa using strings
  · intro same
    rw [same]

namespace Config

/-! Keys that are texts. -/

theorem isKey_text_iff (name other : String) :
    isKey name (.text (Text.ofString other)) = true ↔ other = name := by
  rw [isKey, beq_iff_eq, Text.ofString_inj]

theorem isKnown_text {name : String} (known : name ∈ keys) :
    isKnown (.text (Text.ofString name)) = true :=
  List.any_eq_true.mpr ⟨name, known, (isKey_text_iff name name).mpr rfl⟩

theorem unknownKeys_of_known {entries : List (Value × Value)}
    (known : ∀ entry ∈ entries, isKnown entry.1 = true) : unknownKeys entries = .ok [] := by
  have none : (entries.map Prod.fst).filter (!isKnown ·) = [] := by
    rw [List.filter_eq_nil_iff]
    intro key member
    obtain ⟨entry, among, rfl⟩ := List.mem_map.mp member
    simp [known entry among]
  simp only [unknownKeys, none]
  rfl

theorem setting_cons (name other : String) (value default : Value)
    (entries : List (Value × Value)) :
    setting ((.text (Text.ofString other), value) :: entries) name default =
      if other = name then value else setting entries name default := by
  have key := isKey_text_iff name other
  by_cases same : other = name
  · have found := key.mpr same
    rw [if_pos same]
    simp only [setting, List.find?_cons, found]
  · have missed := Bool.eq_false_iff.mpr (mt key.mp same)
    rw [if_neg same]
    simp only [setting, List.find?_cons, missed]

/-! The mapping of a checked configuration. -/

variable (config : Config)

theorem unknownKeys_entries : unknownKeys config.entries = .ok [] := by
  refine unknownKeys_of_known fun entry member => ?_
  simp only [entries, List.mem_cons, List.not_mem_nil, or_false] at member
  rcases member with rfl | rfl | rfl | rfl
  · exact isKnown_text (by simp [keys])
  · exact isKnown_text (by simp [keys])
  · exact isKnown_text (by simp [keys])
  · exact isKnown_text (by simp [keys])

theorem toLimit_stepLimit :
    toLimit (match config.stepLimit with
      | some limit => .int limit
      | none => .null) = .ok (config.stepLimit.map Int.ofNat) := by
  cases config.stepLimit <;> rfl

theorem convert_entries :
    convert config.entries = .ok {
      status := config.status.toNat
      data := config.data.toNat
      stepLimit := config.stepLimit.map Int.ofNat
      haltMessage := config.haltMessage } := by
  have status : setting config.entries statusKey (.int initial.status.toNat) =
      .int config.status.toNat := by
    simp [entries, setting_cons]
  have data : setting config.entries dataKey (.int initial.data.toNat) =
      .int config.data.toNat := by
    simp [entries, setting_cons, statusKey, dataKey]
  have stepLimit : toLimit (setting config.entries stepLimitKey .null) =
      .ok (config.stepLimit.map Int.ofNat) := by
    simp only [entries, setting_cons, statusKey, dataKey, stepLimitKey]
    exact config.toLimit_stepLimit
  have haltMessage : setting config.entries haltMessageKey (.text initial.haltMessage) =
      .text config.haltMessage := by
    simp [entries, setting_cons, statusKey, dataKey, stepLimitKey, haltMessageKey]
  simp only [convert, status, data, stepLimit, haltMessage]
  rfl

theorem checkAddress_word (key : String) (word : Word) :
    checkAddress key word.toNat = .ok word := by
  have bound := word.isLt
  have inside : isAddress word.toNat = true := by
    simp [isAddress]
    omega
  rw [checkAddress, if_pos inside, wordOf_toNat]

theorem checkLimit_stepLimit :
    checkLimit (config.stepLimit.map Int.ofNat) = .ok ⟨config.stepLimit, config.positive⟩ := by
  obtain ⟨_, _, stepLimit, _, _, positive⟩ := config
  cases stepLimit with
  | none => rfl
  | some count =>
      have above : 0 < Int.ofNat count := Int.natCast_pos.mpr (positive count rfl)
      simp only [Option.map_some, checkLimit, dif_pos above]
      rfl

theorem check_settings :
    check {
      status := config.status.toNat
      data := config.data.toNat
      stepLimit := config.stepLimit.map Int.ofNat
      haltMessage := config.haltMessage } = .ok config := by
  simp only [check, checkAddress_word, bind, Except.bind, config.distinct, dite_false,
    checkLimit_stepLimit]
  rfl

/-- Loading accepts what loading has given. -/
theorem load_entries (files : Files) : load files (.mapping config.entries) = .ok config := by
  simp only [load, ofEntries, unknownKeys_entries, convert_entries, check_settings]
  rfl

/-! Normal forms of arguments. -/

/-- The mapping that loading gives for an argument. -/
def normalize (files : Files) (argument : Value) : Except ConfigFailure Value :=
  (load files argument).map fun config => .mapping config.entries

/-- The argument normalized once for each state in which the files are found. -/
def normalizeAll : List Files → Value → Except ConfigFailure Value
  | [], argument => .ok argument
  | files :: passes, argument => normalize files argument >>= normalizeAll passes

theorem normalize_of_loaded {files : Files} {argument : Value} {config : Config}
    (loaded : load files argument = .ok config) :
    normalize files argument = .ok (.mapping config.entries) := by
  rw [normalize, loaded]
  rfl

theorem normalizeAll_entries (passes : List Files) :
    normalizeAll passes (.mapping config.entries) = .ok (.mapping config.entries) := by
  induction passes with
  | nil => rfl
  | cons files passes ih =>
      rw [normalizeAll, normalize_of_loaded (config.load_entries files)]
      exact ih

end Config

/-- Loading leaves its own results as they are, and an argument asks for the same machine as its
normal form, however often and with whatever files it was normalized. -/
theorem normalizing_keeps_config {files : Files} {argument : Value} {config : Config}
    (loaded : Config.load files argument = .ok config) (passes : List Files) :
    ∃ value, Config.normalizeAll (files :: passes) argument = .ok value ∧
      value = .mapping config.entries ∧
      ∀ others, Config.load others value = .ok config ∧
        Config.normalize others value = .ok value ∧
        ∀ image console, build others image value console = build files image argument console := by
  refine ⟨.mapping config.entries, ?_, rfl, ?_⟩
  · rw [Config.normalizeAll, Config.normalize_of_loaded loaded]
    exact config.normalizeAll_entries passes
  · intro others
    have again := config.load_entries others
    refine ⟨again, Config.normalize_of_loaded again, ?_⟩
    intro image console
    rw [build_of_loaded again, build_of_loaded loaded]

/-- A numeral, a fraction, a truth value and a missing message, each in place of a proper value. -/
theorem mixed_config_is_kept :
    let argument : Value := .mapping
      [(.text (Text.ofString "halt_message"), .null),
        (.text (Text.ofString "kbsr"), .text (Text.ofString "0xFD00")),
        (.text (Text.ofString "step_limit"), .bool true),
        (.text (Text.ofString "kbdr"), .float (.finite false 5 (-1)))]
    ∃ value, Config.normalizeAll [⟨[]⟩, ⟨[]⟩, ⟨[]⟩] argument = .ok value ∧
      value = .mapping
        [(.text (Text.ofString "kbsr"), .int 0xFD00), (.text (Text.ofString "kbdr"), .int 2),
          (.text (Text.ofString "step_limit"), .int 1),
          (.text (Text.ofString "halt_message"), .text [])] ∧
      ∀ image console, build ⟨[]⟩ image value console = build ⟨[]⟩ image argument console := by
  intro argument
  have loaded : Config.load ⟨[]⟩ argument =
      .ok ⟨0xFD00, 2, some 1, [], by decide, by simp⟩ := by
    rfl
  obtain ⟨value, normalized, same, kept⟩ := normalizing_keeps_config loaded [⟨[]⟩, ⟨[]⟩]
  exact ⟨value, normalized, same, (kept ⟨[]⟩).2.2⟩

end Lc3
