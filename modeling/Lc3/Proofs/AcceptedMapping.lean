import Mathlib.Data.List.Nodup
import Lc3.Proofs.Configuration
import Lc3.Proofs.UnknownKeys

/-!
Mappings whose keys are texts. Such a mapping is accepted just if it has no unknown keys, its
values convert, and the numbers they convert to are in range; it is rejected with a complaint
otherwise. The order of its entries decides nothing.
-/

namespace Lc3

/-! The order of texts. -/

theorem CodePoint.code_injective {left right : CodePoint} (same : left.code = right.code) :
    left = right := by
  cases left with
  | character left =>
      cases right with
      | character right => rw [Char.toNat_inj.mp same]
      | surrogate right =>
          have valid := left.valid
          have index := right.isLt
          simp only [code, Char.toNat] at same
          simp only [UInt32.isValidChar, Nat.isValidChar] at valid
          omega
  | surrogate left =>
      cases right with
      | character right =>
          have valid := right.valid
          have index := left.isLt
          simp only [code, Char.toNat] at same
          simp only [UInt32.isValidChar, Nat.isValidChar] at valid
          omega
      | surrogate right =>
          simp only [code] at same
          rw [Fin.ext (Nat.add_left_cancel same)]

namespace Text

theorem isAtMost_cons_iff {left right : CodePoint} {lefts rights : Text} :
    isAtMost (left :: lefts) (right :: rights) = true ↔
      left.code < right.code ∨ left.code = right.code ∧ isAtMost lefts rights = true := by
  simp [isAtMost]

theorem isAtMost_total (left right : Text) :
    (isAtMost left right || isAtMost right left) = true := by
  induction left generalizing right with
  | nil => simp [isAtMost]
  | cons first lefts ih =>
      cases right with
      | nil => simp [isAtMost]
      | cons second rights =>
          rw [Bool.or_eq_true, isAtMost_cons_iff, isAtMost_cons_iff]
          rcases Nat.lt_trichotomy first.code second.code with less | same | greater
          · exact .inl (.inl less)
          · rcases Bool.or_eq_true _ _ ▸ ih rights with below | above
            · exact .inl (.inr ⟨same, below⟩)
            · exact .inr (.inr ⟨same.symm, above⟩)
          · exact .inr (.inl greater)

theorem isAtMost_trans (left middle right : Text) (lower : isAtMost left middle = true)
    (upper : isAtMost middle right = true) : isAtMost left right = true := by
  induction left generalizing middle right with
  | nil => simp [isAtMost]
  | cons first lefts ih =>
      cases middle with
      | nil => simp [isAtMost] at lower
      | cons second middles =>
          cases right with
          | nil => simp [isAtMost] at upper
          | cons third rights =>
              rw [isAtMost_cons_iff] at lower upper ⊢
              rcases lower with less | ⟨same, lower⟩
              · omega
              · rcases upper with less | ⟨sameAgain, upper⟩
                · omega
                · exact .inr ⟨same.trans sameAgain, ih middles rights lower upper⟩

theorem isAtMost_antisymm {left right : Text} (lower : isAtMost left right = true)
    (upper : isAtMost right left = true) : left = right := by
  induction left generalizing right with
  | nil =>
      cases right with
      | nil => rfl
      | cons second rights => simp [isAtMost] at upper
  | cons first lefts ih =>
      cases right with
      | nil => simp [isAtMost] at lower
      | cons second rights =>
          rw [isAtMost_cons_iff] at lower upper
          rcases lower with less | ⟨codes, lower⟩
          · omega
          · rcases upper with less | ⟨_, upper⟩
            · omega
            · rw [CodePoint.code_injective codes, ih lower upper]

/-- Texts put in order: the same however they stood before. -/
theorem mergeSort_eq_of_perm {lefts rights : List Text} (same : lefts.Perm rights) :
    lefts.mergeSort isAtMost = rights.mergeSort isAtMost := by
  have leftSorted := List.pairwise_mergeSort isAtMost_trans isAtMost_total lefts
  have rightSorted := List.pairwise_mergeSort isAtMost_trans isAtMost_total rights
  refine List.Perm.eq_of_pairwise (fun _ _ _ _ => isAtMost_antisymm) leftSorted rightSorted ?_
  exact ((List.mergeSort_perm _ _).trans same).trans (List.mergeSort_perm _ _).symm

end Text

namespace Config

/-! What a mapping asks for. -/

/-- A mapping whose keys are texts, each of them once. -/
structure Mapping where
  entries : List (Text × Value)
  distinct : (entries.map Prod.fst).Nodup

namespace Mapping

def pairs (mapping : Mapping) : List (Value × Value) :=
  mapping.entries.map fun (key, value) => (.text key, value)

/-- The mapping as an argument of loading. -/
def toValue (mapping : Mapping) : Value := .mapping mapping.pairs

/-- The keys that no configuration has. -/
def unknown (mapping : Mapping) : List Text :=
  (mapping.entries.map Prod.fst).filter fun key => !(keys.map Text.ofString).contains key

/-- The value that stands under a key, or the default of a key that is not there. -/
def Gives (mapping : Mapping) (name : String) (default value : Value) : Prop :=
  (Text.ofString name, value) ∈ mapping.entries ∨
    Text.ofString name ∉ mapping.entries.map Prod.fst ∧ value = default

end Mapping

inductive DenotesLimit : Value → Option Int → Prop
  | absent : DenotesLimit .null none
  | present {value limit} : value.toInt = .ok limit → DenotesLimit value (some limit)

inductive DenotesMessage : Value → Text → Prop
  | absent : DenotesMessage .null []
  | present {value content} : value ≠ .null → value.shown? = some content →
      DenotesMessage value content

/-- The values of the four keys are converted to the settings. -/
structure Mapping.Converts (mapping : Mapping) (settings : Settings) : Prop where
  status : ∃ value, mapping.Gives statusKey (.int 0xFE00) value ∧
    value.toInt = .ok settings.status
  data : ∃ value, mapping.Gives dataKey (.int 0xFE02) value ∧ value.toInt = .ok settings.data
  stepLimit : ∃ value, mapping.Gives stepLimitKey .null value ∧
    DenotesLimit value settings.stepLimit
  haltMessage : ∃ value,
    mapping.Gives haltMessageKey (.text (Text.ofString "HALTing execution")) value ∧
      DenotesMessage value settings.haltMessage

/-- Why the values of a mapping are not converted: one of them cannot be. -/
inductive Mapping.FailsBy (mapping : Mapping) : ConversionError → Prop
  | status {value cause} : mapping.Gives statusKey (.int 0xFE00) value →
      value.toInt = .error cause → mapping.FailsBy cause
  | data {value cause} : mapping.Gives dataKey (.int 0xFE02) value →
      value.toInt = .error cause → mapping.FailsBy cause
  | stepLimit {value cause} : mapping.Gives stepLimitKey .null value → value ≠ .null →
      value.toInt = .error cause → mapping.FailsBy cause
  | haltMessage {value} :
      mapping.Gives haltMessageKey (.text (Text.ofString "HALTing execution")) value →
      value ≠ .null → value.shown? = none → mapping.FailsBy .notWritable

namespace Settings

structure Valid (settings : Settings) : Prop where
  status : 0 ≤ settings.status ∧ settings.status ≤ 0xFFFF
  data : 0 ≤ settings.data ∧ settings.data ≤ 0xFFFF
  distinct : settings.status ≠ settings.data
  stepLimit : ∀ limit ∈ settings.stepLimit, 0 < limit

/-- What there is to complain about in settings. -/
inductive Breaks (settings : Settings) : ConfigError → Prop
  | status : ¬(0 ≤ settings.status ∧ settings.status ≤ 0xFFFF) →
      settings.Breaks (.outOfRange statusKey settings.status)
  | data : ¬(0 ≤ settings.data ∧ settings.data ≤ 0xFFFF) →
      settings.Breaks (.outOfRange dataKey settings.data)
  | same : settings.status = settings.data → settings.Breaks .sameAddress
  | stepLimit {limit} : settings.stepLimit = some limit → limit ≤ 0 →
      settings.Breaks .limitNotPositive

/-- The mapping of the four keys in which the settings are written. -/
def entries (settings : Settings) : List (Value × Value) :=
  [(.text (Text.ofString "kbsr"), .int settings.status),
    (.text (Text.ofString "kbdr"), .int settings.data),
    (.text (Text.ofString "step_limit"), match settings.stepLimit with
      | some limit => .int limit
      | none => .null),
    (.text (Text.ofString "halt_message"), .text settings.haltMessage)]

end Settings

/-! Keys and their values. -/

namespace Mapping

variable (mapping : Mapping)

theorem Gives.unique {mapping : Mapping} {name : String} {default left right : Value}
    (first : mapping.Gives name default left) (second : mapping.Gives name default right) :
    left = right := by
  rcases first with held | ⟨missing, rfl⟩
  · rcases second with heldToo | ⟨missing, rfl⟩
    · exact congrArg Prod.snd (List.inj_on_of_nodup_map mapping.distinct held heldToo rfl)
    · exact absurd (List.mem_map_of_mem held) missing
  · rcases second with held | ⟨_, rfl⟩
    · exact absurd (List.mem_map_of_mem held) missing
    · rfl

theorem gives_setting (name : String) (default : Value) :
    mapping.Gives name default (setting mapping.pairs name default) := by
  have looked : mapping.pairs.find? (fun entry => isKey name entry.1) =
      (mapping.entries.find? (·.1 == Text.ofString name)).map
        fun entry => (.text entry.1, entry.2) := List.find?_map
  simp only [setting, looked]
  cases found : mapping.entries.find? (·.1 == Text.ofString name) with
  | some entry =>
      obtain ⟨key, value⟩ := entry
      have same : key = Text.ofString name := by simpa using List.find?_some found
      exact .inl (same ▸ List.mem_of_find?_eq_some found)
  | none =>
      refine .inr ⟨fun member => ?_, rfl⟩
      obtain ⟨entry, held, same⟩ := List.mem_map.mp member
      exact List.find?_eq_none.mp found entry held (beq_iff_eq.mpr same)

theorem setting_eq_iff {name : String} {default value : Value} :
    setting mapping.pairs name default = value ↔ mapping.Gives name default value := by
  constructor
  · rintro rfl
    exact mapping.gives_setting name default
  · intro gives
    exact (mapping.gives_setting name default).unique gives

theorem Gives.of_perm {left right : Mapping} (same : left.entries.Perm right.entries)
    {name : String} {default value : Value} (gives : left.Gives name default value) :
    right.Gives name default value := by
  rcases gives with held | ⟨missing, isDefault⟩
  · exact .inl (same.mem_iff.mp held)
  · exact .inr ⟨mt (same.map Prod.fst).mem_iff.mpr missing, isDefault⟩

theorem setting_eq_of_perm {left right : Mapping} (same : left.entries.Perm right.entries)
    (name : String) (default : Value) :
    setting left.pairs name default = setting right.pairs name default :=
  (left.setting_eq_iff).mpr (.of_perm same.symm (right.gives_setting name default))

theorem convert_eq_of_perm {left right : Mapping} (same : left.entries.Perm right.entries) :
    convert left.pairs = convert right.pairs := by
  simp only [convert, setting_eq_of_perm same]

/-! Unknown keys. -/

theorem isKnown_text_eq (key : Text) :
    isKnown (.text key) = (keys.map Text.ofString).contains key := by
  rw [isKnown, List.contains_eq_any_beq, List.any_map]
  rfl

theorem unknownOf_pairs : unknownOf mapping.pairs = mapping.unknown.map .text := by
  have names : mapping.pairs.map Prod.fst = (mapping.entries.map Prod.fst).map .text := by
    simp [pairs]
  have alike : (fun key => !isKnown key) ∘ Value.text =
      fun key => !(keys.map Text.ofString).contains key := by
    funext key
    simp only [Function.comp_apply, isKnown_text_eq]
  rw [unknownOf, names, List.filter_map, alike, unknown]

end Mapping

theorem mapM_map_text {content? : Value → Option Text}
    (found : ∀ text, content? (.text text) = some text) (texts : List Text) :
    (texts.map Value.text).mapM content? = some texts := by
  induction texts with
  | nil => rfl
  | cons first rest ih =>
      rw [List.map_cons, List.mapM_cons, found, ih]
      rfl

theorem sortKeys?_map_text (texts : List Text) :
    Value.sortKeys? (texts.map .text) = some ((texts.mergeSort Text.isAtMost).map .text) := by
  match texts with
  | [] => simp [Value.sortKeys?]
  | [single] => simp [Value.sortKeys?]
  | first :: second :: rest =>
      have several : ¬((first :: second :: rest).map Value.text).length ≤ 1 := by simp
      have noNumbers : ((first :: second :: rest).map Value.text).all Value.isNumber ≠ true := by
        simp [Value.isNumber]
      rw [Value.sortKeys?, if_neg several, if_neg noNumbers,
        mapM_map_text fun text => by rw [Value.text?]]

theorem Mapping.unknownKeys_pairs (mapping : Mapping) :
    unknownKeys mapping.pairs = .ok (mapping.unknown.mergeSort Text.isAtMost) := by
  have unknown := mapping.unknownOf_pairs
  have shown (text : Text) : Value.shown? (.text text) = some text := rfl
  rw [unknownOf] at unknown
  simp only [unknownKeys, unknown, sortKeys?_map_text, mapM_map_text shown]
  rfl

/-! Conversion. -/

section

variable {ε α β : Type} {result : Except ε α} {next : α → Except ε β}

theorem bind_eq_ok_iff {value : β} :
    result >>= next = .ok value ↔ ∃ first, result = .ok first ∧ next first = .ok value := by
  cases result <;> simp [bind, Except.bind]

theorem bind_eq_error_iff {error : ε} :
    result >>= next = .error error ↔
      result = .error error ∨ ∃ first, result = .ok first ∧ next first = .error error := by
  cases result <;> simp [bind, Except.bind]

end

theorem toLimit_of_present {value : Value} (present : value ≠ .null) :
    toLimit value = value.toInt.map some := by
  unfold toLimit
  split
  · contradiction
  · rfl

theorem toText_of_present {value : Value} (present : value ≠ .null) :
    value.toText = match value.shown? with
      | some content => .ok content
      | none => .error .notWritable := by
  unfold Value.toText
  split
  · contradiction
  · cases value.shown? <;> rfl

theorem toLimit_eq_ok_iff {value : Value} {limit : Option Int} :
    toLimit value = .ok limit ↔ DenotesLimit value limit := by
  constructor
  · intro converted
    by_cases absent : value = .null
    · subst absent
      cases converted
      exact .absent
    · rw [toLimit_of_present absent] at converted
      cases read : value.toInt with
      | error cause =>
          rw [read] at converted
          cases converted
      | ok number =>
          rw [read] at converted
          cases converted
          exact .present read
  · rintro (_ | read)
    · rfl
    · have present : value ≠ .null := by
        rintro rfl
        cases read
      rw [toLimit_of_present present, read]
      rfl

theorem of_toLimit_eq_error {value : Value} {cause : ConversionError}
    (failed : toLimit value = .error cause) : value ≠ .null ∧ value.toInt = .error cause := by
  have present : value ≠ .null := by
    rintro rfl
    cases failed
  rw [toLimit_of_present present] at failed
  cases read : value.toInt with
  | error other =>
      rw [read] at failed
      cases failed
      exact ⟨present, rfl⟩
  | ok number =>
      rw [read] at failed
      cases failed

theorem toText_eq_ok_iff {value : Value} {content : Text} :
    value.toText = .ok content ↔ DenotesMessage value content := by
  constructor
  · intro converted
    by_cases absent : value = .null
    · subst absent
      cases converted
      exact .absent
    · rw [toText_of_present absent] at converted
      cases shown : value.shown? with
      | none =>
          rw [shown] at converted
          cases converted
      | some text =>
          rw [shown] at converted
          cases converted
          exact .present absent shown
  · rintro (_ | ⟨present, shown⟩)
    · rfl
    · rw [toText_of_present present, shown]

theorem of_toText_eq_error {value : Value} {cause : ConversionError}
    (failed : value.toText = .error cause) :
    value ≠ .null ∧ value.shown? = none ∧ cause = .notWritable := by
  have present : value ≠ .null := by
    rintro rfl
    cases failed
  rw [toText_of_present present] at failed
  cases shown : value.shown? with
  | none =>
      rw [shown] at failed
      cases failed
      exact ⟨present, rfl, rfl⟩
  | some text =>
      rw [shown] at failed
      cases failed

section

variable {entries : List (Value × Value)}

theorem convert_eq_ok_iff {settings : Settings} :
    convert entries = .ok settings ↔
      (setting entries statusKey (.int 0xFE00)).toInt = .ok settings.status ∧
      (setting entries dataKey (.int 0xFE02)).toInt = .ok settings.data ∧
      toLimit (setting entries stepLimitKey .null) = .ok settings.stepLimit ∧
      (setting entries haltMessageKey (.text defaultHaltMessage)).toText =
        .ok settings.haltMessage := by
  simp only [convert, bind_eq_ok_iff]
  constructor
  · rintro ⟨_, status, _, data, _, stepLimit, _, haltMessage, ⟨⟩⟩
    exact ⟨status, data, stepLimit, haltMessage⟩
  · rintro ⟨status, data, stepLimit, haltMessage⟩
    exact ⟨_, status, _, data, _, stepLimit, _, haltMessage, rfl⟩

theorem of_convert_eq_error {cause : ConversionError} (failed : convert entries = .error cause) :
    (setting entries statusKey (.int 0xFE00)).toInt = .error cause ∨
    (setting entries dataKey (.int 0xFE02)).toInt = .error cause ∨
    toLimit (setting entries stepLimitKey .null) = .error cause ∨
    (setting entries haltMessageKey (.text defaultHaltMessage)).toText = .error cause := by
  simp only [convert, bind_eq_error_iff] at failed
  rcases failed with status | ⟨_, _, data | ⟨_, _, stepLimit | ⟨_, _, haltMessage | ⟨_, _, ⟨⟩⟩⟩⟩⟩
  · exact .inl status
  · exact .inr (.inl data)
  · exact .inr (.inr (.inl stepLimit))
  · exact .inr (.inr (.inr haltMessage))

end

section

variable {mapping : Mapping}

theorem convert_pairs_eq_ok_iff {settings : Settings} :
    convert mapping.pairs = .ok settings ↔ mapping.Converts settings := by
  rw [convert_eq_ok_iff, toLimit_eq_ok_iff, toText_eq_ok_iff]
  constructor
  · rintro ⟨status, data, stepLimit, haltMessage⟩
    exact ⟨⟨_, mapping.gives_setting _ _, status⟩, ⟨_, mapping.gives_setting _ _, data⟩,
      ⟨_, mapping.gives_setting _ _, stepLimit⟩, ⟨_, mapping.gives_setting _ _, haltMessage⟩⟩
  · rintro ⟨⟨_, givesStatus, status⟩, ⟨_, givesData, data⟩, ⟨_, givesLimit, stepLimit⟩,
      ⟨_, givesMessage, haltMessage⟩⟩
    rw [← mapping.setting_eq_iff] at givesStatus givesData givesLimit givesMessage
    subst givesStatus givesData givesLimit givesMessage
    exact ⟨status, data, stepLimit, haltMessage⟩

theorem failsBy_of_convert_eq_error {cause : ConversionError}
    (failed : convert mapping.pairs = .error cause) : mapping.FailsBy cause := by
  rcases of_convert_eq_error failed with status | data | stepLimit | haltMessage
  · exact .status (mapping.gives_setting _ _) status
  · exact .data (mapping.gives_setting _ _) data
  · obtain ⟨present, unread⟩ := of_toLimit_eq_error stepLimit
    exact .stepLimit (mapping.gives_setting _ _) present unread
  · obtain ⟨present, unshown, rfl⟩ := of_toText_eq_error haltMessage
    exact .haltMessage (mapping.gives_setting _ _) present unshown

end

/-! Checks. -/

def settings (config : Config) : Settings where
  status := config.status.toNat
  data := config.data.toNat
  stepLimit := config.stepLimit.map Int.ofNat
  haltMessage := config.haltMessage

theorem entries_settings (config : Config) : config.settings.entries = config.entries := by
  cases limit : config.stepLimit with
  | none => simp [settings, Settings.entries, entries, limit, statusKey, dataKey, stepLimitKey,
      haltMessageKey]
  | some count => simp [settings, Settings.entries, entries, limit, statusKey, dataKey,
      stepLimitKey, haltMessageKey]

theorem isAddress_iff {number : Int} : isAddress number = true ↔ 0 ≤ number ∧ number ≤ 0xFFFF := by
  simp [isAddress]

theorem of_checkAddress_eq_ok {key : String} {number : Int} {word : Word}
    (accepted : checkAddress key number = .ok word) :
    (0 ≤ number ∧ number ≤ 0xFFFF) ∧ (word.toNat : Int) = number := by
  rw [checkAddress] at accepted
  split at accepted
  · rename_i inside
    have bounds := isAddress_iff.mp inside
    cases accepted
    rw [toNat_wordOf]
    omega
  · cases accepted

theorem of_checkAddress_eq_error {key : String} {number : Int} {error : ConfigError}
    (rejected : checkAddress key number = .error error) :
    ¬(0 ≤ number ∧ number ≤ 0xFFFF) ∧ error = .outOfRange key number := by
  rw [checkAddress] at rejected
  split at rejected
  · cases rejected
  · rename_i outside
    cases rejected
    exact ⟨mt isAddress_iff.mpr outside, rfl⟩

theorem of_checkLimit_eq_ok {limit : Option Int}
    {checked : { limit : Option Nat // ∀ count ∈ limit, 0 < count }}
    (accepted : checkLimit limit = .ok checked) :
    (∀ count ∈ limit, 0 < count) ∧ checked.val.map Int.ofNat = limit := by
  cases limit with
  | none =>
      cases accepted
      simp
  | some count =>
      rw [checkLimit] at accepted
      split at accepted
      · rename_i positive
        cases accepted
        have same : Int.ofNat count.toNat = count := Int.toNat_of_nonneg (by omega)
        exact ⟨by simpa using positive, congrArg some same⟩
      · cases accepted

theorem of_checkLimit_eq_error {limit : Option Int} {error : ConfigError}
    (rejected : checkLimit limit = .error error) :
    error = .limitNotPositive ∧ ∃ count, limit = some count ∧ count ≤ 0 := by
  cases limit with
  | none => cases rejected
  | some count =>
      rw [checkLimit] at rejected
      split at rejected
      · cases rejected
      · cases rejected
        exact ⟨rfl, count, rfl, by omega⟩

section

variable {settings : Settings}

theorem of_check_eq_ok {config : Config} (accepted : check settings = .ok config) :
    settings.Valid ∧ config.settings = settings := by
  simp only [check, bind_eq_ok_iff] at accepted
  obtain ⟨status, statusChecked, data, dataChecked, rest⟩ := accepted
  obtain ⟨statusInside, statusSame⟩ := of_checkAddress_eq_ok statusChecked
  obtain ⟨dataInside, dataSame⟩ := of_checkAddress_eq_ok dataChecked
  split at rest
  · cases rest
  · rename_i apart
    obtain ⟨limit, limitChecked, ⟨⟩⟩ := bind_eq_ok_iff.mp rest
    obtain ⟨positive, limitSame⟩ := of_checkLimit_eq_ok limitChecked
    have distinct : settings.status ≠ settings.data := by
      intro equal
      refine apart (BitVec.eq_of_toNat_eq ?_)
      omega
    refine ⟨⟨statusInside, dataInside, distinct, positive⟩, ?_⟩
    simp only [Config.settings, statusSame, dataSame, limitSame]

theorem breaks_of_check_eq_error {error : ConfigError} (rejected : check settings = .error error) :
    settings.Breaks error := by
  simp only [check, bind_eq_error_iff] at rejected
  rcases rejected with statusFailed | ⟨status, statusChecked, rest⟩
  · obtain ⟨outside, rfl⟩ := of_checkAddress_eq_error statusFailed
    exact .status outside
  · rcases rest with dataFailed | ⟨data, dataChecked, rest⟩
    · obtain ⟨outside, rfl⟩ := of_checkAddress_eq_error dataFailed
      exact .data outside
    · obtain ⟨_, statusSame⟩ := of_checkAddress_eq_ok statusChecked
      obtain ⟨_, dataSame⟩ := of_checkAddress_eq_ok dataChecked
      split at rest
      · rename_i same
        cases rest
        exact .same (by rw [← statusSame, ← dataSame, same])
      · rcases bind_eq_error_iff.mp rest with limitFailed | ⟨_, _, ⟨⟩⟩
        obtain ⟨rfl, count, limited, notPositive⟩ := of_checkLimit_eq_error limitFailed
        exact .stepLimit limited notPositive

theorem Settings.Breaks.not_valid {error : ConfigError} (breaks : settings.Breaks error) :
    ¬settings.Valid := by
  intro valid
  cases breaks with
  | status outside => exact outside valid.status
  | data outside => exact outside valid.data
  | same equal => exact valid.distinct equal
  | stepLimit limited notPositive =>
      have positive := valid.stepLimit _ limited
      omega

end

/-! Loading. -/

theorem ofEntries_of_unknown {mapping : Mapping} (unknown : mapping.unknown ≠ []) :
    ∃ listed, listed.Perm mapping.unknown ∧
      listed.Pairwise (fun left right => Text.isAtMost left right = true) ∧
      ofEntries mapping.pairs = .error (.rejected (.unknownKeys listed)) := by
  have same := List.mergeSort_perm mapping.unknown Text.isAtMost
  refine ⟨_, same, List.pairwise_mergeSort Text.isAtMost_trans Text.isAtMost_total _, ?_⟩
  have listed : mapping.unknown.mergeSort Text.isAtMost ≠ [] :=
    fun none => unknown (List.nil_perm.mp (none ▸ same))
  simp only [ofEntries, mapping.unknownKeys_pairs, bind, Except.bind, if_pos listed]
  rfl

theorem ofEntries_of_known {mapping : Mapping} (known : mapping.unknown = []) :
    ofEntries mapping.pairs =
      match convert mapping.pairs with
      | .error cause => .error (.rejected (.badType cause))
      | .ok settings => (check settings).mapError .rejected := by
  have none : mapping.unknown.mergeSort Text.isAtMost = [] := by
    simp [known]
  simp only [ofEntries, mapping.unknownKeys_pairs, none]
  cases convert mapping.pairs with
  | error cause => rfl
  | ok settings =>
      cases checked : check settings <;> simp only [checked] <;> rfl

theorem ofEntries_eq_of_perm {left right : Mapping} (same : left.entries.Perm right.entries) :
    ofEntries left.pairs = ofEntries right.pairs := by
  have names : left.unknown.Perm right.unknown := (same.map Prod.fst).filter _
  simp only [ofEntries, Mapping.unknownKeys_pairs, Text.mergeSort_eq_of_perm names,
    Mapping.convert_eq_of_perm same]

theorem Mapping.Converts.unique {mapping : Mapping} {left right : Settings}
    (first : mapping.Converts left) (second : mapping.Converts right) : left = right := by
  rw [← convert_pairs_eq_ok_iff] at first second
  exact Except.ok.inj (first.symm.trans second)

theorem ofEntries_of_unconverted {mapping : Mapping} (known : mapping.unknown = [])
    (unconverted : ∀ settings, ¬mapping.Converts settings) :
    ∃ cause, mapping.FailsBy cause ∧
      ofEntries mapping.pairs = .error (.rejected (.badType cause)) := by
  rw [ofEntries_of_known known]
  cases converted : convert mapping.pairs with
  | error cause => exact ⟨cause, failsBy_of_convert_eq_error converted, rfl⟩
  | ok settings => exact absurd (convert_pairs_eq_ok_iff.mp converted) (unconverted settings)

section

variable {mapping : Mapping} {settings : Settings} (known : mapping.unknown = [])
  (converts : mapping.Converts settings)

include known converts

theorem ofEntries_of_invalid (invalid : ¬settings.Valid) :
    ∃ error, settings.Breaks error ∧ ofEntries mapping.pairs = .error (.rejected error) := by
  rw [ofEntries_of_known known, convert_pairs_eq_ok_iff.mpr converts]
  cases checked : check settings with
  | error error => exact ⟨error, breaks_of_check_eq_error checked, by simp only [checked]; rfl⟩
  | ok config => exact absurd (of_check_eq_ok checked).1 invalid

theorem ofEntries_of_valid (valid : settings.Valid) :
    ∃ config, ofEntries mapping.pairs = .ok config ∧ config.entries = settings.entries := by
  rw [ofEntries_of_known known, convert_pairs_eq_ok_iff.mpr converts]
  cases checked : check settings with
  | error error => exact absurd valid (breaks_of_check_eq_error checked).not_valid
  | ok config =>
      refine ⟨config, by simp only [checked]; rfl, ?_⟩
      rw [← entries_settings, (of_check_eq_ok checked).2]

end

/-- A mapping that is accepted holds known keys only, under which there are valid settings. -/
theorem of_ofEntries_eq_ok {mapping : Mapping} {config : Config}
    (accepted : ofEntries mapping.pairs = .ok config) :
    mapping.unknown = [] ∧
      ∃ settings, mapping.Converts settings ∧ settings.Valid ∧
        config.entries = settings.entries := by
  by_cases known : mapping.unknown = []
  · by_cases converted : ∃ settings, mapping.Converts settings
    · obtain ⟨settings, converts⟩ := converted
      by_cases valid : settings.Valid
      · obtain ⟨other, loaded, written⟩ := ofEntries_of_valid known converts valid
        cases accepted.symm.trans loaded
        exact ⟨known, settings, converts, valid, written⟩
      · obtain ⟨error, _, rejected⟩ := ofEntries_of_invalid known converts valid
        cases accepted.symm.trans rejected
    · obtain ⟨cause, _, rejected⟩ := ofEntries_of_unconverted known (not_exists.mp converted)
      cases accepted.symm.trans rejected
  · obtain ⟨listed, _, _, rejected⟩ := ofEntries_of_unknown known
    cases accepted.symm.trans rejected

end Config

/-- A mapping with texts for keys is accepted just if all its keys are known and its values convert
to valid settings, which are then the configuration. Otherwise there is a complaint: about all
unknown keys in order if there are any, else about a value that does not convert, else about the
settings. Another order of the entries changes nothing. -/
theorem mapping_accepted_iff_valid (files : Files) (mapping : Config.Mapping) :
    let load := Config.load files mapping.toValue
    ((∃ config, load = .ok config) ↔
      mapping.unknown = [] ∧ ∃ settings, mapping.Converts settings ∧ settings.Valid) ∧
    (∀ config, load = .ok config →
      ∃ settings, mapping.Converts settings ∧ settings.Valid ∧
        config.entries = settings.entries) ∧
    (mapping.unknown ≠ [] →
      ∃ listed, listed.Perm mapping.unknown ∧
        listed.Pairwise (fun left right => Text.isAtMost left right = true) ∧
        load = .error (.rejected (.unknownKeys listed))) ∧
    (mapping.unknown = [] → (∀ settings, ¬mapping.Converts settings) →
      ∃ cause, mapping.FailsBy cause ∧ load = .error (.rejected (.badType cause))) ∧
    (∀ settings, mapping.unknown = [] → mapping.Converts settings → ¬settings.Valid →
      ∃ error, settings.Breaks error ∧ load = .error (.rejected error)) ∧
    ∀ other : Config.Mapping, other.entries.Perm mapping.entries →
      Config.load files other.toValue = load := by
  intro load
  refine ⟨⟨?_, ?_⟩, ?_, Config.ofEntries_of_unknown, Config.ofEntries_of_unconverted, ?_, ?_⟩
  · rintro ⟨config, accepted⟩
    obtain ⟨known, settings, converts, valid, _⟩ := Config.of_ofEntries_eq_ok accepted
    exact ⟨known, settings, converts, valid⟩
  · rintro ⟨known, settings, converts, valid⟩
    obtain ⟨config, accepted, _⟩ := Config.ofEntries_of_valid known converts valid
    exact ⟨config, accepted⟩
  · intro config accepted
    exact (Config.of_ofEntries_eq_ok accepted).2
  · intro settings known converts invalid
    exact Config.ofEntries_of_invalid known converts invalid
  · intro other same
    exact Config.ofEntries_eq_of_perm same

/-- A numeral and a fraction, in both orders. -/
theorem reordered_mappings_load_alike :
    let limit := (Text.ofString "step_limit", Value.text (Text.ofString "0x32"))
    let status := (Text.ofString "kbsr", Value.float (.finite false 513 (-1)))
    let mapping : Config.Mapping := ⟨[limit, status], by simp [limit, status, Text.ofString_inj]⟩
    let reordered : Config.Mapping := ⟨[status, limit], by simp [limit, status, Text.ofString_inj]⟩
    reordered.entries.Perm mapping.entries ∧
    ∃ config, Config.load ⟨[]⟩ mapping.toValue = .ok config ∧
      Config.load ⟨[]⟩ reordered.toValue = .ok config ∧
      config.status = 256 ∧ config.data = 0xFE02 ∧ config.stepLimit = some 50 := by
  intro limit status mapping reordered
  have same : reordered.entries.Perm mapping.entries := .swap limit status []
  have loaded : Config.load ⟨[]⟩ mapping.toValue =
      .ok ⟨256, 0xFE02, some 50, defaultHaltMessage, by decide, by simp⟩ := by
    rfl
  obtain ⟨_, _, _, _, _, reorders⟩ := mapping_accepted_iff_valid ⟨[]⟩ mapping
  exact ⟨same, _, loaded, (reorders reordered same).trans loaded, rfl, rfl, rfl⟩

end Lc3
