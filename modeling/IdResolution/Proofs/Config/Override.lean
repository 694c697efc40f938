import IdResolution.Proofs.Config.Number
import IdResolution.Proofs.Key.SourceId

/-!
# What an environment makes of a configuration

Every field follows its variable when that is set and not blank, and stays as it is otherwise.
The overrides are refused when one of the two variables that hold a number writes none of 64
bits, the size of chunks before the time limit, and for no other reason.  A configuration from
an environment is accepted when its numbers are positive and it has a property left, and then
nothing in it is blank.
-/

namespace IdResolution

/-! ## Parts between separators -/

namespace Text

/-- To cut a text at one character is to split it there. -/
theorem splitAt_eq_splitOn (cut : Char) (text : List Char) :
    splitAt (· = cut) text = text.splitOn cut := by
  induction text with
  | nil => rfl
  | cons c rest ih =>
      rw [List.splitOn_cons_eq_if_modifyHead, splitAt, ih]
      obtain ⟨part, parts, split⟩ := List.exists_cons_of_ne_nil (List.splitOn_ne_nil cut rest)
      by_cases same : c = cut <;> simp [same, split]

/-- The parts between separators have none of their own. -/
theorem not_mem_of_mem_splitOn {cut : Char} {text part : List Char}
    (listed : part ∈ text.splitOn cut) : cut ∉ part := by
  induction text generalizing part with
  | nil =>
      obtain rfl := List.mem_singleton.mp listed
      exact List.not_mem_nil
  | cons c rest ih =>
      rw [List.splitOn_cons_eq_if_modifyHead] at listed
      split at listed
      next =>
        rcases List.mem_cons.mp listed with rfl | behind
        · exact List.not_mem_nil
        · exact ih behind
      next apart =>
        obtain ⟨first, others, split⟩ := List.exists_cons_of_ne_nil (List.splitOn_ne_nil cut rest)
        rw [split, List.modifyHead_cons] at listed
        rcases List.mem_cons.mp listed with rfl | behind
        · have clear := ih (split ▸ List.mem_cons_self)
          rw [List.mem_cons, not_or]
          exact ⟨fun same => apart (beq_iff_eq.mpr same.symm), clear⟩
        · exact ih (split ▸ List.mem_cons_of_mem first behind)

theorem trim_eq_empty_iff {text : String} : trim text = "" ↔ trimBlanks text.toList = [] := by
  rw [← String.toList_inj, toList_trim]
  rfl

end Text

namespace Config

/-! ## Lists of properties -/

/-- A text lists properties: they are the parts between its commas, trimmed, without those
that are blank. -/
inductive Lists (text : String) : List String → Prop where
  | parts {parts : List String} (joined : ",".intercalate parts = text) (nonempty : parts ≠ [])
      (uncut : ∀ part ∈ parts, ',' ∉ part.toList) :
      Lists text ((parts.map Text.trim).filter (· ≠ ""))

theorem readList_eq {text : String} {parts : List String}
    (split : Text.splitAt (· = ',') text.toList = parts.map String.toList) :
    readList text = (parts.map Text.trim).filter (· ≠ "") := by
  rw [readList, split]
  clear split
  induction parts with
  | nil => rfl
  | cons part rest ih =>
      by_cases blank : Text.trimBlanks part.toList = []
      · have empty := Text.trim_eq_empty_iff.mpr blank
        simpa [blank, empty] using ih
      · have visible := mt Text.trim_eq_empty_iff.mp blank
        simpa [blank, visible, Text.trim] using ih

/-- A text lists what is read from it and nothing else. -/
theorem lists_iff {text : String} {properties : List String} :
    Lists text properties ↔ readList text = properties := by
  constructor
  · rintro ⟨joined, nonempty, uncut⟩
    apply readList_eq
    rw [Text.splitAt_eq_splitOn, ← joined, String.toList_intercalate]
    apply List.splitOn_intercalate
    · simpa using uncut
    · simpa using nonempty
  · rintro rfl
    let parts := (text.toList.splitOn ',').map String.ofList
    have split : text.toList.splitOn ',' = parts.map String.toList := by
      simp [parts, Function.comp_def]
    rw [readList_eq ((Text.splitAt_eq_splitOn _ _).trans split)]
    apply Lists.parts
    · rw [← String.toList_inj, String.toList_intercalate, ← split]
      exact List.intercalate_splitOn ','
    · simp [parts, List.splitOn_ne_nil]
    · rw [List.forall_mem_map]
      intro part listed
      rw [String.toList_ofList]
      exact Text.not_mem_of_mem_splitOn listed

/-- A property that can stand in a list: it is trimmed, not empty, and has no comma. -/
structure Listable (property : String) : Prop where
  nonempty : property ≠ ""
  trimmed : Text.trim property = property
  commaless : ',' ∉ property.toList

theorem Lists.listable {text : String} {properties : List String}
    (lists : Lists text properties) : ∀ property ∈ properties, Listable property := by
  obtain ⟨-, -, uncut⟩ := lists
  intro property kept
  rw [List.mem_filter, List.mem_map] at kept
  obtain ⟨⟨part, listed, rfl⟩, visible⟩ := kept
  refine ⟨by simpa using visible, Text.trim_trim part, ?_⟩
  rw [Text.toList_trim]
  intro comma
  exact uncut part listed (Text.trimBlanks_subset _ comma)

/-! ## Fields -/

section Fields

variable {lookup : String → Option String} {name : String}

/-- An environment gives a text for a variable: what trimming leaves of its value, which is
not nothing. -/
def Gives (lookup : String → Option String) (name text : String) : Prop :=
  ∃ value, lookup name = some value ∧ Text.trim value = text ∧ text ≠ ""

theorem setting?_eq_some_iff {text : String} :
    setting? lookup name = some text ↔ Gives lookup name text := by
  unfold setting? Gives
  cases lookup name with
  | none => simp
  | some value =>
      simp only [Option.some.injEq, exists_eq_left']
      split
      next blank =>
        rw [blank]
        simp
      next visible =>
        rw [Option.some.injEq]
        constructor
        · rintro rfl
          exact ⟨rfl, visible⟩
        · exact And.left

theorem setting?_eq_none_iff :
    setting? lookup name = none ↔ ∀ text, ¬Gives lookup name text := by
  simp only [← setting?_eq_some_iff, Option.eq_none_iff_forall_ne_some, ne_eq]

variable {α : Type} {meaning : String → α → Prop} {current result : α}

/-- A field follows a variable: it takes what the text of the variable means, and stays as it
is if there is none. -/
inductive Follows (lookup : String → Option String) (name : String)
    (meaning : String → α → Prop) (current result : α) : Prop where
  | replaced {text : String} (given : Gives lookup name text) (means : meaning text result)
  | kept (absent : ∀ text, ¬Gives lookup name text) (same : result = current)

theorem follows_iff :
    Follows lookup name meaning current result ↔
      match setting? lookup name with
      | some text => meaning text result
      | none => result = current := by
  cases given : setting? lookup name with
  | some text =>
      have gives := setting?_eq_some_iff.mp given
      constructor
      · rintro (⟨found, means⟩ | ⟨absent, -⟩)
        · rw [← setting?_eq_some_iff, given] at found
          obtain rfl := Option.some.inj found
          exact means
        · exact absurd gives (absent text)
      · exact .replaced gives
  | none =>
      have absent := setting?_eq_none_iff.mp given
      constructor
      · rintro (⟨found, -⟩ | ⟨-, same⟩)
        · exact absurd found (absent _)
        · exact same
      · exact .kept absent

/-- A field whose value is computed from the text of its variable. -/
theorem follows_map_iff (value : String → α) :
    Follows lookup name (fun text found => value text = found) current result ↔
      ((setting? lookup name).map value).getD current = result := by
  rw [follows_iff]
  cases setting? lookup name with
  | some text => rfl
  | none => exact eq_comm

/-! ## Numbers -/

/-- A text means a number of 64 bits. -/
def MeansNumber (text : String) (number : Nat) : Prop :=
  WritesNumber text.toList number ∧ number < 2 ^ 64

/-- A variable does not mean a number, and this is the error that says so of its field. -/
inductive Misfit (lookup : String → Option String) (name field : String) : ConfigError → Prop where
  | invalid {text : String} {fault : NumberFault} (given : Gives lookup name text)
      (faulty : Faulty text.toList fault) :
      Misfit lookup name field (.invalidField field s!"'{text}': {fault.message}")

variable {field : String} {number overridden : Nat}

theorem overrideNumber_eq_ok_iff :
    overrideNumber lookup name field number = .ok overridden ↔
      Follows lookup name MeansNumber number overridden := by
  rw [follows_iff, overrideNumber]
  cases setting? lookup name with
  | some text =>
      simp only [MeansNumber, ← readNumber_eq_ok_iff, readField]
      cases readNumber text.toList <;> simp
  | none => simp [eq_comm]

/-- A number can be overridden when its variable means one, if it is given. -/
theorem exists_overrideNumber_iff :
    (∃ overridden, overrideNumber lookup name field number = .ok overridden) ↔
      ∀ text, Gives lookup name text → ∃ found, MeansNumber text found := by
  simp only [overrideNumber_eq_ok_iff, follows_iff, ← setting?_eq_some_iff]
  cases setting? lookup name <;> simp

theorem overrideNumber_eq_error_iff {error : ConfigError} :
    overrideNumber lookup name field number = .error error ↔ Misfit lookup name field error := by
  rw [overrideNumber]
  constructor
  · intro refused
    cases given : setting? lookup name with
    | some text =>
        rw [given] at refused
        cases read : readNumber text.toList with
        | ok found => simp [readField, read] at refused
        | error fault =>
            simp only [readField, read, Except.error.injEq] at refused
            subst refused
            exact .invalid (setting?_eq_some_iff.mp given) (readNumber_eq_error_iff.mp read)
    | none =>
        rw [given] at refused
        contradiction
  · rintro ⟨given, faulty⟩
    simp only [setting?_eq_some_iff.mpr given, readField, readNumber_eq_error_iff.mpr faulty]

end Fields

/-! ## Configurations -/

variable {lookup : String → Option String} {config result : Config}

/-- A configuration with the overrides of an environment: each field follows its variable.
A time limit that is given counts whole milliseconds, so nothing is left beside them. -/
structure Overridden (lookup : String → Option String) (config result : Config) : Prop where
  endpoint : Follows lookup "RECON_ENDPOINT" (fun text endpoint => text = endpoint)
    config.endpoint result.endpoint
  apiKey : Follows lookup "RECON_API_KEY" (fun text apiKey => some text = apiKey)
    config.apiKey result.apiKey
  chunkSize : Follows lookup "RECON_CHUNK_SIZE" MeansNumber config.chunkSize result.chunkSize
  timeoutMs : Follows lookup "RECON_TIMEOUT_MS" MeansNumber config.timeoutMs result.timeoutMs
  timeoutNanos : Follows lookup "RECON_TIMEOUT_MS" (fun _ nanos => 0 = nanos)
    config.timeoutNanos result.timeoutNanos
  idProperties : Follows lookup "RECON_ID_PROPERTIES" Lists
    config.idProperties result.idProperties

/-- Overrides are refused for a number that is none: the size of chunks is looked at first,
and the time limit if there is nothing to say against that. -/
inductive Refused (lookup : String → Option String) : ConfigError → Prop where
  | chunkSize {error : ConfigError} (misfit : Misfit lookup "RECON_CHUNK_SIZE" "chunk_size" error) :
      Refused lookup error
  | timeout {error : ConfigError}
      (fits : ∀ text, Gives lookup "RECON_CHUNK_SIZE" text → ∃ number, MeansNumber text number)
      (misfit : Misfit lookup "RECON_TIMEOUT_MS" "timeout" error) : Refused lookup error

/-- The fields of an overridden configuration, one by one. -/
theorem overridden_iff :
    Overridden lookup config result ↔
      overrideNumber lookup "RECON_CHUNK_SIZE" "chunk_size" config.chunkSize =
          .ok result.chunkSize ∧
        overrideNumber lookup "RECON_TIMEOUT_MS" "timeout" config.timeoutMs =
          .ok result.timeoutMs ∧
        ((setting? lookup "RECON_TIMEOUT_MS").map fun _ => 0).getD config.timeoutNanos =
          result.timeoutNanos ∧
        (setting? lookup "RECON_ENDPOINT").getD config.endpoint = result.endpoint ∧
        (setting? lookup "RECON_API_KEY" <|> config.apiKey) = result.apiKey ∧
        ((setting? lookup "RECON_ID_PROPERTIES").map readList).getD config.idProperties =
          result.idProperties := by
  have endpoint : Follows lookup "RECON_ENDPOINT" (fun text endpoint => text = endpoint)
      config.endpoint result.endpoint ↔
        (setting? lookup "RECON_ENDPOINT").getD config.endpoint = result.endpoint := by
    simpa using follows_map_iff (id : String → String)
  have apiKey : Follows lookup "RECON_API_KEY" (fun text apiKey => some text = apiKey)
      config.apiKey result.apiKey ↔
        (setting? lookup "RECON_API_KEY" <|> config.apiKey) = result.apiKey := by
    rw [follows_map_iff some]
    cases setting? lookup "RECON_API_KEY" <;> rfl
  have idProperties : Follows lookup "RECON_ID_PROPERTIES" Lists
      config.idProperties result.idProperties ↔
        ((setting? lookup "RECON_ID_PROPERTIES").map readList).getD config.idProperties =
          result.idProperties := by
    rw [← follows_map_iff readList]
    simp only [follows_iff, lists_iff]
  rw [overrideNumber_eq_ok_iff, overrideNumber_eq_ok_iff, ← follows_map_iff, ← endpoint, ← apiKey,
    ← idProperties]
  constructor
  · intro ⟨endpoint, apiKey, chunkSize, timeoutMs, timeoutNanos, idProperties⟩
    exact ⟨chunkSize, timeoutMs, timeoutNanos, endpoint, apiKey, idProperties⟩
  · intro ⟨chunkSize, timeoutMs, timeoutNanos, endpoint, apiKey, idProperties⟩
    exact ⟨endpoint, apiKey, chunkSize, timeoutMs, timeoutNanos, idProperties⟩

theorem override_eq_ok_iff :
    config.override lookup = .ok result ↔ Overridden lookup config result := by
  rw [overridden_iff, override]
  cases overrideNumber lookup "RECON_CHUNK_SIZE" "chunk_size" config.chunkSize with
  | error fault => simp [bind, Except.bind]
  | ok chunkSize =>
      cases overrideNumber lookup "RECON_TIMEOUT_MS" "timeout" config.timeoutMs with
      | error fault => simp [bind, Except.bind]
      | ok timeoutMs =>
          cases result
          simp only [bind, Except.bind, pure, Except.pure, Except.ok.injEq, mk.injEq]
          tauto

theorem override_eq_error_iff {error : ConfigError} :
    config.override lookup = .error error ↔ Refused lookup error := by
  have refused : Refused lookup error ↔
      overrideNumber lookup "RECON_CHUNK_SIZE" "chunk_size" config.chunkSize = .error error ∨
        (∃ chunkSize, overrideNumber lookup "RECON_CHUNK_SIZE" "chunk_size" config.chunkSize =
          .ok chunkSize) ∧
        overrideNumber lookup "RECON_TIMEOUT_MS" "timeout" config.timeoutMs = .error error := by
    rw [overrideNumber_eq_error_iff, overrideNumber_eq_error_iff, exists_overrideNumber_iff]
    constructor
    · rintro (misfit | ⟨fits, misfit⟩)
      · exact .inl misfit
      · exact .inr ⟨fits, misfit⟩
    · rintro (misfit | ⟨fits, misfit⟩)
      · exact .chunkSize misfit
      · exact .timeout fits misfit
  rw [refused, override]
  cases overrideNumber lookup "RECON_CHUNK_SIZE" "chunk_size" config.chunkSize with
  | error fault => simp [bind, Except.bind]
  | ok chunkSize =>
      cases overrideNumber lookup "RECON_TIMEOUT_MS" "timeout" config.timeoutMs with
      | error fault => simp [bind, Except.bind]
      | ok timeoutMs => simp [bind, Except.bind, pure, Except.pure]

/-- A configuration is accepted as it is or not at all. -/
theorem validate_eq_ok_iff :
    config.validate = .ok result ↔ result = config ∧ config.fault? = none := by
  unfold validate
  cases config.fault? <;> simp [eq_comm]

theorem noNanos_eq_zero : noNanos = 0 := rfl

theorem fault?_eq_none_iff :
    config.fault? = none ↔ 0 < config.chunkSize ∧ Text.trim config.endpoint ≠ "" ∧
      (0 < config.timeoutMs ∨ 0 < config.timeoutNanos) ∧ config.idProperties ≠ [] := by
  unfold fault?
  split_ifs <;> simp_all [noNanos_eq_zero, Nat.pos_iff_ne_zero, Fin.pos_iff_ne_zero, ← not_and_or]

/-- An endpoint that is not blank does not become so by overrides. -/
theorem Overridden.trim_endpoint_ne (overridden : Overridden lookup config result)
    (visible : Text.trim config.endpoint ≠ "") : Text.trim result.endpoint ≠ "" := by
  cases overridden.endpoint with
  | replaced given means =>
      obtain ⟨value, -, trimmed, nonempty⟩ := given
      rw [← means, ← trimmed, Text.trim_trim, trimmed]
      exact nonempty
  | kept absent same =>
      rw [same]
      exact visible

/-- A time limit in whole milliseconds does not become finer by overrides. -/
theorem Overridden.timeoutNanos_eq_zero (overridden : Overridden lookup config result)
    (whole : config.timeoutNanos = 0) : result.timeoutNanos = 0 := by
  cases overridden.timeoutNanos with
  | replaced given means => exact means.symm
  | kept absent same => rw [same, whole]

/-- Properties that can stand in a list are replaced by such properties. -/
theorem Overridden.listable (overridden : Overridden lookup config result)
    (listable : ∀ property ∈ config.idProperties, Listable property) :
    ∀ property ∈ result.idProperties, Listable property := by
  cases overridden.idProperties with
  | replaced given lists => exact lists.listable
  | kept absent same =>
      rw [same]
      exact listable

/-- The properties of the default configuration can stand in a list. -/
theorem listable_default : ∀ property ∈ ({} : Config).idProperties, Listable property := by
  have checked : ∀ property ∈ ({} : Config).idProperties,
      property ≠ "" ∧ Text.trim property = property ∧ ',' ∉ property.toList := by decide
  intro property listed
  obtain ⟨nonempty, trimmed, commaless⟩ := checked property listed
  exact ⟨nonempty, trimmed, commaless⟩

theorem ofEnvironment_eq_ok_iff :
    ofEnvironment lookup = .ok result ↔ Overridden lookup {} result ∧ result.fault? = none := by
  rw [← override_eq_ok_iff, ofEnvironment]
  cases overridden : ({} : Config).override lookup with
  | error fault => simp [bind, Except.bind]
  | ok config =>
      simp only [bind, Except.bind, validate_eq_ok_iff, Except.ok.injEq]
      constructor
      · rintro ⟨rfl, faultless⟩
        exact ⟨rfl, faultless⟩
      · rintro ⟨rfl, faultless⟩
        exact ⟨rfl, faultless⟩

/-- Overrides replace the fields whose variables are given, by what the variables mean, and no
others.  They are refused exactly when a variable for a number means none, with an error that
names the first such field and what is wrong with it.  An environment gives a configuration
exactly when its overrides of the default one do and leave positive numbers and a property;
that configuration is valid as it is, and all its properties can stand in a list. -/
theorem environment_overrides_given_fields (config : Config)
    (lookup : String → Option String) :
    (∀ result, config.override lookup = .ok result ↔ Overridden lookup config result) ∧
    (∀ error, config.override lookup = .error error ↔ Refused lookup error) ∧
    (∀ result, ofEnvironment lookup = .ok result ↔ ({} : Config).override lookup = .ok result ∧
      0 < result.chunkSize ∧ 0 < result.timeoutMs ∧ result.idProperties ≠ []) ∧
    ∀ result, ofEnvironment lookup = .ok result →
      result.validate = .ok result ∧ ∀ property ∈ result.idProperties, Listable property := by
  refine ⟨fun result => override_eq_ok_iff, fun error => override_eq_error_iff, ?_, ?_⟩
  · intro result
    rw [ofEnvironment_eq_ok_iff, override_eq_ok_iff, fault?_eq_none_iff]
    constructor
    · rintro ⟨overridden, chunkSize, -, timeout, idProperties⟩
      rw [overridden.timeoutNanos_eq_zero rfl, lt_self_iff_false, or_false] at timeout
      exact ⟨overridden, chunkSize, timeout, idProperties⟩
    · intro ⟨overridden, chunkSize, timeoutMs, idProperties⟩
      have visible := overridden.trim_endpoint_ne (by decide)
      exact ⟨overridden, chunkSize, visible, .inl timeoutMs, idProperties⟩
  · intro result accepted
    obtain ⟨overridden, faultless⟩ := ofEnvironment_eq_ok_iff.mp accepted
    exact ⟨validate_eq_ok_iff.mpr ⟨rfl, faultless⟩, overridden.listable listable_default⟩

example : (ofEnvironment fun name => if name = "RECON_CHUNK_SIZE" then some " +25 " else none) =
    .ok { chunkSize := 25 } := by
  rfl

example : (ofEnvironment fun name => if name = "RECON_ID_PROPERTIES" then some " , ," else none) =
    .error .noIdProperties := by
  rfl

end Config

end IdResolution
