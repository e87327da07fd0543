import Mathlib.Algebra.Order.Field.Rat
import Mathlib.Data.List.Forall2
import Mathlib.Tactic.FieldSimp
import Mathlib.Tactic.NormNum
import Mathlib.Tactic.Positivity
import SourceLocator.Proofs.DeclarationGrammar
import SourceLocator.Proofs.Ends
import SourceLocator.Proofs.NameLanguage

/-!
# The fields of a configuration

A configuration is had from given values exactly when each of its fields accepts its own
value (`Config.ofFields_iff_accepts`).  Otherwise every field that does not is complained of
once, in the order of the fields, as if it had been given alone.  A configuration that was
had can be used and had again: its patterns can be read, and its fields are accepted as they
are kept.
-/

namespace SourceLocator

open Text

/-! ### Values of fields -/

namespace FieldValue

/-- A value stands for a truth value. -/
def Means : FieldValue → Bool → Prop
  | .truth b, meant => b = meant
  | .whole n, meant => n = if meant then 1 else 0
  | .fraction mantissa exponent, meant =>
    (mantissa : ℚ) * 10 ^ exponent = if meant then 1 else 0
  | .text s, meant => truthWords.lookup s.toLower = some meant
  | _, _ => False

variable {v : FieldValue} {b : Bool}

theorem powerOfTen_eq_iff (mantissa exponent : Int) :
  mantissa * powerOfTen exponent.toNat = powerOfTen (-exponent).toNat ↔
    (mantissa : ℚ) * 10 ^ exponent = 1
  := by
  obtain ⟨n, rfl | rfl⟩ := exponent.eq_nat_or_neg
  · simp only [powerOfTen, Int.toNat_natCast, Int.toNat_neg_natCast, zpow_natCast]
    norm_cast
  · simp only [powerOfTen, Int.toNat_natCast, Int.toNat_neg_natCast, neg_neg, zpow_neg,
      zpow_natCast]
    rw [mul_inv_eq_one₀ (by positivity)]
    norm_cast
    simp

theorem asTruth_eq_ok_iff :
  v.asTruth = .ok b ↔ v.Means b
  := by
  cases v with
  | truth b' => simp [asTruth, Means]
  | whole n =>
    rw [asTruth, Means]
    split
    case isTrue hn => cases b <;> simp [hn]
    case isFalse hn =>
      split
      case isTrue hn' => cases b <;> simp [hn']
      case isFalse hn' =>
        split <;> cases b <;> simp [hn, hn']
  | fraction mantissa exponent =>
    have hpower : (10 : ℚ) ^ exponent ≠ 0 := zpow_ne_zero _ (by norm_num)
    rw [asTruth, Means]
    split
    case isTrue hm => cases b <;> simp [hm]
    case isFalse hm =>
      split
      case isTrue hone =>
        rw [powerOfTen_eq_iff] at hone
        cases b <;> simp [hone]
      case isFalse hone =>
        rw [powerOfTen_eq_iff] at hone
        cases b <;> simp [hone, hm, hpower]
  | text s =>
    rw [asTruth, Means]
    split <;> rename_i hword <;> simp [hword]
  | null | list | record => simp [asTruth, Means]

end FieldValue

/-- The fields of a configuration. -/
inductive ConfigField where
  | extension
  | resourceName
  | keyword
  | exact
  | links
deriving DecidableEq

namespace ConfigField

/-- The fields in their order. -/
def all : List ConfigField :=
  [.extension, .resourceName, .keyword, .exact, .links]

/-- The name of a field. -/
def name : ConfigField → String
  | .extension => "extension"
  | .resourceName => "resource_name_pattern"
  | .keyword => "declaration_keyword"
  | .exact => "exact_package"
  | .links => "follow_symlinks"

/-- The value of a field to which none is given. -/
def default : ConfigField → FieldValue
  | .extension => .text Config.default.extension
  | .resourceName => .text Config.default.resourceName.written
  | .keyword => .text Config.default.keyword
  | .exact => .truth Config.default.isExact
  | .links => .truth Config.default.followLinks

/-- The value of a field among given values. -/
def value (f : ConfigField) (fields : Fields) : FieldValue :=
  (fields.lookup f.name).getD f.default

/-- A field accepts a value. -/
def Accepts : ConfigField → FieldValue → Prop
  | .extension, v => ∃ s, v = .text s ∧ s.toList.head? = some '.' ∧ 2 ≤ s.toList.length
  | .resourceName, v => ∃ s p, v = .text s ∧ NamePattern.ofString s = .ok p
  | .keyword, v => ∃ s, v = .text s ∧ ∃ c ∈ s.toList, ¬ isBlank c
  | .exact, v | .links, v => ∃ b, v.Means b

/-- A configuration has what a value gives for a field. -/
def Gives : ConfigField → FieldValue → Config → Prop
  | .extension, v, config => v = .text config.extension
  | .resourceName, v, config =>
    v = .text config.resourceName.written ∧
      NamePattern.ofString config.resourceName.written = .ok config.resourceName
  | .keyword, v, config =>
    ∃ s, v = .text s ∧ config.keyword.toList = trimmed isBlank s.toList
  | .exact, v, config => v.Means config.isExact
  | .links, v, config => v.Means config.followLinks

end ConfigField

namespace Config

variable {fields : Fields} {config : Config} {v : FieldValue} {f : ConfigField}

/-! ### Reading a field -/

theorem readExtension_eq_ok_iff {s : String} :
  readExtension (some v) = .ok s ↔
    v = .text s ∧ s.toList.head? = some '.' ∧ 2 ≤ s.toList.length
  := by
  cases v with
  | text s' =>
    simp only [readExtension, FieldValue.asText, Except.bind, FieldValue.text.injEq]
    split
    case h_1 c rest hchars =>
      simp only [Except.ok.injEq]
      constructor
      · rintro rfl
        simp [hchars]
      · rintro ⟨rfl, -⟩
        rfl
    case h_2 hchars =>
      simp only [reduceCtorEq, false_iff]
      rintro ⟨rfl, hhead, hlength⟩
      obtain ⟨rest, hrest⟩ := List.head?_eq_some_iff.mp hhead
      cases rest with
      | nil => simp [hrest] at hlength
      | cons c rest => exact hchars c rest hrest
  | _ => simp [readExtension, FieldValue.asText, Except.bind]

theorem readPattern_eq_ok_iff {p : NamePattern} :
  readPattern (some v) = .ok p ↔
    v = .text p.written ∧ NamePattern.ofString p.written = .ok p
  := by
  constructor
  · intro h
    refine ⟨?_, ofString_of_readPattern h⟩
    cases v with
    | text s =>
      cases hs : NamePattern.ofString s with
      | error e => simp [readPattern, FieldValue.asText, hs, Except.mapError] at h
      | ok q =>
        obtain rfl : q = p := by
          simpa [readPattern, FieldValue.asText, hs, Except.mapError] using h
        rw [NamePattern.written_of_ofString hs]
    | _ => simp [readPattern, FieldValue.asText] at h
  · rintro ⟨rfl, h⟩
    simp [readPattern, FieldValue.asText, h, Except.mapError]

theorem readKeyword_eq_ok_iff {keyword : String} :
  readKeyword (some v) = .ok keyword ↔
    ∃ s, v = .text s ∧ (∃ c ∈ s.toList, ¬ isBlank c) ∧
      keyword.toList = trimmed isBlank s.toList
  := by
  cases v with
  | text s =>
    have hblank : isAllBlank s.toList = false ↔ ∃ c ∈ s.toList, ¬ isBlank c := by
      simp [isAllBlank]
    simp only [readKeyword, FieldValue.asText, Except.bind, FieldValue.text.injEq,
      exists_eq_left', ← hblank, strip_eq_trimmed]
    cases isAllBlank s.toList <;> simp [← String.toList_inj, eq_comm]
  | _ => simp [readKeyword, FieldValue.asText, Except.bind]

theorem readTruth_eq_ok_iff {b : Bool} :
  readTruth (some v) = .ok b ↔ v.Means b
  := by
  rw [readTruth, FieldValue.asTruth_eq_ok_iff]

theorem closingFor_isExact (config : Config) :
  closingFor config.isExact = config.closing
  := by
  cases h : config.closing <;> simp [isExact, closingFor, h]

theorem isExact_closingFor (extension keyword : String) (pattern : NamePattern)
    (exact links : Bool) :
  isExact ⟨extension, pattern, keyword, closingFor exact, links⟩ = exact
  := by
  cases exact <;> rfl

end Config

namespace ConfigField

variable {fields : Fields} {config : Config} {v : FieldValue} {f : ConfigField}

/-- What is given for a field is read as what a configuration has there. -/
def Reads : ConfigField → Option FieldValue → Config → Prop
  | .extension, given, config => Config.readExtension given = .ok config.extension
  | .resourceName, given, config => Config.readPattern given = .ok config.resourceName
  | .keyword, given, config => Config.readKeyword given = .ok config.keyword
  | .exact, given, config => Config.readTruth given = .ok config.isExact
  | .links, given, config => Config.readTruth given = .ok config.followLinks

/-- What is complained of in what is given for a field. -/
def details (f : ConfigField) (given : Option FieldValue) : List Detail :=
  match f with
  | .extension => detailsOf f.name (Config.readExtension given)
  | .resourceName =>
    match Config.readPattern given with
    | .error (.complaint c) => [⟨f.name, c⟩]
    | _ => []
  | .keyword => detailsOf f.name (Config.readKeyword given)
  | .exact | .links => detailsOf f.name (Config.readTruth given)

/-- A value is read as what it gives if it is accepted. -/
theorem reads_iff :
  f.Reads (some v) config ↔ f.Accepts v ∧ f.Gives v config
  := by
  cases f with
  | extension =>
    rw [Reads, Config.readExtension_eq_ok_iff]
    constructor
    · rintro ⟨rfl, h⟩
      exact ⟨⟨_, rfl, h⟩, rfl⟩
    · rintro ⟨⟨s, rfl, h⟩, hs⟩
      obtain rfl := FieldValue.text.inj hs
      exact ⟨rfl, h⟩
  | resourceName =>
    rw [Reads, Config.readPattern_eq_ok_iff]
    constructor
    · rintro ⟨rfl, h⟩
      exact ⟨⟨_, _, rfl, h⟩, rfl, h⟩
    · rintro ⟨-, h⟩
      exact h
  | keyword =>
    rw [Reads, Config.readKeyword_eq_ok_iff]
    constructor
    · rintro ⟨s, rfl, hc, hs⟩
      exact ⟨⟨s, rfl, hc⟩, s, rfl, hs⟩
    · rintro ⟨⟨s, rfl, hc⟩, s', hs', hs⟩
      obtain rfl := FieldValue.text.inj hs'
      exact ⟨s, rfl, hc, hs⟩
  | exact | links =>
    rw [Reads, Config.readTruth_eq_ok_iff]
    exact ⟨fun h => ⟨⟨_, h⟩, h⟩, And.right⟩

/-- A field is read, or it is complained of once. -/
theorem reads_or_details (given : Option FieldValue)
    (hcount : f = .resourceName → Config.readPattern given ≠ .error .countTooLarge) :
  (∃ config, f.Reads given config) ∧ f.details given = [] ∨
    (∀ config, ¬ f.Reads given config) ∧ ∃ c, f.details given = [⟨f.name, c⟩]
  := by
  cases f with
  | extension =>
    rw [details]
    cases h : Config.readExtension given with
    | ok extension => exact .inl ⟨⟨{ Config.default with extension }, h⟩, rfl⟩
    | error c => exact .inr ⟨by simp [Reads, h], c, rfl⟩
  | resourceName =>
    rw [details]
    cases h : Config.readPattern given with
    | ok resourceName => exact .inl ⟨⟨{ Config.default with resourceName }, h⟩, rfl⟩
    | error failure =>
      cases failure with
      | complaint c => exact .inr ⟨by simp [Reads, h], c, rfl⟩
      | countTooLarge => exact absurd h (hcount rfl)
  | keyword =>
    rw [details]
    cases h : Config.readKeyword given with
    | ok keyword => exact .inl ⟨⟨{ Config.default with keyword }, h⟩, rfl⟩
    | error c => exact .inr ⟨by simp [Reads, h], c, rfl⟩
  | exact =>
    rw [details]
    cases h : Config.readTruth given with
    | ok exact' =>
      refine .inl ⟨⟨{ Config.default with closing := Config.closingFor exact' }, ?_⟩, rfl⟩
      rw [Reads, Config.isExact_closingFor, h]
    | error c => exact .inr ⟨by simp [Reads, h], c, rfl⟩
  | links =>
    rw [details]
    cases h : Config.readTruth given with
    | ok followLinks => exact .inl ⟨⟨{ Config.default with followLinks }, h⟩, rfl⟩
    | error c => exact .inr ⟨by simp [Reads, h], c, rfl⟩

/-- A value that is accepted gives something. -/
theorem Accepts.exists_gives (h : f.Accepts v) :
  ∃ config, f.Gives v config
  := by
  cases f with
  | extension =>
    obtain ⟨extension, rfl, -⟩ := h
    exact ⟨{ Config.default with extension }, rfl⟩
  | resourceName =>
    obtain ⟨s, resourceName, rfl, h⟩ := h
    obtain rfl := NamePattern.written_of_ofString h
    exact ⟨{ Config.default with resourceName }, rfl, h⟩
  | keyword =>
    obtain ⟨s, rfl, -⟩ := h
    exact ⟨{ Config.default with keyword := String.ofList (trimmed isBlank s.toList) }, s, rfl,
      String.toList_ofList⟩
  | exact =>
    obtain ⟨b, h⟩ := h
    use { Config.default with closing := Config.closingFor b }
    rwa [Gives, Config.isExact_closingFor]
  | links =>
    obtain ⟨followLinks, h⟩ := h
    exact ⟨{ Config.default with followLinks }, h⟩

theorem exists_reads_iff :
  (∃ config, f.Reads (some v) config) ↔ f.Accepts v
  := by
  simp only [reads_iff]
  constructor
  · rintro ⟨config, h, -⟩
    exact h
  · intro h
    obtain ⟨config, hgives⟩ := h.exists_gives
    exact ⟨config, h, hgives⟩

/-- What is not given is read as the default is. -/
theorem reads_none :
  f.Reads none config ↔ f.Reads (some f.default) config
  := by
  cases f <;> exact Iff.rfl

theorem details_none (f : ConfigField) :
  f.details none = f.details (some f.default)
  := by
  cases f <;> rfl

/-- A field to which no value is given is read as its default is. -/
theorem reads_value (f : ConfigField) :
  f.Reads (fields.lookup f.name) config ↔ f.Reads (some (f.value fields)) config
  := by
  rw [value]
  cases fields.lookup f.name with
  | none => apply reads_none
  | some v => rfl

theorem details_value (f : ConfigField) :
  f.details (fields.lookup f.name) = f.details (some (f.value fields))
  := by
  rw [value]
  cases fields.lookup f.name with
  | none => apply details_none
  | some v => rfl

end ConfigField

namespace Config

variable {fields : Fields} {config : Config} {v : FieldValue} {f : ConfigField}

/-! ### Reading all fields -/

theorem ofFields_eq_ok_iff_reads :
  ofFields fields = .ok config ↔ ∀ f : ConfigField, f.Reads (fields.lookup f.name) config
  := by
  constructor
  · intro h
    unfold ofFields at h
    dsimp only at h
    split at h
    case h_1 => cases h
    case h_2 => cases h
    case h_3 pattern hpattern =>
      split at h
      case h_1 extension keyword exact links hextension hkeyword hexact hlinks =>
        obtain rfl := Except.ok.inj h
        intro f
        cases f
        case exact => rwa [ConfigField.Reads, isExact_closingFor]
        all_goals assumption
      case h_2 => cases h
  · intro h
    have hextension := h .extension
    have hpattern := h .resourceName
    have hkeyword := h .keyword
    have hexact := h .exact
    have hlinks := h .links
    simp only [ConfigField.Reads, ConfigField.name] at hextension hpattern hkeyword hexact hlinks
    simp only [ofFields, hextension, hpattern, hkeyword, hexact, hlinks, closingFor_isExact]

/-- Whatever is not given can be given by its default. -/
theorem ofFields_eq_ok_iff :
  ofFields fields = .ok config ↔
    ∀ f : ConfigField, f.Accepts (f.value fields) ∧ f.Gives (f.value fields) config
  := by
  simp only [ofFields_eq_ok_iff_reads, ConfigField.reads_value, ConfigField.reads_iff]

/-- The failure to read the fields tells all that is complained of. -/
theorem ofFields_error {failure : ConfigFailure} (h : ofFields fields = .error failure)
    (hcount : readPattern (fields.lookup "resource_name_pattern") ≠ .error .countTooLarge) :
  failure = .invalid (ConfigField.all.flatMap fun f => f.details (fields.lookup f.name))
  := by
  unfold ofFields at h
  dsimp only at h
  split at h
  case h_1 hpattern => exact absurd hpattern hcount
  case h_2 c hpattern =>
    obtain rfl := Except.error.inj h
    simp [ConfigField.all, ConfigField.details, ConfigField.name, hpattern]
  case h_3 pattern hpattern =>
    split at h
    case h_1 => cases h
    case h_2 =>
      obtain rfl := Except.error.inj h
      simp [ConfigField.all, ConfigField.details, ConfigField.name, hpattern]

/-! ### Configurations that can be used -/

/-- The fields of a configuration as they are kept. -/
def keptFields (config : Config) : Fields :=
  [("extension", .text config.extension),
   ("resource_name_pattern", .text config.resourceName.written),
   ("declaration_keyword", .text config.keyword),
   ("exact_package", .truth config.isExact),
   ("follow_symlinks", .truth config.followLinks)]

/-- A configuration can be used: its patterns can be read, and it can be had again. -/
structure IsUsable (config : Config) : Prop where
  extension_head : config.extension.toList.head? = some '.'
  extension_length : 2 ≤ config.extension.toList.length
  keyword_ne : config.keyword ≠ ""
  keyword_ends : EndsOutside isBlank config.keyword.toList
  pattern : NamePattern.ofString config.resourceName.written = .ok config.resourceName
  declaration : ∀ package : String, ∃ p,
    NamePattern.ofString (config.declarationPattern package) = .ok p
  again : ofFields config.keptFields = .ok config

theorem exists_ofString_declarationPattern (config : Config) (package : String) :
  ∃ p, NamePattern.ofString (config.declarationPattern package) = .ok p
  := by
  rw [NamePattern.ofString, declarationPattern, String.toList_ofList, parse_declarationPattern]
  exact ⟨_, rfl⟩

/-- Fields that were accepted are accepted as they are kept. -/
theorem isUsable_of_ofFields (h : ofFields fields = .ok config) :
  config.IsUsable
  := by
  rw [ofFields_eq_ok_iff] at h
  obtain ⟨⟨extension, hextension, hhead, hlength⟩, hgives⟩ := h .extension
  obtain rfl := FieldValue.text.inj (hextension.symm.trans hgives)
  obtain ⟨-, -, hpattern⟩ := h .resourceName
  obtain ⟨⟨s, hs, hc⟩, s', hs', htrimmed⟩ := h .keyword
  obtain rfl := FieldValue.text.inj (hs.symm.trans hs')
  have hends : EndsOutside isBlank config.keyword.toList := by
    rw [htrimmed]
    apply endsOutside_trimmed
  have hkeyword : ∃ c ∈ config.keyword.toList, ¬ isBlank c := by
    obtain ⟨c, hc, hblank⟩ := hc
    obtain ⟨before, after, hsplit, hbefore, hafter⟩ :=
      exists_eq_append_trimmed (p := isBlank) s.toList
    rw [hsplit, List.mem_append, List.mem_append] at hc
    rw [htrimmed]
    obtain hc | hc | hc := hc
    · exact absurd (hbefore c hc) hblank
    · exact ⟨c, hc, hblank⟩
    · exact absurd (hafter c hc) hblank
  have hagain : ofFields config.keptFields = .ok config := by
    rw [ofFields_eq_ok_iff]
    intro f
    cases f with
    | extension => exact ⟨⟨_, rfl, hhead, hlength⟩, rfl⟩
    | resourceName => exact ⟨⟨_, _, rfl, hpattern⟩, rfl, hpattern⟩
    | keyword =>
      refine ⟨⟨_, rfl, hkeyword⟩, _, rfl, ?_⟩
      symm
      exact trimmed_eq_iff.mpr ⟨hends, [], [], by simp, by simp, by simp⟩
    | exact | links => exact ⟨⟨_, rfl⟩, rfl⟩
  refine ⟨hhead, hlength, ?_, hends, hpattern, exists_ofString_declarationPattern config, hagain⟩
  intro hnone
  simp [hnone] at hkeyword

/-! ### Fields that are not accepted -/

theorem readPattern_value (fields : Fields) :
  readPattern (fields.lookup "resource_name_pattern")
    = readPattern (some (ConfigField.resourceName.value fields))
  := by
  rw [ConfigField.value, ConfigField.name]
  cases fields.lookup "resource_name_pattern" <;> rfl

/-- The pattern is not refused for a count that is too large. -/
theorem readPattern_ne_countTooLarge
    (hcount : ∀ s, ConfigField.resourceName.value fields = .text s →
      NamePattern.ofString s ≠ .error .countTooLarge) :
  readPattern (fields.lookup "resource_name_pattern") ≠ .error .countTooLarge
  := by
  rw [readPattern_value]
  cases hvalue : ConfigField.resourceName.value fields with
  | text s =>
    cases hs : NamePattern.ofString s with
    | ok p => simp [readPattern, FieldValue.asText, hs, Except.mapError]
    | error e =>
      cases e with
      | countTooLarge => exact absurd hs (hcount s hvalue)
      | _ => simp [readPattern, FieldValue.asText, hs, Except.mapError, patternFailure]
  | _ => simp [readPattern, FieldValue.asText]

theorem exists_ofFields_iff :
  (∃ config, ofFields fields = .ok config) ↔ ∀ f : ConfigField, f.Accepts (f.value fields)
  := by
  simp only [ofFields_eq_ok_iff]
  constructor
  · rintro ⟨config, h⟩ f
    exact (h f).1
  · intro h
    obtain ⟨forExtension, hextension⟩ := (h .extension).exists_gives
    obtain ⟨forPattern, hpattern⟩ := (h .resourceName).exists_gives
    obtain ⟨forKeyword, hkeyword⟩ := (h .keyword).exists_gives
    obtain ⟨forExact, hexact⟩ := (h .exact).exists_gives
    obtain ⟨forLinks, hlinks⟩ := (h .links).exists_gives
    use ⟨forExtension.extension, forPattern.resourceName, forKeyword.keyword, forExact.closing,
      forLinks.followLinks⟩
    intro f
    refine ⟨h f, ?_⟩
    cases f with
    | extension => exact hextension
    | resourceName => exact hpattern
    | keyword => exact hkeyword
    | exact => exact hexact
    | links => exact hlinks

theorem lookup_single (f g : ConfigField) (v : FieldValue) :
  List.lookup g.name [(f.name, v)] = if g = f then some v else none
  := by
  cases f <;> cases g <;> rfl

theorem value_single (f g : ConfigField) (v : FieldValue) :
  g.value [(f.name, v)] = if g = f then v else g.default
  := by
  rw [ConfigField.value, lookup_single]
  split <;> rfl

/-- The default of a field is accepted. -/
theorem accepts_default (f : ConfigField) :
  f.Accepts f.default
  := by
  cases f with
  | extension => exact ⟨_, rfl, by decide⟩
  | resourceName => exact ⟨_, _, rfl, NamePattern.ofString_resource⟩
  | keyword => exact ⟨_, rfl, 'p', by simp [Config.default], by decide⟩
  | exact | links => exact ⟨_, rfl⟩

/-- A field alone decides whether its value is accepted. -/
theorem exists_ofFields_single_iff :
  (∃ config, ofFields [(f.name, v)] = .ok config) ↔ f.Accepts v
  := by
  rw [exists_ofFields_iff]
  constructor
  · intro h
    simpa [value_single] using h f
  · intro h g
    rw [value_single]
    split
    case isTrue hg => rwa [hg]
    case isFalse => apply accepts_default

/-- A value is accepted, or it is complained of once. -/
theorem accepts_or_details
    (hcount : ∀ s, ConfigField.resourceName.value fields = .text s →
      NamePattern.ofString s ≠ .error .countTooLarge) (f : ConfigField) :
  f.Accepts (f.value fields) ∧ f.details (some (f.value fields)) = [] ∨
    ¬ f.Accepts (f.value fields) ∧ ∃ c, f.details (some (f.value fields)) = [⟨f.name, c⟩]
  := by
  have h := ConfigField.reads_or_details (f := f) (fields.lookup f.name) <| by
    rintro rfl
    apply readPattern_ne_countTooLarge hcount
  simpa only [ConfigField.details_value, ConfigField.reads_value, ConfigField.exists_reads_iff,
    ← not_exists] using h

/-- A field that is not accepted is complained of alone as it is among others. -/
theorem ofFields_single (h : ¬ f.Accepts v)
    (hcount : f = .resourceName →
      ∀ s, v = .text s → NamePattern.ofString s ≠ .error .countTooLarge) :
  ofFields [(f.name, v)] = .error (.invalid (f.details (some v)))
  := by
  have hcount' : ∀ s, ConfigField.resourceName.value [(f.name, v)] = .text s →
      NamePattern.ofString s ≠ .error .countTooLarge := by
    intro s hs
    rw [value_single] at hs
    split at hs
    case isTrue hf => exact hcount hf.symm s hs
    case isFalse =>
      obtain rfl := FieldValue.text.inj hs
      intro hread
      cases NamePattern.ofString_resource.symm.trans hread
  cases hread : ofFields [(f.name, v)] with
  | ok config => exact absurd (exists_ofFields_single_iff.mp ⟨config, hread⟩) h
  | error failure =>
    have hnone : ∀ g : ConfigField, g.details none = [] := by
      intro g
      cases g <;> rfl
    rw [ofFields_error hread (readPattern_ne_countTooLarge hcount')]
    cases f <;> simp [ConfigField.all, lookup_single, hnone]

/-- Lists of which each has at most one element are joined to a list with one element for each
that is not empty. -/
theorem forall₂_filter_flatMap {α β : Type} {R : α → β → Prop} {parts : α → List β}
    (hparts : ∀ a, parts a = [] ∨ ∃ b, parts a = [b] ∧ R a b) (l : List α) :
  List.Forall₂ R (l.filter fun a => !(parts a).isEmpty) (l.flatMap parts)
  := by
  induction l with
  | nil => exact .nil
  | cons a l ih =>
    obtain hnone | ⟨b, hone, hb⟩ := hparts a
    · simpa [hnone] using ih
    · simpa [hone] using ⟨hb, ih⟩

/-- Configurations are had from exactly those values that their fields accept, each its own.
When some are not accepted, these fields are complained of, in their order and each once, as
if it had been given alone.  A configuration that was had has what the values give, and can
be used. -/
theorem ofFields_iff_accepts (fields : Fields)
    (hcount : ∀ s, ConfigField.resourceName.value fields = .text s →
      NamePattern.ofString s ≠ .error .countTooLarge) :
  ((∃ config, ofFields fields = .ok config) ↔ ∀ f : ConfigField, f.Accepts (f.value fields)) ∧
    (∀ f : ConfigField, f.Accepts (f.value fields) ↔
      ∃ config, ofFields [(f.name, f.value fields)] = .ok config) ∧
    (∀ failure, ofFields fields = .error failure →
      ∃ (failing : List ConfigField) (details : List Detail),
        failure = .invalid details ∧ failing.Sublist ConfigField.all ∧
        (∀ f : ConfigField, f ∈ failing ↔ ¬ f.Accepts (f.value fields)) ∧
        List.Forall₂ (fun f detail => detail.field = f.name ∧
          ofFields [(f.name, f.value fields)] = .error (.invalid [detail])) failing details) ∧
    ∀ config, ofFields fields = .ok config →
      config.IsUsable ∧ ∀ f : ConfigField, f.Gives (f.value fields) config
  := by
  refine ⟨exists_ofFields_iff, fun f => exists_ofFields_single_iff.symm, ?_, ?_⟩
  · intro failure h
    have hall := ofFields_error h (readPattern_ne_countTooLarge hcount)
    simp only [ConfigField.details_value] at hall
    refine ⟨_, _, hall, List.filter_sublist, ?_, forall₂_filter_flatMap ?_ _⟩
    · intro f
      have hmem : f ∈ ConfigField.all := by cases f <;> decide
      obtain ⟨haccepts, hnone⟩ | ⟨hnot, c, hone⟩ := accepts_or_details hcount f
      · simp [hmem, hnone, haccepts]
      · simp [hmem, hone, hnot]
    · intro f
      obtain ⟨-, hnone⟩ | ⟨hnot, c, hone⟩ := accepts_or_details hcount f
      · exact .inl hnone
      · refine .inr ⟨_, hone, rfl, ?_⟩
        rw [← hone]
        apply ofFields_single hnot
        rintro rfl
        exact hcount
  · intro config h
    exact ⟨isUsable_of_ofFields h, fun f => (ofFields_eq_ok_iff.mp h f).2⟩

/-- Values of which three are not accepted, with one that is in no field. -/
def refusedFields : Fields :=
  [("follow_symlinks", .fraction 15 (-1)), ("colour", .null),
   ("resource_name_pattern", .text "R("), ("extension", .text "."),
   ("exact_package", .whole 1), ("declaration_keyword", .text " package ")]

/-- The three fields are those that do not accept their values. -/
theorem ofFields_iff_accepts_refusedFields :
  (∀ s, ConfigField.resourceName.value refusedFields = .text s →
      NamePattern.ofString s ≠ .error .countTooLarge) ∧
    ∃ failing : List ConfigField,
      failing.map ConfigField.name = ["extension", "resource_name_pattern", "follow_symlinks"] ∧
      ∀ f : ConfigField, f ∈ failing ↔ ¬ f.Accepts (f.value refusedFields)
  := by
  have hcount : ∀ s, ConfigField.resourceName.value refusedFields = .text s →
      NamePattern.ofString s ≠ .error .countTooLarge := by
    intro s hs
    obtain rfl : "R(" = s := FieldValue.text.inj hs
    intro h
    cases h
  obtain ⟨extensionReason, patternReason, hread⟩ : ∃ extensionReason patternReason,
      ofFields refusedFields = .error (.invalid [⟨"extension", .refused extensionReason⟩,
        ⟨"resource_name_pattern", .refused patternReason⟩, ⟨"follow_symlinks", .notTruth⟩]) :=
    ⟨_, _, rfl⟩
  obtain ⟨-, -, herror, -⟩ := ofFields_iff_accepts refusedFields hcount
  obtain ⟨failing, details, hdetails, -, hfailing, hall⟩ := herror _ hread
  obtain rfl := ConfigFailure.invalid.inj hdetails
  refine ⟨hcount, failing, ?_, hfailing⟩
  obtain - | ⟨⟨hfirst, -⟩, - | ⟨⟨hsecond, -⟩, - | ⟨⟨hthird, -⟩, - | -⟩⟩⟩ := hall
  simp [← hfirst, ← hsecond, ← hthird]

end Config

end SourceLocator
