import SourceLocator.Proofs.CommandLines
import SourceLocator.Proofs.Ends
import SourceLocator.Proofs.EnsuredDirectories

/-!
# Shown records

The level of the records that are shown has no part in what a command does.  A run that asks
for debug output shows every record; the same run without that request ends in the same way,
shows the same output and leaves the same tree, and of the records it shows those that reach
the level the variable selects (`run_verbose`).  The variable selects the level whose name
its value holds between blanks, in any case (`requested?_eq_some_iff`), and otherwise the
level of warnings.
-/

namespace SourceLocator.Command

open Text

variable {t : FileTree} {asked : Option String} {verb : Verb} {words rest : List String}
  {value : String} {level : Level}

/-! ### The level that the variable selects -/

/-- A value names a level: between blanks its capitals are a name of the level. -/
def IsNamed (value : String) (level : Level) : Prop :=
  ∃ name, (name, level) ∈ Level.named ∧
    ∃ before core after, value.toList = before ++ (core ++ after) ∧
      (∀ c ∈ before, isBlank c) ∧ (∀ c ∈ after, isBlank c) ∧
      core.flatMap capitals = name.toList

/-- The variable selects a level: the one that its value names, and the level of warnings
without a value that names one. -/
def Selects (asked : Option String) (level : Level) : Prop :=
  (∃ value, asked = some value ∧ IsNamed value level) ∨
    (∀ value, asked = some value → ∀ other, ¬ IsNamed value other) ∧ level = .warning

theorem lookup_named_iff {name : String} :
  Level.named.lookup name = some level ↔ (name, level) ∈ Level.named
  := by
  have hkeys : ∀ entry ∈ Level.named, Level.named.lookup entry.1 = some entry.2 := by
    decide
  constructor
  · intro h
    obtain ⟨before, after, hnamed, -⟩ := List.lookup_eq_some_iff.mp h
    rw [hnamed]
    exact List.mem_append_right _ List.mem_cons_self
  · intro h
    apply hkeys _ h

/-- No name of a level has a blank. -/
theorem not_isBlank_of_mem_name {name : String} (h : (name, level) ∈ Level.named) {c : Char}
    (hc : c ∈ name.toList) :
  ¬ isBlank c
  := by
  have hnone : ∀ entry ∈ Level.named, ∀ c ∈ entry.1.toList, ¬ isBlank c := by
    simp [Level.named, isBlank, blankPoints]
  apply hnone _ h c hc

/-- A blank has no capitals but itself. -/
theorem capitals_of_isBlank {c : Char} (h : isBlank c) :
  capitals c = [c]
  := by
  have hlower : ¬ (c.val ≥ 'a'.val ∧ c.val ≤ 'z'.val) := by
    simp only [isBlank, blankPoints, List.any_cons, List.any_nil, Bool.or_false,
      Bool.or_eq_true, Bool.and_eq_true, decide_eq_true_eq] at h
    simp only [ge_iff_le, UInt32.le_iff_toNat_le, Char.toNat_val, Char.reduceVal,
      UInt32.reduceToNat]
    omega
  have hupper : c.toUpper = c := by
    unfold Char.toUpper
    rw [dif_neg hlower]
  rw [capitals.eq_def]
  split
  case h_11 => rw [hupper]
  all_goals exact absurd h (by decide)

theorem requested?_eq_some_iff :
  requested? value = some level ↔ IsNamed value level
  := by
  rw [requested?, lookup_named_iff, strip_eq_trimmed]
  constructor
  · intro h
    obtain ⟨before, after, hvalue, hbefore, hafter⟩ :=
      exists_eq_append_trimmed (p := isBlank) value.toList
    exact ⟨_, h, before, _, after, hvalue, hbefore, hafter, String.toList_ofList.symm⟩
  · rintro ⟨name, hname, before, core, after, hvalue, hbefore, hafter, hcore⟩
    have hfree : ∀ c ∈ core, ¬ isBlank c := by
      intro c hc hblank
      apply not_isBlank_of_mem_name hname (c := c) _ hblank
      rw [← hcore]
      apply List.mem_flatMap_of_mem hc
      rw [capitals_of_isBlank hblank]
      exact List.mem_singleton_self c
    have hends : EndsOutside isBlank core :=
      ⟨fun c hc => hfree c (List.mem_of_head? hc), fun c hc => hfree c (List.mem_of_getLast? hc)⟩
    rw [hvalue, trimmed_append hbefore hends hafter, hcore, String.ofList_toList]
    exact hname

theorem selects_leastLevel (asked : Option String) :
  Selects asked (leastLevel false asked)
  := by
  cases asked with
  | none => exact .inr ⟨fun _ h => absurd h (Option.some_ne_none _).symm, rfl⟩
  | some value =>
    cases hlevel : requested? value with
    | none =>
      have hunnamed : ∀ other, ¬ IsNamed value other := by
        intro other hother
        rw [requested?_eq_some_iff.mpr hother] at hlevel
        cases hlevel
      refine .inr ⟨?_, by simp [leastLevel, hlevel]⟩
      rintro value' ⟨⟩
      exact hunnamed
    | some level =>
      refine .inl ⟨value, rfl, ?_⟩
      rw [← requested?_eq_some_iff]
      simp [leastLevel, hlevel]

/-! ### Asking for debug output -/

/-- The two words that ask for debug output. -/
def verboseWords : List String :=
  ["--verbose", "-v"]

/-- Nothing is recorded below the level of debug output. -/
theorem shownRecords_debug (records : List Record) :
  shownRecords .debug records = records
  := by
  apply List.filter_eq_self.mpr
  intro record hrecord
  cases record <;> rfl

theorem readLine_verbose {word : String} (hword : word ∈ verboseWords) (hwords : words ≠ []) :
  readLine (Switch.available none) false (word :: words)
    = (readLine (Switch.available none) false words).map fun l =>
        { l with options := (.verbose, "") :: l.options }
  := by
  obtain ⟨hread, hoption⟩ : readOption (Switch.available none) word
      = .ok (.complete [(.verbose, "")]) ∧ word ≠ "--" ∧ isOption word := by
    simp only [verboseWords, List.mem_cons, List.not_mem_nil, or_false] at hword
    obtain rfl | rfl := hword <;> exact ⟨rfl, by decide⟩
  cases words with
  | nil => exact absurd rfl hwords
  | cons next rest => simp [readLine, hoption, hread]

/-- A line leads to a command if its options can be read, do not ask for help and stand in
front of the name of the command. -/
theorem start_eq_command_iff {verbose : Bool} :
  start words = .ok (.command verbose verb rest) ↔
    words ≠ [] ∧ ∃ l name, readLine (Switch.available none) false words = .ok l ∧
      l.has .help = false ∧ l.has .verbose = verbose ∧ l.words = name :: rest ∧
      Verb.ofName? name = some verb
  := by
  constructor
  · intro h
    rw [start] at h
    split at h
    case isTrue => cases h
    case isFalse hwords =>
      use hwords
      split at h
      case h_1 => cases h
      case h_2 l hread =>
        split at h
        case isTrue => cases h
        case isFalse hhelp =>
          split at h
          case h_1 => cases h
          case h_2 name words' hname =>
            split at h
            case h_1 verb' hverb =>
              obtain ⟨rfl, rfl, rfl⟩ := by simpa using h
              exact ⟨l, name, hread, by simpa using hhelp, rfl, hname, hverb⟩
            case h_2 =>
              -- a name that no command has leads to help or to a mistake
              split at h
              · cases h
              · split at h <;> cases h
  · rintro ⟨hwords, l, name, hread, hhelp, hverbose, hname, hverb⟩
    rw [start, if_neg hwords]
    simp [hread, hhelp, hverbose, hname, hverb]

/-- Asking for debug output in front of a line that leads to a command changes nothing
else. -/
theorem start_verbose {word : String} (hword : word ∈ verboseWords) {verbose : Bool}
    (h : start words = .ok (.command verbose verb rest)) :
  start (word :: words) = .ok (.command true verb rest)
  := by
  obtain ⟨hwords, l, name, hread, hhelp, -, hname, hverb⟩ := start_eq_command_iff.mp h
  rw [start_eq_command_iff]
  refine ⟨List.cons_ne_nil _ _, { l with options := (.verbose, "") :: l.options }, name, ?_,
    hhelp, rfl, hname, hverb⟩
  rw [readLine_verbose hword hwords, hread]
  rfl

theorem run_command {verbose : Bool} (h : start words = .ok (.command verbose verb rest)) :
  run t asked words
    = ⟨{ perform t verb rest with
          records := shownRecords (leastLevel verbose asked)
            (variableRecords asked ++ (perform t verb rest).records) },
        leastLevel verbose asked⟩
  := by
  rw [run, h]

/-- Asking for debug output leaves the ending, the output and the tree of every run of a
command as they are.  It has every record shown; without it the records are those of them
that reach the level the variable selects. -/
theorem run_verbose (t : FileTree) (asked : Option String) (verb : Verb)
    (words rest : List String) (word : String) (hword : word ∈ verboseWords)
    (hstart : start words = .ok (.command false verb rest)) :
  let plain := run t asked words
  let verbose := run t asked (word :: words)
  plain.ending = verbose.ending ∧
    plain.ending.code = verbose.ending.code ∧
    plain.output = verbose.output ∧
    plain.tree = verbose.tree ∧
    Selects asked plain.level ∧
    plain.records = verbose.records.filter (fun record => plain.level.rank ≤ record.level.rank) ∧
    verbose.records = variableRecords asked ++ (perform t verb rest).records
  := by
  intro plain verbose
  have hplain : plain = _ := run_command hstart
  have hverbose : verbose = _ := run_command (start_verbose hword hstart)
  have hall : verbose.records = variableRecords asked ++ (perform t verb rest).records := by
    rw [hverbose]
    apply shownRecords_debug
  rw [hall, hplain, hverbose]
  exact ⟨rfl, rfl, rfl, rfl, selects_leastLevel asked, rfl, rfl⟩

/-- That a missing file is outside a package is recorded at the level of debug output, which
the level named here does not reach. -/
theorem run_verbose_emptyTree :
  "-v" ∈ verboseWords ∧
    start ["check", "f", "--pkg", "p"] = .ok (.command false .check ["f", "--pkg", "p"]) ∧
    (run Settings.emptyTree (some " ınfo ") ["check", "f", "--pkg", "p"]).records = [] ∧
    (run Settings.emptyTree (some " ınfo ") ["-v", "check", "f", "--pkg", "p"]).records
      = [.outside (.ofString "f") "p" (.file { cause := .notFound, path := "f" })]
  := by
  have hword : "-v" ∈ verboseWords := by decide
  have hstart : start ["check", "f", "--pkg", "p"]
      = .ok (.command false .check ["f", "--pkg", "p"]) := by rfl
  obtain ⟨-, -, -, -, -, hplain, hverbose⟩ :=
    run_verbose Settings.emptyTree (some " ınfo ") .check _ _ "-v" hword hstart
  refine ⟨hword, hstart, ?_, ?_⟩
  · rw [hplain, hverbose]
    rfl
  · rw [hverbose]
    rfl

end SourceLocator.Command
