import SourceLocator.Command.Program

/-!
# Requests on the command line

A request can be written as a command line (`Locate.words`, `Check.words`) from which it is
read back, so that running the program on these words carries it out (`Locate.run_words`,
`Check.run_words`), whatever its values look like.
-/

namespace SourceLocator.Command

open Text

/-! ### Options that are written -/

/-- How an option is written, with its value behind it if it takes one. -/
def written : Switch × String → List String
  | (s, value) => if s.takesValue then [s.spelling, value] else [s.spelling]

/-- An option that is written is one that can be given there, and has no value unless it takes
one. -/
def IsGivable (verb : Option Verb) : Switch × String → Prop
  | (s, value) => s ∈ Switch.available verb ∧ (s.takesValue = false → value = "")

variable {verb : Option Verb} {s : Switch} {value : String} {mixed : Bool}

theorem isOption_spelling (s : Switch) :
  s.spelling ≠ "--" ∧ isOption s.spelling
  := by
  cases s <;> decide

/-- The spelling of an option stands for it. -/
theorem readOption_spelling (h : s ∈ Switch.available verb) :
  readOption (Switch.available verb) s.spelling
    = .ok (if s.takesValue then .awaiting s else .complete [(s, "")])
  := by
  rcases verb with _ | _ | _ <;> cases s <;> first | rfl | simp [Switch.available] at h

/-- An option that is written is read in front of the rest of the line. -/
theorem readLine_written (h : IsGivable verb (s, value)) (rest : List String) :
  readLine (Switch.available verb) mixed (written (s, value) ++ rest)
    = (readLine (Switch.available verb) mixed rest).map fun l =>
        { l with options := (s, value) :: l.options }
  := by
  obtain ⟨hmem, hvalue⟩ := h
  obtain ⟨hdashes, hoption⟩ := isOption_spelling s
  have hread := readOption_spelling hmem
  cases htakes : s.takesValue with
  | true =>
    simp only [htakes, if_true] at hread
    simp [written, htakes, readLine, hdashes, hoption, hread]
  | false =>
    obtain rfl := hvalue htakes
    simp only [htakes, Bool.false_eq_true, if_false] at hread
    cases rest with
    | nil => simp [written, htakes, readLine, hdashes, hoption, hread, Except.map]
    | cons next rest => simp [written, htakes, readLine, hdashes, hoption, hread]

/-- Options that are written are read in front of the rest of the line. -/
theorem readLine_flatMap_written {options : List (Switch × String)}
    (h : ∀ option ∈ options, IsGivable verb option) (rest : List String) :
  readLine (Switch.available verb) mixed (options.flatMap written ++ rest)
    = (readLine (Switch.available verb) mixed rest).map fun l =>
        { l with options := options ++ l.options }
  := by
  induction options with
  | nil =>
    cases hrest : readLine (Switch.available verb) mixed rest <;> simp [hrest, Except.map]
  | cons option options ih =>
    obtain ⟨s, value⟩ := option
    rw [List.flatMap_cons, List.append_assoc, readLine_written (h _ List.mem_cons_self),
      ih fun other hother => h other (List.mem_cons_of_mem _ hother)]
    cases readLine (Switch.available verb) mixed rest <;> simp [Except.map]

/-! ### Runs of a command -/

/-- The name of a command leads to it. -/
theorem start_name (verb : Verb) (rest : List String) :
  start (verb.name :: rest) = .ok (.command false verb rest)
  := by
  have hname : verb.name ≠ "--" ∧ isOption verb.name = false := by
    cases verb <;> decide
  have hverb : Verb.ofName? verb.name = some verb := by
    cases verb <;> decide
  have hread : readLine (Switch.available none) false (verb.name :: rest)
      = .ok ⟨[], verb.name :: rest⟩ := by
    cases rest <;> simp [readLine, hname]
  rw [start, if_neg (List.cons_ne_nil _ _), hread]
  simp [Line.has, hverb]

/-- What a run shows of what a command does. -/
def Deed.shown (d : Deed) (asked : Option String) : Run :=
  ⟨{ d with records := shownRecords (leastLevel false asked) (variableRecords asked ++ d.records) },
    leastLevel false asked⟩

@[simp]
theorem Deed.ending_shown (d : Deed) (asked : Option String) :
  (d.shown asked).ending = d.ending
  := rfl

@[simp]
theorem Deed.output_shown (d : Deed) (asked : Option String) :
  (d.shown asked).output = d.output
  := rfl

@[simp]
theorem Deed.tree_shown (d : Deed) (asked : Option String) :
  (d.shown asked).tree = d.tree
  := rfl

theorem run_name (t : FileTree) (asked : Option String) (verb : Verb) (rest : List String) :
  run t asked (verb.name :: rest) = (perform t verb rest).shown asked
  := by
  rw [run, start_name]
  rfl

namespace Locate

/-- The options of a request. -/
def options (q : Locate) : List (Switch × String) :=
  [(.source, q.source), (.package, q.package)]
    ++ (if q.allSources then [(.allSources, "")] else [])
    ++ (if q.exact then [(.exact, "")] else [])
    ++ (if q.followLinks then [(.followLinks, "")] else [])

/-- The words of the command line that makes a request. -/
def words (q : Locate) : List String :=
  Verb.locate.name :: q.options.flatMap written

theorem isGivable_of_mem_options {q : Locate} {option : Switch × String}
    (h : option ∈ q.options) :
  IsGivable (some .locate) option
  := by
  simp only [options, List.mem_append, List.mem_cons, List.not_mem_nil, or_false,
    List.mem_ite_nil_right] at h
  obtain (((rfl | rfl) | ⟨-, rfl⟩) | ⟨-, rfl⟩) | ⟨-, rfl⟩ := h <;>
    simp [IsGivable, Switch.available, Switch.takesValue]

/-- A request is read back from its options. -/
theorem ofLine_options (q : Locate) (hnul : (Path.ofString q.source).hasNul = false) :
  ofLine ⟨q.options, []⟩ = .ok q
  := by
  obtain ⟨source, package, allSources, exact', followLinks⟩ := q
  let l : Line := ⟨options ⟨source, package, allSources, exact', followLinks⟩, []⟩
  have hsource : l.value? .source = some source := by
    cases allSources <;> cases exact' <;> cases followLinks <;> rfl
  rw [ofLine, hsource]
  simp only [hnul, Bool.false_eq_true, if_false]
  cases allSources <;> cases exact' <;> cases followLinks <;> rfl

/-- The words of a request have it carried out. -/
theorem run_words (q : Locate) (hnul : (Path.ofString q.source).hasNul = false) (t : FileTree)
    (asked : Option String) :
  run t asked q.words = (q.perform t).shown asked
  := by
  have hhelp : (⟨q.options, []⟩ : Line).has .help = false := by
    obtain ⟨source, package, allSources, exact', followLinks⟩ := q
    cases allSources <;> cases exact' <;> cases followLinks <;> rfl
  have hread : readLine (Switch.available (some .locate)) true (q.options.flatMap written)
      = .ok ⟨q.options, []⟩ := by
    rw [← List.append_nil (q.options.flatMap written),
      readLine_flatMap_written fun _ => isGivable_of_mem_options]
    simp [readLine, Except.map]
  rw [words, run_name, Command.perform, hread]
  simp only [hhelp, q.ofLine_options hnul, Bool.false_eq_true, if_false]

end Locate

namespace Check

/-- The options of a request. -/
def options (q : Check) : List (Switch × String) :=
  (.package, q.package) :: if q.exact then [(.exact, "")] else []

/-- The words of the command line that makes a request. -/
def words (q : Check) : List String :=
  Verb.check.name :: (q.options.flatMap written ++ ["--", q.file])

theorem isGivable_of_mem_options {q : Check} {option : Switch × String}
    (h : option ∈ q.options) :
  IsGivable (some .check) option
  := by
  simp only [options, List.mem_cons, List.not_mem_nil, or_false, List.mem_ite_nil_right] at h
  obtain rfl | ⟨-, rfl⟩ := h <;> simp [IsGivable, Switch.available, Switch.takesValue]

/-- A request is read back from its options and its file. -/
theorem ofLine_options (q : Check) (hnul : (Path.ofString q.file).hasNul = false) :
  ofLine ⟨q.options, [q.file]⟩ = .ok q
  := by
  obtain ⟨file, package, exact'⟩ := q
  have hpackage : Line.value? ⟨options ⟨file, package, exact'⟩, [file]⟩ .package
      = some package := by
    cases exact' <;> rfl
  simp only [ofLine, hnul, hpackage, Bool.false_eq_true, if_false, if_true]
  cases exact' <;> rfl

/-- The words of a request have it carried out. -/
theorem run_words (q : Check) (hnul : (Path.ofString q.file).hasNul = false) (t : FileTree)
    (asked : Option String) :
  run t asked q.words = (q.perform t).shown asked
  := by
  have hhelp : (⟨q.options, [q.file]⟩ : Line).has .help = false := by
    obtain ⟨file, package, exact'⟩ := q
    cases exact' <;> rfl
  have hread : readLine (Switch.available (some .check)) true
      (q.options.flatMap written ++ ["--", q.file]) = .ok ⟨q.options, [q.file]⟩ := by
    rw [readLine_flatMap_written fun _ => isGivable_of_mem_options]
    simp [readLine, Except.map]
  rw [words, run_name, Command.perform, hread]
  simp only [hhelp, q.ofLine_options hnul, Bool.false_eq_true, if_false]

end Check

end SourceLocator.Command
