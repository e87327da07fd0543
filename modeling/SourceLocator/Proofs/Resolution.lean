import Mathlib.Data.List.Basic
import SourceLocator.Scan

/-!
# Resolving a path

What can come of one step is said once and for all (`Turns`), and what is true of many follows
one step after the other (`Turns.advance_cons`).  They can be taken in two goes, the second one
with the links that the first has left over (`follow_append`).  The path of something below a
directory is therefore resolved from the place of that directory, by the names alone.  When
no name and no part of a link is too long, a path that cannot be resolved leads nowhere:
every cause `meansAbsent`.  A path that leads anywhere goes down by names only, and so it can
be used (`hasNul_eq_false_of_stat`).
-/

namespace SourceLocator

/-! ### Steps by names -/

/-- The step of a name goes down to the entry of that name. -/
theorem Step.ofPart_name (name : Name) :
  Step.ofPart name.val = .down name.val
  := by
  obtain ⟨s, hs⟩ := name
  simp only [isName, Bool.and_eq_true, bne_iff_ne] at hs
  simp [Step.ofPart, hs]

/-- A name is short enough. -/
theorem Name.utf8ByteSize_le (name : Name) :
  name.val.utf8ByteSize ≤ longestName
  := by
  have h := name.property
  simp only [isName, Bool.and_eq_true, decide_eq_true_eq] at h
  apply h.2

theorem Name.ofString?_val (name : Name) :
  Name.ofString? name.val = some name
  := by
  simp [Name.ofString?, name.property]

theorem Name.eq_of_ofString? {part : String} {name : Name} (h : Name.ofString? part = some name) :
  part = name.val
  := by
  unfold Name.ofString? at h
  split at h
  · cases h
    rfl
  · cases h

/-- Too long a text is no way of going up or staying. -/
theorem Step.ofPart_of_long {part : String} (h : longestName < part.utf8ByteSize) :
  Step.ofPart part = .down part
  := by
  have hdots : part ≠ ".." ∧ part ≠ "." ∧ part ≠ "" := by
    refine ⟨?_, ?_, ?_⟩ <;> rintro rfl <;> exact absurd h (by decide)
  simp [Step.ofPart, hdots]

@[simp]
theorem Path.descend_nil (p : Path) :
  p.descend [] = p
  := by
  simp [Path.descend]

/-- The steps to something below a directory are those to the directory, and then down by
the names. -/
theorem Path.steps_descend (p : Path) (names : List Name) :
  (p.descend names).steps = p.steps ++ names.map fun name => .down name.val
  := by
  simp only [Path.steps, Path.descend, List.map_append, List.map_map]
  congr 1
  apply List.map_congr_left
  intro name _
  apply Step.ofPart_name

theorem Path.descend_descend (p : Path) (names more : List Name) :
  (p.descend names).descend more = p.descend (names ++ more)
  := by
  simp [Path.descend]

theorem Path.descend_injective (p : Path) :
  Function.Injective p.descend
  := by
  intro names names' h
  have hparts := List.append_cancel_left (congrArg Path.parts h)
  apply List.map_injective_iff.mpr Subtype.val_injective hparts

namespace FileTree

variable {t : FileTree}

@[simp]
theorem origin_descend (p : Path) (names : List Name) :
  t.origin (p.descend names) = t.origin p
  := rfl

/-- A name is looked up as it is. -/
theorem lookup_name (around : Location) (name : Name) :
  t.lookup around name.val
    = match t.entry? (name :: around) with
      | none => .error .notFound
      | some e => .ok (name, e)
  := by
  have h : ¬ longestName < name.val.utf8ByteSize := Nat.not_lt.mpr name.utf8ByteSize_le
  cases hentry : t.entry? (name :: around) with
  | none => simp only [lookup, if_neg h, Name.ofString?_val, hentry]
  | some e => simp only [lookup, if_neg h, Name.ofString?_val, hentry]

/-- What is looked up stands under a name, which is the component itself. -/
theorem lookup_eq_ok_iff {around : Location} {part : String} {name : Name} {e : Entry} :
  t.lookup around part = .ok (name, e) ↔ part = name.val ∧ t.entry? (name :: around) = some e
  := by
  constructor
  · intro h
    have hname : Name.ofString? part = some name := by
      rw [lookup] at h
      split at h
      · cases h
      · split at h
        · cases h
        · split at h <;> cases h
          assumption
    obtain rfl := Name.eq_of_ofString? hname
    rw [lookup_name] at h
    split at h
    · cases h
    · rename_i hentry
      cases h
      exact ⟨rfl, hentry⟩
  · rintro ⟨rfl, hentry⟩
    rw [lookup_name, hentry]

/-- Nothing stands under a name that is looked up in vain. -/
theorem entry?_of_lookup_error {around : Location} {part : String} {name : Name} {c : Cause}
    (hname : Name.ofString? part = some name) (h : t.lookup around part = .error c) :
  t.entry? (name :: around) = none
  := by
  rw [Name.eq_of_ofString? hname, lookup_name] at h
  split at h
  · assumption
  · cases h

/-- A component that is looked up in vain is not there, or too long. -/
theorem lookup_error {around : Location} {part : String} {c : Cause}
    (h : t.lookup around part = .error c) :
  c = .notFound ∨ c = .nameTooLong ∧ longestName < part.utf8ByteSize
  := by
  rw [lookup] at h
  split at h
  · rename_i hlong
    cases h
    exact .inr ⟨rfl, hlong⟩
  · split at h
    · cases h
      exact .inl rfl
    · split at h
      · cases h
        exact .inl rfl
      · cases h

/-! ### One step -/

/-- Where a step leads: to a place, or on along the steps of the target of a link. -/
inductive Turn where
  | arrives (place : Location)
  | along (start : Location) (steps : List Step)

/-- What can come of one step from a place. -/
inductive Turns (t : FileTree) (place : Location) : Step → Except Cause Turn → Prop where
  | missing {step} (hentry : t.entry? place = none) :
      Turns t place step (.error .notFound)
  | blocked {step e} (hentry : t.entry? place = some e) (hother : e ≠ .directory) :
      Turns t place step (.error .notDirectory)
  | up (hdir : t.entry? place = some .directory) :
      Turns t place .up (.ok (.arrives place.tail))
  | stay (hdir : t.entry? place = some .directory) :
      Turns t place .stay (.ok (.arrives place))
  | lost {part c} (hdir : t.entry? place = some .directory)
      (hlook : t.lookup place part = .error c) :
      Turns t place (.down part) (.error c)
  | empty {name : Name} (hdir : t.entry? place = some .directory)
      (hlink : t.entry? (name :: place) = some (.link "")) :
      Turns t place (.down name.val) (.error .notFound)
  | along {name : Name} {target} (hdir : t.entry? place = some .directory)
      (hlink : t.entry? (name :: place) = some (.link target)) (htarget : target ≠ "") :
      Turns t place (.down name.val)
        (.ok (.along (targetStart place target) (Step.ofTarget target)))
  | down {name : Name} {e} (hdir : t.entry? place = some .directory)
      (hentry : t.entry? (name :: place) = some e) (hother : ∀ target, e ≠ .link target) :
      Turns t place (.down name.val) (.ok (.arrives (name :: place)))

/-- Of each step comes one of these. -/
theorem exists_turns (t : FileTree) (place : Location) (step : Step) :
  ∃ turn, t.Turns place step turn
  := by
  cases hplace : t.entry? place with
  | none => exact ⟨_, .missing hplace⟩
  | some e =>
    by_cases hdir : e = .directory
    · subst hdir
      cases step with
      | up => exact ⟨_, .up hplace⟩
      | stay => exact ⟨_, .stay hplace⟩
      | down part =>
        cases hlook : t.lookup place part with
        | error c => exact ⟨_, .lost hplace hlook⟩
        | ok found =>
          obtain ⟨rfl, hentry⟩ := lookup_eq_ok_iff.mp hlook
          by_cases hlink : ∃ target, found.2 = .link target
          · obtain ⟨target, htarget⟩ := hlink
            rw [htarget] at hentry
            by_cases hempty : target = ""
            · rw [hempty] at hentry
              exact ⟨_, .empty hplace hentry⟩
            · exact ⟨_, .along hplace hentry hempty⟩
          · exact ⟨_, .down hplace hentry (not_exists.mp hlink)⟩
    · exact ⟨_, .blocked hplace hdir⟩

/-- Going on to the rest of the steps from where one has led. -/
def goOn (t : FileTree) (links : Nat) (jump : Location → List Step → Except Cause Spot)
    (rest : List Step) : Turn → Except Cause Spot
  | .arrives place => t.advance links jump place rest
  | .along start steps => jump start (steps ++ rest)

/-- Steps are taken one after the other. -/
theorem Turns.advance_cons {place : Location} {step : Step} {turn : Except Cause Turn}
    (h : t.Turns place step turn) (links : Nat)
    (jump : Location → List Step → Except Cause Spot) (rest : List Step) :
  t.advance links jump place (step :: rest) = turn.bind (t.goOn links jump rest)
  := by
  cases h with
  | missing hentry => simp only [advance, hentry, Except.bind]
  | @blocked _ e hentry hother =>
    cases e with
    | directory => apply absurd rfl hother
    | _ => simp only [advance, hentry, Except.bind]
  | up hdir => simp only [advance, hdir, Except.bind, goOn]
  | stay hdir => simp only [advance, hdir, Except.bind, goOn]
  | lost hdir hlook => simp only [advance, hdir, hlook, Except.bind]
  | empty hdir hlink => simp only [advance, hdir, lookup_name, hlink, if_true, Except.bind]
  | along hdir hlink htarget =>
    simp only [advance, hdir, lookup_name, hlink, if_neg htarget, Except.bind, goOn]
  | @down _ e hdir hentry hother =>
    cases e with
    | link target => apply absurd rfl (hother target)
    | _ => simp only [advance, hdir, lookup_name, hentry, Except.bind, goOn]

/-- Steps are taken with one way or another of going on from a link. -/
theorem exists_follow_eq (t : FileTree) (links : Nat) :
  ∃ jump, t.follow links = t.advance links jump
  := by
  cases links with
  | zero => exact ⟨_, rfl⟩
  | succ links => exact ⟨_, rfl⟩

/-- What comes of the first of several steps, if they lead somewhere. -/
theorem exists_turns_of_follow {links : Nat} {place : Location} {step : Step} {steps : List Step}
    {spot : Spot} (h : t.follow links place (step :: steps) = .ok spot) :
  ∃ turn, t.Turns place step (.ok turn)
  := by
  obtain ⟨jump, hjump⟩ := t.exists_follow_eq links
  obtain ⟨turn, hturn⟩ := t.exists_turns place step
  rw [hjump, hturn.advance_cons] at h
  cases turn with
  | error c => cases h
  | ok turn => exact ⟨turn, hturn⟩

/-- A first step that leads nowhere is the end. -/
theorem Turns.follow_error {place : Location} {step : Step} {c : Cause}
    (h : t.Turns place step (.error c)) (links : Nat) (rest : List Step) :
  t.follow links place (step :: rest) = .error c
  := by
  obtain ⟨jump, hjump⟩ := t.exists_follow_eq links
  rw [hjump, h.advance_cons]
  rfl

/-- A step into an entry that is no link needs no link. -/
theorem follow_down_of_entry {links : Nat} {place : Location} {name : Name} {e : Entry}
    (hd : t.isDirectoryAt place) (he : t.entry? (name :: place) = some e)
    (hl : ∀ target, e ≠ .link target) :
  t.follow links place [.down name.val] = .ok ⟨name :: place, links⟩
  := by
  have hdir : t.entry? place = some .directory := by
    simpa [isDirectoryAt] using hd
  obtain ⟨jump, hjump⟩ := t.exists_follow_eq links
  rw [hjump, (Turns.down hdir he hl).advance_cons]
  rfl

/-- A step to too long a name is refused. -/
theorem turns_of_long {place : Location} {part : String} (hdir : t.entry? place = some .directory)
    (hlong : longestName < part.utf8ByteSize) :
  t.Turns place (.down part) (.error .nameTooLong)
  := by
  apply Turns.lost hdir
  rw [lookup, if_pos hlong]

/-- A step to a name under which nothing stands leads nowhere. -/
theorem turns_of_none {place : Location} {name : Name} (hdir : t.entry? place = some .directory)
    (hnone : t.entry? (name :: place) = none) :
  t.Turns place (.down name.val) (.error .notFound)
  := by
  apply Turns.lost hdir
  rw [lookup_name, hnone]

/-! ### Two goes -/

/-- If going on from a link can be done in two goes, so can steps. -/
theorem advance_append {links : Nat} {jump : Location → List Step → Except Cause Spot}
    {next : Spot → Except Cause Spot} {rest : List Step}
    (hjump : ∀ place steps, jump place (steps ++ rest) = (jump place steps).bind next)
    (hnext : ∀ place, next ⟨place, links⟩ = t.advance links jump place rest)
    (place : Location) (steps : List Step) :
  t.advance links jump place (steps ++ rest) = (t.advance links jump place steps).bind next
  := by
  induction steps generalizing place with
  | nil => simp [advance, Except.bind, hnext]
  | cons step steps ih =>
    obtain ⟨turn, hturn⟩ := t.exists_turns place step
    rw [List.cons_append, hturn.advance_cons, hturn.advance_cons]
    cases turn with
    | error c => rfl
    | ok turn =>
      cases turn with
      | arrives place' => apply ih
      | along start target =>
        dsimp only [Except.bind, goOn]
        rw [← List.append_assoc]
        apply hjump

/-- Steps can be taken in two goes. -/
theorem follow_append (links : Nat) (place : Location) (steps rest : List Step) :
  t.follow links place (steps ++ rest)
    = (t.follow links place steps).bind fun spot => t.follow spot.links spot.place rest
  := by
  induction links generalizing place steps with
  | zero => exact advance_append (fun _ _ => rfl) (fun _ => rfl) place steps
  | succ links ih => exact advance_append ih (fun _ => rfl) place steps

/-- Where a path leads, and how many links may still be followed from there. -/
def reach (t : FileTree) (p : Path) : Except Cause Spot :=
  t.follow linkLimit (t.origin p) p.steps

theorem resolve_eq_reach (p : Path) :
  t.resolve p = (t.reach p).map (·.place)
  := rfl

/-- A place that a path leads to is reached with some links left. -/
theorem exists_reach {p : Path} {place : Location} (h : t.resolve p = .ok place) :
  ∃ links, t.reach p = .ok ⟨place, links⟩
  := by
  rw [resolve_eq_reach] at h
  cases hr : t.reach p with
  | error c => rw [hr] at h; cases h
  | ok spot =>
    rw [hr] at h
    cases h
    exact ⟨spot.links, rfl⟩

/-- What lies below a directory is reached from where the directory is. -/
theorem reach_descend (p : Path) (names : List Name) :
  t.reach (p.descend names)
    = (t.reach p).bind fun spot =>
        t.follow spot.links spot.place (names.map fun name => .down name.val)
  := by
  rw [reach, Path.steps_descend]
  apply follow_append _ _ _ _

theorem reach_descend_append (p : Path) (names more : List Name) :
  t.reach (p.descend (names ++ more))
    = (t.reach (p.descend names)).bind fun spot =>
        t.follow spot.links spot.place (more.map fun name => .down name.val)
  := by
  rw [← Path.descend_descend]
  apply reach_descend _ _

/-- Below a directory nothing is reached under a name under which nothing stands. -/
theorem reach_descend_of_none {p : Path} {place : Location} {name : Name}
    (hp : t.resolve p = .ok place) (hdir : t.entry? place = some .directory)
    (hnone : t.entry? (name :: place) = none) :
  t.reach (p.descend [name]) = .error .notFound
  := by
  obtain ⟨links, hreach⟩ := exists_reach hp
  rw [reach_descend, hreach]
  apply (turns_of_none hdir hnone).follow_error

end FileTree

/-! ### Causes that mean that nothing is there -/

/-- A step does not ask for an entry under too long a name. -/
def Step.Fits : Step → Prop
  | .down part => part.utf8ByteSize ≤ longestName
  | .up | .stay => True

/-- No part of the target of a link is too long for the name of an entry. -/
def Entry.TargetFits : Entry → Prop
  | .link target =>
    ∀ part ∈ target.toList.splitOn '/', (String.ofList part).utf8ByteSize ≤ longestName
  | .directory | .file _ | .fifo => True

instance : DecidablePred Entry.TargetFits
  | .link target =>
    inferInstanceAs (Decidable (∀ part ∈ target.toList.splitOn '/', _ ≤ longestName))
  | .directory | .file _ | .fifo => inferInstanceAs (Decidable True)

namespace FileTree

/-- No link of the tree has too long a part in its target. -/
def LinksFit (t : FileTree) : Prop :=
  ∀ entry ∈ t.entries, entry.2.TargetFits

instance (t : FileTree) : Decidable t.LinksFit :=
  inferInstanceAs (Decidable (∀ entry ∈ t.entries, entry.2.TargetFits))

variable {t : FileTree}

/-- What stands at a place other than the root is one of the entries. -/
theorem mem_entries_of_eq_some {place : Location} {e : Entry} (hp : place ≠ [])
    (h : t.entry? place = some e) :
  (place, e) ∈ t.entries
  := by
  rw [ entry?, if_neg hp, List.lookup_eq_some_iff] at h
  obtain ⟨before, after, h, -⟩ := h
  rw [h]
  simp

theorem LinksFit.ofTarget (ht : t.LinksFit) {place : Location} {target : String}
    (h : t.entry? place = some (.link target)) :
  ∀ step ∈ Step.ofTarget target, step.Fits
  := by
  have hp : place ≠ [] := by
    rintro rfl
    simp [ entry?] at h
  intro step hstep
  obtain ⟨part, hpart, rfl⟩ := List.mem_map.mp hstep
  have hfit := ht _ (mem_entries_of_eq_some hp h) part hpart
  rw [Step.ofPart]
  split
  · trivial
  · split
    · trivial
    · apply hfit

section Error

variable {P : Cause → Prop} {Q : Step → Prop}

/-- If going on from a link fails for certain causes only, so do steps; with the steps one
knows what is asked for in vain. -/
theorem advance_error {links : Nat} {jump : Location → List Step → Except Cause Spot}
    (habsent : ∀ c, c.meansAbsent → P c)
    (hlong : ∀ part, Q (.down part) → longestName < part.utf8ByteSize → P .nameTooLong)
    (htarget : ∀ {place target}, t.entry? place = some (.link target) →
      ∀ step ∈ Step.ofTarget target, Q step)
    (hjump : ∀ {place steps}, (∀ step ∈ steps, Q step) → ∀ {c},
      jump place steps = .error c → P c)
    {place : Location} {steps : List Step} (hs : ∀ step ∈ steps, Q step) {c : Cause}
    (h : t.advance links jump place steps = .error c) :
  P c
  := by
  induction steps generalizing place with
  | nil => cases h
  | cons step steps ih =>
    obtain ⟨hstep, hrest⟩ := List.forall_mem_cons.mp hs
    obtain ⟨turn, hturn⟩ := t.exists_turns place step
    rw [hturn.advance_cons] at h
    cases hturn with
    | missing hentry =>
      cases h
      apply habsent _ rfl
    | blocked hentry hother =>
      cases h
      apply habsent _ rfl
    | up hdir => exact ih hrest h
    | stay hdir => exact ih hrest h
    | lost hdir hlook =>
      cases h
      obtain rfl | ⟨rfl, hsize⟩ := lookup_error hlook
      · apply habsent _ rfl
      · apply hlong _ hstep hsize
    | empty hdir hlink =>
      cases h
      apply habsent _ rfl
    | along hdir hlink _ =>
      apply hjump _ h
      exact List.forall_mem_append.mpr ⟨htarget hlink, hrest⟩
    | down hdir hentry hother => exact ih hrest h

theorem follow_error (habsent : ∀ c, c.meansAbsent → P c)
    (hlong : ∀ part, Q (.down part) → longestName < part.utf8ByteSize → P .nameTooLong)
    (htarget : ∀ {place target}, t.entry? place = some (.link target) →
      ∀ step ∈ Step.ofTarget target, Q step)
    {links : Nat} {place : Location} {steps : List Step} (hs : ∀ step ∈ steps, Q step) {c : Cause}
    (h : t.follow links place steps = .error c) :
  P c
  := by
  induction links generalizing place steps c with
  | zero =>
    apply advance_error habsent hlong htarget _ hs h
    rintro _ _ _ _ ⟨⟩
    apply habsent _ rfl
  | succ links ih => exact advance_error habsent hlong htarget (fun hs _ h => ih hs h) hs h

end Error

/-- Steps that fit fail only where nothing is there. -/
theorem meansAbsent_of_follow (ht : t.LinksFit) {links : Nat} {place : Location}
    {steps : List Step} (hs : ∀ step ∈ steps, step.Fits) {c : Cause}
    (h : t.follow links place steps = .error c) :
  c.meansAbsent
  := by
  apply follow_error (P := fun c => c.meansAbsent) (Q := Step.Fits) (fun _ => id) _ _ hs h
  · intro part hfits hlong
    apply absurd hfits (Nat.not_le.mpr hlong)
  · intro place target hentry
    apply ht.ofTarget hentry

/-- Steps fail where nothing is there, or for a name that is too long. -/
theorem causes_of_follow {links : Nat} {place : Location} {steps : List Step} {c : Cause}
    (h : t.follow links place steps = .error c) :
  c.meansAbsent ∨ c = .nameTooLong
  := by
  apply follow_error (P := fun c => c.meansAbsent ∨ c = .nameTooLong) (Q := fun _ => True)
    (fun _ => .inl) (fun _ _ _ => .inr rfl) (fun _ _ _ => trivial) (fun _ _ => trivial) h

/-- Below a place that can be reached, a path that leads nowhere says so. -/
theorem resolve_descend_error (ht : t.LinksFit) {p : Path} {place : Location}
    (hp : t.resolve p = .ok place) {names : List Name} {c : Cause}
    (h : t.resolve (p.descend names) = .error c) :
  c.meansAbsent
  := by
  rw [resolve_eq_reach] at hp h
  rw [reach_descend] at h
  cases hr : t.reach p with
  | error c' => rw [hr] at hp; cases hp
  | ok spot =>
    rw [hr] at h
    simp only [Except.bind] at h
    cases hf : t.follow spot.links spot.place (names.map fun name => .down name.val) with
    | ok spot' => rw [hf] at h; cases h
    | error c' =>
      rw [hf] at h
      cases h
      apply meansAbsent_of_follow ht _ hf
      intro step hstep
      obtain ⟨name, -, rfl⟩ := List.mem_map.mp hstep
      apply name.utf8ByteSize_le

/-! ### What a path leads to -/

/-- A path leads to a directory, which is at a place. -/
def LeadsToDirectory (t : FileTree) (p : Path) (place : Location) : Prop :=
  t.resolve p = .ok place ∧ t.entry? place = some .directory

/-- A path leads to a file, perhaps by a link. -/
def LeadsToFile (t : FileTree) (p : Path) : Prop :=
  ∃ bytes, t.stat p = .ok (.file bytes)

theorem enter_eq_ok {p : Path} {place : Location} :
  t.enter p = .ok place ↔ t.LeadsToDirectory p place
  := by
  unfold enter LeadsToDirectory
  constructor
  · intro h
    split at h
    · cases h
    · split at h
      · cases h
        constructor <;> assumption
      · cases h
      · cases h
  · rintro ⟨hr, he⟩
    simp [hr, he]

theorem stat_of_resolve {p : Path} {place : Location} (h : t.resolve p = .ok place) :
  t.stat p = match t.entry? place with
    | none => .error .notFound
    | some e => .ok e
  := by
  cases hentry : t.entry? place with
  | none => simp only [stat, h, hentry]
  | some e => simp only [stat, h, hentry]

theorem stat_eq_ok_iff {p : Path} {e : Entry} :
  t.stat p = .ok e ↔ ∃ place, t.resolve p = .ok place ∧ t.entry? place = some e
  := by
  cases h : t.resolve p with
  | error c => simp [stat, h]
  | ok place =>
    rw [stat_of_resolve h]
    cases hentry : t.entry? place with
    | none => simp [hentry]
    | some e' => simp [hentry]

/-- What a path leads to is refused where nothing is there, or for a name that is too long. -/
theorem causes_of_stat {p : Path} {c : Cause} (h : t.stat p = .error c) :
  c.meansAbsent ∨ c = .nameTooLong
  := by
  cases hreach : t.reach p with
  | error c' =>
    rw [stat, resolve_eq_reach, hreach] at h
    cases h
    apply causes_of_follow hreach
  | ok spot =>
    have hresolve : t.resolve p = .ok spot.place := by
      rw [resolve_eq_reach, hreach]
      rfl
    rw [stat_of_resolve hresolve] at h
    split at h
    · cases h
      exact .inl rfl
    · cases h

theorem isDirectory_iff {p : Path} :
  t.isDirectory p ↔ ∃ place, t.LeadsToDirectory p place
  := by
  unfold LeadsToDirectory
  rw [← stat_eq_ok_iff, isDirectory]
  cases t.stat p with
  | error c => simp
  | ok e => cases e <;> simp

theorem stat_of_isDirectory {p : Path} (h : t.isDirectory p) :
  t.stat p = .ok .directory
  := stat_eq_ok_iff.mpr (isDirectory_iff.mp h)

/-- What leads to a directory does not lead to a file. -/
theorem not_leadsToFile_of_isDirectory {p : Path} (h : t.isDirectory p) :
  ¬ t.LeadsToFile p
  := by
  rintro ⟨bytes, hbytes⟩
  simp [isDirectory, hbytes] at h

/-- Only for a name that is too long it cannot be told whether a path leads to a file. -/
theorem isFile_eq_error_iff {p : Path} {c : Cause} :
  t.isFile p = .error c ↔ c = .nameTooLong ∧ t.stat p = .error .nameTooLong
  := by
  rw [isFile]
  cases hstat : t.stat p with
  | ok e => cases e <;> simp
  | error c' =>
    obtain habsent | rfl := causes_of_stat hstat
    · simp only [habsent, if_true, reduceCtorEq, Except.error.injEq, false_iff, not_and]
      rintro - rfl
      cases habsent
    · simp [Cause.meansAbsent, eq_comm]

/-- A path that is taken for a file leads to one. -/
theorem isFile_eq_ok_true_iff {p : Path} :
  t.isFile p = .ok true ↔ t.LeadsToFile p
  := by
  unfold isFile LeadsToFile
  cases t.stat p with
  | ok e => cases e <;> simp
  | error c => cases c <;> simp [Cause.meansAbsent]

/-- Below a place that can be reached no path is refused for a name that is too long. -/
theorem LinksFit.stat_descend_ne (ht : t.LinksFit) {p : Path} {place : Location}
    (hp : t.resolve p = .ok place) (names : List Name) :
  t.stat (p.descend names) ≠ .error .nameTooLong
  := by
  intro h
  cases hr : t.resolve (p.descend names) with
  | error c =>
    rw [stat, hr] at h
    cases h
    cases resolve_descend_error ht hp hr
  | ok place' =>
    rw [stat_of_resolve hr] at h
    split at h <;> cases h

/-! ### Paths that lead somewhere -/

/-- A name holds no forbidden character. -/
theorem not_nul_of_isName {part : String} (h : isName part) :
  part.toList.any (· == '\x00') = false
  := by
  simp only [isName, Bool.and_eq_true, List.all_eq_true, bne_iff_ne] at h
  rw [List.any_eq_false]
  intro c hc
  simpa using (h.1.2 c hc).2

/-- A step down that leads somewhere is one by a name. -/
theorem isName_of_turns {place : Location} {part : String} {turn : Turn}
    (h : t.Turns place (.down part) (.ok turn)) :
  isName part
  := by
  cases h with
  | @along name target hdir hlink htarget => exact name.property
  | @down name e hdir hentry hother => exact name.property

/-- If going on from a link goes down by names only, so do steps that lead somewhere. -/
theorem isName_of_advance {links : Nat} {jump : Location → List Step → Except Cause Spot}
    (hjump : ∀ place steps spot, jump place steps = .ok spot →
      ∀ part, .down part ∈ steps → isName part)
    {place : Location} {steps : List Step} {spot : Spot}
    (h : t.advance links jump place steps = .ok spot) {part : String}
    (hpart : .down part ∈ steps) :
  isName part
  := by
  induction steps generalizing place with
  | nil => cases hpart
  | cons step steps ih =>
    obtain ⟨turn, hturn⟩ := t.exists_turns place step
    rw [hturn.advance_cons] at h
    cases turn with
    | error c => cases h
    | ok turn =>
      obtain rfl | hpart := List.mem_cons.mp hpart
      · apply isName_of_turns hturn
      · cases turn with
        | arrives place' => apply ih h hpart
        | along start target => apply hjump _ _ _ h part (List.mem_append_right _ hpart)

/-- Steps that lead somewhere go down by names only. -/
theorem isName_of_follow {links : Nat} {place : Location} {steps : List Step} {spot : Spot}
    (h : t.follow links place steps = .ok spot) {part : String}
    (hpart : .down part ∈ steps) :
  isName part
  := by
  induction links generalizing place steps spot part with
  | zero =>
    apply isName_of_advance _ h hpart
    rintro _ _ _ ⟨⟩
  | succ links ih => exact isName_of_advance (fun _ _ _ h _ hpart => ih h hpart) h hpart

/-- A path that leads somewhere can be used. -/
theorem hasNul_eq_false_of_stat {p : Path} {e : Entry} (h : t.stat p = .ok e) :
  p.hasNul = false
  := by
  obtain ⟨spot, hspot⟩ : ∃ spot, t.reach p = .ok spot := by
    cases hreach : t.reach p with
    | ok spot => exact ⟨spot, rfl⟩
    | error c =>
      rw [stat, resolve_eq_reach, hreach] at h
      cases h
  apply List.any_eq_false.mpr
  intro part hpart
  have hstep : Step.ofPart part ∈ p.steps := List.mem_map_of_mem hpart
  rw [Step.ofPart] at hstep
  rw [Bool.not_eq_true]
  split at hstep
  · rename_i hup
    rw [hup]
    rfl
  · split at hstep
    · rename_i hstay
      obtain rfl | rfl := hstay <;> rfl
    · apply not_nul_of_isName
      apply isName_of_follow hspot hstep

end FileTree

end SourceLocator
