import Mathlib.Data.List.Nodup
import SourceLocator.Proofs.GrownTrees
import SourceLocator.Proofs.PathReading

/-!
# Making directories

`makeDirectory` makes a directory exactly in a directory and under a name under which nothing
stands (`makeDirectory_eq_ok_iff`).  Whatever comes of making the directories around it as
well, the tree only gains directories, each where nothing stood and where a beginning of the
path leads (`Makes.exists_gains`).  If nothing but names follows the first component that is
not found, then all of them are made or none (`Makes.all_or_none`).  A directory that can be
made at a beginning of the path is made (`Makes.keeps`), and nothing else is
(`Makes.eq_or_exists`).
-/

namespace SourceLocator

/-- A name does not lead up. -/
theorem Name.ne_up (name : Name) :
  name.val ≠ ".."
  := by
  have h := name.property
  simp only [isName, Bool.and_eq_true, bne_iff_ne] at h
  apply h.1.1.2

/-- A path with components is its last one behind the path around it. -/
theorem Path.eq_parent_descend {p : Path} (hparts : p.parts ≠ []) {name : Name}
    (hname : p.name = name.val) :
  p = p.parent.descend [name]
  := by
  obtain ⟨origin, parts⟩ := p
  obtain hnil | ⟨front, part, rfl⟩ := List.eq_nil_or_concat' parts
  · apply absurd hnil hparts
  · obtain rfl : part = name.val := by
      simpa [Path.name] using hname
    simp [Path.parent, Path.descend]

namespace Path

/-- The path of the first components of a path. -/
def front (p : Path) (n : Nat) : Path :=
  { p with parts := p.parts.take n }

@[simp]
theorem front_length (p : Path) :
  p.front p.parts.length = p
  := by
  simp [front]

theorem IsNormal.front {p : Path} (hp : p.IsNormal) (n : Nat) :
  (p.front n).IsNormal
  := fun part hpart => hp part (List.mem_of_mem_take hpart)

/-- The last component of a normal path leads down unless it leads up. -/
theorem IsNormal.ofPart_name {p : Path} (hp : p.IsNormal) (hparts : p.parts ≠ [])
    (hup : p.name ≠ "..") :
  Step.ofPart p.name = .down p.name
  := by
  have hmem : p.name ∈ p.parts := by
    rw [name, List.getLastD_eq_getLast?, List.getLast?_eq_some_getLast hparts]
    apply List.getLast_mem
  obtain ⟨⟨hempty, -⟩, hdot⟩ := hp _ hmem
  have hempty : p.name ≠ "" := by
    rintro heq
    apply hempty
    rw [heq]
    rfl
  simp [Step.ofPart, hup, hdot, hempty]

section Front

variable (p : Path) {n : Nat} (hn : n < p.parts.length)
include hn

theorem parts_front :
  (p.front (n + 1)).parts = (p.front n).parts ++ [p.parts[n]]
  := List.take_succ_eq_append_getElem hn

theorem front_ne_nil :
  (p.front (n + 1)).parts ≠ []
  := by
  rw [p.parts_front hn]
  simp

theorem parent_front :
  (p.front (n + 1)).parent = p.front n
  := by
  rw [parent, p.parts_front hn, List.dropLast_concat]
  rfl

theorem name_front :
  (p.front (n + 1)).name = p.parts[n]
  := by
  rw [name, p.parts_front hn, List.getLastD_concat]

end Front

end Path

namespace FileTree

variable {t t' t'' : FileTree} {p : Path}

/-! ### Making one directory -/

theorem around_eq_ok_iff {place : Location} :
  t.around p = .ok place ↔ t.LeadsToDirectory p.parent place
  := by
  unfold around LeadsToDirectory
  cases t.resolve p.parent with
  | error c => simp
  | ok other =>
    by_cases hdir : t.isDirectoryAt other
    · simp only [hdir, if_true]
      constructor
      · rintro ⟨⟩
        exact ⟨rfl, isDirectoryAt_iff.mp hdir⟩
      · rintro ⟨⟨⟩, -⟩
        rfl
    · simp only [hdir, if_false, reduceCtorEq, false_iff]
      rintro ⟨⟨⟩, h⟩
      apply hdir (isDirectoryAt_iff.mpr h)

/-- A directory is made exactly in a directory and under a name under which nothing
stands. -/
theorem makeDirectory_eq_ok_iff :
  t.makeDirectory p = .ok t' ↔
    ∃ around name, p = p.parent.descend [name] ∧ t.LeadsToDirectory p.parent around ∧
      t.entry? (name :: around) = none ∧ t' = t.withDirectories [name :: around]
  := by
  unfold makeDirectory
  constructor
  · intro h
    split at h
    · cases h
    · rename_i hparts
      split at h
      · cases h
      · rename_i around haround
        split at h
        · cases h
        · split at h
          · cases h
          · rename_i hlook
            split at h
            · cases h
            · rename_i name hname
              have hval := Name.eq_of_ofString? hname
              have hnone := entry?_of_lookup_error hname hlook
              rw [insert_eq_withDirectories hnone, Except.ok.injEq] at h
              refine ⟨around, name, ?_, around_eq_ok_iff.mp haround, hnone, h.symm⟩
              apply Path.eq_parent_descend hparts hval
          · cases h
  · rintro ⟨around, name, hp, haround, hnone, rfl⟩
    have hparts : p.parts ≠ [] := by
      rw [hp]
      simp [Path.descend]
    have hname : p.name = name.val := by
      rw [hp]
      simp [Path.descend, Path.name]
    rw [if_neg hparts, around_eq_ok_iff.mpr haround, hname]
    simp only [name.ne_up, if_false, lookup_name, hnone, Name.ofString?_val]
    rw [insert_eq_withDirectories hnone]

/-- The path leads to the directory that was made, which is empty in a tree without gaps. -/
theorem leadsTo_of_makeDirectory (h : t.makeDirectory p = .ok t') :
  ∃ place, t.entry? place = none ∧ t' = t.withDirectories [place] ∧
    t'.LeadsToDirectory p place ∧
    (t.IsClosed → t'.IsClosed ∧ ∀ name, t'.entry? (name :: place) = none)
  := by
  obtain ⟨around, name, hp, haround, hnone, rfl⟩ := makeDirectory_eq_ok_iff.mp h
  have hkeeps := t.keeps_withDirectories [name :: around]
  have hentry : FileTree.entry? (t.withDirectories [name :: around]) (name :: around)
      = some .directory := by
    simp [entry?_withDirectories, hnone]
  refine ⟨name :: around, hnone, rfl, ⟨?_, hentry⟩, fun ht => ⟨?_, ?_⟩⟩
  · obtain ⟨hresolve, hdir⟩ := hkeeps.leadsToDirectory haround
    obtain ⟨links, hreach⟩ := exists_reach hresolve
    rw [hp, resolve_eq_reach, reach_descend, hreach]
    dsimp only [Except.bind]
    rw [List.map_singleton, follow_down_of_entry (isDirectoryAt_iff.mpr hdir) hentry (by simp)]
    rfl
  · rw [← insert_eq_withDirectories hnone]
    apply ht.insert _ haround.2
    simp [hnone]
  · intro other
    rw [entry?_withDirectories, ht.entry?_cons (by rw [hnone]; simp)]
    simp

/-- A path leads to an empty directory of a tree without gaps. -/
def LeadsToEmpty (t : FileTree) (p : Path) : Prop :=
  t.IsClosed ∧ ∃ place, t.LeadsToDirectory p place ∧ ∀ name, t.entry? (name :: place) = none

theorem leadsToEmpty_of_makeDirectory (ht : t.IsClosed) (h : t.makeDirectory p = .ok t') :
  t'.LeadsToEmpty p
  := by
  obtain ⟨place, -, -, hleads, hclosed⟩ := leadsTo_of_makeDirectory h
  obtain ⟨hclosed, hempty⟩ := hclosed ht
  exact ⟨hclosed, place, hleads, hempty⟩

/-! ### Making a directory and those around it -/

/-- A tree gains directories, where nothing stood and where the beginnings of a path lead. -/
structure Gains (t : FileTree) (p : Path) (made : List Location) (t' : FileTree) : Prop where
  eq : t' = t.withDirectories made
  nodup : made.Nodup
  fresh : ∀ place ∈ made, t.entry? place = none
  led : ∀ place ∈ made, ∃ n, t'.LeadsToDirectory (p.front n) place
  closed : t.IsClosed → t'.IsClosed

namespace Gains

variable {made : List Location}

theorem nil (t : FileTree) (p : Path) :
  t.Gains p [] t
  where
  eq := t.withDirectories_nil.symm
  nodup := List.nodup_nil
  fresh := by simp
  led := by simp
  closed := id

theorem keeps (h : t.Gains p made t') :
  t.Keeps t'
  := by
  rw [h.eq]
  apply keeps_withDirectories

end Gains

/-- Making a directory has led to one: to the last directory that was gained, which is empty
in a tree without gaps, unless one that stood may be taken as made. -/
structure Reaches (t : FileTree) (p : Path) (existing : Bool) (made : List Location)
    (t' : FileTree) : Prop where
  directory : t'.isDirectory p
  last : existing = false → ∃ earlier place, made = earlier ++ [place] ∧
    t'.LeadsToDirectory p place ∧ (t.IsClosed → ∀ name, t'.entry? (name :: place) = none)

/-- A tree that has gained directories gains one more when it is made: the one that the path leads
to, empty in a tree without gaps. -/
theorem Gains.snoc {made : List Location} (h : t.Gains p made t') {n : Nat}
    (hmake : t'.makeDirectory (p.front n) = .ok t'') :
  ∃ place, t.Gains p (made ++ [place]) t'' ∧ t''.LeadsToDirectory (p.front n) place ∧
    (t.IsClosed → ∀ name, t''.entry? (name :: place) = none)
  := by
  obtain ⟨place, hnone, rfl, hleads, hclosed⟩ := leadsTo_of_makeDirectory hmake
  have hkeeps := t'.keeps_withDirectories [place]
  have hnew : t.entry? place = none ∧ place ∉ made := by
    rw [h.eq, entry?_withDirectories] at hnone
    simpa using hnone
  refine ⟨place, ⟨?_, ?_, ?_, ?_, ?_⟩, hleads, fun ht => (hclosed (h.closed ht)).2⟩
  · rw [h.eq, withDirectories_append]
  · rw [← List.concat_eq_append]
    apply List.Nodup.concat hnew.2 h.nodup
  · intro other hother
    obtain hother | hother := List.mem_append.mp hother
    · apply h.fresh other hother
    · obtain rfl := List.mem_singleton.mp hother
      apply hnew.1
  · intro other hother
    obtain hother | hother := List.mem_append.mp hother
    · obtain ⟨m, hm⟩ := h.led other hother
      exact ⟨m, hkeeps.leadsToDirectory hm⟩
    · obtain rfl := List.mem_singleton.mp hother
      exact ⟨n, hleads⟩
  · intro ht
    apply (hclosed (h.closed ht)).1

theorem Gains.makeDirectory {made : List Location} (h : t.Gains p made t') {n : Nat}
    (hmake : t'.makeDirectory (p.front n) = .ok t'') (existing : Bool) :
  ∃ made, t.Gains p made t'' ∧ t.Reaches (p.front n) existing made t''
  := by
  obtain ⟨place, hgains, hleads, hempty⟩ := h.snoc hmake
  exact ⟨made ++ [place], hgains, isDirectory_iff.mpr ⟨place, hleads⟩, fun _ =>
    ⟨made, place, rfl, hleads, hempty⟩⟩

/-- How it is settled what comes of a directory that is not made: it may stand already, and be
taken as made if that is allowed. -/
def Settles (t : FileTree) (p : Path) (existing : Bool) (n : Nat) (outcome : Except Cause Unit) :
    Prop :=
  (∃ c, outcome = .error c) ∨ outcome = .ok () ∧ existing = true ∧ t.isDirectory (p.front n)

/-- How the directory of the first components of a path and those around it are made: the
directory itself, if what is around it is there, and else after those around it. -/
inductive Makes (t : FileTree) (p : Path) : Bool → Nat → Except Cause Unit → FileTree → Prop where
  | made {existing n t'} : t.makeDirectory (p.front (n + 1)) = .ok t' →
      Makes t p existing (n + 1) (.ok ()) t'
  | kept {existing n outcome} : t.makeDirectory (p.front n) ≠ .error .notFound →
      (∀ t', t.makeDirectory (p.front n) ≠ .ok t') → t.Settles p existing n outcome →
      Makes t p existing n outcome t
  | failed {existing n c t'} : t.makeDirectory (p.front (n + 1)) = .error .notFound →
      Makes t p true n (.error c) t' → Makes t p existing (n + 1) (.error c) t'
  | madeLast {existing n around t'} : t.makeDirectory (p.front (n + 1)) = .error .notFound →
      Makes t p true n (.ok ()) around → around.makeDirectory (p.front (n + 1)) = .ok t' →
      Makes t p existing (n + 1) (.ok ()) t'
  | keptLast {existing n around outcome} : t.makeDirectory (p.front (n + 1)) = .error .notFound →
      Makes t p true n (.ok ()) around → (∀ t', around.makeDirectory (p.front (n + 1)) ≠ .ok t') →
      around.Settles p existing (n + 1) outcome → Makes t p existing (n + 1) outcome around

theorem eq_of_settle {existing : Bool} {depth : Nat} {c : Cause} {outcome : Except Cause Unit}
    (h : makeParents.settle p existing t depth c = (outcome, t')) :
  t' = t ∧ t.Settles p existing depth outcome
  := by
  unfold makeParents.settle at h
  split at h
  · rename_i hdir
    rw [Bool.and_eq_true] at hdir
    cases h
    exact ⟨rfl, .inr ⟨rfl, hdir⟩⟩
  · cases h
    exact ⟨rfl, .inl ⟨c, rfl⟩⟩

theorem makes_of_makeParents {existing : Bool} {depth : Nat} {outcome : Except Cause Unit}
    (h : t.makeParents p existing depth = (outcome, t')) :
  t.Makes p existing depth outcome t'
  := by
  induction depth generalizing existing outcome t' with
  | zero =>
    obtain ⟨rfl, hsettles⟩ := eq_of_settle h
    have hmake : t'.makeDirectory (p.front 0) = .error .exists := rfl
    exact .kept (by simp [hmake]) (by simp [hmake]) hsettles
  | succ depth ih =>
    have hfront : makeParents.upTo p (depth + 1) = p.front (depth + 1) := rfl
    rw [makeParents, hfront] at h
    split at h
    · rename_i hmake
      cases h
      exact .made hmake
    · rename_i hmissing
      split at h
      · rename_i hinner
        cases h
        exact .failed hmissing (ih hinner)
      · rename_i around hinner
        split at h
        · rename_i hmake
          cases h
          exact .madeLast hmissing (ih hinner) hmake
        · rename_i hmake
          cases h
          exact .keptLast hmissing (ih hinner) (by simp [hmake]) (.inl ⟨_, rfl⟩)
        · rename_i hmake
          obtain ⟨rfl, hsettles⟩ := eq_of_settle h
          exact .keptLast hmissing (ih hinner) (by simp [hmake]) hsettles
    · rename_i c hother hmake
      obtain ⟨rfl, hsettles⟩ := eq_of_settle h
      exact .kept (by simpa [hmake] using hother) (by simp [hmake]) hsettles

/-- A directory that is taken as made has been reached. -/
theorem Settles.reaches {existing : Bool} {n : Nat} {outcome : Except Cause Unit}
    (h : t'.Settles p existing n outcome) (made : List Location) (hok : outcome = .ok ()) :
  t.Reaches (p.front n) existing made t'
  := by
  obtain ⟨c, rfl⟩ | ⟨-, rfl, hdir⟩ := h
  · cases hok
  · exact ⟨hdir, by simp⟩

/-- Whatever comes of making a directory and those around it, the tree gains directories; if
it is made then it is reached. -/
theorem Makes.exists_gains {existing : Bool} {depth : Nat} {outcome : Except Cause Unit}
    (h : t.Makes p existing depth outcome t') :
  ∃ made, t.Gains p made t' ∧ (outcome = .ok () → t.Reaches (p.front depth) existing made t')
  := by
  induction h with
  | made hmake =>
    obtain ⟨made, hgains, hreaches⟩ := (Gains.nil t p).makeDirectory hmake _
    exact ⟨made, hgains, fun _ => hreaches⟩
  | kept _ _ hsettles => exact ⟨[], .nil t p, hsettles.reaches _⟩
  | failed _ _ ih =>
    obtain ⟨made, hgains, -⟩ := ih
    exact ⟨made, hgains, by simp⟩
  | madeLast _ _ hmake ih =>
    obtain ⟨made, hgains, -⟩ := ih
    obtain ⟨made, hgains, hreaches⟩ := hgains.makeDirectory hmake _
    exact ⟨made, hgains, fun _ => hreaches⟩
  | keptLast _ _ _ hsettles ih =>
    obtain ⟨made, hgains, -⟩ := ih
    exact ⟨made, hgains, hsettles.reaches _⟩

/-! ### What is there already -/

/-- Something is found at a path. -/
def Finds (t : FileTree) (p : Path) : Prop :=
  ∃ e, t.stat p = .ok e

theorem finds_of_isDirectory (h : t.isDirectory p) :
  t.Finds p
  := by
  obtain ⟨place, hresolve, hentry⟩ := isDirectory_iff.mp h
  use .directory
  rw [stat_of_resolve hresolve, hentry]

/-- A path with components is resolved from where the path around its last one leads. -/
theorem reach_eq_bind_parent (h : p.parts ≠ []) :
  t.reach p
    = (t.reach p.parent).bind fun spot =>
        t.follow spot.links spot.place [Step.ofPart p.name]
  := by
  have hsteps : p.steps = p.parent.steps ++ [Step.ofPart p.name] := by
    obtain ⟨origin, parts⟩ := p
    obtain hnil | ⟨front, part, rfl⟩ := List.eq_nil_or_concat' parts
    · apply absurd hnil h
    · simp [Path.steps, Path.parent, Path.name]
  rw [reach, hsteps]
  apply follow_append

/-- Steps can only be taken from a directory. -/
theorem entry?_of_follow {links : Nat} {place : Location} {step : Step} {steps : List Step}
    {spot : Spot} (h : t.follow links place (step :: steps) = .ok spot) :
  t.entry? place = some .directory
  := by
  obtain ⟨turn, hturn⟩ := exists_turns_of_follow h
  cases hturn <;> assumption

/-- A step down can only be taken to what is there. -/
theorem exists_lookup_of_follow {links : Nat} {place : Location} {part : String}
    {steps : List Step} {spot : Spot} (h : t.follow links place (.down part :: steps) = .ok spot) :
  ∃ found, t.lookup place part = .ok found
  := by
  obtain ⟨turn, hturn⟩ := exists_turns_of_follow h
  cases hturn with
  | along hdir hlink htarget => exact ⟨_, lookup_eq_ok_iff.mpr ⟨rfl, hlink⟩⟩
  | down hdir hentry hother => exact ⟨_, lookup_eq_ok_iff.mpr ⟨rfl, hentry⟩⟩

/-- What is found under the last component of a path is found in a directory. -/
theorem Finds.exists_parent (h : t.Finds p) (hparts : p.parts ≠ []) :
  ∃ around links spot, t.LeadsToDirectory p.parent around ∧
    t.follow links around [Step.ofPart p.name] = .ok spot
  := by
  obtain ⟨e, he⟩ := h
  cases hresolve : t.resolve p with
  | error c =>
    rw [stat, hresolve] at he
    cases he
  | ok place =>
    obtain ⟨links, hreach⟩ := exists_reach hresolve
    rw [reach_eq_bind_parent hparts] at hreach
    cases hparent : t.reach p.parent with
    | error c =>
      rw [hparent] at hreach
      cases hreach
    | ok spot =>
      rw [hparent] at hreach
      refine ⟨spot.place, spot.links, _, ⟨?_, entry?_of_follow hreach⟩, hreach⟩
      rw [resolve_eq_reach, hparent]
      rfl

/-- No directory can be made where something is found. -/
theorem makeDirectory_of_finds (hp : p.IsNormal) (h : t.Finds p) :
  t.makeDirectory p = .error .exists
  := by
  unfold makeDirectory
  split
  · rfl
  · rename_i hparts
    obtain ⟨around, links, spot, haround, hfollow⟩ := h.exists_parent hparts
    rw [around_eq_ok_iff.mpr haround]
    dsimp only
    split
    · rfl
    · rename_i hup
      have hdown : Step.ofPart p.name = .down p.name := by
        apply hp.ofPart_name hparts hup
      rw [hdown] at hfollow
      obtain ⟨found, hfound⟩ := exists_lookup_of_follow hfollow
      rw [hfound]

/-- What is found under the beginning of a path with one component more is found in a
directory. -/
theorem Finds.isDirectory_front {n : Nat} (hn : n < p.parts.length)
    (h : t.Finds (p.front (n + 1))) :
  t.isDirectory (p.front n)
  := by
  obtain ⟨around, -, -, haround, -⟩ := h.exists_parent (p.front_ne_nil hn)
  rw [p.parent_front hn] at haround
  apply isDirectory_iff.mpr ⟨around, haround⟩

/-- Beyond what is not found nothing is found. -/
theorem not_finds_front {n m : Nat} (h : ¬ t.Finds (p.front n)) (hnm : n ≤ m)
    (hm : m ≤ p.parts.length) :
  ¬ t.Finds (p.front m)
  := by
  induction m, hnm using Nat.le_induction with
  | base => exact h
  | succ m _ ih =>
    intro hfinds
    apply ih (Nat.le_of_lt hm)
    apply finds_of_isDirectory (hfinds.isDirectory_front hm)

/-- Nothing is made where something is found. -/
theorem Makes.eq_of_finds (hp : p.IsNormal) {existing : Bool} {n : Nat}
    {outcome : Except Cause Unit} (h : t.Makes p existing n outcome t')
    (hfinds : t.Finds (p.front n)) :
  t' = t
  := by
  have hexists := makeDirectory_of_finds (hp.front n) hfinds
  cases h with
  | kept => rfl
  | made hmake => exact absurd (hexists.symm.trans hmake) (by simp)
  | failed hmissing => exact absurd (hexists.symm.trans hmissing) (by simp)
  | madeLast hmissing => exact absurd (hexists.symm.trans hmissing) (by simp)
  | keptLast hmissing => exact absurd (hexists.symm.trans hmissing) (by simp)

/-- A directory can be made under any name in an empty one. -/
theorem LeadsToEmpty.exists_makeDirectory {n : Nat} (h : t.LeadsToEmpty (p.front n))
    (hn : n < p.parts.length) (hname : isName p.parts[n]) :
  ∃ t', t.makeDirectory (p.front (n + 1)) = .ok t'
  := by
  obtain ⟨-, place, hplace, hempty⟩ := h
  refine ⟨_, makeDirectory_eq_ok_iff.mpr ⟨place, ⟨_, hname⟩, ?_, ?_, hempty _, rfl⟩⟩
  · apply Path.eq_parent_descend (p.front_ne_nil hn) (p.name_front hn)
  · rw [p.parent_front hn]
    apply hplace

/-- What is not found is not taken as made. -/
theorem Settles.ne_ok {existing : Bool} {n : Nat} {outcome : Except Cause Unit}
    (h : t.Settles p existing n outcome) (hmissing : ¬ t.Finds (p.front n)) :
  outcome ≠ .ok ()
  := by
  obtain ⟨c, rfl⟩ | ⟨-, -, hdir⟩ := h
  · simp
  · apply absurd (finds_of_isDirectory hdir) hmissing

/-- If nothing but names follows the first component that is not found, then either all
directories are made or none. -/
theorem Makes.all_or_none (ht : t.IsClosed) (hp : p.IsNormal) {n : Nat}
    (hfound : t.Finds (p.front n)) (hmissing : ¬ t.Finds (p.front (n + 1)))
    (hnames : ∀ m (hm : m < p.parts.length), n < m → isName p.parts[m]) {existing : Bool}
    {depth : Nat} {outcome : Except Cause Unit} (h : t.Makes p existing depth outcome t')
    (hdeeper : n < depth) (hdepth : depth ≤ p.parts.length) :
  (outcome ≠ .ok () ∧ t' = t) ∨ (outcome = .ok () ∧ t'.LeadsToEmpty (p.front depth))
  := by
  induction h with
  | made hmake => exact .inr ⟨rfl, leadsToEmpty_of_makeDirectory ht hmake⟩
  | kept _ _ hsettles =>
    exact .inl ⟨hsettles.ne_ok (not_finds_front hmissing hdeeper hdepth), rfl⟩
  | failed _ hinner ih =>
    obtain rfl | hlt := Nat.eq_or_lt_of_le (Nat.le_of_lt_succ hdeeper)
    · exact .inl ⟨by simp, hinner.eq_of_finds hp hfound⟩
    · obtain ⟨-, heq⟩ | ⟨hok, -⟩ := ih hlt (Nat.le_of_lt hdepth)
      · exact .inl ⟨by simp, heq⟩
      · cases hok
  | @madeLast _ depth around _ hgap hinner hmake ih =>
    obtain rfl | hlt := Nat.eq_or_lt_of_le (Nat.le_of_lt_succ hdeeper)
    · rw [hinner.eq_of_finds hp hfound, hgap] at hmake
      cases hmake
    · obtain ⟨hok, -⟩ | ⟨-, hempty⟩ := ih hlt (Nat.le_of_lt hdepth)
      · apply absurd rfl hok
      · exact .inr ⟨rfl, leadsToEmpty_of_makeDirectory hempty.1 hmake⟩
  | @keptLast _ depth around _ hgap hinner hkept hsettles ih =>
    obtain rfl | hlt := Nat.eq_or_lt_of_le (Nat.le_of_lt_succ hdeeper)
    · have heq := hinner.eq_of_finds hp hfound
      rw [heq] at hsettles
      exact .inl ⟨hsettles.ne_ok hmissing, heq⟩
    · obtain ⟨hok, -⟩ | ⟨-, hempty⟩ := ih hlt (Nat.le_of_lt hdepth)
      · apply absurd rfl hok
      · obtain ⟨t₂, hlast⟩ := hempty.exists_makeDirectory hdepth (hnames depth hdepth hlt)
        apply absurd hlast (hkept t₂)

/-! ### When anything is made -/

theorem keeps_of_makeDirectory (h : t.makeDirectory p = .ok t') :
  t.Keeps t'
  := by
  obtain ⟨place, -, rfl, -⟩ := leadsTo_of_makeDirectory h
  apply keeps_withDirectories

/-- A tree that keeps a directory that was made is not the one before. -/
theorem ne_of_keeps (hmake : t.makeDirectory p = .ok t'') (hkeeps : t''.Keeps t') :
  t' ≠ t
  := by
  obtain ⟨place, hnone, -, hleads, -⟩ := leadsTo_of_makeDirectory hmake
  rintro rfl
  rw [hkeeps.entry hleads.2] at hnone
  cases hnone

/-- Beyond the beginning of a path at which a directory can be made nothing is found. -/
theorem reach_front_of_makeDirectory {n m : Nat}
    (hmake : t.makeDirectory (p.front (n + 1)) = .ok t') (hnm : n + 1 ≤ m)
    (hm : m ≤ p.parts.length) :
  t.reach (p.front m) = .error .notFound
  := by
  induction m, hnm using Nat.le_induction with
  | base =>
    obtain ⟨around, name, hfront, ⟨hresolve, hdir⟩, hnone, -⟩ := makeDirectory_eq_ok_iff.mp hmake
    rw [hfront]
    apply reach_descend_of_none hresolve hdir hnone
  | succ m _ ih =>
    rw [reach_eq_bind_parent (p.front_ne_nil hm), p.parent_front hm, ih (Nat.le_of_lt hm)]
    rfl

/-- No directory can be made beyond the beginning of a path at which one can. -/
theorem makeDirectory_beyond {n m : Nat} (hmake : t.makeDirectory (p.front (n + 1)) = .ok t')
    (hnm : n + 1 ≤ m) (hm : m < p.parts.length) :
  t.makeDirectory (p.front (m + 1)) = .error .notFound
  := by
  have haround : t.around (p.front (m + 1)) = .error .notFound := by
    rw [around, p.parent_front hm, resolve_eq_reach,
      reach_front_of_makeDirectory hmake hnm (Nat.le_of_lt hm)]
    rfl
  rw [makeDirectory, if_neg (p.front_ne_nil hm), haround]

/-- A directory that can be made at a beginning of a path is made with those of the path. -/
theorem Makes.keeps {n : Nat} (hmake : t.makeDirectory (p.front (n + 1)) = .ok t'')
    {existing : Bool} {depth : Nat} {outcome : Except Cause Unit}
    (h : t.Makes p existing depth outcome t') (hn : n + 1 ≤ depth)
    (hdepth : depth ≤ p.parts.length) :
  t''.Keeps t'
  := by
  -- a directory with nothing around it lies beyond the one that can be made
  have hbeyond : ∀ {m}, n + 1 ≤ m + 1 →
      t.makeDirectory (p.front (m + 1)) = .error .notFound → n + 1 ≤ m := by
    intro m hm hgap
    obtain rfl | hlt := Nat.eq_or_lt_of_le (Nat.le_of_succ_le_succ hm)
    · rw [hgap] at hmake
      cases hmake
    · exact hlt
  induction h with
  | made hmade =>
    obtain rfl | hlt := Nat.eq_or_lt_of_le (Nat.le_of_succ_le_succ hn)
    · rw [hmade] at hmake
      cases hmake
      apply Keeps.refl
    · rw [makeDirectory_beyond hmake hlt hdepth] at hmade
      cases hmade
  | kept hgap hnone _ =>
    obtain rfl | hlt := Nat.eq_or_lt_of_le hn
    · apply absurd hmake (hnone t'')
    · obtain ⟨depth, rfl⟩ := Nat.exists_eq_succ_of_ne_zero (Nat.ne_zero_of_lt hlt)
      apply absurd (makeDirectory_beyond hmake (Nat.le_of_lt_succ hlt) hdepth) hgap
  | failed hgap _ ih => apply ih (hbeyond hn hgap) (Nat.le_of_lt hdepth)
  | madeLast hgap _ hlast ih =>
    have hkeeps := ih (hbeyond hn hgap) (Nat.le_of_lt hdepth)
    apply hkeeps.trans (keeps_of_makeDirectory hlast)
  | keptLast hgap _ _ _ ih => apply ih (hbeyond hn hgap) (Nat.le_of_lt hdepth)

/-- If anything is made with the directories of a path, then one can be made at a beginning
of it. -/
theorem Makes.eq_or_exists {existing : Bool} {depth : Nat} {outcome : Except Cause Unit}
    (h : t.Makes p existing depth outcome t') :
  t' = t ∨ ∃ n t'', n < depth ∧ t.makeDirectory (p.front (n + 1)) = .ok t'' ∧
    (n + 1 = depth → outcome = .ok ())
  := by
  induction h with
  | @made _ depth _ hmake => exact .inr ⟨depth, _, Nat.lt_succ_self _, hmake, fun _ => rfl⟩
  | kept => exact .inl rfl
  | failed _ _ ih =>
    obtain heq | ⟨n, t'', hn, hmake, -⟩ := ih
    · exact .inl heq
    · exact .inr ⟨n, t'', Nat.lt_succ_of_lt hn, hmake, by omega⟩
  | madeLast hgap _ hlast ih =>
    obtain rfl | ⟨n, t'', hn, hmake, -⟩ := ih
    · rw [hgap] at hlast
      cases hlast
    · exact .inr ⟨n, t'', Nat.lt_succ_of_lt hn, hmake, fun _ => rfl⟩
  | keptLast _ _ _ _ ih =>
    obtain heq | ⟨n, t'', hn, hmake, -⟩ := ih
    · exact .inl heq
    · exact .inr ⟨n, t'', Nat.lt_succ_of_lt hn, hmake, by omega⟩

end FileTree

end SourceLocator
