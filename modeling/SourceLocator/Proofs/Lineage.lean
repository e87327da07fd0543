import SourceLocator.Proofs.Spelling
import SourceLocator.Proofs.Walk

/-!
# Lineages in a table

It makes no difference whether a walk hands lineages down or keeps them in a table
(`tabled_eq_below`): since no two directories of a walk are spelled alike, what is looked up is
always the lineage that would have been handed down, and the bound on the depth is not reached when
it exceeds the number of directories.
-/

namespace SourceLocator.Walk

variable {w : Walk} {t : FileTree}

/-- Names lead a walk to one directory, by one way. -/
theorem Visits.unique {names : List Name} {places places' : List Location}
    (h : w.Visits t names places) (h' : w.Visits t names places') :
  places = places'
  := by
  induction h generalizing places' with
  | root h =>
    generalize hnames : ([] : List Name) = names' at h'
    cases h' with
    | root h' => rw [Except.ok.inj (h.1.symm.trans h'.1)]
    | down _ _ _ _ => simp at hnames
  | @down names place places name place' _ _ _ hplace ih =>
    generalize hnames : names ++ [name] = names' at h'
    cases h' with
    | root h' => simp at hnames
    | down h' _ _ hplace' =>
      obtain ⟨rfl, hname⟩ := List.append_inj' hnames rfl
      cases hname
      rw [ih h', Except.ok.inj (hplace.1.symm.trans hplace'.1)]

/-! ### Tables -/

/-- What a table has under the spelling of a directory is the lineage of that directory. -/
def Notes (w : Walk) (t : FileTree) (table : Lineages) : Prop :=
  ∀ names places, table.lookup (walkSpelling w.root names) = some places →
    w.Visits t names places

/-- A table has something under every spelling under which another one has. -/
def Lineages.Grows (table table' : Lineages) : Prop :=
  ∀ spelling, (table.lookup spelling).isSome → (table'.lookup spelling).isSome

theorem notes_nil :
  w.Notes t []
  := by
  intro names places h
  cases h

/-- A table goes on noting lineages when that of another directory is added. -/
theorem Notes.cons {table : Lineages} {names : List Name} {places : List Location}
    (hroot : SpellsDirectory w.root.render.toList) (h : w.Notes t table)
    (hvisits : w.Visits t names places) :
  w.Notes t ((walkSpelling w.root names, places) :: table)
  := by
  intro names' places' hlookup
  rw [List.lookup_cons] at hlookup
  split at hlookup
  · rename_i hspelling
    cases hlookup
    rw [beq_iff_eq] at hspelling
    rwa [walkSpelling_injective hroot hspelling]
  · apply h names' places' hlookup

theorem Lineages.grows_cons (table : Lineages) (spelling : String) (places : List Location) :
  table.Grows ((spelling, places) :: table)
  := by
  intro spelling' h
  rw [List.lookup_cons]
  split
  · rfl
  · apply h

/-- Below a directory that has been noted, its lineage is looked up. -/
theorem Notes.above_eq {table : Lineages} {names : List Name} {places : List Location}
    (hroot : SpellsDirectory w.root.render.toList) (h : w.Notes t table)
    (hvisits : w.Visits t names places)
    (hnoted : (table.lookup (walkSpelling w.root names)).isSome) (name : Name) :
  table.above (walkSpelling w.root (names ++ [name])) = places
  := by
  rw [Lineages.above, parentSpelling_walkSpelling hroot]
  obtain ⟨places', hplaces'⟩ := Option.isSome_iff_exists.mp hnoted
  rw [hplaces']
  apply (h names places' hplaces').unique hvisits

/-! ### The two walks -/

/-- A walk with a table comes to the same as one without: it fails the same way, or finds
the same and leaves a table that notes more lineages. -/
def Agrees (w : Walk) (t : FileTree) (table : Lineages) (outcome : Outcome) :
    Except FileError (List Path) → Prop
  | .error e => outcome = some (.error e)
  | .ok found => ∃ table', outcome = some (.ok (found, table')) ∧ w.Notes t table' ∧
      table.Grows table'

/-- Below one directory the lineage that was noted for it is found for each entry, whatever
has been noted since. -/
theorem gatherTabled_agrees {names : List Name} {place : Location} {lineage : List Location}
    (depth : Nat) (children : List Name) (table : Lineages)
    (hroot : SpellsDirectory w.root.render.toList)
    (hvisits : w.Visits t names (place :: lineage))
    (hchild : ∀ name ∈ children, ∀ table, w.Notes t table →
      table.above (walkSpelling w.root (names ++ [name])) = place :: lineage →
      w.Agrees t table (w.tabled t depth (names ++ [name]) table)
        (w.below t (names ++ [name]) (place :: lineage)))
    (hnotes : w.Notes t table)
    (hnoted : (table.lookup (walkSpelling w.root names)).isSome) :
  w.Agrees t table (gatherTabled (fun name => w.tabled t depth (names ++ [name])) children table)
    (gather (fun name => w.below t (names ++ [name]) (place :: lineage)) children)
  := by
  induction children generalizing table with
  | nil => exact ⟨table, rfl, hnotes, fun _ h => h⟩
  | cons name children ih =>
    rw [List.forall_mem_cons] at hchild
    obtain ⟨hfirst, hchild⟩ := hchild
    have habove := hnotes.above_eq hroot hvisits hnoted name
    have hagrees := hfirst table hnotes habove
    rw [gather, gatherTabled]
    cases hbelow : w.below t (names ++ [name]) (place :: lineage) with
    | error e =>
      rw [hbelow] at hagrees
      have houtcome : w.tabled t depth (names ++ [name]) table = some (.error e) := hagrees
      rw [houtcome]
      rfl
    | ok found =>
      rw [hbelow] at hagrees
      obtain ⟨middle, houtcome, hmiddle, hgrows⟩ := hagrees
      rw [houtcome]
      have hrest := ih middle hchild hmiddle (hgrows _ hnoted)
      dsimp only
      cases hmore : gather (fun name => w.below t (names ++ [name]) (place :: lineage))
          children with
      | error e =>
        rw [hmore] at hrest
        have hrest : gatherTabled (fun name => w.tabled t depth (names ++ [name])) children middle
          = some (.error e) := hrest
        rw [hrest]
        rfl
      | ok more =>
        rw [hmore] at hrest
        obtain ⟨table', hrest, hnotes', hgrows'⟩ := hrest
        rw [hrest]
        exact ⟨table', rfl, hnotes', fun spelling h => hgrows' spelling (hgrows spelling h)⟩

/-- From a directory on the two walks come to the same, if the one looks up the lineage that
the other is handed and is not bound to be too deep. -/
def AgreesFrom (w : Walk) (t : FileTree) (names : List Name) (lineage : List Location) : Prop :=
  ∀ table depth,
    (∀ place, t.LeadsToDirectory (w.root.descend names) place →
      w.Visits t names (place :: lineage)) →
    w.Notes t table → table.above (walkSpelling w.root names) = lineage →
    (t.unvisited lineage).length < depth →
    w.Agrees t table (w.tabled t depth names table) (w.below t names lineage)

/-- The walks agree from a directory on that they enter if they agree from its entries on. -/
theorem agreesFrom_of_children {names : List Name} {place : Location}
    {lineage : List Location} {files : List Path}
    (hroot : SpellsDirectory w.root.render.toList)
    (hdir : t.LeadsToDirectory (w.root.descend names) place) (hl : place ∉ lineage)
    (hfiles : gather (w.fileAt t names) (t.names place) = .ok files)
    (hchild : ∀ name, w.AgreesFrom t (names ++ [name]) (place :: lineage)) :
  w.AgreesFrom t names lineage
  := by
  intro table depth hvisits hnotes habove hdepth
  have hfewer := FileTree.length_unvisited_lt (by simpa [FileTree.isDirectoryAt] using hdir.2) hl
  cases depth with
  | zero => omega
  | succ depth =>
    have hhere := hvisits place hdir
    -- the entries are gone through with the lineage of their directory noted
    let noted := (walkSpelling w.root names, place :: lineage) :: table
    let children := (t.names place).filter (w.descends t place names)
    have hchildren : ∀ name ∈ children, ∀ table, w.Notes t table →
        table.above (walkSpelling w.root (names ++ [name])) = place :: lineage →
        w.Agrees t table (w.tabled t depth (names ++ [name]) table)
          (w.below t (names ++ [name]) (place :: lineage)) := by
      intro name hname table hnotes habove
      obtain ⟨hname, hdesc⟩ := List.mem_filter.mp hname
      apply hchild name table depth _ hnotes habove (by omega)
      intro place' hplace'
      apply hhere.down hname hdesc hplace'
    have hgather := gatherTabled_agrees depth children noted hroot hhere hchildren
      (hnotes.cons hroot hhere) (by simp [noted])
    rw [below_of_not_mem hdir hl, tabled, FileTree.enter_eq_ok.mpr hdir, hfiles]
    dsimp only [Except.bind]
    rw [habove, if_neg (mt List.contains_iff_mem.mp hl), hfiles]
    cases hmore : gather (fun name => w.below t (names ++ [name]) (place :: lineage))
        children with
    | error e =>
      rw [hmore] at hgather
      have houtcome : gatherTabled (fun name => w.tabled t depth (names ++ [name])) children noted
          = some (.error e) := hgather
      rw [houtcome]
      rfl
    | ok more =>
      rw [hmore] at hgather
      obtain ⟨table', houtcome, hnotes', hgrows⟩ := hgather
      rw [houtcome]
      refine ⟨table', rfl, hnotes', ?_⟩
      intro spelling h
      apply hgrows
      apply Lineages.grows_cons table _ _ spelling h

/-- The walks agree from every directory on. -/
theorem agreesFrom (hroot : SpellsDirectory w.root.render.toList) (names : List Name)
    (lineage : List Location) :
  w.AgreesFrom t names lineage
  := by
  induction names, lineage using Walk.below.induct w t with
  | case1 names lineage c hc =>
    intro table depth _ _ _ hdepth
    cases depth with
    | zero => omega
    | succ depth =>
      rw [below_of_error hc, tabled, hc]
      rfl
  | case2 names lineage place hplace hl =>
    intro table depth _ _ habove hdepth
    cases depth with
    | zero => omega
    | succ depth =>
      rw [below_of_mem (FileTree.enter_eq_ok.mp hplace) hl, tabled, hplace]
      dsimp only
      rw [habove, if_pos (List.contains_iff_mem.mpr hl)]
      rfl
  | case3 names lineage place hplace hl e he =>
    intro table depth _ _ habove hdepth
    cases depth with
    | zero => omega
    | succ depth =>
      rw [below_of_not_mem (FileTree.enter_eq_ok.mp hplace) hl, tabled, hplace]
      dsimp only
      rw [habove, if_neg (mt List.contains_iff_mem.mp hl), he]
      rfl
  | case4 names lineage place hplace hl files hfiles e he ih =>
    apply agreesFrom_of_children hroot (FileTree.enter_eq_ok.mp hplace) hl hfiles ih
  | case5 names lineage place hplace hl files hfiles more hmore ih =>
    apply agreesFrom_of_children hroot (FileTree.enter_eq_ok.mp hplace) hl hfiles ih

/-- A walk from the root of a path that was read finds the same with a table, however deep
it may go beyond the number of directories. -/
theorem tabled_eq_below {s : String} (hroot : w.root = .ofString s) {depth : Nat}
    (hdepth : t.directories.length < depth) :
  (w.tabled t depth [] []).map (·.map (·.1)) = some (w.below t [] [])
  := by
  have hspells : SpellsDirectory w.root.render.toList := by
    rw [hroot]
    apply Path.spellsDirectory_render
  have hunvisited : (t.unvisited []).length ≤ t.directories.length := by
    apply List.length_filter_le
  have hagrees := agreesFrom hspells (t := t) [] [] [] depth
    (fun place hplace => .root (by simpa using hplace)) notes_nil rfl (by omega)
  cases hbelow : w.below t [] [] with
  | error e =>
    rw [hbelow] at hagrees
    have houtcome : w.tabled t depth [] [] = some (.error e) := hagrees
    rw [houtcome]
    rfl
  | ok found =>
    rw [hbelow] at hagrees
    obtain ⟨table, houtcome, -, -⟩ := hagrees
    rw [houtcome]
    rfl

end SourceLocator.Walk
