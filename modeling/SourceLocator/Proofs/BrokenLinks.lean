import Mathlib.Data.String.Basic
import SourceLocator.Proofs.GrownTrees
import SourceLocator.Proofs.LinkLimit
import SourceLocator.Proofs.WalkOutcomes

/-!
# Links that lead nowhere

A link that cannot be followed from where it stands, with all the links that may be followed, takes
no path anywhere (`AddsLink.resolve_of_broken`).  A tree that has one such link more is walked as it
was (`AddsBrokenLink.visits_iff`), and a scan of it finds the same files, unless it is refused an
answer about an entry: of a link with too long a name in its target it is not said that it is no
file, and the whole scan fails for it (`scan_insert_brokenLink`).
-/

namespace SourceLocator

open Text

namespace FileTree

variable {t t' : FileTree} {around : Location} {name : Name} {target : String}

/-! ### Trees with a link more -/

/-- A tree has a link more than another one, and is the same elsewhere. -/
structure AddsLink (t t' : FileTree) (around : Location) (name : Name) (target : String) :
    Prop where
  here : t'.here = t.here
  link : t'.entry? (name :: around) = some (.link target)
  fresh : t.entry? (name :: around) = none
  others {place : Location} : place ≠ name :: around → t'.entry? place = t.entry? place

theorem addsLink_insert (hnew : t.entry? (name :: around) = none) (target : String) :
  t.AddsLink (t.insert (name :: around) (.link target)) around name target
  where
  here := t.here_insert _ _
  link := by rw [entry?_insert (List.cons_ne_nil _ _), if_pos rfl]
  fresh := hnew
  others hne := by rw [entry?_insert (List.cons_ne_nil _ _), if_neg hne]

namespace AddsLink

theorem keeps (h : t.AddsLink t' around name target) :
  t.Keeps t'
  := by
  refine ⟨h.here, ?_⟩
  intro place e he
  rw [h.others, he]
  rintro rfl
  rw [h.fresh] at he
  cases he

/-- A step that leads anywhere leads along the new link, or where it led before. -/
theorem turns (h : t.AddsLink t' around name target) {place : Location} {step : Step} {turn : Turn}
    (hturn : t'.Turns place step (.ok turn)) :
  t.Turns place step (.ok turn) ∨
    turn = .along (targetStart around target) (Step.ofTarget target) ∧
      t'.entry? around = some .directory ∧ target ≠ ""
  := by
  have hbefore : ∀ {place}, t'.entry? place = some .directory →
      t.entry? place = some .directory := by
    intro place hdir
    rw [← h.others, hdir]
    rintro rfl
    rw [h.link] at hdir
    cases hdir
  cases hturn with
  | up hdir => exact .inl (.up (hbefore hdir))
  | stay hdir => exact .inl (.stay (hbefore hdir))
  | @along name' target' hdir hlink htarget =>
    by_cases hnew : name' :: place = name :: around
    · rw [hnew, h.link] at hlink
      cases hlink
      cases hnew
      exact .inr ⟨rfl, hdir, htarget⟩
    · rw [h.others hnew] at hlink
      exact .inl (.along (hbefore hdir) hlink htarget)
  | @down name' e hdir hentry hother =>
    have hne : name' :: place ≠ name :: around := by
      intro hnew
      rw [hnew, h.link] at hentry
      cases hentry
      apply hother _ rfl
    rw [h.others hne] at hentry
    exact .inl (.down (hbefore hdir) hentry hother)

/-- Steps that go on from no link as from the new one lead where they led before. -/
theorem advance (h : t.AddsLink t' around name target) {links : Nat}
    {jump jump' : Location → List Step → Except Cause Spot}
    (hjump : ∀ {place steps spot}, jump' place steps = .ok spot → jump place steps = .ok spot)
    (hnone : t'.entry? around = some .directory → target ≠ "" → ∀ steps spot,
      jump' (targetStart around target) (Step.ofTarget target ++ steps) ≠ .ok spot)
    {place : Location} {steps : List Step} {spot : Spot}
    (hsteps : t'.advance links jump' place steps = .ok spot) :
  t.advance links jump place steps = .ok spot
  := by
  induction steps generalizing place with
  | nil => exact hsteps
  | cons step steps ih =>
    obtain ⟨turn, hturn⟩ := t'.exists_turns place step
    rw [hturn.advance_cons] at hsteps
    cases turn with
    | error c => cases hsteps
    | ok turn =>
      obtain hturn | ⟨rfl, hdir, htarget⟩ := h.turns hturn
      · rw [hturn.advance_cons]
        cases turn with
        | arrives place' => exact ih hsteps
        | along start target => exact hjump hsteps
      · apply absurd hsteps (hnone hdir htarget _ _)

end AddsLink

/-- A link leads where the steps of its target lead, with one link less to follow. -/
theorem follow_link {links : Nat} (hdir : t.entry? around = some .directory)
    (hlink : t.entry? (name :: around) = some (.link target)) (htarget : target ≠ "") :
  t.follow (links + 1) around [.down name.val]
    = t.follow links (targetStart around target) (Step.ofTarget target)
  := by
  rw [FileTree.follow, (Turns.along hdir hlink htarget).advance_cons]
  dsimp only [Except.bind, goOn]
  rw [List.append_nil]

/-- A link to too long a name cannot be followed, and that is not because nothing is there. -/
theorem follow_link_of_long {links : Nat} (hdir : t.entry? around = some .directory)
    (hlink : t.entry? (name :: around) = some (.link target)) (hslash : '/' ∉ target.toList)
    (hlong : longestName < target.utf8ByteSize) :
  t.follow (links + 1) around [.down name.val] = .error .nameTooLong
  := by
  have htarget : target ≠ "" := by
    rintro rfl
    apply absurd hlong (by decide)
  have hsteps : Step.ofTarget target = [.down target] := by
    rw [Step.ofTarget, List.splitOn_eq_singleton hslash, List.map_singleton, String.ofList_toList,
      Step.ofPart_of_long hlong]
  have hstart : targetStart around target = around := by
    rw [targetStart, if_neg]
    intro hhead
    apply hslash (List.mem_of_head? hhead)
  rw [follow_link hdir hlink htarget, hsteps, hstart]
  apply (turns_of_long hdir hlong).follow_error

/-- So too long a name in the target is told of the link itself. -/
theorem stat_link_of_long {p : Path} (links : Nat) (hp : t.reach p = .ok ⟨around, links + 1⟩)
    (hdir : t.entry? around = some .directory)
    (hlink : t.entry? (name :: around) = some (.link target)) (hslash : '/' ∉ target.toList)
    (hlong : longestName < target.utf8ByteSize) :
  t.stat (p.descend [name]) = .error .nameTooLong
  := by
  rw [stat, resolve_eq_reach, reach_descend, hp]
  dsimp only [Except.bind]
  rw [List.map_singleton, follow_link_of_long hdir hlink hslash hlong]
  rfl

namespace AddsLink

/-- If the new link leads nowhere with all the links that may be followed, then no steps lead
further than before. -/
theorem follow (h : t.AddsLink t' around name target)
    (hbroken : (t'.follow linkLimit around [.down name.val]).isOk = false) {links : Nat}
    (hlinks : links ≤ linkLimit) {place : Location} {steps : List Step} {spot : Spot}
    (hsteps : t'.follow links place steps = .ok spot) :
  t.follow links place steps = .ok spot
  := by
  induction links generalizing place steps spot with
  | zero =>
    apply h.advance _ _ hsteps
    · rintro _ _ _ ⟨⟩
    · rintro _ _ _ _ ⟨⟩
  | succ links ih =>
    apply h.advance (ih (Nat.le_of_lt hlinks)) _ hsteps
    intro hdir htarget rest spot' hrest
    -- the target would lead somewhere by itself, and so would the link
    rw [follow_append] at hrest
    cases hown : t'.follow links (targetStart around target) (Step.ofTarget target) with
    | error c' =>
      rw [hown] at hrest
      cases hrest
    | ok reached =>
      rw [← follow_link hdir h.link htarget] at hown
      obtain ⟨more, hmore⟩ := Nat.exists_eq_add_of_le hlinks
      rw [hmore, follow_add_of_ok hown] at hbroken
      cases hbroken

theorem resolve_of_broken (h : t.AddsLink t' around name target)
    (hbroken : (t'.follow linkLimit around [.down name.val]).isOk = false) {p : Path}
    {place : Location} (hp : t'.resolve p = .ok place) :
  t.resolve p = .ok place
  := by
  obtain ⟨links, hreach⟩ := exists_reach hp
  rw [FileTree.reach, h.keeps.origin] at hreach
  have hbefore : t.reach p = .ok ⟨place, links⟩ := h.follow hbroken (Nat.le_refl _) hreach
  rw [resolve_eq_reach, hbefore]
  rfl

theorem broken_of_own (h : t.AddsLink t' around name target)
    (hbroken : (t'.follow linkLimit around [.down name.val]).isOk = false) (p : Path) (c : Cause)
    (hp : t.resolve p = .error c) :
  ∃ c', t'.resolve p = .error c'
  := by
  cases hnow : t'.resolve p with
  | error c' => exact ⟨c', rfl⟩
  | ok place =>
    rw [h.resolve_of_broken hbroken hnow] at hp
    cases hp

end AddsLink

/-- A tree has a link more than another one, and no path leads anywhere that did not before. -/
structure AddsBrokenLink (t t' : FileTree) (around : Location) (name : Name) (target : String) :
    Prop extends t.AddsLink t' around name target where
  broken : ∀ p c, t.resolve p = .error c → ∃ c', t'.resolve p = .error c'

namespace AddsBrokenLink

variable {p : Path}

theorem resolve_eq_ok_iff (h : t.AddsBrokenLink t' around name target) {place : Location} :
  t'.resolve p = .ok place ↔ t.resolve p = .ok place
  := by
  constructor
  · intro hp
    cases hbefore : t.resolve p with
    | ok place' =>
      rw [h.keeps.resolve hbefore] at hp
      exact hp
    | error c =>
      obtain ⟨c', hc'⟩ := h.broken p c hbefore
      rw [hc'] at hp
      cases hp
  · apply h.keeps.resolve

theorem entry?_eq_some_iff (h : t.AddsBrokenLink t' around name target) {place : Location}
    {e : Entry} (he : ∀ target, e ≠ .link target) :
  t'.entry? place = some e ↔ t.entry? place = some e
  := by
  by_cases hplace : place = name :: around
  · subst hplace
    rw [h.link, h.fresh, Option.some.injEq]
    simp only [reduceCtorEq, iff_false]
    apply Ne.symm (he _)
  · rw [h.others hplace]

theorem leadsToDirectory_iff (h : t.AddsBrokenLink t' around name target) {place : Location} :
  t'.LeadsToDirectory p place ↔ t.LeadsToDirectory p place
  := and_congr h.resolve_eq_ok_iff (h.entry?_eq_some_iff (by simp))

theorem isDirectory_eq (h : t.AddsBrokenLink t' around name target) (p : Path) :
  t'.isDirectory p = t.isDirectory p
  := by
  rw [Bool.eq_iff_iff, isDirectory_iff, isDirectory_iff]
  apply exists_congr
  intro place
  apply h.leadsToDirectory_iff

/-- The path of the new link leads nowhere. -/
theorem resolve_link (h : t.AddsBrokenLink t' around name target)
    (hp : t.LeadsToDirectory p around) :
  ∃ c, t'.resolve (p.descend [name]) = .error c
  := by
  apply h.broken _ .notFound
  rw [resolve_eq_reach, reach_descend_of_none hp.1 hp.2 h.fresh]
  rfl

theorem leadsToFile_iff (h : t.AddsBrokenLink t' around name target) :
  t'.LeadsToFile p ↔ t.LeadsToFile p
  := by
  apply exists_congr
  intro bytes
  rw [stat_eq_ok_iff, stat_eq_ok_iff]
  apply exists_congr
  intro place
  rw [h.resolve_eq_ok_iff, h.entry?_eq_some_iff (by simp)]

/-! ### Walks beside the link -/

theorem mem_names_iff (h : t.AddsBrokenLink t' around name target) {place : Location} {name' : Name}
    (hne : name' :: place ≠ name :: around) :
  name' ∈ t'.names place ↔ name' ∈ t.names place
  := by
  rw [mem_names, mem_names, h.others hne]

/-- An entry whose path leads somewhere is not the new link. -/
theorem mem_names_of_resolve (h : t.AddsBrokenLink t' around name target) {place : Location}
    (hplace : t.LeadsToDirectory p place) {name' : Name} (hname : name' ∈ t'.names place)
    {place' : Location} (hp : t'.resolve (p.descend [name']) = .ok place') :
  name' ∈ t.names place
  := by
  rwa [← h.mem_names_iff]
  rintro ⟨⟩
  obtain ⟨c, hc⟩ := h.resolve_link hplace
  rw [hc] at hp
  cases hp

theorem descends_eq (h : t.AddsBrokenLink t' around name target) (w : Walk) (place : Location)
    (names : List Name) (name' : Name) :
  w.descends t' place names name' = w.descends t place names name'
  := by
  have hat : t'.isDirectoryAt (name' :: place) = t.isDirectoryAt (name' :: place) := by
    rw [Bool.eq_iff_iff, isDirectoryAt_iff, isDirectoryAt_iff]
    apply h.entry?_eq_some_iff (by simp)
  rw [Walk.descends, Walk.descends, h.isDirectory_eq, hat]

/-- A walk visits what it visited, up to a directory that comes twice. -/
theorem visits_iff (h : t.AddsBrokenLink t' around name target) {w : Walk} {names : List Name}
    {places : List Location} (hnodup : places.tail.Nodup) :
  w.Visits t' names places ↔ w.Visits t names places
  := by
  constructor
  · intro hvisits
    apply Walk.Visits.of_steps _ _ hvisits hnodup
    · intro place
      apply h.leadsToDirectory_iff.mp
    · intro names place places name' place' _ hvisits _ hname hdesc hplace
      rw [h.descends_eq] at hdesc
      refine ⟨?_, hdesc, h.leadsToDirectory_iff.mp hplace⟩
      rw [← Path.descend_descend] at hplace
      apply h.mem_names_of_resolve hvisits.leadsTo hname hplace.1
  · intro hvisits
    apply Walk.Visits.of_steps _ _ hvisits hnodup
    · intro place
      apply h.leadsToDirectory_iff.mpr
    · intro names place places name' place' _ _ _ hname hdesc hplace
      rw [← h.descends_eq] at hdesc
      exact ⟨h.keeps.mem_names hname, hdesc, h.leadsToDirectory_iff.mpr hplace⟩

theorem comesRound_iff (h : t.AddsBrokenLink t' around name target) {w : Walk} :
  w.ComesRound t' ↔ w.ComesRound t
  := by
  constructor
  · apply Walk.ComesRound.of_visits
    exact fun hvisits hnodup => (h.visits_iff hnodup).mp hvisits
  · apply Walk.ComesRound.of_visits
    exact fun hvisits hnodup => (h.visits_iff hnodup).mpr hvisits

/-- A walk asks about all that it asked about. -/
theorem asksAbout (h : t.AddsBrokenLink t' around name target) {w : Walk} {names : List Name}
    {name' : Name} (hasks : w.AsksAbout t names name') :
  w.AsksAbout t' names name'
  := by
  obtain ⟨place, places, hvisits, hnodup, hname⟩ := hasks
  exact ⟨place, places, (h.visits_iff hnodup.tail).mpr hvisits, hnodup, h.keeps.mem_names hname⟩

/-- What a walk asks about and finds to lead somewhere it asked about before. -/
theorem asksAbout_of_resolve (h : t.AddsBrokenLink t' around name target) {w : Walk}
    {names : List Name} {name' : Name} (hasks : w.AsksAbout t' names name') {place : Location}
    (hp : t'.resolve (w.root.descend (names ++ [name'])) = .ok place) :
  w.AsksAbout t names name'
  := by
  obtain ⟨place, places, hvisits, hnodup, hname⟩ := hasks
  have hbefore := (h.visits_iff hnodup.tail).mp hvisits
  rw [← Path.descend_descend] at hp
  exact ⟨place, places, hbefore, hnodup, h.mem_names_of_resolve hbefore.leadsTo hname hp⟩

/-- Where a walk met a refusal it still meets one. -/
theorem meetsRefusal (h : t.AddsBrokenLink t' around name target) {w : Walk}
    (hrefusal : w.MeetsRefusal t) :
  w.MeetsRefusal t'
  := by
  obtain ⟨names, name', hasks, hwants, hstat⟩ := hrefusal
  refine ⟨names, name', h.asksAbout hasks, hwants, ?_⟩
  rw [h.keeps.stat_eq (by rw [hstat]; rintro ⟨⟩), hstat]

/-! ### Scans beside the link -/

variable {root : Path}

/-- A scan fails where it failed, and if it meets a refusal. -/
theorem isOk_scanFrom_iff (h : t.AddsBrokenLink t' around name target) (hroot : t.isDirectory root)
    (extension : String) (followLinks : Bool) :
  (t'.scanFrom root extension followLinks).isOk ↔
    (t.scanFrom root extension followLinks).isOk ∧
      ¬ Walk.MeetsRefusal ⟨root, lowercase extension.toList, followLinks⟩ t'
  := by
  have hroot' : t'.isDirectory root := by rwa [h.isDirectory_eq]
  rw [FileTree.isOk_scanFrom_iff hroot', FileTree.isOk_scanFrom_iff hroot, h.comesRound_iff]
  constructor
  · rintro ⟨hround, hnone⟩
    exact ⟨⟨hround, mt h.meetsRefusal hnone⟩, hnone⟩
  · rintro ⟨⟨hround, -⟩, hnone⟩
    exact ⟨hround, hnone⟩

/-- A scan that does not fail finds what it found. -/
theorem mem_files_scanFrom_iff (h : t.AddsBrokenLink t' around name target)
    (hroot : t.isDirectory root) {extension : String} {followLinks : Bool}
    (hok : (t'.scanFrom root extension followLinks).isOk) :
  p ∈ (t'.scanFrom root extension followLinks).files ↔
    p ∈ (t.scanFrom root extension followLinks).files
  := by
  have hbefore := ((h.isOk_scanFrom_iff hroot extension followLinks).mp hok).1
  rw [FileTree.mem_files_scanFrom_iff hok, FileTree.mem_files_scanFrom_iff hbefore]
  constructor
  · rintro ⟨names, name', hasks, rfl, hext, bytes, hfile⟩
    obtain ⟨place, hplace, -⟩ := stat_eq_ok_iff.mp hfile
    exact ⟨names, name', h.asksAbout_of_resolve hasks hplace, rfl, hext,
      h.leadsToFile_iff.mp ⟨bytes, hfile⟩⟩
  · rintro ⟨names, name', hasks, rfl, hext, hfile⟩
    exact ⟨names, name', h.asksAbout hasks, rfl, hext, h.leadsToFile_iff.mpr hfile⟩

end AddsBrokenLink

/-- A link is added that leads nowhere, and no path leads anywhere for it.  A scan does not find the
link.  If the walk is not refused an answer about any entry then the scan fails if it failed before,
and has the same files.  If it is refused one then the scan fails and has no files; that cannot be
when no name in the target of any link is too long. -/
theorem scan_insert_brokenLink (t : FileTree) (around : Location) (name : Name) (target : String)
    (hnew : t.entry? (name :: around) = none)
    (hbroken : ∀ p c, t.resolve p = .error c →
      ∃ c', FileTree.resolve (t.insert (name :: around) (.link target)) p = .error c')
    (root : Path) (hroot : t.isDirectory root) (extension : String) (followLinks : Bool) :
  ∃ r r', t.scan root extension followLinks = .ok r ∧
    FileTree.scan (t.insert (name :: around) (.link target)) root extension followLinks = .ok r' ∧
    (∀ p, t.LeadsToDirectory p around → p.descend [name] ∉ r'.files) ∧
    (¬ Walk.MeetsRefusal ⟨root, lowercase extension.toList, followLinks⟩
        (t.insert (name :: around) (.link target)) →
      (r'.isOk ↔ r.isOk) ∧ ∀ p, p ∈ r'.files ↔ p ∈ r.files) ∧
    (Walk.MeetsRefusal ⟨root, lowercase extension.toList, followLinks⟩
        (t.insert (name :: around) (.link target)) →
      ¬ r'.isOk ∧ r'.files = .empty) ∧
    (LinksFit (t.insert (name :: around) (.link target)) →
      ¬ Walk.MeetsRefusal ⟨root, lowercase extension.toList, followLinks⟩
        (t.insert (name :: around) (.link target)))
  := by
  have h : t.AddsBrokenLink (t.insert (name :: around) (.link target)) around name target :=
    ⟨addsLink_insert hnew target, hbroken⟩
  generalize t.insert (name :: around) (.link target) = t' at h
  have hnul := hasNul_eq_false_of_stat (stat_of_isDirectory hroot)
  have hok := h.isOk_scanFrom_iff hroot extension followLinks
  refine ⟨_, _, scan_of_hasNul_eq_false hnul _ _, scan_of_hasNul_eq_false hnul _ _, ?_, ?_, ?_, ?_⟩
  · intro p hp hmem
    obtain ⟨c, hc⟩ := h.resolve_link hp
    obtain ⟨bytes, hfile⟩ := leadsToFile_of_mem_scanFrom hmem
    rw [stat, hc] at hfile
    cases hfile
  · intro hnone
    rw [and_iff_left hnone] at hok
    refine ⟨hok, ?_⟩
    intro p
    by_cases hnow : (t'.scanFrom root extension followLinks).isOk
    · apply h.mem_files_scanFrom_iff hroot hnow
    · rw [files_scanFrom_of_not_isOk hnow, files_scanFrom_of_not_isOk (mt hok.mpr hnow)]
  · intro hrefusal
    have hfails : ¬ (t'.scanFrom root extension followLinks).isOk := fun hnow =>
      (hok.mp hnow).2 hrefusal
    exact ⟨hfails, files_scanFrom_of_not_isOk hfails⟩
  · rintro hfit ⟨names, name', -, hrefused⟩
    obtain ⟨place, hplace⟩ := isDirectory_iff.mp hroot
    apply Walk.not_isRefused hfit (h.keeps.resolve hplace.1) names name' hrefused

/-- A tree seen from `top`, in which `One.java` is a file. -/
def singleTree : FileTree where
  entries :=
    [([⟨"top", by decide⟩], .directory),
     ([⟨"One.java", by decide⟩, ⟨"top", by decide⟩], .file [])]
  here := [⟨"top", by decide⟩]

/-- The tree with a link `x.java` beside the file. -/
def linkedTo (target : String) : FileTree :=
  singleTree.insert [⟨"x.java", by decide⟩, ⟨"top", by decide⟩] (.link target)

/-- A link to nothing makes no difference. -/
theorem scan_insert_brokenLink_singleTree :
  singleTree.entry? [⟨"x.java", by decide⟩, ⟨"top", by decide⟩] = none ∧
    (∀ p c, singleTree.resolve p = .error c → ∃ c', (linkedTo "gone").resolve p = .error c') ∧
    singleTree.isDirectory (.ofString ".") ∧
    ∃ r r', singleTree.scan (.ofString ".") ".java" true = .ok r ∧
      (linkedTo "gone").scan (.ofString ".") ".java" true = .ok r' ∧
      .ofString "x.java" ∉ r'.files ∧ (r'.isOk ↔ r.isOk) ∧ ∀ p, p ∈ r'.files ↔ p ∈ r.files
  := by
  have hnew : singleTree.entry? [⟨"x.java", by decide⟩, ⟨"top", by decide⟩] = none := by decide
  have hbroken : ∀ p c, singleTree.resolve p = .error c →
      ∃ c', (linkedTo "gone").resolve p = .error c' :=
    (addsLink_insert hnew "gone").broken_of_own (by decide)
  have hroot : singleTree.isDirectory (.ofString ".") := by decide
  obtain ⟨r, r', hr, hr', hlink, hsame, -, hfit⟩ := scan_insert_brokenLink singleTree
    [⟨"top", by decide⟩] ⟨"x.java", by decide⟩ "gone" hnew hbroken _ hroot ".java" true
  obtain ⟨hok, hfiles⟩ := hsame (hfit (by decide))
  exact ⟨hnew, hbroken, hroot, r, r', hr, hr', hlink (.ofString ".") ⟨rfl, rfl⟩, hok, hfiles⟩

/-- A target of one name that has a byte more than a name may have. -/
def longTarget : String :=
  String.ofList (List.replicate (longestName + 1) 'a')

/-- A link whose target is too long a name leads nowhere either, but the scan fails for it. -/
theorem scan_longTarget :
  singleTree.entry? [⟨"x.java", by decide⟩, ⟨"top", by decide⟩] = none ∧
    (∀ p c, singleTree.resolve p = .error c → ∃ c', (linkedTo longTarget).resolve p = .error c') ∧
    singleTree.isDirectory (.ofString ".") ∧
    singleTree.scan (.ofString ".") ".java" false
      = .ok ⟨.ofString ".", .ofList [.ofString "One.java"], none⟩ ∧
    ∃ r', (linkedTo longTarget).scan (.ofString ".") ".java" false = .ok r' ∧ ¬ r'.isOk ∧
      r'.files = .empty
  := by
  have hnew : singleTree.entry? [⟨"x.java", by decide⟩, ⟨"top", by decide⟩] = none := by decide
  have hadds := addsLink_insert hnew longTarget
  have hslash : '/' ∉ longTarget.toList := by
    intro hmem
    rw [longTarget, String.toList_ofList] at hmem
    cases List.eq_of_mem_replicate hmem
  have hlong : longestName < longTarget.utf8ByteSize := by
    rw [longTarget, String.utf8ByteSize_ofList]
    decide +kernel
  have hdir : FileTree.entry? (linkedTo longTarget) [⟨"top", by decide⟩] = some .directory := rfl
  have hbroken : ((linkedTo longTarget).follow linkLimit [⟨"top", by decide⟩] [.down "x.java"]).isOk
      = false := congrArg Except.isOk (follow_link_of_long hdir hadds.link hslash hlong)
  have hbefore : Walk.below ⟨.ofString ".", lowercase ".java".toList, false⟩ singleTree [] []
      = .ok [.ofString "One.java"] := by
    rw [Walk.below_of_not_mem ⟨rfl, rfl⟩ (by simp)]
    decide +kernel
  have hrefusal : Walk.MeetsRefusal ⟨.ofString ".", lowercase ".java".toList, false⟩
      (linkedTo longTarget) := by
    refine ⟨[], ⟨"x.java", by decide⟩, ⟨_, [], .root ⟨rfl, hdir⟩, by simp, by decide⟩,
      by decide +kernel, ?_⟩
    apply stat_link_of_long 39 rfl hdir hadds.link hslash hlong
  have hfails : ¬ ((linkedTo longTarget).scanFrom (.ofString ".") ".java" false).isOk := by
    rw [isOk_scanFrom_iff (isDirectory_iff.mpr ⟨_, rfl, hdir⟩)]
    exact fun h => h.2 hrefusal
  refine ⟨hnew, hadds.broken_of_own hbroken, by decide, ?_, _,
    scan_of_hasNul_eq_false (by decide) _ _, hfails, files_scanFrom_of_not_isOk hfails⟩
  rw [scan_of_hasNul_eq_false (by decide), scanFrom_of_ok hbefore]

end FileTree

end SourceLocator
