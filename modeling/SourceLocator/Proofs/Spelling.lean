import Mathlib.Data.List.DropRight
import SourceLocator.Scan

/-!
# Spellings of directories

A walk spells the directories it comes to by putting names behind the spelling of its root.
The way back is `parentSpelling`, which takes off the last component and the slashes before
it.  From the root of a path that was read, the two fit together: what a walk spells below a
directory lies in that directory (`parentSpelling_walkSpelling`), and no two directories of a
walk are spelled alike (`walkSpelling_injective`).
-/

namespace SourceLocator

/-- A text can spell a directory: it is not empty, and ends in a slash only if it holds
nothing else. -/
def SpellsDirectory (spelling : List Char) : Prop :=
  spelling ≠ [] ∧ (spelling.getLast? = some '/' → ∀ c ∈ spelling, c = '/')

/-- A text can be a component of a path. -/
def IsComponent (part : List Char) : Prop :=
  part ≠ [] ∧ '/' ∉ part

theorem Name.isComponent (name : Name) :
  IsComponent name.val.toList
  := by
  have h := name.property
  simp only [isName, Bool.and_eq_true, bne_iff_ne, List.all_eq_true] at h
  obtain ⟨⟨⟨⟨hempty, -⟩, -⟩, hall⟩, -⟩ := h
  constructor
  · intro hnil
    apply hempty
    apply String.toList_inj.mp hnil
  · intro hslash
    apply (hall _ hslash).1
    rfl

/-- The last character of a component is no slash. -/
theorem IsComponent.getLast?_append {part : List Char} (h : IsComponent part)
    (before : List Char) :
  ∃ c, (before ++ part).getLast? = some c ∧ c ≠ '/'
  := by
  obtain ⟨hne, hslash⟩ := h
  obtain hnil | ⟨cs, c, rfl⟩ := List.eq_nil_or_concat part
  · apply absurd hnil hne
  · use c
    constructor
    · simp
    · rintro rfl
      apply hslash
      simp

/-- What ends in a component spells a directory. -/
theorem IsComponent.spellsDirectory {part : List Char} (h : IsComponent part)
    (before : List Char) :
  SpellsDirectory (before ++ part)
  := by
  obtain ⟨c, hlast, hc⟩ := h.getLast?_append before
  constructor
  · intro hnil
    rw [hnil] at hlast
    cases hlast
  · intro hslash
    rw [hslash] at hlast
    cases hlast
    apply absurd rfl hc

/-! ### Names behind a spelling -/

theorem toList_joinSpelling (path name : String) :
  (joinSpelling path name).toList
    = (if path.toList.getLast? = some '/' then path.toList else path.toList ++ ['/'])
      ++ name.toList
  := by
  unfold joinSpelling
  split <;> simp

/-- A component behind a slash is what comes after the last slash. -/
theorem rdropWhile_append_of_slash {front part : List Char}
    (hfront : front.getLast? = some '/') (hpart : '/' ∉ part) :
  (front ++ part).rdropWhile (· != '/') = front
  := by
  induction part using List.reverseRecOn with
  | nil =>
    obtain ⟨front, rfl⟩ := List.getLast?_eq_some_iff.mp hfront
    rw [List.append_nil]
    apply List.rdropWhile_concat_neg
    simp
  | append_singleton part c ih =>
    rw [List.mem_append, not_or, List.mem_singleton] at hpart
    rw [← List.append_assoc, List.rdropWhile_concat_pos]
    · apply ih hpart.1
    · rw [bne_iff_ne]
      apply Ne.symm hpart.2

theorem parentSpelling_eq (spelling : String) :
  parentSpelling spelling = .ofList
    (if (spelling.toList.rdropWhile (· != '/')).all (· == '/') then
        spelling.toList.rdropWhile (· != '/')
      else (spelling.toList.rdropWhile (· != '/')).rdropWhile (· == '/'))
  := rfl

/-- What is put behind the spelling of a directory lies in it. -/
theorem parentSpelling_joinSpelling {path name : String}
    (hpath : SpellsDirectory path.toList) (hname : '/' ∉ name.toList) :
  parentSpelling (joinSpelling path name) = path
  := by
  obtain ⟨hne, hall⟩ := hpath
  rw [parentSpelling_eq, toList_joinSpelling]
  split
  · rename_i hslash
    have hslashes : path.toList.all (· == '/') = true := by
      rw [List.all_eq_true]
      intro c hc
      rw [beq_iff_eq]
      apply hall hslash c hc
    rw [rdropWhile_append_of_slash hslash hname]
    simp only [hslashes, if_true, String.ofList_toList]
  · rename_i hslash
    obtain ⟨cs, c, hcs⟩ : ∃ cs c, path.toList = cs ++ [c] := by
      obtain hnil | hconcat := List.eq_nil_or_concat' path.toList
      · apply absurd hnil hne
      · apply hconcat
    have hc : c ≠ '/' := by
      rintro rfl
      apply hslash
      simp [hcs]
    have hother : ((path.toList ++ ['/']).all (· == '/')) = false := by
      simp [hcs, hc]
    rw [rdropWhile_append_of_slash (by simp) hname]
    simp only [hother, Bool.false_eq_true, if_false]
    rw [List.rdropWhile_concat_pos _ _ _ rfl, hcs, List.rdropWhile_concat_neg _ _ _ (by simpa),
      ← hcs, String.ofList_toList]

/-- Components behind the spelling of a directory tell what they are put behind, and what
they are. -/
theorem joinSpelling_injective {path path' name name' : String}
    (hpath : SpellsDirectory path.toList) (hpath' : SpellsDirectory path'.toList)
    (hname : '/' ∉ name.toList) (hname' : '/' ∉ name'.toList)
    (h : joinSpelling path name = joinSpelling path' name') :
  path = path' ∧ name = name'
  := by
  obtain rfl : path = path' := by
    rw [← parentSpelling_joinSpelling hpath hname, h, parentSpelling_joinSpelling hpath' hname']
  constructor
  · rfl
  · apply String.toList_inj.mp
    have hlist := congrArg String.toList h
    rw [toList_joinSpelling, toList_joinSpelling] at hlist
    apply List.append_cancel_left hlist

theorem length_lt_joinSpelling (path : String) {name : String} (hname : name.toList ≠ []) :
  path.toList.length < (joinSpelling path name).toList.length
  := by
  have hpos := List.length_pos_iff.mpr hname
  rw [toList_joinSpelling, List.length_append]
  split
  · omega
  · rw [List.length_append]
    omega

/-! ### Spellings of a walk -/

section Walk

variable {root : Path}

theorem walkSpelling_append (names : List Name) (name : Name) :
  walkSpelling root (names ++ [name]) = joinSpelling (walkSpelling root names) name.val
  := by
  rw [walkSpelling, List.foldl_append]
  rfl

/-- A walk spells directories, if its root is one. -/
theorem spellsDirectory_walkSpelling (hroot : SpellsDirectory root.render.toList)
    (names : List Name) :
  SpellsDirectory (walkSpelling root names).toList
  := by
  obtain rfl | ⟨names, name, rfl⟩ := List.eq_nil_or_concat' names
  · apply hroot
  · rw [walkSpelling_append, toList_joinSpelling]
    apply name.isComponent.spellsDirectory

/-- What a walk spells below a directory lies in that directory. -/
theorem parentSpelling_walkSpelling (hroot : SpellsDirectory root.render.toList)
    (names : List Name) (name : Name) :
  parentSpelling (walkSpelling root (names ++ [name])) = walkSpelling root names
  := by
  rw [walkSpelling_append]
  apply parentSpelling_joinSpelling
  · apply spellsDirectory_walkSpelling hroot
  · apply name.isComponent.2

theorem length_le_walkSpelling (names : List Name) :
  root.render.toList.length ≤ (walkSpelling root names).toList.length
  := by
  induction names using List.reverseRecOn with
  | nil => apply Nat.le_refl
  | append_singleton names name ih =>
    rw [walkSpelling_append]
    apply Nat.le_trans ih
    apply Nat.le_of_lt
    apply length_lt_joinSpelling _ name.isComponent.1

/-- No two directories of a walk are spelled alike. -/
theorem walkSpelling_injective (hroot : SpellsDirectory root.render.toList) :
  Function.Injective (walkSpelling root)
  := by
  have hlonger : ∀ (names : List Name) (name : Name),
      walkSpelling root [] ≠ walkSpelling root (names ++ [name]) := by
    intro names name h
    have hlength := length_lt_joinSpelling (walkSpelling root names) name.isComponent.1
    rw [← walkSpelling_append, ← h] at hlength
    apply Nat.not_le.mpr hlength (length_le_walkSpelling names)
  intro names
  induction names using List.reverseRecOn with
  | nil =>
    intro names' h
    obtain rfl | ⟨names', name', rfl⟩ := List.eq_nil_or_concat' names'
    · rfl
    · apply absurd h (hlonger names' name')
  | append_singleton names name ih =>
    intro names' h
    obtain rfl | ⟨names', name', rfl⟩ := List.eq_nil_or_concat' names'
    · apply absurd h.symm (hlonger names name)
    · rw [walkSpelling_append, walkSpelling_append] at h
      obtain ⟨hnames, hname⟩ := joinSpelling_injective
        (spellsDirectory_walkSpelling hroot names) (spellsDirectory_walkSpelling hroot names')
        name.isComponent.2 name'.isComponent.2 h
      rw [ih hnames, Subtype.ext hname]

end Walk

/-! ### Paths that were read -/

/-- The pieces between slashes hold none. -/
theorem not_mem_of_mem_splitOn {cs piece : List Char} (h : piece ∈ cs.splitOn '/') :
  '/' ∉ piece
  := by
  induction cs generalizing piece with
  | nil =>
    rw [List.splitOn_nil, List.mem_singleton] at h
    rw [h]
    apply List.not_mem_nil
  | cons c cs ih =>
    rw [List.splitOn, List.splitOnP_cons_eq_if_modifyHead] at h
    split at h
    · obtain rfl | h := List.mem_cons.mp h
      · apply List.not_mem_nil
      · apply ih h
    · rename_i hc
      obtain ⟨first, more, hpieces⟩ :=
        List.exists_cons_of_ne_nil (List.splitOnP_ne_nil (· == '/') cs)
      have hih : ∀ piece ∈ first :: more, '/' ∉ piece := by
        intro piece hpiece
        apply ih
        rwa [List.splitOn, hpieces]
      rw [hpieces, List.modifyHead_cons] at h
      obtain rfl | h := List.mem_cons.mp h
      · rw [List.mem_cons, not_or]
        constructor
        · rintro rfl
          apply hc
          rfl
        · apply hih first List.mem_cons_self
      · apply hih piece (List.mem_cons_of_mem _ h)

namespace Path

theorem isComponent_of_mem_parts {s part : String} (h : part ∈ (ofString s).parts) :
  IsComponent part.toList
  := by
  obtain ⟨piece, hpiece, rfl⟩ := List.mem_map.mp h
  obtain ⟨hmem, hcomponent⟩ := List.mem_filter.mp hpiece
  simp only [Path.isComponent, Bool.and_eq_true, bne_iff_ne] at hcomponent
  rw [String.toList_ofList]
  constructor
  · apply hcomponent.1
  · apply not_mem_of_mem_splitOn hmem

/-- A path with components is spelled with the last one at the end. -/
theorem toList_render_append (origin : Origin) (parts : List String) (part : String) :
  ∃ before, (render ⟨origin, parts ++ [part]⟩).toList = before ++ part.toList
  := by
  have hrender : render ⟨origin, parts ++ [part]⟩
      = origin.render ++ String.intercalate "/" (parts ++ [part]) := by
    unfold render
    split
    · rename_i hparts
      simp at hparts
    · rfl
  rw [hrender]
  by_cases hparts : parts = []
  · use origin.render.toList
    simp [hparts]
  · use (origin.render ++ String.intercalate "/" parts ++ "/").toList
    rw [String.intercalate_append_of_ne_nil hparts (by simp)]
    simp

/-- The spelling of a path that was read spells a directory. -/
theorem spellsDirectory_render (s : String) :
  SpellsDirectory (ofString s).render.toList
  := by
  have hparts := fun part => @isComponent_of_mem_parts s part
  generalize ofString s = p at hparts
  obtain ⟨origin, parts⟩ := p
  obtain rfl | ⟨parts, part, rfl⟩ := List.eq_nil_or_concat' parts
  · cases origin with
    | here =>
      have hrender : (render ⟨.here, []⟩).toList = ['.'] := rfl
      rw [hrender]
      constructor
      · simp
      · simp
    | root =>
      have hrender : (render ⟨.root, []⟩).toList = ['/'] := rfl
      rw [hrender]
      constructor
      · simp
      · simp
    | doubleRoot =>
      have hrender : (render ⟨.doubleRoot, []⟩).toList = ['/', '/'] := rfl
      rw [hrender]
      constructor
      · simp
      · simp
  · obtain ⟨before, hrender⟩ := toList_render_append origin parts part
    rw [hrender]
    apply IsComponent.spellsDirectory
    apply hparts
    simp

end Path

end SourceLocator
