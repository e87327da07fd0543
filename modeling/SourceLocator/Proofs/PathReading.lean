import SourceLocator.Proofs.Resolution
import SourceLocator.Proofs.Spelling

/-!
# Reading paths back

A path that was read is normal: its parts are components, and none is a single dot.  A normal
path is read back from its spelling (`Path.ofString_render`), and so is the directory that a
walk has come to from the spelling that the walk has for it (`Path.ofString_walkSpelling`),
however the root is written.  What follows a root in a path is what leads there from the root
(`Path.relativeTo?_eq_some_iff`).
-/

namespace SourceLocator

/-- A name is no single dot. -/
theorem Name.ne_dot (name : Name) :
  name.val ≠ "."
  := by
  have h := name.property
  simp only [isName, Bool.and_eq_true, bne_iff_ne] at h
  apply h.1.1.1.2

namespace Path

/-- A path is made of components, none of which is a single dot. -/
def IsNormal (p : Path) : Prop :=
  ∀ part ∈ p.parts, IsComponent part.toList ∧ part ≠ "."

/-- A path that was read is normal. -/
theorem isNormal_ofString (s : String) :
  (ofString s).IsNormal
  := by
  intro part hpart
  use isComponent_of_mem_parts hpart
  rintro rfl
  obtain ⟨piece, hpiece, hdot⟩ := List.mem_map.mp hpart
  obtain rfl : piece = ['.'] := by
    rw [← String.toList_ofList (l := piece), hdot]
    rfl
  simp [isComponent] at hpiece

/-! ### Where a text starts -/

/-- A text is a number of slashes and something that does not begin with one. -/
theorem exists_slashes (cs : List Char) :
  ∃ n rest, cs = List.replicate n '/' ++ rest ∧ rest.head? ≠ some '/'
  := by
  induction cs with
  | nil => exact ⟨0, [], rfl, by simp⟩
  | cons c cs ih =>
    by_cases hc : c = '/'
    · obtain ⟨n, rest, rfl, hrest⟩ := ih
      exact ⟨n + 1, rest, by rw [hc]; rfl, hrest⟩
    · exact ⟨0, c :: cs, rfl, by simpa using hc⟩

/-- Two slashes in front of a text make it start elsewhere than one or more of them. -/
theorem originOf_slashes (n : Nat) {rest : List Char} (h : rest.head? ≠ some '/') :
  originOf (List.replicate n '/' ++ rest)
    = match n with
      | 0 => .here
      | 2 => .doubleRoot
      | _ => .root
  := by
  have hrest : ∀ more, rest = '/' :: more → False := by
    rintro more rfl
    apply h rfl
  match n with
  | 0 => exact originOf.eq_4 rest (fun _ => hrest _) (fun _ => hrest _) hrest
  | 1 => exact originOf.eq_3 rest (fun _ => hrest _) hrest
  | 2 => exact originOf.eq_2 rest hrest
  | n + 3 => exact originOf.eq_1 _

/-- What is put behind a text does not change where the text starts, unless the text holds
nothing but slashes and is continued by one. -/
theorem originOf_append {front more : List Char}
    (h : (∃ c ∈ front, c ≠ '/') ∨ more.head? ≠ some '/') :
  originOf (front ++ more) = originOf front
  := by
  obtain ⟨n, rest, rfl, hrest⟩ := exists_slashes front
  have hmore : (rest ++ more).head? ≠ some '/' := by
    cases rest with
    | nil =>
      obtain ⟨c, hc, hne⟩ | hmore := h
      · rw [List.append_nil] at hc
        apply absurd (List.eq_of_mem_replicate hc) hne
      · apply hmore
    | cons c rest => exact hrest
  rw [List.append_assoc, originOf_slashes n hmore, originOf_slashes n hrest]

/-- A text that stands behind an origin and begins with no slash starts there. -/
theorem originOf_render_append (origin : Origin) {cs : List Char} (h : cs.head? ≠ some '/') :
  originOf (origin.render.toList ++ cs) = origin
  := by
  cases origin with
  | here => apply originOf_slashes 0 h
  | root => apply originOf_slashes 1 h
  | doubleRoot => apply originOf_slashes 2 h

/-! ### Components of a text -/

/-- The slashes of an origin stand before no component. -/
theorem filter_splitOn_origin (origin : Origin) (cs : List Char) :
  ((origin.render.toList ++ cs).splitOn '/').filter isComponent
    = (cs.splitOn '/').filter isComponent
  := by
  cases origin with
  | here => rfl
  | root =>
    have h : Origin.root.render.toList ++ cs = [] ++ '/' :: cs := rfl
    rw [h, List.splitOn_append_cons_self]
    rfl
  | doubleRoot =>
    have h : Origin.doubleRoot.render.toList ++ cs = ['/'] ++ '/' :: cs := rfl
    rw [h, List.splitOn_append_cons_self]
    rfl

theorem toList_render {origin : Origin} {parts : List String} (h : parts ≠ []) :
  (render ⟨origin, parts⟩).toList
    = origin.render.toList ++ ['/'].intercalate (parts.map String.toList)
  := by
  unfold render
  split
  · contradiction
  · simp

/-- Components put together with slashes do not begin with one. -/
theorem head?_intercalate_ne {pieces : List (List Char)} (h : ∀ piece ∈ pieces, IsComponent piece) :
  (['/'].intercalate pieces).head? ≠ some '/'
  := by
  rcases pieces with _ | ⟨piece, pieces⟩
  · simp
  · obtain ⟨hne, hslash⟩ := h piece List.mem_cons_self
    obtain ⟨c, cs, rfl⟩ := List.exists_cons_of_ne_nil hne
    have hc : c ≠ '/' := by
      rintro rfl
      apply hslash List.mem_cons_self
    cases pieces with
    | nil => simpa using hc
    | cons next pieces => simpa [List.intercalate_cons_cons] using hc

/-- What is no single dot can be told from its text. -/
theorem isComponent_toList {part : String} (h : IsComponent part.toList) (hdot : part ≠ ".") :
  isComponent part.toList
  := by
  simp only [isComponent, Bool.and_eq_true, bne_iff_ne]
  use h.1
  intro hlist
  apply hdot
  apply String.toList_inj.mp hlist

/-- A normal path is spelled so that it is read back. -/
theorem ofString_render {p : Path} (hp : p.IsNormal) :
  ofString p.render = p
  := by
  obtain ⟨origin, parts⟩ := p
  by_cases hne : parts = []
  · subst hne
    cases origin <;> decide
  · have hcomponent : ∀ piece ∈ parts.map String.toList, IsComponent piece ∧ isComponent piece := by
      intro piece hpiece
      obtain ⟨part, hpart, rfl⟩ := List.mem_map.mp hpiece
      obtain ⟨h, hdot⟩ := hp part hpart
      exact ⟨h, isComponent_toList h hdot⟩
    have hfirst := head?_intercalate_ne fun piece hpiece => (hcomponent piece hpiece).1
    have hsplit : (['/'].intercalate (parts.map String.toList)).splitOn '/'
        = parts.map String.toList := by
      apply List.splitOn_intercalate
      · intro piece hpiece
        apply (hcomponent piece hpiece).1.2
      · simpa using hne
    have hfilter : (parts.map String.toList).filter isComponent = parts.map String.toList := by
      apply List.filter_eq_self.mpr
      intro piece hpiece
      apply (hcomponent piece hpiece).2
    rw [ofString, toList_render hne, originOf_render_append origin hfirst, filter_splitOn_origin,
      hsplit, hfilter]
    simp

/-! ### Paths behind paths -/

/-- The path that goes on from the end of one path along another; a path that starts at the
root stands for itself. -/
def join (p q : Path) : Path :=
  match q.origin with
  | .here => { p with parts := p.parts ++ q.parts }
  | .root | .doubleRoot => q

/-- What follows a root in a path is what leads from the root to where the path does. -/
theorem relativeTo?_eq_some_iff {p root q : Path} :
  p.relativeTo? root = some q ↔ q.origin = .here ∧ root.join q = p
  := by
  obtain ⟨origin, parts⟩ := p
  obtain ⟨origin', front⟩ := root
  obtain ⟨origin'', rest⟩ := q
  simp only [relativeTo?]
  constructor
  · intro h
    split at h
    · rename_i hfront
      obtain ⟨rfl, more, rfl⟩ := hfront
      cases h
      simp [join]
    · cases h
  · rintro ⟨rfl, h⟩
    cases h
    simp

theorem IsNormal.descend {p : Path} (hp : p.IsNormal) (names : List Name) :
  (p.descend names).IsNormal
  := by
  intro part hpart
  obtain hpart | hpart := List.mem_append.mp hpart
  · apply hp part hpart
  · obtain ⟨name, -, rfl⟩ := List.mem_map.mp hpart
    exact ⟨name.isComponent, name.ne_dot⟩

end Path

/-! ### The directories of a walk -/

/-- The components of a text with a component behind a slash are those before the slash and
that one. -/
theorem Path.filter_splitOn_append {name : List Char} (hname : IsComponent name)
    (hdot : Path.isComponent name) (front : List Char) :
  ((front ++ '/' :: name).splitOn '/').filter Path.isComponent
    = (front.splitOn '/').filter Path.isComponent ++ [name]
  := by
  rw [List.splitOn_append_cons_self, List.splitOn_eq_singleton hname.2, List.filter_append,
    List.filter_cons_of_pos hdot, List.filter_nil]

/-- A component behind the spelling of a directory is read as the last one. -/
theorem Path.ofString_joinSpelling {path name : String} (hpath : SpellsDirectory path.toList)
    (hname : IsComponent name.toList) (hdot : name ≠ ".") :
  Path.ofString (joinSpelling path name) = (Path.ofString path).child name
  := by
  have hcomponent := isComponent_toList hname hdot
  have hhead : name.toList.head? ≠ some '/' := by
    intro hhead
    obtain ⟨rest, hrest⟩ := List.head?_eq_some_iff.mp hhead
    apply hname.2
    simp [hrest]
  simp only [ofString, child, toList_joinSpelling]
  split
  · rename_i hslash
    obtain ⟨front, hfront⟩ := List.getLast?_eq_some_iff.mp hslash
    rw [originOf_append (.inr hhead), hfront, List.append_assoc, List.singleton_append,
      filter_splitOn_append hname hcomponent, List.splitOn_append_cons_self, List.splitOn_nil,
      List.filter_append]
    simp [isComponent]
  · rename_i hslash
    have hother : ∃ c ∈ path.toList, c ≠ '/' := by
      obtain hnil | ⟨front, c, hconcat⟩ := List.eq_nil_or_concat' path.toList
      · apply absurd hnil hpath.1
      · refine ⟨c, by simp [hconcat], ?_⟩
        rintro rfl
        apply hslash
        simp [hconcat]
    rw [List.append_assoc, List.singleton_append, originOf_append (.inl hother),
      filter_splitOn_append hname hcomponent, List.map_append, List.map_singleton,
      String.ofList_toList]

/-- The spelling that a walk has for a directory is read as the path of that directory. -/
theorem Path.ofString_walkSpelling {root : Path} (hroot : root.IsNormal) (names : List Name) :
  ofString (walkSpelling root names) = root.descend names
  := by
  have hspells : SpellsDirectory root.render.toList := by
    rw [← ofString_render hroot]
    apply spellsDirectory_render
  induction names using List.reverseRecOn with
  | nil =>
    rw [descend_nil]
    apply ofString_render hroot
  | append_singleton names name ih =>
    rw [walkSpelling_append, ofString_joinSpelling (spellsDirectory_walkSpelling hspells names)
      name.isComponent name.ne_dot, ih]
    simp [child, descend]

end SourceLocator
