import SourceLocator.Proofs.Resolution

/-!
# The limit on links

A resolution that does not end for too many links ends the same way with more of them, and with
that many more left over (`follow_add`).  A path is `WithinLimit` when more links would make no
difference to where it leads.  Two paths to one directory then agree on what lies below it
(`resolve_descend_congr`), though one of them may have used up more links on the way there.
-/

namespace SourceLocator

/-- The spot with more links that may still be followed. -/
def Spot.withMore (spot : Spot) (more : Nat) : Spot :=
  { spot with links := spot.links + more }

namespace FileTree

variable {t : FileTree} {p q : Path}

/-! ### More links -/

/-- If going on from a link ends the same way with more links, so do steps. -/
theorem advance_add {links more : Nat} {jump jump' : Location → List Step → Except Cause Spot}
    (hjump : ∀ {place steps}, jump place steps ≠ .error .tooManyLinks →
      jump' place steps = (jump place steps).map (·.withMore more))
    {place : Location} {steps : List Step}
    (h : t.advance links jump place steps ≠ .error .tooManyLinks) :
  t.advance (links + more) jump' place steps
    = (t.advance links jump place steps).map (·.withMore more)
  := by
  induction steps generalizing place with
  | nil => rfl
  | cons step steps ih =>
    obtain ⟨turn, hturn⟩ := t.exists_turns place step
    rw [hturn.advance_cons] at h ⊢
    rw [hturn.advance_cons]
    cases turn with
    | error c => rfl
    | ok turn =>
      cases turn with
      | arrives place' => exact ih h
      | along start target => exact hjump h

/-- Steps that do not end for too many links end the same way with more of them. -/
theorem follow_add {links more : Nat} {place : Location} {steps : List Step}
    (h : t.follow links place steps ≠ .error .tooManyLinks) :
  t.follow (links + more) place steps
    = (t.follow links place steps).map (·.withMore more)
  := by
  induction links generalizing place steps with
  | zero =>
    obtain ⟨jump, hjump⟩ := t.exists_follow_eq (0 + more)
    rw [hjump]
    apply advance_add _ h
    intro _ _ hnot
    apply absurd rfl hnot
  | succ links ih =>
    have hsteps := advance_add ih h
    rw [Nat.add_right_comm] at hsteps
    rw [Nat.add_right_comm]
    apply hsteps

/-- Steps that lead somewhere lead there with more links. -/
theorem follow_add_of_ok {links : Nat} {place : Location} {steps : List Step} {spot : Spot}
    (h : t.follow links place steps = .ok spot) (more : Nat) :
  t.follow (links + more) place steps = .ok (spot.withMore more)
  := by
  rw [follow_add (by rw [h]; rintro ⟨⟩), h]
  rfl

/-! ### Paths within the limit -/

/-- More links than the limit would make no difference to where a path leads.  That is so unless
the path leads on, when there are enough of them, beyond where it ends for too many. -/
def WithinLimit (t : FileTree) (p : Path) : Prop :=
  ∀ more, (t.follow (linkLimit + more) (t.origin p) p.steps).map (·.place) = t.resolve p

/-- What does not end for too many links is within the limit. -/
theorem withinLimit_of_ne (h : t.resolve p ≠ .error .tooManyLinks) :
  t.WithinLimit p
  := by
  intro more
  have hreach : t.follow linkLimit (t.origin p) p.steps ≠ .error .tooManyLinks := by
    intro hreach
    apply h
    rw [resolve, hreach]
    rfl
  rw [follow_add hreach, resolve]
  cases t.follow linkLimit (t.origin p) p.steps with
  | error c => rfl
  | ok spot => rfl

/-- Below a directory that is reached with some links left, more links are more of those. -/
theorem follow_descend_add {spot : Spot} (h : t.reach p = .ok spot) (more : Nat)
    (names : List Name) :
  t.follow (linkLimit + more) (t.origin p) (p.descend names).steps
    = t.follow (spot.links + more) spot.place (names.map fun name => .down name.val)
  := by
  rw [Path.steps_descend, follow_append, follow_add_of_ok h]
  rfl

/-- Two paths to one directory agree on what lies below it, within the limit. -/
theorem resolve_descend_congr {place : Location} (hp : t.resolve p = .ok place)
    (hq : t.resolve q = .ok place) {names : List Name} (hwithin : t.WithinLimit (p.descend names))
    (hwithin' : t.WithinLimit (q.descend names)) :
  t.resolve (p.descend names) = t.resolve (q.descend names)
  := by
  obtain ⟨links, hreach⟩ := exists_reach hp
  obtain ⟨links', hreach'⟩ := exists_reach hq
  -- each path is given the links that the other one has left over
  rw [← hwithin links', ← hwithin' links, origin_descend, origin_descend,
    follow_descend_add hreach, follow_descend_add hreach', Nat.add_comm]

/-! ### What paths to one place agree on -/

theorem stat_congr (h : t.resolve p = t.resolve q) :
  t.stat p = t.stat q
  := by
  rw [stat, stat, h]

theorem isDirectory_congr (h : t.resolve p = t.resolve q) :
  t.isDirectory p = t.isDirectory q
  := by
  rw [isDirectory, isDirectory, stat_congr h]

theorem leadsToDirectory_congr (h : t.resolve p = t.resolve q) {place : Location} :
  t.LeadsToDirectory p place ↔ t.LeadsToDirectory q place
  := by
  rw [LeadsToDirectory, LeadsToDirectory, h]

theorem leadsToFile_congr (h : t.resolve p = t.resolve q) :
  t.LeadsToFile p ↔ t.LeadsToFile q
  := by
  rw [LeadsToFile, LeadsToFile, stat_congr h]

end FileTree

end SourceLocator
