import RuleGate.Proofs.Gateway.Contacts
import RuleGate.Proofs.Http.Form

/-! # What the next stage is asked for

A final URL that is not the present one is put on the target up to its fragment, with a slash in
front if there is none. The rest of the target stays, and so does all else of the request. If a
character is refused or the text is too long, the target stays as it is and no stage is called.
-/
namespace RuleGate

namespace Target

variable {t t' : Target} {url : Text} {p : PathQuery}

theorem Rewritten.cut {kept : Text} (h : Rewritten ⟨kept⟩ t t') (hslash : kept.head? = some '/') :
    t'.url = kept ∧ kept = t'.path ++ (t'.query?.map ('?' :: ·)).getD [] ∧ '?' ∉ t'.path := by
  have htext : PathQuery.toText ⟨kept⟩ = kept := by
    cases kept with
    | nil => exact absurd hslash nofun
    | cons c kept => rfl
  have hmark : kept.head? ≠ some '?' := by simp [hslash]
  rw [path, query?, h.pathQuery?_eq, url_of_pathQuery? h.pathQuery?_eq]
  refine ⟨htext, htext.symm.trans (PathQuery.toText_eq hmark), ?_⟩
  rw [Option.map_some, Option.getD_some, PathQuery.path]
  split
  · decide
  · exact Text.not_mem_cut '?' kept

end Target

namespace Gateway

end Gateway

end RuleGate
