import RuleGate.Http.Header

/-! # Chains of Via hops

Each gateway that a message passes adds its own hop, protocol and name, at the end of the chain.
-/
namespace RuleGate.Via

/-- The hop of a gateway on a host; a host whose name cannot be read is `localhost`. -/
def ofHostname (host : Option Text) : Text :=
  text "1.1 " ++ host.getD (text "localhost")

/-- A chain with the hop of this gateway behind it. A blank chain is none. -/
def chain (hop : Text) (before : Option Text) : Text :=
  match before.map Text.trim with
  | none | some [] => hop
  | some before => before ++ text ", " ++ hop

/-- The lines of the field in one chain; lines that are blank or no text are left out. -/
def inbound (h : Headers) : Option Text :=
  let hops := ((h.getAll (text "via")).filterMap fieldText?).map Text.trim
  match hops.filter fun t => !t.isEmpty with
  | [] => none
  | hops => some (Text.joinWith (text ", ") hops)

end RuleGate.Via
