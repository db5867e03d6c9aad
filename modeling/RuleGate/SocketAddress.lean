import RuleGate.Ip

/-! # Addresses of listeners

An address of either version, of version 6 in brackets and maybe with a scope, stands before a
colon and a number of 16 bits.
-/
namespace RuleGate.SocketAddress

/-- Whether a text is the address of a listener. -/
def isValid (t : Text) : Bool :=
  match t with
  | '[' :: r =>
    match Text.cut ']' r with
    | (inside, some (':' :: digits)) =>
      let (host, scope) := Text.cut '%' inside
      (Ip.v6? host).isSome && scope.all (fun s => (Ip.number? (UInt32.size - 1) s).isSome) &&
        (Ip.number? 65535 digits).isSome
    | _ => false
  | t =>
    match Text.cut ':' t with
    | (host, some digits) => (Ip.octets? host).isSome && (Ip.number? 65535 digits).isSome
    | _ => false

end RuleGate.SocketAddress
