import RuleGate.Text.Basic

/-! # The scheme of a request -/
namespace RuleGate

inductive Scheme where
  | http
  | https
  deriving DecidableEq, Repr

namespace Scheme

/-- A request counts as encrypted when its listener decrypts, or when a proxy in front says so. -/
def detect (encrypted : Bool) (forwardedProto : Option Text) : Scheme :=
  if encrypted || forwardedProto.any fun p => Text.lower (Text.trim p) == text "https" then .https
  else .http

def name : Scheme → Text
  | .http => text "http"
  | .https => text "https"

end Scheme

end RuleGate
