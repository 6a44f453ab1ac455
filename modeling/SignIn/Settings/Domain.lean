import SignIn.Text.Quoted
import SignIn.Url.Origin

/-!
# Configured domains

A configured domain names a host with an optional port, without a scheme. Its origin is the URL
that has it as its authority under `https`.
-/

namespace SignIn

inductive DomainReason where
  | empty
  | notBare
  | url (fault : UrlFault)
  | noHost
  deriving DecidableEq

def DomainReason.message : DomainReason → String
  | .empty => "empty"
  | .notBare => "expected a bare host[:port]"
  | .url fault => fault.message
  | .noHost => "no host"

structure DomainFault where
  domain : String
  reason : DomainReason
  deriving DecidableEq

def DomainFault.message (f : DomainFault) : String :=
  "Invalid domain " ++ Text.quoted f.domain ++ ": " ++ f.reason.message

/-- The origin of a configured domain. Blanks at its ends do not count. -/
def domainOrigin (domain : String) : Except DomainFault Url :=
  let domain := Text.trim domain
  if domain = "" then .error ⟨domain, .empty⟩
  else if domain.toList.any fun c => c == '/' || c == '?' || c == '#' then
    .error ⟨domain, .notBare⟩
  else
    match Url.parse ("https://" ++ domain) with
    | .error fault => .error ⟨domain, .url fault⟩
    | .ok url => if url.host?.isNone then .error ⟨domain, .noHost⟩ else .ok url

end SignIn
