import ApiScaffold.Assoc
import ApiScaffold.Platform.Profile
import ApiScaffold.Text.Case

namespace ApiScaffold.Credential

def sessionCookie : String := "session"

def bearerPrefix : String := "Bearer "

abbrev Fields := List (String × String)

def nonEmpty? (s : String) : Option String := if s = "" then none else some s

def header? (name : String) (headers : Fields) : Option String :=
  Assoc.get? name (Assoc.ofList (headers.map fun (key, value) => (Text.lower key, value)))

def bearerToken? (value : String) : Option String :=
  if bearerPrefix.toList.isPrefixOf value.toList then
    nonEmpty? (String.ofList (value.toList.drop bearerPrefix.length))
  else none

def extract (scheme : AuthScheme) (headers cookies : Fields) : Option String :=
  match scheme with
  | .session => (Assoc.get? sessionCookie cookies).bind nonEmpty?
  | .bearer => (header? "authorization" headers).bind bearerToken?

def unauthorized : Fields := [("code", "UNAUTHORIZED"), ("message", "Authentication required")]

def authenticate (scheme : AuthScheme) (headers cookies : Fields) : Option Fields :=
  if (extract scheme headers cookies).isSome then none else some unauthorized

end ApiScaffold.Credential
