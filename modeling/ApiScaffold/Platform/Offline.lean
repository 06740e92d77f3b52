import ApiScaffold.Api.Route
import ApiScaffold.Data.Basic
import ApiScaffold.Platform.Instant

namespace ApiScaffold.Offline

inductive Policy where
  | cached (ttl : Nat)
  | queued
  | none
  deriving DecidableEq

namespace Policy

def ofKind : RouteKind → Policy
  | .get => cached 3600
  | .list => cached 300
  | .create => queued

def cacheable : Policy → Bool
  | cached _ => true
  | _ => false

def ttl : Policy → Nat
  | cached ttl => ttl
  | _ => 0

def queueable : Policy → Bool
  | queued => true
  | _ => false

end Policy

def policies (routes : List Route) : List (String × Policy) :=
  Assoc.ofList (routes.map fun r => (r.operationId, Policy.ofKind r.kind))

def policyOf (operation : String) (routes : List Route) : Policy :=
  (Assoc.get? operation (policies routes)).getD .none

def notCached : Data := .map [("cacheable", .bool false)]

def flags (operation : String) (routes : List Route) (now : Instant) : Data :=
  match policyOf operation routes with
  | .cached ttl => .map [("cacheable", .bool true), ("ttl", .int ttl), ("version", .int now.version)]
  | _ => notCached

def canQueue (operation : String) (routes : List Route) : Bool := (policyOf operation routes).queueable

def wrap (payload : List (String × Data)) (operation : String) (routes : List Route) (now : Instant) :
    List (String × Data) :=
  Assoc.insert "_offline" (flags operation routes now) payload

def noCache (payload : List (String × Data)) : List (String × Data) :=
  Assoc.insert "_offline" notCached payload

end ApiScaffold.Offline
