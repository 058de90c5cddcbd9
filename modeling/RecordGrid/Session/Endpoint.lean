import RecordGrid.Text.Blank
import RecordGrid.Url.Reading

/-!
# Endpoints of lookups

Columns name endpoints as URLs, or relative to a base that the configuration
gives.
-/

namespace RecordGrid

/-- The endpoint that there is no URL for. -/
structure EndpointError where
  endpoint : String
deriving DecidableEq, Repr

def EndpointError.message (e : EndpointError) : String :=
  "Cannot resolve lookup endpoint '" ++ e.endpoint ++ "'"

namespace Endpoint

/-- The base in the configuration; a blank one is none. -/
def base? (text : Option String) : Except EndpointError (Option Url) :=
  match (text.map Text.trim).filter fun s => !s.isEmpty with
  | none => .ok none
  | some s =>
      match Url.ofText? none s with
      | some u => .ok (some u)
      | none => .error ⟨s⟩

/-- The URL of an endpoint: its own, else the one against the base. -/
def resolve (base : Option Url) (endpoint : String) : Except EndpointError Url :=
  match Url.ofText? none endpoint with
  | some u => .ok u
  | none =>
      match base.bind fun b => Url.ofText? (some b) endpoint with
      | some u => .ok u
      | none => .error ⟨endpoint⟩

end Endpoint

end RecordGrid
