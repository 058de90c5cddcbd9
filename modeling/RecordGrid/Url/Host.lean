import RecordGrid.Url.Address
import RecordGrid.Url.Domain
import RecordGrid.Url.Percent

/-!
# Hosts

A host is a domain or an address.  Where a scheme says nothing about its hosts
they are kept as they are written, an address in brackets aside.
-/

namespace RecordGrid.Url

/-- The address in brackets. -/
def bracketed? (cs : List Char) : Option (List Char) :=
  match cs.reverse with
  | ']' :: inner => (addressWords? inner.reverse).map fun ws => ['['] ++ wordAddress ws ++ [']']
  | _ => none

/-- A domain that may turn out to be an address. -/
def domain? (cs : List Char) : Option (List Char) := do
  let name ← (decode? cs).bind domainName?
  if name.isEmpty then none
  else if endsInNumber name then byteAddress? name
  else some name

/-- A host; `special` says that the scheme knows what its hosts are. -/
def host? (special : Bool) (cs : List Char) : Option (List Char) :=
  match cs with
  | '[' :: rest => bracketed? rest
  | cs =>
      if special then domain? cs
      else if cs.any hostForbidden.contains then none
      else some (encode [] cs)

end RecordGrid.Url
