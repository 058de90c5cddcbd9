/-!
# URLs

A URL names a scheme, possibly a host with a user and one of its ports, a path,
and possibly a query and a fragment.  Some schemes always have a host; their
URLs take a backslash for a slash.
-/

namespace RecordGrid

namespace Url

/-- The host of a URL, with what stands around it. -/
structure Authority where
  user : List Char := []
  password : List Char := []
  host : List Char
  portNumber : Option Nat := none
deriving DecidableEq, Repr

end Url

structure Url where
  scheme : List Char
  authority : Option Url.Authority := none
  path : List Char := []
  query : Option (List Char) := none
  fragment : Option (List Char) := none
deriving DecidableEq, Repr

namespace Url

/-- The schemes that always have a host, and which of its ports need not be
said. -/
def specialPorts : List (String × Option Nat) :=
  [("http", some 80), ("https", some 443), ("ws", some 80), ("wss", some 443), ("ftp", some 21),
    ("file", none)]

def isSpecialScheme (scheme : List Char) : Bool :=
  (specialPorts.lookup (String.ofList scheme)).isSome

def isFileScheme (scheme : List Char) : Bool := scheme == "file".toList

/-- The number, unless it goes without saying for the scheme. -/
def saidPort (scheme : List Char) (n : Nat) : Option Nat :=
  if specialPorts.lookup (String.ofList scheme) = some (some n) then none else some n

/-- Whether nothing can be resolved against the URL, since neither a host nor a
slash comes after its scheme. -/
def isOpaque (u : Url) : Bool := u.authority.isNone && u.path.head? != some '/'

/-! ## Text -/

def Authority.text (a : Authority) : List Char :=
  let password := if a.password.isEmpty then [] else ':' :: a.password
  let user := if a.user.isEmpty && a.password.isEmpty then [] else a.user ++ password ++ ['@']
  "//".toList ++ user ++ a.host ++ (a.portNumber.elim [] fun n => ':' :: Nat.toDigits 10 n)

/-- What stands between the scheme and the path.  Without a host a path must
not look like one. -/
def authorityText (u : Url) : List Char :=
  match u.authority, u.path with
  | some a, _ => a.text
  | none, '/' :: '/' :: _ => ['/', '.']
  | none, _ => []

def text (u : Url) : String :=
  String.ofList
    (u.scheme ++ [':'] ++ u.authorityText ++ u.path ++ (u.query.elim [] fun q => '?' :: q) ++
      (u.fragment.elim [] fun f => '#' :: f))

end Url

end RecordGrid
