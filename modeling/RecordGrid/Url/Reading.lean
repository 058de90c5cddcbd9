import RecordGrid.Url.Host
import RecordGrid.Url.Path

/-!
# Reading URLs

A text is read on its own or against a base, from which it takes what it does
not say itself.
-/

namespace RecordGrid.Url

open Text (numberIn?)

/-- The text without controls and spaces at its ends. -/
def trimmed (s : String) : List Char :=
  let isEdge (c : Char) : Bool := decide (c.toNat ≤ 0x20)
  ((s.toList.dropWhile isEdge).reverse.dropWhile isEdge).reverse

def isSchemeChar (c : Char) : Bool := c.isAlphanum || c == '+' || c == '-' || c == '.'

/-- The scheme, in lower case, and what comes after its colon. -/
def splitScheme? (cs : List Char) : Option (List Char × List Char) :=
  let isIn (c : Char) : Bool := isSchemeChar c || isBreak c
  let name := solid (cs.takeWhile isIn)
  match cs.dropWhile isIn with
  | ':' :: rest => if name.head?.any Char.isAlpha then some (name.map Char.toLower, rest) else none
  | _ => none

/-- What follows two slashes. -/
def afterTwoSlashes? (cs : List Char) : Option (List Char) :=
  match skipBreaks cs with
  | '/' :: cs =>
      match skipBreaks cs with
      | '/' :: cs => some cs
      | _ => none
  | _ => none

/-- The number of slashes of either kind at the front, and what follows them. -/
def leadingSlashes (cs : List Char) : Nat × List Char :=
  let isIn (c : Char) : Bool := isSlash true c || isBreak c
  ((solid (cs.takeWhile isIn)).length, cs.dropWhile isIn)

/-! ## Parts -/

/-- The query and the fragment at the end of a URL. -/
def tail (special : Bool) (cs : List Char) : Option (List Char) × Option (List Char) :=
  let fragmentOf : List Char → Option (List Char)
    | '#' :: f => some (encode fragmentReserved f)
    | _ => none
  let reserved := if special then specialQueryReserved else queryReserved
  match solid cs with
  | '?' :: rest =>
      (some (encode reserved (rest.takeWhile (· ≠ '#'))), fragmentOf (rest.dropWhile (· ≠ '#')))
  | cs => (none, fragmentOf cs)

/-- A URL with the path that is read behind a given one, and the rest. -/
def withPath (u : Url) (path cs : List Char) : Url :=
  let (query, fragment) := tail (isSpecialScheme u.scheme) (cs.dropWhile fun c => !isPathEnd c)
  let whole := readPath u.scheme path (cs.takeWhile fun c => !isPathEnd c)
  { u with path := whole.path, query, fragment }

/-- A URL with the path that follows its host.  Without one a special scheme
still has the root. -/
def withRootPath (u : Url) (cs : List Char) : Url :=
  let special := isSpecialScheme u.scheme
  match skipBreaks cs with
  | [] => u.withPath (if special then ['/'] else []) []
  | c :: rest =>
      if isSlash special c then u.withPath ['/'] rest
      else if !special && isPathEnd c then
        let (query, fragment) := tail special (c :: rest)
        { u with query, fragment }
      else u.withPath ['/'] (c :: rest)

/-! ## Authorities -/

/-- Whether an authority ends before a character. -/
def isAuthorityEnd (special : Bool) (c : Char) : Bool := isSlash special c || isPathEnd c

/-- A user and a password. -/
def credentials (cs : List Char) : List Char × List Char :=
  (encode userReserved (cs.takeWhile (· ≠ ':')),
    encode userReserved ((cs.dropWhile (· ≠ ':')).drop 1))

/-- The user and the password, and what follows the sign behind them.  Where
there is only the sign, something other than the end has to follow, unless it is
the end of the text. -/
def splitUser? (special : Bool) (cs : List Char) :
    Option ((List Char × List Char) × List Char) :=
  let authority := cs.takeWhile fun c => !isAuthorityEnd special c
  if authority.contains '@' then
    let host := (authority.reverse.takeWhile (· ≠ '@')).reverse
    let user := solid (authority.take (authority.length - host.length - 1))
    let rest := cs.drop (authority.length - host.length)
    if user.isEmpty && (skipBreaks rest).head?.any (isAuthorityEnd special) then none
    else some (credentials user, rest)
  else some (([], []), cs)

/-- Whether a text is between brackets after a character. -/
def bracketsAfter (inBrackets : Bool) (c : Char) : Bool :=
  c == '[' || (inBrackets && c != ']')

/-- The host and what follows it. -/
def splitHost (special : Bool) : (inBrackets : Bool) → List Char → List Char × List Char
  | _, [] => ([], [])
  | inBrackets, c :: cs =>
      if (c == ':' && !inBrackets) || isAuthorityEnd special c then ([], c :: cs)
      else
        let (host, rest) := splitHost special (bracketsAfter inBrackets c) cs
        (c :: host, rest)

/-- The number of a port, where one is said, and what follows it. -/
def splitPort? (scheme : List Char) (cs : List Char) : Option (Option Nat × List Char) :=
  match cs with
  | ':' :: cs =>
      let isIn (c : Char) : Bool := c.isDigit || isBreak c
      let digits := solid (cs.takeWhile isIn)
      let rest := cs.dropWhile isIn
      if rest.head?.any fun c => !isAuthorityEnd true c then none
      else if digits.isEmpty then some (none, rest)
      else
        (numberIn? 10 digits).bind fun n =>
          if n < 65536 then some (saidPort scheme n, rest) else none
  | cs => some (none, cs)

/-- A URL with the authority that comes next, and what follows it. -/
def withAuthority? (scheme : List Char) (cs : List Char) : Option Url := do
  let special := isSpecialScheme scheme
  let ((user, password), cs) ← splitUser? special cs
  let (hostText, cs) := splitHost special false cs
  let hasUser := !user.isEmpty || !password.isEmpty
  if (solid hostText).isEmpty && (special || hasUser || cs.head? == some ':') then none
  else
    let host ← host? special (solid hostText)
    let (portNumber, cs) ← splitPort? scheme cs
    some (withRootPath { scheme, authority := some { user, password, host, portNumber } } cs)

/-! ## Files -/

def localFile : Url := { scheme := "file".toList, authority := some { host := [] } }

/-- A file on a host, of which a drive in the path takes the place. -/
def hostedFile (host cs : List Char) : Url :=
  let whole := readPath localFile.scheme ['/'] (cs.takeWhile fun c => !isPathEnd c)
  let (query, fragment) := tail true (cs.dropWhile fun c => !isPathEnd c)
  { localFile with
    authority := some { host := if whole.hasDrive then [] else host }
    path := whole.path, query, fragment }

/-- A file behind two slashes: the name of a host may come before its path.
Without a host the path has a slash of its own in front of the one in the text,
so its first segment is no drive. -/
def fileWithHost? (cs : List Char) : Option Url :=
  let name := solid (cs.takeWhile fun c => !isAuthorityEnd true c)
  let rest := cs.dropWhile fun c => !isAuthorityEnd true c
  if isDrive name then some (localFile.withPath ['/'] cs)
  else if name.isEmpty then some (localFile.withPath ['/'] rest)
  else do
    let host ← host? true name
    if host = "localhost".toList then some (localFile.withPath ['/'] rest)
    else
      match rest with
      | c :: more => some (hostedFile host (if isSlash true c then more else rest))
      | [] => some (hostedFile host [])

/-- A file behind one slash, which may be on the drive or the host of the
base. -/
def rootedFile (base : Option Url) (cs : List Char) : Url :=
  match base with
  | none => localFile.withPath [] cs
  | some b =>
      let drive := (b.path.drop 1).takeWhile (· ≠ '/')
      if startsWithDrive ((skipBreaks cs).drop 1) then localFile.withPath [] cs
      else if isNormalDrive drive then localFile.withPath ('/' :: drive) cs
      else
        let host := (b.authority.map Authority.host).getD []
        withPath { localFile with authority := some { host } } [] cs

/-! ## Relative texts -/

/-- A text that says neither a host nor a path of its own from the root. -/
def followed (base : Url) (cs : List Char) : Url :=
  let special := isSpecialScheme base.scheme
  match skipBreaks cs with
  | [] => { base with fragment := none }
  | '#' :: _ => { base with fragment := (tail special cs).2 }
  | '?' :: _ =>
      let (query, fragment) := tail special cs
      { base with query, fragment }
  | _ =>
      let above := dropSegment (isFileScheme base.scheme) base.path
      base.withPath (if above.isEmpty then ['/'] else above) cs

/-- The file in a text behind its scheme, or without it where the base is a
file. -/
def file? (base : Option Url) (cs : List Char) : Option Url :=
  match skipBreaks cs with
  | a :: rest =>
      if isSlash true a then
        match skipBreaks rest with
        | b :: after =>
            if isSlash true b then fileWithHost? after else some (rootedFile base cs)
        | [] => some (rootedFile base cs)
      else
        match base with
        | none => some (localFile.withPath ['/'] cs)
        | some b =>
            if startsWithDrive cs then some (localFile.withPath ['/'] cs)
            else some (b.followed cs)
  | [] =>
      match base with
      | none => some (localFile.withPath ['/'] [])
      | some b => some (b.followed [])

/-- A text behind the scheme of its base, or without any. -/
def relative? (base : Url) (cs : List Char) : Option Url :=
  match leadingSlashes cs with
  | (0, _) => some (base.followed cs)
  | (1, rest) => some (base.withPath ['/'] rest)
  | (_, rest) => withAuthority? base.scheme ((afterTwoSlashes? cs).getD rest)

/-- The URL of a scheme that need not have a host. -/
def general? (scheme : List Char) (cs : List Char) : Option Url :=
  match afterTwoSlashes? cs with
  | some rest => withAuthority? scheme rest
  | none =>
      match skipBreaks cs with
      | '/' :: rest => some (withPath { scheme } ['/'] rest)
      | cs =>
          let (query, fragment) := tail false (cs.dropWhile fun c => !isPathEnd c)
          some
            { scheme, query, fragment
              path := encode [] (solid (cs.takeWhile fun c => !isPathEnd c)) }

/-- The URL of a scheme with what comes behind it. -/
def ofScheme? (base : Option Url) (scheme : List Char) (cs : List Char) : Option Url :=
  let sameBase := base.filter fun b => b.scheme == scheme
  if isFileScheme scheme then file? sameBase cs
  else if isSpecialScheme scheme then
    let (count, rest) := leadingSlashes cs
    match sameBase with
    | some b => if count < 2 then b.relative? cs else withAuthority? scheme rest
    | none => withAuthority? scheme rest
  else general? scheme cs

/-- A text without a scheme against a base; an opaque one takes a fragment
only. -/
def against? (base : Url) (cs : List Char) : Option Url :=
  if base.isOpaque then
    match skipBreaks cs with
    | '#' :: _ => some { base with fragment := (tail false cs).2 }
    | _ => none
  else if isFileScheme base.scheme then file? (some base) cs
  else base.relative? cs

/-- The URL in a text, against a base if there is one. -/
def ofText? (base : Option Url) (s : String) : Option Url :=
  match splitScheme? (trimmed s) with
  | some (scheme, rest) => ofScheme? base scheme rest
  | none => base.bind fun b => b.against? (trimmed s)

end RecordGrid.Url
