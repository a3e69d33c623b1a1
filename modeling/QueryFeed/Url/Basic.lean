import QueryFeed.Url.Host

/-!
**Resource locators.**

A locator has a scheme and then either an opaque path or an authority and segments of a path, and
perhaps a query and a fragment.  Reading one brings it into its normal form: the scheme is in lower
case, segments of one or two points are resolved, and characters that may not stand where they are get
escaped.  An authority with credentials must name a host.

Main definitions:

* `Url` — the parts of a locator;
* `Url.ofText?` — reading;
* `Url.text` — writing;
* `Url.maskPassword` — the locator with a mask for its password.
-/

set_option autoImplicit false

namespace QueryFeed

namespace Url

/-- User name, password, host and port. -/
structure Authority where
  user : List Char
  password : List Char
  host : Host
  port : Option Nat
  deriving DecidableEq

/-- The path of a locator. -/
inductive Path where
  | opaqueText (text : List Char)
  | segments (segments : List (List Char))
  deriving DecidableEq

end Url

/-- A locator in its normal form. -/
structure Url where
  scheme : List Char
  authority : Option Url.Authority
  path : Url.Path
  query : Option (List Char)
  fragment : Option (List Char)
  deriving DecidableEq

namespace Url

/-! ### Schemes -/

/-- The default port of a scheme that has an authority by rule. -/
def defaultPort? (scheme : List Char) : Option Nat :=
  if scheme = "http".toList ∨ scheme = "ws".toList then some 80
  else if scheme = "https".toList ∨ scheme = "wss".toList then some 443
  else if scheme = "ftp".toList then some 21
  else none

/-- Whether locators of a scheme name files. -/
def isFileScheme (scheme : List Char) : Bool := scheme = "file".toList

/-- Whether a scheme has an authority by rule. -/
def isSpecialScheme (scheme : List Char) : Bool :=
  isFileScheme scheme || (defaultPort? scheme).isSome

/-- Whether a scheme may go on with a character. -/
def isSchemeChar (c : Char) : Bool := c.isAlphanum || c = '+' || c = '-' || c = '.'

/-- The scheme of a text in lower case, and what follows its colon. -/
def schemeOf? (text : List Char) : Option (List Char × List Char) :=
  match text.takeWhile isSchemeChar, text.dropWhile isSchemeChar with
  | c :: rest, ':' :: after =>
      if c.isAlpha then some ((c :: rest).map Char.toLower, after) else none
  | _, _ => none

/-! ### Authorities -/

/-- Whether a character ends an authority. -/
def endsAuthority (isSpecial : Bool) (c : Char) : Bool :=
  c = '/' || c = '?' || c = '#' || (isSpecial && c = '\\')

/-- What stands before and after the last `@` of a text. -/
def cutAtLastAt? (text : List Char) : Option (List Char × List Char) :=
  let after := (text.reverse.takeWhile (· != '@')).reverse
  if after.length < text.length then some (text.take (text.length - after.length - 1), after)
  else none

/-- User name and password: what stands before and after the first colon. -/
def credentials (text : List Char) : List Char × List Char :=
  let user := text.takeWhile (· != ':')
  (escape userSet user, escape userSet (text.drop (user.length + 1)))

/-- The host part of an authority: up to a colon that is not in brackets. -/
def hostPart : Bool → List Char → List Char
  | _, [] => []
  | bracketed, c :: rest =>
      if c = ':' && !bracketed then []
      else if c = '[' then c :: hostPart true rest
      else if c = ']' then c :: hostPart false rest
      else c :: hostPart bracketed rest

/-- Reads a port after its colon; the default port of a scheme is left out. -/
def port? (scheme : List Char) (text : List Char) : Option (Option Nat) :=
  if text.isEmpty then some none
  else do
    let value ← Text.numeral? 10 text
    guard (value < 65536)
    return if defaultPort? scheme = some value then none else some value

/-- Reads an authority, which `followed` tells to be followed by a path; a backslash after the port is
left over.  Credentials and a port need a host. -/
def authorityOf? (scheme text : List Char) (followed : Bool) : Option (Authority × List Char) := do
  let isSpecial := isSpecialScheme scheme
  let (before, after) := (cutAtLastAt? text).getD ([], text)
  let (user, password) := credentials before
  let hostText := hostPart false after
  let portText := after.drop hostText.length
  let lone := before.isEmpty && text = ['@'] && followed
  let marked := !user.isEmpty || !password.isEmpty || lone
  guard (!(hostText.isEmpty && (isSpecial || marked || !portText.isEmpty)))
  let host ← hostOfText? isSpecial hostText
  let digits := (portText.drop 1).takeWhile (· != '\\')
  let port ← port? scheme digits
  return (⟨user, password, host, port⟩, (portText.drop 1).drop digits.length)

/-! ### Paths -/

/-- Whether a segment stands for the directory itself. -/
def isSingleDot (segment : List Char) : Bool :=
  segment = ['.'] || segment.map Char.toLower = "%2e".toList

/-- Whether a segment stands for the directory above. -/
def isDoubleDot (segment : List Char) : Bool :=
  let lower := segment.map Char.toLower
  lower = "..".toList || lower = ".%2e".toList || lower = "%2e.".toList ||
    lower = "%2e%2e".toList

/-- The letter of a drive: a letter and a colon or a bar. -/
def driveLetter? : List Char → Option Char
  | [c, mark] => if c.isAlpha && (mark = ':' || mark = '|') then some c else none
  | _ => none

/-- Whether a segment is a drive, as far as up to a backslash. -/
def isDrive (segment : List Char) : Bool :=
  (driveLetter? (segment.take 2)).isSome && (segment.drop 2).head?.all (· = '\\')

/-- Resolves the segments of points among the segments after those in `done`.  A drive is not left for the
directory above it.  In front of the path of a file it is written with a colon. -/
def resolveDots (isFile : Bool) (done : List (List Char)) : List (List Char) → List (List Char)
  | [] => done
  | segment :: rest =>
      if isDoubleDot segment then
        let shorter := if done.getLast?.any isDrive then done else done.dropLast
        resolveDots isFile (if rest.isEmpty then shorter ++ [[]] else shorter) rest
      else if isSingleDot segment then
        resolveDots isFile (if rest.isEmpty then done ++ [[]] else done) rest
      else
        let drive := if isFile && done.isEmpty then driveLetter? segment else none
        resolveDots isFile (done ++ [(drive.map fun c => [c, ':']).getD segment]) rest

/-- The segments of a text, with their points. -/
def segmentsOf (isSpecial : Bool) (text : List Char) : List (List Char) :=
  let text := if isSpecial then text.map fun c => if c = '\\' then '/' else c else text
  (splitAt '/' text).map (escape pathSet)

/-- The path that begins after its first slash. -/
def pathOf (isSpecial : Bool) (text : List Char) : Path :=
  .segments (resolveDots false [] (segmentsOf isSpecial text))

/-- The path after an authority. -/
def pathAfterAuthority (scheme text : List Char) : Path :=
  let isSpecial := isSpecialScheme scheme
  match text with
  | [] => .segments (if isSpecial then [[]] else [])
  | c :: rest =>
      pathOf isSpecial (if c = '/' || (isSpecial && c = '\\') then rest else c :: rest)

/-! ### Reading -/

/-- Whether a character is dropped at both ends of a text. -/
def isPadding (c : Char) : Bool := decide (c.toNat ≤ 0x20)

/-- A text without padding at its ends, and without tabs and line breaks. -/
def cleaned (text : List Char) : List Char :=
  let inner := ((text.dropWhile isPadding).reverse.dropWhile isPadding).reverse
  inner.filter fun c => c != '\t' && c != '\n' && c != '\r'

/-- Cuts a text at the first occurrence of a mark; the part after it is there only with the mark. -/
def cutAtMark (mark : Char) (text : List Char) : List Char × Option (List Char) :=
  let before := text.takeWhile (· != mark)
  (before, match text.drop before.length with
    | [] => none
    | _ :: after => some after)

/-- Reads an authority and the path after it. -/
def locationOf? (scheme text : List Char) (followed : Bool) : Option (Authority × Path) := do
  let isSpecial := isSpecialScheme scheme
  let authorityText := text.takeWhile fun c => !endsAuthority isSpecial c
  let pathText := text.drop authorityText.length
  let (authority, left) ← authorityOf? scheme authorityText (followed || !pathText.isEmpty)
  return (authority, pathAfterAuthority scheme (left ++ pathText))

/-- The segments of the path of a file, after those in `done`. -/
def fileSegments (done : List (List Char)) (text : List Char) : List (List Char) :=
  resolveDots true done (segmentsOf true text)

/-- The path of a file, which has no empty segments in front. -/
def filePath (segments : List (List Char)) : Path :=
  match segments.dropWhile List.isEmpty with
  | [] => .segments [[]]
  | segments => .segments segments

/-- Reads the host of a file, if any, and its path.  The machine itself is not named, and neither is the
host of a drive. -/
def fileOf? (text : List Char) : Option (Host × Path) := do
  let isSlash (c : Char) : Bool := c = '/' || c = '\\'
  let here : Host := .name []
  match text with
  | first :: rest =>
      if !isSlash first then return (here, filePath (fileSegments [] text))
      else if !(rest.head?.any isSlash) then return (here, filePath (fileSegments [] rest))
      else
        let rest := rest.drop 1
        let hostText := rest.takeWhile (!isSlash ·)
        let pathText := (rest.drop hostText.length).drop 1
        if (driveLetter? hostText).isSome then return (here, filePath (fileSegments [] rest))
        let host ← if hostText.isEmpty then some here else hostOfText? true hostText
        if host = here ∨ host = .name "localhost".toList then
          return (here, filePath (fileSegments [[]] pathText))
        let segments := fileSegments [] pathText
        let onDrive := segments.head?.any fun segment => (driveLetter? segment).isSome
        return (if onDrive then here else host, filePath segments)
  | [] => return (here, .segments [[]])

/-- Reads what follows the scheme and stands before query and fragment. -/
def hierarchyOf? (scheme text : List Char) (followed : Bool) : Option (Option Authority × Path) :=
  let location (text : List Char) : Option (Option Authority × Path) :=
    (locationOf? scheme text followed).map fun (authority, path) => (some authority, path)
  if isFileScheme scheme then
    (fileOf? text).map fun (host, path) => (some ⟨[], [], host, none⟩, path)
  else if isSpecialScheme scheme then location (text.dropWhile fun c => c = '/' || c = '\\')
  else
    match text with
    | '/' :: '/' :: rest => location rest
    | '/' :: rest => some (none, pathOf false rest)
    | rest => some (none, .opaqueText (escape controls rest))

/-- Reads a locator. -/
def ofText? (text : String) : Option Url := do
  let (scheme, rest) ← schemeOf? (cleaned text.toList)
  let (rest, fragment) := cutAtMark '#' rest
  let (rest, query) := cutAtMark '?' rest
  let followed := query.isSome || fragment.isSome
  let (authority, path) ← hierarchyOf? scheme rest followed
  let queryEscapes := if isSpecialScheme scheme then specialQuerySet else querySet
  return ⟨scheme, authority, path, query.map (escape queryEscapes), fragment.map (escape fragmentSet)⟩

/-! ### Writing -/

/-- The text of an authority. -/
def Authority.text (authority : Authority) : List Char :=
  let password := if authority.password.isEmpty then [] else ':' :: authority.password
  let credentials := authority.user ++ password
  (if credentials.isEmpty then [] else credentials ++ ['@']) ++ authority.host.text ++
    (match authority.port with
      | none => []
      | some port => ':' :: Text.decimal port)

/-- The text of a path. -/
def Path.text : Path → List Char
  | opaqueText text => text
  | segments parts => parts.flatMap ('/' :: ·)

/-- The text of a locator. -/
def text (url : Url) : String :=
  let hierarchy := match url.authority with
    | some authority => ['/', '/'] ++ authority.text
    | none =>
        match url.path with
        | .segments ([] :: _ :: _) => ['/', '.']
        | _ => []
  String.ofList (url.scheme ++ ':' :: hierarchy ++ url.path.text ++
    (match url.query with
      | none => []
      | some query => '?' :: query) ++
    (match url.fragment with
      | none => []
      | some fragment => '#' :: fragment))

/-! ### Masking -/

/-- The locator with a mask for its password, if it has one. -/
def maskPassword (url : Url) (mask : List Char) : Url :=
  { url with
    authority := url.authority.map fun authority =>
      if authority.password.isEmpty then authority else { authority with password := mask } }

end Url

end QueryFeed
