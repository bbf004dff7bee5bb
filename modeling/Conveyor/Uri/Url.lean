import Conveyor.Uri.Host

/-!
# Reading and writing locations

A location follows the URL standard: a scheme, then for hierarchical locations an authority
(user information, host, port) and a path of `/`-separated segments, then an optional query
and fragment. The schemes `http`, `https`, `ws`, `wss`, `ftp` and `file` are special: their
hosts are domain names, a backslash separates segments like a slash, and the path is never empty.

Reading first trims control characters and spaces from both ends and drops every tab and line
break. In the path, `.` segments vanish and `..` segments remove the segment before them.

- `Url.parse` reads a text; `Url.render` writes the location back.
- `Url.setPath` replaces the path, reading the new one the way a path is read, except that `?`
  and `#` are encoded instead of starting a query or fragment.
- A location without an authority whose path does not start with `/` has an opaque path
  (`Url.hasOpaquePath`), as in `mailto:` locations.
-/

namespace Conveyor
namespace Uri

/-- How a scheme is treated. -/
inductive SchemeKind where
  | file | special | other
deriving DecidableEq, Repr

/-- The kind of a (lower-case) scheme. -/
def SchemeKind.of (scheme : String) : SchemeKind :=
  if scheme == "file" then .file
  else if ["http", "https", "ws", "wss", "ftp"].contains scheme then .special
  else .other

/-- Whether backslashes separate segments and the path is never empty. -/
def SchemeKind.isSpecial (k : SchemeKind) : Bool := k != .other

/-- The port a special scheme leaves out. -/
def defaultPort (scheme : String) : Option Nat :=
  if scheme == "http" || scheme == "ws" then some 80
  else if scheme == "https" || scheme == "wss" then some 443
  else if scheme == "ftp" then some 21
  else none

/-- User information, host and port. -/
structure Authority where
  /-- The written user information with its `@`, or empty. -/
  userinfo : String
  /-- The host; `none` for an empty host. -/
  host : Option Host
  port : Option Nat
deriving DecidableEq, Repr

/-- A parsed location. -/
structure Url where
  /-- The lower-case scheme. -/
  scheme : String
  /-- The authority, present when `//` follows the scheme. -/
  authority : Option Authority
  /-- Whether `/.` is written before a path that starts with `//` and has no authority. -/
  dotPrefix : Bool := false
  /-- The written path. -/
  path : String
  query : Option String
  fragment : Option String
deriving DecidableEq, Repr

namespace Url

/-- The kind of the location's scheme. -/
def kind (u : Url) : SchemeKind := SchemeKind.of u.scheme

/-- The text before the path. -/
def head (u : Url) : String :=
  u.scheme ++ ":" ++
    (match u.authority with
     | some a => "//" ++ a.userinfo ++ (a.host.map Host.render |>.getD "") ++
        (a.port.map (fun p => ":" ++ toString p) |>.getD "")
     | none => "") ++
    (if u.dotPrefix then "/." else "")

/-- The written location. -/
def render (u : Url) : String :=
  u.head ++ u.path ++ (u.query.map ("?" ++ ·) |>.getD "") ++ (u.fragment.map ("#" ++ ·) |>.getD "")

/-- Whether the path is opaque (not hierarchical). -/
def hasOpaquePath (u : Url) : Bool := u.authority.isNone && !u.path.startsWith "/"

/-- The written host, if the location has a non-empty one. -/
def hostText (u : Url) : Option String :=
  match u.authority with
  | some a => a.host.map Host.render
  | none => none

end Url

/-! ## Paths -/

/-- A Windows drive letter: a letter and `:` or `|`. -/
def isDrive (cs : List Char) : Bool :=
  match cs with
  | [a, b] => a.isAlpha && (b == ':' || b == '|')
  | _ => false

/-- A normalized Windows drive letter: a letter and `:`. -/
def isNormalizedDrive (cs : List Char) : Bool :=
  match cs with
  | [a, b] => a.isAlpha && b == ':'
  | _ => false

/-- Whether a text starts with a drive letter that ends there or before a separator. -/
def startsWithDrive (cs : List Char) : Bool :=
  match cs with
  | a :: b :: rest => a.isAlpha && (b == ':' || b == '|') &&
      (match rest with | [] => true | c :: _ => "/\\?#".toList.contains c)
  | _ => false

/-- Whether a text is a separator followed by a drive letter. -/
def pathStartsWithDrive (cs : List Char) : Bool :=
  match cs with
  | c :: rest => "/\\?#".toList.contains c && startsWithDrive rest
  | [] => false

/-- The index of the last occurrence of a character. -/
def lastIndexOf (cs : List Char) (c : Char) : Option Nat :=
  (cs.zipIdx.filter (·.1 == c)).getLast?.map (·.2)

/-- Whether the slash that ends the buffer may be removed when a `..` segment is read: a slash
must stand before it inside the path, and not before a drive letter. -/
def lastSlashRemovable (pb : List Char) : Bool :=
  match lastIndexOf pb.dropLast '/' with
  | some pos => !pathStartsWithDrive (pb.drop pos)
  | none => false

/-- Remove the last segment of a path (not a drive letter of a file path). -/
def popPath (kind : SchemeKind) (pb : List Char) : List Char :=
  match lastIndexOf pb '/' with
  | some pos =>
    if kind == .file && isNormalizedDrive (pb.drop (pos + 1)) then pb else pb.take (pos + 1)
  | none => pb

/-- Shorten a path by one segment, keeping a lone drive letter of a file path. -/
def shortenPath (kind : SchemeKind) (pb : List Char) : List Char :=
  if pb.isEmpty then pb
  else if kind == .file && isNormalizedDrive pb then pb
  else popPath kind pb

/-- A `..` segment, in any spelling. -/
def isDoubleDot (seg : List Char) : Bool :=
  let s := String.ofList (seg.map Char.toLower)
  s == ".." || s == "%2e%2e" || s == "%2e." || s == ".%2e"

/-- A `.` segment, in any spelling. -/
def isSingleDot (seg : List Char) : Bool :=
  let s := String.ofList (seg.map Char.toLower)
  s == "." || s == "%2e"

/-- Read the characters of one segment into the buffer. Gives the buffer, where the segment
starts in it, whether a separator ended it, and the rest of the input. -/
def readSegment (kind : SchemeKind) (setter : Bool) :
    List Char → List Char → Nat → List Char × Nat × Bool × List Char
  | [], pb, start => (pb, start, false, [])
  | c :: rest, pb, start =>
    if c == '/' || (c == '\\' && kind.isSpecial) then (pb ++ ['/'], start, true, rest)
    else if (c == '?' || c == '#') && !setter then (pb, start, false, c :: rest)
    else
      let (pb, start) :=
        if kind == .file && !pb.isEmpty && isNormalizedDrive (pb.drop 1) then (pb ++ ['/'], start + 1)
        else (pb, start)
      readSegment kind setter rest (pb ++ encodeChar .path c) start

/-- Read path segments into the buffer, resolving `.` and `..`. Gives the buffer, whether the
location keeps its host, and the rest of the input. -/
def readSegments (kind : SchemeKind) (setter : Bool) :
    Nat → Bool → List Char → List Char → List Char × Bool × List Char
  | 0, hasHost, pb, input => (pb, hasHost, input)
  | fuel + 1, hasHost, pb, input =>
    let (pb, start, slash, rest) := readSegment kind setter input pb pb.length
    let seg := (pb.drop start).take (pb.length - start - (if slash then 1 else 0))
    let (pb, hasHost) :=
      if isDoubleDot seg then
        let pb := pb.take start
        let pb := if pb.getLast? == some '/' && lastSlashRemovable pb then pb.dropLast else pb
        let pb := shortenPath kind pb
        (if slash && pb.getLast? != some '/' then pb ++ ['/'] else pb, hasHost)
      else if isSingleDot seg then
        let pb := pb.take start
        (if pb.getLast? != some '/' then pb ++ ['/'] else pb, hasHost)
      else if kind == .file && start == 1 && isDrive seg then
        (pb.take start ++ (seg.take 1) ++ [':'] ++ (if slash then ['/'] else []), false)
      else (pb, hasHost)
    if slash then readSegments kind setter fuel hasHost pb rest else (pb, hasHost, rest)

/-- Read a path after its buffer's start; a file path loses the empty segments it starts with. -/
def readPath (kind : SchemeKind) (setter : Bool) (hasHost : Bool) (pb input : List Char) :
    List Char × Bool × List Char :=
  let (pb, hasHost, rest) := readSegments kind setter (input.length + 1) hasHost pb input
  let pb := if kind == .file then '/' :: pb.dropWhile (· == '/') else pb
  (pb, hasHost, rest)

/-- Read a path at its start. `slashBefore` says whether the text before the path ends with
`/`. -/
def readPathStart (kind : SchemeKind) (setter : Bool) (hasHost slashBefore : Bool)
    (input : List Char) : List Char × Bool × List Char :=
  if kind.isSpecial then
    if !slashBefore then
      match input with
      | c :: rest => if c == '/' || c == '\\' then readPath kind setter hasHost ['/'] rest
          else readPath kind setter hasHost ['/'] input
      | [] => readPath kind setter hasHost ['/'] input
    else readPath kind setter hasHost [] input
  else
    match input with
    | c :: _ =>
      if c == '?' || c == '#' then ([], hasHost, input)
      else readPath kind setter hasHost (if c != '/' then ['/'] else []) input
    | [] => readPath kind setter hasHost [] input

/-- Read an opaque path up to a query or fragment. -/
def readOpaquePath (input : List Char) : List Char × List Char :=
  let (p, rest) := input.span (fun c => c != '?' && c != '#')
  (encodeText .controls p, rest)

/-! ## Query and fragment -/

/-- Read the query and fragment that start the input, if any. -/
def readQueryFragment (kind : SchemeKind) (input : List Char) : Option String × Option String :=
  let fragment (cs : List Char) : String := String.ofList (encodeText .fragment cs)
  match input with
  | '?' :: rest =>
    let (q, r) := rest.span (· != '#')
    let set := if kind.isSpecial then EncodeSet.specialQuery else EncodeSet.query
    let qText := String.ofList (encodeBytes set (String.ofList q).toUTF8.toList)
    (some qText, match r with | _ :: f => some (fragment f) | [] => none)
  | '#' :: rest => (none, some (fragment rest))
  | _ => (none, none)

/-! ## Authority -/

/-- Where the user information ends: the index of the last `@` before the host part ends. -/
def lastAt (special : Bool) (input : List Char) : Option Nat :=
  let part := input.takeWhile fun c => !(c == '/' || c == '?' || c == '#' || (c == '\\' && special))
  lastIndexOf part '@'

/-- Write user information: the first `:` splits name and password (and is written only if a
password follows), everything else is encoded; `@` follows if anything was written. -/
def writeUserinfo (cs : List Char) : String :=
  let step := fun (st : List Char × Bool × Bool × Bool) (p : Char × Nat) =>
    let (out, split, hasPassword, hasName) := st
    let (c, i) := p
    if c == ':' && !split then
      if i + 1 < cs.length then (out ++ [':'], true, true, hasName) else (out, true, hasPassword, hasName)
    else (out ++ encodeChar .userinfo c, split, hasPassword, hasName || !hasPassword)
  let (out, _, hasPassword, hasName) := cs.zipIdx.foldl step ([], false, false, false)
  String.ofList (if hasName || hasPassword then out ++ ['@'] else out)

/-- Split off the host text: up to `:` outside brackets, `/`, `?`, `#`, or a backslash for
special schemes. -/
def splitHost (special : Bool) : List Char → Bool → List Char × List Char
  | [], _ => ([], [])
  | c :: rest, inside =>
    if (c == ':' && !inside) || (c == '\\' && special) || c == '/' || c == '?' || c == '#' then
      ([], c :: rest)
    else
      let inside := if c == '[' then true else if c == ']' then false else inside
      let (h, r) := splitHost special rest inside
      (c :: h, r)

/-- Read a port: digits up to a separator; the scheme's own port is left out. -/
def readPort (scheme : String) (input : List Char) : Except UrlError (Option Nat × List Char) := do
  let digits := input.takeWhile Char.isDigit
  let rest := input.drop digits.length
  let value : Nat := digits.foldl (fun acc c => acc * 10 + (c.toNat - 48)) 0
  if value > 65535 then throw .invalidPort
  match rest with
  | c :: _ => if !"/\\?#".toList.contains c then throw .invalidPort
  | [] => pure ()
  if digits.isEmpty || some value == defaultPort scheme then pure (none, rest)
  else pure (some value, rest)

/-- Read what follows `scheme://`. -/
def readAuthority (scheme : String) (kind : SchemeKind) (input : List Char) : Except UrlError Url := do
  let special := kind.isSpecial
  let (userinfo, rest) ← match lastAt special input with
    | none => pure ("", input)
    | some 0 =>
      let rest := input.drop 1
      match rest with
      | c :: _ =>
        if c == '/' || c == '?' || c == '#' || (special && c == '\\') then throw UrlError.emptyHost
        else pure ("", rest)
      | [] => pure ("", rest)
    | some k => pure (writeUserinfo (input.take k), input.drop (k + 1))
  let (hostChars, rest) := splitHost special rest false
  if special && hostChars.isEmpty then throw .emptyHost
  let host ← if special then parseSpecial hostChars else parseOpaque hostChars
  let empty := host == .domain ""
  if empty && rest.head? == some ':' then throw .emptyHost
  let (port, rest) ← match rest with
    | ':' :: r => readPort scheme r
    | _ => pure (none, rest)
  let host := if empty then none else some host
  if host.isNone && !userinfo.isEmpty then throw .emptyHost
  let slashBefore := host.isNone && userinfo.isEmpty && port.isNone
  let (pb, _, rest) := readPathStart kind false true slashBefore rest
  let (query, fragment) := readQueryFragment kind rest
  pure { scheme, authority := some ⟨userinfo, host, port⟩, path := String.ofList pb, query, fragment }

/-! ## File locations -/

/-- Read what follows `file:`. -/
def readFile (input : List Char) : Except UrlError Url := do
  let isSlash (c : Char) := c == '/' || c == '\\'
  let done (host : Option Host) (pb rest : List Char) : Url :=
    let (query, fragment) := readQueryFragment .file rest
    { scheme := "file", authority := some ⟨"", host, none⟩, path := String.ofList pb, query, fragment }
  match input with
  | c1 :: rest1 =>
    if isSlash c1 then
      match rest1 with
      | c2 :: rest2 =>
        if isSlash c2 then
          let (hostChars, afterHost) := rest2.span fun c => !"/\\?#".toList.contains c
          let (host, remaining, parsed) ←
            if isDrive hostChars then pure (none, rest2, false)
            else if hostChars.isEmpty then pure (none, afterHost, true)
            else do
              let h ← parseSpecial hostChars
              if h == .domain "localhost" then pure (none, afterHost, true)
              else pure (some h, afterHost, true)
          let (pb, hasHost, rest) :=
            if parsed then readPathStart .file false host.isSome host.isNone remaining
            else readPath .file false host.isSome ['/'] remaining
          pure (done (if hasHost then host else none) pb rest)
        else
          let (pb, _, rest) := readPath .file false false [] input
          pure (done none pb rest)
      | [] =>
        let (pb, _, rest) := readPath .file false false [] input
        pure (done none pb rest)
    else
      let (pb, _, rest) := readPath .file false false ['/'] input
      pure (done none pb rest)
  | [] =>
    let (pb, _, rest) := readPath .file false false ['/'] input
    pure (done none pb rest)

/-! ## Local paths -/

/-- The names of a local path, as its components: empty names and `.` after the first name
vanish. -/
def components (p : String) : List String :=
  match p.toList.splitOn '/' with
  | [] => []
  | first :: rest => (if first.isEmpty then [] else [String.ofList first]) ++
      (rest.filter fun n => !n.isEmpty && n != ['.']).map String.ofList

/-- The path of the `file:` location of an absolute local path: a slash, then its names, each written
as a segment of a special location, with a slash between two. -/
def filePath (p : String) : String :=
  String.ofList ('/' :: ['/'].intercalate ((components p).map fun n => encodeText .specialPathSegment n.toList))

/-- The `file:` location of an absolute local path, with an empty host. -/
def Url.fromFilePath (p : String) : Url :=
  { scheme := "file", authority := some ⟨"", none, none⟩, path := filePath p, query := none, fragment := none }

/-! ## Whole locations -/

/-- Drop control characters and spaces at both ends, and every tab and line break. -/
def clean (cs : List Char) : List Char :=
  let trimmed := ((cs.dropWhile (·.toNat ≤ 0x20)).reverse.dropWhile (·.toNat ≤ 0x20)).reverse
  trimmed.filter fun c => c != '\t' && c != '\n' && c != '\r'

/-- Read a scheme and its colon. -/
def readScheme (cs : List Char) : Option (String × List Char) :=
  match cs with
  | c :: _ =>
    if !(c.isAlpha) then none
    else
      let name := cs.takeWhile fun c => c.isAlphanum || c == '+' || c == '-' || c == '.'
      match cs.drop name.length with
      | ':' :: rest => some (String.ofList (name.map Char.toLower), rest)
      | _ => none
  | [] => none

/-- Read a location. -/
def Url.parse (input : String) : Except UrlError Url := do
  let cs := clean input.toList
  match readScheme cs with
  | none => throw .relativeWithoutBase
  | some (scheme, rest) =>
    match SchemeKind.of scheme with
    | .file => readFile rest
    | .special => readAuthority scheme .special (rest.dropWhile fun c => c == '/' || c == '\\')
    | .other =>
      match rest with
      | '/' :: '/' :: r => readAuthority scheme .other r
      | '/' :: r =>
        let (pb, _, rest) := readPath .other false false ['/'] r
        let (query, fragment) := readQueryFragment .other rest
        pure { scheme, authority := none, dotPrefix := pb.take 2 == ['/', '/'],
               path := String.ofList pb, query, fragment }
      | _ =>
        let (p, rest) := readOpaquePath rest
        let (query, fragment) := readQueryFragment .other rest
        pure { scheme, authority := none, path := String.ofList p, query, fragment }

/-- Replace the path of a hierarchical location. -/
def Url.setPath (u : Url) (p : String) : Url :=
  let slashBefore := match u.authority with
    | some a => a.userinfo.isEmpty && a.host.isNone && a.port.isNone
    | none => false
  let input := p.toList.filter fun c => c != '\t' && c != '\n' && c != '\r'
  let (pb, _, _) := readPathStart u.kind true true slashBefore input
  { u with path := String.ofList pb }

end Uri
end Conveyor
