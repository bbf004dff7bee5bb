import Conveyor.Uri.Url
import Conveyor.Error

/-!
# Transfer locations

A transfer names its source and destination by hierarchical locations such as
`mem://staging/a/b` or `file:///var/data`. The storage system of a location is its host, or its
scheme when it has no host; an empty path becomes `/`.

Locations are read and written with a URL library (`UrlLibrary`): its reader, the parts it reads
back, its path setter, its writer, and the `file:` URL it makes of a local path. The operations
below are those of any such library (`Locator L`); a running node reads and writes with
`UrlLibrary.standard`, the reader and writer of `Uri.Url`, and its locations are `Location`.

- `Locator.join` appends a relative path (leading slashes dropped) to the path without its
  trailing slashes; an empty relative path leaves the location as it is.
- `Locator.relativeTo` gives the part of a path below the location's path, if there is one.
- `Locator.withPath` keeps scheme, authority, query and fragment and replaces the path.
-/

namespace Conveyor

/-- A URL library: its URLs, a reader that gives a URL or the text of what is wrong, the parts of
a URL a location reads back, a path setter, a writer, and the `file:` URL of an absolute local
path. -/
structure UrlLibrary where
  Url : Type
  parse : String → Except String Url
  scheme : Url → String
  /-- The written host, if the URL has a non-empty one. -/
  hostText : Url → Option String
  path : Url → String
  /-- Whether the path is opaque, as in `mailto:` URLs. -/
  hasOpaquePath : Url → Bool
  setPath : Url → String → Url
  render : Url → String
  fromFilePath : String → Url

/-- The reader and writer of `Uri.Url`, which a running node uses. -/
abbrev UrlLibrary.standard : UrlLibrary where
  Url := Uri.Url
  parse input := (Uri.Url.parse input).mapError Uri.UrlError.message
  scheme := Uri.Url.scheme
  hostText := Uri.Url.hostText
  path := Uri.Url.path
  hasOpaquePath := Uri.Url.hasOpaquePath
  setPath := Uri.Url.setPath
  render := Uri.Url.render
  fromFilePath := Uri.Url.fromFilePath

/-- A location read with the URL library `L`, and the storage system it names. -/
structure Locator (L : UrlLibrary) where
  url : L.Url
  system : String

instance {L : UrlLibrary} [DecidableEq L.Url] : DecidableEq (Locator L) := fun a b =>
  decidable_of_iff (a.url = b.url ∧ a.system = b.system) (by cases a; cases b; simp)

/-- The locations of a running node. -/
abbrev Location := Locator UrlLibrary.standard

/-- Drop a character from the front as long as it is there. -/
def Location.trimFront (c : Char) (s : String) : String := String.ofList (s.toList.dropWhile (· == c))

/-- Drop a character from the back as long as it is there. -/
def Location.trimBack (c : Char) (s : String) : String :=
  String.ofList (s.toList.reverse.dropWhile (· == c)).reverse

/-- A path that trimming leaves does not end in a slash. -/
theorem Location.trimBack_getLast (s : String) : (Location.trimBack '/' s).toList.getLast? ≠ some '/' := by
  rw [Location.trimBack, String.toList_ofList, List.getLast?_reverse]
  intro h
  have hne : s.toList.reverse.dropWhile (· == '/') ≠ [] := by
    intro e; rw [e] at h; cases h
  have := List.head_dropWhile_not (· == '/') hne
  rw [List.head?_eq_some_head hne] at h
  simp only [Option.some.injEq] at h
  rw [h] at this
  simp at this

namespace Locator

variable {L : UrlLibrary}

/-- Read a location; it must be hierarchical. -/
def parse (L : UrlLibrary) (input : String) : Except Error (Locator L) :=
  match L.parse input with
  | .error e => .error (.invalidRequest ("Invalid URI '" ++ input ++ "': " ++ e))
  | .ok url =>
    if L.hasOpaquePath url then .error (.invalidRequest ("URI '" ++ input ++ "' has no hierarchical path"))
    else
      let url := if (L.path url).isEmpty then L.setPath url "/" else url
      let system := match L.hostText url with
        | some h => if h.isEmpty then L.scheme url else h
        | none => L.scheme url
      .ok ⟨url, system⟩

/-- The scheme. -/
def scheme (l : Locator L) : String := L.scheme l.url

/-- The written path. -/
def path (l : Locator L) : String := L.path l.url

/-- The written location. -/
def render (l : Locator L) : String := L.render l.url

/-- Replace the path. -/
def withPath (l : Locator L) (p : String) : Locator L :=
  { l with url := L.setPath l.url p }

/-- Append a relative path. -/
def join (l : Locator L) (relative : String) : Locator L :=
  let relative := Location.trimFront '/' relative
  if relative.isEmpty then l
  else l.withPath (Location.trimBack '/' l.path ++ "/" ++ relative)

/-- The part of `p` below the location's path. -/
def relativeTo (l : Locator L) (p : String) : Option String :=
  let base := Location.trimBack '/' l.path
  if p.startsWith base then
    let rest := String.ofList (p.toList.drop base.length)
    if rest.isEmpty then some ""
    else if rest.startsWith "/" then some (String.ofList (rest.toList.drop 1))
    else none
  else none

/-- Two locations are the same when they are written alike and name the same system. -/
def same (a b : Locator L) : Bool := a.render == b.render && a.system == b.system

end Locator

/-- Read a location of a running node. -/
abbrev Location.parse (input : String) : Except Error Location := Locator.parse UrlLibrary.standard input

end Conveyor
