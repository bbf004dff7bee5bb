import Conveyor.Config.Layers
import Conveyor.Yaml.Parser
import Conveyor.Text.Json
import Conveyor.Toml.Parse
import Conveyor.Config.Render

/-!
# Configuration files as layers

A configuration file becomes a layer according to its format. Every value remembers the file's
name. The file must hold a table at its root (an empty YAML stream counts as an empty table);
anything else, a text that does not read in its format, or a YAML stream of several documents
is a failure of that file.

- YAML: integers, reals (read as doubles), strings, booleans, null, sequences and mappings whose
  keys are strings, integers, booleans or reals (a real key keeps its text).
- JSON: numbers that are whole and fit 64 signed bits are integers, all others doubles; of a
  repeated member the last one counts.
- TOML: every value keeps its type; a date-time becomes its text; an integer must fit 64 signed
  bits and a float must not overflow.
-/

namespace Conveyor
namespace Config

/-- The failure of a file whose root is not a table. -/
def rootFault (uri : Option String) (v : Setting) : LoadFault :=
  .unreadable uri (LoadFault.wrongType uri v.unexpected "a map" none).message

/-- The entries of a layer's root table. -/
def rootEntries (uri : Option String) : Setting → Except LoadFault (List (String × Setting))
  | .table _ es => .ok es
  | v => .error (rootFault uri v)

/-- Entries with later repeats of a key replacing earlier ones. -/
def lastWins (es : List (String × Setting)) : List (String × Setting) :=
  es.foldl (fun acc (k, v) => Setting.putEntry acc k v) []

mutual
/-- A YAML node as a layer value. -/
def ofYaml (uri : Option String) : Yaml.Node → Except String Setting
  | .null | .bad => .ok (.nil uri)
  | .bool b => .ok (.bool uri b)
  | .int i => .ok (.int uri i)
  | .real t =>
    match Numeral.float? t with
    | some x => .ok (.float uri x)
    | none => .error ("Parsing " ++ t ++ " as floating point number failed")
  | .str s => .ok (.text uri s)
  | .seq items => (Setting.list uri) <$> ofYamlList uri items
  | .map es => (fun es => Setting.table uri (lastWins es)) <$> ofYamlEntries uri es
/-- YAML items as layer values. -/
def ofYamlList (uri : Option String) : List Yaml.Node → Except String (List Setting)
  | [] => .ok []
  | x :: xs => do pure ((← ofYaml uri x) :: (← ofYamlList uri xs))
/-- YAML entries as layer entries. -/
def ofYamlEntries (uri : Option String) :
    List (Yaml.Node × Yaml.Node) → Except String (List (String × Setting))
  | [] => .ok []
  | (k, v) :: rest => do
    let key ← match k with
      | .str s => pure s
      | .int i => pure (toString i)
      | .bool b => pure (if b then "true" else "false")
      | .real t => pure t
      | k => throw ("Cannot parse " ++ k.debug ++ " because it is an unsupported hash key type")
    pure ((key, ← ofYaml uri v) :: (← ofYamlEntries uri rest))
end

/-- The layer of a YAML file. -/
def yamlLayer (uri : Option String) (text : String) : Except LoadFault (List (String × Setting)) :=
  match Yaml.load text with
  | .error e => .error (.unreadable uri e.message)
  | .ok [] => .ok []
  | .ok [doc] =>
    match ofYaml uri doc with
    | .error msg => .error (.unreadable uri msg)
    | .ok v => rootEntries uri v
  | .ok docs => .error (.unreadable uri ("Got " ++ toString docs.length ++ " YAML documents, expected 1"))

mutual
/-- A JSON value as a layer value. -/
def ofJsonValue (uri : Option String) : Json → Setting
  | .null => .nil uri
  | .bool b => .bool uri b
  | .int i =>
    if -Int.ofNat (Nat.pow 2 63) ≤ i && i < Int.ofNat (Nat.pow 2 63) then .int uri i
    else .float uri (if i ≥ 0 then Float.ofNat i.toNat else -Float.ofNat i.natAbs)
  | .float x => .float uri x
  | .str s => .text uri s
  | .arr xs => .list uri (ofJsonList uri xs)
  | .obj ms => .table uri (lastWins (ofJsonMembers uri ms))
/-- JSON elements as layer values. -/
def ofJsonList (uri : Option String) : List Json → List Setting
  | [] => []
  | x :: xs => ofJsonValue uri x :: ofJsonList uri xs
/-- JSON members as layer entries. -/
def ofJsonMembers (uri : Option String) : List (String × Json) → List (String × Setting)
  | [] => []
  | (k, v) :: ms => (k, ofJsonValue uri v) :: ofJsonMembers uri ms
end

/-- The layer of a JSON file. -/
def jsonLayer (uri : Option String) (text : String) : Except LoadFault (List (String × Setting)) :=
  match Json.parse text with
  | .error e => .error (.unreadable uri (e.message text))
  | .ok v => rootEntries uri (ofJsonValue uri v)

mutual
/-- A TOML value as a layer value; a date-time becomes its text. -/
def ofToml (uri : Option String) : Toml.Value → Setting
  | .str s => .text uri s
  | .int d r => .int uri ((Toml.integerValue d r).toOption.getD 0)
  | .float d => .float uri ((Toml.floatValue d).toOption.getD 0.0)
  | .bool b => .bool uri b
  | .datetime t => .text uri t.render
  | .array items _ => .list uri (ofTomlList uri items)
  | .table es _ _ _ => .table uri (ofTomlEntries uri es)
/-- TOML items as layer values. -/
def ofTomlList (uri : Option String) : List Toml.Value → List Setting
  | [] => []
  | x :: xs => ofToml uri x :: ofTomlList uri xs
/-- TOML entries as layer entries. -/
def ofTomlEntries (uri : Option String) : List (String × Toml.Value) → List (String × Setting)
  | [] => []
  | (k, v) :: es => (k, ofToml uri v) :: ofTomlEntries uri es
end

/-- The layer of a TOML file; a number that does not fit is a failure of the file. -/
def tomlLayer (uri : Option String) (text : String) : Except LoadFault (List (String × Setting)) :=
  match Toml.parse text with
  | .error f => .error (.unreadable uri (f.render text))
  | .ok es =>
    match Toml.numberFault? es with
    | some msg => .error (.unreadable uri msg)
    | none => .ok (ofTomlEntries uri es)

/-- The layer of a file in a format. -/
def fileLayer (format : Format) (uri : Option String) (text : String) :
    Except LoadFault (List (String × Setting)) :=
  match format with
  | .yaml => yamlLayer uri text
  | .toml => tomlLayer uri text
  | .json => jsonLayer uri text

end Config
end Conveyor
