import Conveyor.Config.Document
import Conveyor.Yaml.Emit
import Conveyor.Toml.Emit

/-!
# Configuration files

A configuration is written as a file in one of three formats, chosen by the file's extension:

- `yaml` (any extension other than the two below, or none): a block mapping of sections, each a
  block mapping indented by two blanks, its values indented by four where they run over lines,
  ending in a line break;
- `toml`: one table per section, separated by a blank line; a path that is not set is left out;
- `json`: the JSON object, indented by two blanks, without a final line break.
-/

namespace Conveyor
namespace Config

/-- The file formats of configurations. -/
inductive Format where
  | yaml
  | toml
  | json
deriving DecidableEq, Repr

/-- The format of a file extension; YAML unless the extension says TOML or JSON. -/
def Format.ofExtension : Option String → Format
  | some "toml" => .toml
  | some "json" => .json
  | _ => .yaml

/-- Write a setting's value as a YAML scalar at indentation `indent`. -/
def Value.yaml (p : Yaml.Pen) (indent : Nat) : Value → Yaml.Pen
  | .count n => p.plain indent (toString n)
  | .ratio x => p.plain indent (Yaml.floatScalar x)
  | .text s => p.textScalar indent s
  | .flag b => p.plain indent (if b then "true" else "false")
  | .path p' => match p' with
    | some s => p.textScalar indent s
    | none => p.plain indent "null"

/-- A setting's value as a TOML value; nothing for a path that is not set. -/
def Value.toml : Value → Option String
  | .count n => some (toString n)
  | .ratio x => some (Toml.float x)
  | .text s => some (Toml.string s)
  | .flag b => some (if b then "true" else "false")
  | .path p => p.map Toml.string

/-- The YAML text of a configuration. -/
def toYaml (c : Config) : String :=
  (sections.foldl (fun (p : Yaml.Pen) s =>
    s.fields.foldl (fun p f => (f.get c).yaml (p.key 2 f.name) 4) (p.key 0 s.name)) Yaml.Pen.start).finish

/-- The TOML text of a configuration. -/
def toToml (c : Config) : String :=
  "\n".intercalate (sections.map fun s =>
    "[" ++ s.name ++ "]\n" ++ String.join (s.fields.filterMap fun f =>
      ((f.get c).toml).map fun v => f.name ++ " = " ++ v ++ "\n"))

/-- The text of a configuration in a format. -/
def render (c : Config) : Format → String
  | .yaml => toYaml c
  | .toml => toToml c
  | .json => (toJson c).pretty

end Config
end Conveyor
