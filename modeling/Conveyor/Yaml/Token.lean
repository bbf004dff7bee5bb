/-!
# YAML tokens

The scanner cuts a YAML text into tokens, each at a `Mark`: the position of its first character
as a character offset, a line counted from one and a column counted from zero. A failure names
the mark where it was found and what was wrong there.
-/

namespace Conveyor
namespace Yaml

/-- A position in a YAML text. -/
structure Mark where
  index : Nat
  line : Nat
  col : Nat
deriving DecidableEq, Repr, Inhabited

/-- How a scalar was written. -/
inductive ScalarStyle where
  | plain
  | singleQuoted
  | doubleQuoted
  | literal
  | folded
deriving DecidableEq, Repr

/-- The kinds of tokens. -/
inductive TokenKind where
  | streamStart
  | streamEnd
  | versionDirective (major minor : Nat)
  | tagDirective (handle expansion : String)
  | documentStart
  | documentEnd
  | blockSequenceStart
  | blockMappingStart
  | blockEnd
  | flowSequenceStart
  | flowSequenceEnd
  | flowMappingStart
  | flowMappingEnd
  | blockEntry
  | flowEntry
  | key
  | value
  | alias (name : String)
  | anchor (name : String)
  | tag (handle suffix : String)
  | scalar (style : ScalarStyle) (text : String)
deriving DecidableEq, Repr

/-- A token and where it starts. -/
structure Token where
  mark : Mark
  kind : TokenKind
deriving DecidableEq, Repr

/-- A failure to read a YAML text. -/
structure ScanError where
  mark : Mark
  info : String
deriving DecidableEq, Repr

/-- The text of a failure with its position. -/
def ScanError.message (e : ScanError) : String :=
  e.info ++ " at byte " ++ toString e.mark.index ++ " line " ++ toString e.mark.line ++
    " column " ++ toString (e.mark.col + 1)

end Yaml
end Conveyor
