import Conveyor.Toml.Syntax
import Conveyor.Toml.Scalar
import Conveyor.Toml.Datetime

/-!
# Building a TOML document

The statements of a document are read in order into tables. Each table remembers how it came
to be: made on the way to a key (implicit), made by a dotted key (dotted), or written inline.
Key/value pairs go into the current table, the one the last header named (or the root before
any header); the current table is put into place when the next header comes or the document
ends, and an array-of-tables header adds a new table at the end of its array.

The rules that keep a table defined once:
- a key may be set once in a table;
- a header may name a table that so far was only made on the way to another header, but not a
  table that a header or a dotted key made, nor any other value;
- a dotted key may reach only into tables that dotted keys made (in the current table), and a
  plain key may not be set in a table that dotted keys made;
- nothing reaches into an inline table, nor into an array that is not an array of tables, nor
  into any other value.
Breaking one of them is a failure at the key that broke it.

Within a statement, the keys are read first, then the value (with its inline tables), and only
then is the pair put into place; before a header is read, the table before it is put into place.
-/

namespace Conveyor
namespace Toml

/-- A TOML value. Integers and floats keep their digits (without underscores) and are read as
numbers by whoever uses them; tables remember how they came to be. -/
inductive Value where
  | str (s : String)
  | int (digits : String) (radix : Nat)
  | float (digits : String)
  | bool (b : Bool)
  | datetime (d : Datetime)
  | array (items : List Value) (ofTables : Bool)
  | table (entries : List (String × Value)) (implicit dotted inline : Bool)
deriving Inhabited

/-- The name of a value's type, in failures. -/
def Value.typeName : Value → String
  | .str _ => "string"
  | .int _ _ => "integer"
  | .float _ => "float"
  | .bool _ => "boolean"
  | .datetime _ => "datetime"
  | .array _ _ => "array"
  | .table _ _ _ inline => if inline then "inline table" else "table"

/-- A table being built: its entries and how it came to be. -/
structure Table where
  entries : List (String × Value) := []
  implicit : Bool := false
  dotted : Bool := false
  inline : Bool := false

/-- A table as a value. -/
def Table.toValue (t : Table) : Value := .table t.entries t.implicit t.dotted t.inline

namespace Table

/-- The value under a key. -/
def get? (t : Table) (k : String) : Option Value := (t.entries.find? (·.1 == k)).map (·.2)

/-- Set a key: replace its value where it is, or add it at the end. -/
def set (t : Table) (k : String) (v : Value) : Table :=
  if t.entries.any (·.1 == k) then
    { t with entries := t.entries.map fun e => if e.1 == k then (k, v) else e }
  else { t with entries := t.entries ++ [(k, v)] }

/-- Remove a key. -/
def erase (t : Table) (k : String) : Table := { t with entries := t.entries.filter (·.1 != k) }

end Table

/-- A key that was read, with where it was written. -/
abbrev Key := String × Span

/-- The failure of a key that is set twice or breaks a table's definition. -/
def duplicateKey (sp : Span) : Fault := Fault.at sp "duplicate key" none

/-- The failure of a key that would reach into a value that is not a table. -/
def extendFault (sp : Span) (typeName : String) : Fault :=
  Fault.at sp ("cannot extend value of type " ++ typeName ++ " with a dotted key") none

/-- Reach the table at a path from a table, work on it with `f`, and give back the changed
table and `f`'s result. Missing keys become implicit tables (dotted ones when `dotted`); an
array of tables leads into its last table. -/
def descend {α : Type} (dotted : Bool) (f : Table → Except Fault (Table × α)) :
    Table → List Key → Except Fault (Table × α)
  | t, [] => f t
  | t, (k, sp) :: rest =>
    match t.get? k with
    | none => do
      let (child, a) ← descend dotted f { implicit := true, dotted := dotted } rest
      pure (t.set k child.toValue, a)
    | some (.array items true) =>
      match items.getLast? with
      | some (.table es i d n) => do
        let (child, a) ← descend dotted f ⟨es, i, d, n⟩ rest
        pure (t.set k (.array (items.dropLast ++ [child.toValue]) true), a)
      | _ => throw (extendFault sp "array")
    | some (.table es i d n) =>
      if n then throw (extendFault sp "inline table")
      else if dotted && !i then throw (duplicateKey sp)
      else do
        let (child, a) ← descend dotted f ⟨es, i, d, n⟩ rest
        pure (t.set k child.toValue, a)
    | some v => throw (extendFault sp v.typeName)

/-- Put a key's value into the table at a path of an inline table's keys: missing keys become
dotted tables, and only tables that dotted keys made may be reached into. -/
def placeInline (path : List Key) (key : Key) (v : Value) : Table → Except Fault Table
  | t =>
    let rec go : Table → List Key → Except Fault Table
      | parent, [] =>
        if parent.dotted == path.isEmpty then throw (duplicateKey key.2)
        else if (parent.get? key.1).isSome then throw (duplicateKey key.2)
        else pure (parent.set key.1 v)
      | t, (k, sp) :: rest =>
        match t.get? k with
        | none => do
          let child ← go { implicit := true, dotted := true } rest
          pure (t.set k child.toValue)
        | some (.table es i d n) =>
          if !i then throw (duplicateKey sp)
          else do
            let child ← go ⟨es, i, d, n⟩ rest
            pure (t.set k child.toValue)
        | some other => throw (extendFault sp other.typeName)
    go t path

/-- Read the pieces of a key. -/
def readKey (chars : Array Char) (parts : List KeyPart) : Except Fault (List Key) :=
  parts.mapM fun p => do
    let k ← Scalar.key (chars.extract p.span.start p.span.stop) p.span.start p.quoting
    pure (k, p.span)

/-- A scalar value from its token. -/
def readScalar (chars : Array Char) (span : Span) (q : Option Quoting) : Except Fault Value := do
  match ← Scalar.read (chars.extract span.start span.stop) span.start q with
  | .text s => pure (.str s)
  | .flag b => pure (.bool b)
  | .real d => pure (.float d)
  | .whole d r => pure (.int d r)
  | .moment m =>
    match Datetime.parse m with
    | .ok d => pure (.datetime d)
    | .error e => throw (Fault.at span e.message none)

mutual
/-- Read a value as written. -/
def readValue (chars : Array Char) : Piece → Except Fault Value
  | .scalar span q => readScalar chars span q
  | .array items => (Value.array · false) <$> readItems chars items
  | .inline entries => (fun t => Value.table t.entries false false true) <$> readEntries chars {} entries
/-- Read the items of an array. -/
def readItems (chars : Array Char) : List Piece → Except Fault (List Value)
  | [] => pure []
  | p :: ps => do
    let v ← readValue chars p
    pure (v :: (← readItems chars ps))
/-- Read the entries of an inline table into it: each key, then its value, then its place. -/
def readEntries (chars : Array Char) (t : Table) : List (List KeyPart × Piece) → Except Fault Table
  | [] => pure t
  | (parts, piece) :: rest => do
    let keys ← readKey chars parts
    let v ← readValue chars piece
    match keys.getLast? with
    | some key =>
      let t ← placeInline keys.dropLast key v t
      readEntries chars t rest
    | none => readEntries chars t rest
end

/-- A table header that was read. -/
structure Header where
  ofArray : Bool
  path : List Key

/-- The state of building: the root, the current table, and the header that opened it. -/
structure Builder where
  root : Table := {}
  current : Table := {}
  header : Option Header := none

namespace Builder

/-- Put a key/value pair into the current table, along its dotted path. -/
def capture (b : Builder) (path : List Key) (key : Key) (v : Value) : Except Fault Builder := do
  let (current, _) ← descend (!path.isEmpty) (fun parent =>
    if parent.dotted == path.isEmpty then throw (duplicateKey key.2)
    else if (parent.get? key.1).isSome then throw (duplicateKey key.2)
    else pure (parent.set key.1 v, ())) b.current path
  pure { b with current }

/-- Put the current table into place: as the root if no header opened it, else under its
header's key (added to the array for an array-of-tables header). -/
def finishTable (b : Builder) : Except Fault Builder := do
  let prev := b.current
  let b := { b with current := {} }
  match b.header with
  | none => pure { b with root := prev }
  | some h =>
    match h.path.getLast? with
    | none => pure { b with header := none }
    | some (k, sp) =>
      let (root, _) ← descend false (fun parent =>
        if h.ofArray then
          match parent.get? k with
          | none => pure (parent.set k (.array [prev.toValue] true), ())
          | some (.array items true) => pure (parent.set k (.array (items ++ [prev.toValue]) true), ())
          | some _ => throw (duplicateKey sp)
        else pure (parent.set k prev.toValue, ())) b.root h.path.dropLast
      pure { b with root, header := none }

/-- Open the table a header names. A table header takes over a table that so far was only made
on the way to another header; any other value under its key is a failure. -/
def startTable (b : Builder) (h : Header) : Except Fault Builder := do
  let b ← if h.ofArray then pure b else
    match h.path.getLast? with
    | none => pure b
    | some (k, sp) => do
      let (root, taken) ← descend false (fun parent =>
        match parent.get? k with
        | none => pure (parent, none)
        | some (.table es i d n) =>
          if i && !d then pure (parent.erase k, some (Table.mk es i d n)) else throw (duplicateKey sp)
        | some _ => throw (duplicateKey sp)) b.root h.path.dropLast
      pure { b with root, current := taken.getD b.current }
  pure { b with current := { b.current with implicit := false, dotted := false }, header := some h }

/-- Take one statement. -/
def step (chars : Array Char) (b : Builder) : Statement → Except Fault Builder
  | .header ofArray parts => do
    let b ← b.finishTable
    let path ← readKey chars parts
    b.startTable ⟨ofArray, path⟩
  | .pair parts piece => do
    let keys ← readKey chars parts
    let v ← readValue chars piece
    match keys.getLast? with
    | some key => b.capture keys.dropLast key v
    | none => pure b

end Builder

/-- Build a document from its statements: the entries of its root table. -/
def build (chars : Array Char) (statements : List Statement) : Except Fault (List (String × Value)) := do
  let b ← statements.foldlM (Builder.step chars) {}
  let b ← b.finishTable
  pure b.root.entries

end Toml
end Conveyor
