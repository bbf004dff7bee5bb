import Conveyor.Yaml.Scanner
import Conveyor.Yaml.Node

/-!
# Reading YAML documents

`Yaml.load` reads a text into its documents. The tokens of `Yaml.scan` are read by a state
machine (one state per place in the grammar: document, block or flow sequence or mapping, key
or value) into events, and the events are composed into `Node`s. An empty key, value or entry
is a null scalar. An alias stands for a copy of the node its anchor names. The first failure,
of the scanner or of the grammar, ends the reading; when the whole stream parses, a mapping
that repeats a key is a failure at the repeated key's value.
-/

namespace Conveyor
namespace Yaml

/-- A parsing event. -/
inductive Event where
  | streamStart
  | streamEnd
  | documentStart
  | documentEnd
  | alias (id : Nat)
  | scalar (text : String) (style : ScalarStyle) (anchor : Nat) (tag : Option (String × String))
  | sequenceStart (anchor : Nat) (tag : Option (String × String))
  | sequenceEnd
  | mappingStart (anchor : Nat) (tag : Option (String × String))
  | mappingEnd
deriving Repr

/-- The null scalar of an empty node. -/
def Event.empty : Event := .scalar "~" .plain 0 none

/-- Where the parser is in the grammar. -/
inductive State where
  | streamStart
  | implicitDocumentStart
  | documentStart
  | documentContent
  | documentEnd
  | blockNode
  | blockNodeOrIndentlessSequence
  | flowNode
  | blockMappingFirstKey
  | blockMappingKey
  | blockMappingValue
  | blockSequenceFirstEntry
  | blockSequenceEntry
  | flowSequenceFirstEntry
  | flowSequenceEntry
  | flowMappingFirstKey
  | flowMappingKey
  | flowMappingValue
  | flowMappingEmptyValue
  | indentlessSequenceEntry
  | flowSequenceEntryMappingKey
  | flowSequenceEntryMappingValue
  | flowSequenceEntryMappingEnd
  | finished
deriving DecidableEq, Repr

/-- The parser's state. -/
structure Parser where
  tokens : Array Token
  pos : Nat
  /-- The failure that ends the tokens, if any. -/
  stop : Option ScanError
  state : State
  states : List State
  anchors : List (String × Nat)
  /-- The tag handles of the current document and what they expand to. -/
  tagHandles : List (String × String)
  lastMark : Mark

/-- A parsing step. -/
abbrev ParseM := ExceptT ScanError (StateM Parser)

namespace Parser

/-- The next token; past the scanned tokens, the scanner's failure. -/
def peek : ParseM Token := do
  let p ← get
  match p.tokens[p.pos]? with
  | some t => pure t
  | none => throw (p.stop.getD ⟨p.lastMark, "unexpected end of tokens"⟩)

/-- Step over the next token. -/
def skip : ParseM Unit := modify fun p => { p with pos := p.pos + 1 }

/-- Go to a state. -/
def goto (s : State) : ParseM Unit := modify fun p => { p with state := s }

/-- Remember a state to return to. -/
def pushState (s : State) : ParseM Unit := modify fun p => { p with states := s :: p.states }

/-- Return to the last remembered state. -/
def popState : ParseM Unit := modify fun p =>
  match p.states with
  | s :: rest => { p with state := s, states := rest }
  | [] => { p with state := .finished }

/-- Fail at a mark. -/
def failAt {α : Type} (mark : Mark) (info : String) : ParseM α := throw ⟨mark, info⟩

/-- Give an anchor name its number. -/
def registerAnchor (name : String) : ParseM Nat := do
  let p ← get
  let id := p.anchors.length + 1
  set { p with anchors := (name, id) :: p.anchors }
  return id

/-- The full tag of a handle and suffix: a handle the document declares expands to what it
was declared as; otherwise `!!` is the core schema, `!` stays local, and a named handle
`!name!` is a failure. -/
def resolveTag (mark : Mark) (handle suffix : String) : ParseM (String × String) := do
  let declared := (← get).tagHandles
  let key := if handle.isEmpty && suffix == "!" then "" else handle
  match declared.lookup key with
  | some expansion => pure (expansion, suffix)
  | none =>
    if handle == "!!" then pure ("tag:yaml.org,2002:", suffix)
    else if handle.length ≥ 2 && handle.startsWith "!" && handle.endsWith "!" then
      failAt mark "the handle wasn't declared"
    else pure (handle, suffix)

/-- A node: an alias, or properties followed by a scalar or the start of a collection. -/
def parseNode (block indentless : Bool) : ParseM (Event × Mark) := do
  let t ← peek
  match t.kind with
  | .alias name =>
    popState
    skip
    match (← get).anchors.find? (·.1 == name) with
    | some (_, id) => return (.alias id, t.mark)
    | none => failAt t.mark "while parsing node, found unknown anchor"
  | _ =>
  let (anchor, tag) ← match t.kind with
    | .anchor name => do
      skip
      let id ← registerAnchor name
      let t2 ← peek
      match t2.kind with
      | .tag h s => do skip; pure (id, some (← resolveTag t.mark h s))
      | _ => pure (id, none)
    | .tag h s => do
      skip
      let tg ← resolveTag t.mark h s
      let t2 ← peek
      match t2.kind with
      | .anchor name => do skip; pure (← registerAnchor name, some tg)
      | _ => pure (0, some tg)
    | _ => pure (0, none)
  let t ← peek
  match t.kind with
  | .blockEntry =>
    if indentless then goto .indentlessSequenceEntry; return (.sequenceStart anchor tag, t.mark)
    else if tag.isSome || anchor > 0 then popState; return (.scalar "" .plain anchor tag, t.mark)
    else failAt t.mark "while parsing a node, did not find expected node content"
  | .scalar style v => popState; skip; return (.scalar v style anchor tag, t.mark)
  | .flowSequenceStart => goto .flowSequenceFirstEntry; return (.sequenceStart anchor tag, t.mark)
  | .flowMappingStart => goto .flowMappingFirstKey; return (.mappingStart anchor tag, t.mark)
  | .blockSequenceStart =>
    if block then goto .blockSequenceFirstEntry; return (.sequenceStart anchor tag, t.mark)
    else if tag.isSome || anchor > 0 then popState; return (.scalar "" .plain anchor tag, t.mark)
    else failAt t.mark "while parsing a node, did not find expected node content"
  | .blockMappingStart =>
    if block then goto .blockMappingFirstKey; return (.mappingStart anchor tag, t.mark)
    else if tag.isSome || anchor > 0 then popState; return (.scalar "" .plain anchor tag, t.mark)
    else failAt t.mark "while parsing a node, did not find expected node content"
  | _ =>
    if tag.isSome || anchor > 0 then popState; return (.scalar "" .plain anchor tag, t.mark)
    else failAt t.mark "while parsing a node, did not find expected node content"

/-- Whether a token is a directive. -/
def isDirective (t : Token) : Bool :=
  match t.kind with
  | .versionDirective _ _ | .tagDirective _ _ => true
  | _ => false

/-- Read the directives before a document. A second `%YAML` directive is a failure. The
handles the document may use are those of the last directive alone: a `%TAG` directive
declares its handle in place of all before it, and a `%YAML` directive leaves none. -/
def readDirectives (seenVersion : Bool) : Nat → ParseM Unit
  | 0 => pure ()
  | n + 1 => do
    let t ← peek
    match t.kind with
    | .versionDirective _ _ =>
      if seenVersion then failAt t.mark "duplicate version directive"
      modify fun p => { p with tagHandles := [] }
      skip
      readDirectives true n
    | .tagDirective handle expansion =>
      modify fun p => { p with tagHandles := [(handle, expansion)] }
      skip
      readDirectives seenVersion n
    | _ => pure ()

/-- The start of an explicit document. -/
def explicitDocumentStart : ParseM (Event × Mark) := do
  readDirectives false (← get).tokens.size
  let t ← peek
  if t.kind == .documentStart then
    pushState .documentEnd
    goto .documentContent
    skip
    return (.documentStart, t.mark)
  else failAt t.mark "did not find expected <document start>"

/-- The start of a document or the end of the stream, after any document end markers. -/
def documentStart (implicit : Bool) : ParseM (Event × Mark) := do
  let rec ends : Nat → ParseM Unit
    | 0 => pure ()
    | n + 1 => do
      let t ← peek
      if t.kind == .documentEnd then skip; ends n else pure ()
  ends (← get).tokens.size
  let t ← peek
  match t.kind with
  | .streamEnd => goto .finished; skip; return (.streamEnd, t.mark)
  | .versionDirective _ _ | .tagDirective _ _ | .documentStart => explicitDocumentStart
  | _ =>
    if implicit then
      pushState .documentEnd
      goto .blockNode
      return (.documentStart, t.mark)
    else explicitDocumentStart

/-- The content of an explicit document. -/
def documentContent : ParseM (Event × Mark) := do
  let t ← peek
  match t.kind with
  | .versionDirective _ _ | .tagDirective _ _ | .documentStart | .documentEnd | .streamEnd =>
    popState; return (Event.empty, t.mark)
  | _ => parseNode true false

/-- The end of a document. -/
def documentEnd : ParseM (Event × Mark) := do
  let t ← peek
  modify fun p => { p with tagHandles := [] }
  if t.kind == .documentEnd then
    skip
    goto .implicitDocumentStart
  else
    if isDirective t then
      failAt t.mark "missing explicit document end marker before directive"
    goto .documentStart
  return (.documentEnd, t.mark)

/-- A key of a block mapping, or its end. -/
def blockMappingKey (first : Bool) : ParseM (Event × Mark) := do
  if first then skip
  let t ← peek
  match t.kind with
  | .key =>
    skip
    let t2 ← peek
    match t2.kind with
    | .key | .value | .blockEnd => goto .blockMappingValue; return (Event.empty, t2.mark)
    | _ => pushState .blockMappingValue; parseNode true true
  | .value => goto .blockMappingValue; return (Event.empty, t.mark)
  | .blockEnd => popState; skip; return (.mappingEnd, t.mark)
  | _ => failAt t.mark "while parsing a block mapping, did not find expected key"

/-- A value of a block mapping. -/
def blockMappingValue : ParseM (Event × Mark) := do
  let t ← peek
  match t.kind with
  | .value =>
    skip
    let t2 ← peek
    match t2.kind with
    | .key | .value | .blockEnd => goto .blockMappingKey; return (Event.empty, t2.mark)
    | _ => pushState .blockMappingKey; parseNode true true
  | _ => goto .blockMappingKey; return (Event.empty, t.mark)

/-- An entry of a block sequence, or its end. -/
def blockSequenceEntry (first : Bool) : ParseM (Event × Mark) := do
  if first then skip
  let t ← peek
  match t.kind with
  | .blockEnd => popState; skip; return (.sequenceEnd, t.mark)
  | .blockEntry =>
    skip
    let t2 ← peek
    match t2.kind with
    | .blockEntry | .blockEnd => goto .blockSequenceEntry; return (Event.empty, t2.mark)
    | _ => pushState .blockSequenceEntry; parseNode true false
  | _ => failAt t.mark "while parsing a block collection, did not find expected '-' indicator"

/-- An entry of a sequence written without indentation under a mapping key. -/
def indentlessSequenceEntry : ParseM (Event × Mark) := do
  let t ← peek
  if t.kind != .blockEntry then popState; return (.sequenceEnd, t.mark)
  skip
  let t2 ← peek
  match t2.kind with
  | .blockEntry | .key | .value | .blockEnd => goto .indentlessSequenceEntry; return (Event.empty, t2.mark)
  | _ => pushState .indentlessSequenceEntry; parseNode true false

/-- An entry of a flow sequence, or its end. -/
def flowSequenceEntry (first : Bool) : ParseM (Event × Mark) := do
  if first then skip
  let t ← peek
  match t.kind with
  | .flowSequenceEnd => popState; skip; return (.sequenceEnd, t.mark)
  | _ =>
    if !first then
      if t.kind == .flowEntry then skip
      else failAt t.mark "while parsing a flow sequence, expected ',' or ']'"
    let t ← peek
    match t.kind with
    | .flowSequenceEnd => popState; skip; return (.sequenceEnd, t.mark)
    | .key => goto .flowSequenceEntryMappingKey; skip; return (.mappingStart 0 none, t.mark)
    | _ => pushState .flowSequenceEntry; parseNode false false

/-- The key of a single-pair mapping inside a flow sequence. -/
def flowSequenceEntryMappingKey : ParseM (Event × Mark) := do
  let t ← peek
  match t.kind with
  | .value | .flowEntry | .flowSequenceEnd =>
    goto .flowSequenceEntryMappingValue; return (Event.empty, t.mark)
  | _ => pushState .flowSequenceEntryMappingValue; parseNode false false

/-- The value of a single-pair mapping inside a flow sequence. -/
def flowSequenceEntryMappingValue : ParseM (Event × Mark) := do
  let t ← peek
  match t.kind with
  | .value =>
    skip
    let t2 ← peek
    match t2.kind with
    | .flowEntry | .flowSequenceEnd => goto .flowSequenceEntryMappingEnd; return (Event.empty, t2.mark)
    | _ => pushState .flowSequenceEntryMappingEnd; parseNode false false
  | _ => goto .flowSequenceEntryMappingEnd; return (Event.empty, t.mark)

/-- A key of a flow mapping, or its end. -/
def flowMappingKey (first : Bool) : ParseM (Event × Mark) := do
  if first then skip
  let t ← peek
  match t.kind with
  | .flowMappingEnd => popState; skip; return (.mappingEnd, t.mark)
  | _ =>
    if !first then
      if t.kind == .flowEntry then skip
      else failAt t.mark "while parsing a flow mapping, did not find expected ',' or '\x7d'"
    let t ← peek
    match t.kind with
    | .key =>
      skip
      let t2 ← peek
      match t2.kind with
      | .value | .flowEntry | .flowMappingEnd => goto .flowMappingValue; return (Event.empty, t2.mark)
      | _ => pushState .flowMappingValue; parseNode false false
    | .value => goto .flowMappingValue; return (Event.empty, t.mark)
    | .flowMappingEnd => popState; skip; return (.mappingEnd, t.mark)
    | _ => pushState .flowMappingEmptyValue; parseNode false false

/-- A value of a flow mapping. -/
def flowMappingValue (empty : Bool) : ParseM (Event × Mark) := do
  let t ← peek
  if empty then goto .flowMappingKey; return (Event.empty, t.mark)
  match t.kind with
  | .value =>
    skip
    let t2 ← peek
    match t2.kind with
    | .flowEntry | .flowMappingEnd => goto .flowMappingKey; return (Event.empty, t.mark)
    | _ => pushState .flowMappingKey; parseNode false false
  | _ => goto .flowMappingKey; return (Event.empty, t.mark)

/-- One step of the state machine. -/
def step : ParseM (Event × Mark) := do
  let _ ← peek
  match (← get).state with
  | .streamStart => do
    let t ← peek
    if t.kind == .streamStart then goto .implicitDocumentStart; skip; return (.streamStart, t.mark)
    else failAt t.mark "did not find expected <stream-start>"
  | .implicitDocumentStart => documentStart true
  | .documentStart => documentStart false
  | .documentContent => documentContent
  | .documentEnd => documentEnd
  | .blockNode => parseNode true false
  | .blockNodeOrIndentlessSequence => parseNode true true
  | .flowNode => parseNode false false
  | .blockMappingFirstKey => blockMappingKey true
  | .blockMappingKey => blockMappingKey false
  | .blockMappingValue => blockMappingValue
  | .blockSequenceFirstEntry => blockSequenceEntry true
  | .blockSequenceEntry => blockSequenceEntry false
  | .flowSequenceFirstEntry => flowSequenceEntry true
  | .flowSequenceEntry => flowSequenceEntry false
  | .flowMappingFirstKey => flowMappingKey true
  | .flowMappingKey => flowMappingKey false
  | .flowMappingValue => flowMappingValue false
  | .flowMappingEmptyValue => flowMappingValue true
  | .indentlessSequenceEntry => indentlessSequenceEntry
  | .flowSequenceEntryMappingKey => flowSequenceEntryMappingKey
  | .flowSequenceEntryMappingValue => flowSequenceEntryMappingValue
  | .flowSequenceEntryMappingEnd => do
    goto .flowSequenceEntry
    return (.mappingEnd, (← peek).mark)
  | .finished => failAt (← peek).mark "unexpected end of tokens"

/-- Events, each with where it starts, until the end of the stream. -/
def events : Nat → Array (Event × Mark) → ParseM (Array (Event × Mark))
  | 0, acc => pure acc
  | n + 1, acc => do
    let (e, m) ← step
    let acc := acc.push (e, m)
    match e with
    | .streamEnd => pure acc
    | _ => events n acc

end Parser

/-- A collection being composed: its node so far, the key a mapping waits on, its anchor, and
where it starts. -/
structure Open where
  node : Node
  key : Option Node
  anchor : Nat
  mark : Mark

/-- What the composer holds: finished documents, open collections, the nodes anchors name, and
the first failure. -/
structure Composer where
  docs : Array Node := #[]
  open_ : List Open := []
  anchors : List (Nat × Node) := []
  fault : Option ScanError := none

namespace Composer

/-- Put a finished node, which starts at a mark, where it belongs: the root, the next item, a
mapping's key, or the value of the key it waits on. A key equal to one the mapping already has
is a failure at the value. -/
def insertNode (c : Composer) (n : Node) (anchor : Nat) (mark : Mark) : Composer :=
  let c := if anchor > 0 then { c with anchors := (anchor, n) :: c.anchors } else c
  match c.open_ with
  | [] => { c with open_ := [⟨n, none, 0, mark⟩] }
  | ⟨.seq items, k, a, m⟩ :: rest => { c with open_ := ⟨.seq (items ++ [n]), k, a, m⟩ :: rest }
  | ⟨.map es, none, a, m⟩ :: rest => { c with open_ := ⟨.map es, some n, a, m⟩ :: rest }
  | ⟨.map es, some key, a, m⟩ :: rest =>
    if es.any (·.1 == key) then
      { c with fault := some ⟨mark, key.debug ++ ": duplicated key in mapping"⟩ }
    else { c with open_ := ⟨.map (es ++ [(key, n)]), none, a, m⟩ :: rest }
  | o :: rest => { c with open_ := o :: rest }

/-- Resolve a scalar event. -/
def scalarNode (text : String) (style : ScalarStyle) (tag : Option (String × String)) : Node :=
  if style != .plain then .str text
  else match tag with
    | some (handle, suffix) =>
      if handle == "tag:yaml.org,2002:" then resolveTagged suffix text else .str text
    | none => resolvePlain text

/-- Take one event, which starts at a mark; after a failure, nothing more. -/
def event (c : Composer) : Event × Mark → Composer
  | (e, mark) =>
    if c.fault.isSome then c else
    match e with
    | .documentEnd =>
      match c.open_ with
      | [o] => { c with docs := c.docs.push o.node, open_ := [] }
      | _ => { c with docs := c.docs.push .bad, open_ := [] }
    | .alias id => c.insertNode (((c.anchors.find? (·.1 == id)).map (·.2)).getD .bad) 0 mark
    | .scalar text style anchor tag => c.insertNode (scalarNode text style tag) anchor mark
    | .sequenceStart anchor _ => { c with open_ := ⟨.seq [], none, anchor, mark⟩ :: c.open_ }
    | .mappingStart anchor _ => { c with open_ := ⟨.map [], none, anchor, mark⟩ :: c.open_ }
    | .sequenceEnd | .mappingEnd =>
      match c.open_ with
      | o :: rest => { c with open_ := rest }.insertNode o.node o.anchor o.mark
      | [] => c
    | _ => c

end Composer

/-- The documents of a YAML text, or the first failure: a failure to parse the stream comes
before a repeated key. A byte order mark at the start is passed over. -/
def load (text : String) : Except ScanError (List Node) :=
  let text := if text.startsWith "\uFEFF" then String.ofList (text.toList.drop 1) else text
  let (tokens, stop) := scan text
  let p : Parser := ⟨tokens, 0, stop, .streamStart, [], [], [], ⟨0, 1, 0⟩⟩
  match (Parser.events (4 * tokens.size + 8) #[]).run.run p with
  | (.error e, _) => .error e
  | (.ok evs, _) =>
    let c := evs.foldl Composer.event {}
    match c.fault with
    | some e => .error e
    | none => .ok c.docs.toList

end Yaml
end Conveyor
