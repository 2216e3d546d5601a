/-
  Values of YAML documents.

  1. **Program** — `Node.ofTokens` reads documents from tokens: one node each. `Node.ofPlain` says what
     a plain scalar means.

  2. **Specification** — a plain scalar is a null, a truth value, an integer of 64 bits or a decimal
     fraction if it is written like one, else a text; any other scalar is a text. A tag can fix the
     meaning of a plain scalar; a scalar that does not fit its tag has no meaning (`void`). An alias
     stands for the last node that was given its name, and has no meaning inside that node.

  The entries of a mapping are taken from the sequence of its nodes: the first node with a meaning is
  a key, the next node its value, and so on. A key may not come twice.

  The readers call one another along the tokens; the number of tokens bounds how deep, and that bound
  is their first argument.
-/
import BackupConsole.Text.Binary64
import BackupConsole.Yaml.Lexer

namespace BackupConsole.Yaml

open Text

/-! ## Nodes -/

/-- A value of a document. -/
inductive Node where
  | null
  | bool (b : Bool)
  | int (n : Int)
  /-- A decimal fraction, as it was written. -/
  | real (text : String)
  | text (s : String)
  /-- No meaning. -/
  | void
  | list (items : List Node)
  | map (entries : List (Node × Node))
  deriving Inhabited

namespace Node

/-! ## Plain scalars -/

/-- The spellings of infinity and of what is no number. -/
def specialReals : List String :=
  [".inf", ".Inf", ".INF", "+.inf", "+.Inf", "+.INF", "-.inf", "-.Inf", "-.INF", ".nan", ".NaN",
    ".NAN"]

/-- Whether a text is written like a decimal fraction, or is one of the special spellings. -/
def isReal (text : String) : Bool :=
  specialReals.contains text || (Fraction.read text.toList).isSome

/-- An integer with a base in front, or with a plus sign. -/
def readPrefixedInt (text : List Char) : Option Int :=
  match text with
  | '0' :: 'x' :: digits => readInt64 16 digits
  | '0' :: 'o' :: digits => readInt64 8 digits
  | '+' :: digits => readInt64 10 digits
  | _ => none

/-- What a plain scalar without a tag means. -/
def ofPlain (text : String) : Node :=
  match readPrefixedInt text.toList with
  | some n => .int n
  | none =>
    if text = "" ∨ text = "~" ∨ text = "null" then .null
    else if text = "true" ∨ text = "True" ∨ text = "TRUE" then .bool true
    else if text = "false" ∨ text = "False" ∨ text = "FALSE" then .bool false
    else
      match readInt64 10 text.toList with
      | some n => .int n
      | none => if isReal text then .real text else .text text

/-- A tag in full: its handle resolved, and the rest of it. -/
structure Tag where
  handle : String
  suffix : String

/-- What the handle of two exclamation marks stands for, unless a directive says otherwise. -/
def standardHandle : String := "tag:yaml.org,2002:"

/-- What a scalar means. -/
def ofScalar (style : ScalarStyle) (text : String) (tag : Option Tag) : Node :=
  match style, tag with
  | .quoted, _ => .text text
  | .plain, none => ofPlain text
  | .plain, some tag =>
    if tag.handle ≠ standardHandle then .text text
    else if tag.suffix = "bool" then
      if text = "true" then .bool true else if text = "false" then .bool false else .void
    else if tag.suffix = "int" then
      match readInt64 10 text.toList with
      | some n => .int n
      | none => .void
    else if tag.suffix = "float" then if isReal text then .real text else .void
    else if tag.suffix = "null" then if text = "~" ∨ text = "null" then .null else .void
    else .text text

/-! ## Mappings -/

/-- Whether two nodes are the same scalar. -/
def sameScalar : Node → Node → Bool
  | Node.null, Node.null => true
  | Node.bool a, Node.bool b => a == b
  | Node.int a, Node.int b => a == b
  | Node.real a, Node.real b => a == b
  | Node.text a, Node.text b => a == b
  | _, _ => false

/-- The entries of a mapping from the sequence of its nodes. -/
def entriesOf : List (Node × Node) → Option Node → List Node → Except SyntaxError (List (Node × Node))
  | entries, _, [] => .ok entries
  | entries, none, .void :: rest => entriesOf entries none rest
  | entries, none, key :: rest => entriesOf entries (some key) rest
  | entries, some key, value :: rest =>
    if entries.any fun entry => sameScalar entry.1 key then .error .duplicateKey
    else entriesOf (entries ++ [(key, value)]) none rest

/-! ## Reading tokens -/

/-- What the reader remembers: the tokens to come, the tags declared, and the anchors: a number for
each name, and the node for each number once it is complete. -/
structure Reader where
  tokens : List Token
  tags : List (String × String)
  anchors : List (String × Nat)
  nodes : List (Nat × Node)
  next : Nat

namespace Reader

/-- The token that follows; behind the last one, the end of the text. -/
def peek (r : Reader) : Token := r.tokens.headD .streamEnd

/-- Passes over a token. -/
def skip (r : Reader) : Reader := { r with tokens := r.tokens.drop 1 }

/-- Gives a name a new number. -/
def declare (r : Reader) (name : String) : Nat × Reader :=
  (r.next, { r with anchors := (name, r.next) :: r.anchors, next := r.next + 1 })

/-- Remembers a complete node under its anchor's number, if it has an anchor. -/
def complete (r : Reader) (anchor : Option Nat) (n : Node) : Reader :=
  match anchor with
  | some k => { r with nodes := (k, n) :: r.nodes }
  | none => r

/-- The node a name stands for. -/
def find (r : Reader) (name : String) : Except SyntaxError Node :=
  match r.anchors.lookup name with
  | none => .error .undefinedAlias
  | some k => .ok ((r.nodes.lookup k).getD .void)

/-- A tag's handle replaced by what it stands for; a word between two marks has to be declared. -/
def resolveTag (r : Reader) (handle suffix : String) : Except SyntaxError Tag :=
  if handle = "!!" then .ok ⟨(r.tags.lookup "!!").getD standardHandle, suffix⟩
  else if handle = "" ∧ suffix = "!" then .ok ⟨(r.tags.lookup "").getD "", suffix⟩
  else
    match r.tags.lookup handle with
    | some start => .ok ⟨start, suffix⟩
    | none =>
      if 2 ≤ handle.length ∧ handle.toList.head? = some '!' ∧ handle.toList.getLast? = some '!' then
        .error .undeclaredTag
      else .ok ⟨handle, suffix⟩

/-- The anchor and the tag before a node, in either order. -/
def readProperties (r : Reader) : Except SyntaxError (Option Nat × Option Tag × Reader) :=
  match r.peek with
  | .anchor name =>
    let (k, r) := r.skip.declare name
    match r.peek with
    | .tag handle suffix => do
      let tag ← r.resolveTag handle suffix
      .ok (some k, some tag, r.skip)
    | _ => .ok (some k, none, r)
  | .tag handle suffix => do
    let tag ← r.resolveTag handle suffix
    let r := r.skip
    match r.peek with
    | .anchor name =>
      let (k, r) := r.skip.declare name
      .ok (some k, some tag, r)
    | _ => .ok (none, some tag, r)
  | _ => .ok (none, none, r)

mutual

/-- Reads a node. Mappings and sequences by indentation are possible where `block` says so, and
sequences without an indentation of their own where `indentless` does. -/
def readNode : Nat → Bool → Bool → Reader → Except SyntaxError (Node × Reader)
  | 0, _, _, _ => .error .unexpectedToken
  | fuel + 1, block, indentless, r =>
    match r.peek with
    | .reference name => do
      let n ← r.find name
      .ok (n, r.skip)
    | _ => do
      let (anchor, tag, r) ← r.readProperties
      let (n, r) ←
        match r.peek with
        | .blockEntry =>
          if indentless then do
            let (items, r) ← readIndentless fuel r
            pure (.list items, r)
          else if anchor.isSome || tag.isSome then pure (ofScalar .plain "" tag, r)
          else .error .unexpectedToken
        | .scalar style content => pure (ofScalar style content tag, r.skip)
        | .flowSequenceStart => do
          let (items, r) ← readFlowItems fuel true r.skip
          pure (.list items, r)
        | .flowMappingStart => do
          let (nodes, r) ← readFlowPairs fuel true r.skip
          let entries ← entriesOf [] none nodes
          pure (.map entries, r)
        | .blockSequenceStart =>
          if block then do
            let (items, r) ← readBlockItems fuel r.skip
            pure (.list items, r)
          else if anchor.isSome || tag.isSome then pure (ofScalar .plain "" tag, r)
          else .error .unexpectedToken
        | .blockMappingStart =>
          if block then do
            let (nodes, r) ← readBlockPairs fuel r.skip
            let entries ← entriesOf [] none nodes
            pure (.map entries, r)
          else if anchor.isSome || tag.isSome then pure (ofScalar .plain "" tag, r)
          else .error .unexpectedToken
        | _ =>
          if anchor.isSome || tag.isSome then pure (ofScalar .plain "" tag, r)
          else .error .unexpectedToken
      .ok (n, r.complete anchor n)

/-- The items of a sequence by indentation, up to its end. -/
def readBlockItems : Nat → Reader → Except SyntaxError (List Node × Reader)
  | 0, _ => .error .unexpectedToken
  | fuel + 1, r =>
    match r.peek with
    | .blockEnd => .ok ([], r.skip)
    | .blockEntry => do
      let r := r.skip
      let (n, r) ←
        match r.peek with
        | .blockEntry => pure (.null, r)
        | .blockEnd => pure (.null, r)
        | _ => readNode fuel true false r
      let (items, r) ← readBlockItems fuel r
      .ok (n :: items, r)
    | _ => .error .unexpectedToken

/-- The items of a sequence without an indentation of its own. -/
def readIndentless : Nat → Reader → Except SyntaxError (List Node × Reader)
  | 0, _ => .error .unexpectedToken
  | fuel + 1, r =>
    match r.peek with
    | .blockEntry => do
      let r := r.skip
      let (n, r) ←
        match r.peek with
        | .blockEntry => pure (.null, r)
        | .key => pure (.null, r)
        | .value => pure (.null, r)
        | .blockEnd => pure (.null, r)
        | _ => readNode fuel true false r
      let (items, r) ← readIndentless fuel r
      .ok (n :: items, r)
    | _ => .ok ([], r)

/-- The nodes of a mapping by indentation, up to its end. -/
def readBlockPairs : Nat → Reader → Except SyntaxError (List Node × Reader)
  | 0, _ => .error .unexpectedToken
  | fuel + 1, r => do
    match r.peek with
    | .blockEnd => .ok ([], r.skip)
    | .key => do
      let r := r.skip
      let (key, r) ←
        match r.peek with
        | .key => pure (.null, r)
        | .value => pure (.null, r)
        | .blockEnd => pure (.null, r)
        | _ => readNode fuel true true r
      let (value, r) ← readBlockValue fuel r
      let (nodes, r) ← readBlockPairs fuel r
      .ok (key :: value :: nodes, r)
    | .value => do
      let (value, r) ← readBlockValue fuel r
      let (nodes, r) ← readBlockPairs fuel r
      .ok (.null :: value :: nodes, r)
    | _ => .error .unexpectedToken

/-- The value of a mapping by indentation; it may be missing. -/
def readBlockValue : Nat → Reader → Except SyntaxError (Node × Reader)
  | 0, _ => .error .unexpectedToken
  | fuel + 1, r =>
    match r.peek with
    | .value =>
      let r := r.skip
      match r.peek with
      | .key => .ok (.null, r)
      | .value => .ok (.null, r)
      | .blockEnd => .ok (.null, r)
      | _ => readNode fuel true true r
    | _ => .ok (.null, r)

/-- The nodes of a mapping in braces, up to its end. -/
def readFlowPairs : Nat → Bool → Reader → Except SyntaxError (List Node × Reader)
  | 0, _, _ => .error .unexpectedToken
  | fuel + 1, first, r =>
    match r.peek with
    | .flowMappingEnd => .ok ([], r.skip)
    | _ => do
      let r ←
        if first then pure r
        else
          match r.peek with
          | .flowEntry => pure r.skip
          | _ => .error .unexpectedToken
      match r.peek with
      | .flowMappingEnd => .ok ([], r.skip)
      | .key => do
        let r := r.skip
        let (key, r) ←
          match r.peek with
          | .value => pure (.null, r)
          | .flowEntry => pure (.null, r)
          | .flowMappingEnd => pure (.null, r)
          | _ => readNode fuel false false r
        let (value, r) ← readFlowValue fuel r
        let (nodes, r) ← readFlowPairs fuel false r
        .ok (key :: value :: nodes, r)
      | .value => do
        let (value, r) ← readFlowValue fuel r
        let (nodes, r) ← readFlowPairs fuel false r
        .ok (.null :: value :: nodes, r)
      | _ => do
        let (key, r) ← readNode fuel false false r
        let (nodes, r) ← readFlowPairs fuel false r
        .ok (key :: .null :: nodes, r)

/-- The value of a mapping in braces; it may be missing. -/
def readFlowValue : Nat → Reader → Except SyntaxError (Node × Reader)
  | 0, _ => .error .unexpectedToken
  | fuel + 1, r =>
    match r.peek with
    | .value =>
      let r := r.skip
      match r.peek with
      | .flowEntry => .ok (.null, r)
      | .flowMappingEnd => .ok (.null, r)
      | _ => readNode fuel false false r
    | _ => .ok (.null, r)

/-- The items of a sequence in square brackets, up to its end. -/
def readFlowItems : Nat → Bool → Reader → Except SyntaxError (List Node × Reader)
  | 0, _, _ => .error .unexpectedToken
  | fuel + 1, first, r =>
    match r.peek with
    | .flowSequenceEnd => .ok ([], r.skip)
    | _ => do
      let r ←
        if first then pure r
        else
          match r.peek with
          | .flowEntry => pure r.skip
          | _ => .error .unexpectedToken
      match r.peek with
      | .flowSequenceEnd => .ok ([], r.skip)
      | .key => do
        let (n, r) ← readPair fuel r.skip
        let (items, r) ← readFlowItems fuel false r
        .ok (n :: items, r)
      | _ => do
        let (n, r) ← readNode fuel false false r
        let (items, r) ← readFlowItems fuel false r
        .ok (n :: items, r)

/-- A mapping of one pair that stands in a sequence without braces. -/
def readPair : Nat → Reader → Except SyntaxError (Node × Reader)
  | 0, _ => .error .unexpectedToken
  | fuel + 1, r => do
    let (key, r) ←
      match r.peek with
      | .value => pure (.null, r.skip)
      | .flowEntry => pure (.null, r.skip)
      | .flowSequenceEnd => pure (.null, r.skip)
      | _ => readNode fuel false false r
    let (value, r) ←
      match r.peek with
      | .value =>
        let r := r.skip
        match r.peek with
        | .flowEntry => pure (.null, r)
        | .flowSequenceEnd => pure (.null, r)
        | _ => readNode fuel false false r
      | _ => pure (.null, r)
    let entries ← entriesOf [] none [key, value]
    .ok (.map entries, r)

end

/-! ### Documents -/

/-- Passes over directives; the last one that declares a tag counts. -/
def readDirectives : Nat → Bool → Reader → Except SyntaxError Reader
  | 0, _, r => .ok r
  | fuel + 1, versioned, r =>
    match r.peek with
    | .versionDirective =>
      if versioned then .error .directive
      else readDirectives fuel true { r.skip with tags := [] }
    | .tagDirective handle start => readDirectives fuel versioned { r.skip with tags := [(handle, start)] }
    | _ => .ok r

/-- The node of a document whose start has been passed; `bare` says that there was no mark. -/
def readContent (fuel : Nat) (bare : Bool) (r : Reader) : Except SyntaxError (Node × Reader) :=
  let missing : Except SyntaxError (Node × Reader) :=
    if bare then readNode fuel true false r else .ok (.null, r)
  match r.peek with
  | .versionDirective => missing
  | .tagDirective _ _ => missing
  | .documentStart => missing
  | .documentEnd => missing
  | .streamEnd => missing
  | _ => readNode fuel true false r

/-- The documents of a stream. A document needs a mark before it where the document before it had
none behind it; `implicit` says that it needs none. -/
def readDocuments (depth : Nat) : Nat → Bool → Reader → Except SyntaxError (List Node)
  | 0, _, _ => .error .unexpectedToken
  | fuel + 1, implicit, r =>
    let r : Reader := { r with tokens := r.tokens.dropWhile fun t => t == Token.documentEnd }
    let explicit : Except SyntaxError (Node × Reader) := do
      let r ← r.readDirectives (r.tokens.length + 1) false
      match r.peek with
      | .documentStart => r.skip.readContent depth false
      | _ => .error .unexpectedToken
    if r.peek = .streamEnd then .ok []
    else do
      let r : Reader := { r with anchors := [] }
      let (n, r) : Node × Reader ←
        match r.peek with
        | .versionDirective => explicit
        | .tagDirective _ _ => explicit
        | .documentStart => explicit
        | _ => if implicit then r.readContent depth true else explicit
      let r : Reader := { r with tags := [] }
      let next : Except SyntaxError (List Node) :=
        match r.peek with
        | .documentEnd => r.skip.readDocuments depth fuel true
        | .versionDirective => .error .directive
        | .tagDirective _ _ => .error .directive
        | _ => r.readDocuments depth fuel false
      let rest ← next
      .ok (n :: rest)

end Reader

/-- The documents that some tokens make up. -/
def ofTokens (tokens : List Token) : Except SyntaxError (List Node) :=
  Reader.readDocuments (2 * tokens.length + 2) (tokens.length + 1) true ⟨tokens, [], [], [], 1⟩

/-- The documents of a text. -/
def ofText (text : List Char) : Except SyntaxError (List Node) :=
  (tokenize text).bind ofTokens

end Node

end BackupConsole.Yaml
