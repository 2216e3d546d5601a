/-
  Tokens of YAML text, and what can be wrong with such text.

  A mapping or sequence that is written by indentation has tokens for its start and its end, although
  no characters stand for them. A mapping key has a token before it, whether a question mark stands
  there or only the colon behind the key tells that it was one.
-/

namespace BackupConsole.Yaml

/-- How a scalar is written; only plain ones can mean something else than their text. -/
inductive ScalarStyle where
  | plain
  | quoted
  deriving DecidableEq, Repr

/-- A piece of text with a meaning of its own. -/
inductive Token where
  | versionDirective
  | tagDirective (handle start : String)
  | documentStart
  | documentEnd
  | blockSequenceStart
  | blockMappingStart
  | blockEnd
  | flowSequenceStart
  | flowSequenceEnd
  | flowMappingStart
  | flowMappingEnd
  | blockEntry
  | flowEntry
  | key
  | value
  | reference (name : String)
  | anchor (name : String)
  | tag (handle suffix : String)
  | scalar (style : ScalarStyle) (text : String)
  | streamEnd
  deriving DecidableEq, Repr

/-- What can be wrong with the text. -/
inductive SyntaxError where
  | tabIndentation
  | keyWithoutColon
  | misplacedIndentation
  | reservedCharacter
  | afterDocumentEnd
  | commentWithoutSpace
  | directive
  | tooDeep
  | misplacedEntry
  | misplacedKey
  | misplacedValue
  | blockScalarHeader
  | blockScalarIndentation
  | unterminatedQuote
  | escapeSequence
  | afterQuote
  | emptyPlainScalar
  | emptyAnchor
  | malformedTag
  | undeclaredTag
  | undefinedAlias
  | unexpectedToken
  | duplicateKey
  deriving DecidableEq, Repr

namespace SyntaxError

/-- The text in which the user is told what is wrong with a file. -/
def message : SyntaxError → String
  | tabIndentation => "tabs disallowed within this context (block indentation)"
  | keyWithoutColon => "simple key expect ':'"
  | misplacedIndentation => "invalid indentation"
  | reservedCharacter => "unexpected character"
  | afterDocumentEnd => "invalid content after document end marker"
  | commentWithoutSpace => "comments must be separated from other tokens by whitespace"
  | directive => "while scanning a directive, did not find expected comment or line break"
  | tooDeep => "recursion limit exceeded"
  | misplacedEntry => "block sequence entries are not allowed in this context"
  | misplacedKey => "mapping keys are not allowed in this context"
  | misplacedValue => "mapping values are not allowed in this context"
  | blockScalarHeader => "while scanning a block scalar, did not find expected comment or line break"
  | blockScalarIndentation => "wrongly indented line in block scalar"
  | unterminatedQuote => "while scanning a quoted scalar, found unexpected end of stream"
  | escapeSequence => "while parsing a quoted scalar, found unknown escape character"
  | afterQuote => "invalid trailing content after double-quoted scalar"
  | emptyPlainScalar => "unexpected end of plain scalar"
  | emptyAnchor =>
    "while scanning an anchor or alias, did not find expected alphabetic or numeric character"
  | malformedTag => "while scanning a tag, did not find expected whitespace or line break"
  | undeclaredTag => "the handle wasn't declared"
  | undefinedAlias => "while parsing node, found unknown anchor"
  | unexpectedToken => "while parsing a node, did not find expected node content"
  | duplicateKey => "duplicated key in mapping"

end SyntaxError

end BackupConsole.Yaml
