import SiteIndex.Bytes
import SiteIndex.Text.Quoted

/-!
# Failures

Everything that can go wrong, one constructor per cause. `Failure.kind` sorts the causes into
the kinds that callers act on, and `Failure.message` is the text that people read.
-/

namespace SiteIndex

/-- The kinds of failures that callers tell apart. -/
inductive FailureKind where
  | io | parse | notFound | invalidArgument | invalidInput | typeMismatch | backend | readOnly
  deriving DecidableEq, Repr

/-- The name of a kind in reports. -/
def FailureKind.name : FailureKind → String
  | .io => "Io"
  | .parse => "Parse"
  | .notFound => "NotFound"
  | .invalidArgument => "InvalidArgument"
  | .invalidInput => "InvalidInput"
  | .typeMismatch => "TypeMismatch"
  | .backend => "Backend"
  | .readOnly => "ReadOnly"

/-- A query that does not follow the grammar, and where. Columns count characters from 1. -/
structure SyntaxError where
  query : String
  column : Nat
  message : String
  deriving DecidableEq, Repr

namespace SyntaxError

/-- A syntax error at a column; there is no column before the first. -/
def make (query : String) (column : Nat) (message : String) : SyntaxError :=
  { query, column := max column 1, message }

/-- One line with the message and the column. -/
def text (e : SyntaxError) : String := e.message ++ " at column " ++ toString e.column

/-- The query with a caret and the message below it. -/
def pretty (e : SyntaxError) : String :=
  e.query ++ "\n" ++ .ofList (List.replicate (e.column - 1) ' ') ++ "^ " ++ e.message

end SyntaxError

/-- What the operating system reports about a path. -/
inductive PathFault where
  | noEntry | exists | notDirectory | isDirectory | nameTooLong | nulByte | notText
  deriving DecidableEq, Repr

/-- The operating system's words for a fault. -/
def PathFault.message : PathFault → String
  | .noEntry => "No such file or directory (os error 2)"
  | .exists => "File exists (os error 17)"
  | .notDirectory => "Not a directory (os error 20)"
  | .isDirectory => "Is a directory (os error 21)"
  | .nameTooLong => "File name too long (os error 36)"
  | .nulByte => "file name contained an unexpected NUL byte"
  | .notText => "stream did not contain valid UTF-8"

/-- Why an operation failed. -/
inductive Failure where
  /-- A store has no entry under the key. -/
  | missingKey (key : Bytes)
  /-- A write to a store that is open for reading only. -/
  | readOnlyStore (driver : String)
  /-- A stored key does not have the form of its table. -/
  | malformedKey (key : Bytes)
  /-- A stored counter does not have four bytes. -/
  | malformedCounter (length : Nat)
  /-- An attribute name or a token that is empty or holds a NUL. -/
  | invalidName (name : String)
  /-- A stored value or summary that cannot be read. -/
  | malformedValue (reason : String)
  /-- A variable-length number that does not fit 32 bits. -/
  | varintOverflow
  /-- A variable-length number that breaks off. -/
  | varintIncomplete
  /-- Gaps of a posting list whose sum does not fit 32 bits. -/
  | deltaOverflow
  /-- A posting list that is to be stored does not ascend. -/
  | notAscending (number previous : UInt32)
  /-- A literal that cannot be read as a value of the type it is compared with. -/
  | literalMismatch (typeName literal : String)
  /-- Values of types that cannot be compared. -/
  | typeMismatch (left right : String)
  /-- A regular expression applied to a value that is no text. -/
  | patternMismatch (typeName key : String)
  /-- A query that does not follow the grammar. -/
  | syntaxError (error : SyntaxError)
  /-- A regular expression that cannot be compiled. -/
  | invalidPattern
  /-- A frontmatter block without its closing line. -/
  | unterminatedFrontmatter (delimiter : String)
  | invalidToml
  | invalidYaml
  | invalidJson
  /-- YAML frontmatter that is no mapping. -/
  | yamlNotMapping
  /-- JSON frontmatter that is no object. -/
  | jsonNotObject
  /-- A page whose content is no text. -/
  | notUtf8 (files source : String)
  /-- A file that a file system does not have. -/
  | missingFile (files path : String)
  /-- The root of a file tree is no directory. -/
  | notDirectory (root : String)
  /-- A path that would leave its file tree. -/
  | escapingPath (path files : String)
  /-- The operating system refused a path. -/
  | path (fault : PathFault)
  /-- A configuration text that cannot be read. -/
  | invalidConfig
  /-- A backend that keeps a file needs a path for it. -/
  | missingStoragePath (backend : String)
  | zeroCacheSize
  | zeroBatchSize
  /-- A file that is no storage of its backend. -/
  | unusableStorage (backend : String)
  /-- A failure that a component from outside the library reports. -/
  | reported (kind : FailureKind) (message : String)
  deriving DecidableEq, Repr

namespace Failure

/-- The kind of a failure. -/
def kind : Failure → FailureKind
  | missingKey _ | missingFile _ _ | path .noEntry => .notFound
  | readOnlyStore _ => .readOnly
  | malformedKey _ | malformedCounter _ | malformedValue _ | varintOverflow | varintIncomplete
  | deltaOverflow | syntaxError _ | unterminatedFrontmatter _ | invalidToml | invalidYaml
  | invalidJson | yamlNotMapping | jsonNotObject => .parse
  | invalidName _ | notDirectory _ | escapingPath _ _ | missingStoragePath _ | zeroCacheSize
  | zeroBatchSize => .invalidArgument
  | notAscending _ _ | invalidPattern | notUtf8 _ _ | invalidConfig => .invalidInput
  | literalMismatch _ _ | typeMismatch _ _ | patternMismatch _ _ => .typeMismatch
  | path _ => .io
  | unusableStorage _ => .backend
  | reported kind _ => kind

/-- The text of a failure. -/
def message : Failure → String
  | missingKey key => "key " ++ Bytes.hex key
  | readOnlyStore driver => driver ++ " store is opened read-only"
  | malformedKey key => "malformed index key " ++ Bytes.hex key
  | malformedCounter length => "expected 4-byte counter, got " ++ toString length ++ " bytes"
  | invalidName name => "invalid index key name " ++ Text.quoted name
  | malformedValue reason => reason
  | varintOverflow => "VByte overflow"
  | varintIncomplete => "Incomplete VByte"
  | deltaOverflow => "posting list delta overflow"
  | notAscending number previous =>
    "posting list not ascending: " ++ toString number ++ " after " ++ toString previous
  | literalMismatch typeName literal =>
    "cannot compare " ++ typeName ++ " value with \"" ++ literal ++ "\""
  | typeMismatch left right => "cannot compare " ++ left ++ " with " ++ right
  | patternMismatch typeName key =>
    "regular expression applied to " ++ typeName ++ " value of ." ++ key
  | syntaxError error => error.text
  | invalidPattern => "regex: "
  | unterminatedFrontmatter delimiter => "unterminated " ++ delimiter ++ " frontmatter"
  | invalidToml => "toml frontmatter: "
  | invalidYaml => "yaml frontmatter: "
  | invalidJson => "json: "
  | yamlNotMapping => "yaml frontmatter is not a mapping"
  | jsonNotObject => "json frontmatter is not an object"
  | notUtf8 files source => files ++ ": " ++ source ++ " is not valid UTF-8"
  | missingFile files name => files ++ ": no file " ++ name
  | notDirectory root => root ++ " is not a directory"
  | escapingPath name files => "path " ++ name ++ " escapes " ++ files
  | path fault => fault.message
  | invalidConfig => "config: "
  | missingStoragePath backend => backend ++ " backend requires a storage path"
  | zeroCacheSize => "cache sizes must be greater than zero"
  | zeroBatchSize => "batch_size must be greater than zero"
  | unusableStorage backend => backend ++ ": "
  | reported _ message => message

/-- A missing entry is the only failure that callers may answer by creating one. -/
def isNotFound (f : Failure) : Bool := f.kind = .notFound

end Failure

/-- The outcome of an operation. -/
abbrev Outcome := Except Failure

end SiteIndex
