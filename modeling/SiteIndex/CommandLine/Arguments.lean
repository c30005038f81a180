import SiteIndex.Store.Driver

/-!
# Arguments

What the words of a command line ask for. There is one command, `precache`, which names a
backend and takes options with values. Words are read from left to right, and the first one that
makes no sense makes the whole line a misuse; a wish for help or for the version ends the
reading.
-/

namespace SiteIndex.CommandLine

open Store (BackendKind)

/-- The options of a run. -/
structure Options where
  /-- The file of the store. -/
  path : Option String := none
  /-- The directories to index, each with or without the point where it is mounted. -/
  mounts : List String := []
  /-- The file with the configuration. -/
  config : Option String := none
  deriving DecidableEq, Repr

/-- What a command line asks for. -/
inductive Request where
  | help
  | version
  | precache (backend : BackendKind) (options : Options)
  deriving DecidableEq, Repr

/-- A word by its form. -/
inductive Word where
  | long (name : String) (value : Option String)
  | short (letters : List Char)
  /-- Two dashes, after which no word is an option. -/
  | escape
  | plain (text : String)
  deriving DecidableEq, Repr

/-- The form of a word. -/
def Word.ofText (text : String) : Word :=
  match text.toList with
  | ['-', '-'] => .escape
  | '-' :: '-' :: rest =>
    .long (.ofList (rest.takeWhile (· ≠ '=')))
      (match rest.dropWhile (· ≠ '=') with
        | [] => none
        | _ :: value => some (.ofList value))
  | '-' :: c :: rest => .short (c :: rest)
  | _ => .plain text

/-- Single-letter flags: what they ask for, nothing if the reading goes on. -/
def readLetters (top : Bool) : List Char → Option (Option Request)
  | [] => some none
  | 'v' :: rest => readLetters top rest
  | 'h' :: _ => some (some .help)
  | 'V' :: _ => if top then some (some .version) else none
  | _ => none

/-- A word of flags: what it asks for, nothing if the reading goes on. The version may be asked
for before the command only. -/
def readFlag (top : Bool) : Word → Option (Option Request)
  | .long "verbose" none => some none
  | .long "help" none => some (some .help)
  | .long "version" none => if top then some (some .version) else none
  | .short letters => readLetters top letters
  | _ => none

/-- The backend of a name. -/
def backend? (name : String) : Option BackendKind :=
  [.memory, .redb, .sqlite].find? (·.name = name)

/-- The options with one more value. Only directories can be given several times, and only they
may be empty. -/
def Options.put (o : Options) (name value : String) : Option Options :=
  match name with
  | "mount" => some { o with mounts := o.mounts ++ [value] }
  | "path" => if o.path.isSome || value = "" then none else some { o with path := some value }
  | "config" =>
    if o.config.isSome || value = "" then none else some { o with config := some value }
  | _ => none

/-- Options of this name have a value. -/
def takesValue (name : String) : Bool := ["path", "mount", "config"].contains name

/-- A word can be the value of the option before it. -/
def isValue (text : String) : Bool :=
  match Word.ofText text with
  | .plain _ => true
  | _ => false

/-- Reads what follows a backend. -/
def readOptions (backend : BackendKind) (o : Options) : List String → Option Request
  | [] => some (.precache backend o)
  | text :: rest =>
    match Word.ofText text with
    | .escape => if rest.isEmpty then some (.precache backend o) else none
    | .plain _ => none
    | .long name (some value) => do readOptions backend (← o.put name value) rest
    | .long name none =>
      if takesValue name then
        match rest with
        | value :: rest =>
          if isValue value then do readOptions backend (← o.put name value) rest else none
        | [] => none
      else do
        match ← readFlag false (.long name none) with
        | some request => some request
        | none => readOptions backend o rest
    | .short letters => do
      match ← readLetters false letters with
      | some request => some request
      | none => readOptions backend o rest

/-- The words after `help` name a backend, or nothing. -/
def isBackendTopic : List String → Bool
  | [] => true
  | [name] => (backend? name).isSome || name = "help"
  | _ => false

/-- The words after `help` name a command, or nothing. -/
def isTopic : List String → Bool
  | [] | ["help"] => true
  | "precache" :: rest => isBackendTopic rest
  | _ => false

/-- Reads what follows the command. -/
def readCommand : List String → Option Request
  | [] => none
  | text :: rest =>
    match Word.ofText text with
    | .plain name =>
      if name = "help" then if isBackendTopic rest then some .help else none
      else do readOptions (← backend? name) {} rest
    | word => do
      match ← readFlag false word with
      | some request => some request
      | none => readCommand rest

/-- Reads a command line; there is no request if it is a misuse. -/
def Request.ofWords? : List String → Option Request
  | [] => none
  | text :: rest =>
    match Word.ofText text with
    | .plain name =>
      if name = "help" then if isTopic rest then some .help else none
      else if name = "precache" then readCommand rest
      else none
    | word => do
      match ← readFlag true word with
      | some request => some request
      | none => ofWords? rest

end SiteIndex.CommandLine
