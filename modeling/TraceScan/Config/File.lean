import TraceScan.Config.Document
import TraceScan.Document.Json
import TraceScan.Document.Toml.Reader
import TraceScan.Document.Yaml.Reader

/-!
# Configuration files

A configuration is read from a file of text in one of three formats. The file has to be readable
before the extension of its name tells the format.
-/

namespace TraceScan

/-! ## Reading files -/

/-- Why the text of a file cannot be read. -/
inductive FileError where
  | missing
  | isDirectory
  | notText
  deriving DecidableEq, Repr

/-- The text of the error. -/
def FileError.message : FileError → String
  | missing => "No such file or directory (os error 2)"
  | isDirectory => "Is a directory (os error 21)"
  | notText => "stream did not contain valid UTF-8"

/-- The text of a file with the given bytes. -/
def textOfBytes (bytes : ByteArray) : Except FileError String :=
  match String.fromUTF8? bytes with
  | some text => .ok text
  | none => .error .notText

/-! ## Formats -/

/-- The formats of configuration files. -/
inductive ConfigFormat where
  | toml
  | yaml
  | json
  deriving DecidableEq, Repr

/-- The last component of a path. -/
def lastComponent (path : List Char) : List Char :=
  let path := (path.reverse.dropWhile (· == '/'))
  (path.takeWhile (· != '/')).reverse

/-- What stands behind the last dot of a file name, unless that dot is the only thing before it. -/
def extension? (name : List Char) : Option (List Char) :=
  let backwards := name.reverse
  let after := (backwards.takeWhile (· != '.')).reverse
  let before := (backwards.dropWhile (· != '.')).drop 1
  if before.isEmpty || name == ['.', '.'] then none else some after

/-- The format that the name of a file tells. -/
def ConfigFormat.ofPath? (path : String) : Option ConfigFormat :=
  match (extension? (lastComponent path.toList)).map fun e => String.ofList (e.map Char.toLower)
    with
  | some "toml" => some .toml
  | some "yaml" => some .yaml
  | some "yml" => some .yaml
  | some "json" => some .json
  | _ => none

/-! ## Configurations -/

/-- Why a file holds no configuration. -/
inductive ConfigError where
  | unreadable (cause : FileError)
  | malformed (format : ConfigFormat)
  | unsupported (path : String)
  deriving DecidableEq, Repr

/-- The text of the error; what makes a document malformed is not told. -/
def ConfigError.message : ConfigError → String
  | unreadable cause => "IO error: " ++ cause.message
  | malformed .toml => "Invalid TOML configuration"
  | malformed .yaml => "Invalid YAML configuration"
  | malformed .json => "Invalid JSON configuration"
  | unsupported path => "Unsupported configuration file: " ++ path

/-- The configuration that a text holds. In JSON and TOML, a list may give the settings in order. -/
def Config.read (format : ConfigFormat) (text : String) : Except ConfigError Config :=
  let config? := match format with
    | .toml => (Toml.read? text).bind (Config.ofDocument? true)
    | .yaml => (Yaml.read? text).bind (Config.ofDocument? false)
    | .json => (Json.read? text).bind (Config.ofDocument? true)
  match config? with
  | some config => .ok config
  | none => .error (.malformed format)

/-- The configuration in the file at `path`, whose text is `content`. -/
def Config.ofFile (path : String) (content : Except FileError String) :
    Except ConfigError Config :=
  match content with
  | .error cause => .error (.unreadable cause)
  | .ok text =>
    match ConfigFormat.ofPath? path with
    | some format => Config.read format text
    | none => .error (.unsupported path)

end TraceScan
