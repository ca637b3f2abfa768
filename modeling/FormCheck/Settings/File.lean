import FormCheck.EnvFile.Basic
import FormCheck.Json.Reader
import FormCheck.Log.Logged
import FormCheck.Settings.Environment
import FormCheck.Toml.Reader

namespace FormCheck.Settings

open Log (Logged)

/-- The formats that settings files are read in. -/
inductive FileFormat where
  | json
  | toml
  | env
deriving DecidableEq, Repr

namespace FileFormat

/-- The name of a format, which is the extension of its files as well. -/
def name : FileFormat → String
  | .json => "json"
  | .toml => "toml"
  | .env => "env"

/-- The format of an extension, in letters of either case. -/
def ofExtension? (extension : String) : Option FileFormat :=
  match Text.lowercase extension with
  | "json" => some .json
  | "toml" => some .toml
  | "env" => some .env
  | _ => none

/-- A format as errors about its text call it. -/
def title : FileFormat → String
  | .json => "JSON"
  | .toml => "TOML"
  | .env => "env"

def parse? : FileFormat → String → Option Json
  | .json, text => Json.parse? text
  | .toml, text => Toml.parse? text
  | .env, text => (EnvFile.entries? text).map entriesJson

def parse (format : FileFormat) (text : String) : Except LoadError Json :=
  match format.parse? text with
  | some v => .ok v
  | none => .error (.parse format.title)

end FileFormat

/-- The last component of a path that names something in a directory. Components that are empty or
a single dot name nothing. -/
def fileName? (path : List Char) : Option (List Char) :=
  match ((Text.splitOn (· == '/') path).filter fun s => s ≠ [] ∧ s ≠ ['.']).getLast? with
  | some name => if name = ['.', '.'] then none else some name
  | none => none

/-- The text after the last dot of a file name, unless that dot is also the first character. -/
def extensionOf? (name : List Char) : Option (List Char) :=
  let after := (name.reverse.takeWhile (· != '.')).reverse
  let before := name.take (name.length - after.length)
  if before.length ≤ 1 then none else some after

def extension? (path : String) : Option String :=
  ((fileName? path.toList).bind extensionOf?).map String.ofList

/-- The format that the name of a file tells. A file without an extension is of none. -/
def formatOfPath (path : String) : Except LoadError FileFormat :=
  match extension? path with
  | none => .error (.load ("No file extension: " ++ path))
  | some extension =>
    match FileFormat.ofExtension? extension with
    | some format => .ok format
    | none => .error (.load ("Unsupported format: " ++ extension))

/-- What is found at a path: the bytes of a file, or the reason why there is none to be read. -/
inductive FileContent where
  | missing (reason : String)
  | bytes (data : ByteArray)

/-- The text of a file, if there is one and its bytes are UTF-8. -/
def FileContent.text (path : String) : FileContent → Except LoadError String
  | .missing reason => .error (.load ("Failed to read " ++ path ++ ": " ++ reason))
  | .bytes data =>
    match String.fromUTF8? data with
    | some s => .ok s
    | none =>
      .error (.load ("Failed to read " ++ path ++ ": stream did not contain valid UTF-8"))

/-- The value that a settings file stands for. The format is settled before the file is read. -/
def readFile (path : String) (content : FileContent) : Except LoadError Json := do
  let format ← formatOfPath path
  let text ← content.text path
  format.parse text

def logTarget : String := "formrule_config::settings"

/-- Loads settings from a file. A line is logged once the text of the file is read. -/
def fromFile (path : String) (content : FileContent) : Logged (Except LoadError Settings) :=
  match readFile path content with
  | .error e => pure (.error e)
  | .ok v => do
    Logged.log .debug logTarget ("loaded settings file " ++ path)
    pure (fromJson v)

end FormCheck.Settings
