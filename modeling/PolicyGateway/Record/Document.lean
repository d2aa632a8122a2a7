import PolicyGateway.Json.Reader
import PolicyGateway.Record.Fields
import PolicyGateway.Text.Pieces
import PolicyGateway.Toml.Reader

/-!
# Documents in files

The ending of a file's name decides which format it is read in. What can go
wrong has an order: the system may refuse the file, its bytes may be no
text, its ending may name no format, and only then is the text looked at.
-/

namespace PolicyGateway.Record

/-- The document that a text spells in a format. -/
def Node.ofText? : Format → String → Option Node
  | .json, s => Json.readText? s
  | .toml, s => Toml.readText? s

/-- The name of a format, as messages give it. -/
def Format.name : Format → String
  | json => "JSON"
  | toml => "TOML"

/-- The format that the ending of a file's name stands for. -/
def Format.ofEnding? (ending : String) : Option Format :=
  if ending = "toml" then some toml
  else if ending = "json" then some json
  else none

/-- **What the system gives for a file.** Whether there is a file at all, and
whether it may be read, is for the system to say. -/
inductive FileContent where
  /-- Its bytes. -/
  | bytes (bs : List UInt8)
  /-- It refuses the file, with this reason. -/
  | refused (reason : String)

/-- **Why a file holds no settings.** The three are told apart because they are
mended in different places. -/
inductive FileFault where
  /-- It cannot be read, with this reason. -/
  | unreadable (reason : String)
  /-- Its ending names no format. -/
  | unknownFormat (ending : String)
  /-- Its text does not spell what is expected, in this format. -/
  | malformed (format : Format)
  deriving Repr, DecidableEq

/-- The wording of a fault. -/
def FileFault.message : FileFault → String
  | unreadable reason => reason
  | unknownFormat ending => "unsupported config format: " ++ ending
  | malformed format => "invalid " ++ format.name

/-- The last part of a path that names a file; none for a path that ends in
two dots. -/
def fileName? (path : List Char) : Option (List Char) :=
  match (path.splitOn '/').filter (fun part => part ≠ [] ∧ part ≠ ['.'])
    |>.getLast? with
  | some name => if name = ['.', '.'] then none else some name
  | none => none

/-- **The ending of a file's name**: what follows its last dot, unless the
dot stands in front of it. -/
def ending (path : String) : String :=
  match (fileName? path.toList).bind (Text.cutLast '.') with
  | some (stem, ending) =>
    if stem.isEmpty then "" else String.ofList ending
  | none => ""

/-- **Read the settings in a file.** -/
def readFile {α : Type} (read : Format → Node → Option α) (path : String)
    (content : FileContent) : Except FileFault α :=
  match content with
  | .refused reason => .error (.unreadable reason)
  | .bytes bs =>
    match Text.Utf8.string? bs with
    | none => .error (.unreadable "stream did not contain valid UTF-8")
    | some text =>
      match Format.ofEnding? (ending path) with
      | none => .error (.unknownFormat (ending path))
      | some format =>
        match (Node.ofText? format text).bind (read format) with
        | none => .error (.malformed format)
        | some settings => .ok settings

end PolicyGateway.Record
