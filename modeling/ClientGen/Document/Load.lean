import ClientGen.Disk.Lookup
import ClientGen.Document.Json
import ClientGen.Document.Toml
import ClientGen.Document.Yaml
import ClientGen.Failure

/-!
Reading spec documents from a disk.
-/

namespace ClientGen.Document

def parse? (format : DocumentFormat) (text : String) : Option Document :=
  match format with
  | .yaml => parseYaml? text
  | .json => parseJson? text
  | .toml => parseToml? text

/-- The document at a path, in the format that the path stands for. Its templates are looked for
beside it. -/
def load (d : Disk) (path : String) : Except Failure Document :=
  match d.readText path with
  | .error e => .error (.load path e)
  | .ok text =>
    match parse? (.ofPath path) text with
    | some document => .ok (document.locatedAt path)
    | none => .error (.parse path)

end ClientGen.Document
