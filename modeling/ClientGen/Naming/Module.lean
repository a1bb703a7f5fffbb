import ClientGen.Text.Case
import ClientGen.Text.Cut
import ClientGen.Path

/-!
Where generated code lives: module paths, and the directory, the module, the short name and the
external module of a group-version.
-/

namespace ClientGen.Naming

/-- A module path segment without colons at its ends. -/
def bareSegment (segment : String) : String :=
  String.ofList (Text.trimWhere (· == ':') segment.toList)

/-- The segments as one module path. Colons at the ends of a segment do not count, and a segment
with nothing else is left out. -/
def modulePath (segments : List String) : String :=
  "::".intercalate ((segments.map bareSegment).filter fun s => !s.isEmpty)

/-- The name of an API group as a directory or a module: in lower case, with an underscore for each
character other than an ASCII letter or digit, but none at the ends. -/
def groupSegment (group : String) : String :=
  String.ofList (Text.trimWhere (· == '_')
    ((Text.lower group).toList.map fun c => if c.isAlphanum then c else '_'))

def groupVersionLabel (group version : String) : String :=
  group ++ "/" ++ version

def groupVersionDir (root group version : String) : String :=
  Path.join (Path.join root (groupSegment group)) version

def groupVersionModule (root group version : String) : String :=
  modulePath [root, groupSegment group, version]

/-- The short name of a group-version, such as `apps_v1`. -/
def groupVersionAlias (group version : String) : String :=
  groupSegment group ++ "_" ++ version

def clientFile : String := "client.rs"

/-- The lower-cased kind, with which the name of each of its files begins. -/
def stem (kind : String) : String := Text.lower kind

def objectFile (kind : String) : String := stem kind ++ ".rs"

def roleFile (kind role : String) : String := stem kind ++ "_" ++ role ++ ".rs"

/-- The file that a text is first written to when it then takes the place of `path` at once. -/
def temporaryPath (path : String) : String :=
  Path.withFileName path ("." ++ (Path.fileName? path).getD "" ++ ".kubegen-tmp")

end ClientGen.Naming
