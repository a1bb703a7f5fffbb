/-!
The roles that a generated file can have.
-/

namespace ClientGen

/-- The purpose of a file, which decides its template. -/
inductive Role where
  | rootClient
  | groupVersionClient
  | client
  | reader
  | object
  | reference
  deriving DecidableEq

namespace Role

/-- Every role, in the order in which templates are compiled. -/
def all : List Role :=
  [.rootClient, .groupVersionClient, .client, .reader, .object, .reference]

def name : Role → String
  | .rootClient => "root_client"
  | .groupVersionClient => "group_version_client"
  | .client => "client"
  | .reader => "reader"
  | .object => "object"
  | .reference => "reference"

def template (role : Role) : String :=
  role.name ++ ".rs.txt"

end Role

end ClientGen
