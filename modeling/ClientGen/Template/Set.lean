import ClientGen.Path
import ClientGen.Role
import ClientGen.Template.Nodes
import ClientGen.Template.Render
import ClientGen.Template.Standard

/-!
Sets of templates: one for each role, never with a gap. A set is compiled as a whole before any of
its templates is rendered, so that a malformed one is found before any file is written.
-/

namespace ClientGen

open Template

/-- Where a set of templates comes from. -/
inductive Origin where
  | standard
  | directory (path : String)
  deriving DecidableEq

/-- A template for each role. -/
structure TemplateSet where
  origin : Origin
  source : Role → String

/-- Lines as a text, each with a line break behind it. -/
def ofLines (lines : List String) : String :=
  lines.foldr (fun line rest => line ++ "\n" ++ rest) ""

namespace TemplateSet

def standardLines : Role → List String
  | .rootClient => Standard.rootClientLines
  | .groupVersionClient => Standard.groupVersionClientLines
  | .client => Standard.clientLines
  | .reader => Standard.readerLines
  | .object => Standard.objectLines
  | .reference => Standard.referenceLines

def standard : TemplateSet where
  origin := .standard
  source := fun role => ofLines (standardLines role)

def replace (set : TemplateSet) (role : Role) (source : String) : TemplateSet :=
  { set with source := fun other => if other = role then source else set.source other }

def pathOf (set : TemplateSet) (role : Role) : String :=
  match set.origin with
  | .standard => role.template
  | .directory path => Path.join path role.template

def loadRole (read : String → Except ReadError String) (directory : String) (role : Role) :
    Except Failure (Role × String) :=
  match read (Path.join directory role.template) with
  | .ok source => .ok (role, source)
  | .error (.disk .noEntry) => .error (.missingTemplate role.template directory)
  | .error e => .error (.unreadable (Path.join directory role.template) e)

def load (read : String → Except ReadError String) (directory : String) :
    Except Failure TemplateSet := do
  let sources ← Role.all.mapM (loadRole read directory)
  return ⟨.directory directory, fun role => (sources.lookup role).getD ""⟩

end TemplateSet

/-- Templates by name, ready to be rendered. -/
structure Compiled where
  templates : List (String × List Node)

/-- The template of a role, ready to be rendered. -/
def TemplateSet.compileRole (set : TemplateSet) (role : Role) :
    Except Failure (String × List Node) :=
  match parse (set.source role) with
  | .ok nodes => .ok (role.template, nodes)
  | .error e => .error (.template role.template (set.pathOf role) e)

def TemplateSet.compile (set : TemplateSet) : Except Failure Compiled :=
  (Role.all.mapM set.compileRole).map Compiled.mk

/-- The text of the template of a role for values of names, made for a destination. -/
def Compiled.render (c : Compiled) (role : Role) (values : List (String × Value))
    (destination : String) : Except Failure String :=
  (renderTemplate c.templates role.template values).mapError (.template role.template destination)

end ClientGen
