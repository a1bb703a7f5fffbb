import ClientGen.Template.Value
import ClientGen.Tree.Basic

/-!
The tree and its parts as values, under the names by which templates and other readers know them.
-/

namespace ClientGen

open Template (Value)

def Spec.Identity.toValue (id : Spec.Identity) : Value :=
  .record [("group", .text id.group), ("version", .text id.version), ("kind", .text id.kind)]

namespace Tree

def Names.toValue (n : Names) : Value :=
  .record [("kind", .text n.kind), ("plural", .text n.plural), ("stem", .text n.stem),
    ("type_name", .text n.typeName), ("snake", .text n.snake),
    ("plural_snake", .text n.pluralSnake), ("plural_name", .text n.pluralName)]

def ObjectPart.toValue (o : ObjectPart) : Value :=
  .record [("file", .text o.file), ("module", .text o.module), ("type_name", .text o.typeName),
    ("marker_type", .text o.markerType), ("identity", o.identity.toValue),
    ("list_kind", .text o.listKind), ("plural_name", .text o.pluralName),
    ("namespaced", .bool o.namespaced), ("source_package", .text o.sourcePackage)]

def ReaderPart.toValue (r : ReaderPart) : Value :=
  .record [("file", .text r.file), ("module", .text r.module), ("type_name", .text r.typeName),
    ("object_type", .text r.objectType), ("object_module", .text r.objectModule),
    ("namespaced", .bool r.namespaced)]

def Child.toValue (c : Child) : Value :=
  .record [("key", c.key.toValue), ("type_name", .text c.typeName),
    ("object_module", .text c.objectModule), ("reference_module", .text c.referenceModule),
    ("accessor", .text c.accessor), ("lookup_fn", .text c.lookup)]

def ClientPart.toValue (c : ClientPart) : Value :=
  .record [("file", .text c.file), ("module", .text c.module), ("type_name", .text c.typeName),
    ("reader_type", .text c.readerType), ("reader_module", .text c.readerModule),
    ("object_type", .text c.objectType), ("object_module", .text c.objectModule),
    ("namespaced", .bool c.namespaced), ("children", .ofList Child.toValue c.children)]

def Owner.toValue (o : Owner) : Value :=
  .record [("key", o.key.toValue), ("type_name", .text o.typeName),
    ("object_module", .text o.objectModule), ("snake", .text o.snake),
    ("namespaced", .bool o.namespaced), ("lookup_fn", .text o.lookup)]

def ReferencePart.toValue (r : ReferencePart) : Value :=
  .record [("file", .text r.file), ("module", .text r.module), ("object_type", .text r.objectType),
    ("object_module", .text r.objectModule), ("plural_snake", .text r.pluralSnake),
    ("namespaced", .bool r.namespaced), ("owners", .ofList Owner.toValue r.owners)]

def Entry.toValue (e : Entry) : Value :=
  .record [("key", e.key.toValue), ("names", e.names.toValue), ("scope", .text e.scope.name),
    ("client", e.client.toValue), ("reader", e.reader.toValue), ("object", e.object.toValue),
    ("reference", .ofOption ReferencePart.toValue e.reference?),
    ("references", .ofList Spec.Identity.toValue e.references)]

def Branch.toValue (b : Branch) : Value :=
  .record [("group", .text b.group), ("version", .text b.version), ("segment", .text b.segment),
    ("package", .text b.package), ("alias", .text b.shortName), ("client_type", .text b.clientType),
    ("location", .text b.location), ("file", .text b.file),
    ("resources", .record (b.entries.map fun e => (e.kind, e.toValue)))]

/-- A tree as a value. What was dropped on the way to it is no part of it. -/
def toValue (t : Tree) : Value :=
  .record [("location", .text t.location), ("file", .text t.file), ("package", .text t.package),
    ("client_type", .text t.clientType),
    ("group_versions", .record (t.branches.map fun b => (b.label, b.toValue)))]

end Tree

end ClientGen
