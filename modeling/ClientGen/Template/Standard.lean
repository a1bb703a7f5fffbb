/-!
The standard templates, line by line. Braces are written by their numbers, seven b and seven d.
-/

namespace ClientGen.Template.Standard

def rootClientLines : List String :=
  ["// Code generated by kubegen. DO NOT EDIT.",
    "//! Root client for `\x7b\x7b root.package \x7d\x7d`.",
    "",
    "use kube::Client;",
    "",
    "/// Identity metadata of a generated resource kind.",
    "pub trait ResourceIdentity \x7b",
    "    const GROUP: &'static str;",
    "    const VERSION: &'static str;",
    "    const KIND: &'static str;",
    "    const LIST_KIND: &'static str;",
    "    const PLURAL: &'static str;",
    "    const NAMESPACED: bool;",
    "",
    "    /// `group/version`, or just `version` for the core group.",
    "    fn api_version() -> String \x7b",
    "        if Self::GROUP.is_empty() || Self::GROUP == \"core\" \x7b",
    "            Self::VERSION.to_string()",
    "        \x7d else \x7b",
    "            format!(\"\x7b\x7d/\x7b\x7d\", Self::GROUP, Self::VERSION)",
    "        \x7d",
    "    \x7d",
    "\x7d",
    "",
    "/// Entry point to every generated group-version client.",
    "#[derive(Clone)]",
    "pub struct \x7b\x7b root.client_type \x7d\x7d \x7b",
    "    client: Client,",
    "\x7d",
    "",
    "impl \x7b\x7b root.client_type \x7d\x7d \x7b",
    "    pub fn new(client: Client) -> Self \x7b",
    "        Self \x7b client \x7d",
    "    \x7d",
    "\x7b% for gv in group_versions %\x7d",
    "",
    "    /// Client for `\x7b\x7b gv.group \x7d\x7d/\x7b\x7b gv.version \x7d\x7d`.",
    "    pub fn \x7b\x7b gv.alias \x7d\x7d(&self) -> \x7b\x7b gv.client_module \x7d\x7d::\x7b\x7b gv.client_type \x7d\x7d \x7b",
    "        \x7b\x7b gv.client_module \x7d\x7d::\x7b\x7b gv.client_type \x7d\x7d::new(self.client.clone())",
    "    \x7d",
    "\x7b% endfor %\x7d",
    "\x7d"]

def groupVersionClientLines : List String :=
  ["// Code generated by kubegen. DO NOT EDIT.",
    "//! Client for the `\x7b\x7b group_version.group \x7d\x7d/\x7b\x7b group_version.version \x7d\x7d` API.",
    "",
    "use kube::Client;",
    "",
    "pub const GROUP: &str = \x7b\x7b group_version.group|quote \x7d\x7d;",
    "pub const VERSION: &str = \x7b\x7b group_version.version|quote \x7d\x7d;",
    "",
    "#[derive(Clone)]",
    "pub struct \x7b\x7b group_version.client_type \x7d\x7d \x7b",
    "    client: Client,",
    "\x7d",
    "",
    "impl \x7b\x7b group_version.client_type \x7d\x7d \x7b",
    "    pub fn new(client: Client) -> Self \x7b",
    "        Self \x7b client \x7d",
    "    \x7d",
    "\x7b% for resource in resources %\x7d",
    "",
    "    /// Accessor for `\x7b\x7b resource.plural \x7d\x7d`.",
    "    pub fn \x7b\x7b resource.plural_snake \x7d\x7d(&self) -> \x7b\x7b resource.client_module \x7d\x7d::\x7b\x7b resource.client_type \x7d\x7d \x7b",
    "        \x7b\x7b resource.client_module \x7d\x7d::\x7b\x7b resource.client_type \x7d\x7d::new(self.client.clone())",
    "    \x7d",
    "\x7b% endfor %\x7d",
    "\x7d"]

def clientLines : List String :=
  ["// Code generated by kubegen. DO NOT EDIT.",
    "//! Accessor surface for `\x7b\x7b resource.kind \x7d\x7d`.",
    "",
    "use kube::Client;",
    "",
    "use \x7b\x7b client.object_module \x7d\x7d::\x7b\x7b client.object_type \x7d\x7d;",
    "use \x7b\x7b client.reader_module \x7d\x7d::\x7b\x7b client.reader_type \x7d\x7d;",
    "",
    "#[derive(Clone)]",
    "pub struct \x7b\x7b client.type_name \x7d\x7d \x7b",
    "    client: Client,",
    "\x7d",
    "",
    "impl \x7b\x7b client.type_name \x7d\x7d \x7b",
    "    pub fn new(client: Client) -> Self \x7b",
    "        Self \x7b client \x7d",
    "    \x7d",
    "\x7b% if client.namespaced %\x7d",
    "",
    "    /// Reader scoped to `namespace`.",
    "    pub fn reader(&self, namespace: &str) -> \x7b\x7b client.reader_type \x7d\x7d \x7b",
    "        \x7b\x7b client.reader_type \x7d\x7d::namespaced(self.client.clone(), namespace)",
    "    \x7d",
    "",
    "    /// Reader across every namespace.",
    "    pub fn reader_all(&self) -> \x7b\x7b client.reader_type \x7d\x7d \x7b",
    "        \x7b\x7b client.reader_type \x7d\x7d::all(self.client.clone())",
    "    \x7d",
    "\x7b% else %\x7d",
    "",
    "    /// Reader for the cluster-scoped `\x7b\x7b resource.plural \x7d\x7d`.",
    "    pub fn reader(&self) -> \x7b\x7b client.reader_type \x7d\x7d \x7b",
    "        \x7b\x7b client.reader_type \x7d\x7d::all(self.client.clone())",
    "    \x7d",
    "\x7b% endif %\x7d",
    "\x7b% for child in client.children %\x7d",
    "",
    "    /// `\x7b\x7b child.type_name \x7d\x7d` objects owned by `owner`.",
    "    pub async fn \x7b\x7b child.accessor \x7d\x7d(",
    "        &self,",
    "        owner: &\x7b\x7b client.object_type \x7d\x7d,",
    "    ) -> kube::Result<Vec<\x7b\x7b child.object_module \x7d\x7d::\x7b\x7b child.type_name \x7d\x7d>> \x7b",
    "        \x7b\x7b child.reference_module \x7d\x7d::\x7b\x7b child.lookup_fn \x7d\x7d(&self.client, owner).await",
    "    \x7d",
    "\x7b% endfor %\x7d",
    "\x7d"]

def readerLines : List String :=
  ["// Code generated by kubegen. DO NOT EDIT.",
    "//! Get/list surface for `\x7b\x7b resource.kind \x7d\x7d`.",
    "",
    "use kube::api::\x7bApi, ListParams\x7d;",
    "use kube::Client;",
    "",
    "use \x7b\x7b reader.object_module \x7d\x7d::\x7b\x7b reader.object_type \x7d\x7d;",
    "",
    "pub struct \x7b\x7b reader.type_name \x7d\x7d \x7b",
    "    api: Api<\x7b\x7b reader.object_type \x7d\x7d>,",
    "\x7d",
    "",
    "impl \x7b\x7b reader.type_name \x7d\x7d \x7b",
    "\x7b% if reader.namespaced %\x7d",
    "    pub fn namespaced(client: Client, namespace: &str) -> Self \x7b",
    "        Self \x7b",
    "            api: Api::namespaced(client, namespace),",
    "        \x7d",
    "    \x7d",
    "",
    "\x7b% endif %\x7d",
    "    pub fn all(client: Client) -> Self \x7b",
    "        Self \x7b",
    "            api: Api::all(client),",
    "        \x7d",
    "    \x7d",
    "",
    "    pub async fn get(&self, name: &str) -> kube::Result<\x7b\x7b reader.object_type \x7d\x7d> \x7b",
    "        self.api.get(name).await",
    "    \x7d",
    "",
    "    pub async fn get_opt(&self, name: &str) -> kube::Result<Option<\x7b\x7b reader.object_type \x7d\x7d>> \x7b",
    "        self.api.get_opt(name).await",
    "    \x7d",
    "",
    "    pub async fn list(&self, params: &ListParams) -> kube::Result<Vec<\x7b\x7b reader.object_type \x7d\x7d>> \x7b",
    "        Ok(self.api.list(params).await?.items)",
    "    \x7d",
    "\x7d"]

def objectLines : List String :=
  ["// Code generated by kubegen. DO NOT EDIT.",
    "//! `\x7b\x7b object.identity.kind \x7d\x7d` type and identity metadata.",
    "",
    "pub use \x7b\x7b object.source_package \x7d\x7d::\x7b\x7b object.type_name \x7d\x7d;",
    "",
    "/// Identity marker for [`\x7b\x7b object.type_name \x7d\x7d`].",
    "pub struct \x7b\x7b object.marker_type \x7d\x7d;",
    "",
    "impl \x7b\x7b root_package \x7d\x7d::client::ResourceIdentity for \x7b\x7b object.marker_type \x7d\x7d \x7b",
    "    const GROUP: &'static str = \x7b\x7b object.identity.group|quote \x7d\x7d;",
    "    const VERSION: &'static str = \x7b\x7b object.identity.version|quote \x7d\x7d;",
    "    const KIND: &'static str = \x7b\x7b object.identity.kind|quote \x7d\x7d;",
    "    const LIST_KIND: &'static str = \x7b\x7b object.list_kind|quote \x7d\x7d;",
    "    const PLURAL: &'static str = \x7b\x7b object.plural_name|quote \x7d\x7d;",
    "    const NAMESPACED: bool = \x7b% if object.namespaced %\x7dtrue\x7b% else %\x7dfalse\x7b% endif %\x7d;",
    "\x7d"]

def referenceLines : List String :=
  ["// Code generated by kubegen. DO NOT EDIT.",
    "//! Lookups from owner objects to the `\x7b\x7b reference.object_type \x7d\x7d` objects they own.",
    "",
    "use kube::api::\x7bApi, ListParams\x7d;",
    "use kube::\x7bClient, Resource\x7d;",
    "",
    "use \x7b\x7b reference.object_module \x7d\x7d::\x7b\x7b reference.object_type \x7d\x7d;",
    "",
    "fn owned_by<T: Resource>(child: &\x7b\x7b reference.object_type \x7d\x7d, owner: &T) -> bool \x7b",
    "    let Some(uid) = owner.meta().uid.as_deref() else \x7b",
    "        return false;",
    "    \x7d;",
    "    child",
    "        .metadata",
    "        .owner_references",
    "        .as_ref()",
    "        .is_some_and(|refs| refs.iter().any(|r| r.uid == uid))",
    "\x7d",
    "\x7b% for owner in reference.owners %\x7d",
    "",
    "/// `\x7b\x7b reference.object_type \x7d\x7d` objects owned by a `\x7b\x7b owner.type_name \x7d\x7d`.",
    "pub async fn \x7b\x7b owner.lookup_fn \x7d\x7d(",
    "    client: &Client,",
    "    owner: &\x7b\x7b owner.object_module \x7d\x7d::\x7b\x7b owner.type_name \x7d\x7d,",
    ") -> kube::Result<Vec<\x7b\x7b reference.object_type \x7d\x7d>> \x7b",
    "\x7b% if reference.namespaced %\x7d",
    "    let namespace = owner.meta().namespace.clone().unwrap_or_default();",
    "    let api: Api<\x7b\x7b reference.object_type \x7d\x7d> = Api::namespaced(client.clone(), &namespace);",
    "\x7b% else %\x7d",
    "    let api: Api<\x7b\x7b reference.object_type \x7d\x7d> = Api::all(client.clone());",
    "\x7b% endif %\x7d",
    "    let items = api.list(&ListParams::default()).await?.items;",
    "    Ok(items.into_iter().filter(|child| owned_by(child, owner)).collect())",
    "\x7d",
    "\x7b% endfor %\x7d"]

end ClientGen.Template.Standard
