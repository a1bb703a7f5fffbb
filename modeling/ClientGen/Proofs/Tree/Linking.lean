import ClientGen.Proofs.Tree.Keyed
import ClientGen.Tree.Link

/-!
The tree that linking has reached is the unlinked one with a list of links: every entry has its
children and its owners from that list. Following one more declared reference is adding one link to
the list, or nothing, and a whole run leaves one link for each pair of known resources.
-/

namespace ClientGen.Tree

open Spec

/-- An owner and a child, and the branch of the child, as they are before linking. -/
structure Link where
  owner : Entry
  child : Entry
  branch : Branch

namespace Link

def pair (l : Link) : Identity × Identity := (l.owner.key, l.child.key)

/-- What the client of the owner needs to know about the child. -/
def toChild (l : Link) : Child :=
  Child.of l.child (ReferencePart.of l.branch l.child).module l.owner

/-- What the reference file of the child needs to know about the owner. -/
def toOwner (l : Link) : Owner := Owner.of l.owner l.child

/-- Owner and child are entries of a tree. -/
structure In (t : Tree) (l : Link) : Prop where
  owner : l.owner ∈ t.entries
  branch : l.branch ∈ t.branches
  child : l.child ∈ l.branch.entries

lemma In.with_dropped {t : Tree} {l : Link} (h : l.In t) (ds : List Dropped) :
    l.In { t with dropped := ds } :=
  ⟨h.owner, h.branch, h.child⟩

end Link

def linksFrom (ls : List Link) (id : Identity) : List Link := ls.filter fun l => l.owner.key = id

def linksTo (ls : List Link) (id : Identity) : List Link := ls.filter fun l => l.child.key = id

/-- An entry without links as it is with links to its children and its owners. -/
def Entry.linked (out into : List Link) (b : Branch) (e : Entry) : Entry :=
  { e with
    references := out.map (·.child.key)
    client := { e.client with children := out.map Link.toChild }
    reference? :=
      if into = [] then none
      else some { ReferencePart.of b e with owners := into.map Link.toOwner } }

/-- An entry without links as it is with its part of a list of links. -/
def Entry.withLinks (ls : List Link) (b : Branch) (e : Entry) : Entry :=
  e.linked (linksFrom ls e.key) (linksTo ls e.key) b

/-- A tree without links as it is with a list of links. -/
def withLinks (ls : List Link) (t : Tree) : Tree := t.mapEntries (Entry.withLinks ls)

section

variable {ls : List Link} {b : Branch} {e : Entry}

@[simp] lemma withLinks_key : (e.withLinks ls b).key = e.key := rfl

@[simp] lemma withLinks_names : (e.withLinks ls b).names = e.names := rfl

@[simp] lemma withLinks_scope : (e.withLinks ls b).scope = e.scope := rfl

@[simp] lemma withLinks_object : (e.withLinks ls b).object = e.object := rfl

@[simp] lemma withLinks_reader : (e.withLinks ls b).reader = e.reader := rfl

@[simp] lemma withLinks_client :
    (e.withLinks ls b).client =
      { e.client with children := (linksFrom ls e.key).map Link.toChild } := rfl

lemma withLinks_reference?_eq_some_iff {r : ReferencePart} :
    (e.withLinks ls b).reference? = some r ↔ linksTo ls e.key ≠ [] ∧
      r = { ReferencePart.of b e with owners := (linksTo ls e.key).map Link.toOwner } := by
  rw [Entry.withLinks, Entry.linked]
  split
  · next h => simp [h]
  · next h => simp [h, eq_comm]

lemma withLinks_reference? (h : linksTo ls e.key ≠ []) :
    (e.withLinks ls b).reference? =
      some { ReferencePart.of b e with owners := (linksTo ls e.key).map Link.toOwner } :=
  withLinks_reference?_eq_some_iff.mpr ⟨h, rfl⟩

lemma withLinks_reference?_isSome :
    (e.withLinks ls b).reference?.isSome = true ↔ linksTo ls e.key ≠ [] := by
  simp [Option.isSome_iff_exists, withLinks_reference?_eq_some_iff]

end

/-! ### One link more -/

lemma linksFrom_append (ls : List Link) (l : Link) (id : Identity) :
    linksFrom (ls ++ [l]) id = linksFrom ls id ++ if l.owner.key = id then [l] else [] := by
  by_cases h : l.owner.key = id <;> simp [linksFrom, h]

lemma linksTo_append (ls : List Link) (l : Link) (id : Identity) :
    linksTo (ls ++ [l]) id = linksTo ls id ++ if l.child.key = id then [l] else [] := by
  by_cases h : l.child.key = id <;> simp [linksTo, h]

lemma linked_nil {e : Entry} (hrefs : e.references = []) (hchildren : e.client.children = [])
    (hreference : e.reference? = none) (b : Branch) : e.linked [] [] b = e := by
  cases e
  simp only at hrefs hchildren hreference
  simp [Entry.linked, hrefs, hreference, ← hchildren]

lemma gainOwner_linked (l : Link) (out into out' into' : List Link) (b : Branch)
    (es : List Entry) :
    Entry.gainOwner { l.branch with entries := es } (l.owner.linked out' into' b)
      (l.child.linked out into l.branch) = l.child.linked out (into ++ [l]) l.branch := by
  by_cases h : into = []
  · subst h
    rfl
  · simp only [Entry.gainOwner, Entry.linked, h, if_false, Option.getD_some, List.map_append,
      List.append_eq_nil_iff, false_and]
    rfl

lemma gainChild_linked (l : Link) (out into out' into' : List Link) (b : Branch)
    (es : List Entry) :
    Entry.gainChild (l.child.linked out' into' l.branch)
      (((l.child.linked out' into' l.branch).reference?).getD
        (ReferencePart.of { l.branch with entries := es }
          (l.child.linked out' into' l.branch))).module
      (l.owner.linked out into b) = l.owner.linked (out ++ [l]) into b := by
  by_cases h : into' = []
  · subst h
    simp [Entry.gainChild, Entry.linked, Link.toChild]
    rfl
  · simp [Entry.gainChild, Entry.linked, Link.toChild, h]
    rfl

lemma keepsKeys_withLinks (ls : List Link) : KeepsKeys (Entry.withLinks ls) :=
  ⟨fun _ _ => rfl, fun _ _ => rfl⟩

variable {t : Tree} {ls : List Link}

lemma join_withLinks (k : IsKeyed t) {l : Link} (hl : l.In t) {b : Branch} (hb : b ∈ t.branches)
    (ho : l.owner ∈ b.entries) :
    (t.withLinks ls).join { l.branch with entries := l.branch.entries.map (.withLinks ls l.branch) }
      (l.owner.withLinks ls b) (l.child.withLinks ls l.branch) = t.withLinks (ls ++ [l]) := by
  set B : Branch := { l.branch with entries := l.branch.entries.map (.withLinks ls l.branch) }
  set O := l.owner.withLinks ls b
  set C := l.child.withLinks ls l.branch
  have hchild : '/' ∉ C.key.version.toList := by
    change '/' ∉ l.child.key.version.toList
    rw [k.key _ hl.branch _ hl.child]
    exact k.no_slash _ hl.branch
  have howner : '/' ∉ O.key.version.toList := by
    change '/' ∉ l.owner.key.version.toList
    rw [k.key _ hb _ ho]
    exact k.no_slash _ hb
  have hkeeps : KeepsKeys fun x e =>
      if (e.withLinks ls x).key = C.key then Entry.gainOwner B O (e.withLinks ls x)
      else e.withLinks ls x := by
    constructor <;> intro x e <;> split <;> rfl
  rw [join, withLinks, (k.mapped (keepsKeys_withLinks ls)).modifyEntry_eq hchild,
    mapEntries_mapEntries, (k.mapped hkeeps).modifyEntry_eq howner, mapEntries_mapEntries]
  refine mapEntries_congr fun x hx e he => ?_
  -- the child gains an owner first, and the owner, which may be the same entry, then a child
  have hgain : (if (e.withLinks ls x).key = C.key then Entry.gainOwner B O (e.withLinks ls x)
      else e.withLinks ls x) = e.linked (linksFrom ls e.key) (linksTo (ls ++ [l]) e.key) x := by
    rw [linksTo_append]
    by_cases h : l.child.key = e.key
    · obtain ⟨rfl, rfl⟩ := k.eq_entry hl.branch hx hl.child he h
      rw [if_pos rfl, if_pos rfl]
      exact gainOwner_linked l _ _ _ _ b _
    · rw [if_neg fun h' => h h'.symm, if_neg h, List.append_nil]
      rfl
  rw [hgain, Entry.withLinks, linksFrom_append]
  by_cases h : l.owner.key = e.key
  · obtain ⟨rfl, rfl⟩ := k.eq_entry hb hx ho he h
    refine (if_pos rfl).trans ?_
    rw [if_pos rfl]
    exact gainChild_linked l _ _ _ _ b _
  · refine (if_neg fun h' => h h'.symm).trans ?_
    rw [if_neg h, List.append_nil]

def Declaration.pair (d : Declaration) : Identity × Identity := (d.owner, d.child)

/-- A declared reference as it is remembered when its child is unknown. -/
def Declaration.toDropped (d : Declaration) : Dropped := ⟨d.owner, d.child, d.location⟩

/-- **One declared reference.** Following a reference drops it if its child is unknown, changes
nothing if the two are linked already, and adds their link else. -/
theorem follow_withLinks (k : IsKeyed t) (ls : List Link) {d : Declaration}
    (hchild : '/' ∉ d.child.version.toList) (howner : '/' ∉ d.owner.version.toList)
    (hknown : (t.find? d.owner).isSome = true) :
    ((t.withLinks ls).follow d).result =
        { t with dropped := t.dropped ++ [d.toDropped] }.withLinks ls ∧
          (t.find? d.child).isSome = false ∨
      ((t.withLinks ls).follow d).result = t.withLinks ls ∧ (t.find? d.child).isSome = true ∧
        d.pair ∈ ls.map Link.pair ∨
      (t.find? d.child).isSome = true ∧ d.pair ∉ ls.map Link.pair ∧ ∃ l : Link, l.In t ∧
        l.pair = d.pair ∧ ((t.withLinks ls).follow d).result = t.withLinks (ls ++ [l]) := by
  have hkeys := keepsKeys_withLinks ls
  obtain ⟨o, ho⟩ := Option.isSome_iff_exists.mp hknown
  obtain ⟨b', hb', hob', hokey⟩ := (k.find?_eq_some_iff howner).mp ho
  rcases hc : t.find? d.child with _ | c
  · left
    refine ⟨?_, rfl⟩
    have hnone : (t.withLinks ls).find? d.child = none := find?_mapEntries_none hkeys hc
    unfold follow
    rw [hnone]
    split
    · next h => cases h
    · rfl
  · right
    obtain ⟨b, hb, hcb, hckey⟩ := (k.find?_eq_some_iff hchild).mp hc
    have hbranch : (t.withLinks ls).branch? d.child.group d.child.version =
        some { b with entries := b.entries.map (.withLinks ls b) } := by
      rw [withLinks, branch?_mapEntries, hb, Option.map_some]
    have hfind : (t.withLinks ls).find? d.child = some (c.withLinks ls b) :=
      find?_mapEntries_some hkeys hb hc
    have hfind' : (t.withLinks ls).find? d.owner = some (o.withLinks ls b') :=
      find?_mapEntries_some hkeys hb' ho
    have hcontains : (o.withLinks ls b').references.contains d.child = true ↔
        d.pair ∈ ls.map Link.pair := by
      simp only [Entry.withLinks, Entry.linked, linksFrom, hokey, List.contains_iff_mem,
        List.mem_map, List.mem_filter, decide_eq_true_eq, Declaration.pair, Link.pair,
        Prod.mk.injEq, and_assoc]
    by_cases hpair : d.pair ∈ ls.map Link.pair
    · left
      refine ⟨?_, rfl, hpair⟩
      simp only [follow, hbranch, hfind, hfind', hcontains.mpr hpair, if_true]
    · right
      obtain ⟨hbm, -⟩ := (k.branch?_eq_some_iff hchild).mp hb
      obtain ⟨hbm', -⟩ := (k.branch?_eq_some_iff howner).mp hb'
      have hl : Link.In t ⟨o, c, b⟩ := ⟨mem_entries.mpr ⟨b', hbm', hob'⟩, hbm, hcb⟩
      refine ⟨rfl, hpair, ⟨o, c, b⟩, hl, ?_, ?_⟩
      · rw [Link.pair, Declaration.pair, hokey, hckey]
      · simp only [follow, hbranch, hfind, hfind', hcontains.not.mpr hpair]
        exact join_withLinks k hl hbm' hob'

/-- The pairs of declared references to known resources. -/
def knownPairs (t : Tree) (ds : List Declaration) : List (Identity × Identity) :=
  (ds.filter fun d => (t.find? d.child).isSome).map Declaration.pair

def unknown (t : Tree) (ds : List Declaration) : List Dropped :=
  (ds.filter fun d => !(t.find? d.child).isSome).map Declaration.toDropped

lemma knownPairs_known {d : Declaration} (h : (t.find? d.child).isSome = true)
    (ds : List Declaration) : knownPairs t (d :: ds) = d.pair :: knownPairs t ds := by
  rw [knownPairs, List.filter_cons, if_pos h]
  rfl

lemma knownPairs_unknown {d : Declaration} (h : (t.find? d.child).isSome = false)
    (ds : List Declaration) : knownPairs t (d :: ds) = knownPairs t ds := by
  rw [knownPairs, List.filter_cons, if_neg (by simp [h])]
  rfl

lemma unknown_known {d : Declaration} (h : (t.find? d.child).isSome = true)
    (ds : List Declaration) : unknown t (d :: ds) = unknown t ds := by
  rw [unknown, List.filter_cons, if_neg (by simp [h])]
  rfl

lemma unknown_unknown {d : Declaration} (h : (t.find? d.child).isSome = false)
    (ds : List Declaration) : unknown t (d :: ds) = d.toDropped :: unknown t ds := by
  rw [unknown, List.filter_cons, if_pos (by simp [h])]
  rfl

lemma eraseDups_concat {α : Type} [BEq α] [LawfulBEq α] (as : List α) (a : α) :
    (as ++ [a]).eraseDups = if a ∈ as then as.eraseDups else as.eraseDups ++ [a] := by
  rw [List.eraseDups_append]
  by_cases h : a ∈ as <;> simp [List.removeAll, h, List.eraseDups_cons]

lemma nodup_eraseDups {α : Type} [BEq α] [LawfulBEq α] (as : List α) : as.eraseDups.Nodup := by
  induction as using List.reverseRecOn with
  | nil => simp
  | append_singleton as a ih =>
    rw [eraseDups_concat]
    split
    · exact ih
    · next h =>
      rw [← List.concat_eq_append]
      exact ih.concat (List.mem_eraseDups.not.mpr h)

/-- **All declared references.** What following them in order leads to is the tree with a link for
each pair that they join, in the order of their first mention, and with the others dropped. -/
theorem followAll_withLinks (k : IsKeyed t) {ps : List (Identity × Identity)}
    {ds : List Declaration} (hls : ∀ l ∈ ls, l.In t) (hps : ls.map Link.pair = ps.eraseDups)
    (hds : ∀ d ∈ ds, '/' ∉ d.child.version.toList ∧ '/' ∉ d.owner.version.toList ∧
      (t.find? d.owner).isSome = true) :
    ∃ links : List Link, (∀ l ∈ links, l.In t) ∧
      links.map Link.pair = (ps ++ knownPairs t ds).eraseDups ∧
      ((t.withLinks ls).followAll ds).result =
        { t with dropped := t.dropped ++ unknown t ds }.withLinks links := by
  induction ds generalizing t ls ps with
  | nil => exact ⟨ls, hls, by simpa [knownPairs] using hps, by simp [followAll, unknown]⟩
  | cons d ds ih =>
    obtain ⟨hchild, howner, hknown⟩ := hds d (by simp)
    have hds' := fun x hx => hds x (List.mem_cons_of_mem d hx)
    rw [followAll]
    rcases follow_withLinks k ls hchild howner hknown with
      ⟨hstep, hc⟩ | ⟨hstep, hc, hpair⟩ | ⟨hc, hpair, l, hl, hlp, hstep⟩
    · -- dropped: the branches are as before
      obtain ⟨links, hlinks, hmap, hrun⟩ := ih (k.with_dropped (t.dropped ++ [d.toDropped]))
        (fun l hl => (hls l hl).with_dropped _) hps hds'
      refine ⟨links, fun l hl => (hlinks l hl).with_dropped t.dropped, ?_, ?_⟩
      · rw [knownPairs_unknown hc]
        exact hmap
      · rw [hstep, hrun, unknown_unknown hc, List.append_assoc]
        rfl
    · have hmem : d.pair ∈ ps := by rwa [hps, List.mem_eraseDups] at hpair
      have hps' : ls.map Link.pair = (ps ++ [d.pair]).eraseDups := by
        rw [hps, eraseDups_concat, if_pos hmem]
      obtain ⟨links, hlinks, hmap, hrun⟩ := ih k hls hps' hds'
      refine ⟨links, hlinks, ?_, ?_⟩
      · rw [hmap, knownPairs_known hc, List.append_assoc, List.singleton_append]
      · rw [hstep, hrun, unknown_known hc]
    · have hmem : d.pair ∉ ps := by rwa [hps, List.mem_eraseDups] at hpair
      have hls' : ∀ x ∈ ls ++ [l], x.In t := by
        intro x hx
        rcases List.mem_append.mp hx with hx | hx
        · exact hls x hx
        · exact List.mem_singleton.mp hx ▸ hl
      have hps' : (ls ++ [l]).map Link.pair = (ps ++ [d.pair]).eraseDups := by
        rw [List.map_append, hps, eraseDups_concat, if_neg hmem, ← hlp]
        rfl
      obtain ⟨links, hlinks, hmap, hrun⟩ := ih k hls' hps' hds'
      refine ⟨links, hlinks, ?_, ?_⟩
      · rw [hmap, knownPairs_known hc, List.append_assoc, List.singleton_append]
      · rw [hstep, hrun, unknown_known hc]

end ClientGen.Tree
