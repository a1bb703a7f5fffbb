import ClientGen.Tree.Basic
import ClientGen.Proofs.Naming.Module
import ClientGen.Proofs.Text.Order
import Mathlib.Data.List.Nodup

/-!
Trees in which every entry is found where its key says. Lookup is then a matter of membership, and
a change of the entry of one resource is a change of all entries that leaves the others alone.
-/

namespace ClientGen.Tree

open Spec

variable {t : Tree}

/-! ### Trees with keys -/

/-- Every entry is found where its key says. -/
structure IsKeyed (t : Tree) : Prop where
  sorted : Text.Sorted Branch.label t.branches
  no_slash : ∀ b ∈ t.branches, '/' ∉ b.version.toList
  entries_sorted : ∀ b ∈ t.branches, Text.Sorted Entry.kind b.entries
  key : ∀ b ∈ t.branches, ∀ e ∈ b.entries, e.key = ⟨b.group, b.version, e.kind⟩

lemma IsKeyed.with_dropped (k : IsKeyed t) (ds : List Dropped) :
    IsKeyed { t with dropped := ds } :=
  ⟨k.sorted, k.no_slash, k.entries_sorted, k.key⟩

lemma mem_entries {e : Entry} : e ∈ t.entries ↔ ∃ b ∈ t.branches, e ∈ b.entries := List.mem_flatMap

section Keyed

variable (k : IsKeyed t)

include k

lemma IsKeyed.label_iff {b : Branch} (hb : b ∈ t.branches) {g v : String}
    (hv : '/' ∉ v.toList) :
    b.label = Naming.groupVersionLabel g v ↔ b.group = g ∧ b.version = v :=
  Naming.groupVersionLabel_inj (k.no_slash b hb) hv

lemma IsKeyed.branch?_eq_some_iff {b : Branch} {g v : String} (hv : '/' ∉ v.toList) :
    t.branch? g v = some b ↔ b ∈ t.branches ∧ b.group = g ∧ b.version = v := by
  rw [branch?, Text.findByKey?_eq_some_iff k.sorted]
  exact and_congr_right fun hb => k.label_iff hb hv

lemma IsKeyed.eq_branch {b c : Branch} (hb : b ∈ t.branches) (hc : c ∈ t.branches)
    (hg : b.group = c.group) (hv : b.version = c.version) : b = c :=
  k.sorted.eq_of_key hb hc (by rw [Branch.label, Branch.label, hg, hv])

lemma IsKeyed.eq_entry {b c : Branch} (hb : b ∈ t.branches) (hc : c ∈ t.branches) {e f : Entry}
    (he : e ∈ b.entries) (hf : f ∈ c.entries) (hkey : e.key = f.key) : b = c ∧ e = f := by
  rw [k.key b hb e he, k.key c hc f hf, Identity.mk.injEq] at hkey
  obtain ⟨hg, hv, hk⟩ := hkey
  obtain rfl := k.eq_branch hb hc hg hv
  exact ⟨rfl, (k.entries_sorted b hb).eq_of_key he hf hk⟩

lemma IsKeyed.find?_eq_some_iff {id : Identity} (hid : '/' ∉ id.version.toList) {e : Entry} :
    t.find? id = some e ↔
      ∃ b, t.branch? id.group id.version = some b ∧ e ∈ b.entries ∧ e.key = id := by
  rw [find?, Option.bind_eq_some_iff]
  refine exists_congr fun b => and_congr_right fun hb => ?_
  obtain ⟨hb, hg, hv⟩ := (k.branch?_eq_some_iff hid).mp hb
  rw [Branch.find?, Text.findByKey?_eq_some_iff (k.entries_sorted b hb)]
  refine and_congr_right fun he => ?_
  rw [k.key b hb e he, hg, hv]
  exact ⟨fun hk => by rw [hk], congrArg Identity.kind⟩

lemma IsKeyed.mem_of_find? {id : Identity} (hid : '/' ∉ id.version.toList) {e : Entry}
    (h : t.find? id = some e) : e ∈ t.entries ∧ e.key = id := by
  obtain ⟨b, hb, he, hkey⟩ := (k.find?_eq_some_iff hid).mp h
  exact ⟨mem_entries.mpr ⟨b, ((k.branch?_eq_some_iff hid).mp hb).1, he⟩, hkey⟩

lemma IsKeyed.find?_key {b : Branch} (hb : b ∈ t.branches) {e : Entry} (he : e ∈ b.entries) :
    t.find? e.key = some e := by
  have hkey := k.key b hb e he
  have hid : '/' ∉ e.key.version.toList := by
    rw [hkey]
    exact k.no_slash b hb
  refine (k.find?_eq_some_iff hid).mpr ⟨b, ?_, he, rfl⟩
  exact (k.branch?_eq_some_iff hid).mpr ⟨hb, by rw [hkey], by rw [hkey]⟩

lemma IsKeyed.find?_isSome_iff {id : Identity} (hid : '/' ∉ id.version.toList) :
    (t.find? id).isSome = true ↔ ∃ e ∈ t.entries, e.key = id := by
  rw [Option.isSome_iff_exists]
  constructor
  · rintro ⟨e, he⟩
    exact ⟨e, k.mem_of_find? hid he⟩
  · rintro ⟨e, he, rfl⟩
    obtain ⟨b, hb, he⟩ := mem_entries.mp he
    exact ⟨e, k.find?_key hb he⟩

lemma IsKeyed.nodup_keys : (t.entries.map Entry.key).Nodup := by
  rw [entries, List.map_flatMap, List.nodup_flatMap]
  constructor
  · intro b hb
    refine List.Nodup.map_on ?_ (k.entries_sorted b hb).nodup
    intro e he f hf hkey
    exact (k.eq_entry hb hb he hf hkey).2
  · refine k.sorted.nodup.imp_of_mem fun {b c} hb hc hne => ?_
    intro id hid hid'
    obtain ⟨e, he, rfl⟩ := List.mem_map.mp hid
    obtain ⟨f, hf, hkey⟩ := List.mem_map.mp hid'
    exact hne (k.eq_entry hb hc he hf hkey.symm).1

end Keyed

/-! ### Changing every entry -/

/-- The tree with every entry changed, which may depend on its branch. -/
def mapEntries (f : Branch → Entry → Entry) (t : Tree) : Tree :=
  { t with branches := t.branches.map fun b => { b with entries := b.entries.map (f b) } }

lemma mapEntries_congr {f g : Branch → Entry → Entry}
    (h : ∀ b ∈ t.branches, ∀ e ∈ b.entries, f b e = g b e) : t.mapEntries f = t.mapEntries g := by
  rw [mapEntries, mapEntries, Tree.mk.injEq]
  refine ⟨rfl, rfl, rfl, rfl, List.map_congr_left fun b hb => ?_, rfl⟩
  rw [List.map_congr_left (h b hb)]

lemma mapEntries_mapEntries (f : Branch → Entry → Entry) (g : Entry → Entry) :
    (t.mapEntries f).mapEntries (fun _ => g) = t.mapEntries fun b e => g (f b e) := by
  simp [mapEntries, Function.comp_def]

lemma mapEntries_id {f : Branch → Entry → Entry}
    (h : ∀ b ∈ t.branches, ∀ e ∈ b.entries, f b e = e) : t.mapEntries f = t := by
  rw [mapEntries_congr (g := fun _ e => e) h]
  simp [mapEntries]

lemma mem_entries_mapEntries {f : Branch → Entry → Entry} {e : Entry} :
    e ∈ (t.mapEntries f).entries ↔ ∃ b ∈ t.branches, ∃ x ∈ b.entries, f b x = e := by
  simp [mapEntries, entries]

/-- A change of entries that keeps their keys and kinds. -/
structure KeepsKeys (f : Branch → Entry → Entry) : Prop where
  key : ∀ b e, (f b e).key = e.key
  kind : ∀ b e, (f b e).kind = e.kind

lemma IsKeyed.mapped (k : IsKeyed t) {f : Branch → Entry → Entry} (hf : KeepsKeys f) :
    IsKeyed (t.mapEntries f) where
  sorted := Text.sorted_map k.sorted fun _ _ => rfl
  no_slash := by
    intro b hb
    obtain ⟨c, hc, rfl⟩ := List.mem_map.mp hb
    exact k.no_slash c hc
  entries_sorted := by
    intro b hb
    obtain ⟨c, hc, rfl⟩ := List.mem_map.mp hb
    exact Text.sorted_map (k.entries_sorted c hc) fun e _ => hf.kind c e
  key := by
    intro b hb e he
    obtain ⟨c, hc, rfl⟩ := List.mem_map.mp hb
    obtain ⟨x, hx, rfl⟩ := List.mem_map.mp he
    rw [hf.key, hf.kind]
    exact k.key c hc x hx

lemma IsKeyed.modifyEntry_eq (k : IsKeyed t) {id : Identity} (hid : '/' ∉ id.version.toList)
    (f : Entry → Entry) :
    t.modifyEntry id f = t.mapEntries fun _ e => if e.key = id then f e else e := by
  rw [modifyEntry, mapEntries, Tree.mk.injEq]
  refine ⟨rfl, rfl, rfl, rfl, List.map_congr_left fun b hb => ?_, rfl⟩
  have hlabel := k.label_iff hb hid (g := id.group)
  split
  · next hl =>
    obtain ⟨hg, hv⟩ := hlabel.mp (beq_iff_eq.mp hl)
    refine congrArg (fun es => { b with entries := es }) (List.map_congr_left fun e he => ?_)
    have hkey : e.key = id ↔ e.kind = id.kind := by
      rw [k.key b hb e he, hg, hv]
      exact ⟨congrArg Identity.kind, fun h => by rw [h]⟩
    simp [hkey]
  · next hl =>
    have hother : ∀ e ∈ b.entries, (if e.key = id then f e else e) = e := by
      intro e he
      refine if_neg fun h => hl ?_
      rw [k.key b hb e he] at h
      exact beq_iff_eq.mpr
        (hlabel.mpr ⟨congrArg Identity.group h, congrArg Identity.version h⟩)
    rw [List.map_congr_left hother, List.map_id']

lemma branch?_mapEntries (f : Branch → Entry → Entry) (g v : String) :
    (t.mapEntries f).branch? g v =
      (t.branch? g v).map fun b => { b with entries := b.entries.map (f b) } := by
  rw [branch?, branch?, Text.findByKey?, Text.findByKey?, Tree.mapEntries, List.find?_map]
  rfl

lemma find?_mapEntries {f : Branch → Entry → Entry} (hf : KeepsKeys f) (id : Identity) :
    (t.mapEntries f).find? id = (t.branch? id.group id.version).bind fun b =>
      (b.find? id.kind).map (f b) := by
  have hb := branch?_mapEntries (t := t) f id.group id.version
  rw [branch?] at hb
  rw [find?, Identity.groupVersion, hb, Option.bind_map]
  refine congrArg _ (funext fun b => ?_)
  have hkind : (fun e : Entry => e.kind == id.kind) ∘ f b = fun e => e.kind == id.kind :=
    funext fun e => by rw [Function.comp_apply, hf.kind]
  change (b.entries.map (f b)).find? (fun e => e.kind == id.kind) = _
  rw [List.find?_map, hkind]
  rfl

lemma find?_mapEntries_none {f : Branch → Entry → Entry} (hf : KeepsKeys f) {id : Identity}
    (h : t.find? id = none) : (t.mapEntries f).find? id = none := by
  change (t.branch? id.group id.version).bind _ = none at h
  rw [find?_mapEntries hf, Option.bind_eq_none_iff]
  intro b hb
  rw [Option.map_eq_none_iff]
  exact Option.bind_eq_none_iff.mp h b hb

lemma find?_mapEntries_some {f : Branch → Entry → Entry} (hf : KeepsKeys f) {id : Identity}
    {b : Branch} {e : Entry} (hb : t.branch? id.group id.version = some b)
    (h : t.find? id = some e) : (t.mapEntries f).find? id = some (f b e) := by
  change (t.branch? id.group id.version).bind _ = some e at h
  rw [hb, Option.bind_some] at h
  rw [find?_mapEntries hf, hb, Option.bind_some, h, Option.map_some]

end ClientGen.Tree
