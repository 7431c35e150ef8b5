import Rhc.Conf.Source
/-
  Rhc.Conf.DropIn — override discovery: which drop-ins, and in which order.
  ──────────────────────────────────────
  **`findDropInFiles` returns the joined paths of exactly the non-directory `.toml`
  entries, sorted by file name.**

  The code sorts whole paths (`sort.Strings` after `filepath.Join`), while the
  package documentation orders drop-ins by file name ("in lexicographic order").  The two agree for EVERY spelling
  of the directory because `Join` puts one fixed prefix before every name
  (`join_pathElem`), and a fixed prefix does not change a byte-wise comparison.

  Main result: `findDropInFiles_ordered_by_name`.
-/

namespace Rhc.Conf

open Rhc.Go

/-- The names of the drop-ins of a listing, in listing order. -/
def dropInNames (entries : List DirEntry) : List GoString :=
  (entries.filter DirEntry.isDropIn).map DirEntry.name

theorem dropInNames_nodup (listing : DirListing) : (dropInNames listing.entries).Nodup :=
  listing.names_nodup.sublist ((List.filter_sublist _).map _)

theorem pathElem_of_mem_dropInNames {entries : List DirEntry} {n : GoString}
    (h : n ∈ dropInNames entries) : IsPathElem n := by
  obtain ⟨e, -, rfl⟩ := List.mem_map.mp h
  exact e.name_elem

/-- The collecting loop of `findDropInFiles` joins the drop-in names in listing order. -/
theorem filterMap_join_eq (dir : GoString) (entries : List DirEntry) :
    entries.filterMap (fun e => if e.isDir then none
      else if tomlExt.isSuffixOf e.name then some (join dir e.name) else none) =
      (dropInNames entries).map (join dir) := by
  induction entries with
  | nil => rfl
  | cons e es ih =>
    rw [List.filterMap_cons, ih]
    by_cases hd : e.isDir <;> by_cases hs : tomlExt.isSuffixOf e.name <;>
      simp [hd, hs, dropInNames, DirEntry.isDropIn, List.filter_cons]

/-- `findDropInFiles` on an existing, readable directory: the sorted drop-in names,
    each joined to the directory. -/
theorem findDropInFiles_eq (fs : FileSystem) (cs : ConfigSource) (listing : DirListing)
    (hstat : isNotExist (fs.stat cs.dropInDir) = false)
    (hread : fs.readDir cs.dropInDir = .ok listing) :
    cs.findDropInFiles fs =
      .ok ((GoString.sortStrings (dropInNames listing.entries)).map (join cs.dropInDir)) := by
  simp only [ConfigSource.findDropInFiles, hstat, hread, filterMap_join_eq]
  rw [GoString.sortStrings_map]
  · rfl
  · exact fun a ha b hb =>
      lt_join_join _ (pathElem_of_mem_dropInNames ha) (pathElem_of_mem_dropInNames hb)

/-- **Override discovery.**  On an existing, readable drop-in directory,
    `findDropInFiles` returns the joined paths of a list of names that holds each
    drop-in name once, none lost and none added, in strictly ascending byte-wise
    order: the path for `a` comes before the path for `b` exactly when `a < b`. -/
theorem findDropInFiles_ordered_by_name (fs : FileSystem) (cs : ConfigSource)
    (listing : DirListing) (hstat : isNotExist (fs.stat cs.dropInDir) = false)
    (hread : fs.readDir cs.dropInDir = .ok listing) :
    ∃ names : List GoString, cs.findDropInFiles fs = .ok (names.map (join cs.dropInDir)) ∧
      names.Perm (dropInNames listing.entries) ∧
      names.Pairwise (fun a b => GoString.lt a b) :=
  ⟨_, findDropInFiles_eq fs cs listing hstat hread,
    GoString.sortStrings_perm _, GoString.sortStrings_strict (dropInNames_nodup listing)⟩

/-- A relative directory spelled with `..`, listing two drop-ins out of order, a
    file of another extension and a directory named like a drop-in. -/
theorem findDropInFiles_ordered_by_name_relative :
    let listing : DirListing := ⟨[⟨utf8 "20-b.toml", false, by decide⟩,
      ⟨utf8 "a.conf", false, by decide⟩, ⟨utf8 "10-a.toml", false, by decide⟩,
      ⟨utf8 "sub.toml", true, by decide⟩], by decide⟩
    let fs := FileSystem.ofFiles (utf8 "conf/../d/") listing []
    let cs : ConfigSource := ⟨utf8 "conf/main.toml", utf8 "conf/../d/"⟩
    isNotExist (fs.stat cs.dropInDir) = false ∧ fs.readDir cs.dropInDir = .ok listing ∧
      ∃ names : List GoString, cs.findDropInFiles fs = .ok (names.map (join cs.dropInDir)) ∧
        names.Perm (dropInNames listing.entries) ∧
        names.Pairwise (fun a b => GoString.lt a b) :=
  ⟨rfl, rfl, findDropInFiles_ordered_by_name _ _ _ rfl rfl⟩

end Rhc.Conf
