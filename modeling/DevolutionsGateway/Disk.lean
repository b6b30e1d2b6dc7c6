import DevolutionsGateway.Layout
import Mathlib.Logic.Function.Basic

/-!
# Manifests and the file system under the recordings root

`JrecFile` and `JrecManifest` are the records `recording.rs` serializes to
`recording.json`. The JSON text itself is not modelled: a manifest file holds either a
manifest (the bytes `serde_json::to_string_pretty` wrote, which `serde_json::from_slice` reads
back) or bytes that do not parse.

`Disk` is the part of the file system the recording manager touches. It maps each path to
what is there, a directory or a file, and carries as a field the one fact of real file
systems the proofs need: a file's parent is a directory. The four operations the manager
performs are `Disk.createDirAll` (`fs::create_dir_all`), `Disk.write` (`std::fs::write`),
`Disk.read` (`std::fs::read` followed by parsing) and `Disk.exists` (`Path::exists`). Every
fallible operation takes a flag `fails` that models an I/O error; a failed operation leaves
the disk as it was. Besides, `Disk.createDirAll` fails as `create_dir_all` does when a file
stands above the directory to create, and `Disk.write` when the parent is not a directory.

## Main results

* `Disk.write_eq_some` and `Disk.createDirAll_eq_some`: what a successful operation does.
* `Disk.entry_write_of_ne`, `Disk.entry_createDirAll_of_ne`: the frame conditions.
* `Disk.read_write_self`: a manifest written is the manifest read back.
-/

namespace DevolutionsGateway

/-! ### Manifests -/

/-- `JrecFile`: one payload file of a recording, with its start time and duration in unix
seconds. -/
structure JrecFile where
  fileName : String
  startTime : Int
  duration : Int
deriving DecidableEq

/-- `JrecManifest`: the contents of `recording.json`. -/
structure JrecManifest where
  sessionId : Uuid
  startTime : Int
  duration : Int
  files : List JrecFile
deriving DecidableEq

/-! ### The file system -/

/-- What a path holds: a directory, or a file whose bytes either parse as a manifest
(`some`) or do not (`none`). -/
inductive Entry
  | dir
  | file (contents : Option JrecManifest)
deriving DecidableEq

/-- `Path::parent`: the path without its last component. -/
def Utf8PathBuf.parent (p : Utf8PathBuf) : Utf8PathBuf := ⟨p.components.dropLast⟩

@[simp] theorem Utf8PathBuf.parent_join (p : Utf8PathBuf) (c : String) : (p.join c).parent = p := by
  simp [Utf8PathBuf.parent, Utf8PathBuf.join]

/-- The file system under the recordings root: what each path holds. A file always sits in
a directory. -/
structure Disk where
  entry : Utf8PathBuf → Option Entry
  parent_isDir : ∀ p c, entry p = some (.file c) → entry p.parent = some .dir

theorem Disk.ext {d d' : Disk} (h : d.entry = d'.entry) : d = d' := by
  cases d; cases d'; cases h; rfl

/-- The empty file system. -/
def Disk.empty : Disk := ⟨fun _ => none, fun _ _ h => nomatch h⟩

/-- `Path::exists`. -/
def Disk.exists (d : Disk) (p : Utf8PathBuf) : Bool := (d.entry p).isSome

/-- `std::fs::read` followed by `serde_json::from_slice`, without I/O errors: the manifest
stored at `p`, if `p` is a file whose contents parse. -/
def Disk.read (d : Disk) (p : Utf8PathBuf) : Option JrecManifest :=
  match d.entry p with
  | some (.file m) => m
  | _ => none

/-- The proper ancestors of `p`, outermost first: those of `Path::ancestors` but `p` itself. -/
def Utf8PathBuf.properAncestors (p : Utf8PathBuf) : List Utf8PathBuf :=
  (List.range p.components.length).map fun k => ⟨p.components.take k⟩

theorem Utf8PathBuf.length_lt_of_mem_properAncestors {p q : Utf8PathBuf}
    (h : q ∈ p.properAncestors) : q.components.length < p.components.length := by
  obtain ⟨k, hk, rfl⟩ := List.mem_map.mp h
  simpa using hk

/-- Whether `p` holds a file. -/
def Disk.isFile (d : Disk) (p : Utf8PathBuf) : Bool :=
  match d.entry p with
  | some (.file _) => true
  | _ => false

/-- Whether a file lies on one of the paths depends only on their entries. -/
theorem Disk.any_isFile_congr {d d' : Disk} {ps : List Utf8PathBuf}
    (h : ∀ q ∈ ps, d'.entry q = d.entry q) : ps.any d'.isFile = ps.any d.isFile := by
  induction ps with
  | nil => rfl
  | cons q ps ih =>
    simp only [List.any_cons, ih fun q' hq' => h q' (.tail _ hq'), Disk.isFile, h q (.head _)]

/-- `fs::create_dir_all` of a directory: it succeeds when the path is a directory already, and
creates it when nothing is there, unless one of its ancestors is a file (`ENOTDIR`). The missing
ancestors it would create along the way are left out: no operation of the manager reads them. -/
def Disk.createDirAll (d : Disk) (p : Utf8PathBuf) (fails : Bool) : Option Disk :=
  if h : fails = false ∧ d.entry p = none ∧ p.properAncestors.any d.isFile = false then
    some ⟨Function.update d.entry p (some .dir), fun q c hq => by
      have hqp : q ≠ p := by rintro rfl; simp at hq
      rw [Function.update_noteq hqp] at hq
      by_cases hp : q.parent = p
      · rw [hp, Function.update_same]
      · rw [Function.update_noteq hp]
        exact d.parent_isDir q c hq⟩
  else if fails = false ∧ d.entry p = some .dir then some d
  else none

/-- `std::fs::write`: it needs the parent directory, and fails on a directory. -/
def Disk.write (d : Disk) (p : Utf8PathBuf) (contents : Option JrecManifest) (fails : Bool) :
    Option Disk :=
  if h : fails = false ∧ d.entry p.parent = some .dir ∧ d.entry p ≠ some .dir then
    some ⟨Function.update d.entry p (some (.file contents)), fun q c hq => by
      by_cases hqp : q = p
      · subst hqp
        have hne : q.parent ≠ q := fun e => h.2.2 (e ▸ h.2.1)
        rw [Function.update_noteq hne]
        exact h.2.1
      · rw [Function.update_noteq hqp] at hq
        have hd := d.parent_isDir q c hq
        have hne : q.parent ≠ p := fun e => h.2.2 (e ▸ hd)
        rw [Function.update_noteq hne]
        exact hd⟩
  else none

theorem Disk.write_eq_some {d d' : Disk} {p : Utf8PathBuf} {c : Option JrecManifest}
    {fails : Bool} (h : d.write p c fails = some d') :
    fails = false ∧ d.entry p.parent = some .dir ∧
      d'.entry = Function.update d.entry p (some (.file c)) := by
  unfold Disk.write at h
  split at h
  · rename_i hc
    cases h
    exact ⟨hc.1, hc.2.1, rfl⟩
  · cases h

theorem Disk.entry_write_of_ne {d d' : Disk} {p q : Utf8PathBuf} {c : Option JrecManifest}
    {fails : Bool} (h : d.write p c fails = some d') (hq : q ≠ p) : d'.entry q = d.entry q := by
  rw [(Disk.write_eq_some h).2.2, Function.update_noteq hq]

theorem Disk.read_write_self {d d' : Disk} {p : Utf8PathBuf} {c : Option JrecManifest}
    {fails : Bool} (h : d.write p c fails = some d') : d'.read p = c := by
  simp [Disk.read, (Disk.write_eq_some h).2.2]

theorem Disk.write_of_parent {d : Disk} {p : Utf8PathBuf} (c : Option JrecManifest)
    (hp : d.entry p.parent = some .dir) (hne : d.entry p ≠ some .dir) :
    ∃ d', d.write p c false = some d' := by
  simp [Disk.write, hp, hne]

theorem Disk.createDirAll_eq_some {d d' : Disk} {p : Utf8PathBuf} {fails : Bool}
    (h : d.createDirAll p fails = some d') :
    fails = false ∧ d'.entry p = some .dir ∧ ∀ q ≠ p, d'.entry q = d.entry q := by
  unfold Disk.createDirAll at h
  split at h
  · rename_i hc
    cases h
    exact ⟨hc.1, by simp, fun q hq => Function.update_noteq hq _ _⟩
  · split at h
    · rename_i hc
      cases h
      exact ⟨hc.1, hc.2, fun _ _ => rfl⟩
    · cases h

theorem Disk.entry_createDirAll_of_ne {d d' : Disk} {p q : Utf8PathBuf} {fails : Bool}
    (h : d.createDirAll p fails = some d') (hq : q ≠ p) : d'.entry q = d.entry q :=
  (Disk.createDirAll_eq_some h).2.2 q hq

theorem Disk.createDirAll_of_absent {d : Disk} {p : Utf8PathBuf} (hp : d.entry p = none)
    (ha : p.properAncestors.any d.isFile = false) : ∃ d', d.createDirAll p false = some d' := by
  simp [Disk.createDirAll, hp, ha]

end DevolutionsGateway
