import Mathlib.Data.Nat.Digits
import Mathlib.Tactic.Ring

/-!
# Session identifiers, paths, and the recording directory layout

The recording manager names everything it writes after the session's association id:
the session directory `{root}/{session_id}`, the manifest `{root}/{session_id}/recording.json`,
and the payload files `{root}/{session_id}/recording-{n}.{ext}`. This module models the
pieces those names are made of, as `recording.rs` formats them:

* `Uuid`, with the lexicographic byte order its derived `Ord` compares by and the
  hyphenated lowercase text form of its `Display` (`xxxxxxxx-xxxx-xxxx-xxxx-xxxxxxxxxxxx`);
* `Utf8PathBuf`, as its sequence of components, with `join` of one relative component;
* `RecordingFileType`, of which `recording.rs` uses only the extension it displays as;
* the names of the layout: `recordingPath`, `manifestPath`, `recordingFileName`,
  `recordingFile`.

## Main results

* `Uuid.toString_injective`: distinct sessions get distinct directories.
* `parseRecordingFileName_recordingFileName`: **a payload file name parses back** to its index
  and extension, so `recordingFileName_injective` — two payload files of one session share a
  name only when they share the index and the extension.
* `recordingFile_injective`, `manifestPath_injective` and `recordingPath_ne_manifestPath`:
  the layout never reuses a path.
-/

namespace DevolutionsGateway

/-! ### Digits -/

/-- The value of a digit character: inverse to `Nat.digitChar` on the sixteen hexadecimal
digits `0-9a-f`. -/
def digitValue (c : Char) : Nat :=
  if c.toNat < 58 then c.toNat - 48 else c.toNat - 87

theorem digitValue_digitChar : ∀ d < 16, digitValue (Nat.digitChar d) = d := by decide

theorem isDigit_digitChar : ∀ d < 10, (Nat.digitChar d).isDigit = true := by decide

theorem digitChar_ne_hyphen : ∀ d < 16, Nat.digitChar d ≠ '-' := by decide

/-- The number a list of digits spells in base `b`, most significant digit first. -/
def ofDigitChars (b : Nat) : List Char → Nat
  | [] => 0
  | c :: cs => digitValue c * b ^ cs.length + ofDigitChars b cs

/-- `Nat.toDigitsCore` with enough fuel puts the decimal digits of `n` in front of `ds`. -/
theorem ofDigitChars_toDigitsCore {f n : Nat} (ds : List Char) (h : n < f) :
    ofDigitChars 10 (Nat.toDigitsCore 10 f n ds) = n * 10 ^ ds.length + ofDigitChars 10 ds := by
  induction f generalizing n ds with
  | zero => omega
  | succ f ih =>
    have hd := digitValue_digitChar (n % 10) (by omega)
    have hn := Nat.div_add_mod n 10
    simp only [Nat.toDigitsCore]
    split
    · simp only [ofDigitChars, hd]
      congr 1
      rw [Nat.mod_eq_of_lt (by omega)]
    · rw [ih _ (by omega)]
      simp only [ofDigitChars, hd, List.length_cons, pow_succ]
      rw [← add_assoc]
      congr 1
      calc n / 10 * (10 ^ ds.length * 10) + n % 10 * 10 ^ ds.length
          = (10 * (n / 10) + n % 10) * 10 ^ ds.length := by ring
        _ = n * 10 ^ ds.length := by rw [hn]

/-- Every character `Nat.toDigitsCore` adds is a decimal digit. -/
theorem isDigit_of_mem_toDigitsCore {f n : Nat} {ds : List Char} {c : Char}
    (h : c ∈ Nat.toDigitsCore 10 f n ds) : c ∈ ds ∨ c.isDigit = true := by
  induction f generalizing n ds with
  | zero => exact .inl h
  | succ f ih =>
    have hd := isDigit_digitChar (n % 10) (by omega)
    simp only [Nat.toDigitsCore] at h
    split at h
    · rcases List.mem_cons.mp h with rfl | h
      exacts [.inr hd, .inl h]
    · rcases ih h with h | h
      · rcases List.mem_cons.mp h with rfl | h
        exacts [.inr hd, .inl h]
      · exact .inr h

/-- The decimal digits `toString` writes for a number spell that number. -/
theorem ofDigitChars_toDigits (n : Nat) : ofDigitChars 10 (Nat.toDigits 10 n) = n := by
  simpa [ofDigitChars] using ofDigitChars_toDigitsCore [] (Nat.lt_succ_self n)

theorem isDigit_of_mem_toDigits {n : Nat} {c : Char} (h : c ∈ Nat.toDigits 10 n) :
    c.isDigit = true :=
  (isDigit_of_mem_toDigitsCore h).resolve_left (List.not_mem_nil c)

/-- The `k` lowest hexadecimal digits of `v` in front of `acc`, most significant first. -/
def hexDigits : Nat → Nat → List Char → List Char
  | 0, _, acc => acc
  | k + 1, v, acc => hexDigits k (v / 16) (Nat.digitChar (v % 16) :: acc)

theorem ofDigitChars_hexDigits (k v : Nat) (acc : List Char) :
    ofDigitChars 16 (hexDigits k v acc) = v % 16 ^ k * 16 ^ acc.length + ofDigitChars 16 acc := by
  induction k generalizing v acc with
  | zero => simp [hexDigits, Nat.mod_one]
  | succ k ih =>
    have hd := digitValue_digitChar (v % 16) (by omega)
    have hmod : v % 16 ^ (k + 1) = v % 16 + 16 * (v / 16 % 16 ^ k) := by
      rw [pow_succ', Nat.mod_mul]
    rw [hexDigits, ih, ofDigitChars, hd, List.length_cons, hmod]
    ring

theorem mem_hexDigits {k v : Nat} {acc : List Char} {c : Char} (h : c ∈ hexDigits k v acc) :
    c ∈ acc ∨ c ≠ '-' := by
  induction k generalizing v acc with
  | zero => exact .inl h
  | succ k ih =>
    rcases ih h with h | h
    · rcases List.mem_cons.mp h with rfl | h
      exacts [.inr (digitChar_ne_hyphen _ (by omega)), .inl h]
    · exact .inr h

/-! ### Session identifiers -/

/-- A `uuid::Uuid`, as the 128-bit number its sixteen big-endian bytes spell. -/
structure Uuid where
  toNat : Nat
  isLt : toNat < 2 ^ 128
deriving DecidableEq

/-- The derived `Ord` of `Uuid` compares the bytes lexicographically, which for big-endian
bytes of equal length is the order of the numbers they spell. -/
instance : Ord Uuid := ⟨fun a b => compare a.toNat b.toNat⟩

/-- The hyphenated form `xxxxxxxx-xxxx-xxxx-xxxx-xxxxxxxxxxxx` of 32 hexadecimal digits. -/
def hyphenate (h : List Char) : List Char :=
  h.take 8 ++ '-' :: (h.drop 8).take 4 ++ '-' :: (h.drop 12).take 4 ++ '-' ::
    (h.drop 16).take 4 ++ '-' :: h.drop 20

theorem filter_hyphenate {h : List Char} (hh : '-' ∉ h) : (hyphenate h).filter (· != '-') = h := by
  have keep : ∀ l : List Char, l.Sublist h → l.filter (· != '-') = l := fun l hl =>
    List.filter_eq_self.mpr fun c hc => by
      simp only [bne_iff_ne, ne_eq]
      rintro rfl
      exact hh (hl.subset hc)
  have split : ∀ n m : Nat, (h.drop n).take m ++ h.drop (n + m) = h.drop n := fun n m => by
    rw [← List.drop_drop, List.take_append_drop]
  simp only [hyphenate, List.filter_append, List.filter_cons, bne_self_eq_false,
    keep _ (List.take_sublist _ _), keep _ (List.drop_sublist _ _),
    keep _ ((List.take_sublist _ _).trans (List.drop_sublist _ _))]
  simp only [Bool.false_eq_true, ↓reduceIte, List.append_assoc]
  rw [split 16 4, split 12 4, split 8 4, List.take_append_drop]

/-- `Display` of a `Uuid`: lowercase hexadecimal, hyphenated. -/
instance : ToString Uuid := ⟨fun u => String.mk (hyphenate (hexDigits 32 u.toNat []))⟩

theorem Uuid.toString_data (u : Uuid) : (toString u).data = hyphenate (hexDigits 32 u.toNat []) :=
  rfl

/-- **Distinct sessions get distinct directory names.** -/
theorem Uuid.toString_injective : Function.Injective (toString : Uuid → String) := by
  have decode : ∀ u : Uuid,
      ofDigitChars 16 ((toString u).data.filter (· != '-')) = u.toNat := fun u => by
    have hh : '-' ∉ hexDigits 32 u.toNat [] := fun hm =>
      ((mem_hexDigits hm).resolve_left (List.not_mem_nil _)) rfl
    rw [Uuid.toString_data, filter_hyphenate hh, ofDigitChars_hexDigits]
    simpa [ofDigitChars] using
      Nat.mod_eq_of_lt (u.isLt.trans_eq (by norm_num : (2 : Nat) ^ 128 = 16 ^ 32))
  intro a b h
  have := decode a
  rw [h, decode b] at this
  cases a; cases b
  simp_all

/-! ### Paths -/

/-- A `camino::Utf8PathBuf`, as its sequence of components; two paths are equal exactly when
their components are, which is how `Path` compares. -/
structure Utf8PathBuf where
  components : List String
deriving DecidableEq, Inhabited

/-- `Utf8PathBuf::join` of one relative component without separators, which is every join
`recording.rs` makes. -/
def Utf8PathBuf.join (p : Utf8PathBuf) (c : String) : Utf8PathBuf := ⟨p.components ++ [c]⟩

theorem Utf8PathBuf.join_inj {p q : Utf8PathBuf} {a b : String} (h : p.join a = q.join b) :
    p = q ∧ a = b := by
  have := List.append_inj' (congrArg components h) rfl
  exact ⟨congrArg mk this.1, List.singleton_inj.mp this.2⟩

/-- `Display` of a path: its components separated by `/`. -/
instance : ToString Utf8PathBuf := ⟨fun p => "/".intercalate p.components⟩

/-- Modelled from the spec: `crate::token::RecordingFileType`, of which `recording.rs` uses
only its `Display`, the extension of the recording file. The layout (§6) has it match
`[a-z0-9]+`. -/
structure RecordingFileType where
  extension : String
  isExtension : extension.data ≠ [] ∧ ∀ c ∈ extension.data, c.isLower ∨ c.isDigit

instance : ToString RecordingFileType := ⟨RecordingFileType.extension⟩

/-! ### The recording directory layout -/

/-- `self.recordings_path.join(id.to_string())`: the directory of a session. -/
def recordingPath (root : Utf8PathBuf) (id : Uuid) : Utf8PathBuf := root.join (toString id)

/-- `recording_path.join("recording.json")`: the manifest of a session. -/
def manifestPath (root : Utf8PathBuf) (id : Uuid) : Utf8PathBuf :=
  (recordingPath root id).join "recording.json"

/-- `format!("recording-{next_file_idx}.{file_type}")`: the name of the payload file of a
given index. -/
def recordingFileName (idx : Nat) (fileType : RecordingFileType) : String :=
  s!"recording-{idx}.{fileType}"

/-- `recording_path.join(&file_name)`: the payload file of a given index. -/
def recordingFile (root : Utf8PathBuf) (id : Uuid) (idx : Nat) (fileType : RecordingFileType) :
    Utf8PathBuf :=
  (recordingPath root id).join (recordingFileName idx fileType)

theorem recordingFileName_data (idx : Nat) (fileType : RecordingFileType) :
    (recordingFileName idx fileType).data =
      "recording-".data ++ Nat.toDigits 10 idx ++ '.' :: fileType.extension.data := by
  show ("recording-" ++ (Nat.toDigits 10 idx).asString ++ "." ++ fileType.extension ++ "").data = _
  simp [List.asString]

/-- Reads a payload file name `recording-{n}.{ext}` back into its index and extension. -/
def parseRecordingFileName (name : String) : Option (Nat × String) :=
  if name.data.take 10 = "recording-".data then
    let rest := name.data.drop 10
    match rest.dropWhile (·.isDigit) with
    | '.' :: ext => some (ofDigitChars 10 (rest.takeWhile (·.isDigit)), String.mk ext)
    | _ => none
  else none

/-- **A payload file name parses back** to the index and the extension it was made of. -/
theorem parseRecordingFileName_recordingFileName (idx : Nat) (fileType : RecordingFileType) :
    parseRecordingFileName (recordingFileName idx fileType) = some (idx, fileType.extension) := by
  have hd : ∀ c ∈ Nat.toDigits 10 idx, c.isDigit = true := fun _ => isDigit_of_mem_toDigits
  have hlen : "recording-".data.length = 10 := rfl
  simp only [parseRecordingFileName, recordingFileName_data, List.append_assoc,
    List.take_left' hlen, List.drop_left' hlen, List.dropWhile_append_of_pos hd,
    List.takeWhile_append_of_pos hd, ite_true]
  simp [ofDigitChars_toDigits]

theorem recordingFileName_injective {i j : Nat} {a b : RecordingFileType}
    (h : recordingFileName i a = recordingFileName j b) : i = j ∧ a.extension = b.extension := by
  have := parseRecordingFileName_recordingFileName i a
  rw [h, parseRecordingFileName_recordingFileName] at this
  simpa [eq_comm] using this

theorem recordingPath_injective {root : Utf8PathBuf} {a b : Uuid}
    (h : recordingPath root a = recordingPath root b) : a = b := by
  simp only [recordingPath, Utf8PathBuf.join, Utf8PathBuf.mk.injEq, List.append_cancel_left_eq,
    List.cons.injEq, and_true] at h
  exact Uuid.toString_injective h

theorem manifestPath_injective {root : Utf8PathBuf} {a b : Uuid}
    (h : manifestPath root a = manifestPath root b) : a = b :=
  recordingPath_injective <| congrArg Utf8PathBuf.mk <| by
    simp only [manifestPath, Utf8PathBuf.join, Utf8PathBuf.mk.injEq, List.append_cancel_right_eq] at h
    exact h

/-- **Two payload files of the layout coincide only for one session, index and extension.** -/
theorem recordingFile_injective {root : Utf8PathBuf} {a b : Uuid} {i j : Nat}
    {x y : RecordingFileType} (h : recordingFile root a i x = recordingFile root b j y) :
    a = b ∧ i = j ∧ x.extension = y.extension := by
  simp only [recordingFile, recordingPath, Utf8PathBuf.join, Utf8PathBuf.mk.injEq,
    List.append_assoc, List.singleton_append, List.append_cancel_left_eq, List.cons.injEq,
    and_true] at h
  exact ⟨Uuid.toString_injective h.1, recordingFileName_injective h.2⟩

/-- A session directory is never a manifest: the manifest sits one component deeper. -/
theorem recordingPath_ne_manifestPath (root : Utf8PathBuf) (a b : Uuid) :
    recordingPath root a ≠ manifestPath root b := fun h => by
  have := congrArg (·.components.length) h
  simp [manifestPath, recordingPath, Utf8PathBuf.join] at this

end DevolutionsGateway
