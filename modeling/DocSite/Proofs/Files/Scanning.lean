import DocSite.FileTree.Scan
import DocSite.Proofs.Files.Names
import Mathlib.Data.List.Basic

/-! Scans. A scan ends with what it finds, unless its path or one that it comes to is too long to
be looked at. It finds the file that its path leads to, or the files below the directory, whose
paths go on from it by names of files. -/

namespace DocSite

namespace FileTree
variable {t : FileTree} {p root : Path}

/-! ### Walks below a directory -/

theorem checkLength_eq_ok_iff : checkLength p = .ok () ↔ p.text.utf8ByteSize < pathLimit := by
  rw [checkLength]
  split_ifs with hLong
  · simp [hLong]
  · simp [Nat.not_le.1 hLong]

theorem enter_of_checkLength {e : Path × FileEntry} (h : checkLength e.1 = .ok ()) :
    enter e = .ok () := by
  obtain ⟨path, _ | _⟩ := e
  · rfl
  · exact h

/-- What stands below the place of a directory, in the order of the texts of its paths. -/
def foundBelow (t : FileTree) (root : Path) (place : List String) : List (Path × FileEntry) :=
  ((t.below place).map fun (parts, entry) =>
    ({ root with parts := root.parts ++ parts }, entry)).mergeSort fun a b => a.1.text ≤ b.1.text

theorem mem_foundBelow {place : List String} {e : Path × FileEntry} :
    e ∈ t.foundBelow root place ↔ ∃ way entry, (way, entry) ∈ t.below place ∧
      e = ({ root with parts := root.parts ++ way }, entry) := by
  rw [foundBelow, List.mem_mergeSort, List.mem_map]
  simp only [Prod.exists, eq_comm (a := e)]

theorem pairwise_foundBelow (t : FileTree) (root : Path) (place : List String) :
    (t.foundBelow root place).Pairwise fun a b => a.1.text ≤ b.1.text := by
  refine (List.pairwise_mergeSort ?_ ?_ _).imp of_decide_eq_true
  · simp only [decide_eq_true_eq]
    exact fun _ _ _ => String.le_trans
  · simp only [Bool.or_eq_true, decide_eq_true_eq]
    exact fun _ _ => String.le_total _ _

/-- A walk below a directory finds what stands there, if each directory can be opened. -/
theorem walkBelow_eq {place : List String} {entry : Option FileEntry}
    (hIs : t.isDirectory root = .ok true) (hLocate : t.locate root = .ok (place, entry))
    (hEnter : ∀ e ∈ t.foundBelow root place, enter e = .ok ()) :
    t.walkBelow root = .ok (t.foundBelow root place) := by
  have hAll := forM_eq_ok_iff.2 hEnter
  rw [foundBelow] at hAll
  rw [walkBelow, hIs, hLocate]
  show (do let _ ← List.forM _ enter; return _ : Except FileError _) = _
  rw [hAll]
  rfl

theorem walkBelow_of_not_isDirectory (h : t.isDirectory root = .ok false) :
    t.walkBelow root = .ok [] := by
  rw [walkBelow, h]
  rfl

/-- What a walk finds stands below a directory, if it is one that is walked. -/
theorem cases_walkBelow {found : List (Path × FileEntry)} (h : t.walkBelow root = .ok found) :
    (t.isDirectory root = .ok false ∧ found = []) ∨ ∃ place, t.isDirectory root = .ok true ∧
      t.locate root = .ok (place, some .directory) ∧ found = t.foundBelow root place := by
  cases hIs : t.isDirectory root with
  | error cause =>
    rw [walkBelow, hIs] at h
    cases h
  | ok here =>
    cases here with
    | false =>
      rw [walkBelow_of_not_isDirectory hIs] at h
      exact .inl ⟨rfl, (Except.ok.inj h).symm⟩
    | true =>
      obtain ⟨-, place, hLocate⟩ := isDirectory_iff.1 hIs
      refine .inr ⟨place, rfl, hLocate, ?_⟩
      rw [walkBelow, hIs, hLocate] at h
      change (do let _ ← List.forM (t.foundBelow root place) enter; return t.foundBelow root place :
        Except FileError _) = .ok found at h
      cases hEnter : List.forM (t.foundBelow root place) enter with
      | error cause =>
        rw [hEnter] at h
        cases h
      | ok _ =>
        rw [hEnter] at h
        exact (Except.ok.inj h).symm

/-- A walk finds things in the order of the texts of their paths. -/
theorem pairwise_walkBelow {found : List (Path × FileEntry)} (h : t.walkBelow root = .ok found) :
    found.Pairwise fun a b => a.1.text ≤ b.1.text := by
  obtain ⟨-, rfl⟩ | ⟨place, -, -, rfl⟩ := cases_walkBelow h
  · exact .nil
  · exact pairwise_foundBelow t root place

theorem key_of_mem_below {place parts : List String} {entry : FileEntry}
    (h : (parts, entry) ∈ t.below place) : place ++ parts ∈ t.entries.keys := by
  obtain ⟨⟨key, entry'⟩, hKey, hParts⟩ := List.mem_filterMap.1 h
  dsimp only at hParts
  split at hParts
  next part rest hPrefix =>
    obtain ⟨rfl, rfl⟩ := Prod.mk.inj (Option.some.inj hParts)
    rw [List.isPrefixOf?_eq_some_iff_append_eq.1 hPrefix]
    exact List.mem_map_of_mem hKey
  next => cases hParts

/-- What is found goes on from the path of the directory by names of files. -/
theorem exists_way_of_mem_walkBelow (hNamed : t.IsNamed) {found : List (Path × FileEntry)}
    (h : t.walkBelow root = .ok found) {e : Path × FileEntry} (hMem : e ∈ found) :
    ∃ way, e.1 = { root with parts := root.parts ++ way } ∧ hasNull root = false ∧
      ∀ name ∈ way, IsName name := by
  obtain ⟨-, rfl⟩ | ⟨place, hIs, -, rfl⟩ := cases_walkBelow h
  · cases hMem
  · obtain ⟨way, entry, hBelow, rfl⟩ := mem_foundBelow.1 hMem
    refine ⟨way, rfl, (isDirectory_iff.1 hIs).1, fun name hName => ?_⟩
    exact hNamed.keys _ (key_of_mem_below hBelow) name (List.mem_append_right place hName)

/-! ### Paths that are too long -/

/-- Whether a path cannot be followed because it is too long, or a name in it is. -/
structure IsTooLong (t : FileTree) (p : Path) : Prop where
  hasNull_eq : hasNull p = false
  locate_eq : t.locate p = .error .nameTooLong

/-- Whether a path cannot be gone through, since it is too long or something below it is. -/
inductive IsOverlong (t : FileTree) (root : Path) : Prop
  | itself (hLong : t.IsTooLong root)
  | below {place way : List String} {entry : FileEntry} (hIs : t.isDirectory root = .ok true)
      (hLocate : t.locate root = .ok (place, some .directory)) (hBelow : (way, entry) ∈ t.below place)
      (hLong : pathLimit ≤ (Path.text { root with parts := root.parts ++ way }).utf8ByteSize)

/-- A name alone that is longer than names may be is a path that is too long. -/
theorem isTooLong_of_name {name : String} (hNull : '\x00' ∉ name.toList)
    (hLong : nameLimit < name.utf8ByteSize) (start : PathStart) (t : FileTree) :
    t.IsTooLong ⟨start, [name]⟩ := by
  have hBack : name ≠ ".." := by
    rintro rfl
    exact absurd hLong (by decide)
  refine ⟨hasNull_eq_false (by simpa using hNull), ?_⟩
  rw [locate]
  split_ifs
  · rfl
  · rw [walk, if_neg (by simpa using hBack), if_pos hLong]

theorem exists_find? (h : ¬ t.IsTooLong p) : ∃ found?, t.find? p = .ok found? := by
  unfold find?
  split_ifs with hNull
  · exact ⟨none, rfl⟩
  · split
    next found? _ => exact ⟨found?, rfl⟩
    next hLocate => exact absurd ⟨Bool.not_eq_true _ ▸ hNull, hLocate⟩ h
    next => exact ⟨none, rfl⟩

theorem IsTooLong.isFile (h : t.IsTooLong p) :
    t.isFile p = .error (.refused .nameTooLong p.text) := by
  rw [FileTree.isFile, find?, h.hasNull_eq, h.locate_eq]
  rfl

theorem exists_isFile (h : ¬ t.IsTooLong p) : ∃ here, t.isFile p = .ok here := by
  obtain ⟨found?, hFind⟩ := exists_find? h
  rw [isFile, hFind]
  exact ⟨_, rfl⟩

theorem exists_isDirectory (h : ¬ t.IsTooLong p) : ∃ here, t.isDirectory p = .ok here := by
  obtain ⟨found?, hFind⟩ := exists_find? h
  rw [isDirectory, hFind]
  exact ⟨_, rfl⟩

/-! ### Scans -/

/-- The files among what a walk below a directory finds, not too far below. -/
def filesWithin (root : Path) (depth : Int) (found : List (Path × FileEntry)) : List Path :=
  found.filterMap fun (p, entry) =>
    match entry with
    | .file _ => if (p.parts.length - root.parts.length : Nat) ≤ depth then some p else none
    | .directory => none

theorem scan_of_isFile (h : t.isFile root = .ok true) (depth : Int) :
    t.scan root depth = .ok [root] := by
  rw [scan, h]
  rfl

theorem scan_of_not_isFile (h : t.isFile root = .ok false) {found : List (Path × FileEntry)}
    (hFound : t.walkBelow root = .ok found) (hShort : ∀ e ∈ found, checkLength e.1 = .ok ())
    (depth : Int) : t.scan root depth = .ok (filesWithin root depth found) := by
  have hAll := forM_eq_ok_iff.2 hShort
  rw [scan, h, hFound]
  show (do let _ ← List.forM found fun e => checkLength e.1; return _ : Except FileError _) = _
  rw [hAll]
  rfl

/-- The way from a path to a file that is found there: its bare name if the path leads to it, and
else the names below the directory. -/
inductive WayTo (t : FileTree) (root : Path) : Path → List String → Prop
  | itself (hFile : t.isFile root = .ok true) : WayTo t root root [root.name]
  | below (hFile : t.isFile root = .ok false) (way : List String) :
      WayTo t root { root with parts := root.parts ++ way } way

/-- The last part of a path that leads to a file is a name. -/
theorem Leads.exists_name {start parts place : List String} {content : Text.Bytes}
    (h : t.Leads start parts place (some (.file content))) :
    ∃ init name, parts = init ++ [name] ∧ name ≠ ".." := by
  generalize hEntry : some (FileEntry.file content) = found? at h
  induction h with
  | here place => cases hEntry
  | back hRest ih =>
    obtain ⟨init, name, rfl, hName⟩ := ih hEntry
    exact ⟨_ :: init, name, rfl, hName⟩
  | into hPart hDirectory hRest ih =>
    obtain ⟨init, name, rfl, hName⟩ := ih hEntry
    exact ⟨_ :: init, name, rfl, hName⟩
  | @last place part found? hPart hLast hNot => exact ⟨[], part, rfl, hPart.1⟩

theorem find?_eq_some_iff {entry : FileEntry} : t.find? p = .ok (some entry) ↔
    hasNull p = false ∧ ∃ place, t.locate p = .ok (place, some entry) := by
  unfold find?
  cases hNull : hasNull p with
  | true => simp
  | false =>
    simp only [Bool.false_eq_true, if_false, true_and]
    split <;> simp [*]

theorem isFile_iff : t.isFile p = .ok true ↔
    hasNull p = false ∧ ∃ place content, t.locate p = .ok (place, some (.file content)) := by
  have hFile : t.isFile p = .ok true ↔ ∃ content, t.find? p = .ok (some (.file content)) := by
    rw [isFile]
    cases t.find? p with
    | error e => simp [bind, Except.bind]
    | ok found? =>
      match found? with
      | none => simp [bind, Except.bind, pure, Except.pure]
      | some .directory => simp [bind, Except.bind, pure, Except.pure]
      | some (.file content) => simp [bind, Except.bind, pure, Except.pure]
  simp only [hFile, find?_eq_some_iff, exists_and_left]
  rw [exists_comm]

/-- The path of a file is that of its directory and its name. -/
theorem exists_name_of_isFile (h : t.isFile p = .ok true) :
    ∃ name, p.parts = p.parts.dropLast ++ [name] ∧ p.name = name ∧ IsName name := by
  obtain ⟨hNull, place, content, hLocate⟩ := isFile_iff.1 h
  obtain ⟨-, hLeads⟩ := locate_eq_ok_iff.1 hLocate
  obtain ⟨init, name, hParts, hBack⟩ := hLeads.exists_name
  refine ⟨name, by simp [hParts], by simp [Path.name, hParts], hBack, ?_⟩
  exact null_not_mem_of_hasNull hNull (by simp [hParts])

/-- A scan that ends has found the file that its path leads to, or looked at all that a walk
below the directory finds. -/
theorem cases_scan {depth : Int} {found : List Path} (h : t.scan root depth = .ok found) :
    (t.isFile root = .ok true ∧ found = [root]) ∨ ∃ entries, t.isFile root = .ok false ∧
      t.walkBelow root = .ok entries ∧ (∀ e ∈ entries, checkLength e.1 = .ok ()) ∧
      found = filesWithin root depth entries := by
  cases hFile : t.isFile root with
  | error cause =>
    rw [scan, hFile] at h
    cases h
  | ok here =>
    cases here with
    | true =>
      rw [scan_of_isFile hFile] at h
      exact .inl ⟨rfl, (Except.ok.inj h).symm⟩
    | false =>
      rw [scan, hFile] at h
      cases hEntries : t.walkBelow root with
      | error cause =>
        rw [hEntries] at h
        cases h
      | ok entries =>
        rw [hEntries] at h
        change (do let _ ← List.forM entries fun e => checkLength e.1
                   return filesWithin root depth entries : Except FileError _) = .ok found at h
        cases hShort : List.forM entries fun e => checkLength e.1 with
        | error cause =>
          rw [hShort] at h
          cases h
        | ok _ =>
          rw [hShort] at h
          exact .inr ⟨entries, rfl, rfl, forM_eq_ok_iff.1 hShort, (Except.ok.inj h).symm⟩

/-- A scan ends exactly if its path can be gone through. -/
theorem exists_scan_iff (depth : Int) :
    (∃ found, t.scan root depth = .ok found) ↔ ¬ t.IsOverlong root := by
  constructor
  · rintro ⟨found, hScan⟩ hLong
    rcases cases_scan hScan with ⟨hFile, -⟩ | ⟨entries, hFile, hEntries, hShort, -⟩
    · cases hLong with
      | itself hLong =>
        rw [hLong.isFile] at hFile
        cases hFile
      | below hIs hLocate =>
        obtain ⟨-, place, content, hLocate'⟩ := isFile_iff.1 hFile
        rw [hLocate] at hLocate'
        cases hLocate'
    · cases hLong with
      | itself hLong =>
        rw [hLong.isFile] at hFile
        cases hFile
      | below hIs hLocate hBelow hLong =>
        obtain ⟨hNot, -⟩ | ⟨place, -, hLocate', rfl⟩ := cases_walkBelow hEntries
        · rw [hIs] at hNot
          cases hNot
        · obtain ⟨rfl, -⟩ := Prod.mk.inj (Except.ok.inj (hLocate.symm.trans hLocate'))
          have hFound := hShort _ (mem_foundBelow.2 ⟨_, _, hBelow, rfl⟩)
          exact absurd (checkLength_eq_ok_iff.1 hFound) (Nat.not_lt.2 hLong)
  · intro hShort
    have hRoot : ¬ t.IsTooLong root := fun hLong => hShort (.itself hLong)
    obtain ⟨hereFile, hFile⟩ := exists_isFile hRoot
    obtain ⟨hereDirectory, hIs⟩ := exists_isDirectory hRoot
    match hereFile, hereDirectory with
    | true, _ => exact ⟨_, scan_of_isFile hFile depth⟩
    | false, false =>
      exact ⟨_, scan_of_not_isFile hFile (walkBelow_of_not_isDirectory hIs) (by simp) depth⟩
    | false, true =>
      obtain ⟨-, place, hLocate⟩ := isDirectory_iff.1 hIs
      have hBelow : ∀ e ∈ t.foundBelow root place, checkLength e.1 = .ok () := by
        intro e he
        obtain ⟨way, entry, hBelow, rfl⟩ := mem_foundBelow.1 he
        rw [checkLength_eq_ok_iff]
        exact Nat.not_le.1 fun hLong => hShort (.below hIs hLocate hBelow hLong)
      have hWalk := walkBelow_eq hIs hLocate fun e he => enter_of_checkLength (hBelow e he)
      exact ⟨_, scan_of_not_isFile hFile hWalk hBelow depth⟩

/-- There is a way to each file that a scan finds, which goes by names of files. -/
theorem exists_wayTo (hNamed : t.IsNamed) {depth : Int} {found : List Path}
    (h : t.scan root depth = .ok found) {p : Path} (hMem : p ∈ found) :
    ∃ way, t.WayTo root p way ∧ hasNull p = false ∧ ∀ name ∈ way, IsName name := by
  rcases cases_scan h with ⟨hFile, rfl⟩ | ⟨entries, hFile, hEntries, -, rfl⟩
  · obtain rfl := List.mem_singleton.1 hMem
    obtain ⟨name, -, hName, hIsName⟩ := exists_name_of_isFile hFile
    refine ⟨_, .itself hFile, (isFile_iff.1 hFile).1, ?_⟩
    simpa [hName] using hIsName
  · obtain ⟨e, he, hp⟩ := List.mem_filterMap.1 hMem
    obtain ⟨way, hPath, hNull, hWay⟩ := exists_way_of_mem_walkBelow hNamed hEntries he
    obtain rfl : e.1 = p := by
      dsimp only at hp
      split at hp
      · split_ifs at hp
        exact Option.some.inj hp
      · cases hp
    rw [hPath]
    refine ⟨way, .below hFile way, hasNull_eq_false fun part hPart => ?_, hWay⟩
    rcases List.mem_append.1 hPart with hRoot | hBelow
    · exact null_not_mem_of_hasNull hNull hRoot
    · exact (hWay part hBelow).null_not_mem

end FileTree

end DocSite
