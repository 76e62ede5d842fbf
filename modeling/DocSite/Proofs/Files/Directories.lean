import DocSite.FileTree
import DocSite.Proofs.Files.Keeping
import Mathlib.Tactic.SplitIfs

/-! What operations on files do to directories. A file is put only where no directory stands, so
a path that leads to a directory leads to it from then on. Making directories puts them
where nothing was; it changes no file, and nothing at all if the directory is there. -/

namespace DocSite

open Text (Bytes)

namespace FileTree
variable {t t' t'' : FileTree} {p : Path}

/-- All directories of a tree are directories of another. -/
structure KeepsDirectories (t t' : FileTree) : Prop where
  current : t'.current = t.current
  directory : ∀ {place}, t.entryAt? place = some .directory → t'.entryAt? place = some .directory

/-- Two trees differ only in directories that were put where nothing was. -/
structure AddsDirectories (t t' : FileTree) : Prop where
  current : t'.current = t.current
  entry : ∀ place, t'.entryAt? place = t.entryAt? place ∨
    (t.entryAt? place = none ∧ t'.entryAt? place = some .directory)

instance : Std.Refl KeepsDirectories := ⟨fun _ => ⟨rfl, id⟩⟩

instance : IsTrans FileTree KeepsDirectories :=
  ⟨fun _ _ _ h h' => ⟨h'.current.trans h.current, fun hAt => h'.directory (h.directory hAt)⟩⟩

instance : Std.Refl AddsDirectories := ⟨fun _ => ⟨rfl, fun _ => .inl rfl⟩⟩

instance : IsTrans FileTree AddsDirectories where
  trans t t' t'' h h' := by
    refine ⟨h'.current.trans h.current, fun place => ?_⟩
    rcases h.entry place with hSame | ⟨hNone, hNew⟩
    · rcases h'.entry place with hSame' | ⟨hNone', hNew'⟩
      · exact .inl (hSame'.trans hSame)
      · exact .inr ⟨hSame ▸ hNone', hNew'⟩
    · rcases h'.entry place with hSame' | ⟨hNone', -⟩
      · exact .inr ⟨hNone, hSame'.trans hNew⟩
      · rw [hNew] at hNone'
        cases hNone'

theorem AddsDirectories.keepsDirectories (h : t.AddsDirectories t') : t.KeepsDirectories t' := by
  refine ⟨h.current, fun {place} hAt => ?_⟩
  rcases h.entry place with hSame | ⟨hNone, -⟩
  · rw [hSame, hAt]
  · rw [hAt] at hNone
    cases hNone

/-- The files are the same. -/
theorem AddsDirectories.file_iff (h : t.AddsDirectories t') {place : List String}
    {content : Bytes} :
    t'.entryAt? place = some (.file content) ↔ t.entryAt? place = some (.file content) := by
  rcases h.entry place with hSame | ⟨hNone, hNew⟩
  · rw [hSame]
  · rw [hNone, hNew]
    simp

/-! ### Places -/

/-- The way along the parts of a path, from a directory to a place and what stands there. Each
part goes back by one or into a directory, and only the last may lead to anything else. -/
inductive Leads (t : FileTree) :
    List String → List String → List String → Option FileEntry → Prop
  | here (place : List String) : Leads t place [] place (some .directory)
  | back {place rest goal : List String} {found? : Option FileEntry}
      (hRest : Leads t place.dropLast rest goal found?) : Leads t place (".." :: rest) goal found?
  | into {place rest goal : List String} {part : String} {found? : Option FileEntry}
      (hName : part ≠ ".." ∧ part.utf8ByteSize ≤ nameLimit)
      (hDirectory : t.entryAt? (place ++ [part]) = some .directory)
      (hRest : Leads t (place ++ [part]) rest goal found?) :
      Leads t place (part :: rest) goal found?
  | last {place : List String} {part : String} {found? : Option FileEntry}
      (hName : part ≠ ".." ∧ part.utf8ByteSize ≤ nameLimit)
      (hEntry : t.entryAt? (place ++ [part]) = found?) (hNot : found? ≠ some .directory) :
      Leads t place [part] (place ++ [part]) found?

theorem walk_back (place rest : List String) :
    t.walk place (".." :: rest) = t.walk place.dropLast rest := by
  rw [walk, if_pos (by decide)]

/-- The way on from a place that a part leads to. -/
def walkFrom (t : FileTree) (next rest : List String) :
    Except PathFault (List String × Option FileEntry) :=
  match t.entryAt? next with
  | some .directory => t.walk next rest
  | some (.file content) =>
    if rest.isEmpty then .ok (next, some (.file content)) else .error .notDirectory
  | none => if rest.isEmpty then .ok (next, none) else .error .notFound

theorem walk_cons {part : String} (hName : part ≠ ".." ∧ part.utf8ByteSize ≤ nameLimit)
    (place rest : List String) :
    t.walk place (part :: rest) = t.walkFrom (place ++ [part]) rest := by
  rw [walk, if_neg (by simpa using hName.1), if_neg (Nat.not_lt.2 hName.2)]
  rfl

theorem Leads.of_walk {place parts goal : List String} {found? : Option FileEntry}
    (h : t.walk place parts = .ok (goal, found?)) : t.Leads place parts goal found? := by
  induction parts generalizing place with
  | nil =>
    obtain ⟨rfl, rfl⟩ := Prod.mk.inj (Except.ok.inj h)
    exact .here place
  | cons part rest ih =>
    by_cases hBack : part = ".."
    · subst hBack
      rw [walk_back] at h
      exact .back (ih h)
    · by_cases hLong : nameLimit < part.utf8ByteSize
      · rw [walk, if_neg (by simpa using hBack), if_pos hLong] at h
        cases h
      · have hName := And.intro hBack (Nat.not_lt.1 hLong)
        rw [walk_cons hName, walkFrom] at h
        split at h
        next hDirectory => exact .into hName hDirectory (ih h)
        next hFile =>
          split_ifs at h with hRest
          obtain rfl := List.isEmpty_iff.1 hRest
          obtain ⟨rfl, rfl⟩ := Prod.mk.inj (Except.ok.inj h)
          exact .last hName hFile (by simp)
        next hNone =>
          split_ifs at h with hRest
          obtain rfl := List.isEmpty_iff.1 hRest
          obtain ⟨rfl, rfl⟩ := Prod.mk.inj (Except.ok.inj h)
          exact .last hName hNone (by simp)

theorem Leads.walk {place parts goal : List String} {found? : Option FileEntry}
    (h : t.Leads place parts goal found?) : t.walk place parts = .ok (goal, found?) := by
  induction h with
  | here place => rfl
  | back hRest ih => rw [walk_back, ih]
  | into hName hDirectory hRest ih => rw [walk_cons hName, walkFrom, hDirectory, ih]
  | @last place part found? hName hEntry hNot =>
    rw [walk_cons hName, walkFrom, hEntry]
    match found?, hNot with
    | none, _ => rfl
    | some (.file content), _ => rfl
    | some .directory, hNot => exact absurd rfl hNot

theorem walk_eq_ok_iff {place parts goal : List String} {found? : Option FileEntry} :
    t.walk place parts = .ok (goal, found?) ↔ t.Leads place parts goal found? :=
  ⟨Leads.of_walk, Leads.walk⟩

/-- A path that leads to a directory leads to it as long as there are directories on the way. -/
theorem Leads.of_keeps (hKeep : t.KeepsDirectories t') {place parts goal : List String}
    (h : t.Leads place parts goal (some .directory)) :
    t'.Leads place parts goal (some .directory) := by
  generalize hEntry : some FileEntry.directory = found? at h
  induction h with
  | here place => exact .here place
  | back hRest ih => exact .back (ih hEntry)
  | into hName hDirectory hRest ih => exact .into hName (hKeep.directory hDirectory) (ih hEntry)
  | last hName hLast hNot => exact absurd hEntry.symm hNot

/-- What a path leads to is what stands at the place, unless that is a directory. -/
theorem Leads.entryAt? {place parts goal : List String} {found? : Option FileEntry}
    (h : t.Leads place parts goal found?) (hNot : found? ≠ some .directory) :
    t.entryAt? goal = found? := by
  induction h with
  | here place => exact absurd rfl hNot
  | back hRest ih => exact ih hNot
  | into hName hDirectory hRest ih => exact ih hNot
  | last hName hEntry hLast => exact hEntry

/-- Where a path leads to no directory, what is put there is what it leads to then. -/
theorem Leads.of_put (hKeep : t.KeepsDirectories t') {place parts goal : List String}
    {found? : Option FileEntry} {entry : FileEntry} (h : t.Leads place parts goal found?)
    (hNot : found? ≠ some .directory) (hPut : t'.entryAt? goal = some entry) :
    t'.Leads place parts goal (some entry) := by
  induction h with
  | here place => exact absurd rfl hNot
  | back hRest ih => exact .back (ih hNot hPut)
  | into hName hDirectory hRest ih =>
    exact .into hName (hKeep.directory hDirectory) (ih hNot hPut)
  | @last place part found? hName hEntry hLast =>
    cases entry with
    | file content => exact .last hName hPut (by simp)
    | directory => exact .into hName hPut (.here _)

/-! ### Paths -/

theorem locate_eq_ok_iff {place : List String} {found? : Option FileEntry} :
    t.locate p = .ok (place, found?) ↔
      p.text.utf8ByteSize < pathLimit ∧ t.Leads (t.startOf p) p.parts place found? := by
  rw [locate, ← walk_eq_ok_iff]
  split_ifs with hLong
  · simp [Nat.not_lt.2 hLong]
  · simp [Nat.not_le.1 hLong]

theorem startOf_eq (h : t'.current = t.current) (p : Path) : t'.startOf p = t.startOf p := by
  rw [startOf, startOf, h]

theorem isDirectory_iff : t.isDirectory p = .ok true ↔
    hasNull p = false ∧ ∃ place, t.locate p = .ok (place, some .directory) := by
  unfold isDirectory find?
  cases hNull : hasNull p with
  | true => simp [bind, Except.bind, pure, Except.pure]
  | false =>
    simp only [Bool.false_eq_true, if_false, true_and]
    split
    next place found? hLocate =>
      rw [hLocate]
      match found? with
      | none => simp [bind, Except.bind, pure, Except.pure]
      | some (.file content) => simp [bind, Except.bind, pure, Except.pure]
      | some .directory => simp [bind, Except.bind, pure, Except.pure]
    next hLocate => simp [hLocate, bind, Except.bind]
    next hLocate => simp [hLocate, bind, Except.bind, pure, Except.pure]

/-- Looking for a directory fails only for a name that is too long. -/
theorem isRefusal_of_isDirectory {e : FileError} (hNull : hasNull p = false)
    (h : t.isDirectory p = .error e) : e.isRefusal = true := by
  unfold isDirectory find? at h
  rw [hNull, if_neg Bool.false_ne_true] at h
  split at h
  next place found? hLocate =>
    match found? with
    | none => cases h
    | some (.file content) => cases h
    | some .directory => cases h
  next =>
    rw [← Except.error.inj h]
    rfl
  next => cases h

/-- Reading fails with a refusal of the file system, unless the path is none. -/
theorem isRefusal_of_read {cause : FileError} (hNull : hasNull p = false)
    (h : t.read p = .error cause) : cause.isRefusal = true := by
  rw [FileTree.read, hNull, if_neg Bool.false_ne_true] at h
  split at h
  · rw [← Except.error.inj h]
    rfl
  · rw [← Except.error.inj h]
    rfl
  · rw [← Except.error.inj h]
    rfl
  · cases h

theorem KeepsDirectories.isDirectory (hKeep : t.KeepsDirectories t')
    (h : t.isDirectory p = .ok true) : t'.isDirectory p = .ok true := by
  obtain ⟨hNull, place, hLocate⟩ := isDirectory_iff.1 h
  obtain ⟨hShort, hLeads⟩ := locate_eq_ok_iff.1 hLocate
  refine isDirectory_iff.2 ⟨hNull, place, locate_eq_ok_iff.2 ⟨hShort, ?_⟩⟩
  rw [startOf_eq hKeep.current]
  exact hLeads.of_keeps hKeep

/-! ### Putting -/

theorem ne_nil_of_leads {start parts place : List String} {found? : Option FileEntry}
    (h : t.Leads start parts place found?) (hNot : found? ≠ some .directory) : place ≠ [] := by
  rintro rfl
  exact hNot (h.entryAt? hNot).symm

/-- The tree with a directory at a place. -/
def putDirectory (t : FileTree) (place : List String) : FileTree :=
  { t with entries := t.entries.put place .directory }

theorem entryAt?_putDirectory {place : List String} (h : place ≠ []) (other : List String) :
    (t.putDirectory place).entryAt? other =
      if place = other then some .directory else t.entryAt? other := by
  unfold FileTree.entryAt? putDirectory
  by_cases hOther : other = []
  · subst hOther
    simp [h]
  · simp [hOther, Dict.get?_put]

/-- A directory is put where a path leads to nothing. -/
theorem addsDirectories_putDirectory {place : List String} (h : t.locate p = .ok (place, none)) :
    t.AddsDirectories (t.putDirectory place) := by
  obtain ⟨-, hLeads⟩ := locate_eq_ok_iff.1 h
  refine ⟨rfl, fun other => ?_⟩
  rw [entryAt?_putDirectory (ne_nil_of_leads hLeads (by simp))]
  split_ifs with hOther
  · exact .inr ⟨hOther ▸ hLeads.entryAt? (by simp), rfl⟩
  · exact .inl rfl

theorem isDirectory_putDirectory {place : List String} (hNull : hasNull p = false)
    (h : t.locate p = .ok (place, none)) : (t.putDirectory place).isDirectory p = .ok true := by
  obtain ⟨hShort, hLeads⟩ := locate_eq_ok_iff.1 h
  refine isDirectory_iff.2 ⟨hNull, place, locate_eq_ok_iff.2 ⟨hShort, ?_⟩⟩
  refine hLeads.of_put (addsDirectories_putDirectory h).keepsDirectories (by simp) ?_
  rw [entryAt?_putDirectory (ne_nil_of_leads hLeads (by simp)), if_pos rfl]

end FileTree

/-! ### Making directories -/

namespace FileM

open FileTree (hasNull AddsDirectories)

variable {t t' : FileTree} {p : Path}

theorem run_reading {α : Type} (f : FileTree → Except FileError α) (t : FileTree) :
    (reading f).run.run t = (f t, t) := by
  rw [reading, run_get_bind]
  cases f t <;> rfl

theorem run_makeDirectory (p : Path) (t : FileTree) : (makeDirectory p).run.run t =
    if hasNull p then (.error .nullCharacter, t)
    else match t.locate p with
      | .error fault => (.error (.refused fault p.text), t)
      | .ok (_, some _) => (.error (.refused .fileExists p.text), t)
      | .ok (place, none) =>
        match t.device.refuses? t.entries place with
        | some fault => (.error (.denied fault p.text), t)
        | none => (.ok (), t.putDirectory place) := by
  unfold makeDirectory
  split_ifs with hNull
  · rfl
  · show (match t.locate p with | .error fault => _ | .ok (_, some _) => _ | .ok (place, none) => _ :
      FileM Unit).run.run t = _
    split
    · rfl
    · rfl
    next place hLocate => cases t.device.refuses? t.entries place <;> rfl

theorem run_ensureDirectory (p : Path) (t : FileTree) : (ensureDirectory p).run.run t =
    match (makeDirectory p).run.run t with
    | (.ok (), t') => (.ok (), t')
    | (.error e, t') =>
      if isNotFound e || !e.isRefusal then (.error e, t')
      else match t'.isDirectory p with
        | .ok true => (.ok (), t')
        | .ok false => (.error e, t')
        | .error e' => (.error e', t') := by
  rw [ensureDirectory, run_tryCatch]
  rcases (makeDirectory p).run.run t with ⟨e | _, t'⟩
  · dsimp only
    split_ifs
    · rfl
    · rw [run_bind, run_reading]
      cases t'.isDirectory p with
      | error e' => rfl
      | ok here => cases here <;> rfl
  · rfl

theorem run_makeDirectoriesFrom_cons (start : PathStart) (part : String) (parents : List String)
    (t : FileTree) : (makeDirectoriesFrom start (part :: parents)).run.run t =
      match (ensureDirectory ⟨start, (part :: parents).reverse⟩).run.run t with
      | (.ok (), t') => (.ok (), t')
      | (.error e, t') =>
        if isNotFound e then
          (do
            makeDirectoriesFrom start parents
            ensureDirectory ⟨start, (part :: parents).reverse⟩ : FileM Unit).run.run t'
        else (.error e, t') := by
  rw [makeDirectoriesFrom, run_tryCatch]
  rcases (ensureDirectory ⟨start, (part :: parents).reverse⟩).run.run t with ⟨e | _, t'⟩
  · dsimp only
    split_ifs <;> rfl
  · rfl

/-! #### What is kept -/

section Kept
variable {R : FileTree → FileTree → Prop} [Std.Refl R]

theorem keeps_reading {α : Type} (f : FileTree → Except FileError α) : Keeps R (reading f) := by
  intro t
  rw [run_reading]
  exact refl_of R t

variable [IsTrans FileTree R]

/-- What making a directory keeps, making one unless it is there keeps. -/
theorem keeps_ensureDirectory (hMake : ∀ p, Keeps R (makeDirectory p)) (p : Path) :
    Keeps R (ensureDirectory p) := by
  refine (hMake p).tryCatch fun e => ?_
  have hLook : Keeps R (do if ← reading (·.isDirectory p) then return else throw e : FileM Unit) := by
    refine (keeps_reading _).bind fun here => ?_
    split
    · exact .pure _
    · exact .throw e
  split
  · exact .bind (.throw e) fun _ => hLook
  · exact hLook

theorem keeps_makeDirectoriesFrom (hMake : ∀ p, Keeps R (makeDirectory p)) (start : PathStart)
    (parts : List String) : Keeps R (makeDirectoriesFrom start parts) := by
  induction parts with
  | nil => exact keeps_ensureDirectory hMake _
  | cons part parents ih =>
    refine (keeps_ensureDirectory hMake _).tryCatch fun e => ?_
    split
    · exact ih.bind fun _ => keeps_ensureDirectory hMake _
    · exact .throw e

end Kept

theorem keeps_makeDirectory (p : Path) : Keeps AddsDirectories (makeDirectory p) := by
  intro t
  rw [run_makeDirectory]
  split_ifs
  · exact refl_of AddsDirectories t
  · split
    · exact refl_of AddsDirectories t
    · exact refl_of AddsDirectories t
    next place hLocate =>
      split
      · exact refl_of AddsDirectories t
      · exact FileTree.addsDirectories_putDirectory hLocate

/-- Making directories changes no file. -/
theorem keeps_makeDirectories (p : Path) : Keeps AddsDirectories (makeDirectories p) :=
  keeps_makeDirectoriesFrom keeps_makeDirectory _ _

/-! #### How it ends -/

/-- Whether an operation fails only if the file system refuses it. -/
abbrev Refuses {α : Type} (x : FileM α) : Prop := Fails (fun e => e.isRefusal = true) x

theorem refuses_reading {α : Type} {f : FileTree → Except FileError α}
    (h : ∀ t e, f t = .error e → e.isRefusal = true) : Refuses (reading f) := by
  intro t e hError
  rw [run_reading] at hError
  exact h t e hError

theorem refuses_ensureDirectory (h : hasNull p = false) : Refuses (ensureDirectory p) := by
  have hMake : Refuses (makeDirectory p) := by
    intro t e hError
    rw [run_makeDirectory, h, if_neg Bool.false_ne_true] at hError
    split at hError
    · rw [← Except.error.inj hError]
      rfl
    · rw [← Except.error.inj hError]
      rfl
    · split at hError
      · rw [← Except.error.inj hError]
        rfl
      · cases hError
  have hLook : Refuses (reading (·.isDirectory p)) :=
    refuses_reading fun _ _ => FileTree.isRefusal_of_isDirectory h
  refine hMake.tryCatch fun e hRefusal => ?_
  split
  · exact .bind (.throw hRefusal) fun _ => .bind hLook fun here => by
      split
      · exact .pure _
      · exact .throw hRefusal
  · refine .bind hLook fun here => ?_
    split
    · exact .pure _
    · exact .throw hRefusal

theorem refuses_makeDirectories (h : hasNull p = false) : Refuses (makeDirectories p) := by
  have hFrom : ∀ parts, hasNull ⟨p.start, parts.reverse⟩ = false →
      Refuses (makeDirectoriesFrom p.start parts) := by
    intro parts hNull
    induction parts with
    | nil => exact refuses_ensureDirectory hNull
    | cons part parents ih =>
      have hParents : hasNull ⟨p.start, parents.reverse⟩ = false := by
        simp only [hasNull, List.reverse_cons, List.any_append, Bool.or_eq_false_iff] at hNull
        exact hNull.1
      refine (refuses_ensureDirectory hNull).tryCatch fun e hRefusal => ?_
      split
      · exact (ih hParents).bind fun _ => refuses_ensureDirectory hNull
      · exact .throw hRefusal
  exact hFrom p.parts.reverse (by rwa [List.reverse_reverse])

/-- A directory that was made is there. -/
theorem isDirectory_of_ensureDirectory (h : (ensureDirectory p).run.run t = (.ok (), t')) :
    t'.isDirectory p = .ok true := by
  rw [run_ensureDirectory] at h
  split at h
  next t₁ hMake =>
    obtain rfl : t₁ = t' := congrArg Prod.snd h
    rw [run_makeDirectory] at hMake
    split_ifs at hMake with hNull
    · cases hMake
    · split at hMake
      · cases hMake
      · cases hMake
      next place hLocate =>
        split at hMake
        · cases hMake
        · obtain rfl : t.putDirectory place = t₁ := congrArg Prod.snd hMake
          exact FileTree.isDirectory_putDirectory (Bool.not_eq_true _ ▸ hNull) hLocate
  next e t₁ hMake =>
    split_ifs at h
    · cases h
    · split at h
      next hThere =>
        obtain rfl : t₁ = t' := congrArg Prod.snd h
        exact hThere
      · cases h
      · cases h

theorem isDirectory_of_makeDirectories (h : (makeDirectories p).run.run t = (.ok (), t')) :
    t'.isDirectory p = .ok true := by
  have hParts : p = ⟨p.start, p.parts.reverse.reverse⟩ := by rw [List.reverse_reverse]
  rw [makeDirectories] at h
  rw [hParts]
  cases hReverse : p.parts.reverse with
  | nil =>
    rw [hReverse] at h
    exact isDirectory_of_ensureDirectory h
  | cons part parents =>
    rw [hReverse, run_makeDirectoriesFrom_cons] at h
    split at h
    next t₁ hEnsure =>
      obtain rfl : t₁ = t' := congrArg Prod.snd h
      exact isDirectory_of_ensureDirectory hEnsure
    next e t₁ hEnsure =>
      split_ifs at h
      · rw [run_bind] at h
        split at h
        next u t₂ hParents => exact isDirectory_of_ensureDirectory h
        next => cases h
      · cases h

/-- A directory that is there is not made again. -/
theorem run_makeDirectories_of_isDirectory (h : t.isDirectory p = .ok true) :
    (makeDirectories p).run.run t = (.ok (), t) := by
  have hEnsure : (ensureDirectory p).run.run t = (.ok (), t) := by
    obtain ⟨hNull, place, hLocate⟩ := FileTree.isDirectory_iff.1 h
    rw [run_ensureDirectory, run_makeDirectory, hNull, if_neg Bool.false_ne_true, hLocate]
    simp only [isNotFound, FileError.isRefusal, h]
    rfl
  have hParts : p = ⟨p.start, p.parts.reverse.reverse⟩ := by rw [List.reverse_reverse]
  rw [hParts] at hEnsure
  rw [makeDirectories]
  cases hReverse : p.parts.reverse with
  | nil =>
    rw [hReverse] at hEnsure
    exact hEnsure
  | cons part parents =>
    rw [hReverse] at hEnsure
    rw [run_makeDirectoriesFrom_cons, hEnsure]

end FileM

end DocSite
