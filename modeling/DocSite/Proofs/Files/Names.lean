import DocSite.Proofs.Files.Writing
import Mathlib.Logic.Basic

/-! Names of files. None is a double point, which leads back where it stands in a path, and none
holds a null character. Whatever path an operation is given, it puts files and directories only
at places that are made of such names. -/

namespace DocSite

/-- Whether a file can have a name. -/
structure IsName (name : String) : Prop where
  ne_back : name ≠ ".."
  null_not_mem : '\x00' ∉ name.toList

instance (name : String) : Decidable (IsName name) :=
  decidable_of_iff (name ≠ ".." ∧ '\x00' ∉ name.toList)
    ⟨fun h => ⟨h.1, h.2⟩, fun h => ⟨h.ne_back, h.null_not_mem⟩⟩

namespace SourcePath

theorem splitAt_of_not_mem {separator : Char} {cs : List Char} (h : separator ∉ cs) :
    splitAt separator cs = [cs] := by
  induction cs with
  | nil => rfl
  | cons c cs ih =>
    rw [List.mem_cons, not_or] at h
    simp [splitAt, ih h.2, Ne.symm h.1]

end SourcePath

namespace Path

/-- A name without slashes is a path of one part. -/
theorem ofString_of_not_mem {name : String} (h : '/' ∉ name.toList)
    (hPart : isPart name.toList = true) : ofString name = ⟨.here, [name]⟩ := by
  have hStart : (ofString name).start = .here := by
    unfold ofString
    dsimp only
    split <;> simp_all
  have hParts : (ofString name).parts = [name] := by
    simp [ofString, SourcePath.splitAt_of_not_mem h, hPart]
  cases hPath : ofString name with
  | mk start parts =>
    rw [hPath] at hStart hParts
    exact congrArg₂ Path.mk hStart hParts

end Path

namespace FileTree
variable {t t' : FileTree} {p : Path}

theorem null_not_mem_of_hasNull (h : hasNull p = false) {part : String} (hPart : part ∈ p.parts) :
    '\x00' ∉ part.toList := by
  simp only [hasNull, List.any_eq_false, List.contains_iff_mem] at h
  exact h part hPart

/-- A path has no null character if none of its parts has. -/
theorem hasNull_eq_false (h : ∀ part ∈ p.parts, '\x00' ∉ part.toList) : hasNull p = false := by
  simpa only [hasNull, List.any_eq_false, List.contains_iff_mem] using h

/-- Whether all names in a tree, and those of its current directory, are names of files. -/
structure IsNamed (t : FileTree) : Prop where
  keys : ∀ place ∈ t.entries.keys, ∀ name ∈ place, IsName name
  current : ∀ name ∈ t.current, IsName name

instance (t : FileTree) : Decidable t.IsNamed :=
  decidable_of_iff ((∀ place ∈ t.entries.keys, ∀ name ∈ place, IsName name) ∧
      ∀ name ∈ t.current, IsName name)
    ⟨fun h => ⟨h.1, h.2⟩, fun h => ⟨h.keys, h.current⟩⟩

/-- A tree stays one of names, and its current directory stays. -/
structure KeepsNames (t t' : FileTree) : Prop where
  current : t'.current = t.current
  isNamed : t.IsNamed → t'.IsNamed

instance : Std.Refl KeepsNames := ⟨fun _ => ⟨rfl, id⟩⟩

instance : IsTrans FileTree KeepsNames :=
  ⟨fun _ _ _ h h' => ⟨h'.current.trans h.current, fun hNamed => h'.isNamed (h.isNamed hNamed)⟩⟩

theorem keepsNames_put {place : List String} {entry : FileEntry}
    (h : t.IsNamed → ∀ name ∈ place, IsName name) :
    t.KeepsNames { t with entries := t.entries.put place entry } := by
  refine ⟨rfl, fun hNamed => ⟨fun other hOther => ?_, hNamed.current⟩⟩
  rw [Dict.keys_put] at hOther
  split_ifs at hOther
  · exact hNamed.keys other hOther
  · rcases List.mem_append.1 hOther with hOld | hNew
    · exact hNamed.keys other hOld
    · obtain rfl := List.mem_singleton.1 hNew
      exact h hNamed

/-- A double point is no part of the place that a path leads to. -/
theorem Leads.isName {start parts place : List String} {found? : Option FileEntry}
    (h : t.Leads start parts place found?) (hStart : ∀ name ∈ start, IsName name)
    (hParts : ∀ part ∈ parts, '\x00' ∉ part.toList) : ∀ name ∈ place, IsName name := by
  have hNext : ∀ {place : List String} {part : String}, (∀ name ∈ place, IsName name) →
      part ≠ ".." → '\x00' ∉ part.toList → ∀ name ∈ place ++ [part], IsName name := by
    intro place part hPlace hBack hNull name hMem
    rcases List.mem_append.1 hMem with hOld | hNew
    · exact hPlace name hOld
    · exact List.mem_singleton.1 hNew ▸ ⟨hBack, hNull⟩
  induction h with
  | here place => exact hStart
  | back hRest ih =>
    obtain ⟨-, hRestParts⟩ := List.forall_mem_cons.1 hParts
    exact ih (fun name hMem => hStart name ((List.dropLast_sublist _).subset hMem)) hRestParts
  | into hName hDirectory hRest ih =>
    obtain ⟨hPart, hRestParts⟩ := List.forall_mem_cons.1 hParts
    exact ih (hNext hStart hName.1 hPart) hRestParts
  | last hName hEntry hNot =>
    obtain ⟨hPart, -⟩ := List.forall_mem_cons.1 hParts
    exact hNext hStart hName.1 hPart

theorem isName_of_locate (hNamed : t.IsNamed) (hNull : hasNull p = false) {place : List String}
    {found? : Option FileEntry} (h : t.locate p = .ok (place, found?)) :
    ∀ name ∈ place, IsName name := by
  obtain ⟨-, hLeads⟩ := locate_eq_ok_iff.1 h
  refine hLeads.isName ?_ fun part => null_not_mem_of_hasNull hNull
  rw [startOf]
  split
  · simp
  · exact hNamed.current

end FileTree

namespace FileM

open FileTree (KeepsNames)

theorem keepsNames_makeDirectory (p : Path) : Keeps KeepsNames (makeDirectory p) := by
  intro t
  rw [run_makeDirectory]
  split_ifs with hNull
  · exact refl_of KeepsNames t
  · split
    · exact refl_of KeepsNames t
    · exact refl_of KeepsNames t
    next place hLocate =>
      split
      · exact refl_of KeepsNames t
      · exact FileTree.keepsNames_put fun hNamed =>
          FileTree.isName_of_locate hNamed (Bool.not_eq_true _ ▸ hNull) hLocate

theorem keepsNames_write (p : Path) (content : Text.Bytes) :
    Keeps KeepsNames (write p content) := by
  intro t
  rcases files_of_write p content t with hSame | ⟨place, content', hPlace, hPut⟩
  · rw [hSame]
    exact refl_of KeepsNames t
  · rw [hPut]
    obtain ⟨hNull, found?, hLocate, -⟩ := FileTree.writablePlace_eq_ok_iff.1 hPlace
    exact FileTree.keepsNames_put fun hNamed => FileTree.isName_of_locate hNamed hNull hLocate

/-- The file system may refuse a copy, which does not fail otherwise. -/
theorem refuses_copy {source target : Path} (hSource : FileTree.hasNull source = false)
    (hTarget : FileTree.hasNull target = false) : Refuses (copy source target) := by
  have hName : '\x00' ∉ source.name.toList := by
    rw [Path.name]
    cases hLast : source.parts.getLast? with
    | none => simp
    | some name =>
      exact FileTree.null_not_mem_of_hasNull hSource (List.mem_of_getLast? hLast)
  refine .bind .get fun t => ?_
  extract_lets into goal samePlace copies
  have hGoal : FileTree.hasNull goal = false := by
    unfold goal
    split
    · simp only [FileTree.hasNull, Path.parts_child, List.any_append, Bool.or_eq_false_iff]
      exact ⟨hTarget, by simpa using hName⟩
    · exact hTarget
  have hCopies : ∀ u, Refuses (copies u) := fun _ =>
    (refuses_reading fun _ _ => FileTree.isRefusal_of_read hSource).bind fun content =>
      refuses_write hGoal content
  split
  · exact .bind (.throw rfl) hCopies
  · exact hCopies ()

end FileM

end DocSite
