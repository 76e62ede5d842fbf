import DocSite.FileTree.Text
import DocSite.Proofs.Files.Directories

/-! What writing a text to a file does. The file is opened first, which makes its directory and
leaves an empty file; only then is the codec looked up and the text put into bytes. The file
system may refuse the opening, and then no file has changed. It may also break off when the
file is open, and then the file has some of the bytes. The codecs are any. -/

namespace DocSite

open Text (Bytes Codecs)

namespace FileTree
variable {t : FileTree} {p : Path} {place : List String}

theorem writablePlace_eq_ok_iff : t.writablePlace p = .ok place ↔
    hasNull p = false ∧ ∃ found?, t.locate p = .ok (place, found?) ∧ found? ≠ some .directory := by
  unfold writablePlace
  cases hNull : hasNull p with
  | true => simp
  | false =>
    rw [if_neg Bool.false_ne_true]
    split
    next fault hLocate => simp [hLocate]
    next hLocate =>
      simp only [hLocate, Except.ok.injEq, Prod.mk.injEq]
      constructor
      · intro h
        cases h
      · rintro ⟨-, found?, ⟨-, rfl⟩, hNot⟩
        exact absurd rfl hNot
    next goal found? hNot hLocate =>
      simp only [hLocate, Except.ok.injEq, Prod.mk.injEq]
      constructor
      · rintro rfl
        exact ⟨trivial, found?, ⟨rfl, rfl⟩, fun hEntry => hNot hEntry⟩
      · rintro ⟨-, _, ⟨rfl, -⟩, -⟩
        rfl

/-- A file is put where no directory stands. -/
theorem keepsDirectories_putFile (h : t.writablePlace p = .ok place) (content : Bytes) :
    t.KeepsDirectories (t.putFile place content) := by
  obtain ⟨-, found?, hLocate, hNot⟩ := writablePlace_eq_ok_iff.1 h
  obtain ⟨-, hLeads⟩ := locate_eq_ok_iff.1 hLocate
  refine ⟨rfl, fun {other} hAt => ?_⟩
  rw [entryAt?_putFile _ (ne_nil_of_leads hLeads hNot), if_neg ?_, hAt]
  rintro rfl
  exact hNot ((hLeads.entryAt? hNot).symm.trans hAt)

/-- The path of a file that was put leads to it. -/
theorem locate_putFile (h : t.writablePlace p = .ok place) (content : Bytes) :
    (t.putFile place content).locate p = .ok (place, some (.file content)) := by
  obtain ⟨-, found?, hLocate, hNot⟩ := writablePlace_eq_ok_iff.1 h
  obtain ⟨hShort, hLeads⟩ := locate_eq_ok_iff.1 hLocate
  refine locate_eq_ok_iff.2 ⟨hShort, hLeads.of_put (keepsDirectories_putFile h content) hNot ?_⟩
  rw [entryAt?_putFile _ (ne_nil_of_leads hLeads hNot), if_pos rfl]

theorem read_putFile (h : t.writablePlace p = .ok place) (content : Bytes) :
    (t.putFile place content).read p = .ok content := by
  have hNull := (writablePlace_eq_ok_iff.1 h).1
  rw [FileTree.read, hNull, if_neg Bool.false_ne_true, locate_putFile h]

theorem putFile_putFile (t : FileTree) (place : List String) (content later : Bytes) :
    (t.putFile place content).putFile place later = t.putFile place later := by
  simp [putFile]

/-- A file that can be read is read as before, if only directories were made. -/
theorem AddsDirectories.read {t' : FileTree} (h : t.AddsDirectories t') {content : Bytes}
    (hRead : t.read p = .ok content) : t'.read p = .ok content := by
  unfold FileTree.read at hRead
  split_ifs at hRead with hNull
  split at hRead
  · cases hRead
  · cases hRead
  · cases hRead
  next place content' hLocate =>
    obtain rfl := Except.ok.inj hRead
    obtain ⟨hShort, hLeads⟩ := locate_eq_ok_iff.1 hLocate
    have hNot : some (FileEntry.file content') ≠ some .directory := by simp
    have hLocate' : t'.locate p = .ok (place, some (.file content')) := by
      refine locate_eq_ok_iff.2 ⟨hShort, ?_⟩
      rw [startOf_eq h.current]
      exact hLeads.of_put h.keepsDirectories hNot (h.file_iff.2 (hLeads.entryAt? hNot))
    rw [FileTree.read, if_neg hNull, hLocate']

/-- A place to write to is refused by the file system, unless the path is none. -/
theorem isRefusal_of_writablePlace {e : FileError} (hNull : hasNull p = false)
    (h : t.writablePlace p = .error e) : e.isRefusal = true := by
  rw [writablePlace, hNull, if_neg Bool.false_ne_true] at h
  split at h
  · rw [← Except.error.inj h]
    rfl
  · rw [← Except.error.inj h]
    rfl
  · cases h

theorem hasNull_parent (h : hasNull p = false) : hasNull p.parent = false := by
  simp only [hasNull, List.any_eq_false] at h ⊢
  exact fun part hPart => h part ((List.dropLast_sublist _).subset hPart)

end FileTree

namespace FileM

open FileTree (hasNull KeepsDirectories)

variable {t t' : FileTree} {p : Path}

theorem run_openFile (p : Path) (t : FileTree) : (openFile p).run.run t =
    match t.writablePlace p with
    | .error e => (.error e, t)
    | .ok place => match t.device.refuses? t.entries place with
      | some fault => (.error (.denied fault p.text), t)
      | none => (.ok place, t.putFile place []) := by
  rw [openFile, run_bind, run_reading]
  cases t.writablePlace p with
  | error e => rfl
  | ok place =>
    dsimp only
    rw [run_get_bind]
    cases t.device.refuses? t.entries place <;> rfl

theorem run_fill (place : List String) (content : Bytes) (t : FileTree) :
    (fill place content).run.run t = match t.device.breaksOff? t.entries place content with
      | some (taken, fault) => (.error (.brokenOff fault), t.putFile place (content.take taken))
      | none => (.ok (), t.putFile place content) := by
  rw [fill, run_get_bind]
  cases t.device.breaksOff? t.entries place content <;> rfl

/-- Writing a file puts one at the place that its path leads to, or nothing. -/
theorem files_of_write (p : Path) (content : Bytes) (t : FileTree) :
    ((write p content).run.run t).2 = t ∨ ∃ place content', t.writablePlace p = .ok place ∧
      ((write p content).run.run t).2 = t.putFile place content' := by
  rw [write, run_bind, run_openFile]
  cases hPlace : t.writablePlace p with
  | error e => exact .inl rfl
  | ok place =>
    dsimp only
    cases t.device.refuses? t.entries place with
    | some fault => exact .inl rfl
    | none =>
      dsimp only
      rw [run_fill]
      split
      · exact .inr ⟨place, _, rfl, FileTree.putFile_putFile t place _ _⟩
      · exact .inr ⟨place, _, rfl, FileTree.putFile_putFile t place _ _⟩

theorem keeps_write (p : Path) (content : Bytes) : Keeps KeepsDirectories (write p content) := by
  intro t
  rcases files_of_write p content t with hSame | ⟨place, content', hPlace, hPut⟩
  · rw [hSame]
    exact refl_of KeepsDirectories t
  · rw [hPut]
    exact FileTree.keepsDirectories_putFile hPlace content'

theorem refuses_openFile (h : hasNull p = false) : Refuses (openFile p) := by
  intro t e hError
  rw [run_openFile] at hError
  cases hPlace : t.writablePlace p with
  | error cause =>
    rw [hPlace] at hError
    exact Except.error.inj hError ▸ FileTree.isRefusal_of_writablePlace h hPlace
  | ok place =>
    rw [hPlace] at hError
    dsimp only at hError
    split at hError
    · rw [← Except.error.inj hError]
      rfl
    · cases hError

theorem refuses_fill (place : List String) (content : Bytes) : Refuses (fill place content) := by
  intro t e hError
  rw [run_fill] at hError
  split at hError
  · rw [← Except.error.inj hError]
    rfl
  · cases hError

theorem refuses_write (h : hasNull p = false) (content : Bytes) : Refuses (write p content) :=
  (refuses_openFile h).bind fun place => refuses_fill place content

/-- What writing a file keeps, copying one keeps. -/
theorem keeps_copy {R : FileTree → FileTree → Prop} [Std.Refl R] [IsTrans FileTree R]
    (hWrite : ∀ p content, Keeps R (write p content)) (source target : Path) :
    Keeps R (copy source target) := by
  refine Keeps.get.bind fun t => ?_
  extract_lets into goal samePlace copies
  have hCopies : ∀ u, Keeps R (copies u) := fun _ =>
    (keeps_reading _).bind fun content => hWrite goal content
  split
  · exact .bind (.throw _) hCopies
  · exact hCopies ()

end FileM

/-! ### Opening a file -/

namespace FileTree
variable {t : FileTree} {p : Path} {place : List String}

/-- The tree when the directory of a file has been made, as far as that goes. -/
def withParent (t : FileTree) (p : Path) : FileTree :=
  ((FileM.makeDirectories p.parent).run.run t).2

theorem addsDirectories_withParent (t : FileTree) (p : Path) :
    t.AddsDirectories (t.withParent p) := FileM.keeps_makeDirectories p.parent t

theorem withParent_of_isDirectory (h : t.isDirectory p.parent = .ok true) : t.withParent p = t := by
  rw [withParent, FileM.run_makeDirectories_of_isDirectory h]

/-- Putting a file into a directory that was made for it keeps directories. -/
theorem keepsDirectories_withParent (h : (t.withParent p).writablePlace p = .ok place)
    (content : Bytes) : t.KeepsDirectories ((t.withParent p).putFile place content) :=
  trans_of KeepsDirectories (addsDirectories_withParent t p).keepsDirectories
    (keepsDirectories_putFile h content)

end FileTree

namespace TextM

open FileTree (hasNull)

variable {t : FileTree} {codecs : Codecs} {encoding : String} {p : Path} {text : List Char}

theorem run_ofFileM {α : Type} (x : FileM α) (t : FileTree) :
    (ofFileM x).run.run t = ((x.run.run t).1.mapError .file, (x.run.run t).2) := rfl

/-- How opening a file ends. -/
inductive Opening (t : FileTree) (encoding : String) (p : Path) :
    Except TextError (List String) × FileTree → Prop
  | opened {place : List String} (hPlace : (t.withParent p).writablePlace p = .ok place)
      (hEncoding : FileTree.checkEncoding encoding = .ok ()) :
      Opening t encoding p (.ok place, (t.withParent p).putFile place [])
  | refused {e : TextError} (hRefusal : e.isRefusal = true) :
      Opening t encoding p (.error e, t.withParent p)
  | noPath {e : TextError} (hRefusal : e.isRefusal = false) (hNull : hasNull p = true) :
      Opening t encoding p (.error e, t.withParent p)
  | noEncoding {e : TextError} (hRefusal : e.isRefusal = false)
      (hEncoding : FileTree.checkEncoding encoding ≠ .ok ()) :
      Opening t encoding p (.error e, t.withParent p)

/-- An error of the file system is a refusal, unless the path is none. -/
theorem Opening.of_file {e : FileError} (hRefusal : hasNull p = false → e.isRefusal = true) :
    Opening t encoding p (.error (.file e), t.withParent p) := by
  cases hKind : e.isRefusal with
  | true => exact .refused hKind
  | false =>
    refine .noPath hKind (Bool.not_eq_false _ ▸ fun hNull => ?_)
    rw [hRefusal hNull] at hKind
    cases hKind

theorem opening (t : FileTree) (encoding : String) (p : Path) :
    Opening t encoding p ((openFile encoding p).run.run t) := by
  rw [openFile, run_bind, run_ofFileM]
  have hMade : ((FileM.makeDirectories p.parent).run.run t).2 = t.withParent p := rfl
  rcases hRun : (FileM.makeDirectories p.parent).run.run t with ⟨e | _, made⟩ <;>
    rw [hRun] at hMade <;> obtain rfl := hMade
  · refine .of_file fun hNull => ?_
    exact FileM.refuses_makeDirectories (FileTree.hasNull_parent hNull) t e (by rw [hRun])
  · show Opening t encoding p (ExceptT.run (do
      MonadExcept.ofExcept (FileTree.checkEncoding encoding)
      ofFileM (FileM.openFile p) : TextM (List String)) |>.run (t.withParent p))
    cases hEncoding : FileTree.checkEncoding encoding with
    | error e =>
      have hKind : e.isRefusal = false := by
        unfold FileTree.checkEncoding at hEncoding
        split_ifs at hEncoding
        rw [← Except.error.inj hEncoding]
        rfl
      exact .noEncoding hKind (by simp [hEncoding])
    | ok _ =>
      rw [run_bind]
      show Opening t encoding p ((ofFileM (FileM.openFile p)).run.run (t.withParent p))
      rw [run_ofFileM, FileM.run_openFile]
      cases hPlace : (t.withParent p).writablePlace p with
      | error e => exact .of_file fun hNull => FileTree.isRefusal_of_writablePlace hNull hPlace
      | ok place =>
        dsimp only
        cases (t.withParent p).device.refuses? (t.withParent p).entries place with
        | some fault => exact .refused (e := .file (.denied fault p.text)) rfl
        | none => exact .opened hPlace hEncoding

/-- Whether the file system refuses to open a file. -/
def Refused (t : FileTree) (encoding : String) (p : Path) : Prop :=
  ∃ e made, (openFile encoding p).run.run t = (.error e, made) ∧ e.isRefusal = true

/-! ### Writing a text -/

/-- The bytes of a text in the encoding of a name, if there is such an encoding and it has bytes
for the text. -/
def bytesIn? (codecs : Codecs) (encoding : String) (text : List Char) : Option Bytes :=
  (FileTree.checkEncoding encoding).toOption.bind fun _ =>
    (codecs encoding).toOption.bind fun codec => (codec.encode text).toOption

/-- How filling an open file ends: with the bytes of the text in it, or some of them, or none if
there are none. -/
inductive Filling (t : FileTree) (codecs : Codecs) (encoding : String) (place : List String)
    (text : List Char) : Except TextError Unit × FileTree → Prop
  | filled {bytes : Bytes} (hBytes : bytesIn? codecs encoding text = some bytes) :
      Filling t codecs encoding place text (.ok (), t.putFile place bytes)
  | brokenOff {bytes : Bytes} {taken : Nat} {fault : DeviceFault}
      (hBytes : bytesIn? codecs encoding text = some bytes)
      (hBreak : t.device.breaksOff? t.entries place bytes = some (taken, fault)) :
      Filling t codecs encoding place text
        (.error (.file (.brokenOff fault)), t.putFile place (bytes.take taken))
  | noBytes {e : TextError} (hRefusal : e.isRefusal = false)
      (hBytes : bytesIn? codecs encoding text = none) :
      Filling t codecs encoding place text (.error e, t)

theorem filling (hEncoding : FileTree.checkEncoding encoding = .ok ()) (codecs : Codecs)
    (place : List String) (text : List Char) (t : FileTree) :
    Filling t codecs encoding place text ((fill codecs encoding place text).run.run t) := by
  rw [fill, run_bind]
  cases hCodec : codecs encoding with
  | error message =>
    exact .noBytes (e := .noCodec message) rfl (by simp [bytesIn?, hCodec, Except.toOption])
  | ok codec =>
    show Filling t codecs encoding place text (ExceptT.run (do
      let bytes ← MonadExcept.ofExcept ((codec.encode text).mapError .codec)
      ofFileM (FileM.fill place bytes) : TextM Unit) |>.run t)
    rw [run_bind]
    cases hEncode : codec.encode text with
    | error cause =>
      exact .noBytes (e := .codec cause) rfl (by simp [bytesIn?, hCodec, hEncode, Except.toOption])
    | ok bytes =>
      have hBytes : bytesIn? codecs encoding text = some bytes := by
        simp [bytesIn?, hCodec, hEncode, hEncoding, Except.toOption]
      show Filling t codecs encoding place text ((ofFileM (FileM.fill place bytes)).run.run t)
      rw [run_ofFileM, FileM.run_fill]
      cases hBreak : t.device.breaksOff? t.entries place bytes with
      | none => exact .filled hBytes
      | some cut => exact .brokenOff hBytes hBreak

/-- How writing a text ends. -/
inductive Writing (t : FileTree) (codecs : Codecs) (encoding : String) (p : Path)
    (text : List Char) : Except TextError Unit × FileTree → Prop
  | written {place : List String} {bytes : Bytes}
      (hPlace : (t.withParent p).writablePlace p = .ok place)
      (hBytes : bytesIn? codecs encoding text = some bytes) (hNot : ¬ Refused t encoding p) :
      Writing t codecs encoding p text (.ok (), (t.withParent p).putFile place bytes)
  | refused {e : TextError} (hRefusal : e.isRefusal = true) (hRefused : Refused t encoding p) :
      Writing t codecs encoding p text (.error e, t.withParent p)
  | brokenOff {place : List String} {bytes : Bytes} {taken : Nat} {fault : DeviceFault}
      (hPlace : (t.withParent p).writablePlace p = .ok place)
      (hBytes : bytesIn? codecs encoding text = some bytes)
      (hBreak : (t.withParent p).device.breaksOff? ((t.withParent p).putFile place []).entries place
        bytes = some (taken, fault)) (hNot : ¬ Refused t encoding p) :
      Writing t codecs encoding p text
        (.error (.file (.brokenOff fault)), (t.withParent p).putFile place (bytes.take taken))
  | noPath {e : TextError} (hRefusal : e.isRefusal = false)
      (hCause : hasNull p = true ∨ FileTree.checkEncoding encoding ≠ .ok ())
      (hNot : ¬ Refused t encoding p) :
      Writing t codecs encoding p text (.error e, t.withParent p)
  | noBytes {e : TextError} {place : List String}
      (hPlace : (t.withParent p).writablePlace p = .ok place) (hRefusal : e.isRefusal = false)
      (hBytes : bytesIn? codecs encoding text = none) (hNot : ¬ Refused t encoding p) :
      Writing t codecs encoding p text (.error e, (t.withParent p).putFile place [])

theorem writing (t : FileTree) (codecs : Codecs) (encoding : String) (p : Path)
    (text : List Char) :
    Writing t codecs encoding p text ((write codecs encoding p text).run.run t) := by
  have hOpening := opening t encoding p
  rw [write, run_bind]
  have hNot : ∀ {e made}, (openFile encoding p).run.run t = (.error e, made) →
      e.isRefusal = false → ¬ Refused t encoding p := by
    rintro e made hRun hKind ⟨e', made', hRun', hKind'⟩
    obtain ⟨hError, -⟩ := Prod.mk.inj (hRun.symm.trans hRun')
    rw [← Except.error.inj hError, hKind] at hKind'
    cases hKind'
  rcases hRun : (openFile encoding p).run.run t with ⟨e | place, files⟩ <;> rw [hRun] at hOpening
  · cases hOpening with
    | refused hRefusal => exact .refused hRefusal ⟨e, _, hRun, hRefusal⟩
    | noPath hRefusal hNull => exact .noPath hRefusal (.inl hNull) (hNot hRun hRefusal)
    | noEncoding hRefusal hEncoding => exact .noPath hRefusal (.inr hEncoding) (hNot hRun hRefusal)
  · cases hOpening with
    | opened hPlace hEncoding =>
      have hOpened : ¬ Refused t encoding p := by
        rintro ⟨e, made', hRun', -⟩
        rw [hRun] at hRun'
        cases hRun'
      have hFilling := filling hEncoding codecs place text ((t.withParent p).putFile place [])
      dsimp only
      generalize (fill codecs encoding place text).run.run _ = ending at hFilling ⊢
      cases hFilling with
      | filled hBytes =>
        rw [FileTree.putFile_putFile]
        exact .written hPlace hBytes hOpened
      | brokenOff hBytes hBreak =>
        rw [FileTree.putFile_putFile]
        exact .brokenOff hPlace hBytes hBreak hOpened
      | noBytes hRefusal hBytes => exact .noBytes hPlace hRefusal hBytes hOpened

end TextM

end DocSite
