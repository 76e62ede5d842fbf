import DocSite.Proofs.Build.Overwrites
import DocSite.Proofs.Build.Regular

/-! What a write that fails means for a build. A write that the file system refuses is noted and
changes no file; where it does not even make a directory, the rest of the build goes on as if
the page had been left out, since no step heeds the failures before it. That is so for all
pages but the table of contents, which is made last and in a directory of its own. A write that
the device breaks off is noted too, but it leaves a part of the text. A text without bytes in the
encoding of the site is no such failure: it ends the build. -/

namespace DocSite

open FileTree (hasNull)
open Text (Bytes)

namespace Build

/-- Two builds are the same but for one failure that only the second has noted. -/
def NotesBesides (failure : BuildFailure) (b b' : Build) : Prop :=
  ∃ earlier later, b.failures = earlier ++ later ∧
    b' = { b with failures := earlier ++ failure :: later }

/-- The device has broken off a write to a file that was opened: some of the bytes are in it, and
the failure is noted. -/
def CutsShort (b b' : Build) : Prop :=
  ∃ path place bytes taken fault, b.files.writablePlace path = .ok place ∧
    b.files.device.breaksOff? (b.files.putFile place []).entries place bytes =
      some (taken, fault) ∧
    b' = { b with
      files := b.files.putFile place (bytes.take taken)
      failures := b.failures ++ [⟨.write, path.text, (FileError.brokenOff fault).message⟩] }

end Build

/-! ### One write -/

namespace BuildM
variable {b b' : Build} {path : Path} {text : String}

/-- The bytes of a text in the encoding of the site, if it has any. -/
def bytesOf? (b : Build) (text : String) : Option Bytes :=
  TextM.bytesIn? b.tools.codecs b.config.encoding text.toList

/-- How writing a file ends: it is written; or it is refused, which is noted while no file
changes; or the device breaks off, which is noted while the file has some of the bytes; or it
ends the step, with the file left empty if the path is one and the encoding is not, and with all
files as they were otherwise. -/
inductive WriteOutcome (b : Build) (path : Path) (text : String) :
    Except BuildError Bool × Build → Prop
  | written {files : FileTree} {bytes : Bytes} (hNull : hasNull path = false)
      (hBytes : bytesOf? b text = some bytes) (hRead : files.read path = .ok bytes) :
      WriteOutcome b path text (.ok true, { b with files, written := b.written ++ [path] })
  | refused {files : FileTree} {message : String}
      (hRefused : TextM.Refused b.files b.config.encoding path)
      (hMade : b.files.AddsDirectories files)
      (hKept : ∀ p content, b.files.read p = .ok content → files.read p = .ok content) :
      WriteOutcome b path text (.ok false,
        { b with files, failures := b.failures ++ [⟨.write, path.text, message⟩] })
  | brokenOff {made : FileTree} {b' : Build} {bytes : Bytes} {taken : ℕ}
      (hNot : ¬ TextM.Refused b.files b.config.encoding path) (hNull : hasNull path = false)
      (hBytes : bytesOf? b text = some bytes) (hMade : b.files.AddsDirectories made)
      (hCut : Build.CutsShort { b with files := made } b')
      (hRead : b'.files.read path = .ok (bytes.take taken)) :
      WriteOutcome b path text (.ok false, b')
  | noPath {e : TextError} {files : FileTree}
      (hNot : ¬ TextM.Refused b.files b.config.encoding path)
      (hMade : b.files.AddsDirectories files)
      (hCause : hasNull path = true ∨ FileTree.checkEncoding b.config.encoding ≠ .ok ()) :
      WriteOutcome b path text (.error (.text e), { b with files })
  | noBytes {e : TextError} {files : FileTree}
      (hNot : ¬ TextM.Refused b.files b.config.encoding path) (hBytes : bytesOf? b text = none)
      (hRead : files.read path = .ok []) :
      WriteOutcome b path text (.error (.text e), { b with files })

theorem run_write (path : Path) (text : String) (b : Build) : (write path text).run.run b =
    match (TextM.write b.tools.codecs b.config.encoding path text.toList).run.run b.files with
    | (.ok (), files) => (.ok true, { b with files, written := b.written ++ [path] })
    | (.error e, files) =>
      if e.isRefusal then (.ok false,
        { b with files, failures := b.failures ++ [⟨.write, path.text, e.message⟩] })
      else (.error (.text e), { b with files }) := by
  rw [write, run_get_bind, run_bind, run_onFiles]
  rcases (TextM.write b.tools.codecs b.config.encoding path text.toList).run.run b.files with
    ⟨e | _, files⟩
  · dsimp only
    cases e.isRefusal <;> rfl
  · rfl

theorem writeOutcome (b : Build) (path : Path) (text : String) :
    WriteOutcome b path text ((write path text).run.run b) := by
  have hMade := FileTree.addsDirectories_withParent b.files path
  have hWriting := TextM.writing b.files b.tools.codecs b.config.encoding path text.toList
  rw [run_write]
  generalize (TextM.write b.tools.codecs b.config.encoding path text.toList).run.run b.files =
    ending at hWriting
  cases hWriting with
  | written hPlace hBytes =>
    exact .written (FileTree.writablePlace_eq_ok_iff.1 hPlace).1 hBytes
      (FileTree.read_putFile hPlace _)
  | refused hRefusal hRefused =>
    dsimp only
    rw [if_pos hRefusal]
    exact .refused hRefused hMade fun p content hRead => hMade.read hRead
  | brokenOff hPlace hBytes hBreak hNot =>
    exact .brokenOff hNot (FileTree.writablePlace_eq_ok_iff.1 hPlace).1 hBytes hMade
      ⟨path, _, _, _, _, hPlace, hBreak, rfl⟩ (FileTree.read_putFile hPlace _)
  | noPath hRefusal hCause hNot =>
    dsimp only
    rw [hRefusal]
    exact .noPath hNot hMade hCause
  | noBytes hPlace hRefusal hBytes hNot =>
    dsimp only
    rw [hRefusal]
    exact .noBytes hNot hBytes (FileTree.read_putFile hPlace _)

/-- Writing a file ends with an answer exactly if it is refused, or the path is one and the text has
bytes in the encoding. -/
theorem write_answers_iff (b : Build) (path : Path) (text : String) :
    (∃ done, ((write path text).run.run b).1 = .ok done) ↔
      TextM.Refused b.files b.config.encoding path ∨
        (hasNull path = false ∧ (bytesOf? b text).isSome) := by
  have hOutcome := writeOutcome b path text
  generalize (write path text).run.run b = ending at hOutcome ⊢
  cases hOutcome with
  | written hNull hBytes hRead => exact iff_of_true ⟨true, rfl⟩ (.inr ⟨hNull, by rw [hBytes]; rfl⟩)
  | refused hRefused => exact iff_of_true ⟨false, rfl⟩ (.inl hRefused)
  | brokenOff hNot hNull hBytes =>
    exact iff_of_true ⟨false, rfl⟩ (.inr ⟨hNull, by rw [hBytes]; rfl⟩)
  | noPath hNot hMade hCause =>
    refine iff_of_false (by simp) ?_
    rintro (hRefused | ⟨hNull, hBytes⟩)
    · exact hNot hRefused
    · rcases hCause with hCause | hCause
      · rw [hNull] at hCause
        cases hCause
      · cases hCheck : FileTree.checkEncoding b.config.encoding with
        | ok _ => exact hCause hCheck
        | error e => simp [bytesOf?, TextM.bytesIn?, hCheck, Except.toOption] at hBytes
  | noBytes hNot hBytes hRead =>
    refine iff_of_false (by simp) ?_
    rintro (hRefused | ⟨-, hSome⟩)
    · exact hNot hRefused
    · simp [hBytes] at hSome

/-- A write that is noted as a failure makes directories at most, or is cut short after that. -/
theorem Runs.cases_of_write {done : Bool} (h : Runs (BuildM.write path text) b done b') :
    b'.failures = b.failures ∨
      (∃ failure, b' = { b with files := b.files.withParent path,
                                failures := b.failures ++ [failure] }) ∨
      Build.CutsShort { b with files := b.files.withParent path } b' := by
  have hWriting := TextM.writing b.files b.tools.codecs b.config.encoding path text.toList
  rw [Runs, run_write] at h
  generalize (TextM.write b.tools.codecs b.config.encoding path text.toList).run.run b.files =
    ending at hWriting h
  cases hWriting with
  | written hPlace => exact .inl (congrArg (fun r => r.2.failures) h).symm
  | refused hRefusal =>
    dsimp only at h
    rw [if_pos hRefusal] at h
    exact .inr (.inl ⟨_, (congrArg Prod.snd h).symm⟩)
  | brokenOff hPlace hBytes hBreak =>
    exact .inr (.inr ⟨path, _, _, _, _, hPlace, hBreak, (congrArg Prod.snd h).symm⟩)
  | noPath hRefusal =>
    dsimp only at h
    rw [hRefusal] at h
    cases congrArg Prod.fst h
  | noBytes hPlace hRefusal =>
    dsimp only at h
    rw [hRefusal] at h
    cases congrArg Prod.fst h

/-! ### Steps -/

/-- A step that comes to its end leaves the failures as they are, or notes one and changes
nothing else unless a write is cut short. -/
def Settles (x : BuildM Unit) (b : Build) : Prop :=
  ∀ b', Runs x b () b' → b'.failures = b.failures ∨
    (∃ failure, b' = { b with failures := b.failures ++ [failure] }) ∨ b.CutsShort b'

theorem settles_pure (b : Build) : Settles (pure ()) b := by
  intro b' h
  rw [(runs_pure_iff.1 h).2]
  exact .inl rfl

theorem settles_throw (e : BuildError) : Settles (throw e) b := fun _ hRun =>
  absurd hRun not_runs_throw

theorem settles_get_bind {f : Build → BuildM Unit} (h : Settles (f b) b) :
    Settles (get >>= f) b := fun b' hRun => h b' (runs_get_bind_iff.1 hRun)

/-- Whether a page is written to a file of the directory of the site, which is there. -/
def IsHoused (b : Build) (url : String) : Prop :=
  b.files.isDirectory b.destination = .ok true ∧ ∃ name, b.outputPath url = b.destination.child name

theorem settles_generate {view url : String} {data : Datum} {resolves : Bool}
    (h : IsHoused b url) : Settles (generate view data url resolves) b := by
  intro b' hRun
  obtain ⟨text, done, hWrite⟩ := hRun.exists_write
  have hParent : b.files.isDirectory (b.outputPath url).parent = .ok true := by
    obtain ⟨hDirectory, name, hPath⟩ := h
    rw [hPath, Path.parent_child]
    exact hDirectory
  have hCases := hWrite.cases_of_write
  rwa [FileTree.withParent_of_isDirectory hParent] at hCases

theorem settles_sourcePage {path shown : String}
    (h : ∀ url, b.registry.urlFor shown = some url → IsHoused b url) :
    Settles (sourcePage path shown) b := by
  refine settles_get_bind ?_
  split
  next url hUrl =>
    dsimp only
    split
    · exact settles_generate (h url hUrl)
    · split
      · exact fun b' hRun => .inr (.inl ⟨_, hRun.noted⟩)
      · exact fun b' hRun => .inr (.inl ⟨_, hRun.noted⟩)
  next => exact settles_throw _

theorem settles_globalsPage (h : IsHoused b LinkRegistry.globalUrl) : Settles globalsPage b := by
  refine settles_get_bind ?_
  split
  · exact settles_pure b
  · exact settles_generate h

theorem settles_indexPage (readme : Option String) (h : IsHoused b LinkRegistry.indexUrl) :
    Settles (indexPage readme) b := settles_get_bind (settles_generate h)

theorem settles_symbolPage {longname : String}
    (h : ∀ url, b.registry.urlFor longname = some url → IsHoused b url) :
    Settles (symbolPage longname) b := by
  refine settles_get_bind ?_
  split
  · exact settles_pure b
  · split
    · exact settles_pure b
    · dsimp only
      split
      next url hUrl => exact settles_generate (h url hUrl)
      next => exact settles_throw _

theorem settles_tutorialPage {tree : TutorialTree} {i : Nat} {t : Tutorial}
    (h : ∀ url, b.registry.tutorialUrl t.name = some url → IsHoused b url) :
    Settles (tutorialPage tree i t) b := by
  refine settles_get_bind ?_
  split
  next url hUrl => exact settles_generate (h url hUrl)
  next => exact settles_throw _

/-! ### The steps of a site -/

/-- The page of a recorded source file, if it is shown. -/
def shownSourcePage : String × Option String → BuildM Unit
  | (_, none) | (_, some "") => pure ()
  | (path, some shown) => sourcePage path shown

/-- The page of the tutorial with a number, if there is one. -/
def numberedTutorialPage (tree : TutorialTree) (i : Nat) : BuildM Unit :=
  match tree.tutorial? i with
  | some t => tutorialPage tree i t
  | none => pure ()

/-- The steps that make the pages of a build besides the table of contents. -/
def pageSteps (b : Build) (tree : TutorialTree) (readme : Option String) : List (BuildM Unit) :=
  (if b.config.writesSources then b.index.shortPaths.map shownSourcePage else []) ++
    [globalsPage, indexPage readme] ++ b.index.outputLongnames.map symbolPage ++
    tree.flatten.map (numberedTutorialPage tree)

/-- The build of a site with given steps for its pages. -/
def siteOf (steps : List (BuildM Unit)) : BuildM Unit := do
  makeDestination
  steps.forM id
  tocFile
  staticFiles

theorem pageSteps_eq (h : b.SameBasis b') (tree : TutorialTree) (readme : Option String) :
    pageSteps b' tree readme = pageSteps b tree readme := by
  rw [pageSteps, pageSteps, h.config, h.index]

/-- What holds of the pages of each kind holds of all steps, some of which may do nothing. -/
theorem forall_mem_pageSteps {tree : TutorialTree} {readme : Option String}
    {P : BuildM Unit → Prop} (hNone : P (pure ()))
    (hSource : ∀ path shown, P (sourcePage path shown)) (hGlobals : P globalsPage)
    (hIndex : P (indexPage readme)) (hSymbol : ∀ longname, P (symbolPage longname))
    (hTutorial : ∀ i t, P (tutorialPage tree i t)) : ∀ step ∈ pageSteps b tree readme, P step := by
  intro step hStep
  simp only [pageSteps, List.mem_append, List.mem_map, List.mem_cons, List.not_mem_nil,
    or_false] at hStep
  rcases hStep with ((hMem | rfl | rfl) | ⟨longname, -, rfl⟩) | ⟨i, -, rfl⟩
  · split at hMem
    · obtain ⟨⟨path, shown?⟩, -, rfl⟩ := List.mem_map.1 hMem
      unfold shownSourcePage
      split
      · exact hNone
      · exact hNone
      · exact hSource _ _
    · cases hMem
  · exact hGlobals
  · exact hIndex
  · exact hSymbol longname
  · unfold numberedTutorialPage
    split
    · exact hTutorial i _
    · exact hNone

theorem forM_map_id {α : Type} (f : α → BuildM Unit) (as : List α) :
    (as.map f).forM id = as.forM f := by
  induction as with
  | nil => rfl
  | cons a as ih => exact congrArg (f a >>= ·) (funext fun _ => ih)

theorem run_bind_congr {α β : Type} {x y : BuildM α} {f g : α → BuildM β} (hRegular : Regular x)
    (hFirst : x.run.run b = y.run.run b)
    (hNext : ∀ a b', b.GoesOn b' → (f a).run.run b' = (g a).run.run b') :
    (x >>= f).run.run b = (y >>= g).run.run b := by
  have hOn := hRegular.keeps b
  rw [run_bind, run_bind, ← hFirst]
  generalize x.run.run b = ending at hOn ⊢
  obtain ⟨e | a, b'⟩ := ending
  · rfl
  · exact hNext a b' hOn

/-- A build goes through these steps. -/
theorem run_wholeSite (tree : TutorialTree) (readme : Option String) (b : Build) :
    (wholeSite tree readme).run.run b = (siteOf (pageSteps b tree readme)).run.run b := by
  unfold wholeSite siteOf
  refine run_bind_congr regular_makeDestination rfl fun _ b₁ h₁ => ?_
  rw [← pageSteps_eq h₁.basis]
  simp only [pageSteps, List.forM_eq_forM, List.forM_append, List.forM_cons, List.forM_nil,
    bind_assoc, pure_bind]
  simp only [← List.forM_eq_forM, forM_map_id, id]
  have hSources : sourcePages.run.run b₁ = ((if b₁.config.writesSources then
      b₁.index.shortPaths.map shownSourcePage else []).forM id).run.run b₁ := by
    rw [sourcePages, run_get_bind]
    cases b₁.config.writesSources with
    | false => rfl
    | true =>
      rw [Bool.not_true, if_neg Bool.false_ne_true, if_pos rfl, forM_map_id]
      congr 3
      funext entry
      rcases entry with ⟨path, _ | shown⟩
      · rfl
      · by_cases hEmpty : shown = ""
        · subst hEmpty
          rfl
        · simp [shownSourcePage]
  refine run_bind_congr regular_sourcePages hSources fun _ b₂ h₂ => ?_
  refine run_bind_congr regular_globalsPage rfl fun _ b₃ h₃ => ?_
  refine run_bind_congr (regular_indexPage readme) rfl fun _ b₄ h₄ => ?_
  have hIndex : b₄.index = b₁.index := ((h₂.basis.trans h₃.basis).trans h₄.basis).index
  have hSymbols : symbolPages.run.run b₄ =
      (b₁.index.outputLongnames.forM symbolPage).run.run b₄ := by
    rw [symbolPages, run_get_bind, hIndex]
  exact run_bind_congr regular_symbolPages hSymbols fun _ b₅ _ => rfl

/-- After a failure a step goes as it does without it. -/
theorem Regular.notesBesides {α : Type} {x : BuildM α} (h : Regular x) (b : Build)
    (failure : BuildFailure) :
    (x.run.run { b with failures := b.failures ++ [failure] }).1 = (x.run.run b).1 ∧
      Build.NotesBesides failure (x.run.run b).2
        (x.run.run { b with failures := b.failures ++ [failure] }).2 := by
  -- both runs are those of the build without failures, with different failures before it
  have hBefore : b = Build.afterFailures b.failures { b with failures := [] } := by
    simp [Build.afterFailures]
  have hAfter : { b with failures := b.failures ++ [failure] } =
      Build.afterFailures (b.failures ++ [failure]) { b with failures := [] } := by
    simp [Build.afterFailures]
  have hRun := h.commutes b.failures { b with failures := [] }
  have hRun' := h.commutes (b.failures ++ [failure]) { b with failures := [] }
  rw [← hBefore] at hRun
  rw [← hAfter] at hRun'
  rw [hRun, hRun']
  refine ⟨rfl, b.failures, _, rfl, ?_⟩
  simp [Build.afterFailures]

theorem isDirectory_of_makeDestination (h : Runs makeDestination b () b') :
    b'.files.isDirectory b'.destination = .ok true := by
  rw [makeDestination, runs_get_bind_iff] at h
  obtain ⟨result, b₁, hFiles, hRest⟩ := runs_bind_iff.1 h
  cases result with
  | error e => exact absurd hRest not_runs_throw
  | ok _ =>
    obtain ⟨-, rfl⟩ := runs_pure_iff.1 hRest
    rw [Runs, run_onFiles] at hFiles
    obtain ⟨hResult, rfl⟩ := Prod.mk.inj hFiles
    exact FileM.isDirectory_of_makeDirectories
      (Prod.ext (Except.ok.inj hResult) rfl)

/-- Every page but the table of contents is in the directory of the site. -/
theorem isHoused_of_url? {needsFile : List String} {page : SitePage} {url : String}
    (hApart : b.registry.PagesApart (LinkRegistry.Owns needsFile))
    (hDirectory : b.files.isDirectory b.destination = .ok true) (hToc : page ≠ .toc)
    (hUrl : page.url? b.registry = some url) : IsHoused b url := by
  obtain ⟨base, hSafe, hPage⟩ := SitePage.exists_base hApart hToc (by rw [hUrl]; rfl)
  rw [SitePage.page?, hUrl, Option.map_some] at hPage
  exact ⟨hDirectory, _, b.outputPath_of_page (Option.some.inj hPage) hSafe⟩

/-- In the directory of a site, the step of a page that fails changes nothing else unless its
write is cut short. -/
theorem settles_of_mem {needsFile : List String} {tree : TutorialTree} {readme : Option String}
    (hApart : b.registry.PagesApart (LinkRegistry.Owns needsFile))
    (hDirectory : b.files.isDirectory b.destination = .ok true) {step : BuildM Unit}
    (h : step ∈ pageSteps b tree readme) : Settles step b := by
  have hHoused : ∀ page : SitePage, page ≠ .toc → ∀ url, page.url? b.registry = some url →
      IsHoused b url := fun page hToc url hUrl => isHoused_of_url? hApart hDirectory hToc hUrl
  refine forall_mem_pageSteps (P := (Settles · b)) (settles_pure b) ?source ?globals ?index
    ?symbol ?tutorial step h
  case source => exact fun path shown => settles_sourcePage (hHoused (.source shown) (by simp))
  case globals => exact settles_globalsPage (hHoused .globals (by simp) _ rfl)
  case index => exact settles_indexPage readme (hHoused .index (by simp) _ rfl)
  case symbol => exact fun longname => settles_symbolPage (hHoused (.symbol longname) (by simp))
  case tutorial => exact fun i t => settles_tutorialPage (hHoused (.tutorial t.name) (by simp))

theorem regular_of_mem {tree : TutorialTree} {readme : Option String} {step : BuildM Unit}
    (h : step ∈ pageSteps b tree readme) : Regular step :=
  forall_mem_pageSteps (regular_pure ()) regular_sourcePage regular_globalsPage
    (regular_indexPage readme) regular_symbolPage (regular_tutorialPage tree) step h

/-! ### Leaving a page out -/

/-- The rest of the build of a site, after some of the steps for its pages. -/
def restOf (steps : List (BuildM Unit)) : BuildM Unit := do
  steps.forM id
  tocFile
  staticFiles

theorem regular_steps {steps : List (BuildM Unit)} (h : ∀ step ∈ steps, Regular step) :
    Regular (steps.forM id) := by
  induction steps with
  | nil => exact regular_pure _
  | cons step steps ih =>
    exact (h step List.mem_cons_self).bind fun _ =>
      ih fun other hMem => h other (List.mem_cons_of_mem _ hMem)

theorem Regular.goesOn {α : Type} {x : BuildM α} {a : α} (h : Regular x) (hRun : Runs x b a b') :
    b.GoesOn b' := by
  have hKeeps := h.keeps b
  rwa [show x.run.run b = (.ok a, b') from hRun] at hKeeps

/-- The build of a site after the first steps for its pages. -/
theorem run_siteOf_append {before : List (BuildM Unit)}
    (h : Runs (do makeDestination; before.forM id) b () b') (after : List (BuildM Unit)) :
    (siteOf (before ++ after)).run.run b = (restOf after).run.run b' := by
  have hSplit : siteOf (before ++ after) = (do makeDestination; before.forM id) >>= fun _ =>
      restOf after := by
    simp only [siteOf, restOf, List.forM_eq_forM, List.forM_append, bind_assoc]
  rw [hSplit, h.run_bind]

/-- After the first steps for its pages a build goes on in its directory. -/
theorem goesOn_of_steps {tree : TutorialTree} {readme : Option String}
    {before after : List (BuildM Unit)} (hSteps : pageSteps b tree readme = before ++ after)
    (h : Runs (do makeDestination; before.forM id) b () b') :
    b.GoesOn b' ∧ b'.files.isDirectory b'.destination = .ok true := by
  obtain ⟨_, b₁, hDestination, hBefore⟩ := runs_bind_iff.1 h
  have hRegular : Regular (before.forM id) := regular_steps fun step hMem =>
    regular_of_mem (hSteps ▸ List.mem_append_left after hMem)
  have hFirst := regular_makeDestination.goesOn hDestination
  have hSecond := hRegular.goesOn hBefore
  refine ⟨trans_of Build.GoesOn hFirst hSecond, ?_⟩
  rw [hSecond.basis.destination]
  exact hSecond.directories.isDirectory (isDirectory_of_makeDestination hDestination)

/-- A page whose step fails can be left out, unless its write is cut short: the build ends in the
same way, with the same files and the same pages, and has noted one failure less. -/
theorem notesBesides_of_failure {needsFile : List String} {tree : TutorialTree}
    {readme : Option String} {before after : List (BuildM Unit)} {step : BuildM Unit}
    {b₁ b₂ : Build} (hApart : b.registry.PagesApart (LinkRegistry.Owns needsFile))
    (hSteps : pageSteps b tree readme = before ++ step :: after)
    (hBefore : Runs (do makeDestination; before.forM id) b () b₁) (hStep : Runs step b₁ () b₂)
    (hFailed : b₂.failures ≠ b₁.failures) :
    (∃ failure, b₂ = { b₁ with failures := b₁.failures ++ [failure] } ∧
      ((siteOf (before ++ step :: after)).run.run b).1 =
        ((siteOf (before ++ after)).run.run b).1 ∧
      Build.NotesBesides failure ((siteOf (before ++ after)).run.run b).2
        ((siteOf (before ++ step :: after)).run.run b).2) ∨ b₁.CutsShort b₂ := by
  obtain ⟨hOn, hDirectory⟩ := goesOn_of_steps hSteps hBefore
  have hMem : step ∈ pageSteps b₁ tree readme := by
    rw [pageSteps_eq hOn.basis, hSteps]
    simp
  rw [← hOn.basis.registry] at hApart
  have hRest : Regular (restOf after) := by
    have hAfter : ∀ other ∈ after, other ∈ pageSteps b tree readme := by
      intro other hOther
      rw [hSteps]
      exact List.mem_append_right before (List.mem_cons_of_mem step hOther)
    exact (regular_steps fun other hOther => regular_of_mem (hAfter other hOther)).bind fun _ =>
      regular_tocFile.bind fun _ => regular_staticFiles
  obtain hSame | ⟨failure, rfl⟩ | hCut := settles_of_mem hApart hDirectory hMem b₂ hStep
  · exact absurd hSame hFailed
  · have hWhole : (restOf (step :: after)).run.run b₁ =
        (restOf after).run.run { b₁ with failures := b₁.failures ++ [failure] } := by
      have hSplit : restOf (step :: after) = step >>= fun _ => restOf after := by
        simp only [restOf, List.forM_eq_forM, List.forM_cons, bind_assoc, id]
      rw [hSplit, hStep.run_bind]
    rw [run_siteOf_append hBefore, run_siteOf_append hBefore, hWhole]
    exact .inl ⟨failure, rfl, hRest.notesBesides b₁ failure⟩
  · exact .inr hCut

/-- A table of contents that cannot be written leaves all files as they are, unless it is cut
short. -/
theorem exists_of_tocFile {b₁ b₂ : Build} (h : Runs tocFile b₁ () b₂)
    (hFailed : b₂.failures ≠ b₁.failures) : ∃ made, b₁.files.AddsDirectories made ∧
      ((∃ failure, b₂ = { b₁ with files := made, failures := b₁.failures ++ [failure] }) ∨
        Build.CutsShort { b₁ with files := made } b₂) := by
  rw [tocFile, runs_get_bind_iff] at h
  obtain ⟨text, done, hWrite⟩ := h.exists_write
  exact ⟨_, FileTree.addsDirectories_withParent _ _,
    (hWrite.cases_of_write).resolve_left hFailed⟩

end BuildM

namespace SiteRequest

open BuildM

/-- Whatever the codecs and the device do, writing a file has one of five outcomes, and ends the
step exactly if the file system does not refuse it and there is no path or there are no bytes to
write. In the build of a site, the step of a page that fails changes nothing but the failures,
and all that follows is as it is without the page, unless the device breaks off the write; the
table of contents comes last, and all files stay if it fails, with the same exception. -/
theorem failures_noted (q : SiteRequest) (t : FileTree) :
    (∀ b path text, WriteOutcome b path text ((write path text).run.run b) ∧
      ((∃ done, ((write path text).run.run b).1 = .ok done) ↔
        TextM.Refused b.files b.config.encoding path ∨
          (hasNull path = false ∧ (bytesOf? b text).isSome))) ∧
    ∀ b, q.prepare t = .ok b →
      (wholeSite q.tutorials q.readme).run.run b =
        (siteOf (pageSteps b q.tutorials q.readme)).run.run b ∧
      (∀ before step after b₁ b₂, pageSteps b q.tutorials q.readme = before ++ step :: after →
        Runs (do makeDestination; before.forM id) b () b₁ → Runs step b₁ () b₂ →
        b₂.failures ≠ b₁.failures →
        (∃ failure, b₂ = { b₁ with failures := b₁.failures ++ [failure] } ∧
          ((siteOf (before ++ step :: after)).run.run b).1 =
            ((siteOf (before ++ after)).run.run b).1 ∧
          Build.NotesBesides failure ((siteOf (before ++ after)).run.run b).2
            ((siteOf (before ++ step :: after)).run.run b).2) ∨ b₁.CutsShort b₂) ∧
      ∀ b₁ b₂, Runs (do makeDestination; (pageSteps b q.tutorials q.readme).forM id) b () b₁ →
        Runs tocFile b₁ () b₂ → b₂.failures ≠ b₁.failures →
        ∃ made, b₁.files.AddsDirectories made ∧
          ((∃ failure, b₂ = { b₁ with files := made, failures := b₁.failures ++ [failure] }) ∨
            Build.CutsShort { b₁ with files := made } b₂) := by
  refine ⟨fun b path text => ⟨writeOutcome b path text, write_answers_iff b path text⟩, ?_⟩
  intro b hPrepare
  obtain ⟨-, -, -, hIndex⟩ := eq_of_prepare hPrepare
  rw [SiteRequest.index, registryFor_eq] at hIndex
  have hApart := (SymbolIndex.pagesApart_finalize hIndex).1
  refine ⟨run_wholeSite _ _ b, ?_, fun b₁ b₂ _ => exists_of_tocFile⟩
  intro before step after b₁ b₂ hSteps hBefore hStep hFailed
  exact notesBesides_of_failure hApart hSteps hBefore hStep hFailed

/-- A site in an encoding that does not have all characters. -/
def asciiSite : SiteRequest where
  doclets := []
  destination := ⟨.here, ["site"]⟩
  config := { Config.standard with encoding := "ascii" }
  base := ⟨.root, []⟩

/-- A page of the site, from an earlier run. -/
def earlierPage : FileTree where
  entries := [(["site"], .directory), (["site", "a.html"], .file [0x6F, 0x6C, 0x64])]
  current := []

/-- Writing a text with another character ends the step, notes nothing and empties the file. -/
theorem write_asciiSite :
    earlierPage.read ⟨.here, ["site", "a.html"]⟩ = .ok [0x6F, 0x6C, 0x64] ∧
    ∃ b, asciiSite.prepare earlierPage = .ok b ∧
      ((write ⟨.here, ["site", "a.html"]⟩ "é").run.run b).1 =
        .error (.text (.codec (.unencodable ⟨"ascii", 'é'⟩))) ∧
      ((write ⟨.here, ["site", "a.html"]⟩ "é").run.run b).2.failures = [] ∧
      ((write ⟨.here, ["site", "a.html"]⟩ "é").run.run b).2.files.read
        ⟨.here, ["site", "a.html"]⟩ = .ok [] := by
  have hRun : ((asciiSite.prepare earlierPage).toOption.map fun b =>
      let ending := (write ⟨.here, ["site", "a.html"]⟩ "é").run.run b
      (ending.1, ending.2.failures, ending.2.files.read ⟨.here, ["site", "a.html"]⟩)) =
        some (.error (.text (.codec (.unencodable ⟨"ascii", 'é'⟩))), [], .ok []) := by
    decide +kernel
  obtain ⟨b, hPrepare, hEq⟩ := Option.map_eq_some_iff.1 hRun
  obtain ⟨hEnds, hRest⟩ := Prod.mk.inj hEq
  obtain ⟨hFailures, hRead⟩ := Prod.mk.inj hRest
  exact ⟨by decide +kernel, b, eq_ok_of_toOption hPrepare, hEnds, hFailures, hRead⟩

end SiteRequest

end DocSite
