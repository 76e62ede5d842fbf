import DocSite.Proofs.Link.Address
import Mathlib.Data.List.Induction

/-! The files that a run of requests makes a registry issue. Every request issues at
most one file, and its key is new, so over a whole run the base names are pairwise
different even in lower case. Encoding and the extension keep them apart, and the
page of the index, whose file is taken from the start, is not issued again. -/

namespace DocSite

/-- What a registry may be asked for: a file for a name, an address for a name, a
fragment on a page, the link of a symbol, or the page of a tutorial. -/
inductive LinkRequest
  | file (name : String)
  | page (name : String) (url? : Option String)
  | fragment (url candidate : String)
  | symbol (s : Symbol) (needsFile : List String)
  | tutorial (name : String)

namespace LinkRegistry

variable (r : LinkRegistry)

/-- The answer to a request, and the registry after it. A symbol without a longname is
refused and changes nothing. -/
def handle : LinkRequest → Except LinkError String × LinkRegistry
  | .file name => (.ok (r.issueFile name).1, (r.issueFile name).2)
  | .page name url? => (.ok (r.register name url?).1, (r.register name url?).2)
  | .fragment url candidate => (.ok (r.issueId url candidate).1, (r.issueId url candidate).2)
  | .symbol s needsFile =>
    match r.createLink s needsFile with
    | .ok (url, r') => (.ok url, r')
    | .error e => (.error e, r)
  | .tutorial name => (.ok (r.registerTutorial name).1, (r.registerTutorial name).2)

/-- The registry after a sequence of requests to a fresh one. -/
def run (requests : List LinkRequest) : LinkRegistry :=
  requests.foldl (fun r request => (r.handle request).2) .fresh

theorem run_append (requests : List LinkRequest) (request : LinkRequest) :
    run (requests ++ [request]) = ((run requests).handle request).2 := by
  simp [run]

/-- The name for which the registration of a page issues a file. -/
def newPage? (name : String) : Option String := if (r.urlFor name).isSome then none else some name

/-- The name for which a request issues a file. -/
def newFile? : LinkRequest → Option String
  | .file name => some name
  | .page name none => r.newPage? name
  | .page _ (some _) | .fragment _ _ => none
  | .symbol s needsFile => s.longname.bind fun longname =>
      (r.newPage? longname).bind fun _ =>
        r.newPage? (Placement.ofSymbol s longname (needsFile.contains longname)).owner
  | .tutorial name => if (r.tutorialUrl name).isSome then none else some ("tutorial-" ++ name)

/-- The base name of the file that a request issues. -/
def issued? (request : LinkRequest) : Option String := (r.newFile? request).map r.baseFor

/-- The base names that are issued while a list of requests is handled. -/
def issuedFrom : LinkRegistry → List LinkRequest → List String
  | _, [] => []
  | r, request :: requests =>
    (r.issued? request).toList ++ issuedFrom (r.handle request).2 requests

/-- The base names issued over a whole run, with the two of a fresh registry. -/
def issuedBases (requests : List LinkRequest) : List String :=
  "index" :: "global" :: issuedFrom fresh requests

theorem files_register_none (name : String) :
    (r.register name none).2.files = match r.newPage? name with
      | some name => r.files.put (Text.lower (r.baseFor name)) name
      | none => r.files := by
  obtain ⟨_, hUrl, hEq⟩ | ⟨_, _, h, _⟩ | ⟨hNone, _, hEq⟩ := r.register_cases name none
  · simp [hEq, newPage?, hUrl]
  · exact absurd h (by simp)
  · simp [hEq, newPage?, hNone]

/-- A request writes the file that it issues, and no other. -/
theorem files_handle (request : LinkRequest) :
    (r.handle request).2.files = match r.newFile? request with
      | some name => r.files.put (Text.lower (r.baseFor name)) name
      | none => r.files := by
  cases request with
  | file name => rfl
  | page name url? =>
    cases url? with
    | none => exact r.files_register_none name
    | some url => exact r.files_register_some name url
  | fragment url candidate => rfl
  | symbol s needsFile =>
    cases hLongname : s.longname with
    | none => simp [handle, createLink, newFile?, hLongname]
    | some longname =>
      cases hUrl : r.urlFor longname with
      | some url =>
        simp [handle, createLink, newFile?, newPage?, hLongname, hUrl, createLinkFor_of_urlFor]
      | none =>
        obtain ⟨_, _, hLinks, -, -⟩ :=
          r.createLinkFor_of_none s (needsFile.contains longname) hUrl
        simp only [handle, createLink, newFile?, hLongname, hLinks.files_eq, files_register_none]
        simp [newPage?, hUrl]
  | tutorial name =>
    cases hUrl : r.tutorialUrl name with
    | some url => simp [handle, newFile?, hUrl, registerTutorial_of_tutorialUrl]
    | none => simp [handle, newFile?, hUrl, registerTutorial_of_none]

theorem keys_handle (request : LinkRequest) :
    (r.handle request).2.files.keys =
      r.files.keys ++ (r.issued? request).toList.map Text.lower := by
  rw [files_handle, issued?]
  cases r.newFile? request with
  | none => simp
  | some name => simp [Dict.keys_put, r.lower_baseFor_not_mem name]

theorem keys_foldl_handle (requests : List LinkRequest) :
    (requests.foldl (fun r request => (r.handle request).2) r).files.keys =
      r.files.keys ++ (r.issuedFrom requests).map Text.lower := by
  induction requests generalizing r with
  | nil => simp [issuedFrom]
  | cons request requests ih => simp [issuedFrom, ih, keys_handle]

/-- The keys of the files are those of the base names issued, in order. -/
theorem keys_run (requests : List LinkRequest) :
    (run requests).files.keys = (issuedBases requests).map Text.lower := by
  have hIndex : Text.lower "index" = "index" := by decide
  have hGlobal : Text.lower "global" = "global" := by decide
  simp [run, keys_foldl_handle, issuedBases, hIndex, hGlobal, fresh]

theorem nodup_keys_handle (h : r.files.keys.Nodup) (request : LinkRequest) :
    (r.handle request).2.files.keys.Nodup := by
  rw [files_handle]
  split
  · exact Dict.nodup_keys_put h _ _
  · exact h

theorem nodup_keys_run (requests : List LinkRequest) : (run requests).files.keys.Nodup := by
  induction requests using List.reverseRecOn with
  | nil => decide
  | append_singleton requests request ih =>
    rw [run_append]
    exact nodup_keys_handle _ ih request

theorem newPage?_eq_some {name other : String} (h : r.newPage? name = some other) :
    r.urlFor name = none ∧ other = name := by
  cases hUrl : r.urlFor name <;> simp_all [newPage?]

theorem page_pageUrl_baseFor (name : String) :
    (splitFragment (pageUrl (r.baseFor name))).1 = pageUrl (r.baseFor name) := by
  rw [splitFragment_of_not_mem (hash_not_mem_pageUrl (r.isSafe_baseFor name))]

/-- A request that issues a file is answered with that file, or with an address on the
page in it. -/
theorem handle_issued {request : LinkRequest} {base : String} (h : r.issued? request = some base) :
    ∃ answer, (r.handle request).1 = .ok answer ∧
      (answer = base ++ fileExtension ∨ (splitFragment answer).1 = pageUrl base) := by
  obtain ⟨name, hName, rfl⟩ := Option.map_eq_some_iff.1 h
  cases request with
  | file asked =>
    obtain rfl := Option.some.inj hName
    exact ⟨_, rfl, .inl rfl⟩
  | page asked url? =>
    cases url? with
    | some url => exact absurd hName (by simp [newFile?])
    | none =>
      obtain ⟨hNone, rfl⟩ := r.newPage?_eq_some hName
      exact ⟨_, rfl, .inr (by rw [register_none_of_none r hNone, page_pageUrl_baseFor])⟩
  | fragment url candidate => exact absurd hName (by simp [newFile?])
  | symbol s needsFile =>
    obtain ⟨longname, hLongname, hName⟩ := Option.bind_eq_some_iff.1 hName
    obtain ⟨_, hNew, hName⟩ := Option.bind_eq_some_iff.1 hName
    obtain ⟨hNone, -⟩ := r.newPage?_eq_some hNew
    obtain ⟨hOwner, rfl⟩ := r.newPage?_eq_some hName
    obtain ⟨page, fragment, hLinks, -, hAnswer⟩ :=
      r.createLinkFor_of_none s (needsFile.contains longname) hNone
    refine ⟨(r.createLinkFor s longname (needsFile.contains longname)).1,
      by simp only [handle, createLink, hLongname], .inr ?_⟩
    rw [hLinks.page_longname hAnswer, hLinks.page_eq, register_none_of_none r hOwner,
      page_pageUrl_baseFor]
  | tutorial asked =>
    cases hUrl : r.tutorialUrl asked with
    | some url => exact absurd hName (by simp [newFile?, hUrl])
    | none =>
      obtain rfl : "tutorial-" ++ asked = name := by simpa [newFile?, hUrl] using hName
      exact ⟨_, rfl, .inr (by rw [registerTutorial_of_none r hUrl, page_pageUrl_baseFor])⟩

/-- Over any run of requests no file name is issued twice. For every request the search
for a name ends at the fewest underscores that make it free; a request that issues a
base name writes its lower case and answers with it, and any other leaves the files as
they are. The base names of the whole run, and the pages in their files, are pairwise
different even where case is ignored, and none of the pages is that of the index. -/
theorem issuedBases_distinct (requests : List LinkRequest) :
    (∀ name, ∃ k, (run requests).baseFor name = underscored (FileName.wanted name) k ∧
      Text.lower (underscored (FileName.wanted name) k) ∉ (run requests).files.keys ∧
      ∀ j < k, Text.lower (underscored (FileName.wanted name) j) ∈ (run requests).files.keys) ∧
    (∀ request, match (run requests).issued? request with
      | some base =>
        ((run requests).handle request).2.files.keys =
          (run requests).files.keys ++ [Text.lower base] ∧
        ∃ answer, ((run requests).handle request).1 = .ok answer ∧
          (answer = base ++ fileExtension ∨ (splitFragment answer).1 = pageUrl base)
      | none => ((run requests).handle request).2.files = (run requests).files) ∧
    (run requests).files.keys = (issuedBases requests).map Text.lower ∧
    ((issuedBases requests).map Text.lower).Nodup ∧
    ((issuedBases requests).map pageUrl).Nodup ∧
    indexUrl ∉ ((issuedBases requests).tail).map pageUrl := by
  have hKeys : ((issuedBases requests).map Text.lower).Nodup := by
    rw [← keys_run]
    exact nodup_keys_run requests
  have hPages : ((issuedBases requests).map pageUrl).Nodup :=
    (List.Nodup.of_map _ hKeys).map pageUrl_injective
  refine ⟨?_, ?_, keys_run requests, hKeys, hPages, ?_⟩
  · intro name
    obtain ⟨k, -, hSearch⟩ := freeName_eq_underscored (run requests).files.keys
      (FileName.wanted name)
    exact ⟨k, hSearch⟩
  · intro request
    have hKeys := (run requests).keys_handle request
    cases hIssued : (run requests).issued? request with
    | some base => exact ⟨by simpa [hIssued] using hKeys, (run requests).handle_issued hIssued⟩
    | none =>
      have hNone : (run requests).newFile? request = none := by simpa [issued?] using hIssued
      simpa [hNone] using (run requests).files_handle request
  · have hIndex : pageUrl "index" = indexUrl := pageUrl_indexBase
    rw [issuedBases, List.map_cons, hIndex] at hPages
    exact (List.nodup_cons.1 hPages).1

end LinkRegistry

end DocSite
