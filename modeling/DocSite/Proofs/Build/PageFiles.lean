import DocSite.Proofs.Build.Clash
import DocSite.Proofs.Link.IssuedFiles

/-! The files of pages. Whatever name a page is asked for, its file is one plain name:
there is something before the extension, it does not begin with an underscore, and it has
none of the signs that structure a path or an address. So the address of the page has no
fragment, it is read back as the name of the file, and the page stands right in the
directory that the site is written to. -/

namespace DocSite

namespace FileName

/-- A name is asked for by a text that begins with a character other than an underscore. -/
theorem exists_cons_wanted (name : String) :
    ∃ c cs, (wanted name).toList = c :: cs ∧ c ≠ '_' := by
  rw [wanted, String.toList_ofList]
  generalize dropLead _ = cs
  unfold guardLead
  split
  · exact ⟨_, _, rfl, by decide⟩
  · exact ⟨_, _, rfl, by decide⟩
  next hEmpty hLead =>
    cases cs with
    | nil => exact absurd rfl hEmpty
    | cons c cs => exact ⟨c, cs, rfl, fun hc => hLead cs (hc ▸ rfl)⟩

theorem IsSafe.not_mem {c : Char} (h : IsSafe c) : c ∉ "\\/?*:|'\"<>~#".toList := by
  obtain ⟨hUnsafe, hTilde, hHash⟩ := h
  simp only [isUnsafe, List.contains_eq_mem, decide_eq_false_iff_not] at hUnsafe
  simp_all

end FileName

/-- An address that leads to a file right under the destination of every build. The file is
named by a base and the extension of pages. -/
structure LeadsToPage (url file : String) : Prop where
  exists_base : ∃ base, base ≠ "" ∧ file = base ++ ".html"
  head_ne : file.toList.head? ≠ some '_'
  no_sign : ∀ c ∈ file.toList, c ∉ "\\/?*:|'\"<>~#".toList
  splitFragment : splitFragment url = (url, "")
  percentDecode : Text.percentDecode url = file
  outputPath : ∀ b : Build, b.outputPath url = b.destination.child file

namespace LinkRegistry

/-- The address of the page in a file leads to it, if the base of the file is plain. -/
theorem leadsToPage_pageUrl {base : String} {c : Char} {cs : List Char}
    (hBase : base.toList = c :: cs) (hLead : c ≠ '_')
    (hSafe : ∀ c ∈ base.toList, FileName.IsSafe c) :
    LeadsToPage (pageUrl base) (base ++ fileExtension) where
  exists_base := by
    refine ⟨base, ?_, rfl⟩
    rintro rfl
    simp at hBase
  head_ne := by simp [hBase, hLead]
  no_sign := by
    have hExtension : ∀ c ∈ fileExtension.toList, FileName.IsSafe c :=
      List.forall_iff_forall_mem.1 (by decide)
    intro d hd
    rw [String.toList_append, List.mem_append] at hd
    exact (hd.elim (hSafe d) (hExtension d)).not_mem
  splitFragment := splitFragment_of_not_mem (hash_not_mem_pageUrl hSafe)
  percentDecode := Text.percentDecode_percentEncode _
  outputPath b := by
    have hPage := congrArg Prod.fst (splitFragment_of_not_mem (hash_not_mem_pageUrl hSafe))
    exact b.outputPath_of_page hPage hSafe

theorem leadsToPage_baseFor (r : LinkRegistry) (name : String) :
    LeadsToPage (pageUrl (r.baseFor name)) (r.baseFor name ++ fileExtension) := by
  obtain ⟨c, cs, hWanted, hLead⟩ := FileName.exists_cons_wanted name
  obtain ⟨k, -, hBase, -⟩ := freeName_eq_underscored r.files.keys (FileName.wanted name)
  -- a suffix is put behind the base, so it begins as the name that was asked for
  have hCons : (r.baseFor name).toList = c :: (cs ++ List.replicate k '_') := by
    rw [baseFor, hBase, toList_underscored, hWanted, List.cons_append]
  exact leadsToPage_pageUrl hCons hLead (r.isSafe_baseFor name)

/-- What is issued while requests are handled, is a base for some name. -/
theorem exists_of_mem_issuedFrom {r : LinkRegistry} {requests : List LinkRequest} {base : String}
    (h : base ∈ r.issuedFrom requests) : ∃ (r' : LinkRegistry) (name : String),
      base = r'.baseFor name := by
  induction requests generalizing r with
  | nil => simp [issuedFrom] at h
  | cons request requests ih =>
    rw [issuedFrom, List.mem_append] at h
    rcases h with hNow | hLater
    · obtain ⟨name, -, hBase⟩ := Option.map_eq_some_iff.1 (Option.mem_toList.1 hNow)
      exact ⟨r, name, hBase.symm⟩
    · exact ih hLater

/-- Every page that a registry issues over a run of requests, the two of a fresh one
included, is a plain file right under the destination, and its address leads back to it.
For a name that has no address yet, the address of its page or of its tutorial is that of
the file which would be issued for it. -/
theorem issued_pages_lead_to_files (requests : List LinkRequest) :
    (∀ base ∈ issuedBases requests, LeadsToPage (pageUrl base) (base ++ fileExtension)) ∧
    ∀ name, let r := run requests
      LeadsToPage (Text.percentEncode (r.issueFile name).1) (r.issueFile name).1 ∧
      (r.urlFor name = none → (r.register name none).1 = Text.percentEncode (r.issueFile name).1) ∧
      (r.tutorialUrl name = none →
        (r.registerTutorial name).1 =
          Text.percentEncode (r.issueFile ("tutorial-" ++ name)).1) := by
  refine ⟨?_, fun name => ⟨(run requests).leadsToPage_baseFor name, ?_, ?_⟩⟩
  · intro base hBase
    rw [issuedBases, List.mem_cons, List.mem_cons] at hBase
    rcases hBase with rfl | rfl | hIssued
    · exact leadsToPage_pageUrl rfl (by decide) isSafe_indexBase
    · exact leadsToPage_pageUrl rfl (by decide) isSafe_globalName
    · obtain ⟨r, name, rfl⟩ := exists_of_mem_issuedFrom hIssued
      exact r.leadsToPage_baseFor name
  · intro hNone
    rw [register_none_of_none _ hNone]
    rfl
  · intro hNone
    rw [registerTutorial_of_none _ hNone]
    rfl

/-- Points, slashes and signs of an encoding in a name lead nowhere else. -/
example : (fresh.register "../%2e#é" none).1 = "._%252e_%C3%A9.html" := by decide +kernel

end LinkRegistry

end DocSite
