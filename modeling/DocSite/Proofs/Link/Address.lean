import DocSite.Proofs.Link.Registration
import DocSite.Proofs.Text.PercentRoundTrip
import Mathlib.Data.List.TakeDrop
import Mathlib.Data.List.TakeWhile

/-! Addresses and the hash in them. An address is cut at its first hash, so what is
put behind one that has a hash already goes to its fragment. A file name holds
none of the signs that structure a path or an address, and its encoding therefore has
no fragment. -/

namespace DocSite

/-! ### Page and fragment -/

theorem splitFragment_eq (url : String) :
    splitFragment url = (.ofList (url.toList.takeWhile (· != '#')),
      .ofList (url.toList.dropWhile (· != '#')).tail) := by
  simp [splitFragment, List.span_eq_takeWhile_dropWhile]

theorem all_ne_hash {url : String} (h : '#' ∉ url.toList) :
    ∀ c ∈ url.toList, (c != '#') = true := by
  intro c hc
  simpa using ne_of_mem_of_not_mem hc h

theorem splitFragment_of_not_mem {url : String} (h : '#' ∉ url.toList) :
    splitFragment url = (url, "") := by
  rw [splitFragment_eq, List.takeWhile_eq_self_iff.2 (all_ne_hash h),
    List.dropWhile_eq_nil_iff.2 (all_ne_hash h)]
  simp

/-- What stands behind the first hash is the fragment. -/
theorem splitFragment_append_of_not_mem {page : String} (h : '#' ∉ page.toList) (rest : String) :
    splitFragment (page ++ "#" ++ rest) = (page, rest) := by
  rw [splitFragment_eq]
  simp [List.takeWhile_append_of_pos (all_ne_hash h), List.dropWhile_append_of_pos (all_ne_hash h)]

/-- An address with a hash is its page and its fragment with a hash between them. -/
theorem eq_append_of_hash_mem {url : String} (h : '#' ∈ url.toList) :
    ∃ page rest, '#' ∉ page.toList ∧ url = page ++ "#" ++ rest := by
  obtain ⟨before, after, hEq, hNot⟩ := List.eq_append_cons_of_mem h
  refine ⟨.ofList before, .ofList after, by simpa using hNot, ?_⟩
  rw [← String.toList_inj, hEq]
  simp

/-- What is put behind an address goes to its fragment, if it has one. -/
theorem splitFragment_append (url rest : String) :
    splitFragment (url ++ "#" ++ rest) =
      if '#' ∈ url.toList then ((splitFragment url).1, (splitFragment url).2 ++ "#" ++ rest)
      else (url, rest) := by
  split_ifs with h
  · obtain ⟨page, inner, hPage, rfl⟩ := eq_append_of_hash_mem h
    rw [splitFragment_append_of_not_mem hPage]
    have hAssoc : page ++ "#" ++ inner ++ "#" ++ rest = page ++ "#" ++ (inner ++ "#" ++ rest) := by
      simp only [String.append_assoc]
    rw [hAssoc, splitFragment_append_of_not_mem hPage]
  · exact splitFragment_append_of_not_mem h rest

/-- A fragment more does not lead to another page. -/
@[simp] theorem page_append (url rest : String) :
    (splitFragment (url ++ "#" ++ rest)).1 = (splitFragment url).1 := by
  rw [splitFragment_append]
  split_ifs with h
  · rfl
  · rw [splitFragment_of_not_mem h]

theorem percentEncode_hash : Text.percentEncode "#" = "#" := by decide

/-- Encoding keeps the cut: page and fragment are encoded each on its own. -/
theorem splitFragment_percentEncode (text : String) :
    splitFragment (Text.percentEncode text) =
      (Text.percentEncode (splitFragment text).1, Text.percentEncode (splitFragment text).2) := by
  by_cases h : '#' ∈ text.toList
  · obtain ⟨page, rest, hPage, rfl⟩ := eq_append_of_hash_mem h
    have hPage' := mt (Text.hash_mem_percentEncode_iff page).1 hPage
    rw [Text.percentEncode_append, Text.percentEncode_append, percentEncode_hash,
      splitFragment_append_of_not_mem hPage', splitFragment_append_of_not_mem hPage]
  · have h' := mt (Text.hash_mem_percentEncode_iff text).1 h
    rw [splitFragment_of_not_mem h, splitFragment_of_not_mem h', Text.percentEncode_empty]

/-! ### File names -/

namespace FileName

/-- A character that may stand in a file name of the site. -/
def IsSafe (c : Char) : Prop := isUnsafe c = false ∧ c ≠ '~' ∧ c ≠ '#'

instance (c : Char) : Decidable (IsSafe c) := inferInstanceAs (Decidable (_ ∧ _))

theorem isSafe_safeChar (c : Char) : IsSafe (safeChar c) := by
  unfold safeChar
  split_ifs with hUnsafe hTilde hHash
  · decide
  · decide
  · decide
  · simp only [beq_iff_eq] at hTilde hHash
    exact ⟨by simpa using hUnsafe, hTilde, hHash⟩

theorem mem_of_mem_dropVariation {c : Char} {cs : List Char} (h : c ∈ dropVariation cs) :
    c ∈ cs := by
  -- the text is cut into a body, which may lose its end, and a last line break
  obtain ⟨body, tail, hCut, hMem⟩ : ∃ body tail, cs = body ++ tail ∧
      (c ∈ body.takeWhile (· != '(') ++ tail ∨ c ∈ cs) := by
    unfold dropVariation at h
    split at h
    next body tail hMatch =>
      refine ⟨body, tail, ?_, by split_ifs at h <;> simp_all⟩
      split at hMatch
      next rest hReverse =>
        obtain ⟨rfl, rfl⟩ := Prod.mk.inj hMatch
        rw [← List.reverse_reverse cs, hReverse]
        simp
      next =>
        obtain ⟨rfl, rfl⟩ := Prod.mk.inj hMatch
        simp
  rcases hMem with hMem | hMem
  · rw [hCut, List.mem_append]
    exact (List.mem_append.1 hMem).imp_left fun h => (List.takeWhile_sublist _).subset h
  · exact hMem

theorem mem_of_mem_dropLead {c : Char} {cs : List Char} (h : c ∈ dropLead cs) : c ∈ cs := by
  unfold dropLead at h
  split at h
  · exact List.mem_cons_of_mem _ h
  · exact List.mem_cons_of_mem _ h
  · exact h

theorem isSafe_guardLead {cs : List Char} (h : ∀ c ∈ cs, IsSafe c) :
    ∀ c ∈ guardLead cs, IsSafe c := by
  unfold guardLead
  split
  · rw [List.forall_mem_cons, List.forall_mem_singleton]
    exact ⟨by decide, by decide⟩
  · intro c hc
    rcases List.mem_cons.1 hc with rfl | hc
    · decide
    · exact h c hc
  · exact h

/-- The file name that a name asks for holds no sign that a path or an address uses. -/
theorem isSafe_wanted (name : String) : ∀ c ∈ (wanted name).toList, IsSafe c := by
  rw [wanted, String.toList_ofList]
  apply isSafe_guardLead
  intro c hc
  obtain ⟨d, -, rfl⟩ := List.mem_map.1 (mem_of_mem_dropVariation (mem_of_mem_dropLead hc))
  exact isSafe_safeChar d

end FileName

namespace LinkRegistry

variable (r : LinkRegistry)

theorem isSafe_baseFor (name : String) : ∀ c ∈ (r.baseFor name).toList, FileName.IsSafe c := by
  obtain ⟨k, -, hEq, -⟩ := freeName_eq_underscored r.files.keys (FileName.wanted name)
  intro c hc
  rw [baseFor, hEq, toList_underscored, List.mem_append] at hc
  rcases hc with hc | hc
  · exact FileName.isSafe_wanted name c hc
  · rw [List.eq_of_mem_replicate hc]
    decide

theorem hash_not_mem_pageUrl {base : String} (h : ∀ c ∈ base.toList, FileName.IsSafe c) :
    '#' ∉ (pageUrl base).toList := by
  rw [pageUrl, Text.hash_mem_percentEncode_iff, String.toList_append, List.mem_append]
  rintro (hBase | hExtension)
  · exact (h _ hBase).2.2 rfl
  · revert hExtension
    decide

theorem pageUrl_injective : Function.Injective pageUrl := by
  intro base other h
  exact (String.append_left_inj _).1 (Text.percentEncode_injective h)

/-- The base name of the front page. -/
def indexBase : String := "index"

theorem isSafe_indexBase : ∀ c ∈ indexBase.toList, FileName.IsSafe c := by
  simp [indexBase, FileName.IsSafe, FileName.isUnsafe]

theorem pageUrl_indexBase : pageUrl indexBase = indexUrl := by decide

theorem isSafe_globalName : ∀ c ∈ globalName.toList, FileName.IsSafe c := by
  simp [globalName, FileName.IsSafe, FileName.isUnsafe]

theorem pageUrl_globalName : pageUrl globalName = globalUrl := by decide

theorem hash_not_mem_globalUrl : '#' ∉ globalUrl.toList := by
  rw [← pageUrl_globalName]
  exact hash_not_mem_pageUrl isSafe_globalName

/-- A fresh registry has an address for the page of globals only. -/
theorem eq_global_of_urlFor_fresh {name url : String} (h : fresh.urlFor name = some url) :
    name = globalName ∧ url = globalUrl := by
  by_cases hName : globalName = name
  · simp [urlFor, fresh, Dict.get?, hName] at h
    exact ⟨hName.symm, h.symm⟩
  · simp [urlFor, fresh, Dict.get?, hName] at h

/-- The page that the address of a name leads to. -/
def pageOf? (name : String) : Option String :=
  (r.urlFor name).map fun url => (splitFragment url).1

/-- The link of a symbol leads to the page of its owner. -/
theorem Links.page_longname {r r' : LinkRegistry} {owner longname page fragment url : String}
    (h : Links r r' owner longname page fragment) (hUrl : r'.urlFor longname = some url) :
    (splitFragment url).1 = (splitFragment page).1 := by
  obtain rfl := Option.some.inj (h.urlFor_longname.symm.trans hUrl)
  split_ifs
  · rfl
  · exact page_append _ _

/-- An address after a link is there once the page of the owner is registered, or it is on a
page that is there then, under a name that does not own its page. -/
theorem Links.urlFor_cases {owns : String → Prop} {r r' : LinkRegistry}
    {owner longname page fragment : String} (h : Links r r' owner longname page fragment)
    (hOwns : owns longname → owner = longname) (name url : String)
    (hUrl : r'.urlFor name = some url) :
    (r.register owner none).2.urlFor name = some url ∨
      ¬ owns name ∧ ∃ other page, (r.register owner none).2.urlFor other = some page ∧
        (splitFragment url).1 = (splitFragment page).1 := by
  have hPage : (r.register owner none).2.urlFor owner = some page := by
    rw [urlFor_register_self, ← h.page_eq]
  by_cases hOwner : name = owner
  · rw [hOwner, h.urlFor_owner] at hUrl
    rw [hOwner, hPage, hUrl]
    exact .inl rfl
  · by_cases hName : name = longname
    · subst hName
      exact .inr ⟨fun hName => hOwner (hOwns hName).symm, owner, page, hPage,
        h.page_longname hUrl⟩
    · rw [h.urlFor_of_ne name hOwner hName] at hUrl
      exact .inl ((urlFor_register_of_ne r hOwner none).trans hUrl)

end LinkRegistry

end DocSite
