import DocSite.Proofs.Link.Address

/-! Which files of pages are hidden. A file is hidden if its name begins with a point, and the
name is taken for an option if it begins with a hyphen; only the hyphen that is put before an
underscore is meant to stand there. Of the points and hyphens at the beginning of a name one is
dropped, so a second one comes to the beginning of the file name. -/

namespace DocSite

namespace FileName

/-- A file name that does not begin with a point, and with a hyphen only before an
underscore. -/
structure IsShown (file : String) : Prop where
  head_ne_point : file.toList.head? ≠ some '.'
  next_of_hyphen : file.toList.head? = some '-' → file.toList[1]? = some '_'

theorem isShown_iff (file : String) : IsShown file ↔ file.toList.head? ≠ some '.' ∧
    (file.toList.head? = some '-' → file.toList[1]? = some '_') :=
  ⟨fun h => ⟨h.1, h.2⟩, fun h => ⟨h.1, h.2⟩⟩

instance (file : String) : Decidable (IsShown file) := decidable_of_iff' _ (isShown_iff file)

theorem isShown_of_toList {file : String} {c : Char} {cs : List Char}
    (h : file.toList = c :: cs) : IsShown file ↔ c ≠ '.' ∧ (c = '-' → cs.head? = some '_') := by
  rw [isShown_iff, h, List.head?_cons, List.getElem?_cons_succ, ← List.head?_eq_getElem?]
  simp only [ne_eq, Option.some.injEq]

/-- A sign that is dropped at the beginning of a name. -/
def IsLead (c : Char) : Prop := c = '.' ∨ c = '-'

/-- Two signs at the beginning, of which the first one alone is dropped. -/
def LeadsTwice (cs : List Char) : Prop :=
  ∃ first second rest, cs = first :: second :: rest ∧ IsLead first ∧ IsLead second

theorem dropLead_of_isLead {c : Char} (h : IsLead c) (cs : List Char) :
    dropLead (c :: cs) = cs := by
  rcases h with rfl | rfl <;> rfl

theorem dropLead_of_not_isLead {c : Char} (h : ¬ IsLead c) (cs : List Char) :
    dropLead (c :: cs) = c :: cs := by
  unfold dropLead
  split
  next hEq => exact absurd (.inl (List.cons_eq_cons.1 hEq).1) h
  next hEq => exact absurd (.inr (List.cons_eq_cons.1 hEq).1) h
  next => rfl

/-- What remains begins with no sign, unless there were two. -/
theorem not_isLead_of_mem_dropLead {cs : List Char} (h : ¬ LeadsTwice cs) :
    ∀ c ∈ (dropLead cs).head?, ¬ IsLead c := by
  rcases cs with _ | ⟨first, rest⟩
  · simp [dropLead]
  by_cases hFirst : IsLead first
  · rw [dropLead_of_isLead hFirst]
    intro second hSecond hLead
    obtain ⟨rest, rfl⟩ := List.head?_eq_some_iff.1 hSecond
    exact h ⟨first, second, rest, rfl, hFirst, hLead⟩
  · rw [dropLead_of_not_isLead hFirst]
    rintro c hc
    rwa [← Option.some.inj hc]

theorem guardLead_of_ne {c : Char} (h : c ≠ '_') (cs : List Char) :
    guardLead (c :: cs) = c :: cs := by
  unfold guardLead
  split
  next hEq => cases hEq
  next hEq => exact absurd (List.cons_eq_cons.1 hEq).1 h
  next => rfl

/-- Behind the guard stands an underscore. -/
theorem exists_guardLead {cs : List Char} (h : ∀ c ∈ cs.head?, ¬ IsLead c) :
    ∃ c rest, guardLead cs = c :: rest ∧ c ≠ '.' ∧ (c = '-' → rest.head? = some '_') := by
  rcases cs with _ | ⟨c, rest⟩
  · exact ⟨'-', ['_'], rfl, by decide, fun _ => rfl⟩
  have hc : ¬ IsLead c := h c rfl
  by_cases hGuard : c = '_'
  · exact ⟨'-', '_' :: rest, by rw [hGuard]; rfl, by decide, fun _ => rfl⟩
  · exact ⟨c, rest, guardLead_of_ne hGuard rest, fun hPoint => hc (.inl hPoint),
      fun hHyphen => absurd (.inr hHyphen) hc⟩

/-! ### Names as they are cleaned -/

/-- The characters of a name in a file name, before its beginning is looked at. -/
def cleaned (name : String) : List Char :=
  dropVariation ((hyphenNamespace name.toList).map safeChar)

theorem toList_wanted (name : String) :
    (wanted name).toList = guardLead (dropLead (cleaned name)) := String.toList_ofList

/-- The characters of a name that keeps a sign at its beginning. Behind the sign that is dropped
stands a point, or a hyphen with something else than an underscore behind it. If nothing stands
behind the hyphen, the extension does, unless the hyphen by itself is taken. -/
inductive KeepsSign (taken : List String) : List Char → Prop
  | point {lead : Char} {rest : List Char} (hLead : IsLead lead) :
      KeepsSign taken (lead :: '.' :: rest)
  | hyphen {lead next : Char} {rest : List Char} (hLead : IsLead lead) (hNext : next ≠ '_') :
      KeepsSign taken (lead :: '-' :: next :: rest)
  | hyphenAlone {lead : Char} (hLead : IsLead lead) (hFree : "-" ∉ taken) :
      KeepsSign taken [lead, '-']

theorem KeepsSign.leadsTwice {taken : List String} {cs : List Char} (h : KeepsSign taken cs) :
    LeadsTwice cs := by
  cases h with
  | point hLead => exact ⟨_, _, _, rfl, hLead, .inl rfl⟩
  | hyphen hLead hNext => exact ⟨_, _, _, rfl, hLead, .inr rfl⟩
  | hyphenAlone hLead hFree => exact ⟨_, _, _, rfl, hLead, .inr rfl⟩

theorem keepsSign_hyphen_iff {taken : List String} {lead : Char} (h : IsLead lead)
    (rest : List Char) : KeepsSign taken (lead :: '-' :: rest) ↔
      rest.head? ≠ some '_' ∧ (rest = [] → "-" ∉ taken) := by
  constructor
  · intro hKeeps
    cases hKeeps with
    | hyphen hLead hNext => exact ⟨by simpa using hNext, nofun⟩
    | hyphenAlone hLead hFree => exact ⟨nofun, fun _ => hFree⟩
  · rintro ⟨hNext, hFree⟩
    rcases rest with _ | ⟨next, rest⟩
    · exact .hyphenAlone h (hFree rfl)
    · exact .hyphen h (by simpa using hNext)

/-- Dropping the variation leaves a beginning, perhaps with a line break behind it. -/
theorem dropVariation_cases (cs : List Char) : ∃ body, body <+: cs ∧
    (dropVariation cs = body ∨ dropVariation cs = body ++ ['\n']) := by
  unfold dropVariation
  split
  next body tail hMatch =>
    split_ifs
    · refine ⟨body.takeWhile (· != '('), ?_⟩
      split at hMatch
      next rest hReverse =>
        obtain ⟨rfl, rfl⟩ := Prod.mk.inj hMatch
        have hCut : cs = (')' :: rest).reverse ++ ['\n'] := by
          rw [← List.reverse_reverse cs, hReverse]
          simp
        rw [hCut]
        exact ⟨(List.takeWhile_prefix _).trans (List.prefix_append _ _), .inr rfl⟩
      next =>
        obtain ⟨rfl, rfl⟩ := Prod.mk.inj hMatch
        exact ⟨List.takeWhile_prefix _, .inl (List.append_nil _)⟩
    · exact ⟨cs, List.prefix_refl cs, .inl rfl⟩

theorem leadsTwice_of_dropVariation {cs : List Char} (h : LeadsTwice (dropVariation cs)) :
    LeadsTwice cs := by
  obtain ⟨first, second, rest, hEq, hFirst, hSecond⟩ := h
  obtain ⟨body, ⟨behind, rfl⟩, hBody⟩ := dropVariation_cases cs
  -- the line break is no sign, so both signs stand in the beginning
  have hBegins : ∃ rest, body = first :: second :: rest := by
    rcases hBody with hBody | hBody
    · exact ⟨rest, hBody.symm.trans hEq⟩
    · rw [hBody] at hEq
      match body, hEq with
      | [], hEq => rcases hFirst with rfl | rfl <;> simp at hEq
      | [c], hEq => rcases hSecond with rfl | rfl <;> simp at hEq
      | c :: d :: inner, hEq =>
        simp only [List.cons_append, List.cons.injEq] at hEq
        exact ⟨inner, by rw [hEq.1, hEq.2.1]⟩
  obtain ⟨inner, rfl⟩ := hBegins
  exact ⟨first, second, inner ++ behind, rfl, hFirst, hSecond⟩

/-- The signs that become a point or a hyphen. -/
theorem mem_of_isLead_safeChar {c : Char} (h : IsLead (safeChar c)) : c ∈ ".-~".toList := by
  unfold safeChar at h
  split_ifs at h with hUnsafe hTilde hHash
  · rcases h with h | h <;> simp at h
  · simp only [beq_iff_eq] at hTilde
    simp [hTilde]
  · rcases h with h | h <;> simp at h
  · rcases h with rfl | rfl <;> decide

/-- A namespace begins with a letter, so it does not move a sign to the beginning. -/
theorem hyphenNamespace_cases (cs : List Char) : hyphenNamespace cs = cs ∨
    ∃ c rest, hyphenNamespace cs = c :: rest ∧ c ∉ ".-~".toList := by
  unfold hyphenNamespace
  dsimp only
  split
  next rest hRest =>
    split_ifs with hKind
    · right
      generalize cs.takeWhile (· != ':') = kind at hKind
      have hKinds : ∀ k ∈ namespaceKinds,
          (k.toList.head?.any fun c => !".-~".toList.contains c) = true := by
        decide
      have hStart := hKinds _ (List.contains_iff_mem.1 hKind)
      obtain ⟨c, hHead, hc⟩ := (Option.any_eq_true _ _).1 hStart
      rw [Bool.not_eq_true', ← Bool.not_eq_true, List.contains_iff_mem] at hc
      obtain ⟨behind, hBehind⟩ := List.head?_eq_some_iff.1 hHead
      rw [String.toList_ofList] at hBehind
      exact ⟨c, behind ++ '-' :: rest, by rw [hBehind]; rfl, hc⟩
    · exact .inl rfl
  next => exact .inl rfl

/-- A name that begins with two signs which become points or hyphens. -/
def BeginsTwice (name : String) : Prop :=
  ∃ first second rest, name.toList = first :: second :: rest ∧
    first ∈ ".-~".toList ∧ second ∈ ".-~".toList

theorem beginsTwice_of_leadsTwice {name : String} (h : LeadsTwice (cleaned name)) :
    BeginsTwice name := by
  obtain ⟨first, second, rest, hEq, hFirst, hSecond⟩ := leadsTwice_of_dropVariation h
  obtain ⟨c, behind, hNamespace, rfl, hBehind⟩ := List.map_eq_cons_iff.1 hEq
  obtain ⟨d, inner, rfl, rfl, -⟩ := List.map_eq_cons_iff.1 hBehind
  have hFirst := mem_of_isLead_safeChar hFirst
  rcases hyphenNamespace_cases name.toList with hSame | ⟨e, other, hOther, hNot⟩
  · exact ⟨c, d, inner, hSame.symm.trans hNamespace, hFirst, mem_of_isLead_safeChar hSecond⟩
  · rw [hNamespace] at hOther
    rw [(List.cons_eq_cons.1 hOther).1] at hFirst
    exact absurd hFirst hNot

end FileName

namespace LinkRegistry

open FileName

/-- A page gets a file that is shown exactly if its name does not keep a sign at its beginning,
which takes two signs at the beginning of the name. -/
theorem isShown_issueFile_iff (r : LinkRegistry) (name : String) :
    (IsShown (r.issueFile name).1 ↔ ¬ KeepsSign r.files.keys (cleaned name)) ∧
      (KeepsSign r.files.keys (cleaned name) → BeginsTwice name) := by
  refine ⟨?_, fun hKeeps => beginsTwice_of_leadsTwice hKeeps.leadsTwice⟩
  obtain ⟨k, -, hBase, hFree, hTaken⟩ := freeName_eq_underscored r.files.keys (wanted name)
  have hFile : (r.issueFile name).1.toList =
      guardLead (dropLead (cleaned name)) ++ (List.replicate k '_' ++ fileExtension.toList) := by
    rw [issueFile_eq, String.toList_append, baseFor, hBase, toList_underscored, toList_wanted,
      List.append_assoc]
  by_cases hTwice : LeadsTwice (cleaned name)
  · obtain ⟨first, second, rest, hCleaned, hFirst, hSecond⟩ := hTwice
    have hWanted : (wanted name).toList = second :: rest := by
      rw [toList_wanted, hCleaned, dropLead_of_isLead hFirst, guardLead_of_ne]
      rcases hSecond with rfl | rfl <;> decide
    rw [← toList_wanted, hWanted, List.cons_append] at hFile
    rw [isShown_of_toList hFile, hCleaned]
    rcases hSecond with rfl | rfl
    · exact iff_of_false (fun h => h.1 rfl) (fun h => h (.point hFirst))
    · rw [and_iff_right (by decide), forall_prop_of_true rfl, keepsSign_hyphen_iff hFirst]
      rcases rest with _ | ⟨next, rest⟩
      · have hHyphen : wanted name = "-" := by
          rw [← String.toList_inj, hWanted]
          rfl
        have hLower : Text.lower "-" = "-" := by decide +kernel
        rw [hHyphen] at hFree hTaken
        rcases k with _ | k
        · have hKey : "-" ∉ r.files.keys := by rwa [underscored, hLower] at hFree
          simp [hKey, fileExtension]
        · have hKey : "-" ∈ r.files.keys := hLower ▸ hTaken 0 (Nat.succ_pos k)
          simp [hKey, List.replicate_succ]
      · simp
  · have hNot : ¬ KeepsSign r.files.keys (cleaned name) := fun hKeeps => hTwice hKeeps.leadsTwice
    obtain ⟨c, rest, hEq, hPoint, hHyphen⟩ :=
      exists_guardLead (not_isLead_of_mem_dropLead hTwice)
    rw [hEq, List.cons_append] at hFile
    refine iff_of_true ((isShown_of_toList hFile).2 ⟨hPoint, fun hc => ?_⟩) hNot
    obtain ⟨rest, rfl⟩ := List.head?_eq_some_iff.1 (hHyphen hc)
    rfl

/-- The page of a source file outside of the shared directories is a hidden file. -/
theorem not_isShown_outerFile : (fresh.issueFile "../lib.js").1 = "._lib.js.html" ∧
    ¬ IsShown (fresh.issueFile "../lib.js").1 := by
  decide +kernel

end LinkRegistry

end DocSite
