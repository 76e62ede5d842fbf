import DocSite.Proofs.Symbol.Filing
import DocSite.Proofs.Symbol.Linking

/-! What finishing leaves alone. The symbols get names, exports, listeners, short paths and
ids, but each keeps its place and its doclet, and no table by which symbols are found is
written any more. -/

namespace DocSite

namespace SymbolIndex

/-! ### Symbols -/

/-- A symbol without its id, as it is before it is linked. -/
def unlinked (s : Symbol) : Symbol := { s with id := none }

theorem Linking.unlinked_link {l l' : Linking} {needsFile : List String} {s s' : Symbol}
    (h : l.link needsFile s = .ok (s', l')) : unlinked s' = unlinked s := by
  cases hLongname : s.longname with
  | none =>
    rw [l.link_of_none needsFile hLongname] at h
    rw [← (Prod.mk.inj (Except.ok.inj h)).1]
  | some longname =>
    obtain ⟨url, r, -, -, hLink⟩ := l.link_of_some needsFile hLongname
    rcases hAssign : ({ l with registry := r } : Linking).assignId s longname url with ⟨id, l₁⟩
    rw [hLink hAssign] at h
    rw [← (Prod.mk.inj (Except.ok.inj h)).1]
    rfl

/-- Linking gives ids and changes nothing else of the symbols. -/
theorem Linking.unlinked_linkAll {needsFile : List String} {ss linked : List Symbol}
    {l l' : Linking} (h : l.linkAll needsFile ss = .ok (linked, l')) :
    linked.map unlinked = ss.map unlinked := by
  induction ss generalizing l l' linked with
  | nil =>
    obtain ⟨rfl, -⟩ := Prod.mk.inj (Except.ok.inj h)
    rfl
  | cons s ss ih =>
    cases hLink : l.link needsFile s with
    | error e => simp [linkAll, hLink, bind, Except.bind] at h
    | ok answer =>
      obtain ⟨s', l₁⟩ := answer
      cases hAll : l₁.linkAll needsFile ss with
      | error e => simp [linkAll, hLink, hAll, bind, Except.bind] at h
      | ok rest =>
        obtain ⟨rest, l₂⟩ := rest
        simp only [linkAll, hLink, hAll, bind, Except.bind, pure, Except.pure] at h
        obtain ⟨rfl, -⟩ := Prod.mk.inj (Except.ok.inj h)
        rw [List.map_cons, List.map_cons, unlinked_link hLink, ih hAll]

variable {ix ix' : SymbolIndex}

theorem doclets_resolveExports (ix : SymbolIndex) : ix.resolveExports.doclets = ix.doclets := by
  refine List.ext_getElem (by simp [resolveExports, doclets]) fun place h _ => ?_
  simp only [resolveExports, doclets, List.getElem_map, List.getElem_mapIdx]
  split <;> rfl

theorem doclets_addListeners (ix : SymbolIndex) : ix.addListeners.doclets = ix.doclets := by
  simp only [addListeners, doclets, List.map_map]
  refine List.map_congr_left fun s _ => ?_
  dsimp only [Function.comp_apply]
  split <;> rfl

theorem doclets_ready (ix : SymbolIndex) : ix.ready.doclets = ix.doclets :=
  (doclets_addListeners _).trans (doclets_resolveExports ix)

/-! ### Tables -/

/-- What a finished index has in common with the index that was finished. -/
structure Finishes (ix ix' : SymbolIndex) : Prop where
  doclets_eq : ix'.doclets = ix.doclets
  symbols_eq : ix'.symbols = ix.symbols
  globals_eq : ix'.globals = ix.globals
  byLongname_eq : ix'.byLongname = ix.byLongname
  outputLongnames_eq : ix'.outputLongnames = ix.outputLongnames
  navTree_eq : ix'.navTree = NavTree.ofLongnames ix.outputLongnames

theorem exists_registry_linkSources (ix : SymbolIndex) :
    ∃ registry, ix.linkSources = { ix with registry } := by
  unfold linkSources
  split
  · exact ⟨_, rfl⟩
  · exact ⟨ix.registry, rfl⟩

/-- Finishing an index that is ready gives its symbols short paths and ids and registers
addresses, and that is all. -/
theorem eq_of_finalize (h : ix.finalize = .ok ix') : ∃ symbols registry,
    ix' = { ix.ready with retained := symbols, registry, finalized := true } ∧
      symbols.map unlinked = ix.ready.retained.map fun s =>
        unlinked { s with
          shortPath := s.sourcePath.bind fun path => (ix.ready.shortPaths.get? path).join } := by
  rw [finalize_eq] at h
  split_ifs at h
  simp only [linkSymbols, bind, Except.bind] at h
  split at h
  next => contradiction
  next linked hLink =>
    split at hLink
    next => contradiction
    next answer hAll =>
      obtain ⟨symbols, l⟩ := answer
      have hSame := Linking.unlinked_linkAll hAll
      rw [List.map_map] at hSame
      obtain rfl := Except.ok.inj hLink
      obtain rfl := Except.ok.inj h
      obtain ⟨registry, hSources⟩ := exists_registry_linkSources
        { ix.ready with retained := symbols, registry := l.registry }
      refine ⟨symbols, registry, ?_, hSame⟩
      rw [hSources]

theorem finishes_of_finalize (h : ix.finalize = .ok ix') : ix.Finishes ix' := by
  obtain ⟨symbols, registry, rfl, hSame⟩ := eq_of_finalize h
  have hDoclets := congrArg (List.map Symbol.doclet) hSame
  rw [List.map_map, List.map_map] at hDoclets
  exact { doclets_eq := hDoclets.trans ix.doclets_ready, symbols_eq := rfl, globals_eq := rfl,
          byLongname_eq := rfl, outputLongnames_eq := rfl, navTree_eq := rfl }

section Tables
variable {r : LinkRegistry} {registersSources : Bool} {ds : List Doclet}
  (h : ((empty r registersSources).ingest ds).finalize = .ok ix)
include h

/-- What has been filed is still there when the index is finished. -/
theorem hasFiled_of_finalize : ix.HasFiled ix.doclets := by
  have hAdded := (hasAdded_empty r registersSources).ingest ds
  have hDoclets := (finishes_of_finalize h).doclets_eq
  obtain ⟨symbols, registry, hEq, -⟩ := eq_of_finalize h
  rw [hDoclets, hEq]
  exact { hAdded.filed with }

theorem get_symbolsFor_of_finalize (longname : String) (c : Category) :
    (ix.symbolsFor longname).get c =
      ix.doclets.findIdxs fun d => d.isNamed longname && d.isIn c := by
  rw [symbolsFor, (hasFiled_of_finalize h).byLongname.getD, get_filings]

theorem get_membersOf_of_finalize (memberof : String) (c : Category) :
    (ix.membersOf memberof).get c =
      ix.doclets.findIdxs fun d => d.isMember memberof && d.isIn c := by
  rw [membersOf, (hasFiled_of_finalize h).byMemberof.getD, get_filings]

theorem get_globals_of_finalize (c : Category) :
    ix.globals.get c = ix.doclets.findIdxs fun d => d.isGlobal && d.isIn c := by
  rw [(hasFiled_of_finalize h).globals, get_filings]

end Tables

end SymbolIndex

end DocSite
