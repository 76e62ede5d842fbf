import DocSite.CommandLine.Run
import DocSite.Proofs.Build.Overwrites
import DocSite.Proofs.Nav.Contents
import DocSite.Proofs.Symbol.OwnPages
import DocSite.Proofs.Symbol.SourceLinks

/-! The table of contents that is printed and the one of a site. The first is made without the
links of source files, so a node of a navigation tree may be linked in the second only: it
encloses a symbol, is none itself, and bears the name of a source file. All nodes that are
longnames of symbols have the same label in both. -/

namespace DocSite

namespace TocEntry

mutual

/-- An entry and what is below it, with the labels of the given ids only. -/
def onlyLabels (ids : List String) : TocEntry → TocEntry
  | ⟨label, id, children⟩ =>
    ⟨if ids.contains id then label else "", id, onlyLabelsOf ids children⟩

/-- The entries of a table, with the labels of the given ids only. -/
def onlyLabelsOf (ids : List String) : List TocEntry → List TocEntry
  | [] => []
  | entry :: rest => onlyLabels ids entry :: onlyLabelsOf ids rest

end

variable (ids : List String)

theorem onlyLabelsOf_eq_map (entries : List TocEntry) :
    onlyLabelsOf ids entries = entries.map (onlyLabels ids) := by
  induction entries with
  | nil => rfl
  | cons entry entries ih => rw [onlyLabelsOf, ih, List.map_cons]

/-- Entries are ordered by their keys, which labels have no part in. -/
theorem onlyLabelsOf_ordered (items : List (String × TocEntry)) :
    onlyLabelsOf ids (ordered items) =
      ordered (items.map fun item => (item.1, onlyLabels ids item.2)) := by
  have hSort : ((items.mergeSort fun a b => a.1 ≤ b.1).map
      fun item => (item.1, onlyLabels ids item.2)) =
        (items.map fun item => (item.1, onlyLabels ids item.2)).mergeSort fun a b => a.1 ≤ b.1 :=
    List.map_mergeSort fun _ _ _ _ => rfl
  rw [onlyLabelsOf_eq_map, ordered, ordered, ← hSort, List.map_map, List.map_map]
  rfl

section Labels
variable {ids} {r r' : LinkRegistry}

mutual

theorem onlyLabels_ofNode (h : ∀ id ∈ ids, labelFor r id = labelFor r' id) :
    (node : NavNode) → onlyLabels ids (ofNode r node) = onlyLabels ids (ofNode r' node)
  | ⟨longname, _, _, children⟩ => by
    have hLabel : (if ids.contains longname then labelFor r longname else "") =
        if ids.contains longname then labelFor r' longname else "" := by
      split
      next hId => exact h longname (by simpa using hId)
      next => rfl
    rw [ofNode, ofNode, onlyLabels, onlyLabels, onlyLabelsOf_ordered, onlyLabelsOf_ordered,
      onlyLabels_ofLevel h children, hLabel]

theorem onlyLabels_ofLevel (h : ∀ id ∈ ids, labelFor r id = labelFor r' id) :
    (level : List (String × NavNode)) →
    ((ofLevel r level).map fun item => (item.1, onlyLabels ids item.2)) =
      (ofLevel r' level).map fun item => (item.1, onlyLabels ids item.2)
  | [] => rfl
  | (_, node) :: rest => by
    rw [ofLevel, ofLevel, List.map_cons, List.map_cons, onlyLabels_ofNode h node,
      onlyLabels_ofLevel h rest]

end

end Labels

end TocEntry

namespace SymbolIndex

end SymbolIndex

end DocSite
