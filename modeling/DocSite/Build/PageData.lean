import DocSite.Symbol.Finalize
import DocSite.Tutorial

/-! The data of pages: what the views are given of symbols, packages and tutorials. -/

namespace DocSite

namespace Doclet

/-- The name of the field that describes what a doclet documents. It is passed on as it is. -/
def descriptionField : String := "description"

def pageData (d : Doclet) : Datum :=
  .ofFields <|
    [("variation", .ofText? d.variation), ("version", .ofText? d.version),
     ("listens", (d.listens.map Datum.ofTexts).getD .null),
     ("meta", match d.location with
        | some m => .ofFields [("lineno", (m.lineno.map Datum.int).getD .null)]
        | none => .null)] ++
    match d.extra? descriptionField with
      | some description => [(descriptionField, description)]
      | none => []

end Doclet

namespace Symbol

/-- What a page shows of a symbol, what it exports apart. -/
def ownFields (s : Symbol) : List (String × Datum) :=
  [("id", .ofText? s.id), ("name", .ofText? s.name), ("ancestors", .ofTexts s.ancestors),
   ("listeners", .ofTexts s.listeners),
   ("examples", .list (s.examples.map fun e =>
      .ofFields [("caption", .text e.caption), ("code", .text e.code)])),
   ("see", .ofTexts s.see), ("shortpath", .ofText? s.shortPath), ("doclet", s.doclet.pageData)]

end Symbol

namespace SymbolIndex

variable (ix : SymbolIndex)

def symbolData (s : Symbol) : Datum :=
  let exported := match s.exported.bind ix.symbolAt? with
    | some e => .ofFields e.ownFields
    | none => .null
  .ofFields (s.ownFields ++ [("exports", exported)])

def symbolsData (places : List Nat) : Datum :=
  .list ((places.filterMap ix.symbolAt?).map ix.symbolData)

/-- What a page shows of the symbols of a bucket, by category. -/
def bucketData (b : Bucket) : Datum :=
  .ofFields (b.categories.map fun (c, places) => (c.label, ix.symbolsData places))

def packageData : Datum := ((ix.package?.bind ix.symbolAt?).map ix.symbolData).getD .null

/-- The name of the package, if it has one that is not empty. -/
def packageName? : Option String :=
  ((ix.package?.bind ix.symbolAt?).bind Symbol.name).filter (· != "")

end SymbolIndex

def Tutorial.linkData (t : Tutorial) : Datum :=
  .ofFields [("name", .text t.name), ("title", .text t.title)]

end DocSite
