import DocSite.Category

/-! Buckets of symbols. A bucket holds symbols by their places, each under a
category, in the order in which they were put in. -/

namespace DocSite

/-- Places of symbols with their categories, in insertion order. -/
structure Bucket where
  entries : List (Category × Nat) := []
deriving DecidableEq, Repr

namespace Bucket

def add (b : Bucket) (place : Nat) (c : Category) : Bucket := ⟨b.entries ++ [(c, place)]⟩

def get (b : Bucket) (c : Category) : List Nat :=
  (b.entries.filter fun e => e.1 = c).map (·.2)

/-- Whether there is a symbol, in the given category if one is given. -/
def hasSymbols (b : Bucket) : Option Category → Bool
  | some c => !(b.get c).isEmpty
  | none => !b.entries.isEmpty

/-- The symbol that was put in first, whatever its category. -/
def first? (b : Bucket) : Option Nat := b.entries.head?.map (·.2)

def categories (b : Bucket) : List (Category × List Nat) :=
  (Category.all.map fun c => (c, b.get c)).filter fun e => !e.2.isEmpty

/-- All symbols in the order of categories. -/
def toList (b : Bucket) : List Nat := Category.all.flatMap b.get

def size (b : Bucket) : Nat := b.entries.length

@[simp] theorem get_empty (c : Category) : get {} c = [] := rfl

@[simp] theorem size_add (b : Bucket) (place : Nat) (c : Category) :
    (b.add place c).size = b.size + 1 := by
  simp [add, size]

end Bucket

end DocSite
