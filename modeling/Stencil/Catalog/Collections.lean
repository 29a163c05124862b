import Stencil.Catalog.Family

namespace Stencil.Catalog

/-- Booleans and bytes have so few values that no ordered structures are generated for them. -/
def hasTreeTypes (kind : Kind) : Bool :=
  kind != .boolean && kind != .byte

def collections : Namespace where
  name := "kala.collection.primitive"
  directives := kinds.flatMap <|
    members [⟨"", "Collection"⟩, ⟨"", "CollectionView"⟩, ⟨"", "CollectionLike"⟩,
      ⟨"Abstract", "Collection"⟩, ⟨"Abstract", "CollectionView"⟩, ⟨"", "Seq"⟩, ⟨"", "SeqView"⟩,
      ⟨"", "SeqLike"⟩, ⟨"Indexed", "SeqLike"⟩, ⟨"Indexed", "Seq"⟩, ⟨"Abstract", "Seq"⟩,
      ⟨"Abstract", "SeqView"⟩, ⟨"", "SeqIterator"⟩, ⟨"Abstract", "SeqIterator"⟩, ⟨"", "ArraySeq"⟩,
      ⟨"", "Set"⟩, ⟨"", "SetView"⟩, ⟨"", "SetLike"⟩, ⟨"Abstract", "Set"⟩, ⟨"Abstract", "SetView"⟩]

def sequenceIterators : Namespace where
  name := "kala.collection.primitive.internal"
  directives := kinds.flatMap <| members [⟨"", "SeqIterators"⟩]

def trees : Namespace where
  name := "kala.collection.primitive.internal.tree"
  directives := (kinds.filter hasTreeTypes).flatMap <| members [⟨"", "RedBlackTree"⟩]

def views : Namespace where
  name := "kala.collection.primitive.internal.view"
  directives := kinds.flatMap <|
    members [⟨"", "CollectionViews"⟩, ⟨"", "SeqViews"⟩, ⟨"", "SetViews"⟩]

def immutableCollections : Namespace where
  name := "kala.collection.immutable.primitive"
  directives := kinds.flatMap fun kind =>
    members [⟨"Immutable", "Collection"⟩, ⟨"AbstractImmutable", "Collection"⟩, ⟨"Immutable", "Seq"⟩,
      ⟨"AbstractImmutable", "Seq"⟩, ⟨"Immutable", "Array"⟩, ⟨"Immutable", "Set"⟩,
      ⟨"AbstractImmutable", "Set"⟩] kind ++
    if hasTreeTypes kind then members [⟨"ImmutableSorted", "ArraySet"⟩] kind else []

/-- Lists of booleans are packed into bits and written by hand. -/
def mutableCollections : Namespace where
  name := "kala.collection.mutable.primitive"
  directives := kinds.flatMap fun kind =>
    members [⟨"Mutable", "Collection"⟩, ⟨"AbstractMutable", "Collection"⟩, ⟨"Mutable", "Seq"⟩,
      ⟨"Mutable", "List"⟩, ⟨"AbstractMutable", "Seq"⟩, ⟨"AbstractMutable", "List"⟩,
      ⟨"AbstractMutable", "ListFactory"⟩, ⟨"Mutable", "SeqIterator"⟩, ⟨"Mutable", "ListIterator"⟩,
      ⟨"Mutable", "Array"⟩] kind ++
    (if kind = .boolean then [] else members [⟨"Mutable", "ArrayList"⟩] kind) ++
    members [⟨"Mutable", "Set"⟩, ⟨"AbstractMutable", "Set"⟩, ⟨"AbstractMutable", "SetFactory"⟩] kind ++
    if hasTreeTypes kind then members [⟨"Mutable", "TreeSet"⟩] kind else []

/-- The collections of each kind, with their views, iterators, lists and sets. -/
def collectionPrimitive : Task where
  namespaces := [collections, sequenceIterators, trees, views, immutableCollections,
    mutableCollections]

end Stencil.Catalog
