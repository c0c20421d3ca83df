import ClassAtlas.Record
import ClassAtlas.Text.Utf8

/-
  ClassAtlas.Comparison — records where they are kept in hashed or sorted collections.

  A hash is computed from what a record gives to it: the bytes of some of its texts, each
  closed by a byte that is in none. Where things need not be comparable an order may have no
  answer; that of methods always has one.
-/

namespace ClassAtlas

/-- What texts give to a hash. -/
def Text.hashInput (texts : List String) : Bytes := texts.flatMap fun t => Utf8.encode t.toList ++ [0xFF]

def AnnotationRecord.hashInput (a : AnnotationRecord) : Bytes := Text.hashInput [a.name]

def FieldRecord.hashInput (f : FieldRecord) : Bytes := Text.hashInput [f.signature, f.declaringClass]

def MethodRecord.hashInput (m : MethodRecord) : Bytes := Text.hashInput [m.signature, m.declaringClass]

def MethodRecord.order? (a b : MethodRecord) : Option Ordering := some (a.order b)

end ClassAtlas
