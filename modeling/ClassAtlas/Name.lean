import ClassAtlas.Text.Blank

/-
  ClassAtlas.Name — the spellings of a type's name.

  A class file writes a name with slashes (`com/foo/Bar`), a type of an annotation as a
  descriptor (`Lcom/foo/Bar;`); people write dots, an import line, or the file's name.
  Records hold the dotted form only. `normalize` takes what a person may have typed to it.
-/

namespace ClassAtlas.Name

def slashToDot (c : Char) : Char := if c = '/' then '.' else c

/-- The dotted form of a name with slashes. -/
def external (internal : String) : String := String.ofList (internal.toList.map slashToDot)

/-- The characters of a descriptor without its `L` and `;`. Both go, or the `;` alone. -/
def bareDescriptor (s : List Char) : List Char :=
  match (['L'].isPrefixOf? s).bind [';'].isSuffixOf? with
  | some inner => inner
  | none => ([';'].isSuffixOf? s).getD s

/-- The dotted name of an annotation's type, read from its descriptor. -/
def ofDescriptor (descriptor : String) : String :=
  String.ofList ((bareDescriptor descriptor.toList).map slashToDot)

/-- Everything before the last dot and everything after it; no package without a dot. -/
def splitLast (dotted : String) : String × String :=
  let r := dotted.toList.reverse
  match r.dropWhile (· ≠ '.') with
  | [] => ("", dotted)
  | _ :: front => (String.ofList front.reverse, String.ofList (r.takeWhile (· ≠ '.')).reverse)

def package (dotted : String) : String := (splitLast dotted).1

def simple (dotted : String) : String := (splitLast dotted).2

def dropImport (s : List Char) : List Char :=
  match ['i', 'm', 'p', 'o', 'r', 't', ' '].isPrefixOf? s with
  | some rest => Text.trim rest
  | none => s

/-- Without the semicolons it ends in, if there are any. -/
def dropSemicolons (s : List Char) : List Char :=
  if s.getLast? = some ';' then Text.trim (s.reverse.dropWhile (· = ';')).reverse else s

def dropFileSuffix (s : List Char) : List Char := (['.', 'c', 'l', 'a', 's', 's'].isSuffixOf? s).getD s

/-- The dotted name that a typed text stands for. -/
def normalize (typed : String) : String :=
  let bare := dropFileSuffix (dropSemicolons (dropImport (Text.trim typed.toList)))
  String.ofList ((bare.filter fun c => !Text.isBlank c).map slashToDot)

end ClassAtlas.Name
