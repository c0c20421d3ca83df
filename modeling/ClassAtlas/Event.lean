import ClassAtlas.Record

/-
  ClassAtlas.Event — one class told as a stream of events.

  The grammar of a whole class:

    unit       := header annotation* field* method* finish
    field      := field annotation* finish
    method     := method annotation* parameter* finish
    annotation := annotation value* finish
    parameter  := parameterAnnotation value* finish

  `finish` does not say what it ends: it ends the annotation that is open, or else the
  innermost element. Names of types are written with slashes here; a receiver turns them.

  A receiver is a step `σ → Event → Except ε σ`. `deliver` hands it the events in order,
  up to the first that it refuses.
-/

namespace ClassAtlas

inductive Event where
  | header (access : Access) (name : String) (super : Option String) (interfaces : List String)
  | field (access : Access) (name descriptor : String) (signature : Option String) (value : Option Constant)
  | method (access : Access) (name descriptor : String) (signature : Option String) (exceptions : Option (List String))
  | annotationStart (descriptor : String) (visible : Bool)
  | parameterStart (index : UInt8) (descriptor : String) (visible : Bool)
  | value (name : String) (v : Value)
  | finish

/-- The receiver's last state, and what it said to the event that it refused. -/
def deliver {σ ε : Type} (receive : σ → Event → Except ε σ) (s : σ) : List Event → σ × Option ε
  | [] => (s, none)
  | e :: es =>
    match receive s e with
    | .ok s' => deliver receive s' es
    | .error err => (s, some err)

end ClassAtlas
