import ClassAtlas.Record

/-
  ClassAtlas.Edit — a record that is changed step by step.

  There are four changes: a field more, a method more, an annotation more, and a parameter more
  of an annotation that is there. Each is answered, a member by its place and an annotation by
  whether it was attached. What is asked of a member or of an annotation that the record does not
  have is answered as missing, and the record stays as it is.
-/

namespace ClassAtlas

inductive Edit where
  | addField (access : Access) (name descriptor : String) (signature : Option String)
    (value : Option Constant)
  | addMethod (access : Access) (name descriptor : String) (signature : Option String)
    (exceptions : Option (List String))
  | annotate (element : Option Member) (a : AnnotationRecord)
  /-- A parameter for the annotation at a place of the element. -/
  | pushParam (element : Option Member) (place : Nat) (name : String) (value : Value)

inductive Answer where
  | added (m : Member)
  | attached (isNew : Bool)
  | pushed (a : AnnotationRecord)
  | missing

namespace ClassRecord

def edit (c : ClassRecord) : Edit → ClassRecord × Answer
  | .addField access name descriptor signature value =>
    (c.addField access name descriptor signature value, .added (.field c.fields.length))
  | .addMethod access name descriptor signature exceptions =>
    (c.addMethod access name descriptor signature exceptions, .added (.method c.methods.length))
  | .annotate element a =>
    if c.Has element then (c.annotate a element, .attached !(c.annotationsOf element).any (·.same a)) else (c, .missing)
  | .pushParam element place name value =>
    match (c.annotationsOf element)[place]? with
    | some a => (c.modifyAnnotationAt place (·.push name value) element, .pushed (a.push name value))
    | none => (c, .missing)

/-- One change after the other. -/
def edits (c : ClassRecord) (es : List Edit) : ClassRecord := es.foldl (fun c e => (c.edit e).1) c

end ClassRecord

end ClassAtlas
