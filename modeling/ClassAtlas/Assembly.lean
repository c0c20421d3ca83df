import ClassAtlas.Event

/-
  ClassAtlas.Assembly — the receiver that builds a class record from its events.

  Nothing is known until a header comes (`draft = none`). From then on the record is
  there, and the assembly stands at a `Place`: in the class itself, in the member that
  was declared last, or behind the class once its end has come. At most one annotation
  is open; its values are gathered until it ends, and then it is attached to the place
  at which it was opened. An annotation of a parameter is gathered in the same way and
  let go.

  Ends may be missing. A member ends what came before it, an annotation ends the one
  before it, and each such repair leaves a `Notice`. What cannot be repaired is refused:
  an event that needs a class body outside of one, and a second header. A refused event
  changes nothing.
-/

namespace ClassAtlas

/-- The events as they are named in a refusal. -/
inductive Callback where
  | field
  | method
  | annotationStart
  | parameterStart
  | value
  | finish
  | result
  deriving DecidableEq, Repr

def Callback.word : Callback → String
  | field => "field"
  | method => "method"
  | annotationStart => "annotation"
  | parameterStart => "parameter annotation"
  | value => "value"
  | finish => "end"
  | result => "finish"

inductive AssemblyError where
  | outsideBody (callback : Callback) (location : String)
  | secondClass (name location : String)
  | unfinished (location : String)
  deriving DecidableEq, Repr

def AssemblyError.message : AssemblyError → String
  | outsideBody c l => c.word ++ " callback outside the class body (unit from " ++ l ++ ")"
  | secondClass n l => "second class declaration after " ++ n ++ " in one unit (from " ++ l ++ ")"
  | unfinished l => "class stream from " ++ l ++ " ended before the class was closed"

inductive Notice where
  | valueDropped (location name : String)
  | parameterNoteDropped (typeName className : String) (parameter : UInt8)
  | duplicateDropped (typeName className : String)
  | annotationLeftOpen (location : String)
  | memberLeftOpen (location : String)
  | annotationCutShort (location : String)
  | endAfterClose (location : String)
  deriving DecidableEq, Repr

/-- The line a log shows for a notice: what happened, then its particulars by name. -/
def Notice.line : Notice → String
  | valueDropped l n => "annotation value outside any annotation dropped location=" ++ l ++ " name=" ++ n
  | parameterNoteDropped a c p =>
    "parameter annotation not attached annotation=" ++ a ++ " class=" ++ c ++ " parameter=" ++ toString p.toNat
  | duplicateDropped a c => "duplicate annotation ignored annotation=" ++ a ++ " class=" ++ c
  | annotationLeftOpen l => "annotation left open before next member location=" ++ l
  | memberLeftOpen l => "member declared without end callback location=" ++ l
  | annotationCutShort l => "annotation opened before previous one ended location=" ++ l
  | endAfterClose l => "end callback after class was closed location=" ++ l

/-- Where the next annotation goes. -/
inductive Place where
  | body
  | member (m : Member)
  | closed
  deriving DecidableEq, Repr

def Place.member? : Place → Option Member
  | body => none
  | member m => some m
  | closed => none

/-- An annotation whose end has not come; `parameter` is set when it stands on one. -/
structure Pending where
  record : AnnotationRecord
  parameter : Option UInt8

structure Draft where
  record : ClassRecord
  place : Place
  pending : Option Pending

structure Assembly where
  location : String
  bytecode : Option Bytes
  draft : Option Draft

namespace Draft

/-- Attach the open annotation, if there is one, to the place where the draft stands. -/
def settle (d : Draft) : Draft × List Notice :=
  match d.pending with
  | none => (d, [])
  | some ⟨a, some p⟩ => ({ d with pending := none }, [.parameterNoteDropped a.name d.record.name p])
  | some ⟨a, none⟩ =>
    ({ d with record := d.record.annotate a d.place.member?, pending := none },
      if isPresent (d.record.annotationsOf d.place.member?) a.name
        then [.duplicateDropped a.name d.record.name] else [])

/-- Back to the class itself, so that the next member can be declared. -/
def leaveMember (d : Draft) (location : String) : Draft × List Notice :=
  let (s, notices) := d.settle
  ({ s with place := .body },
    notices ++ (if d.pending.isSome then [.annotationLeftOpen location] else []) ++
      (if d.place.member?.isSome then [.memberLeftOpen location] else []))

def startNote (d : Draft) (location : String) (a : AnnotationRecord) (parameter : Option UInt8) : Draft × List Notice :=
  let (s, notices) := d.settle
  ({ s with pending := some ⟨a, parameter⟩ },
    notices ++ (if d.pending.isSome then [.annotationCutShort location] else []))

/-- Declare a member: `add` puts it at the end of its list, where `index` then finds it. -/
def declare (d : Draft) (location : String) (add : ClassRecord → ClassRecord) (index : ClassRecord → Member) :
    Draft × List Notice :=
  let (s, notices) := d.leaveMember location
  ({ s with record := add s.record, place := .member (index s.record) }, notices)

def pushValue (d : Draft) (location : String) (name : String) (v : Value) : Draft × List Notice :=
  match d.pending with
  | some p => ({ d with pending := some { p with record := p.record.push name v } }, [])
  | none => (d, [.valueDropped location name])

/-- End the open annotation, or else the member, or else the class. -/
def finish (d : Draft) (location : String) : Draft × List Notice :=
  match d.pending, d.place with
  | some _, _ => d.settle
  | none, .member _ => ({ d with place := .body }, [])
  | none, .body => ({ d with place := .closed }, [])
  | none, .closed => (d, [.endAfterClose location])

end Draft

namespace Assembly

def start (location : String) (bytecode : Option Bytes) : Assembly := ⟨location, bytecode, none⟩

def isComplete (s : Assembly) : Bool := s.draft.any (·.place == .closed)

/-- Change the draft by `change`, if the class is open; refuse `callback` otherwise. -/
def inBody (s : Assembly) (callback : Callback) (change : Draft → Draft × List Notice) :
    Except AssemblyError (Assembly × List Notice) :=
  match s.draft with
  | none => .error (.outsideBody callback s.location)
  | some d =>
    if d.place = .closed then .error (.outsideBody callback s.location)
    else .ok ({ s with draft := some (change d).1 }, (change d).2)

def step (s : Assembly) : Event → Except AssemblyError (Assembly × List Notice)
  | .header access name super interfaces =>
    match s.draft with
    | some d => .error (.secondClass d.record.name s.location)
    | none =>
      let record := { ClassRecord.new access name super interfaces s.location with bytecode := s.bytecode }
      .ok ({ s with bytecode := none, draft := some ⟨record, .body, none⟩ }, [])
  | .field access name descriptor signature value =>
    s.inBody .field
      (·.declare s.location (·.addField access name descriptor signature value) fun c => .field c.fields.length)
  | .method access name descriptor signature exceptions =>
    s.inBody .method
      (·.declare s.location (·.addMethod access name descriptor signature exceptions) fun c => .method c.methods.length)
  | .annotationStart descriptor visible =>
    s.inBody .annotationStart (·.startNote s.location (AnnotationRecord.ofDescriptor descriptor visible) none)
  | .parameterStart index descriptor visible =>
    s.inBody .parameterStart (·.startNote s.location (AnnotationRecord.ofDescriptor descriptor visible) (some index))
  | .value name v => s.inBody .value (·.pushValue s.location name v)
  | .finish =>
    match s.draft with
    | none => .error (.outsideBody .finish s.location)
    | some d => .ok ({ s with draft := some (d.finish s.location).1 }, (d.finish s.location).2)

/-- The finished record; a class that was never declared or never closed yields none. -/
def result (s : Assembly) : Except AssemblyError ClassRecord :=
  match s.draft with
  | none => .error (.outsideBody .result s.location)
  | some d => if d.place = .closed then .ok d.record else .error (.unfinished s.location)

def receive (s : Assembly) (e : Event) : Except AssemblyError Assembly := (s.step e).map (·.1)

/-- What a receiver that goes on after a refusal holds after the events. -/
def run (s : Assembly) (es : List Event) : Assembly :=
  es.foldl (fun s e => match s.step e with | .ok r => r.1 | .error _ => s) s

end Assembly

end ClassAtlas
