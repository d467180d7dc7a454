import CrudPlan.Yaml.Frame
import CrudPlan.Yaml.Lexer

namespace CrudPlan.Yaml

/-- How far a text has been read. -/
inductive Stage
  /-- Before the document; `declared` is set behind a directive. -/
  | preamble (declared : Bool) (version : Bool)
  | document
  | complete (root : WrittenNode)
  | ended (root : WrittenNode)

structure Builder where
  stage : Stage := .preamble false false
  handles : TagHandles := []
  /-- The properties of the next node, where some have been read. -/
  pending : Option WrittenProperties := none
  /-- The collections around the place, innermost first. -/
  frames : List Frame := []

namespace Builder

/-- Puts a complete node into a stack of collections. -/
def put? (b : Builder) (frames : List Frame) (n : WrittenNode) : Option Builder :=
  match frames with
  | [] => some { b with stage := .complete n, pending := none, frames := [] }
  | f :: frames => do
    return { b with pending := none, frames := (← f.put? n) :: frames }

def openFrame (b : Builder) (f : Frame) : Builder :=
  { b with pending := none, frames := f :: b.frames }

/-- Takes a token that is a node or starts one, or is a property of one. -/
def node? (b : Builder) (t : Token) : Option Builder :=
  let props := b.pending.getD {}
  match t with
  | .anchor name =>
    if props.anchor.isNone then some { b with pending := some { props with anchor := some name } }
    else none
  | .tag text =>
    if props.tag.isNone then do
      return { b with pending := some { props with tag := some (← b.handles.resolve? text) } }
    else none
  | .alias name => if b.pending.isNone then b.put? b.frames (.alias name) else none
  | .scalar style text => b.put? b.frames (.ofScalar props style text)
  | .flowSequence => some (b.openFrame (.flowSequence props [] .start))
  | .flowMapping => some (b.openFrame (.flowMapping props [] .start))
  | .blockSequence =>
    if Frame.allowsBlock b.frames.head? then some (b.openFrame (.blockSequence props [] .done))
    else none
  | .blockMapping =>
    if Frame.allowsBlock b.frames.head? then some (b.openFrame (.blockMapping props [] .done))
    else none
  | .item =>
    if Frame.allowsAligned b.frames.head? then some (b.openFrame (.alignedSequence props [] .item))
    else none
  | _ => none

/-- Takes a token outside of all collections. -/
def outside? (b : Builder) (t : Token) : Option Builder :=
  match b.stage, t with
  | .preamble _ false, .directive (.version 1 minor) =>
    if minor = 1 ∨ minor = 2 then some { b with stage := .preamble true true } else none
  | .preamble _ version, .directive (.handle name beginning) =>
    if (b.handles.lookup name).isNone then
      some { b with
        stage := .preamble true version
        handles := b.handles ++ [(name, beginning)] }
    else none
  | .preamble _ _, .documentStart => some { b with stage := .document }
  | .preamble false _, .streamEnd => some { b with stage := .ended .empty }
  | .preamble false _, t => { b with stage := .document }.node? t
  | .document, .documentEnd => some { b with stage := .complete .empty }
  | .document, .streamEnd => some { b with stage := .ended .empty }
  | .document, t => b.node? t
  | .complete root, .documentEnd => some { b with stage := .complete root }
  | .complete root, .streamEnd => some { b with stage := .ended root }
  | _, _ => none

/-- Takes a token where no properties are pending. -/
def take? (b : Builder) (t : Token) : List Frame → Option Builder
  | [] => { b with frames := [] }.outside? t
  | f :: frames =>
    match f.react t with
    | none => none
    | some (.stay f) => some { b with frames := f :: frames }
    | some (.close n) => b.put? frames n
    | some .node => { b with frames := f :: frames }.node? t
    | some (.leave n) =>
      match frames with
      | [] => none
      | g :: frames => do b.take? t ((← g.put? n) :: frames)
termination_by frames => frames.length

/-- Takes the next token. Properties that no node follows belong to an empty one. -/
def step (b : Builder) (t : Token) : Option Builder :=
  match b.pending with
  | none => b.take? t b.frames
  | some props =>
    match b.node? t with
    | some b => some b
    | none => do
      let b ← b.put? b.frames (.scalar props .plain "")
      b.take? t b.frames

def root? (b : Builder) : Option WrittenNode :=
  match b.stage with
  | .ended root => some root
  | _ => none

end Builder

/-- The document of a text as written, an empty node if there is none. -/
def WrittenNode.parse? (s : String) : Option WrittenNode := do
  let b ← (← tokens? s).foldlM Builder.step {}
  b.root?

end CrudPlan.Yaml
