import CrudPlan.Yaml.Node

namespace CrudPlan.Yaml

/-- A document as written, where anchors have names. -/
abbrev WrittenNode := Node String

abbrev WrittenProperties := Properties String

/-- Where in the pairs of a mapping. -/
inductive PairPlace
  /-- Behind a pair, or before the first one of an indented mapping. -/
  | done
  /-- Behind an opening bracket or a comma. -/
  | start
  /-- Behind the token of a key. -/
  | key
  | separator (key : WrittenNode)
  /-- Behind the colon. -/
  | value (key : WrittenNode)

/-- Where in the items of an indented sequence. -/
inductive ItemPlace
  | done
  /-- Behind a dash. -/
  | item

/-- A collection with its items or pairs so far, last one first. -/
inductive Frame
  | blockSequence (props : WrittenProperties) (items : List WrittenNode) (place : ItemPlace)
  /-- A sequence in a mapping that is indented as much as the mapping's keys. -/
  | alignedSequence (props : WrittenProperties) (items : List WrittenNode) (place : ItemPlace)
  | blockMapping (props : WrittenProperties) (pairs : List (WrittenNode × WrittenNode))
    (place : PairPlace)
  /-- The place is that of an item, or one in an item that is a pair without brackets. -/
  | flowSequence (props : WrittenProperties) (items : List WrittenNode) (place : PairPlace)
  | flowMapping (props : WrittenProperties) (pairs : List (WrittenNode × WrittenNode))
    (place : PairPlace)

/-- What a token does in a collection. -/
inductive Reaction
  | stay (f : Frame)
  /-- The token ends the collection. -/
  | close (n : WrittenNode)
  /-- The collection has ended before the token. -/
  | leave (n : WrittenNode)
  /-- The token has to belong to a node in the collection. -/
  | node

namespace Frame

/-- A node without collections around it may be an indented collection. -/
def allowsBlock : Option Frame → Bool
  | some (.flowSequence ..) | some (.flowMapping ..) => false
  | _ => true

def allowsAligned : Option Frame → Bool
  | some (.blockMapping ..) => true
  | _ => false

def singlePair (key value : WrittenNode) : WrittenNode := .mapping {} [(key, value)]

/-- Puts a complete node into a collection that waits for one. -/
def put? (n : WrittenNode) : Frame → Option Frame
  | .blockSequence props items .item => some (.blockSequence props (n :: items) .done)
  | .alignedSequence props items .item => some (.alignedSequence props (n :: items) .done)
  | .blockMapping props pairs .key => some (.blockMapping props pairs (.separator n))
  | .blockMapping props pairs (.value key) =>
    some (.blockMapping props ((key, n) :: pairs) .done)
  | .flowSequence props items .start => some (.flowSequence props (n :: items) .done)
  | .flowSequence props items .key => some (.flowSequence props items (.separator n))
  | .flowSequence props items (.value key) =>
    some (.flowSequence props (singlePair key n :: items) .done)
  | .flowMapping props pairs .start => some (.flowMapping props ((n, .empty) :: pairs) .done)
  | .flowMapping props pairs .key => some (.flowMapping props pairs (.separator n))
  | .flowMapping props pairs (.value key) => some (.flowMapping props ((key, n) :: pairs) .done)
  | _ => none

def reactBlockSequence (props : WrittenProperties) (items : List WrittenNode) :
    ItemPlace → Token → Option Reaction
  | .done, .item => some (.stay (.blockSequence props items .item))
  | .done, .blockEnd => some (.close (.sequence props items.reverse))
  | .done, _ => none
  | .item, .item => some (.stay (.blockSequence props (.empty :: items) .item))
  | .item, .blockEnd => some (.close (.sequence props (.empty :: items).reverse))
  | .item, _ => some .node

def reactAlignedSequence (props : WrittenProperties) (items : List WrittenNode) :
    ItemPlace → Token → Reaction
  | .done, .item => .stay (.alignedSequence props items .item)
  | .done, _ => .leave (.sequence props items.reverse)
  | .item, .item => .stay (.alignedSequence props (.empty :: items) .item)
  | .item, .key | .item, .value | .item, .blockEnd =>
    .leave (.sequence props (.empty :: items).reverse)
  | .item, _ => .node

def reactBlockMapping (props : WrittenProperties) (pairs : List (WrittenNode × WrittenNode))
    (place : PairPlace) (t : Token) : Option Reaction :=
  let keyAfter (pairs : List (WrittenNode × WrittenNode)) : Reaction :=
    .stay (.blockMapping props pairs .key)
  let endAfter (pairs : List (WrittenNode × WrittenNode)) : Reaction :=
    .close (.mapping props pairs.reverse)
  match place, t with
  | .done, .key | .start, .key => some (keyAfter pairs)
  | .done, .blockEnd | .start, .blockEnd => some (endAfter pairs)
  | .done, _ | .start, _ => none
  | .key, .key => some (keyAfter ((.empty, .empty) :: pairs))
  | .key, .value => some (.stay (.blockMapping props pairs (.value .empty)))
  | .key, .blockEnd => some (endAfter ((.empty, .empty) :: pairs))
  | .key, _ => some .node
  | .separator key, .value => some (.stay (.blockMapping props pairs (.value key)))
  | .separator key, .key | .value key, .key => some (keyAfter ((key, .empty) :: pairs))
  | .separator key, .blockEnd | .value key, .blockEnd =>
    some (endAfter ((key, .empty) :: pairs))
  | .separator _, _ | .value _, .value => none
  | .value _, _ => some .node

/-- Behind an item. -/
def reactAfterItem (props : WrittenProperties) (items : List WrittenNode) :
    Token → Option Reaction
  | .flowSequenceEnd => some (.close (.sequence props items.reverse))
  | .comma => some (.stay (.flowSequence props items .start))
  | _ => none

/-- A pair whose key is announced but empty takes the token behind the announcement. -/
def reactFlowSequence (props : WrittenProperties) (items : List WrittenNode) :
    PairPlace → Token → Option Reaction
  | .start, .flowSequenceEnd => some (.close (.sequence props items.reverse))
  | .start, .key => some (.stay (.flowSequence props items .key))
  | .start, _ => some .node
  | .done, t => reactAfterItem props items t
  | .key, .value | .key, .comma | .key, .flowSequenceEnd =>
    some (.stay (.flowSequence props items (.separator .empty)))
  | .key, _ => some .node
  | .separator key, .value => some (.stay (.flowSequence props items (.value key)))
  | .separator key, t => reactAfterItem props (singlePair key .empty :: items) t
  | .value key, .comma => reactAfterItem props (singlePair key .empty :: items) .comma
  | .value key, .flowSequenceEnd =>
    reactAfterItem props (singlePair key .empty :: items) .flowSequenceEnd
  | .value _, _ => some .node

/-- Behind a pair. -/
def reactAfterPair (props : WrittenProperties) (pairs : List (WrittenNode × WrittenNode)) :
    Token → Option Reaction
  | .flowMappingEnd => some (.close (.mapping props pairs.reverse))
  | .comma => some (.stay (.flowMapping props pairs .start))
  | _ => none

def reactFlowMapping (props : WrittenProperties) (pairs : List (WrittenNode × WrittenNode)) :
    PairPlace → Token → Option Reaction
  | .start, .flowMappingEnd => some (.close (.mapping props pairs.reverse))
  | .start, .key => some (.stay (.flowMapping props pairs .key))
  | .start, _ => some .node
  | .done, t => reactAfterPair props pairs t
  | .key, .value => some (.stay (.flowMapping props pairs (.value .empty)))
  | .key, .comma => reactAfterPair props ((.empty, .empty) :: pairs) .comma
  | .key, .flowMappingEnd => reactAfterPair props ((.empty, .empty) :: pairs) .flowMappingEnd
  | .key, _ => some .node
  | .separator key, .value => some (.stay (.flowMapping props pairs (.value key)))
  | .separator key, t => reactAfterPair props ((key, .empty) :: pairs) t
  | .value key, .comma => reactAfterPair props ((key, .empty) :: pairs) .comma
  | .value key, .flowMappingEnd => reactAfterPair props ((key, .empty) :: pairs) .flowMappingEnd
  | .value _, _ => some .node

/-- What a token does in a collection, none if it is out of place. -/
def react : Frame → Token → Option Reaction
  | .blockSequence props items place, t => reactBlockSequence props items place t
  | .alignedSequence props items place, t => some (reactAlignedSequence props items place t)
  | .blockMapping props pairs place, t => reactBlockMapping props pairs place t
  | .flowSequence props items place, t => reactFlowSequence props items place t
  | .flowMapping props pairs place, t => reactFlowMapping props pairs place t

end Frame

end CrudPlan.Yaml
