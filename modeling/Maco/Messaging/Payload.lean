import Maco.Base.Json
import Maco.Base.Map
import Maco.Base.Result
import Maco.Base.Text

/-!
# Message payloads

A payload is a JSON value. Before a message is made the broker walks its payload and bounds the
nesting, the nodes and the strings, and then the bytes of its text. The walk keeps a stack; here it
is a recursion that carries the height of the stack, so that it counts as the loop does.
-/

namespace Maco.Messaging

open Maco.Base

/-- What can be wrong with a payload. -/
inductive PayloadError where
  | tooLarge (actual max : ℕ)
  | nestingTooDeep (maxDepth : ℕ)
  | tooManyNodes (maxNodes : ℕ)
  | tooManyStrings (maxStrings : ℕ)
deriving DecidableEq, Repr

def maxPayloadNestingDepth : ℕ := 128

def maxPayloadNodesHardLimit : ℕ := 65536

def maxPayloadStringsHardLimit : ℕ := 65536

structure PayloadShapeBounds where
  maxDepth : ℕ
  maxNodes : ℕ
  maxStrings : ℕ
  maxStringBytes : ℕ

/-- The counters of the walk. -/
structure PayloadCounts where
  nodes : ℕ
  strings : ℕ

/-- `child_depth`. -/
def childDepth (depth : ℕ) (empty : Bool) (maxDepth : ℕ) : Except PayloadError ℕ :=
  if empty then pure depth
  else do
    refuseIf (maxDepth < depth + 1) (.nestingTooDeep maxDepth)
    pure (depth + 1)

/-- `ensure_child_capacity`. -/
def ensureChildCapacity (nodes pending children maxNodes : ℕ) : Except PayloadError Unit :=
  refuseIf (maxNodes < nodes + pending + children) (.tooManyNodes maxNodes)

/-- `validate_payload_string_bytes`. -/
def validatePayloadStringBytes (text : String) (maxBytes : ℕ) : Except PayloadError Unit :=
  refuseIf (maxBytes < byteLength text) (.tooLarge (byteLength text) maxBytes)

mutual

/-- One value popped from the stack of `validate_payload_shape`, and everything below it. -/
def walkValue (bounds : PayloadShapeBounds) (value : Json) (depth pending : ℕ)
    (counts : PayloadCounts) : Except PayloadError PayloadCounts := do
  refuseIf (bounds.maxDepth < depth) (.nestingTooDeep bounds.maxDepth)
  let nodes := counts.nodes + 1
  refuseIf (bounds.maxNodes < nodes) (.tooManyNodes bounds.maxNodes)
  match value with
  | .string text =>
    refuseIf (bounds.maxStrings < counts.strings + 1) (.tooManyStrings bounds.maxStrings)
    validatePayloadStringBytes text bounds.maxStringBytes
    pure ⟨nodes, counts.strings + 1⟩
  | .array items =>
    ensureChildCapacity nodes pending items.length bounds.maxNodes
    let child ← childDepth depth items.isEmpty bounds.maxDepth
    walkItems bounds items child pending ⟨nodes, counts.strings⟩
  | .object members =>
    ensureChildCapacity nodes pending members.length bounds.maxNodes
    let strings := counts.strings + members.length
    refuseIf (bounds.maxStrings < strings) (.tooManyStrings bounds.maxStrings)
    let child ← childDepth depth members.isEmpty bounds.maxDepth
    members.forM fun member => validatePayloadStringBytes member.1 bounds.maxStringBytes
    walkMembers bounds members child pending ⟨nodes, strings⟩
  | _ => pure ⟨nodes, counts.strings⟩

/-- The items of an array, the first on top of the stack. -/
def walkItems (bounds : PayloadShapeBounds) (items : List Json) (depth pending : ℕ)
    (counts : PayloadCounts) : Except PayloadError PayloadCounts :=
  match items with
  | [] => pure counts
  | item :: rest => do
    let counts ← walkValue bounds item depth (pending + rest.length) counts
    walkItems bounds rest depth pending counts

/-- The members of an object, the last on top of the stack. -/
def walkMembers (bounds : PayloadShapeBounds) (members : List (String × Json))
    (depth pending : ℕ) (counts : PayloadCounts) : Except PayloadError PayloadCounts :=
  match members with
  | [] => pure counts
  | (_, value) :: rest => do
    let counts ← walkMembers bounds rest depth (pending + 1) counts
    walkValue bounds value depth pending counts

end

/-- `validate_payload_shape`. -/
def validatePayloadShape (payload : Json) (bounds : PayloadShapeBounds) :
    Except PayloadError Unit := do
  let _ ← walkValue bounds payload 1 0 ⟨0, 0⟩
  pure ()

/-- `validate_payload`: the shape, and then the bytes of the text. The count at which the writer of
the source stops is not kept. -/
def validatePayload (payload : Json) (maxPayloadBytes : ℕ) : Except PayloadError Unit := do
  validatePayloadShape payload
    { maxDepth := maxPayloadNestingDepth
      maxNodes := min maxPayloadNodesHardLimit maxPayloadBytes
      maxStrings := min maxPayloadStringsHardLimit maxPayloadBytes
      maxStringBytes := maxPayloadBytes }
  refuseIf (maxPayloadBytes < payload.size) (.tooLarge payload.size maxPayloadBytes)

end Maco.Messaging
