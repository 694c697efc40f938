import IdResolution.Vocabulary
import IdResolution.Node.PropertyMap

/-!
# Nodes

A node awaiting a canonical id: properties with typed values, and an id of its own
that serves diagnostics only.
-/

namespace IdResolution

/-- A node of the graph before its identifier is resolved. -/
structure Node where
  localId : Option String := none
  properties : PropertyMap := .empty
  deriving DecidableEq

namespace Node

/-- Add a value to a property. -/
def push (node : Node) (property : String) (value : Value) : Node :=
  { node with properties := node.properties.push property value }

/-- The values of a property, in order. -/
def values (node : Node) (property : String) : List Value :=
  node.properties.values property

/-- The first value of a property that is a finite number. -/
def number? (node : Node) (property : String) : Option Binary64 :=
  (node.values property).findSome? Value.number?

/-- The first value of a property that is a literal with some text. -/
def literal? (node : Node) (property : String) : Option String :=
  (node.values property).findSome? Value.literal?

/-- The name of a node in diagnostics. -/
def label (node : Node) : String :=
  node.localId.getD "<anonymous>"

end Node

/-- A node is written without its local id when it has none.  A local id may be
given as `null`, and either field may be left out. -/
instance : JsonForm Node where
  toJson node := .ofMembers
    ((match node.localId with
      | some localId => [("local_id", JsonForm.toJson localId)]
      | none => []) ++
     [("pvs", JsonForm.toJson node.properties)])
  ofJson? json := do
    let field ← json.record? ["local_id", "pvs"]
    let localId ← match field "local_id" with
      | none | some .null => some none
      | some value => (JsonForm.ofJson? value).map some
    return ⟨localId, ← Json.optional? .empty (field "pvs")⟩

end IdResolution
