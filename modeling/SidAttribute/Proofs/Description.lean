import SidAttribute.Proofs.Tree.Grouped
import SidAttribute.Sid.Address
import SidAttribute.Sid.Behavior
import SidAttribute.Wire.Walk

/-! Attributes as their sender means them, with the octets they are sent as and the tree they stand
for. The octets are written out field by field and the tree is sorted by key at once, so neither
goes through the decoder. -/
namespace SidAttribute.Description
open Wire

structure StructureFields where
  locatorBlock : UInt8
  locatorNode : UInt8
  function : UInt8
  argument : UInt8
  transpositionLength : UInt8
  transpositionOffset : UInt8
  deriving DecidableEq, Repr

/-- What may stand inside a SID information. The compact layout has no reserved octet. -/
inductive InnerItem where
  | compact (fields : StructureFields)
  | padded (reserved : UInt8) (fields : StructureFields) (trailing : Octets)
  | other (code reserved : UInt8) (payload : Octets) (unregistered : code ≠ 1)
  deriving DecidableEq, Repr

structure SidRecord where
  reserved : UInt8
  sid : Octets
  sixteen : sid.length = 16
  flags : UInt8
  behavior : UInt16
  reservedAfter : UInt8
  inner : List InnerItem
  deriving DecidableEq, Repr

inductive ServiceItem where
  | sidInformation (record : SidRecord)
  | other (code reserved : UInt8) (payload : Octets) (unregistered : code ≠ 1)
  deriving DecidableEq, Repr

structure LabelRange where
  base : Fin 16777216
  size : Fin 16777216
  deriving DecidableEq, Repr

inductive Item where
  | labelIndex (reserved : UInt8) (flags : UInt16) (index : UInt32) (trailing : Octets)
  | originatorSrgb (flags : UInt16) (ranges : List LabelRange)
  | l3Service (reserved : UInt8) (items : List ServiceItem)
  | l2Service (reserved : UInt8) (items : List ServiceItem)
  | other (code reserved : UInt8) (payload : Octets) (unregistered : code ∉ [1, 3, 5, 6])
  deriving DecidableEq, Repr

def withHeader (code reserved : UInt8) (value : Octets) : Octets :=
  code :: octets16 (value.length + 1) ++ reserved :: value

def StructureFields.octets (f : StructureFields) : Octets :=
  [f.locatorBlock, f.locatorNode, f.function, f.argument, f.transpositionLength,
    f.transpositionOffset]

def InnerItem.encode : InnerItem → Octets
  | .compact fields => 1 :: octets16 6 ++ fields.octets
  | .padded reserved fields trailing => withHeader 1 reserved (fields.octets ++ trailing)
  | .other code reserved payload _ => withHeader code reserved payload

def SidRecord.value (r : SidRecord) : Octets :=
  r.sid ++ r.flags :: octets16 r.behavior.toNat ++ r.reservedAfter :: r.inner.flatMap InnerItem.encode

def ServiceItem.encode : ServiceItem → Octets
  | .sidInformation record => withHeader 1 record.reserved record.value
  | .other code reserved payload _ => withHeader code reserved payload

def LabelRange.octets (r : LabelRange) : Octets := octets24 r.base ++ octets24 r.size

/-- The label ranges have two octets of flags before them and no reserved octet. -/
def Item.encode : Item → Octets
  | .labelIndex reserved flags index trailing =>
    withHeader 1 reserved (octets16 flags.toNat ++ octets32 index.toNat ++ trailing)
  | .originatorSrgb flags ranges =>
    let value := octets16 flags.toNat ++ ranges.flatMap LabelRange.octets
    3 :: octets16 value.length ++ value
  | .l3Service reserved items => withHeader 5 reserved (items.flatMap ServiceItem.encode)
  | .l2Service reserved items => withHeader 6 reserved (items.flatMap ServiceItem.encode)
  | .other code reserved payload _ => withHeader code reserved payload

def encode (items : List Item) : Octets := items.flatMap Item.encode

def Short (octets : Octets) : Prop := octets.length ≤ 65535 + 3
instance (octets) : Decidable (Short octets) := by unfold Short; infer_instance

def ServiceItem.Fits : ServiceItem → Prop
  | .sidInformation record =>
    Short (withHeader 1 record.reserved record.value) ∧ ∀ i ∈ record.inner, Short i.encode
  | .other code reserved payload _ => Short (withHeader code reserved payload)
instance (i : ServiceItem) : Decidable i.Fits := by
  cases i <;> unfold ServiceItem.Fits <;> infer_instance

def Item.Fits (i : Item) : Prop :=
  Short i.encode ∧ match i with
  | .l3Service _ items => ∀ s ∈ items, s.Fits
  | .l2Service _ items => ∀ s ∈ items, s.Fits
  | _ => True
instance (i : Item) : Decidable i.Fits := by
  cases i <;> unfold Item.Fits <;> infer_instance

def ServiceItem.AtMost (n : Nat) : ServiceItem → Prop
  | .sidInformation record => record.inner.length ≤ n
  | .other .. => True
instance (n) (i : ServiceItem) : Decidable (i.AtMost n) := by
  cases i <;> unfold ServiceItem.AtMost <;> infer_instance

def Item.AtMost (n : Nat) : Item → Prop
  | .l3Service _ items => items.length ≤ n ∧ ∀ s ∈ items, s.AtMost n
  | .l2Service _ items => items.length ≤ n ∧ ∀ s ∈ items, s.AtMost n
  | _ => True
instance (n) (i : Item) : Decidable (i.AtMost n) := by
  cases i <;> unfold Item.AtMost <;> infer_instance

def AtMost (n : Nat) (items : List Item) : Prop := items.length ≤ n ∧ ∀ i ∈ items, i.AtMost n
instance (n items) : Decidable (AtMost n items) := by unfold AtMost; infer_instance

def StructureFields.tree (f : StructureFields) : Tree :=
  [("locator_block_length", .int f.locatorBlock.toNat),
    ("locator_node_length", .int f.locatorNode.toNat),
    ("function_length", .int f.function.toNat),
    ("argument_length", .int f.argument.toNat),
    ("transposition_length", .int f.transpositionLength.toNat),
    ("transposition_offset", .int f.transpositionOffset.toNat)]

def InnerItem.fields? : InnerItem → Option StructureFields
  | .compact fields => some fields
  | .padded _ fields _ => some fields
  | .other .. => none

def SidRecord.structure? (r : SidRecord) : Option StructureFields :=
  (r.inner.filterMap InnerItem.fields?).getLast?

def SidRecord.tree (r : SidRecord) : Tree :=
  [("sid_value", .text (Sid.addressText r.sid)), ("service_sid_flags", .int r.flags.toNat),
    ("endpoint_behavior_codepoint", .int r.behavior.toNat),
    ("endpoint_behavior", .text (Sid.behaviorName r.behavior.toNat))] ++
  match r.structure? with
  | some fields => [("sid_structure", .tree fields.tree)]
  | none => []

def ServiceItem.node? : ServiceItem → Option (String × Value)
  | .sidInformation record => some ("sid_information", .tree record.tree)
  | .other .. => none

def serviceTree (items : List ServiceItem) : Tree := Tree.grouped (items.filterMap ServiceItem.node?)

def LabelRange.node (r : LabelRange) : String × Value :=
  ("srgb", .tree [("base", .int r.base.val), ("range", .int r.size.val)])

def Item.node? : Item → Option (String × Value)
  | .labelIndex _ flags index _ =>
    some ("label_index", .tree [("flags", .int flags.toNat), ("label_index", .int index.toNat)])
  | .originatorSrgb flags ranges =>
    some ("originator_srgb",
      .tree (("flags", .int flags.toNat) :: Tree.grouped (ranges.map LabelRange.node)))
  | .l3Service _ items => some ("srv6_l3_service", .tree (serviceTree items))
  | .l2Service _ items => some ("srv6_l2_service", .tree (serviceTree items))
  | .other .. => none

def tree (items : List Item) : Tree := Tree.grouped (items.filterMap Item.node?)

end SidAttribute.Description
