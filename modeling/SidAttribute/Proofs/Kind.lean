import SidAttribute.Proofs.Damage
import SidAttribute.Proofs.WellFormed

/-! What each kind makes of an element, written out by the places of its octets. A decoder that gives
a node was handed an element of the size its kind needs, and the node is this one. -/
namespace SidAttribute.Decode
open Wire

def structureOf (e : Element) : Octets :=
  if e.length = 6 then e.reserved :: e.payload else e.payload.take 6

def nodeOf (nested : Scope → Octets → Decoded) (e : Element) : Kind → Tree
  | .labelIndex =>
    [("flags", .int (bigEndian (e.payload.take 2))),
      ("label_index", .int (bigEndian ((e.payload.drop 2).take 4)))]
  | .originatorSrgb =>
    ("flags", .int (e.reserved.toNat * 256 + bigEndian (e.payload.take 1))) ::
      Tree.grouped ((rangePairs (e.payload.drop 1)).map rangeNode)
  | .l3Service => (nested .l3Service e.payload).tree
  | .l2Service => (nested .l2Service e.payload).tree
  | .sidInformation => sidTree e.payload (nested .sidInformation (e.payload.drop 20)).tree
  | .sidStructure => (structureKeys.zip (structureOf e)).map fun (key, b) => (key, .int b.toNat)

variable {nested : Scope → Octets → Decoded} {e : Element}

theorem structureOctetsRead (enough : 6 ≤ e.length) : structureOctets e = .ok (structureOf e) := by
  rcases Nat.lt_or_eq_of_le enough with more | six
  · rw [structureOctetsMore more, structureOf, if_neg (by omega)]
  · rw [structureOctetsSix six.symm, structureOf, if_pos six.symm]

theorem structureOfSix (enough : 6 ≤ e.length) : (structureOf e).length = 6 := by
  have size : e.length = e.payload.length + 1 := rfl
  unfold structureOf
  split
  · rw [List.length_cons]
    omega
  · rw [List.length_take]
    omega

theorem unpackMade {kind : Kind} {d : Decoded} (read : unpack nested e kind = .ok d) :
    KindFits e kind ∧ d.tree = nodeOf nested e kind := by
  have fits : KindFits e kind := by
    by_contra unfit
    obtain ⟨s, short⟩ : ∃ s, unpack nested e kind = .error s := unpackUnfit unfit
    rw [short] at read
    cases read
  refine ⟨fits, ?_⟩
  cases kind with
  | labelIndex =>
    rw [unpack, labelIndexRead fits] at read
    cases read
    rfl
  | originatorSrgb =>
    rw [unpack, originatorSrgbRead fits] at read
    cases read
    rfl
  | l3Service =>
    cases read
    rfl
  | l2Service =>
    cases read
    rfl
  | sidInformation =>
    rw [unpack, sidFieldsRead fits] at read
    cases read
    exact structureAdded _ _
  | sidStructure =>
    rw [unpack, sidStructure, structureOctetsRead fits] at read
    cases read
    rfl

theorem foundKind {rs : Registries} {scope : Scope} {key : Option String} {d : Decoded}
    (found : find rs scope nested e = .node key d) :
    ∃ kind, rs.kind? scope e.code.toNat = some kind ∧ kind.key = key ∧
      unpack nested e kind = .ok d := by
  cases known : rs.kind? scope e.code.toNat with
  | none =>
    rw [findNone known] at found
    cases found
  | some kind =>
    cases read : unpack nested e kind with
    | error s =>
      rw [findMalformed known read] at found
      cases found
    | ok made =>
      rw [findNode known read] at found
      cases found
      exact ⟨kind, rfl, rfl, read⟩

theorem nodeMade {rs : Registries} {bound : Int} {scope : Scope} {es : List Element}
    {node : String × Value} (member : node ∈ nodesOf rs bound scope es) :
    ∃ e ∈ es, ∃ kind d, rs.kind? scope e.code.toNat = some kind ∧ kind.key = some node.1 ∧
      unpack (level rs bound) e kind = .ok d ∧ node.2 = .tree d.tree := by
  obtain ⟨e, inside, left⟩ := List.mem_filterMap.mp member
  refine ⟨e, inside, ?_⟩
  cases found : find rs scope (level rs bound) e with
  | unregistered =>
    rw [found] at left
    cases left
  | malformed s =>
    rw [found] at left
    cases left
  | node key d =>
    rw [found] at left
    cases key with
    | none => cases left
    | some key =>
      cases left
      obtain ⟨kind, known, named, read⟩ := foundKind found
      exact ⟨kind, d, known, named, read, rfl⟩

end SidAttribute.Decode
