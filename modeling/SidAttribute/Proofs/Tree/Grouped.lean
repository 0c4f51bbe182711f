import SidAttribute.Tree.Basic

/-! Children added one after the other against the same children sorted by key. Keys stand in the
order of their first child; a lone child stands bare, several stand in a list. -/
namespace SidAttribute
open Value

def Value.IsList (v : Value) : Prop := ∃ items, v = .list items

namespace Tree

abbrev Nodes := List (String × Value)

def under (nodes : Nodes) (key : String) : List Value :=
  (nodes.filter fun node => node.1 == key).map Prod.snd

def stored : List Value → Value
  | [child] => child
  | children => .list children

def grouped (nodes : Nodes) : Tree :=
  (nodes.map Prod.fst).eraseDups.map fun key => (key, stored (under nodes key))

def addAll (t : Tree) (nodes : Nodes) : Tree :=
  nodes.foldl (fun t node => t.addChild node.1 node.2) t

theorem sameTree {t u : Tree} (keys : t.keys = u.keys) (once : t.keys.Nodup)
    (values : ∀ key ∈ t.keys, t.get? key = u.get? key) : t = u := by
  induction t generalizing u with
  | nil =>
    have none : u.keys = [] := keys.symm
    exact (List.map_eq_nil_iff.mp none).symm
  | cons field rest ih =>
    obtain ⟨k, v⟩ := field
    cases u with
    | nil => simp [Tree.keys] at keys
    | cons other more =>
      obtain ⟨l, w⟩ := other
      simp only [Tree.keys, List.map_cons, List.cons.injEq] at keys
      obtain ⟨rfl, tails⟩ := keys
      obtain ⟨fresh, once⟩ := List.nodup_cons.mp once
      have first := values k (by simp [Tree.keys])
      simp only [get?, if_true, Option.some.injEq] at first
      have later : ∀ key ∈ Tree.keys rest, get? rest key = get? more key := by
        intro key member
        have other : k ≠ key := fun same => fresh (same ▸ member)
        have both := values key (List.mem_cons_of_mem _ member)
        simpa only [get?, if_neg other] using both
      rw [first, ih tails once later]

theorem putKeysOnce {t : Tree} (once : t.keys.Nodup) (key : String) (value : Value) :
    (t.put key value).keys.Nodup := by
  rw [keysPut]
  split
  · exact once
  · next fresh =>
    rw [List.nodup_append]
    refine ⟨once, by simp, ?_⟩
    intro k member l single same
    have last : l = key := by simpa using single
    exact fresh (by rw [← last, ← same]; exact member)

theorem eraseDupsOnce (keys : List String) : keys.eraseDups.Nodup := by
  match keys with
  | [] => exact List.nodup_nil
  | key :: rest =>
    rw [List.eraseDups_cons, List.nodup_cons]
    refine ⟨?_, eraseDupsOnce _⟩
    intro member
    simp [List.mem_eraseDups] at member
termination_by keys.length
decreasing_by
  have shorter := List.length_filter_le (fun other => !other == key) rest
  simp only [List.length_cons]
  omega

theorem eraseDupsSnoc (keys : List String) (key : String) :
    (keys ++ [key]).eraseDups =
      if key ∈ keys then keys.eraseDups else keys.eraseDups ++ [key] := by
  rw [List.eraseDups_append]
  by_cases known : key ∈ keys
  · simp [known, List.removeAll]
  · simp [known, List.removeAll, List.eraseDups_cons]

theorem keysGrouped (nodes : Nodes) : (grouped nodes).keys = (nodes.map Prod.fst).eraseDups := by
  simp [grouped, Tree.keys, Function.comp_def]

theorem getMapped (keys : List String) (f : String → Value) (key : String) :
    get? (keys.map fun k => (k, f k)) key = if key ∈ keys then some (f key) else none := by
  induction keys with
  | nil => rfl
  | cons k rest ih =>
    by_cases here : k = key
    · simp [get?, here]
    · have other : key ≠ k := Ne.symm here
      simp [get?, here, other, ih]

theorem getGrouped (nodes : Nodes) (key : String) :
    get? (grouped nodes) key =
      if key ∈ nodes.map Prod.fst then some (stored (under nodes key)) else none := by
  rw [grouped, getMapped]
  simp only [List.mem_eraseDups]

theorem underNone {nodes : Nodes} {key : String} (absent : key ∉ nodes.map Prod.fst) :
    under nodes key = [] := by
  have sieve : nodes.filter (fun node => node.1 == key) = [] := by
    rw [List.filter_eq_nil_iff]
    intro node member same
    exact absent (List.mem_map.mpr ⟨node, member, by simpa using same⟩)
  simp [under, sieve]

theorem underSome {nodes : Nodes} {key : String} (there : key ∈ nodes.map Prod.fst) :
    under nodes key ≠ [] := by
  obtain ⟨node, member, same⟩ := List.mem_map.mp there
  intro none
  have sieved : node.2 ∈ under nodes key :=
    List.mem_map.mpr ⟨node, List.mem_filter.mpr ⟨member, by simpa using same⟩, rfl⟩
  rw [none] at sieved
  simp at sieved

theorem underMember {nodes : Nodes} {key : String} {child : Value} (member : child ∈ under nodes key) :
    ∃ node ∈ nodes, node.2 = child := by
  obtain ⟨node, sieved, same⟩ := List.mem_map.mp member
  exact ⟨node, (List.mem_filter.mp sieved).1, same⟩

theorem underCons (key other : String) (child : Value) (nodes : Nodes) :
    under ((key, child) :: nodes) other =
      if key = other then child :: under nodes other else under nodes other := by
  by_cases same : key = other
  · simp [under, same]
  · simp [under, same]

theorem underAppend (nodes more : Nodes) (key : String) :
    under (nodes ++ more) key = under nodes key ++ under more key := by
  simp [under]

theorem underSnoc (nodes : Nodes) (key other : String) (child : Value) :
    under (nodes ++ [(key, child)]) other =
      if other = key then under nodes other ++ [child] else under nodes other := by
  rw [underAppend, underCons]
  by_cases same : other = key
  · rw [if_pos same, if_pos same.symm]
    rfl
  · rw [if_neg same, if_neg (Ne.symm same)]
    exact List.append_nil _

theorem storedSeveral {children : List Value} (several : 2 ≤ children.length) :
    stored children = .list children := by
  match children, several with
  | _ :: _ :: _, _ => rfl

theorem joinedStored {children : List Value} (one : children ≠ [])
    (plain : ∀ c ∈ children, ¬ c.IsList) (child : Value) :
    joined (some (stored children)) child = stored (children ++ [child]) := by
  match children, one with
  | [only], _ =>
    have bare : ¬ only.IsList := plain only (by simp)
    cases only with
    | list items => exact absurd ⟨items, rfl⟩ bare
    | null => rfl
    | bool b => rfl
    | int n => rfl
    | text s => rfl
    | tree fields => rfl
  | first :: second :: rest, _ => rfl

theorem groupedSnoc (nodes : Nodes) (plain : ∀ node ∈ nodes, ¬ node.2.IsList) (key : String)
    (child : Value) : (grouped nodes).addChild key child = grouped (nodes ++ [(key, child)]) := by
  have once : (grouped nodes).keys.Nodup := by
    rw [keysGrouped]
    exact eraseDupsOnce _
  apply sameTree
  · rw [addChild, keysPut, keysGrouped, keysGrouped, List.map_append]
    simp only [List.mem_eraseDups]
    exact (eraseDupsSnoc _ key).symm
  · exact putKeysOnce once key _
  · intro other _
    rw [addChild, getPut, getGrouped, getGrouped, getGrouped, underSnoc]
    by_cases same : other = key
    · subst same
      by_cases known : other ∈ nodes.map Prod.fst
      · have plainUnder : ∀ c ∈ under nodes other, ¬ c.IsList := by
          intro c member
          obtain ⟨node, there, rfl⟩ := underMember member
          exact plain node there
        simp [known, joinedStored (underSome known) plainUnder]
      · simp [known, underNone known, joined, stored]
    · have still : other ∈ (nodes ++ [(key, child)]).map Prod.fst ↔ other ∈ nodes.map Prod.fst := by
        simp [same]
      rw [if_neg same, if_neg same]
      by_cases known : other ∈ nodes.map Prod.fst
      · rw [if_pos known, if_pos (still.mpr known)]
      · rw [if_neg known, if_neg fun there => known (still.mp there)]

theorem addAllAfter (before nodes : Nodes) (plainBefore : ∀ node ∈ before, ¬ node.2.IsList)
    (plain : ∀ node ∈ nodes, ¬ node.2.IsList) :
    (grouped before).addAll nodes = grouped (before ++ nodes) := by
  induction nodes generalizing before with
  | nil => simp [addAll]
  | cons node rest ih =>
    have first : ∀ other ∈ before ++ [node], ¬ other.2.IsList := by
      intro other member
      rcases List.mem_append.mp member with old | new
      · exact plainBefore other old
      · rw [List.mem_singleton.mp new]
        exact plain node List.mem_cons_self
    have later := fun other member => plain other (List.mem_cons_of_mem node member)
    have step := groupedSnoc before plainBefore node.1 node.2
    change ((grouped before).addChild node.1 node.2).addAll rest = _
    rw [step, ih _ first later, List.append_assoc]
    rfl

theorem addAllGrouped (nodes : Nodes) (plain : ∀ node ∈ nodes, ¬ node.2.IsList) :
    addAll [] nodes = grouped nodes :=
  addAllAfter [] nodes (by simp) plain

theorem getBehind {front : Tree} {key : String} (fresh : key ∉ front.keys) (t : Tree) :
    get? (front ++ t) key = t.get? key := by
  induction front with
  | nil => rfl
  | cons field rest ih =>
    obtain ⟨here, later⟩ := not_or.mp (fun there => fresh (List.mem_cons.mpr there))
    have other : ¬ field.1 = key := fun same => here same.symm
    rw [List.cons_append, get?, if_neg other, ih later]

theorem putBehind {front : Tree} {key : String} (fresh : key ∉ front.keys) (t : Tree)
    (value : Value) : put (front ++ t) key value = front ++ t.put key value := by
  induction front with
  | nil => rfl
  | cons field rest ih =>
    obtain ⟨here, later⟩ := not_or.mp (fun there => fresh (List.mem_cons.mpr there))
    have other : ¬ field.1 = key := fun same => here same.symm
    rw [List.cons_append, put, if_neg other, ih later]
    rfl

theorem addAllBehind {front : Tree} {nodes : Nodes} (fresh : ∀ node ∈ nodes, node.1 ∉ front.keys)
    (t : Tree) : addAll (front ++ t) nodes = front ++ t.addAll nodes := by
  induction nodes generalizing t with
  | nil => rfl
  | cons node rest ih =>
    have own := fresh node List.mem_cons_self
    have later := ih fun other member => fresh other (List.mem_cons_of_mem node member)
    have first : addChild (front ++ t) node.1 node.2 = front ++ t.addChild node.1 node.2 := by
      rw [addChild, getBehind own, putBehind own, addChild]
    change addAll (addChild (front ++ t) node.1 node.2) rest = _
    rw [first, later]
    rfl

theorem childrenLone {t : Tree} {key : String} {child : Value} (there : t.get? key = some child)
    (bare : ¬ child.IsList) : t.children key = [child] := by
  rw [children, there]
  cases child with
  | list items => exact absurd ⟨items, rfl⟩ bare
  | null => rfl
  | bool b => rfl
  | int n => rfl
  | text s => rfl
  | tree fields => rfl

theorem childrenStored {t : Tree} {key : String} {several : List Value}
    (there : t.get? key = some (stored several)) (one : several ≠ [])
    (plain : ∀ c ∈ several, ¬ c.IsList) : t.children key = several := by
  match several, one with
  | [only], _ => exact childrenLone there (plain only List.mem_cons_self)
  | first :: second :: rest, _ => rw [children, there]; rfl

theorem childrenGrouped {nodes : Nodes} (plain : ∀ node ∈ nodes, ¬ node.2.IsList) (key : String) :
    (grouped nodes).children key = under nodes key := by
  have stands := getGrouped nodes key
  by_cases known : key ∈ nodes.map Prod.fst
  · rw [if_pos known] at stands
    apply childrenStored stands (underSome known)
    intro c member
    obtain ⟨node, there, rfl⟩ := underMember member
    exact plain node there
  · rw [if_neg known] at stands
    rw [children, stands, underNone known]

end Tree
end SidAttribute
