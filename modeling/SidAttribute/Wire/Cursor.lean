import SidAttribute.Wire.Octets

/-! A movable position in a buffer. Nothing keeps the start inside the buffer. -/
namespace SidAttribute.Wire

structure Cursor where
  data : Octets
  offset : Int
  deriving DecidableEq, Repr

namespace Cursor

/-- None when past the end; a position before the buffer counts the octets up to it as well. -/
def remaining (c : Cursor) : Nat := ((c.data.length : Int) - c.offset).toNat

/-- What an operation did to the cursor stands, also when it goes on to be refused. -/
abbrev Operation := ExceptT ReadError (StateM Cursor)

def advance (size : Int) : Operation Unit :=
  modify fun c => { c with offset := c.offset + size }

def read (size : Int) : Operation Octets := do
  let c ← get
  let octets ← readOctets c.data c.offset size
  advance size
  return octets

def number (size : Int) (order : ByteOrder) : Operation Nat := do
  let c ← get
  let value ← readNumber c.data c.offset size order
  advance size
  return value

def skip (size : Int) : Operation Unit := do
  let c ← get
  checkRange c.data c.offset size
  advance size

def rest : Operation Octets := do
  let c ← get
  read c.remaining

theorem readTurn (c : Cursor) (size : Int) :
    (read size).run.run c = match readOctets c.data c.offset size with
      | .error e => (.error e, c)
      | .ok octets => (.ok octets, ⟨c.data, c.offset + size⟩) := by
  change (liftM (readOctets c.data c.offset size) >>= fun octets => do
    advance size
    return octets : Operation Octets).run.run c = _
  cases readOctets c.data c.offset size <;> rfl

theorem numberTurn (c : Cursor) (size : Int) (order : ByteOrder) :
    (number size order).run.run c = match readNumber c.data c.offset size order with
      | .error e => (.error e, c)
      | .ok value => (.ok value, ⟨c.data, c.offset + size⟩) := by
  change (liftM (readNumber c.data c.offset size order) >>= fun value => do
    advance size
    return value : Operation Nat).run.run c = _
  cases readNumber c.data c.offset size order <;> rfl

theorem skipTurn (c : Cursor) (size : Int) :
    (skip size).run.run c = match checkRange c.data c.offset size with
      | .error e => (.error e, c)
      | .ok () => (.ok (), ⟨c.data, c.offset + size⟩) := by
  change (liftM (checkRange c.data c.offset size) >>= fun _ => advance size :
    Operation Unit).run.run c = _
  cases checkRange c.data c.offset size <;> rfl

theorem restTurn (c : Cursor) : rest.run.run c = (read c.remaining).run.run c := rfl

inductive Step where
  | read (size : Int)
  | number (size : Int) (order : ByteOrder)
  | skip (size : Int)
  | rest
  deriving DecidableEq, Repr

inductive Reply where
  | octets (value : Octets)
  | number (value : Nat)
  | skipped
  deriving DecidableEq, Repr

def Step.operation : Step → Operation Reply
  | .read size => .octets <$> Cursor.read size
  | .number size order => .number <$> Cursor.number size order
  | .skip size => do
    Cursor.skip size
    return .skipped
  | .rest => .octets <$> Cursor.rest

def step (c : Cursor) (s : Step) : Except ReadError Reply × Cursor := s.operation.run.run c

def run (c : Cursor) : List Step → List (Except ReadError Reply × Cursor)
  | [] => []
  | s :: later => c.step s :: run (c.step s).2 later

def text (c : Cursor) : String :=
  "Cursor(offset=" ++ toString c.offset ++ ", remaining=" ++ toString c.remaining ++ ")"

end Cursor
end SidAttribute.Wire
