import SidAttribute.Proofs.Payload
import SidAttribute.Proofs.Rendering
import SidAttribute.Proofs.Wire.Numbers
import SidAttribute.Request

/-! Decoding that writes its log as it goes. Whatever is told is told between two steps of the
decoder, the text is made on the spot and could fail, and what was written stays written when a step
behind it fails. Where the log goes is a parameter of the run; no run gives another result for it. -/
namespace SidAttribute.Logged
open Wire Log Config

inductive Fault where
  | short (s : Shortfall)
  | message (e : TemplateError)
  | nesting (octets : Nat)
  | request (e : RequestError)
  deriving DecidableEq, Repr

def Run (σ α : Type) := σ → Except Fault α × σ

namespace Run

variable {σ α β : Type}

def andThen (x : Run σ α) (f : α → Run σ β) : Run σ β := fun s =>
  match x s with
  | (.ok a, next) => f a next
  | (.error e, next) => (.error e, next)

instance : Monad (Run σ) where
  pure a := fun s => (.ok a, s)
  bind := andThen

def fail (e : Fault) : Run σ α := fun s => (.error e, s)

def read (x : Except Shortfall α) : Run σ α := fun s => (x.mapError Fault.short, s)

def caught (x : Run σ α) : Run σ (Except Shortfall α) := fun s =>
  match x s with
  | (.ok a, next) => (.ok (.ok a), next)
  | (.error (.short short), next) => (.ok (.error short), next)
  | (.error e, next) => (.error e, next)

end Run

section Program

variable {σ : Type} (say : Notice → Run σ Unit) (rs : Registries) (bound : Value)

def unpack (nested : Scope → Octets → Run σ Tree) (e : Element) : Kind → Run σ Tree
  | .labelIndex => .read (Decode.labelIndex e)
  | .originatorSrgb => .read (Decode.originatorSrgb e)
  | .l3Service => nested .l3Service e.payload
  | .l2Service => nested .l2Service e.payload
  | .sidInformation => do
    let (fields, rest) ← .read (Decode.sidFields e.payload)
    say fields.notice
    let inner ← nested .sidInformation rest
    pure (if inner.isEmpty then fields.tree
      else fields.tree.addChild "sid_structure" (.tree inner))
  | .sidStructure => .read (Decode.sidStructure e)

/-- The tree with the node of the element in it; none: the level ends with this element. -/
def dispatch (scope : Scope) (nested : Scope → Octets → Run σ Tree) (e : Element) (t : Tree) :
    Run σ (Option Tree) :=
  match rs.kind? scope e.code.toNat with
  | none => do
    say (.unregistered scope.levelName e.code)
    pure (some t)
  | some kind => do
    match ← (unpack say nested e kind).caught with
    | .error short =>
      say (.malformed scope.levelName e.code short)
      pure none
    | .ok node => pure (some (Decode.attach t kind.key node))

def exceeded (count : Nat) : Run σ Bool :=
  match bound.number? with
  | some n => pure (decide (n < count))
  | none => .fail (.request (.uncountable bound.kindName))

def ending (scope : Scope) : Stop → Run σ Unit
  | .exhausted => pure ()
  | .truncatedHeader left => say (.truncatedHeader scope.levelName left)
  | .zeroLength code => say (.zeroLength scope.levelName code)
  | .overrun code length left => say (.overrun scope.levelName code length left)
  | .tooMany => pure ()

def loop (scope : Scope) (nested : Scope → Octets → Run σ Tree) (count : Nat) (data : Octets)
    (t : Tree) : Run σ Tree :=
  match _head : scanHead data with
  | .stop reason => do
    ending say scope reason
    pure t
  | .element e rest => do
    say (.element scope.levelName e)
    match ← dispatch say rs scope nested e t with
    | none => pure t
    | some t =>
      if ← exceeded bound (count + 1) then
        say (.tooMany scope.levelName bound)
        pure t
      else loop scope nested (count + 1) rest t
termination_by data.length
decreasing_by
  have := scanShrinks _head
  omega

def level (scope : Scope) (data : Octets) : Run σ Tree :=
  let nested := fun s d => if d.length < data.length then level s d else .fail (.nesting d.length)
  loop say rs bound scope nested 0 data []
termination_by data.length

end Program

section Loop

variable {σ : Type} {say : Notice → Run σ Unit} {rs : Registries} {bound : Value} {scope : Scope}
  {nested : Scope → Octets → Run σ Tree} {count : Nat} {data rest : Octets} {t : Tree}

theorem loopStop {reason : Stop} (head : scanHead data = .stop reason) :
    loop say rs bound scope nested count data t = ending say scope reason >>= fun _ => pure t := by
  rw [loop]
  split
  · next other same => rw [head] at same; cases same; rfl
  · next other more same => rw [head] at same; cases same

def onwards (say : Notice → Run σ Unit) (rs : Registries) (bound : Value) (scope : Scope)
    (nested : Scope → Octets → Run σ Tree) (count : Nat) (rest : Octets) (before : Tree) :
    Option Tree → Run σ Tree
  | none => pure before
  | some t =>
    exceeded bound (count + 1) >>= fun beyond =>
      if beyond then say (.tooMany scope.levelName bound) >>= fun _ => pure t
      else loop say rs bound scope nested (count + 1) rest t

theorem loopElement {e : Element} (head : scanHead data = .element e rest) :
    loop say rs bound scope nested count data t =
      say (.element scope.levelName e) >>= fun _ => dispatch say rs scope nested e t >>=
        onwards say rs bound scope nested count rest t := by
  rw [loop]
  split
  · next other same => rw [head] at same; cases same
  · next other more same =>
    rw [head] at same
    cases same
    refine congrArg _ (funext fun _ => congrArg _ (funext fun outcome => ?_))
    cases outcome <;> rfl

end Loop

section Following

variable {σ α β : Type} {view : List Notice → σ}

def Follows (view : List Notice → σ) (x : Run σ α) (y : Run (List Notice) α) : Prop :=
  ∀ told, x (view told) = ((y told).1, view (y told).2)

def note (n : Notice) : Run (List Notice) Unit := fun told => (.ok (), told ++ [n])

def Shows (view : List Notice → σ) (say : Notice → Run σ Unit) : Prop :=
  ∀ n : Notice, n.Plain → Follows view (say n) (note n)

theorem followsPure (a : α) : Follows view (pure a) (pure a) := fun _ => rfl

theorem followsFail (e : Fault) : Follows view (.fail e : Run σ α) (.fail e) := fun _ => rfl

theorem followsRead (x : Except Shortfall α) : Follows view (.read x) (.read x) := fun _ => rfl

theorem followsBind {x : Run σ α} {y : Run (List Notice) α} {f : α → Run σ β}
    {g : α → Run (List Notice) β} (first : Follows view x y)
    (rest : ∀ a, Follows view (f a) (g a)) : Follows view (x >>= f) (y >>= g) := by
  intro told
  have here := first told
  change Run.andThen x f (view told) = _
  rw [Run.andThen, here]
  change _ = ((Run.andThen y g told).1, view (Run.andThen y g told).2)
  rw [Run.andThen]
  cases y told with
  | mk outcome next =>
    cases outcome with
    | ok a => exact rest a next
    | error e => rfl

theorem followsReadBind {x : Except Shortfall α} {f : α → Run σ β}
    {g : α → Run (List Notice) β} (rest : ∀ a, x = .ok a → Follows view (f a) (g a)) :
    Follows view (.read x >>= f) (.read x >>= g) := by
  cases x with
  | error s => exact fun _ => rfl
  | ok a => exact rest a rfl

theorem followsCaught {x : Run σ α} {y : Run (List Notice) α} (inner : Follows view x y) :
    Follows view x.caught y.caught := by
  intro told
  have here := inner told
  rw [Run.caught, Run.caught, here]
  cases y told with
  | mk outcome next =>
    cases outcome with
    | ok a => rfl
    | error e => cases e <;> rfl

variable {say : Notice → Run σ Unit} {rs : Registries} {bound : Value} {scope : Scope}
  {one : Scope → Octets → Run σ Tree} {two : Scope → Octets → Run (List Notice) Tree} {e : Element}

theorem sidPlain {payload rest : Octets} {fields : Decode.SidFields}
    (read : Decode.sidFields payload = .ok (fields, rest)) : fields.notice.Plain := by
  have size := Decode.sidFieldsShrinks read
  rw [Decode.sidFieldsRead (by omega)] at read
  cases read
  have bound := bigEndianBound ((payload.drop 16).take 1)
  have few : ((payload.drop 16).take 1).length ≤ 1 := List.length_take_le ..
  exact Nat.lt_of_lt_of_le bound (Nat.pow_le_pow_right (by decide) few)

theorem unpackFollows (shown : Shows view say)
    (same : ∀ s d, d.length ≤ e.payload.length → Follows view (one s d) (two s d)) (kind : Kind) :
    Follows view (unpack say one e kind) (unpack note two e kind) := by
  cases kind with
  | labelIndex => exact followsRead _
  | originatorSrgb => exact followsRead _
  | l3Service => exact same _ _ (Nat.le_refl _)
  | l2Service => exact same _ _ (Nat.le_refl _)
  | sidInformation =>
    refine followsReadBind fun (fields, rest) read => ?_
    have size := Decode.sidFieldsShrinks read
    refine followsBind (shown _ (sidPlain read)) fun _ => ?_
    exact followsBind (same _ _ (by omega)) fun inner => followsPure _
  | sidStructure => exact followsRead _

theorem dispatchFollows (shown : Shows view say)
    (same : ∀ s d, d.length ≤ e.payload.length → Follows view (one s d) (two s d)) (t : Tree) :
    Follows view (dispatch say rs scope one e t) (dispatch note rs scope two e t) := by
  unfold dispatch
  cases rs.kind? scope e.code.toNat with
  | none => exact followsBind (shown _ trivial) fun _ => followsPure _
  | some kind =>
    refine followsBind (followsCaught (unpackFollows shown same kind)) fun outcome => ?_
    cases outcome with
    | error short => exact followsBind (shown _ trivial) fun _ => followsPure _
    | ok node => exact followsPure _

theorem exceededFollows (count : Nat) :
    Follows view (exceeded bound count : Run σ Bool) (exceeded bound count) := by
  unfold exceeded
  cases bound.number? with
  | none => exact followsFail _
  | some n => exact followsPure _

theorem endingFollows (shown : Shows view say) (stop : Stop) :
    Follows view (ending say scope stop) (ending note scope stop) := by
  cases stop with
  | exhausted | tooMany => exact followsPure _
  | truncatedHeader | zeroLength | overrun => exact shown _ trivial

theorem loopFollows (shown : Shows view say) {data : Octets}
    (same : ∀ s d, d.length < data.length → Follows view (one s d) (two s d)) (count : Nat)
    (t : Tree) :
    Follows view (loop say rs bound scope one count data t)
      (loop note rs bound scope two count data t) := by
  induction size : data.length using Nat.strongRecOn generalizing data count t with
  | ind size ih =>
    cases head : scanHead data with
    | stop reason =>
      rw [loopStop head, loopStop head]
      exact followsBind (endingFollows shown reason) fun _ => followsPure t
    | element e rest =>
      have shorter := scanShrinks head
      have within : ∀ s d, d.length ≤ e.payload.length → Follows view (one s d) (two s d) :=
        fun s d inside => same s d (by omega)
      rw [loopElement head, loopElement head]
      refine followsBind (shown _ trivial) fun _ => ?_
      refine followsBind (dispatchFollows shown within t) fun outcome => ?_
      cases outcome with
      | none => exact followsPure t
      | some next =>
        refine followsBind (exceededFollows (count + 1)) fun beyond => ?_
        cases beyond with
        | true => exact followsBind (shown _ trivial) fun _ => followsPure next
        | false =>
          exact ih rest.length (by omega) (fun s d inside => same s d (by omega)) _ _ rfl

theorem levelFollows (shown : Shows view say) (scope : Scope) (data : Octets) :
    Follows view (level say rs bound scope data) (level note rs bound scope data) := by
  induction size : data.length using Nat.strongRecOn generalizing scope data with
  | ind size ih =>
    rw [level, level]
    refine loopFollows shown (fun s d shorter => ?_) 0 []
    rw [if_pos shorter, if_pos shorter]
    exact ih d.length (by omega) s d rfl

end Following

end SidAttribute.Logged
