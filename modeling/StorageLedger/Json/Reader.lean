import StorageLedger.Json.Token

namespace StorageLedger.Json

/-- A list or an object that is open. The items and members read so far come last first; an object
also holds the name of the member that is being read. -/
inductive Frame where
  | list (items : List Json)
  | object (members : List (String × Json)) (name : String)

inductive Mode where
  | value
  | firstItem
  | item
  | firstName
  | name
  | colon
  | afterValue
  | done (v : Json)

structure State where
  open_ : List Frame
  mode : Mode

def State.start : State := ⟨[], .value⟩

def State.deliver (v : Json) : List Frame → State
  | [] => ⟨[], .done v⟩
  | .list items :: outer => ⟨.list (v :: items) :: outer, .afterValue⟩
  | .object members name :: outer => ⟨.object ((name, v) :: members) name :: outer, .afterValue⟩

def State.close : List Frame → State
  | [] => ⟨[], .afterValue⟩
  | .list items :: outer => .deliver (.list items.reverse) outer
  | .object members _ :: outer => .deliver (.object members.reverse) outer

/-- A token at `index` where a value is due. -/
def State.takeValue (limits : Limits) (index : Nat) (frames : List Frame) (t : Token) :
    Except Stop State :=
  if limits.depth < frames.length then .error ⟨.tooDeep, index⟩
  else match t with
    | .listStart => .ok ⟨.list [] :: frames, .firstItem⟩
    | .objectStart => .ok ⟨.object [] "" :: frames, .firstName⟩
    | .text s => .ok (.deliver (.text s) frames)
    | .scalar v => .ok (.deliver v frames)
    | .faulty stop _ => .error stop
    | _ => .error ⟨.expectedValue, index⟩

/-- A token at `index` where the name of a member is due. -/
def State.takeName (index : Nat) (frames : List Frame) (t : Token) : Except Stop State :=
  match t, frames with
  | .text s, .object members _ :: outer => .ok ⟨.object members s :: outer, .colon⟩
  | .faulty stop true, _ => .error stop
  | _, _ => .error ⟨.keyNotText, index⟩

/-- The state after a token at `index`. -/
def State.step (limits : Limits) (index : Nat) (state : State) (t : Token) : Except Stop State :=
  match state.mode, t with
  | .value, t => State.takeValue limits index state.open_ t
  | .firstItem, .listEnd => .ok (.close state.open_)
  | .firstItem, t => State.takeValue limits index state.open_ t
  | .item, .listEnd => .error ⟨.trailingComma, index⟩
  | .item, t => State.takeValue limits index state.open_ t
  | .firstName, .objectEnd => .ok (.close state.open_)
  | .firstName, t => State.takeName index state.open_ t
  | .name, .objectEnd => .error ⟨.trailingComma, index⟩
  | .name, t => State.takeName index state.open_ t
  | .colon, .colon => .ok ⟨state.open_, .value⟩
  | .colon, _ => .error ⟨.expectedColon, index⟩
  | .done _, _ => .error ⟨.trailingCharacters, index⟩
  | .afterValue, t =>
    match state.open_, t with
    | .list _ :: _, .comma => .ok ⟨state.open_, .item⟩
    | .list _ :: _, .listEnd => .ok (.close state.open_)
    | .list _ :: _, _ => .error ⟨.expectedListEnd, index⟩
    | _, .comma => .ok ⟨state.open_, .name⟩
    | _, .objectEnd => .ok (.close state.open_)
    | _, _ => .error ⟨.expectedObjectEnd, index⟩

def State.finish (index : Nat) (state : State) : Except Stop Json :=
  match state.mode with
  | .done v => .ok v
  | .value | .item | .name => .error ⟨.endInValue, index⟩
  | .firstItem => .error ⟨.endInList, index⟩
  | .firstName | .colon => .error ⟨.endInObject, index⟩
  | .afterValue =>
    match state.open_ with
    | .list _ :: _ => .error ⟨.endInList, index⟩
    | _ => .error ⟨.endInObject, index⟩

/-- Reads the rest of a text from `index` on. -/
def readFrom (limits : Limits) (state : State) (index : Nat) (bs : List UInt8) : Except Stop Json :=
  match bs with
  | [] => state.finish index
  | b :: r =>
    if isSpace b then readFrom limits state (index + 1) r
    else
      let (t, more) := token limits index b r
      match state.step limits index t with
      | .error stop => .error stop
      | .ok next => readFrom limits next (index + 1 + more) (r.drop more)
termination_by bs.length
decreasing_by all_goals simp only [List.length_drop, List.length_cons]; omega

def read (limits : Limits) (bs : List UInt8) : Except Stop Json := readFrom limits .start 0 bs

end StorageLedger.Json
