/-
Records: JSON objects with known fields, which may also be written as lists.

The fields of a record are read in any order, each at most once; members with
other names are passed over. When all members are read, a field that was not
among them takes its default, if it has one. A list is read as the fields in
their order, of which the last may be left out if they have a default for
that. Fields are written in their order; some are left out when they hold
nothing.
-/
import RelayHub.Json.Codec

set_option autoImplicit false

namespace RelayHub.Json

/-! ## Fields -/

/-- Whether a field may be left out. One that is `nullable` is null when it is
left out of an object, but is needed in a list; one that is `defaulted` may be
left out of both. -/
inductive Presence (β : Type) where
  | required
  | nullable (value : β)
  | defaulted (value : β)

/-- The value of a field left out of an object. -/
def Presence.inObject? {β : Type} : Presence β → Option β
  | .required => none
  | .nullable v => some v
  | .defaulted v => some v

/-- The value of a field left out of a list. -/
def Presence.inList? {β : Type} : Presence β → Option β
  | .required => none
  | .nullable _ => none
  | .defaulted v => some v

/-- A field of a record; `hides` says for which values it is not written. -/
structure Field (β : Type) where
  name : String
  codec : Codec β
  presence : Presence β
  hides : β → Bool

namespace Field

variable {β : Type}

/-- A field that must be there. -/
def required (name : String) (c : Codec β) : Field β :=
  ⟨name, c, .required, fun _ => false⟩

/-- A field with a default. -/
def defaulted (name : String) (c : Codec β) (value : β) : Field β :=
  ⟨name, c, .defaulted value, fun _ => false⟩

/-- A field that may be null, and is when it is left out of an object. -/
def nullable (name : String) (c : Codec β) : Field (Option β) :=
  ⟨name, c.optional, .nullable none, fun _ => false⟩

/-- A field that may be null, and may be left out. -/
def optional (name : String) (c : Codec β) : Field (Option β) :=
  ⟨name, c.optional, .defaulted none, fun _ => false⟩

/-- A field that may be null or left out, and is left out when it is null. -/
def hidden (name : String) (c : Codec β) : Field (Option β) :=
  ⟨name, c.optional, .defaulted none, Option.isNone⟩

end Field

/-- The fields of a record, in order, with the tuple of their values and the
tuple of the slots that hold the values found so far. -/
inductive Fields : Type → Type → Type 1 where
  | none : Fields Unit Unit
  | more {β γ σ : Type} (field : Field β) (others : Fields γ σ) : Fields (β × γ) (Option β × σ)

namespace Fields

/-- How many fields there are. -/
def count : {γ σ : Type} → Fields γ σ → Nat
  | _, _, .none => 0
  | _, _, .more _ others => others.count + 1

/-- No value found yet. -/
def noSlots : {γ σ : Type} → Fields γ σ → σ
  | _, _, .none => ()
  | _, _, .more _ others => (Option.none, others.noSlots)

/-- Reads the value of the member named `key`, whose colon comes next, into
its slot; a member with no slot is passed over, and a second one of the same
name is rejected. -/
def readMember (key : String) : {γ σ : Type} → Fields γ σ → σ → Bytes → Outcome σ
  | _, _, .none, _, rest =>
    (Codec.readColon rest).andThen fun _ rest => (skipValue rest).map fun _ => ()
  | _, _, .more f others, (slot, slots), rest =>
    if key = f.name then
      match slot with
      | some _ => .rejected (.duplicateField f.name) rest
      | Option.none =>
        (Codec.readColon rest).andThen fun _ rest =>
          (f.codec.read rest).map fun v => (some v, slots)
    else (readMember key others slots rest).map fun slots => (slot, slots)

/-- The values of all fields, with the defaults of those not found. -/
def collect : {γ σ : Type} → Fields γ σ → σ → Except Reason γ
  | _, _, .none, _ => .ok ()
  | _, _, .more f others, (slot, slots) =>
    match slot.orElse fun _ => f.presence.inObject? with
    | some v => (others.collect slots).map fun vs => (v, vs)
    | Option.none => .error (.missingField f.name)

/-- Whether another member of an object comes; if one does, the answer holds
the bytes after the opening quote of its key, otherwise those before the
closing brace. -/
def nextMember (first : Bool) (rest : Bytes) : Outcome Bool :=
  match skipBlanks rest with
  | [] => faultAtNext .endOfObject []
  | b :: tail =>
    if b = closeBrace then .ok false (b :: tail)
    else if first then
      if b = quote then .ok true tail else faultAtNext .keyNotText (b :: tail)
    else if b = comma then
      match skipBlanks tail with
      | [] => faultAtNext .endOfValue []
      | c :: after =>
        if c = quote then .ok true after
        else if c = closeBrace then faultAtNext .trailingComma (c :: after)
        else faultAtNext .keyNotText (c :: after)
    else faultAtNext .expectedCommaOrBrace (b :: tail)

/-- Reads the members of an object up to its closing brace. Every member takes
a byte, so the bytes left are fuel enough. -/
def readMembers {γ σ : Type} (fs : Fields γ σ) (fuel : Nat) (first : Bool) (slots : σ)
    (rest : Bytes) : Outcome σ :=
  match fuel with
  | 0 => faultHere .endOfObject rest
  | fuel + 1 =>
    (nextMember first rest).andThen fun another rest =>
      if another then
        (stringBody rest).andThen fun key rest =>
          (fs.readMember key slots rest).andThen fun slots rest =>
            readMembers fs fuel false slots rest
      else .ok slots rest

/-- Reads the fields as the items of a list, from the item numbered `index`
on; `shape` is what a fault calls the whole. -/
def readInOrder (shape : String) :
    {γ σ : Type} → Fields γ σ → (index : Nat) → Bytes → Outcome γ
  | _, _, .none, _, rest => .ok () rest
  | _, _, .more f others, index, rest =>
    (Codec.nextItem (index == 0) rest).andThen fun another rest =>
      if another then
        (f.codec.read rest).andThen fun v rest =>
          (readInOrder shape others (index + 1) rest).map fun vs => (v, vs)
      else
        match f.presence.inList? with
        | some v => (readInOrder shape others (index + 1) rest).map fun vs => (v, vs)
        | Option.none => .rejected (.wrongLength index shape) rest

/-- The members to write. -/
def members : {γ σ : Type} → Fields γ σ → γ → List Bytes
  | _, _, .none, _ => []
  | _, _, .more f others, (v, vs) =>
    if f.hides v then others.members vs
    else (writeText f.name ++ colon :: f.codec.write v) :: others.members vs

end Fields

/-! ## Records -/

/-- Closes an object. A rejection inside it takes its place here. -/
def closeObject {α : Type} (o : Outcome α) : Outcome α :=
  match o with
  | .ok v rest =>
    match skipBlanks rest with
    | [] => faultAtNext .endOfObject []
    | b :: tail =>
      if b = closeBrace then .ok v tail
      else if b = comma then faultAtNext .trailingComma (b :: tail)
      else faultAtNext .trailingCharacters (b :: tail)
  | .rejected reason rest =>
    faultHere reason
      (match skipBlanks rest with
       | 0x7D :: tail => tail
       | rest => rest)
  | .malformed reason left => .malformed reason left

/-- A record with the given name and fields; `make` and `parts` go between
the tuple of its fields and its own type. -/
def Codec.record {α γ σ : Type} (name : String) (fs : Fields γ σ) (make : γ → α) (parts : α → γ) :
    Codec α where
  read rest :=
    match skipBlanks rest with
    | [] => faultAtNext .endOfValue []
    | b :: tail =>
      if b = openBrace then
        (closeObject <|
          (fs.readMembers (tail.length + 1) true fs.noSlots tail).andThen fun slots rest =>
            match fs.collect slots with
            | .ok v => .ok v rest
            | .error reason => .rejected reason rest).map make
      else if b = openBracket then
        let shape := "struct " ++ name ++ " with " ++ toString fs.count ++ " elements"
        (Codec.closeList fs.count (fs.readInOrder shape 0 tail)).map make
      else wrongType ("struct " ++ name) (b :: tail)
  write v := openBrace :: separated (fs.members (parts v)) ++ [closeBrace]

end RelayHub.Json
