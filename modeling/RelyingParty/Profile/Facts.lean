import RelyingParty.Profile.Basic
import RelyingParty.Value.Conversion

set_option autoImplicit false

/-! # Adding and removing facts

A fact is a value under a key. A new value replaces the old one, except that a profile that merges
adds the elements of a sequence to the sequence that is there, each one once. A sequence is stored
as a list, null is not stored.

A collection of facts is looked through for blank keys before the first fact is added. -/

namespace RelyingParty

namespace Profile

/-! ## One store -/

/-- Add the elements of a sequence that are not among those before them. -/
def mergeElements (existing : List Value) (added : List Value) : List Value :=
  added.foldl (fun merged v => if merged.any (·.same v) then merged else merged ++ [v]) existing

/-- The value to store: a sequence as a list, together with the sequence that is there already if
    sequences are merged. -/
def storedValue (merges : Bool) (existing : Option Value) (value : Value) : Value :=
  match value.sequence? with
  | none => value
  | some added =>
    match existing.bind Value.sequence? with
    | some present => if merges then .list (mergeElements present added) else .list added
    | none => .list added

/-- Add a fact. Null is not stored. -/
def addFact (merges : Bool) (facts : FactStore) (key value : Value) :
    Except (Failure ProfileError) FactStore :=
  if key.isBlank then .error (.refused .blankKey)
  else if value.isNull then .ok facts
  else if !key.hashable then .error (.fault .wrongType)
  else .ok (facts.insert key (storedValue merges (facts.get? key) value))

/-- Add facts one by one, up to the first one that is not accepted. -/
def addFacts (merges : Bool) (facts : FactStore) :
    List (Value × Value) → Except (Failure ProfileError) Unit × FactStore
  | [] => (.ok (), facts)
  | (key, value) :: rest =>
    match addFact merges facts key value with
    | .ok facts => addFacts merges facts rest
    | .error e => (.error e, facts)

/-- The keys of facts to be added must not be blank. -/
def checkKeys (keys : List Value) : Except (Failure ProfileError) Unit :=
  if keys.any Value.isBlank then .error (.refused .blankKey) else .ok ()

/-- The facts of a mapping, none of which has a blank key. -/
def factsOf (facts : Value) : Except (Failure ProfileError) (List (Value × Value)) :=
  if facts.isNull then .error (.refused .noFacts)
  else
    match facts with
    | .dict entries => (checkKeys (Entries.keys entries)).map fun _ => entries
    | v =>
      match v.elements with
      | .error cause => .error (.fault cause)
      | .ok keys =>
        match checkKeys keys with
        | .error e => .error e
        | .ok () => .error (.fault .missingOperation)

/-! ## Profiles -/

/-- Add a fact to a profile. -/
def add (p : Profile) (k : FactKind) (key value : Value) : ProfileUpdate :=
  match addFact p.merges (p.facts k) key value with
  | .ok facts => (.ok (), p.withFacts k facts)
  | .error e => (.error e, p)

/-- Add the facts of a mapping to a profile. -/
def addAll (p : Profile) (k : FactKind) (facts : Value) : ProfileUpdate :=
  match factsOf facts with
  | .error e => (.error e, p)
  | .ok entries =>
    let (result, facts) := addFacts p.merges (p.facts k) entries
    (result, p.withFacts k facts)

/-- Remove a fact. A value that cannot be a key is a fault, unless there is nothing to remove. -/
def remove (p : Profile) (k : FactKind) (key : Value) : ProfileUpdate :=
  if (p.facts k).isEmpty then (.ok (), p)
  else if !key.hashable then (.error (.fault .wrongType), p)
  else (.ok (), p.withFacts k ((p.facts k).erase key))

/-- The fact under a key. -/
def fact? (p : Profile) (k : FactKind) (key : Value) : Except Fault (Option Value) :=
  if key.hashable then .ok ((p.facts k).get? key) else .error .wrongType

end Profile

end RelyingParty
