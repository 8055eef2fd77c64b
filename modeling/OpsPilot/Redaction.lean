import OpsPilot.Platform

/-! What leaves the process with a trace: values are made JSON-like, then every entry under a
secret-shaped key is masked, at every depth and in every kind of container. -/

namespace OpsPilot.Redaction

/-- Containers over scalars. A model is the dict of its fields with a class of its own. -/
inductive Value (Scalar : Type) where
  | scalar (value : Scalar)
  | str (text : String)
  | dict (entries : List (String × Value Scalar))
  | list (items : List (Value Scalar))
  | tuple (items : List (Value Scalar))
  | model (fields : List (String × Value Scalar))

variable {Scalar : Type}

def redactKeys : List String :=
  ["api_key", "authorization", "x-api-key", "password", "secret", "token"]

/-- `key.lower() in _REDACT_KEYS` -/
def isSecret (py : Platform) (key : String) : Bool :=
  redactKeys.contains (String.ofList (py.lower key.toList))

def redacted : Value Scalar := .str "[REDACTED]"

mutual

def redact (py : Platform) : Value Scalar → Value Scalar
  | .dict entries => .dict (redactEntries py entries)
  | .list items => .list (redactItems py items)
  | .scalar value => .scalar value
  | .str text => .str text
  | .tuple items => .tuple items
  | .model fields => .model fields

def redactEntries (py : Platform) : List (String × Value Scalar) → List (String × Value Scalar)
  | [] => []
  | (key, value) :: entries =>
    (key, if isSecret py key then redacted else redact py value) :: redactEntries py entries

def redactItems (py : Platform) : List (Value Scalar) → List (Value Scalar)
  | [] => []
  | item :: items => redact py item :: redactItems py items

end

mutual

/-- A model is dumped into the dict of its fields, which is converted in turn. -/
def toJsonable : Value Scalar → Value Scalar
  | .model fields => .dict (toJsonableEntries fields)
  | .dict entries => .dict (toJsonableEntries entries)
  | .list items => .list (toJsonableItems items)
  | .tuple items => .list (toJsonableItems items)
  | .scalar value => .scalar value
  | .str text => .str text

def toJsonableEntries : List (String × Value Scalar) → List (String × Value Scalar)
  | [] => []
  | (key, value) :: entries => (key, toJsonable value) :: toJsonableEntries entries

def toJsonableItems : List (Value Scalar) → List (Value Scalar)
  | [] => []
  | item :: items => toJsonable item :: toJsonableItems items

end

/-- What a traced node sends. -/
def payload (py : Platform) (value : Value Scalar) : Value Scalar := redact py (toJsonable value)

variable (py : Platform)

mutual

/-- The second value is the first with every secret entry masked, and otherwise the same: tuples
are lists and models are dicts in it. -/
inductive Masks : Value Scalar → Value Scalar → Prop where
  | scalar (value) : Masks (.scalar value) (.scalar value)
  | str (text) : Masks (.str text) (.str text)
  | dict {entries out} (masks : MasksEntries entries out) : Masks (.dict entries) (.dict out)
  | model {fields out} (masks : MasksEntries fields out) : Masks (.model fields) (.dict out)
  | list {items out} (masks : MasksItems items out) : Masks (.list items) (.list out)
  | tuple {items out} (masks : MasksItems items out) : Masks (.tuple items) (.list out)

inductive MasksEntries : List (String × Value Scalar) → List (String × Value Scalar) → Prop where
  | nil : MasksEntries [] []
  | secret {key value entries out} (named : isSecret py key = true)
      (rest : MasksEntries entries out) :
      MasksEntries ((key, value) :: entries) ((key, redacted) :: out)
  | plain {key value masked entries out} (named : isSecret py key = false)
      (masks : Masks value masked) (rest : MasksEntries entries out) :
      MasksEntries ((key, value) :: entries) ((key, masked) :: out)

inductive MasksItems : List (Value Scalar) → List (Value Scalar) → Prop where
  | nil : MasksItems [] []
  | cons {item masked items out} (masks : Masks item masked) (rest : MasksItems items out) :
      MasksItems (item :: items) (masked :: out)

end

mutual

theorem payload_masks : (value : Value Scalar) → Masks py value (payload py value)
  | .scalar value => .scalar value
  | .str text => .str text
  | .dict entries => .dict (payload_masksEntries entries)
  | .model fields => .model (payload_masksEntries fields)
  | .list items => .list (payload_masksItems items)
  | .tuple items => .tuple (payload_masksItems items)

theorem payload_masksEntries : (entries : List (String × Value Scalar)) →
    MasksEntries py entries (redactEntries py (toJsonableEntries entries))
  | [] => .nil
  | (key, value) :: entries => by
    rw [toJsonableEntries, redactEntries]
    cases named : isSecret py key with
    | true => exact .secret named (payload_masksEntries entries)
    | false => exact .plain named (payload_masks value) (payload_masksEntries entries)

theorem payload_masksItems : (items : List (Value Scalar)) →
    MasksItems py items (redactItems py (toJsonableItems items))
  | [] => .nil
  | item :: items => .cons (payload_masks item) (payload_masksItems items)

end

mutual

theorem payload_unique {value masked : Value Scalar} :
    Masks py value masked → masked = payload py value
  | .scalar _ => rfl
  | .str _ => rfl
  | .dict masks => congrArg Value.dict (payloadEntries_unique masks)
  | .model masks => congrArg Value.dict (payloadEntries_unique masks)
  | .list masks => congrArg Value.list (payloadItems_unique masks)
  | .tuple masks => congrArg Value.list (payloadItems_unique masks)

theorem payloadEntries_unique {entries out : List (String × Value Scalar)} :
    MasksEntries py entries out → out = redactEntries py (toJsonableEntries entries)
  | .nil => rfl
  | .secret named rest => by
    rw [toJsonableEntries, redactEntries, if_pos named, payloadEntries_unique rest]
  | .plain named masks rest => by
    rw [toJsonableEntries, redactEntries, if_neg (by rw [named]; exact Bool.false_ne_true),
      payloadEntries_unique rest, payload_unique masks, payload]

theorem payloadItems_unique {items out : List (Value Scalar)} :
    MasksItems py items out → out = redactItems py (toJsonableItems items)
  | .nil => rfl
  | .cons masks rest => by
    rw [toJsonableItems, redactItems, payloadItems_unique rest, payload_unique masks, payload]

end

mutual

theorem redact_payload : (value : Value Scalar) → redact py (payload py value) = payload py value
  | .scalar _ => rfl
  | .str _ => rfl
  | .dict entries => congrArg Value.dict (redact_payloadEntries entries)
  | .model fields => congrArg Value.dict (redact_payloadEntries fields)
  | .list items => congrArg Value.list (redact_payloadItems items)
  | .tuple items => congrArg Value.list (redact_payloadItems items)

theorem redact_payloadEntries : (entries : List (String × Value Scalar)) →
    redactEntries py (redactEntries py (toJsonableEntries entries)) =
      redactEntries py (toJsonableEntries entries)
  | [] => rfl
  | (key, value) :: entries => by
    have rest := redact_payloadEntries entries
    rw [toJsonableEntries, redactEntries, redactEntries, rest]
    cases named : isSecret py key with
    | true => rfl
    | false =>
      have settled := redact_payload value
      rw [payload] at settled
      simp [settled]

theorem redact_payloadItems : (items : List (Value Scalar)) →
    redactItems py (redactItems py (toJsonableItems items)) =
      redactItems py (toJsonableItems items)
  | [] => rfl
  | item :: items => by
    have first := redact_payload item
    rw [payload] at first
    rw [toJsonableItems, redactItems, redactItems, first, redact_payloadItems items]

end

mutual

theorem toJsonable_payload : (value : Value Scalar) →
    toJsonable (payload py value) = payload py value
  | .scalar _ => rfl
  | .str _ => rfl
  | .dict entries => congrArg Value.dict (toJsonable_payloadEntries entries)
  | .model fields => congrArg Value.dict (toJsonable_payloadEntries fields)
  | .list items => congrArg Value.list (toJsonable_payloadItems items)
  | .tuple items => congrArg Value.list (toJsonable_payloadItems items)

theorem toJsonable_payloadEntries : (entries : List (String × Value Scalar)) →
    toJsonableEntries (redactEntries py (toJsonableEntries entries)) =
      redactEntries py (toJsonableEntries entries)
  | [] => rfl
  | (key, value) :: entries => by
    have rest := toJsonable_payloadEntries entries
    rw [toJsonableEntries, redactEntries, toJsonableEntries, rest]
    cases named : isSecret py key with
    | true => rfl
    | false =>
      have settled := toJsonable_payload value
      rw [payload] at settled
      simp [settled]

theorem toJsonable_payloadItems : (items : List (Value Scalar)) →
    toJsonableItems (redactItems py (toJsonableItems items)) =
      redactItems py (toJsonableItems items)
  | [] => rfl
  | item :: items => by
    have first := toJsonable_payload item
    rw [payload] at first
    rw [toJsonableItems, redactItems, toJsonableItems, first, toJsonable_payloadItems items]

end

/-- An entry that stands in the value, at whatever depth and in whatever container. -/
inductive Holds (key : String) (value : Value Scalar) : Value Scalar → Prop where
  | entry {entries} (mem : (key, value) ∈ entries) : Holds key value (.dict entries)
  | field {fields} (mem : (key, value) ∈ fields) : Holds key value (.model fields)
  | inDict {name part entries} (mem : (name, part) ∈ entries) (inside : Holds key value part) :
      Holds key value (.dict entries)
  | inModel {name part fields} (mem : (name, part) ∈ fields) (inside : Holds key value part) :
      Holds key value (.model fields)
  | inList {part items} (mem : part ∈ items) (inside : Holds key value part) :
      Holds key value (.list items)
  | inTuple {part items} (mem : part ∈ items) (inside : Holds key value part) :
      Holds key value (.tuple items)

theorem mem_payloadEntries {key : String} {value : Value Scalar}
    {entries : List (String × Value Scalar)}
    (mem : (key, value) ∈ redactEntries py (toJsonableEntries entries)) :
    (isSecret py key = true ∧ value = redacted) ∨
      isSecret py key = false ∧ ∃ old, value = payload py old := by
  induction entries with
  | nil => cases mem
  | cons entry entries ih =>
    obtain ⟨name, old⟩ := entry
    rw [toJsonableEntries, redactEntries] at mem
    rcases List.mem_cons.mp mem with same | mem
    · cases same
      cases named : isSecret py key with
      | true => exact .inl ⟨rfl, rfl⟩
      | false => exact .inr ⟨rfl, old, rfl⟩
    · exact ih mem

theorem mem_payloadItems {value : Value Scalar} {items : List (Value Scalar)}
    (mem : value ∈ redactItems py (toJsonableItems items)) : ∃ old, value = payload py old := by
  induction items with
  | nil => cases mem
  | cons item items ih =>
    rw [toJsonableItems, redactItems] at mem
    rcases List.mem_cons.mp mem with rfl | mem
    · exact ⟨item, rfl⟩
    · exact ih mem

theorem payload_eq_dict {value : Value Scalar} {out : List (String × Value Scalar)}
    (same : payload py value = .dict out) :
    ∃ entries, out = redactEntries py (toJsonableEntries entries) := by
  cases value with
  | dict entries | model entries => exact ⟨entries, (Value.dict.inj same).symm⟩
  | scalar | str | list | tuple => cases same

theorem payload_eq_list {value : Value Scalar} {out : List (Value Scalar)}
    (same : payload py value = .list out) :
    ∃ items, out = redactItems py (toJsonableItems items) := by
  cases value with
  | list items | tuple items => exact ⟨items, (Value.list.inj same).symm⟩
  | scalar | str | dict | model => cases same

theorem payload_masked {key : String} {held out : Value Scalar} (holds : Holds key held out)
    {value : Value Scalar} (same : payload py value = out) (named : isSecret py key = true) :
    held = redacted := by
  induction holds generalizing value with
  | entry mem =>
    obtain ⟨entries, rfl⟩ := payload_eq_dict py same
    obtain ⟨_, masked⟩ | ⟨plain, _⟩ := mem_payloadEntries py mem
    · exact masked
    · cases named.symm.trans plain
  | inDict mem inside ih =>
    obtain ⟨entries, rfl⟩ := payload_eq_dict py same
    obtain ⟨_, rfl⟩ | ⟨_, old, rfl⟩ := mem_payloadEntries py mem
    · cases inside
    · exact ih rfl
  | inList mem _ ih =>
    obtain ⟨items, rfl⟩ := payload_eq_list py same
    obtain ⟨old, rfl⟩ := mem_payloadItems py mem
    exact ih rfl
  | field | inModel | inTuple => cases value <;> cases same

mutual

/-- The values differ at most under secret keys. -/
inductive SameButSecrets : Value Scalar → Value Scalar → Prop where
  | scalar (value) : SameButSecrets (.scalar value) (.scalar value)
  | str (text) : SameButSecrets (.str text) (.str text)
  | dict {entries others} (same : SameEntries entries others) :
      SameButSecrets (.dict entries) (.dict others)
  | model {fields others} (same : SameEntries fields others) :
      SameButSecrets (.model fields) (.model others)
  | list {items others} (same : SameItems items others) :
      SameButSecrets (.list items) (.list others)
  | tuple {items others} (same : SameItems items others) :
      SameButSecrets (.tuple items) (.tuple others)

inductive SameEntries : List (String × Value Scalar) → List (String × Value Scalar) → Prop where
  | nil : SameEntries [] []
  | secret {key value other entries others} (named : isSecret py key = true)
      (rest : SameEntries entries others) :
      SameEntries ((key, value) :: entries) ((key, other) :: others)
  | plain {key value other entries others} (same : SameButSecrets value other)
      (rest : SameEntries entries others) :
      SameEntries ((key, value) :: entries) ((key, other) :: others)

inductive SameItems : List (Value Scalar) → List (Value Scalar) → Prop where
  | nil : SameItems [] []
  | cons {item other items others} (same : SameButSecrets item other)
      (rest : SameItems items others) : SameItems (item :: items) (other :: others)

end

mutual

theorem payload_congr {value other : Value Scalar} :
    SameButSecrets py value other → payload py value = payload py other
  | .scalar _ => rfl
  | .str _ => rfl
  | .dict same => congrArg Value.dict (payloadEntries_congr same)
  | .model same => congrArg Value.dict (payloadEntries_congr same)
  | .list same => congrArg Value.list (payloadItems_congr same)
  | .tuple same => congrArg Value.list (payloadItems_congr same)

theorem payloadEntries_congr {entries others : List (String × Value Scalar)} :
    SameEntries py entries others →
      redactEntries py (toJsonableEntries entries) = redactEntries py (toJsonableEntries others)
  | .nil => rfl
  | .secret named rest => by
    simp only [toJsonableEntries, redactEntries, if_pos named, payloadEntries_congr rest]
  | .plain same rest => by
    have parts := payload_congr same
    simp only [payload] at parts
    simp only [toJsonableEntries, redactEntries, parts, payloadEntries_congr rest]

theorem payloadItems_congr {items others : List (Value Scalar)} :
    SameItems py items others →
      redactItems py (toJsonableItems items) = redactItems py (toJsonableItems others)
  | .nil => rfl
  | .cons same rest => by
    have parts := payload_congr same
    simp only [payload] at parts
    simp only [toJsonableItems, redactItems, parts, payloadItems_congr rest]

end

/-- For every value: the payload holds `[REDACTED]` under every secret key at every depth, is the
value in everything else, is settled, and is the same for every value that differs from it only
under such keys. -/
theorem redaction_complete (value : Value Scalar) :
    (∀ key held, Holds key held (payload py value) → isSecret py key = true → held = redacted) ∧
    (∀ out, Masks py value out ↔ out = payload py value) ∧
    redact py (payload py value) = payload py value ∧
    toJsonable (payload py value) = payload py value ∧
    ∀ other, SameButSecrets py value other → payload py value = payload py other := by
  refine ⟨fun key held holds named => payload_masked py holds rfl named, fun out => ?_,
    redact_payload py value, toJsonable_payload py value, fun other same => payload_congr py same⟩
  constructor
  · exact payload_unique py
  · rintro rfl
    exact payload_masks py value

example : payload Platform.ascii (.dict
    [("Authorization", .scalar 1),
      ("steps", .tuple [.model [("token", .list []), ("step", .scalar 2)]])]) =
    .dict [("Authorization", redacted),
      ("steps", .list [.dict [("token", redacted), ("step", .scalar 2)]])] := rfl

end OpsPilot.Redaction
