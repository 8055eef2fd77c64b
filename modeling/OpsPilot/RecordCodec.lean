import OpsPilot.JsonText

/-! Codecs between values and JSON. A codec carries the proof that it reads what it writes, and the
codec of a record is put together from those of its fields. -/

namespace RecordCodec
open JsonText

structure Codec (α : Type) where
  write : α → Json
  read : Json → Option α
  read_write : ∀ a, read (write a) = some a

namespace Codec

variable {α : Type}

def text : Codec String where
  write := .str
  read
    | .str s => some s
    | _ => none
  read_write _ := rfl

theorem mapM_read (item : Codec α) (items : List α) :
    (items.map item.write).mapM item.read = some items := by
  induction items with
  | nil => rfl
  | cons a items ih => simp [item.read_write, ih]

def list (item : Codec α) : Codec (List α) where
  write items := .arr (items.map item.write)
  read
    | .arr items => items.mapM item.read
    | _ => none
  read_write := item.mapM_read

/-- `null` stands for a value that is missing. -/
def optional (item : Codec α) (present : ∀ a, item.write a ≠ .null) : Codec (Option α) where
  write a := (a.map item.write).getD .null
  read
    | .null => some none
    | value => (item.read value).map some
  read_write a := by
    cases a with
    | none => rfl
    | some a =>
      rw [Option.map_some, Option.getD_some]
      split
      · exact absurd ‹_› (present a)
      · rw [item.read_write, Option.map_some]

end Codec

structure Fields (names : List String) (α : Type) where
  write : α → List (String × Json)
  read : Json → Option α
  write_names : ∀ a, (write a).map (·.1) = names
  read_write : ∀ a before after, (∀ name ∈ names, before.lookup name = none) →
    read (.obj (before ++ (write a ++ after))) = some a

theorem lookup_none_of_not_mem {fields : List (String × Json)} {name : String}
    (missing : name ∉ fields.map (·.1)) : fields.lookup name = none := by
  refine List.lookup_eq_none_iff.mpr fun entry mem => ?_
  rw [bne_iff_ne]
  rintro rfl
  exact missing (List.mem_map_of_mem mem)

theorem lookup_field {before after : List (String × Json)} {name : String} (value : Json)
    (missing : before.lookup name = none) :
    (before ++ (name, value) :: after).lookup name = some value := by
  rw [List.lookup_append, missing, List.lookup_cons, beq_self_eq_true]
  rfl

namespace Fields

variable {α β : Type} {names others : List String}

def required (name : String) (item : Codec α) : Fields [name] α where
  write a := [(name, item.write a)]
  read value := (value.field? name).bind item.read
  write_names _ := rfl
  read_write a before after missing := by
    have found : (before ++ (name, item.write a) :: after).lookup name = some (item.write a) :=
      lookup_field _ (missing name (by simp))
    rw [List.singleton_append, Json.field?, found, Option.bind_some, item.read_write]

def defaulted (name : String) (item : Codec α) (default : α) : Fields [name] α where
  write a := [(name, item.write a)]
  read value := ((value.field? name).map item.read).getD (some default)
  write_names _ := rfl
  read_write a before after missing := by
    have found : (before ++ (name, item.write a) :: after).lookup name = some (item.write a) :=
      lookup_field _ (missing name (by simp))
    rw [List.singleton_append, Json.field?, found, Option.map_some, Option.getD_some,
      item.read_write]

def both (left : Fields names α) (right : Fields others β)
    (apart : ∀ name ∈ others, name ∉ names := by decide) : Fields (names ++ others) (α × β) where
  write pair := left.write pair.1 ++ right.write pair.2
  read value := (left.read value).bind fun a => (right.read value).map fun b => (a, b)
  write_names pair := by rw [List.map_append, left.write_names, right.write_names]
  read_write := by
    intro (a, b) before after missing
    have first := left.read_write a before (right.write b ++ after) fun name mem =>
      missing name (List.mem_append_left _ mem)
    have second := right.read_write b (before ++ left.write a) after fun name mem => by
      rw [List.lookup_append, missing name (List.mem_append_right _ mem), Option.none_or]
      refine lookup_none_of_not_mem ?_
      rw [left.write_names]
      exact apart name mem
    simp only [List.append_assoc] at first second ⊢
    rw [first, second]
    rfl

def iso (fields : Fields names α) (pack : α → β) (unpack : β → α)
    (inverse : ∀ b, pack (unpack b) = b) : Fields names β where
  write b := fields.write (unpack b)
  read value := (fields.read value).map pack
  write_names b := fields.write_names (unpack b)
  read_write b before after missing := by
    rw [fields.read_write (unpack b) before after missing, Option.map_some, inverse]

/-- An object of exactly these fields; on reading it may have others. -/
def record (fields : Fields names α) : Codec α where
  write a := .obj (fields.write a)
  read value := if value.isObject then fields.read value else none
  read_write a := by
    have alone := fields.read_write a [] [] fun _ _ => rfl
    rw [List.nil_append, List.append_nil] at alone
    change (if true then _ else _) = _
    rw [if_pos rfl, alone]

end Fields

end RecordCodec
