import Mathlib.Data.Rat.Defs
import Mathlib.Data.List.Sort
import Mathlib.Data.List.Infix

/-! JSON values and the text `json.dumps` writes for them with its default separators.
The text of a float is a parameter; everything else is fixed by the value. -/

namespace JsonText

inductive Json where
  | null
  | bool (value : Bool)
  | int (value : ℤ)
  | float (value : ℚ)
  | str (value : String)
  | arr (items : List Json)
  | obj (fields : List (String × Json))
deriving Inhabited

namespace Json

/-- `dict.get` on an object; no other value has fields. -/
def field? (name : String) : Json → Option Json
  | .obj fields => fields.lookup name
  | _ => none

def truthy : Json → Bool
  | .null => false
  | .bool b => b
  | .int i => i != 0
  | .float q => q != 0
  | .str s => s != ""
  | .arr items => !items.isEmpty
  | .obj fields => !fields.isEmpty

def fields : Json → List (String × Json)
  | .obj fields => fields
  | _ => []

def isObject : Json → Bool
  | .obj _ => true
  | _ => false

/-- `{**fields, name: value}`: a key that is already there keeps its place. -/
def setField (name : String) (value : Json) :
    List (String × Json) → List (String × Json)
  | [] => [(name, value)]
  | (key, old) :: rest =>
    if key = name then (key, value) :: rest else (key, old) :: setField name value rest

theorem lookup_setField_self (name : String) (value : Json) (fields : List (String × Json)) :
    (setField name value fields).lookup name = some value := by
  induction fields with
  | nil => simp [setField]
  | cons entry rest ih =>
    obtain ⟨key, old⟩ := entry
    by_cases same : key = name
    · simp [setField, same]
    · have other : (name == key) = false := by simp [Ne.symm same]
      simp [setField, same, List.lookup_cons, other, ih]

def number? : Json → Option ℚ
  | .bool b => some (if b then 1 else 0)
  | .int i => some i
  | .float q => some q
  | _ => none

mutual

/-- Python's `==`: numbers by value, objects by their fields in any order. -/
def equal : Json → Json → Bool
  | .null, .null => true
  | .str a, .str b => a == b
  | .arr a, .arr b => equalItems a b
  | .obj a, .obj b => a.length == b.length && equalFields a b
  | a, b =>
    match number? a, number? b with
    | some x, some y => x == y
    | _, _ => false

def equalItems : List Json → List Json → Bool
  | [], [] => true
  | a :: as, b :: bs => equal a b && equalItems as bs
  | _, _ => false

def equalFields : List (String × Json) → List (String × Json) → Bool
  | [], _ => true
  | (key, a) :: fields, others =>
    (match others.lookup key with
    | some b => equal a b
    | none => false) && equalFields fields others

end

@[simp] theorem equal_str (a b : String) : equal (.str a) (.str b) = (a == b) := by
  simp [equal]

def hexDigit (n : ℕ) : Char :=
  if n < 10 then Char.ofNat (n + 48) else Char.ofNat (n + 87)

/-- A UTF-16 code unit as `\uXXXX`. -/
def unicodeEscape (unit : ℕ) : List Char :=
  ['\\', 'u', hexDigit (unit / 4096 % 16), hexDigit (unit / 256 % 16),
    hexDigit (unit / 16 % 16), hexDigit (unit % 16)]

/-- `ensure_ascii`: printable ASCII stands for itself, except the quote and the backslash. -/
def escapeChar (c : Char) : List Char :=
  if c = '"' then ['\\', '"']
  else if c = '\\' then ['\\', '\\']
  else if c.toNat = 10 then ['\\', 'n']
  else if c.toNat = 13 then ['\\', 'r']
  else if c.toNat = 9 then ['\\', 't']
  else if c.toNat = 12 then ['\\', 'f']
  else if c.toNat = 8 then ['\\', 'b']
  else if 32 ≤ c.toNat ∧ c.toNat ≤ 126 then [c]
  else if c.toNat < 65536 then unicodeEscape c.toNat
  else unicodeEscape (55296 + (c.toNat - 65536) / 1024) ++
    unicodeEscape (56320 + (c.toNat - 65536) % 1024)

def quoted (s : String) : List Char :=
  '"' :: (s.toList.flatMap escapeChar ++ ['"'])

def intText : ℤ → List Char
  | .ofNat n => Nat.toDigits 10 n
  | .negSucc n => '-' :: Nat.toDigits 10 (n + 1)

mutual

def dumps (floatRepr : ℚ → List Char) : Json → List Char
  | .null => "null".toList
  | .bool true => "true".toList
  | .bool false => "false".toList
  | .int i => intText i
  | .float q => floatRepr q
  | .str s => quoted s
  | .arr [] => "[]".toList
  | .arr (item :: items) => '[' :: (dumps floatRepr item ++ dumpsItems floatRepr items ++ [']'])
  | .obj [] => "{}".toList
  | .obj ((key, value) :: fields) =>
    '{' :: (quoted key ++ ": ".toList ++ dumps floatRepr value ++
      dumpsFields floatRepr fields ++ ['}'])

def dumpsItems (floatRepr : ℚ → List Char) : List Json → List Char
  | [] => []
  | item :: items => ", ".toList ++ dumps floatRepr item ++ dumpsItems floatRepr items

def dumpsFields (floatRepr : ℚ → List Char) : List (String × Json) → List Char
  | [] => []
  | (key, value) :: fields =>
    ", ".toList ++ quoted key ++ ": ".toList ++ dumps floatRepr value ++
      dumpsFields floatRepr fields

end

mutual

/-- `sort_keys=True`: the fields of every object in key order. -/
def sortKeys : Json → Json
  | .arr items => .arr (sortKeysItems items)
  | .obj fields => .obj ((sortKeysFields fields).insertionSort (fun a b => a.1 ≤ b.1))
  | value => value

def sortKeysItems : List Json → List Json
  | [] => []
  | item :: items => sortKeys item :: sortKeysItems items

def sortKeysFields : List (String × Json) → List (String × Json)
  | [] => []
  | (key, value) :: fields => (key, sortKeys value) :: sortKeysFields fields

end

/-- The first value is the second or stands somewhere inside it. -/
inductive Within : Json → Json → Prop where
  | refl (value) : Within value value
  | item {value item items} (mem : item ∈ items) (inside : Within value item) :
      Within value (.arr items)
  | field {value key part fields} (mem : (key, part) ∈ fields) (inside : Within value part) :
      Within value (.obj fields)

variable {floatRepr : ℚ → List Char}

theorem dumpsItems_inside {item : Json} {items : List Json} (mem : item ∈ items) :
    dumps floatRepr item <:+: dumpsItems floatRepr items := by
  induction items with
  | nil => cases mem
  | cons first rest ih =>
    rw [dumpsItems]
    cases mem with
    | head => exact List.infix_append _ _ _
    | tail _ later => exact (ih later).trans (List.suffix_append _ _).isInfix

theorem dumpsFields_inside {key : String} {value : Json} {fields : List (String × Json)}
    (mem : (key, value) ∈ fields) :
    dumps floatRepr value <:+: dumpsFields floatRepr fields := by
  induction fields with
  | nil => cases mem
  | cons first rest ih =>
    obtain ⟨k, v⟩ := first
    rw [dumpsFields]
    cases mem with
    | head => exact List.infix_append _ _ _
    | tail _ later => exact (ih later).trans (List.suffix_append _ _).isInfix

theorem dumps_item_inside {item : Json} {items : List Json} (mem : item ∈ items) :
    dumps floatRepr item <:+: dumps floatRepr (.arr items) := by
  cases items with
  | nil => cases mem
  | cons first rest =>
    rw [dumps]
    cases mem with
    | head =>
      rw [List.append_assoc]
      exact (List.prefix_append _ _).isInfix.trans (List.suffix_cons _ _).isInfix
    | tail _ later =>
      exact (dumpsItems_inside later).trans
        ((List.infix_append _ _ _).trans (List.suffix_cons _ _).isInfix)

theorem dumps_field_inside {key : String} {value : Json} {fields : List (String × Json)}
    (mem : (key, value) ∈ fields) :
    dumps floatRepr value <:+: dumps floatRepr (.obj fields) := by
  cases fields with
  | nil => cases mem
  | cons first rest =>
    obtain ⟨k, v⟩ := first
    rw [dumps]
    cases mem with
    | head =>
      rw [List.append_assoc _ (dumpsFields floatRepr rest)]
      exact (List.infix_append _ _ _).trans (List.suffix_cons _ _).isInfix
    | tail _ later =>
      exact (dumpsFields_inside later).trans
        ((List.infix_append _ _ _).trans (List.suffix_cons _ _).isInfix)

theorem dumps_within {part whole : Json} (inside : Within part whole) :
    dumps floatRepr part <:+: dumps floatRepr whole := by
  induction inside with
  | refl => exact List.infix_rfl
  | item mem _ ih => exact ih.trans (dumps_item_inside mem)
  | field mem _ ih => exact ih.trans (dumps_field_inside mem)

def plainChar (c : Char) : Bool :=
  decide (32 ≤ c.toNat) && decide (c.toNat ≤ 126) && c != '"' && c != '\\'

theorem escapeChar_plain {c : Char} (plain : plainChar c = true) : escapeChar c = [c] := by
  simp only [plainChar, Bool.and_eq_true, decide_eq_true_eq, bne_iff_ne, ne_eq] at plain
  obtain ⟨⟨⟨low, high⟩, quote⟩, backslash⟩ := plain
  rw [escapeChar, if_neg quote, if_neg backslash]
  repeat rw [if_neg (by omega)]
  rw [if_pos ⟨low, high⟩]

theorem flatMap_escapeChar_plain {cs : List Char} (plain : ∀ c ∈ cs, plainChar c = true) :
    cs.flatMap escapeChar = cs := by
  induction cs with
  | nil => rfl
  | cons c cs ih =>
    rw [List.flatMap_cons, escapeChar_plain (plain c (List.mem_cons_self ..)),
      ih (fun d mem => plain d (List.mem_cons_of_mem _ mem))]
    rfl

theorem plain_part_dumps {s : String} {part : List Char} (within : part <:+: s.toList)
    (plain : ∀ c ∈ part, plainChar c = true) {whole : Json} (inside : Within (.str s) whole) :
    part <:+: dumps floatRepr whole := by
  obtain ⟨before, after, split⟩ := within
  have own : part <:+: dumps floatRepr (.str s) := by
    rw [dumps, quoted, ← split, List.flatMap_append, List.flatMap_append,
      flatMap_escapeChar_plain plain]
    exact ((List.infix_append _ _ _).trans (List.prefix_append _ _).isInfix).trans
      (List.suffix_cons _ _).isInfix
  exact own.trans (dumps_within inside)

def printable (c : Char) : Bool := decide (32 ≤ c.toNat) && decide (c.toNat ≤ 126)

theorem hexDigit_printable (n : ℕ) : printable (hexDigit (n % 16)) = true := by
  have small : n % 16 < 16 := Nat.mod_lt _ (by decide)
  generalize n % 16 = digit at small
  have all : ∀ d : Fin 16, printable (hexDigit d) = true := by decide
  exact all ⟨digit, small⟩

theorem unicodeEscape_printable (unit : ℕ) :
    ∀ c ∈ unicodeEscape unit, printable c = true := by
  intro c mem
  simp only [unicodeEscape, List.mem_cons, List.not_mem_nil, or_false] at mem
  obtain rfl | rfl | rfl | rfl | rfl | rfl := mem
  · decide
  · decide
  all_goals exact hexDigit_printable _

theorem escapeChar_printable (c : Char) : ∀ d ∈ escapeChar c, printable d = true := by
  intro d mem
  have short (a b : Char) (ha : printable a = true) (hb : printable b = true)
      (mem : d ∈ [a, b]) : printable d = true := by
    simp only [List.mem_cons, List.not_mem_nil, or_false] at mem
    obtain rfl | rfl := mem
    · exact ha
    · exact hb
  unfold escapeChar at mem
  split_ifs at mem with _ _ _ _ _ _ _ inside
  iterate 7 exact short _ _ (by decide) (by decide) mem
  · rw [List.mem_singleton.mp mem, printable, decide_eq_true inside.1, decide_eq_true inside.2]
    rfl
  · exact unicodeEscape_printable _ d mem
  · obtain mem | mem := List.mem_append.mp mem
    · exact unicodeEscape_printable _ d mem
    · exact unicodeEscape_printable _ d mem

theorem quoted_printable (s : String) : ∀ c ∈ quoted s, printable c = true := by
  intro c mem
  simp only [quoted, List.mem_cons, List.mem_append, List.mem_flatMap, List.not_mem_nil,
    or_false] at mem
  obtain rfl | ⟨d, -, escaped⟩ | rfl := mem
  · decide
  · exact escapeChar_printable d c escaped
  · decide

theorem toDigits_printable (n : ℕ) : ∀ c ∈ Nat.toDigits 10 n, printable c = true := by
  intro c mem
  have digit := Nat.isDigit_of_mem_toDigits (by decide) (by decide) mem
  simp only [Char.isDigit, ge_iff_le, Bool.and_eq_true, decide_eq_true_eq] at digit
  have low : 48 ≤ c.toNat := UInt32.le_iff_toNat_le.mp digit.1
  have high : c.toNat ≤ 57 := UInt32.le_iff_toNat_le.mp digit.2
  rw [printable, decide_eq_true (by omega), decide_eq_true (by omega)]
  rfl

theorem intText_printable (i : ℤ) : ∀ c ∈ intText i, printable c = true := by
  intro c mem
  cases i with
  | ofNat n => exact toDigits_printable n c mem
  | negSucc n =>
    obtain rfl | mem := List.mem_cons.mp mem
    · decide
    · exact toDigits_printable _ c mem

def textPrintable (cs : List Char) : Prop := ∀ c ∈ cs, printable c = true

theorem textPrintable_of_all {cs : List Char} (all : cs.all printable = true) :
    textPrintable cs :=
  List.all_eq_true.mp all

theorem textPrintable_append {xs ys : List Char} (hx : textPrintable xs)
    (hy : textPrintable ys) : textPrintable (xs ++ ys) := by
  intro c mem
  obtain mem | mem := List.mem_append.mp mem
  · exact hx c mem
  · exact hy c mem

theorem textPrintable_cons {c : Char} {cs : List Char} (hc : printable c = true)
    (hcs : textPrintable cs) : textPrintable (c :: cs) := by
  intro d mem
  obtain rfl | mem := List.mem_cons.mp mem
  · exact hc
  · exact hcs d mem

mutual

theorem dumps_printable (floats : ∀ q, textPrintable (floatRepr q)) :
    (value : Json) → textPrintable (dumps floatRepr value)
  | .null => by rw [dumps]; exact textPrintable_of_all (by decide)
  | .bool true => by rw [dumps]; exact textPrintable_of_all (by decide)
  | .bool false => by rw [dumps]; exact textPrintable_of_all (by decide)
  | .int i => by rw [dumps]; exact intText_printable i
  | .float q => by rw [dumps]; exact floats q
  | .str s => by rw [dumps]; exact quoted_printable s
  | .arr [] => by rw [dumps]; exact textPrintable_of_all (by decide)
  | .arr (item :: items) => by
    rw [dumps]
    exact textPrintable_cons (by decide) (textPrintable_append
      (textPrintable_append (dumps_printable floats item) (dumpsItems_printable floats items))
      (textPrintable_cons (by decide) (by simp [textPrintable])))
  | .obj [] => by rw [dumps]; exact textPrintable_of_all (by decide)
  | .obj ((key, value) :: fields) => by
    rw [dumps]
    exact textPrintable_cons (by decide) (textPrintable_append
      (textPrintable_append (textPrintable_append
        (textPrintable_append (quoted_printable key) (textPrintable_of_all (by decide)))
        (dumps_printable floats value)) (dumpsFields_printable floats fields))
      (textPrintable_cons (by decide) (by simp [textPrintable])))

theorem dumpsItems_printable (floats : ∀ q, textPrintable (floatRepr q)) :
    (items : List Json) → textPrintable (dumpsItems floatRepr items)
  | [] => by simp [dumpsItems, textPrintable]
  | item :: items => by
    rw [dumpsItems]
    exact textPrintable_append (textPrintable_append (textPrintable_of_all (by decide))
      (dumps_printable floats item)) (dumpsItems_printable floats items)

theorem dumpsFields_printable (floats : ∀ q, textPrintable (floatRepr q)) :
    (fields : List (String × Json)) → textPrintable (dumpsFields floatRepr fields)
  | [] => by simp [dumpsFields, textPrintable]
  | (key, value) :: fields => by
    rw [dumpsFields]
    exact textPrintable_append (textPrintable_append (textPrintable_append
      (textPrintable_append (textPrintable_of_all (by decide)) (quoted_printable key))
      (textPrintable_of_all (by decide))) (dumps_printable floats value))
        (dumpsFields_printable floats fields)

end

end Json

end JsonText
