import Mathlib.Data.List.TakeWhile
import OpsPilot.JsonText

/-! JSON text is unambiguous: what follows a value in a text tells where the value ends, so a text
is the text of one value only. Floats are left out, their text being a parameter. -/

namespace JsonText.Json

def hexVal (c : Char) : ℕ := if c.isDigit then c.toNat - 48 else c.toNat - 87

theorem hexVal_hexDigit (n : ℕ) : hexVal (hexDigit (n % 16)) = n % 16 := by
  have small : n % 16 < 16 := Nat.mod_lt _ (by decide)
  generalize n % 16 = digit at small
  have all : ∀ d : Fin 16, hexVal (hexDigit d) = d := by decide
  exact all ⟨digit, small⟩

def readUnit : List Char → Option (ℕ × List Char)
  | a :: b :: c :: d :: rest =>
    some (hexVal a * 4096 + hexVal b * 256 + hexVal c * 16 + hexVal d, rest)
  | _ => none

def readUnicode (text : List Char) : Option (Char × List Char) :=
  match readUnit text with
  | none => none
  | some (unit, rest) =>
    if 55296 ≤ unit ∧ unit < 56320 then
      (readUnit (rest.drop 2)).map fun (low, rest) =>
        (Char.ofNat (65536 + (unit - 55296) * 1024 + (low - 56320)), rest)
    else some (Char.ofNat unit, rest)

def shortEscape (c : Char) : Option Char :=
  if c = '"' ∨ c = '\\' then some c
  else if c = 'n' then some (Char.ofNat 10)
  else if c = 'r' then some (Char.ofNat 13)
  else if c = 't' then some (Char.ofNat 9)
  else if c = 'f' then some (Char.ofNat 12)
  else if c = 'b' then some (Char.ofNat 8)
  else none

def readChar : List Char → Option (Char × List Char)
  | [] => none
  | [c] => some (c, [])
  | c :: e :: rest =>
    if c ≠ '\\' then some (c, e :: rest)
    else if e = 'u' then readUnicode rest
    else (shortEscape e).map (·, rest)

theorem readUnit_unicodeEscape {unit : ℕ} (small : unit < 65536) (rest : List Char) :
    readUnit ((unicodeEscape unit).drop 2 ++ rest) = some (unit, rest) := by
  simp only [unicodeEscape, List.drop_succ_cons, List.drop_zero, List.cons_append,
    List.nil_append, readUnit, hexVal_hexDigit]
  congr 2
  omega

theorem toNat_lt (c : Char) : c.toNat < 55296 ∨ (57343 < c.toNat ∧ c.toNat < 1114112) := c.valid

theorem ofNat_toNat_eq {c : Char} {n : ℕ} (code : c.toNat = n) : Char.ofNat n = c := by
  rw [← code, Char.ofNat_toNat]

theorem readChar_unicodeEscape (unit : ℕ) (rest : List Char) :
    readChar (unicodeEscape unit ++ rest) =
      readUnicode ((unicodeEscape unit).drop 2 ++ rest) := rfl

theorem readChar_escape (c : Char) (rest : List Char) :
    readChar (escapeChar c ++ rest) = some (c, rest) := by
  have scalar := toNat_lt c
  unfold escapeChar
  split_ifs with quote backslash newline ret tab feed back plain low
  · subst quote
    rfl
  · subst backslash
    rfl
  · simpa [readChar, shortEscape] using ofNat_toNat_eq newline
  · simpa [readChar, shortEscape] using ofNat_toNat_eq ret
  · simpa [readChar, shortEscape] using ofNat_toNat_eq tab
  · simpa [readChar, shortEscape] using ofNat_toNat_eq feed
  · simpa [readChar, shortEscape] using ofNat_toNat_eq back
  · cases rest <;> simp [readChar, backslash]
  · rw [readChar_unicodeEscape, readUnicode, readUnit_unicodeEscape low]
    dsimp only
    rw [if_neg (by omega), Char.ofNat_toNat]
  · have first : 55296 + (c.toNat - 65536) / 1024 < 56320 := by omega
    have second : 56320 + (c.toNat - 65536) % 1024 < 65536 := by omega
    have drop : (unicodeEscape (56320 + (c.toNat - 65536) % 1024) ++ rest).drop 2 =
        (unicodeEscape (56320 + (c.toNat - 65536) % 1024)).drop 2 ++ rest := rfl
    rw [List.append_assoc, readChar_unicodeEscape, readUnicode,
      readUnit_unicodeEscape (show 55296 + (c.toNat - 65536) / 1024 < 65536 by omega)]
    dsimp only
    rw [if_pos ⟨by omega, first⟩, drop, readUnit_unicodeEscape second, Option.map_some,
      ofNat_toNat_eq (c := c) (by omega)]

theorem escapeChar_cons (c : Char) : ∃ d rest, escapeChar c = d :: rest ∧ d ≠ '"' := by
  unfold escapeChar
  split_ifs with quote backslash newline ret tab feed back plain low
  iterate 7 exact ⟨'\\', _, rfl, by decide⟩
  · exact ⟨c, _, rfl, quote⟩
  · exact ⟨'\\', _, rfl, by decide⟩
  · exact ⟨'\\', _, rfl, by decide⟩

theorem escaped_unambiguous {cs ds rest rest' : List Char}
    (same : cs.flatMap escapeChar ++ '"' :: rest = ds.flatMap escapeChar ++ '"' :: rest') :
    cs = ds ∧ rest = rest' := by
  induction cs generalizing ds with
  | nil =>
    cases ds with
    | nil => exact ⟨rfl, (List.cons.inj same).2⟩
    | cons d ds =>
      obtain ⟨first, tail, escaped, other⟩ := escapeChar_cons d
      rw [List.flatMap_cons, escaped] at same
      exact absurd (List.cons.inj same).1.symm other
  | cons c cs ih =>
    cases ds with
    | nil =>
      obtain ⟨first, tail, escaped, other⟩ := escapeChar_cons c
      rw [List.flatMap_cons, escaped] at same
      exact absurd (List.cons.inj same).1 other
    | cons d ds =>
      rw [List.flatMap_cons, List.flatMap_cons, List.append_assoc, List.append_assoc] at same
      have read := congrArg readChar same
      rw [readChar_escape, readChar_escape] at read
      obtain ⟨rfl, tails⟩ := Prod.mk.inj (Option.some.inj read)
      obtain ⟨rfl, rests⟩ := ih tails
      exact ⟨rfl, rests⟩

theorem quoted_unambiguous {s t : String} {rest rest' : List Char}
    (same : quoted s ++ rest = quoted t ++ rest') : s = t ∧ rest = rest' := by
  simp only [quoted, List.cons_append, List.append_assoc, List.cons.injEq, true_and,
    List.nil_append] at same
  obtain ⟨chars, rests⟩ := escaped_unambiguous same
  exact ⟨String.toList_injective chars, rests⟩

def NoDigit (text : List Char) : Prop := ∀ c ∈ text.head?, c.isDigit = false

theorem toDigits_isDigit (n : ℕ) : ∀ c ∈ Nat.toDigits 10 n, c.isDigit = true :=
  fun _ mem => Nat.isDigit_of_mem_toDigits (by decide) (by decide) mem

theorem takeWhile_digits {digits text : List Char} (all : ∀ c ∈ digits, c.isDigit = true)
    (ends : NoDigit text) : (digits ++ text).takeWhile Char.isDigit = digits := by
  rw [List.takeWhile_append_of_pos all]
  cases text with
  | nil => simp
  | cons c text =>
    have no := ends c rfl
    rw [List.takeWhile_cons_of_neg (by simp [no]), List.append_nil]

theorem digits_unambiguous {m n : ℕ} {rest rest' : List Char} (ends : NoDigit rest)
    (ends' : NoDigit rest') (same : Nat.toDigits 10 m ++ rest = Nat.toDigits 10 n ++ rest') :
    m = n ∧ rest = rest' := by
  have digits := congrArg (List.takeWhile Char.isDigit) same
  rw [takeWhile_digits (toDigits_isDigit m) ends, takeWhile_digits (toDigits_isDigit n) ends']
    at digits
  have number := congrArg (Nat.ofDigitChars 10 · 0) digits
  simp only [Nat.ofDigitChars_ten_toDigits] at number
  rw [digits] at same
  exact ⟨number, List.append_cancel_left same⟩

theorem toDigits_cons (n : ℕ) : ∃ d rest, Nat.toDigits 10 n = d :: rest ∧ d.isDigit = true := by
  cases text : Nat.toDigits 10 n with
  | nil => exact absurd text Nat.toDigits_ne_nil
  | cons d rest => exact ⟨d, rest, rfl, toDigits_isDigit n d (text ▸ List.mem_cons_self)⟩

theorem intText_unambiguous {i j : ℤ} {rest rest' : List Char} (ends : NoDigit rest)
    (ends' : NoDigit rest') (same : intText i ++ rest = intText j ++ rest') :
    i = j ∧ rest = rest' := by
  cases i with
  | ofNat m =>
    cases j with
    | ofNat n =>
      obtain ⟨rfl, rests⟩ := digits_unambiguous ends ends' same
      exact ⟨rfl, rests⟩
    | negSucc n =>
      obtain ⟨d, tail, text, digit⟩ := toDigits_cons m
      simp only [intText, text] at same
      rw [(List.cons.inj same).1] at digit
      cases digit
  | negSucc m =>
    cases j with
    | ofNat n =>
      obtain ⟨d, tail, text, digit⟩ := toDigits_cons n
      simp only [intText, text] at same
      rw [← (List.cons.inj same).1] at digit
      cases digit
    | negSucc n =>
      obtain ⟨equal, rests⟩ := digits_unambiguous ends ends' (List.cons.inj same).2
      obtain rfl := Nat.succ.inj equal
      exact ⟨rfl, rests⟩

def Floatless (value : Json) : Prop := ∀ q, ¬ Within (.float q) value

theorem Floatless.item {items : List Json} (plain : Floatless (.arr items)) {item : Json}
    (mem : item ∈ items) : Floatless item :=
  fun q inside => plain q (.item mem inside)

theorem Floatless.field {fields : List (String × Json)} (plain : Floatless (.obj fields))
    {key : String} {value : Json} (mem : (key, value) ∈ fields) : Floatless value :=
  fun q inside => plain q (.field mem inside)

inductive Shape where
  | null
  | yes
  | no
  | number
  | string
  | array
  | object

def shapeOf (c : Char) : Option Shape :=
  if c = 'n' then some .null
  else if c = 't' then some .yes
  else if c = 'f' then some .no
  else if c = '"' then some .string
  else if c = '[' then some .array
  else if c = '{' then some .object
  else if c = '-' ∨ c.isDigit then some .number
  else none

def shape : Json → Shape
  | .null => .null
  | .bool true => .yes
  | .bool false => .no
  | .int _ | .float _ => .number
  | .str _ => .string
  | .arr _ => .array
  | .obj _ => .object

theorem shapeOf_digit {c : Char} (digit : c.isDigit = true) : shapeOf c = some .number := by
  have other (d : Char) (no : d.isDigit = false) : c ≠ d := by
    rintro rfl
    rw [digit] at no
    cases no
  simp [shapeOf, other 'n' rfl, other 't' rfl, other 'f' rfl, other '"' rfl, other '[' rfl,
    other '{' rfl, digit]

variable {floatRepr : ℚ → List Char}

theorem shape_of_text (floatRepr : ℚ → List Char) {value : Json} (plain : Floatless value) :
    ∃ c rest, dumps floatRepr value = c :: rest ∧ shapeOf c = some value.shape := by
  match value with
  | .null => exact ⟨'n', _, by rw [dumps]; rfl, rfl⟩
  | .bool true => exact ⟨'t', _, by rw [dumps]; rfl, rfl⟩
  | .bool false => exact ⟨'f', _, by rw [dumps]; rfl, rfl⟩
  | .int (.ofNat n) =>
    obtain ⟨d, rest, text, digit⟩ := toDigits_cons n
    exact ⟨d, rest, by rw [dumps, intText, text], shapeOf_digit digit⟩
  | .int (.negSucc n) => exact ⟨'-', _, by rw [dumps, intText], rfl⟩
  | .float q => exact absurd (.refl _) (plain q)
  | .str s => exact ⟨'"', _, by rw [dumps, quoted], rfl⟩
  | .arr [] => exact ⟨'[', _, by rw [dumps]; rfl, rfl⟩
  | .arr (item :: items) => exact ⟨'[', _, by rw [dumps], rfl⟩
  | .obj [] => exact ⟨'{', _, by rw [dumps]; rfl, rfl⟩
  | .obj ((key, value) :: fields) => exact ⟨'{', _, by rw [dumps], rfl⟩

theorem shape_unambiguous {v w : Json} (plain : Floatless v) (plain' : Floatless w)
    {rest rest' : List Char}
    (same : dumps floatRepr v ++ rest = dumps floatRepr w ++ rest') : v.shape = w.shape := by
  obtain ⟨c, tail, text, starts⟩ := shape_of_text floatRepr plain
  obtain ⟨d, tail', text', starts'⟩ := shape_of_text floatRepr plain'
  rw [text, text'] at same
  rw [(List.cons.inj same).1, starts'] at starts
  exact (Option.some.inj starts).symm

theorem dumps_ne_cons {value : Json} (plain : Floatless value) {c : Char}
    (other : shapeOf c = none) {rest rest' : List Char} :
    dumps floatRepr value ++ rest ≠ c :: rest' := by
  intro same
  obtain ⟨d, tail, text, starts⟩ := shape_of_text floatRepr plain
  rw [text] at same
  rw [(List.cons.inj same).1, other] at starts
  cases starts

theorem dumps_arr_cons (item : Json) (items : List Json) (rest : List Char) :
    dumps floatRepr (.arr (item :: items)) ++ rest =
      '[' :: (dumps floatRepr item ++ (dumpsItems floatRepr items ++ ']' :: rest)) := by
  simp [dumps]

theorem dumpsItems_cons (item : Json) (items : List Json) (rest : List Char) :
    dumpsItems floatRepr (item :: items) ++ rest =
      ',' :: ' ' :: (dumps floatRepr item ++ (dumpsItems floatRepr items ++ rest)) := by
  simp [dumpsItems]

theorem dumps_obj_cons (key : String) (value : Json) (fields : List (String × Json))
    (rest : List Char) : dumps floatRepr (.obj ((key, value) :: fields)) ++ rest =
      '{' :: (quoted key ++ (':' :: ' ' :: (dumps floatRepr value ++
        (dumpsFields floatRepr fields ++ '}' :: rest)))) := by
  simp [dumps]

theorem dumpsFields_cons (key : String) (value : Json) (fields : List (String × Json))
    (rest : List Char) : dumpsFields floatRepr ((key, value) :: fields) ++ rest =
      ',' :: ' ' :: (quoted key ++ (':' :: ' ' :: (dumps floatRepr value ++
        (dumpsFields floatRepr fields ++ rest)))) := by
  simp [dumpsFields]

theorem noDigit_items (items : List Json) (rest : List Char) :
    NoDigit (dumpsItems floatRepr items ++ ']' :: rest) := by
  cases items with
  | nil =>
    rintro c ⟨⟩
    rfl
  | cons item items =>
    rw [dumpsItems_cons]
    rintro c ⟨⟩
    rfl

theorem noDigit_fields (fields : List (String × Json)) (rest : List Char) :
    NoDigit (dumpsFields floatRepr fields ++ '}' :: rest) := by
  cases fields with
  | nil =>
    rintro c ⟨⟩
    rfl
  | cons field fields =>
    obtain ⟨key, value⟩ := field
    rw [dumpsFields_cons]
    rintro c ⟨⟩
    rfl

mutual

theorem dumps_unambiguous : (v w : Json) → Floatless v → Floatless w → {rest rest' : List Char} →
    NoDigit rest → NoDigit rest' →
    dumps floatRepr v ++ rest = dumps floatRepr w ++ rest' → v = w ∧ rest = rest'
  | v, w, plain, plain', rest, rest', ends, ends', same => by
    have shapes := shape_unambiguous plain plain' same
    match v, w, shapes with
    | .null, .null, _ => exact ⟨rfl, List.append_cancel_left same⟩
    | .bool true, .bool true, _ => exact ⟨rfl, List.append_cancel_left same⟩
    | .bool false, .bool false, _ => exact ⟨rfl, List.append_cancel_left same⟩
    | .float q, _, _ => exact absurd (.refl _) (plain q)
    | _, .float q, _ => exact absurd (.refl _) (plain' q)
    | .int i, .int j, _ =>
      rw [dumps, dumps] at same
      obtain ⟨rfl, rests⟩ := intText_unambiguous ends ends' same
      exact ⟨rfl, rests⟩
    | .str s, .str t, _ =>
      rw [dumps, dumps] at same
      obtain ⟨rfl, rests⟩ := quoted_unambiguous same
      exact ⟨rfl, rests⟩
    | .arr [], .arr [], _ => exact ⟨rfl, List.append_cancel_left same⟩
    | .arr [], .arr (item :: items), _ =>
      rw [dumps_arr_cons] at same
      exact absurd (List.cons.inj same).2.symm
        (dumps_ne_cons (plain'.item List.mem_cons_self) rfl)
    | .arr (item :: items), .arr [], _ =>
      rw [dumps_arr_cons] at same
      exact absurd (List.cons.inj same).2 (dumps_ne_cons (plain.item List.mem_cons_self) rfl)
    | .arr (item :: items), .arr (item' :: items'), _ =>
      rw [dumps_arr_cons, dumps_arr_cons] at same
      obtain ⟨rfl, tails⟩ := dumps_unambiguous item item' (plain.item List.mem_cons_self)
        (plain'.item List.mem_cons_self) (noDigit_items _ _) (noDigit_items _ _)
        (List.cons.inj same).2
      obtain ⟨rfl, rests⟩ := dumpsItems_unambiguous items items'
        (fun _ mem => plain.item (List.mem_cons_of_mem _ mem))
        (fun _ mem => plain'.item (List.mem_cons_of_mem _ mem)) tails
      exact ⟨rfl, rests⟩
    | .obj [], .obj [], _ => exact ⟨rfl, List.append_cancel_left same⟩
    | .obj [], .obj ((key, value) :: fields), _ =>
      rw [dumps_obj_cons] at same
      cases (List.cons.inj (List.cons.inj same).2).1
    | .obj ((key, value) :: fields), .obj [], _ =>
      rw [dumps_obj_cons] at same
      cases (List.cons.inj (List.cons.inj same).2).1
    | .obj ((key, value) :: fields), .obj ((key', value') :: fields'), _ =>
      rw [dumps_obj_cons, dumps_obj_cons] at same
      obtain ⟨rfl, afterKey⟩ := quoted_unambiguous (List.cons.inj same).2
      obtain ⟨rfl, tails⟩ := dumps_unambiguous value value' (plain.field List.mem_cons_self)
        (plain'.field List.mem_cons_self) (noDigit_fields _ _) (noDigit_fields _ _)
        (List.cons.inj (List.cons.inj afterKey).2).2
      obtain ⟨rfl, rests⟩ := dumpsFields_unambiguous fields fields'
        (fun mem => plain.field (List.mem_cons_of_mem _ mem))
        (fun mem => plain'.field (List.mem_cons_of_mem _ mem)) tails
      exact ⟨rfl, rests⟩

theorem dumpsItems_unambiguous : (items items' : List Json) → (∀ item ∈ items, Floatless item) →
    (∀ item ∈ items', Floatless item) → {rest rest' : List Char} →
    dumpsItems floatRepr items ++ ']' :: rest = dumpsItems floatRepr items' ++ ']' :: rest' →
    items = items' ∧ rest = rest'
  | [], [], _, _, _, _, same => ⟨rfl, (List.cons.inj same).2⟩
  | [], item :: items, _, _, _, _, same => by
    rw [dumpsItems_cons] at same
    cases (List.cons.inj same).1
  | item :: items, [], _, _, _, _, same => by
    rw [dumpsItems_cons] at same
    cases (List.cons.inj same).1
  | item :: items, item' :: items', plain, plain', _, _, same => by
    rw [dumpsItems_cons, dumpsItems_cons] at same
    obtain ⟨rfl, tails⟩ := dumps_unambiguous item item' (plain _ List.mem_cons_self)
      (plain' _ List.mem_cons_self) (noDigit_items _ _) (noDigit_items _ _)
      (List.cons.inj (List.cons.inj same).2).2
    obtain ⟨rfl, rests⟩ := dumpsItems_unambiguous items items'
      (fun _ mem => plain _ (List.mem_cons_of_mem _ mem))
      (fun _ mem => plain' _ (List.mem_cons_of_mem _ mem)) tails
    exact ⟨rfl, rests⟩

theorem dumpsFields_unambiguous : (fields fields' : List (String × Json)) →
    (∀ {key value}, (key, value) ∈ fields → Floatless value) →
    (∀ {key value}, (key, value) ∈ fields' → Floatless value) → {rest rest' : List Char} →
    dumpsFields floatRepr fields ++ '}' :: rest = dumpsFields floatRepr fields' ++ '}' :: rest' →
    fields = fields' ∧ rest = rest'
  | [], [], _, _, _, _, same => ⟨rfl, (List.cons.inj same).2⟩
  | [], (key, value) :: fields, _, _, _, _, same => by
    rw [dumpsFields_cons] at same
    cases (List.cons.inj same).1
  | (key, value) :: fields, [], _, _, _, _, same => by
    rw [dumpsFields_cons] at same
    cases (List.cons.inj same).1
  | (key, value) :: fields, (key', value') :: fields', plain, plain', _, _, same => by
    rw [dumpsFields_cons, dumpsFields_cons] at same
    obtain ⟨rfl, afterKey⟩ := quoted_unambiguous (List.cons.inj (List.cons.inj same).2).2
    obtain ⟨rfl, tails⟩ := dumps_unambiguous value value' (plain List.mem_cons_self)
      (plain' List.mem_cons_self) (noDigit_fields _ _) (noDigit_fields _ _)
      (List.cons.inj (List.cons.inj afterKey).2).2
    obtain ⟨rfl, rests⟩ := dumpsFields_unambiguous fields fields'
      (fun mem => plain (List.mem_cons_of_mem _ mem))
      (fun mem => plain' (List.mem_cons_of_mem _ mem)) tails
    exact ⟨rfl, rests⟩

end

theorem dumps_injective {v w : Json} (plain : Floatless v) (plain' : Floatless w)
    (same : dumps floatRepr v = dumps floatRepr w) : v = w := by
  have ends : NoDigit [] := fun _ mem => nomatch mem
  exact (dumps_unambiguous v w plain plain' ends ends
    (by rw [List.append_nil, List.append_nil, same])).1

end JsonText.Json
