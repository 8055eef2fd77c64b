import OpsPilot.JsonText

/-! What the columns of the database take. -/

namespace OpsPilot.Columns
open JsonText

/-- A `Text` column takes every text without U+0000. -/
def text (s : String) : Bool := s.toList.all fun c => c.toNat != 0

theorem text_ofList (chars : List Char) :
    text (String.ofList chars) = chars.all fun c => c.toNat != 0 := by
  rw [text, String.toList_ofList]

@[simp] theorem text_append (s t : String) : text (s ++ t) = (text s && text t) := by
  rw [text, String.toList_append, List.all_append]
  rfl

/-- A `String(n)` column takes `n` characters; a longer text is not stored as it is. -/
def varchar (n : ℕ) (s : String) : Bool := decide (s.length ≤ n) && text s

theorem varchar_ofList (n : ℕ) (chars : List Char) : varchar n (String.ofList chars) =
    (decide (chars.length ≤ n) && chars.all fun c => c.toNat != 0) := by
  rw [varchar, String.length_ofList, text_ofList]

mutual

/-- A `JSONB` column takes every value whose texts and field names are without U+0000. -/
def jsonb : Json → Bool
  | .str s => text s
  | .arr items => jsonbItems items
  | .obj fields => jsonbFields fields
  | _ => true

def jsonbItems : List Json → Bool
  | [] => true
  | item :: items => jsonb item && jsonbItems items

def jsonbFields : List (String × Json) → Bool
  | [] => true
  | (key, value) :: fields => text key && jsonb value && jsonbFields fields

end

theorem jsonb_of_mem {fields : List (String × Json)} (fits : jsonbFields fields = true)
    {field : String × Json} (mem : field ∈ fields) : jsonb field.2 = true := by
  induction fields with
  | nil => cases mem
  | cons first rest ih =>
    obtain ⟨key, value⟩ := first
    rw [jsonbFields, Bool.and_eq_true, Bool.and_eq_true] at fits
    rcases List.mem_cons.mp mem with rfl | later
    · exact fits.1.2
    · exact ih fits.2 later

theorem jsonb_field? {object value : Json} {name : String} (fits : jsonb object = true)
    (found : object.field? name = some value) : jsonb value = true := by
  cases object with
  | obj fields =>
    obtain ⟨before, after, rfl, _⟩ := List.lookup_eq_some_iff.mp found
    have mem : (name, value) ∈ before ++ (name, value) :: after := by simp
    exact jsonb_of_mem fits mem
  | _ => cases found

end OpsPilot.Columns
