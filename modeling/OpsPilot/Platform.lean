import OpsPilot.JsonText
import Mathlib.Algebra.Order.Floor.Ring
import Mathlib.Data.Rat.Floor

/-! What the program takes from outside the repository: Python's text and number formatting,
the digest, and the lax coercions and error texts of the validation package. Each law is
documented behaviour of that function. -/

namespace OpsPilot
open JsonText

/-- `round(x)` on an exact value: ties go to the even neighbour. -/
def roundHalfEven (q : ℚ) : ℤ :=
  let low := ⌊q⌋
  if q - low < 1 / 2 then low
  else if 1 / 2 < q - low then low + 1
  else if low % 2 = 0 then low else low + 1

def roundTo (digits : ℕ) (q : ℚ) : ℚ := roundHalfEven (q * 10 ^ digits) / 10 ^ digits

/-- At most `digits` digits stand after the point. -/
def Decimal (digits : ℕ) (q : ℚ) : Prop := ∃ n : ℤ, q = n / 10 ^ digits

theorem roundHalfEven_intCast (n : ℤ) : roundHalfEven n = n := by
  simp [roundHalfEven]

theorem decimal_intCast (digits : ℕ) (n : ℤ) : Decimal digits n := by
  refine ⟨n * 10 ^ digits, ?_⟩
  push_cast
  rw [mul_div_cancel_right₀]
  exact pow_ne_zero _ (by norm_num)

theorem Decimal.sub {digits : ℕ} {p q : ℚ} (hp : Decimal digits p) (hq : Decimal digits q) :
    Decimal digits (p - q) := by
  obtain ⟨m, rfl⟩ := hp
  obtain ⟨n, rfl⟩ := hq
  exact ⟨m - n, by push_cast; rw [sub_div]⟩

/-- A decimal is not changed by rounding to its digits. -/
theorem Decimal.roundTo {digits : ℕ} {q : ℚ} (decimal : Decimal digits q) :
    roundTo digits q = q := by
  obtain ⟨n, rfl⟩ := decimal
  rw [OpsPilot.roundTo, div_mul_cancel₀, roundHalfEven_intCast]
  exact pow_ne_zero _ (by norm_num)

/-- A decimal with exactly `digits` digits after the point, as `f"{q:.2f}"` writes it. -/
def fixedText (digits : ℕ) (q : ℚ) : List Char :=
  let scaled := (roundHalfEven (|q| * 10 ^ digits)).toNat
  let fraction := Nat.toDigits 10 (scaled % 10 ^ digits)
  (if q < 0 then ['-'] else []) ++ Nat.toDigits 10 (scaled / 10 ^ digits) ++
    '.' :: (List.replicate (digits - fraction.length) '0' ++ fraction)

structure Platform where
  /-- `str.lower` -/
  lower : List Char → List Char
  lower_ascii : ∀ text, (∀ c ∈ text, c.toNat < 128) → lower text = text.map Char.toLower
  /-- `repr` of a float, which is also its JSON text -/
  floatRepr : ℚ → List Char
  floatRepr_printable : ∀ q, Json.textPrintable (floatRepr q)
  /-- `str(value)`, as an f-string writes it -/
  display : Json → String
  display_str : ∀ s, display (.str s) = s
  /-- `datetime.isoformat`, in microseconds since the epoch -/
  isoformat : ℤ → String
  /-- `hashlib.sha256(...).hexdigest()` -/
  sha256 : List Char → String
  /-- Coercions of lax validation; a value of the declared type is taken as it is. -/
  laxInt : Json → Option ℤ
  laxInt_int : ∀ i, laxInt (.int i) = some i
  laxFloat : Json → Option ℚ
  laxFloat_float : ∀ q, laxFloat (.float q) = some q
  laxBool : Json → Option Bool
  laxBool_bool : ∀ b, laxBool (.bool b) = some b
  /-- `str` of the `ValidationError` that a model raises on an input -/
  validationError : String → Json → String

namespace Platform

def dumps (py : Platform) (value : Json) : List Char := value.dumps py.floatRepr

theorem dumps_ascii (py : Platform) (value : Json) : ∀ c ∈ py.dumps value, c.toNat < 128 := by
  intro c mem
  have text := Json.dumps_printable py.floatRepr_printable value c mem
  simp only [Json.printable, Bool.and_eq_true, decide_eq_true_eq] at text
  omega

theorem lower_dumps (py : Platform) (value : Json) :
    py.lower (py.dumps value) = (py.dumps value).map Char.toLower :=
  py.lower_ascii _ (py.dumps_ascii value)

def shortDecimal (q : ℚ) : List Char :=
  let text := fixedText 6 q
  match (text.reverse.dropWhile (· == '0')).reverse with
  | kept => if kept.getLast? = some '.' then kept ++ ['0'] else kept

/-- A platform for ASCII text and short decimals, where it agrees with Python. -/
def ascii : Platform where
  lower text := text.map Char.toLower
  lower_ascii _ _ := rfl
  floatRepr q := (shortDecimal q).filter Json.printable
  floatRepr_printable _ _ mem := (List.mem_filter.mp mem).2
  display
    | .str s => s
    | value => String.ofList (value.dumps fun q => shortDecimal q)
  display_str _ := rfl
  isoformat t := String.ofList (Json.intText t)
  sha256 text := String.ofList text
  laxInt
    | .int i => some i
    | .bool b => some (if b then 1 else 0)
    | _ => none
  laxInt_int _ := rfl
  laxFloat
    | .float q => some q
    | .int i => some i
    | .bool b => some (if b then 1 else 0)
    | _ => none
  laxFloat_float _ := rfl
  laxBool
    | .bool b => some b
    | _ => none
  laxBool_bool _ := rfl
  validationError model _ := "validation error for " ++ model

end Platform

/-- The settings the modelled code reads. -/
structure Settings where
  anthropicModel : String := "claude-sonnet-5"
  agentMaxSteps : ℕ := 8
  agentMaxCostUsd : ℚ := 1 / 5
  approvalSlaSeconds : ℤ := 3600
  memoryWriteMinConfidence : ℚ := 3 / 5

end OpsPilot
