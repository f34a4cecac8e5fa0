import SqlTemplate.Toml.Binary64
import SqlTemplate.Toml.Quoted

/-! # Reading numbers -/
namespace SqlTemplate.Toml

open Reader

def isSign (c : Char) : Bool := c == '+' || c == '-'

def isOctalDigit (c : Char) : Bool := '0' ≤ c && c ≤ '7'

def isBinaryDigit (c : Char) : Bool := c == '0' || c == '1'

/-- Whether a minus sign comes next; a plus sign is read over. -/
def negative : Reader Bool := return (← optional (satisfy isSign)) == some '-'

/-- A digit, which may have an underscore before it. -/
def nextDigit (p : Char → Bool) : Reader Char :=
  either (satisfy p) do
    let _ ← char '_'
    commit (expecting [.digit] (satisfy p))

/-- Digits, with single underscores between some of them. -/
def digits (p : Char → Bool) : Reader Text := do
  let d ← satisfy p
  return d :: (← many (nextDigit p))

/-- A decimal integer, which has no zero in front. -/
def signedDigits : Reader (Bool × Text) :=
  inside .integer do
    let minus ← negative
    let ds ← either (do let d ← satisfy fun c => c.isDigit && c != '0'
                        return d :: (← many (nextDigit Char.isDigit)))
                    (do return [← satisfy Char.isDigit])
    return (minus, ds)

/-- An integer of 64 bits. -/
def toInteger (base : Nat) (minus : Bool) (ds : Text) : Except Cause Int :=
  let n := ofDigits base ds
  if minus then if n ≤ Nat.pow 2 63 then .ok (-n) else .error .tooSmall
  else if n < Nat.pow 2 63 then .ok n else .error .tooLarge

/-- An integer in another base, after its prefix. -/
def basedInteger (k : Construct) (start : Text) (base : Nat) (p : Char → Bool) : Reader Int :=
  commit <| convert (toInteger base false) <| inside k do
    let _ ← word start
    commit (digits p)

def integer : Reader Int := do
  match (← remaining).take 2 with
  | ['0', 'x'] => basedInteger .hexInteger ['0', 'x'] 16 isHexDigit
  | ['0', 'o'] => basedInteger .octalInteger ['0', 'o'] 8 isOctalDigit
  | ['0', 'b'] => basedInteger .binaryInteger ['0', 'b'] 2 isBinaryDigit
  | _ => fun c => match signedDigits c with
    | .error e => .error e
    | .ok ((minus, ds), c') => match toInteger 10 minus ds with
      | .ok n => .ok (n, c')
      | .error cause => commit (refuse cause) c

def fraction : Reader Text := do
  let _ ← char '.'
  commit (expecting [.digit] (digits Char.isDigit))

def power : Reader Int := do
  let _ ← satisfy fun c => c == 'e' || c == 'E'
  let minus ← negative
  let ds ← commit (digits Char.isDigit)
  let n : Int := ofDigits 10 ds
  return if minus then -n else n

/-- A number with a fraction or a power of ten. -/
def decimalFloat : Reader Binary64 := do
  let (minus, whole) ← signedDigits
  let (part, e) ← either (do return ([], ← power)) do
    let part ← fraction
    return (part, (← optional power).getD 0)
  return .ofDecimal minus (ofDigits 10 (whole ++ part)) (e - part.length)

def infinity (minus : Bool) : Reader Binary64 := do
  let _ ← word ['i', 'n', 'f']
  return .infinite minus

def notANumber : Reader Binary64 := do
  let _ ← word ['n', 'a', 'n']
  return .notANumber

def specialFloat : Reader Binary64 := do
  let minus ← negative
  either (infinity minus) notANumber

/-- A number in floating point. One above the range is refused. -/
def float : Reader Binary64 :=
  inside .float <| either
    (fun c => match decimalFloat c with
      | .ok (.infinite false, _) => commit fail c
      | r => r)
    specialFloat

end SqlTemplate.Toml
