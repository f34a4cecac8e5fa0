import SqlTemplate.Toml.Number

/-! # Reading dates and times

Of a date or time only its form matters, and that it exists in the calendar.
-/
namespace SqlTemplate.Toml

open Reader

def exactDigits (n : Nat) : Reader Nat := fun c =>
  let t := (c.rest.take n).takeWhile Char.isDigit
  if t.length = n then .ok (ofDigits 10 t, ⟨c.offset + n, c.rest.drop n⟩) else fail c

/-- Two digits of a number in a range. -/
def twoDigits (low high : Nat) : Reader Nat :=
  convert (fun n => if low ≤ n ∧ n ≤ high then .ok n else .error .outOfRange) (exactDigits 2)

def daysIn (year month : Nat) : Nat :=
  match month with
  | 2 => if year % 4 = 0 ∧ (year % 100 ≠ 0 ∨ year % 400 = 0) then 29 else 28
  | 4 | 6 | 9 | 11 => 30
  | _ => 31

def date : Reader Unit := do
  let year ← exactDigits 4
  let _ ← char '-'
  let month ← commit (twoDigits 1 12)
  let _ ← commit (char '-')
  let _ ← commit (twoDigits 1 (daysIn year month))

/-- A time of day; a second of sixty is allowed. -/
def timeOfDay : Reader Unit := do
  let _ ← twoDigits 0 23
  let _ ← char ':'
  commit do
    let _ ← twoDigits 0 59
    let _ ← char ':'
    let _ ← twoDigits 0 60
    let _ ← optional do
      let _ ← char '.'
      let _ ← takeWhile1 Char.isDigit

def timeOffset : Reader Unit :=
  inside .timeOffset <| either
    (do let _ ← satisfy fun c => c == 'Z' || c == 'z')
    (do let _ ← satisfy isSign
        commit do
          let _ ← twoDigits 0 23
          let _ ← char ':'
          let _ ← twoDigits 0 59)

def timeAfterDate : Reader Unit := do
  let _ ← satisfy fun c => c == 'T' || c == 't' || c == ' '
  timeOfDay
  let _ ← optional timeOffset

def moment : Reader Unit :=
  either (inside .dateTime do date; let _ ← optional timeAfterDate) (inside .time timeOfDay)

end SqlTemplate.Toml
