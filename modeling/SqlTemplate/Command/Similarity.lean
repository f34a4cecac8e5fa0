import SqlTemplate.Text

/-! # How alike two names are

The measure counts the characters that two names have in common at nearly the same place, and how
many of them are in another order. It is one for equal names and zero for names without a common
character.
-/
namespace SqlTemplate.Command

/-- Takes the first free character of a name that equals `c` and has its position, counted from
`j`, between two others. -/
def claim (c : Char) (first last : Nat) : Nat → List (Char × Bool) → Option (List (Char × Bool))
  | _, [] => none
  | j, (d, taken) :: r =>
    if first ≤ j && j ≤ last && !taken && d == c then some ((d, true) :: r)
    else (claim c first last (j + 1) r).map ((d, taken) :: ·)

/-- The common characters of two names, in the order of the one and of the other. Characters from
position `i` on are still to be found, none more than `reach` away. -/
def common (reach : Nat) : Nat → Text → List (Char × Bool) → Text × Text
  | _, [], marked => ([], (marked.filter Prod.snd).map Prod.fst)
  | i, c :: r, marked =>
    match claim c (i - reach) (i + reach) 0 marked with
    | some marked =>
      let (left, right) := common reach (i + 1) r marked
      (c :: left, right)
    | none => common reach (i + 1) r marked

def similarity (a b : Text) : Float :=
  let (left, right) := common (max a.length b.length / 2 - 1) 0 a (b.map fun c => (c, false))
  if a.isEmpty && b.isEmpty then 1
  else if left.isEmpty then 0
  else
    let m := left.length.toFloat
    let swapped := ((left.zip right).filter fun (c, d) => c != d).length / 2
    (m / a.length.toFloat + m / b.length.toFloat + (left.length - swapped).toFloat / m) / 3

/-- The name most like the one given, the last of several. Names that differ much do not count. -/
def mostSimilar? (name : Text) (names : List Text) : Option Text :=
  ((names.map fun n => (similarity name n, n)).filter fun (s, _) => s > 0.7).foldl
    (fun best (s, n) =>
      match best with
      | some (t, _) => if s ≥ t then some (s, n) else best
      | none => some (s, n)) none |>.map Prod.snd

end SqlTemplate.Command
