/-! # Text as a list of characters, with byte positions in its UTF-8 form -/
namespace SqlTemplate

/-- Templates, patterns and everything written are handled character by character. -/
abbrev Text := List Char

/-- A range of positions, its end excluded. -/
structure Span where
  start : Nat
  stop : Nat
deriving DecidableEq, Repr, Inhabited

namespace Span

def size (s : Span) : Nat := s.stop - s.start

def contains (s : Span) (i : Nat) : Bool := s.start ≤ i && i < s.stop

def shift (n : Nat) (s : Span) : Span := ⟨n + s.start, n + s.stop⟩

end Span

namespace Text

/-- Bytes taken by the UTF-8 form. -/
def byteSize (t : Text) : Nat := t.foldr (fun c n => c.utf8Size + n) 0

@[simp] theorem byteSize_nil : byteSize [] = 0 := rfl

@[simp] theorem byteSize_cons (c : Char) (t : Text) :
    byteSize (c :: t) = c.utf8Size + byteSize t := rfl

@[simp] theorem byteSize_append (s t : Text) : byteSize (s ++ t) = byteSize s + byteSize t := by
  induction s with
  | nil => simp
  | cons c s ih => rw [List.cons_append, byteSize_cons, byteSize_cons, ih, Nat.add_assoc]

/-- The text before a byte offset and the text from there on. -/
def splitAtByte : Text → Nat → Text × Text
  | [], _ => ([], [])
  | t, 0 => ([], t)
  | c :: r, n =>
    let (before, after) := splitAtByte r (n - c.utf8Size)
    (c :: before, after)

theorem splitAtByte_append (t : Text) (n : Nat) :
    (t.splitAtByte n).1 ++ (t.splitAtByte n).2 = t := by
  fun_induction splitAtByte t n <;> simp_all

/-- The text between two byte offsets, unless one lies inside a character or behind the end. -/
def cut? (t : Text) (start stop : Nat) : Option Text :=
  let front := t.splitAtByte start
  let text := (front.2.splitAtByte (stop - start)).1
  if front.1.byteSize = start ∧ start + text.byteSize = stop then some text else none

def decimal (n : Nat) : Text := Nat.toDigits 10 n

/-- White space in the sense of Unicode. -/
def isBlank (c : Char) : Bool :=
  let n := c.toNat
  (9 ≤ n && n ≤ 13) || n == 0x20 || n == 0x85 || n == 0xa0 || n == 0x1680 ||
    (0x2000 ≤ n && n ≤ 0x200a) || n == 0x2028 || n == 0x2029 || n == 0x202f || n == 0x205f ||
    n == 0x3000

def trimEnd (t : Text) : Text := (t.reverse.dropWhile isBlank).reverse

def trim (t : Text) : Text := trimEnd (t.dropWhile isBlank)

def inRanges (ranges : List (Nat × Nat)) (c : Char) : Bool :=
  ranges.any fun (first, last) => first ≤ c.toNat && c.toNat ≤ last

/-- Copies of the replacement for the occurrences found from left to right; an occurrence may not
overlap the one before it, so `skip` characters of it are still to be dropped. -/
def replaceFrom (old new : Text) : Nat → Text → Text
  | _, [] => []
  | skip + 1, _ :: r => replaceFrom old new skip r
  | 0, c :: r =>
    if old.isPrefixOf (c :: r) then new ++ replaceFrom old new (old.length - 1) r
    else c :: replaceFrom old new 0 r

/-- Every occurrence of `old` gives way to `new`. The empty text occurs at both ends and between
any two characters. -/
def replace (t old new : Text) : Text :=
  if old.isEmpty then new ++ t.flatMap (fun c => c :: new) else replaceFrom old new 0 t

end Text

end SqlTemplate
