import SqlTemplate.Text

/-! # Tokens of a template: text, closed literals, and a literal left open at the end

`scan` reads a template from left to right, and `source` writes a token back. A doubled quote inside
a literal stands for one quote.
-/
namespace SqlTemplate

/-- The character that opens and closes a literal. -/
def quote : Char := '\''

inductive Token where
  /-- Characters outside every literal. -/
  | text (slice : Text)
  /-- A closed literal, by its content with doubled quotes collapsed. -/
  | literal (content : Text)
  /-- A literal still open at the end of the template. -/
  | unterminated (content : Text)
deriving DecidableEq, Repr, Inhabited

namespace Token

/-- The content of a literal as it stands between its quotes. -/
def doubleQuotes (content : Text) : Text :=
  content.flatMap fun c => if c = quote then [quote, quote] else [c]

/-- The piece of template that a token stands for. -/
def source : Token → Text
  | .text slice => slice
  | .literal content => quote :: doubleQuotes content ++ [quote]
  | .unterminated content => quote :: doubleQuotes content

def consText (c : Char) : List Token → List Token
  | .text slice :: ts => .text (c :: slice) :: ts
  | ts => .text [c] :: ts

/-- Prepends a character to the content of the leading literal. -/
def consContent (c : Char) : List Token → List Token
  | .literal content :: ts => .literal (c :: content) :: ts
  | .unterminated content :: ts => .unterminated (c :: content) :: ts
  | ts => ts

mutual

def scan : Text → List Token
  | [] => []
  | c :: r => if c = quote then scanLiteral r else consText c (scan r)

def scanLiteral : Text → List Token
  | [] => [.unterminated []]
  | c :: r => if c = quote then scanQuoted r else consContent c (scanLiteral r)

/-- The tokens of what follows a quote in a literal: the quote closes the literal unless another
one follows it at once. -/
def scanQuoted : Text → List Token
  | [] => [.literal []]
  | c :: r =>
    if c = quote then consContent quote (scanLiteral r) else .literal [] :: consText c (scan r)

end

/-- Each token with the bytes it takes, the first one starting at `start`. -/
def place (start : Nat) : List Token → List (Token × Span)
  | [] => []
  | t :: ts =>
    let stop := start + t.source.byteSize
    (t, ⟨start, stop⟩) :: place stop ts

def placed (template : Text) : List (Token × Span) := place 0 (scan template)

end Token

end SqlTemplate
