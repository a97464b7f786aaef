/-
  Fanout.Expr.Tree.Grammar
  ────────────────────────
  **From tokens to trees.**

  From the loosest to the tightest binding, an expression is built from

      yes if cond else no
      or
      and
      not
      == != < <= > >=        (a chain)
      + -
      * / // %
      - +                    (signs)
      **                     (to the right)
      calls, .attribute, [position]

  An expression in parentheses or brackets, an argument, the part after
  `else`, and the operand of `not`, of a sign and of `**` on its right each
  open one *level*; no more levels than `maxNesting` may be open at once.
  `parsers n` holds the parsers for what opens a level while `n` more may
  be opened; everything else is parsed on the level it stands on.
-/
import Fanout.Expr.Token.Scan

namespace Fanout.Expr

/-! ## §1. Parsers. -/

/-- Reads something from the front of a list of tokens, and says what is left. -/
abbrev Parser (α : Type) := List Located → Outcome (α × List Located)

/-- Rejects what stands at the front of the tokens, or their end at byte `stop`. -/
def reject {α : Type} (stop : Nat) (expected : Expected) (ts : List Located) : Outcome α :=
  match ts with
  | t :: _ => .error (.malformed (.unexpected (some t.token) expected) t.position)
  | [] => .error (.malformed (.unexpected none expected) stop)

/-- What is left after a symbol, if the tokens begin with it. -/
def after? (s : Symbol) : List Located → Option (List Located)
  | t :: rest => if t.token = .symbol s then some rest else none
  | [] => none

/-- Reads a symbol that has to be there. -/
def require (stop : Nat) (s : Symbol) (expected : Expected) (ts : List Located) :
    Outcome (List Located) :=
  match after? s ts with
  | some rest => .ok rest
  | none => reject stop expected ts

/-- Reads as many operators with an operand behind each as there are, at most `fuel`. -/
def operations {ω : Type} (operator? : Token → Option ω) (operand : Parser Tree) :
    Nat → Parser (List (ω × Tree))
  | 0, ts => .ok ([], ts)
  | _ + 1, [] => .ok ([], [])
  | fuel + 1, t :: ts =>
    match operator? t.token with
    | none => .ok ([], t :: ts)
    | some op =>
      match operand ts with
      | .error e => .error e
      | .ok (x, rest) =>
        match operations operator? operand fuel rest with
        | .error e => .error e
        | .ok (more, rest) => .ok ((op, x) :: more, rest)

/-- Reads an operand and then operators with operands, and joins them. -/
def chain {ω : Type} (operator? : Token → Option ω) (join : Tree → List (ω × Tree) → Tree)
    (operand : Parser Tree) : Parser Tree := fun ts =>
  match operand ts with
  | .error e => .error e
  | .ok (first, rest) =>
    match operations operator? operand rest.length rest with
    | .error e => .error e
    | .ok (more, rest) => .ok (join first more, rest)

/-- The parsers for what opens a level. -/
structure Level where
  /-- A whole expression. -/
  expression : Parser Tree
  /-- The operand of `not`. -/
  negated : Parser Tree
  /-- The operand of a sign, and of `**` on its right. -/
  signed : Parser Tree

/-! ## §2. Operators. -/

/-- The operators that multiply. -/
def productOp? : Token → Option BinaryOp
  | .symbol .star => some .mul
  | .symbol .slash => some .div
  | .symbol .doubleSlash => some .floorDiv
  | .symbol .percent => some .mod
  | _ => none

/-- The operators that add. -/
def sumOp? : Token → Option BinaryOp
  | .symbol .plus => some .add
  | .symbol .minus => some .sub
  | _ => none

/-- The operators that compare. -/
def compareOp? : Token → Option CompareOp
  | .symbol .eqEq => some .eq
  | .symbol .notEq => some .ne
  | .symbol .less => some .lt
  | .symbol .lessEq => some .le
  | .symbol .greater => some .gt
  | .symbol .greaterEq => some .ge
  | _ => none

/-- A symbol as the only operator of its level. -/
def symbolOp? (s : Symbol) (t : Token) : Option Unit :=
  if t = .symbol s then some () else none

/-- The sign that an operand begins with. -/
def signOp? : Token → Option UnaryOp
  | .symbol .minus => some .neg
  | .symbol .plus => some .pos
  | _ => none

/-- Joins arithmetic operations from the left. -/
def joinBinary (first : Tree) (more : List (BinaryOp × Tree)) : Tree :=
  more.foldl (fun left (op, right) => .binary op left right) first

/-- Joins comparisons into one chain. -/
def joinCompare (first : Tree) (more : List (CompareOp × Tree)) : Tree :=
  if more.isEmpty then first else .compare first more

/-- Joins conjunctions from the left. -/
def joinBoth (first : Tree) (more : List (Unit × Tree)) : Tree :=
  more.foldl (fun left (_, right) => .both left right) first

/-- Joins disjunctions from the left. -/
def joinEither (first : Tree) (more : List (Unit × Tree)) : Tree :=
  more.foldl (fun left (_, right) => .either left right) first

/-! ## §3. Operands. -/

/-- The text literals at the front of the tokens, put together, and what is left. -/
def adjoined : List Located → String × List Located
  | ⟨.str s, _⟩ :: rest =>
    let (more, left) := adjoined rest
    (s ++ more, left)
  | ts => ("", ts)

/-- Reads arguments up to the closing parenthesis, at most `fuel` of them. -/
def arguments (stop : Nat) (inner : Level) : Nat → Parser (List Tree)
  | 0, ts => reject stop .commaOrRightParen ts
  | fuel + 1, ts =>
    match inner.expression ts with
    | .error e => .error e
    | .ok (x, rest) =>
      match after? .comma rest with
      | some rest =>
        match after? .rightParen rest with
        | some rest => .ok ([x], rest)
        | none =>
          match arguments stop inner fuel rest with
          | .error e => .error e
          | .ok (more, rest) => .ok (x :: more, rest)
      | none =>
        match require stop .rightParen .commaOrRightParen rest with
        | .error e => .error e
        | .ok rest => .ok ([x], rest)

/-- Reads a literal, a name or an expression in parentheses. -/
def primary (stop : Nat) (inner : Level) : Parser Tree
  | ⟨.int n, _⟩ :: rest => .ok (.literal (.int n), rest)
  | ⟨.float x, _⟩ :: rest => .ok (.literal (.float x), rest)
  | ⟨.str s, _⟩ :: rest =>
    let (more, left) := adjoined rest
    .ok (.literal (.str (s ++ more)), left)
  | ⟨.ident n, _⟩ :: rest => .ok (.name n, rest)
  | ⟨.symbol .trueWord, _⟩ :: rest => .ok (.literal (.bool true), rest)
  | ⟨.symbol .falseWord, _⟩ :: rest => .ok (.literal (.bool false), rest)
  | ⟨.symbol .noneWord, _⟩ :: rest => .ok (.literal .none, rest)
  | ⟨.symbol .leftParen, _⟩ :: rest =>
    match inner.expression rest with
    | .error e => .error e
    | .ok (x, rest) =>
      match require stop .rightParen .rightParen rest with
      | .error e => .error e
      | .ok rest => .ok (x, rest)
  | ts => reject stop .operand ts

/-- Reads the calls, attributes and positions behind an operand, at most `fuel` of them. -/
def suffixes (stop : Nat) (inner : Level) : Nat → Tree → Parser Tree
  | 0, x, ts => .ok (x, ts)
  | fuel + 1, x, ts =>
    match ts with
    | ⟨.symbol .leftParen, _⟩ :: rest =>
      match after? .rightParen rest with
      | some rest => suffixes stop inner fuel (.call x []) rest
      | none =>
        match arguments stop inner (rest.length + 1) rest with
        | .error e => .error e
        | .ok (args, rest) => suffixes stop inner fuel (.call x args) rest
    | ⟨.symbol .dot, _⟩ :: ⟨.ident n, _⟩ :: rest =>
      suffixes stop inner fuel (.attribute x n) rest
    | ⟨.symbol .dot, _⟩ :: rest => reject stop .attributeName rest
    | ⟨.symbol .leftBracket, _⟩ :: rest =>
      match inner.expression rest with
      | .error e => .error e
      | .ok (position, rest) =>
        match require stop .rightBracket .rightBracket rest with
        | .error e => .error e
        | .ok rest => suffixes stop inner fuel (.index x position) rest
    | ts => .ok (x, ts)

/-- Reads an operand with what is attached to it. -/
def postfixed (stop : Nat) (inner : Level) : Parser Tree := fun ts =>
  match primary stop inner ts with
  | .error e => .error e
  | .ok (x, rest) => suffixes stop inner rest.length x rest

/-- Reads an operand and perhaps `**` with an exponent. -/
def powers (stop : Nat) (inner : Level) : Parser Tree := fun ts =>
  match postfixed stop inner ts with
  | .error e => .error e
  | .ok (base, rest) =>
    match after? .doubleStar rest with
    | none => .ok (base, rest)
    | some rest =>
      match inner.signed rest with
      | .error e => .error e
      | .ok (exponent, rest) => .ok (.binary .pow base exponent, rest)

/-! ## §4. Expressions. -/

/-- Reads an operand with its signs. -/
def signs (stop : Nat) (inner : Level) : Parser Tree
  | t :: rest =>
    match signOp? t.token with
    | some op =>
      match inner.signed rest with
      | .error e => .error e
      | .ok (x, rest) => .ok (.unary op x, rest)
    | none => powers stop inner (t :: rest)
  | [] => powers stop inner []

/-- Reads products. -/
def products (stop : Nat) (inner : Level) : Parser Tree :=
  chain productOp? joinBinary (signs stop inner)

/-- Reads sums. -/
def sums (stop : Nat) (inner : Level) : Parser Tree :=
  chain sumOp? joinBinary (products stop inner)

/-- Reads comparisons. -/
def comparisons (stop : Nat) (inner : Level) : Parser Tree :=
  chain compareOp? joinCompare (sums stop inner)

/-- Reads negations. -/
def negations (stop : Nat) (inner : Level) : Parser Tree := fun ts =>
  match after? .notWord ts with
  | some rest =>
    match inner.negated rest with
    | .error e => .error e
    | .ok (x, rest) => .ok (.unary .not x, rest)
  | none => comparisons stop inner ts

/-- Reads conjunctions. -/
def conjunctions (stop : Nat) (inner : Level) : Parser Tree :=
  chain (symbolOp? .andWord) joinBoth (negations stop inner)

/-- Reads disjunctions. -/
def disjunctions (stop : Nat) (inner : Level) : Parser Tree :=
  chain (symbolOp? .orWord) joinEither (conjunctions stop inner)

/-- Reads a choice, or what it is made of. -/
def choices (stop : Nat) (inner : Level) : Parser Tree := fun ts =>
  match disjunctions stop inner ts with
  | .error e => .error e
  | .ok (yes, rest) =>
    match after? .ifWord rest with
    | none => .ok (yes, rest)
    | some rest =>
      match disjunctions stop inner rest with
      | .error e => .error e
      | .ok (cond, rest) =>
        match require stop .elseWord .elseWord rest with
        | .error e => .error e
        | .ok rest =>
          match inner.expression rest with
          | .error e => .error e
          | .ok (no, rest) => .ok (.choose cond yes no, rest)

/-! ## §5. Levels. -/

/-- The parser of a level that may not be opened. -/
def tooDeep : Parser Tree := fun _ => .error .nestingTooDeep

/-- The parsers for what opens a level, while `n` levels may still be opened. -/
def parsers (stop : Nat) : Nat → Level
  | 0 => ⟨tooDeep, tooDeep, tooDeep⟩
  | n + 1 =>
    let inner := parsers stop n
    ⟨choices stop inner, negations stop inner, signs stop inner⟩

/-- The tree of a list of tokens. -/
def parseTokens (ts : Tokens) : Outcome Tree :=
  match (parsers ts.stop maxNesting).expression ts.items with
  | .error e => .error e
  | .ok (x, []) => .ok x
  | .ok (_, rest) => reject ts.stop .theEnd rest

/-- The tree of a text. -/
def parse (text : String) : Outcome Tree :=
  match lex text.toList with
  | .error e => .error e
  | .ok ts => parseTokens ts

end Fanout.Expr
