import RecordQuery.Binary64.Numeral
import RecordQuery.Text.CharSet

/-!
# Arithmetic expressions

`Expression.read?` reads sums, products, signs and powers of decimal numerals; `Expression.value`
evaluates them.  A power binds tighter than a sign on its left and associates to the right.

    sum     := product (('+' | '-') product)*
    product := signed (('*' | '/' | '%') signed)*
    signed  := ('-' | '+') signed | power
    power   := atom ('^' signed)?
    atom    := numeral | '(' sum ')'

Tokens are read first (`Token.readAll?`); every reader of tokens consumes at least one of them.
-/

namespace RecordQuery

/-- An arithmetic expression. -/
inductive Expression where
  | literal (x : Float)
  | neg (a : Expression)
  | add (a b : Expression)
  | sub (a b : Expression)
  | mul (a b : Expression)
  | div (a b : Expression)
  | mod (a b : Expression)
  | pow (a b : Expression)

namespace Expression

/-- The value of an expression. -/
def value : Expression → Float
  | .literal x => x
  | .neg a => -a.value
  | .add a b => a.value + b.value
  | .sub a b => a.value - b.value
  | .mul a b => a.value * b.value
  | .div a b => a.value / b.value
  | .mod a b => Binary64.remainder a.value b.value
  | .pow a b => Float.pow a.value b.value

/-- A numeral, or a character of the syntax. -/
inductive Token where
  | numeral (x : Float)
  | mark (c : Char)

namespace Token

/-- Whether a character can be part of a numeral. -/
def isNumeralChar (c : Char) : Bool := c.isDigit || c == '.'

/-- The value of digits with at most one point. -/
def numeral? (cs : List Char) : Option Float :=
  (Binary64.readNumeral? cs).map fun n => Binary64.nearest n.digits n.exponent

/-- A numeral in front of tokens, if there are characters of one. -/
def putNumeral? (cs : List Char) (tokens : List Token) : Option (List Token) :=
  if cs = [] then some tokens else (numeral? cs).map fun x => .numeral x :: tokens

/-- The tokens of a text, `pending` being the characters of a numeral that has been begun. -/
def readFrom? (pending : List Char) : List Char → Option (List Token)
  | [] => putNumeral? pending []
  | c :: cs =>
    if isNumeralChar c then readFrom? (pending ++ [c]) cs
    else
      (readFrom? [] cs).bind fun tokens =>
        putNumeral? pending (if Text.isBlank c then tokens else .mark c :: tokens)

/-- The tokens of a text; white space separates numerals and is left out. -/
def readAll? (text : String) : Option (List Token) := readFrom? [] text.toList

end Token

/-- An expression read from the front of a list of tokens, and the rest, which is shorter. -/
structure Reading (tokens : List Token) where
  expression : Expression
  rest : List Token
  shorter : rest.length < tokens.length

/-- The same reading seen from a longer list. -/
def Reading.widen {inner outer : List Token} (h : inner.length ≤ outer.length)
    (reading : Reading inner) : Reading outer :=
  { expression := reading.expression
    rest := reading.rest
    shorter := Nat.lt_of_lt_of_le reading.shorter h }

/-- The operation of a mark between the terms of a sum. -/
def sumOperation? : Char → Option (Expression → Expression → Expression)
  | '+' => some .add
  | '-' => some .sub
  | _ => none

/-- The operation of a mark between the factors of a product. -/
def productOperation? : Char → Option (Expression → Expression → Expression)
  | '*' => some .mul
  | '/' => some .div
  | '%' => some .mod
  | _ => none

mutual

/-- A sum. -/
def sum? (tokens : List Token) : Option (Reading tokens) :=
  match product? tokens with
  | some first => moreTerms? tokens first
  | none => none
termination_by (tokens.length, 5)
decreasing_by
  · exact Prod.Lex.right _ (by decide)
  · exact Prod.Lex.left _ _ first.shorter

/-- The terms behind the first ones of a sum. -/
def moreTerms? (tokens : List Token) (sofar : Reading tokens) : Option (Reading tokens) :=
  match hrest : sofar.rest with
  | .mark c :: rest =>
    match sumOperation? c with
    | some operation =>
      match product? rest with
      | some term =>
        moreTerms? tokens
          { expression := operation sofar.expression term.expression
            rest := term.rest
            shorter := by
              have h₁ := term.shorter
              have h₂ := sofar.shorter
              simp only [hrest, List.length_cons] at h₂
              omega }
      | none => none
    | none => some sofar
  | _ => some sofar
termination_by (sofar.rest.length, 6)
decreasing_by
  all_goals simp only [hrest, List.length_cons]
  all_goals first
    | exact Prod.Lex.left _ _ (Nat.lt_succ_self _)
    | exact Prod.Lex.left _ _ (Nat.lt_succ_of_lt term.shorter)

/-- A product. -/
def product? (tokens : List Token) : Option (Reading tokens) :=
  match signed? tokens with
  | some first => moreFactors? tokens first
  | none => none
termination_by (tokens.length, 3)
decreasing_by
  · exact Prod.Lex.right _ (by decide)
  · exact Prod.Lex.left _ _ first.shorter

/-- The factors behind the first ones of a product. -/
def moreFactors? (tokens : List Token) (sofar : Reading tokens) : Option (Reading tokens) :=
  match hrest : sofar.rest with
  | .mark c :: rest =>
    match productOperation? c with
    | some operation =>
      match signed? rest with
      | some factor =>
        moreFactors? tokens
          { expression := operation sofar.expression factor.expression
            rest := factor.rest
            shorter := by
              have h₁ := factor.shorter
              have h₂ := sofar.shorter
              simp only [hrest, List.length_cons] at h₂
              omega }
      | none => none
    | none => some sofar
  | _ => some sofar
termination_by (sofar.rest.length, 4)
decreasing_by
  all_goals simp only [hrest, List.length_cons]
  all_goals first
    | exact Prod.Lex.left _ _ (Nat.lt_succ_self _)
    | exact Prod.Lex.left _ _ (Nat.lt_succ_of_lt factor.shorter)

/-- A power with signs in front. -/
def signed? (tokens : List Token) : Option (Reading tokens) :=
  match tokens with
  | .mark '-' :: rest =>
    (signed? rest).map fun found =>
      { expression := .neg found.expression
        rest := found.rest
        shorter := Nat.lt_succ_of_lt found.shorter }
  | .mark '+' :: rest => (signed? rest).map (Reading.widen (Nat.le_succ _))
  | tokens => power? tokens
termination_by (tokens.length, 2)

/-- An atom, or a power of one. -/
def power? (tokens : List Token) : Option (Reading tokens) :=
  match atom? tokens with
  | some base =>
    match hrest : base.rest with
    | .mark '^' :: rest =>
      (signed? rest).map fun exponent =>
        { expression := .pow base.expression exponent.expression
          rest := exponent.rest
          shorter := by
            have h₁ := exponent.shorter
            have h₂ := base.shorter
            simp only [hrest, List.length_cons] at h₂
            omega }
    | _ => some base
  | none => none
termination_by (tokens.length, 1)
decreasing_by
  · exact Prod.Lex.right _ (by decide)
  · have h₂ := base.shorter
    simp only [hrest, List.length_cons] at h₂
    exact Prod.Lex.left _ _ (by omega)

/-- A numeral, or a sum in parentheses. -/
def atom? (tokens : List Token) : Option (Reading tokens) :=
  match tokens with
  | .numeral x :: rest =>
    some { expression := .literal x, rest, shorter := Nat.lt_succ_self _ }
  | .mark '(' :: rest =>
    match sum? rest with
    | some inside =>
      match hrest : inside.rest with
      | .mark ')' :: after =>
        some {
          expression := inside.expression
          rest := after
          shorter := by
            have h := inside.shorter
            simp only [hrest, List.length_cons] at h ⊢
            omega }
      | _ => none
    | none => none
  | _ => none
termination_by (tokens.length, 0)

end

/-- Reads an expression that makes up a whole text. -/
def read? (text : String) : Option Expression :=
  match Token.readAll? text with
  | some tokens =>
    match sum? tokens with
    | some found => if found.rest.isEmpty then some found.expression else none
    | none => none
  | none => none

/-- The value of the expression that a text spells. -/
def evaluate? (text : String) : Option Float := (read? text).map value

end Expression

end RecordQuery
