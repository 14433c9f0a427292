import BoundSql.Argument.Codec

/-!
# Tokens for keywords

Operators, connectives and kinds of joins may be given as keywords or as tokens.
A token is looked up without the blanks around it; connectives and kinds of
joins are looked up in any letter case. A token that names nothing is refused
with the token as it was given.
-/

namespace BoundSql

/-- The keyword of a vocabulary with a given symbol. -/
def withSymbol? {α : Type} (all : List α) (symbol : α → String) (s : String) : Option α :=
  all.find? fun keyword => symbol keyword == s

/-- The keyword found for a token, or the error that shows the token and the valid ones. -/
def foundFor {α : Type} (token : Value) (valid : List String) (found : Option α) : Except Error α :=
  match found with
  | some keyword => .ok keyword
  | none => .error (.unknownOperator (.text token.display) valid)

/-- The characters of a token without the blanks around it. -/
def tokenChars (token : Value) : List Char :=
  Text.strip token.display.toList

namespace Comparison

/-- Tokens that name an operator. -/
def validTokens : List String :=
  all.map symbol ++ aliases.map (·.1)

/-- The operator with a given spelling. -/
def ofSpelling? (s : String) : Option Comparison :=
  match aliases.lookup s with
  | some operator => some operator
  | none => withSymbol? all symbol s

/-- The operator a token names. -/
def ofToken : Value → Except Error Comparison
  | .keyword (.comparison operator) => .ok operator
  | token => foundFor token validTokens (ofSpelling? (String.ofList (tokenChars token)))

end Comparison

namespace Connective

/-- The connective a token names. -/
def ofToken : Value → Except Error Connective
  | .keyword (.connective connective) => .ok connective
  | token =>
      foundFor token (all.map symbol)
        (withSymbol? all symbol (String.ofList (Text.lower (tokenChars token))))

end Connective

namespace JoinKind

/-- The kind of a join that a token names. -/
def ofToken : Value → Except Error JoinKind
  | .keyword (.join kind) => .ok kind
  | token =>
      foundFor token (all.map symbol)
        (withSymbol? all symbol (String.ofList (Text.upper (tokenChars token))))

end JoinKind
end BoundSql
