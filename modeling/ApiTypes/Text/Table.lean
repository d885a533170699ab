import ApiTypes.Text.Basic
/-!
Tables of code points, written as rows of hexadecimal numbers with semicolons between them.
-/
namespace ApiTypes.Text

/- `row` and `number` are what has been read of a row and of a number, the row in reverse. -/
def rowsFrom (row : List Nat) (number : Option Nat) : Text → List (List Nat)
  | [] => [(number.toList ++ row).reverse]
  | c :: rest =>
    match hexValue? c with
    | some d => rowsFrom row (some (number.getD 0 * 16 + d)) rest
    | none =>
      let row := number.toList ++ row
      if c == ';' then row.reverse :: rowsFrom [] none rest else rowsFrom row none rest

def rows (table : String) : List (List Nat) := rowsFrom [] none table.toList

/-- The ranges of a table with one or two numbers in each row: a range's ends, or its only member. -/
def ranges (table : String) : List (Nat × Nat) :=
  (rows table).filterMap fun
    | [a] => some (a, a)
    | [a, b] => some (a, b)
    | _ => none

end ApiTypes.Text
