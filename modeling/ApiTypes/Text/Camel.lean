import ApiTypes.Text.Letter
/-!
Upper camel case. A text is cut into words, and each word is written with its first character in upper case and
the others in lower case.
-/
namespace ApiTypes.Text

inductive WordCase where
  | none
  | lower
  | upper
deriving DecidableEq

def WordCase.after (w : WordCase) (c : Char) : WordCase :=
  if isLowercase c then .lower else if isUppercase c then .upper else w

/- `word` is the word so far, in reverse. A word ends between a lower-case character and an upper-case one, and
   before the last of several upper-case characters if a lower-case one follows it. -/
def wordsFrom (w : WordCase) (word : Text) : Text → List Text
  | [] => if word.isEmpty then [] else [word.reverse]
  | c :: rest =>
    match rest.head? with
    | none => [(c :: word).reverse]
    | some next =>
      if w.after c == .lower && isUppercase next then (c :: word).reverse :: wordsFrom .none [] rest
      else if w == .upper && isUppercase c && isLowercase next then word.reverse :: wordsFrom .none [c] rest
      else wordsFrom (w.after c) (c :: word) rest

def stretchesFrom (stretch : Text) : Text → List Text
  | [] => [stretch.reverse]
  | c :: rest =>
    if isAlphanumeric c then stretchesFrom (c :: stretch) rest else stretch.reverse :: stretchesFrom [] rest

def words (t : Text) : List Text := (stretchesFrom [] t).flatMap (wordsFrom .none [])

/-- Lower case, with the final form of a sigma at the end. -/
def lowerTail : Text → Text
  | [] => []
  | c :: rest => (if c == 'Σ' && rest.isEmpty then ['ς'] else toLowercase c) ++ lowerTail rest

def capitalize : Text → Text
  | [] => []
  | c :: rest => toUppercase c ++ lowerTail rest

def camel (t : Text) : Text := (words t).flatMap capitalize

end ApiTypes.Text
