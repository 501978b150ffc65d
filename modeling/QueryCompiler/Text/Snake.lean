import QueryCompiler.Text.Class

/-!
# Snake case

Words are joined by underscores in lower case. A new word begins at an upper-case character or a
digit beside a lower-case one, and behind anything that is neither a letter nor a number.
-/

namespace QueryCompiler.Text.Snake

/-- Whether the character of that number is in lower case; there may be none. -/
def isLowerAt (all : Array Char) (i : Nat) : Bool := (all[i]?.map isLowercase).getD false

/-- Whether one of the two neighbours of the character at `offset` is in lower case. The offset
counts bytes of the encoded text, so beyond ASCII it points further on than the character stands. -/
def besideLower (all : Array Char) (offset : Nat) : Bool :=
  isLowerAt all (offset + 1) || (0 < offset && isLowerAt all (offset - 1))

/-- Converts the characters at `offset` and behind it; `fresh` if a word has just begun. -/
def convert (all : Array Char) (offset : Nat) (fresh : Bool) : List Char → List Char
  | [] => []
  | c :: rest =>
    let next := offset + c.utf8Size
    if !isAlphanumeric c then
      -- A run of separators is one underscore, and none at the start.
      if fresh then convert all next true rest else '_' :: convert all next true rest
    -- A digit is its own upper case, so it too begins a word beside a lower-case letter.
    else if !fresh && c == asciiUpper c && besideLower all offset then
      '_' :: asciiLower c :: convert all next false rest
    else asciiLower c :: convert all next false rest

/-- A list without the elements at its end that pass a test. -/
def dropEnd (test : Char → Bool) (cs : List Char) : List Char := (cs.reverse.dropWhile test).reverse

end Snake

def snakeCase (s : String) : String :=
  let cs := s.toList
  String.ofList (Snake.convert cs.toArray 0 true (Snake.dropEnd (!isAlphanumeric ·) cs))

end QueryCompiler.Text
