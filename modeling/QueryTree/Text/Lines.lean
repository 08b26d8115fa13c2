/-! Lines of a text. A line ends at a line feed, with the carriage return before it if there is one.
-/
namespace QueryTree.Text

def lineParts : List Char → List (List Char)
  | [] => [[]]
  | '\r' :: '\n' :: rest => [] :: lineParts rest
  | '\n' :: rest => [] :: lineParts rest
  | c :: rest =>
    match lineParts rest with
    | [] => [[c]]
    | line :: lines => (c :: line) :: lines

def lines (text : List Char) : List (List Char) :=
  let parts := lineParts text
  if parts.getLast? = some [] then parts.dropLast else parts

end QueryTree.Text
