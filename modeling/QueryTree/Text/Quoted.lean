/-! Text between two marks, in which a mark inside the text is written twice. -/
namespace QueryTree.Text

def doubled (mark : Char) : List Char → List Char
  | [] => []
  | c :: rest => if c = mark then mark :: mark :: doubled mark rest else c :: doubled mark rest

def quoted (text : String) : String :=
  String.ofList ('\'' :: doubled '\'' text.toList ++ ['\''])

end QueryTree.Text
