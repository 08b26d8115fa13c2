/-! The length of a text in UTF-8. -/
namespace QueryTree.Text

def byteLength : List Char → Nat
  | [] => 0
  | c :: rest => c.utf8Size + byteLength rest

end QueryTree.Text
