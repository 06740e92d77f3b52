import ApiScaffold.Json.Quoted

/-!
String literals of the generated sources: in single quotes and in printable ASCII, with the escapes
of JSON but for the double quote, which stands for itself.
-/

namespace ApiScaffold.Literal

def escape (c : Char) : List Char :=
  if c = '\'' then ['\\', '\''] else if c = '"' then ['"'] else Json.escapeAscii c

def quote (s : String) : String := String.ofList ('\'' :: s.toList.flatMap escape ++ ['\''])

end ApiScaffold.Literal
