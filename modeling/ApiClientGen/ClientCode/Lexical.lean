import ApiClientGen.Text.Blank

/-!
# Words, literals and comments of C#

How names, texts and descriptions of a document are written in source text: a
reserved word is marked with `@`, a text is escaped for a regular string
literal, and a description becomes one line of an XML documentation comment.
-/

namespace ApiClientGen
namespace ClientCode

def keywords : List String :=
  ["abstract", "as", "base", "bool", "break", "byte", "case", "catch", "char",
    "checked", "class", "const", "continue", "decimal", "default", "delegate",
    "do", "double", "else", "enum", "event", "explicit", "extern", "false",
    "finally", "fixed", "float", "for", "foreach", "goto", "if", "implicit",
    "in", "int", "interface", "internal", "is", "lock", "long", "namespace",
    "new", "null", "object", "operator", "out", "override", "params", "private",
    "protected", "public", "readonly", "ref", "return", "sbyte", "sealed",
    "short", "sizeof", "stackalloc", "static", "string", "struct", "switch",
    "this", "throw", "true", "try", "typeof", "uint", "ulong", "unchecked",
    "unsafe", "ushort", "using", "virtual", "void", "volatile", "while"]

/-- A name as an identifier: a reserved word gets an `@` in front. -/
def identifier (name : String) : String :=
  if keywords.contains name then "@" ++ name else name

/-- One character inside a regular string literal. -/
def literalChar (c : Char) : List Char :=
  if c = '\\' then ['\\', '\\'] else if c = '"' then ['\\', '"'] else [c]

/-- A text for the inside of a regular string literal. -/
def literalText (text : String) : String :=
  String.ofList (text.toList.flatMap literalChar)

/-- One character of a documentation comment. -/
def commentChar (c : Char) : List Char :=
  if c = '&' then "&amp;".toList
  else if c = '<' then "&lt;".toList
  else if c = '>' then "&gt;".toList
  else [c]

/-- A text on one line of a documentation comment: its words with single spaces
between them, escaped for XML. -/
def commentText (text : String) : String :=
  String.ofList
    ((Text.joinWith [' '] (Text.words text.toList)).flatMap commentChar)

end ClientCode
end ApiClientGen
