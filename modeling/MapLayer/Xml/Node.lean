/-! XML as a tree, and its text without any white space of its own. -/

namespace MapLayer

inductive XmlNode
  | text (s : String)
  | element (name : String) (attributes : List (String × String)) (children : List XmlNode)

namespace XmlNode

def escape : Char → List Char
  | '<' => ['&', 'l', 't', ';']
  | '>' => ['&', 'g', 't', ';']
  | '&' => ['&', 'a', 'm', 'p', ';']
  | '\'' => ['&', 'a', 'p', 'o', 's', ';']
  | '"' => ['&', 'q', 'u', 'o', 't', ';']
  | c => [c]

def escapeAll (s : String) : List Char := s.toList.flatMap escape

def attributeText (a : String × String) : List Char :=
  ' ' :: (a.1.toList ++ ['=', '"'] ++ escapeAll a.2 ++ ['"'])

def startTag (name : String) (attributes : List (String × String)) : List Char :=
  '<' :: (name.toList ++ attributes.flatMap attributeText ++ ['>'])

def endTag (name : String) : List Char :=
  '<' :: '/' :: (name.toList ++ ['>'])

mutual

/-- The text of a tree. An element without children is written with both tags. -/
def render : XmlNode → List Char
  | text s => escapeAll s
  | element name attributes children =>
    startTag name attributes ++ renderAll children ++ endTag name

def renderAll : List XmlNode → List Char
  | [] => []
  | node :: nodes => render node ++ renderAll nodes

end

def leaf (name s : String) : XmlNode := element name [] [text s]

end XmlNode

end MapLayer
