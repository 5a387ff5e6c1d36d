namespace Segmentation.Text

def lowerAscii (s : String) : String :=
  String.ofList (s.toList.map Char.toLower)

def upperAscii (s : String) : String :=
  String.ofList (s.toList.map Char.toUpper)

def sameIgnoringCase (a b : String) : Bool :=
  a.toList.map Char.toLower == b.toList.map Char.toLower

end Segmentation.Text
