/-
  How a text begins and ends.
-/

namespace SinkCheck.Text

/-- Does the text begin with `head`? -/
def beginsWith (head s : String) : Bool := head.toList.isPrefixOf s.toList

/-- Does the text end with `tail`? -/
def endsWith (tail s : String) : Bool := tail.toList.isSuffixOf s.toList

theorem beginsWith_iff (head s : String) : beginsWith head s = true ↔ head.toList <+: s.toList :=
  List.isPrefixOf_iff_prefix

theorem endsWith_iff (tail s : String) : endsWith tail s = true ↔ tail.toList <:+ s.toList :=
  List.isSuffixOf_iff_suffix

end SinkCheck.Text
