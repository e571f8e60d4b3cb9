/-
Reasons why a text is refused.

The readers of regular expressions, of JSON and of configurations tell in words of their own
what is wrong with a text.  These words depend on nothing but the text, and whatever they
are, they stand at the end of messages about it.
-/

namespace CompactSchema

class Diagnosis where
  pattern (source : String) : String
  json (text : String) : String
  config (text : String) : String

@[reducible] def Diagnosis.brief : Diagnosis where
  pattern _ := "no regular expression"
  json _ := "no JSON"
  config _ := "no configuration"

end CompactSchema
