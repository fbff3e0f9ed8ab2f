/-!
# Affixes

A lead and a trail that database names carry and generated names do not.
-/

namespace TableStruct

/-- What is taken off the two ends of a name, where it is present. -/
structure Affix where
  /-- Taken off the start. -/
  lead : String := ""
  /-- Taken off the end. -/
  trail : String := ""
  deriving DecidableEq, Repr

namespace Affix

/-- Takes the lead off a text that begins with it. -/
def stripLead (lead cs : List Char) : List Char :=
  (lead.isPrefixOf? cs).getD cs

/-- Takes the trail off a text that ends with it. -/
def stripTrail (trail cs : List Char) : List Char :=
  (trail.isSuffixOf? cs).getD cs

/-- Takes off the lead, and then the trail of what is left. -/
def strip (a : Affix) (raw : String) : String :=
  String.ofList (stripTrail a.trail.toList (stripLead a.lead.toList raw.toList))

end Affix

end TableStruct
