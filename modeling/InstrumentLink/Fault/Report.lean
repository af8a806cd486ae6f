import InstrumentLink.Fault

/-!
# Reporting a fault

The wording of a failed host lookup belongs to the system and differs between systems. A report
puts `<lookup>` in its place.
-/

namespace InstrumentLink

/-- What stands before the first place where one of the marks starts, if there is such a place. -/
def textBeforeFirst (marks : List (List Char)) : List Char → Option (List Char)
  | [] => none
  | c :: rest =>
      if marks.any (·.isPrefixOf (c :: rest)) then some []
      else (textBeforeFirst marks rest).map (c :: ·)

/-- How the system's wording of a failed lookup starts. -/
def lookupWordings : List (List Char) :=
  ["failed to lookup address information".toList, "file name contained an unexpected NUL".toList]

/-- The detail of a failed lookup without the system's wording. -/
def withoutLookupWording (detail : String) : String :=
  match textBeforeFirst lookupWordings detail.toList with
  | some kept => String.ofList kept ++ "<lookup>"
  | none => detail

/-- The text of a fault as reports give it. -/
def Fault.report : Fault → String
  | .hostResolution detail => (Fault.hostResolution (withoutLookupWording detail)).message
  | fault => fault.message

end InstrumentLink
