import ApiDrift.Document.Plain
import ApiDrift.Exchange.SpecData
import ApiDrift.Json.Writer

/-!
# A parameter as text

The text by which a change shows a whole parameter: one line of ASCII data with its fields under
their exchange names, absent ones left out. A whole number with too many digits has no text.
-/

namespace ApiDrift

open Exchange

/-- The fields of a parameter that are present. -/
def Parameter.presentFields (p : Parameter) : Document.Entries :=
  (p.toDocument .camel).entries.filter fun e => !e.2.isNull

/-- A parameter as one line of data. -/
def Parameter.line (p : Parameter) : Except PlainFault String := do
  let plain ← (Document.map p.presentFields).plain
  if plain.isShowable then return Json.render .inlineAscii plain
  else throw .numberTooLong

end ApiDrift
