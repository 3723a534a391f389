import Schematic.Error
import Schematic.Json.Room

/-!
# The value of a tag

A tag's text is a JSON value if it reads as one, and a plain string otherwise. A text that nests too
many containers has no value.
-/

namespace Schematic.Tag

/-- The value of a text for which there is room. -/
def value (text : String) : Json :=
  (Json.read? text.toList).getD (.str text)

def valueWithin [Room] (text : String) : Except Failure Json :=
  if Json.exceedsRoom text.toList then .error .exhausted else .ok (value text)

theorem valueWithin_unlimited (text : String) : valueWithin text = .ok (value text) := rfl

end Schematic.Tag
