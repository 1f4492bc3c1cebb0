import PageTape.Script.Generate
import PageTape.Script.Playwright
import PageTape.Script.Cypress
import PageTape.Script.Pest
import PageTape.Script.Pytest

/-!
The frameworks that scripts can be written for.
-/

namespace PageTape.Script

/-- The dialects, in the order in which they are listed. -/
def dialects : List Dialect := [playwright, cypress, pest, pytest]

/-- The dialect of a name. -/
def dialect? (name : String) : Option Dialect := dialects.find? fun d => d.name == name

end PageTape.Script
