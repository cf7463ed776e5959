set_option autoImplicit false

/-! Sources put together from other sources. -/

namespace Stencil.Template

/-- What stands between two sources if nothing else is asked for. -/
def defaultSeparator : String := "\n\n"

/-- Sources one after the other with a separator between each two. -/
def compose (separator : Option String) (sources : List String) : String :=
  (separator.getD defaultSeparator).intercalate sources

end Stencil.Template
