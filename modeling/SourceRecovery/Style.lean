import SourceRecovery.Type.Basic

/-!
# Code style

How types are named and whether `this` is left out. A style is any naming function; the two options
of `StyleOptions` give the usual ones.
-/

namespace SourceRecovery

structure CodeStyle where
  typeName : JavaType → String
  omitsThis : Bool

structure StyleOptions where
  /-- Names are written without their package. -/
  simpleNames : Bool := true
  /-- Calls on `this` are written without it. -/
  omitThis : Bool := true
deriving DecidableEq

namespace StyleOptions

def style (options : StyleOptions) : CodeStyle where
  typeName t := if options.simpleNames then t.simpleName else t.name
  omitsThis := options.omitThis

end StyleOptions

end SourceRecovery
