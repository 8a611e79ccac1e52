import SourceRecovery.ClassFile
import SourceRecovery.Element.Basic

/-!
# Sites

An element together with the method and the class file it was decompiled from. Moving to another
element keeps both, so nested generation always knows where it is.
-/

namespace SourceRecovery

structure Site where
  classFile : ClassFile
  method : Method
  element : Element

namespace Site

def focus (site : Site) (element : Element) : Site := { site with element := element }

/-- `Class.method`. -/
def location (site : Site) : String := site.classFile.name.text ++ "." ++ site.method.name

end Site

end SourceRecovery
