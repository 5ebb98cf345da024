/-! # Languages -/

namespace CallAtlas.Extract

/-- Whether files with this extension hold source that can be read: modules and stubs. -/
def isSourceExtension (extension : String) : Bool := extension == "py" || extension == "pyi"

end CallAtlas.Extract
