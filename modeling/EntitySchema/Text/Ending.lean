set_option autoImplicit false

namespace EntitySchema

def hasEnding (ending text : String) : Bool := ending.toList.isSuffixOf text.toList

end EntitySchema
