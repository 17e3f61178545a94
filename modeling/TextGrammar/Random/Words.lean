set_option autoImplicit false

namespace TextGrammar

-- At each index the 64-bit word that is drawn there.
abbrev Words := Nat → UInt64

namespace Words

def steps (first increment : UInt64) : Words := fun index => first + increment * UInt64.ofNat index

def script (words : List UInt64) : Words := fun index => words.getD index 0

end Words

end TextGrammar
