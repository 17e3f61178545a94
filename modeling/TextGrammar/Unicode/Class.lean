import TextGrammar.Unicode.Property

set_option autoImplicit false

namespace TextGrammar.Unicode

def alphabetic : CodePoints := withProperty "Alphabetic"

def numeric : CodePoints := inCategories ["Nd", "Nl", "No"]

def decimalDigits : CodePoints := inCategories ["Nd"]

def whiteSpace : CodePoints := withProperty "White_Space"

def wordPoints : CodePoints :=
  CodePoints.unions [alphabetic, inCategories ["Mn", "Mc", "Me", "Nd", "Pc"],
    withProperty "Join_Control"]

-- What a quoted text does not show as it is: characters without a shape of their own, blanks other
-- than the space, and marks that attach to the character before them.
def unprintable : CodePoints :=
  CodePoints.difference
    (CodePoints.union (inCategories ["Cc", "Cf", "Cs", "Co", "Cn", "Zl", "Zp", "Zs"])
      (withProperty "Grapheme_Extend"))
    (CodePoints.single 0x20)

end TextGrammar.Unicode
