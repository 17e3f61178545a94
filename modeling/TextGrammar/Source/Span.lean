set_option autoImplicit false

namespace TextGrammar

-- Offsets count the bytes of the text in UTF-8.
structure Span where
  start : Nat
  length : Nat
deriving DecidableEq, Repr, Inhabited

namespace Span

def range (start stop : Nat) : Span := ⟨start, stop - start⟩

def point (offset : Nat) : Span := ⟨offset, 1⟩

def stop (span : Span) : Nat := span.start + span.length

def isEmpty (span : Span) : Bool := span.length == 0

theorem stop_range (start stop : Nat) (ordered : start ≤ stop) :
    (range start stop).stop = stop := by
  simp only [range, Span.stop]
  omega

end Span

end TextGrammar
