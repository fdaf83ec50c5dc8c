import ChannelFilter.Text.CodeRange

/-!
# Blank characters

A blank is a character with the property White_Space. Blanks separate tokens and are trimmed from
both ends of an input line and of a number's text.
-/
namespace ChannelFilter.Text

/-- The ranges of the property White_Space, in increasing order. -/
def blankTable : List CodeRange :=
  [⟨0x09, 0x0D⟩, ⟨0x20, 0x20⟩, ⟨0x85, 0x85⟩, ⟨0xA0, 0xA0⟩, ⟨0x1680, 0x1680⟩, ⟨0x2000, 0x200A⟩,
   ⟨0x2028, 0x2029⟩, ⟨0x202F, 0x202F⟩, ⟨0x205F, 0x205F⟩, ⟨0x3000, 0x3000⟩]

def isBlank (c : Char) : Bool :=
  inTable blankTable c

/-- The characters of `cs` without those at either end that satisfy `p`. -/
def strip (p : Char → Bool) (cs : List Char) : List Char :=
  ((cs.dropWhile p).reverse.dropWhile p).reverse

def trim (text : String) : String :=
  String.ofList (strip isBlank text.toList)

@[simp] theorem strip_nil (p : Char → Bool) : strip p [] = [] := rfl

end ChannelFilter.Text
