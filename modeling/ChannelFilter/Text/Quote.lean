import ChannelFilter.Text.Blank

/-!
# Quotes

A string in a filter expression stands between two quotes of one sort. What it denotes is the text
without any quote at its ends, of whichever sort and however many, so a string that is not closed
denotes the same as the closed one.
-/
namespace ChannelFilter.Text

def isQuote (c : Char) : Bool :=
  c == '"' || c == '\''

/-- The text without the quotes at either end. -/
def unquoted (text : String) : String :=
  String.ofList (strip isQuote text.toList)

end ChannelFilter.Text
