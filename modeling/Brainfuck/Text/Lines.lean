/-!
# Lines

Text that is printed consists of lines, each ended by a line feed.
-/

namespace Brainfuck

namespace Text

/-- A line, ended by a line feed. -/
def line (s : String) : String := s ++ "\n"

/-- Lines, each ended by a line feed. -/
def lines (ss : List String) : String := String.join (ss.map line)

end Text

end Brainfuck
