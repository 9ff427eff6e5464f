import TagTemplate.Pattern.Reader
import TagTemplate.Pattern.Meaning
import TagTemplate.Pattern.Size

namespace TagTemplate.Pattern

def ofString? (s : String) : Option Pattern := do
  let t ← Tree.ofString? s
  if t.depth ≤ depthLimit then
    ((t.pattern? {}).map (·.1)).filter isSmall
  else none

end TagTemplate.Pattern
